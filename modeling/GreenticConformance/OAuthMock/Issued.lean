import GreenticConformance.OAuthMock.TokenStatus

/-!
# Issued tokens

A token response is the answer to an exchange or to a client credentials
request. Either way tokens of one scope are handed to one client, and what is
signed into the access token says so.

## Main definitions

- `Issues` — an event answers with tokens of a scope for a client
- `RevokedSince` — a revocation named the token after the last answer with it
-/

namespace GreenticConformance.OAuthMock

open Runs

variable {B : Build} {s₀ : InnerState} {e : Served} {calls : List Call} {client : ClientConfig}
  {scope : HashSet String} {response : TokenResponse} {t : String}

/-- The event answers with tokens of `scope` for `client`. -/
inductive Issues (B : Build) (e : Served) : ClientConfig → HashSet String → TokenResponse → Prop
  | exchanged {x : Exchange} (h : Exchanged B e x) :
      Issues B e x.client x.scope (exchangeResponse e.input.draws x.scope x.access x.id)
  | clientCredentials {cred : ClientCredentials} {request : TokenRequest} {client : ClientConfig}
      {access : String} (h : ClientGranted B e cred request client access) :
      Issues B e client (scopeOrAllowed client request.scope)
        (clientCredentialsResponse (scopeOrAllowed client request.scope) access)

theorem Answers.issues (h : Steps B e) (ha : Answers e response) :
    ∃ client scope, Issues B e client scope response := by
  rcases ha.cases h with ⟨x, hx, rfl⟩ | ⟨cred, request, client, access, hg, rfl⟩
  · exact ⟨_, _, .exchanged hx⟩
  · exact ⟨_, _, .clientCredentials hg⟩

namespace Issues

theorem response_scope (h : Issues B e client scope response) :
    response.scope = scopeToString scope := by
  cases h <;> rfl

theorem response_expiresIn (h : Issues B e client scope response) : response.expiresIn = 3600 := by
  cases h <;> rfl

/-- The access token carries the client and the scope it was issued for. -/
theorem signed (h : Issues B e client scope response) :
    e.input.draws.encode (jwtHeader e.pre) (.access (accessClaims e.input.draws e.pre client scope))
      e.pre.signing.encoding = .ok response.accessToken := by
  cases h with
  | exchanged hx => exact hx.signs.access
  | clientCredentials hg => exact hg.signs

/-- The client is the registered one that the request's credentials name. -/
theorem registered (h : Issues B e client scope response) :
    ∃ g cred request, TokenCall B e.input g cred request ∧
      e.pre.client cred.clientId = some client := by
  cases h with
  | exchanged hx => exact ⟨_, _, _, hx.call, hx.registered⟩
  | clientCredentials hg => exact ⟨_, _, _, hg.call, hg.registered⟩

end Issues

/-! ## Revoked tokens -/

/-- A revocation named `t`, and no token response returned `t` since. -/
def RevokedSince (B : Build) (run : List Served) (t : String) : Prop :=
  Since (fun e => Revokes B e t) (fun e => ¬ IssuesAccess e t) run

/-- An access token that was issued is live unless it was revoked since. -/
theorem not_accessLive_iff (he : e ∈ (server B).trace s₀ calls) (hi : IssuesAccess e t) :
    ¬ AccessLive ((server B).trace s₀ calls) t ↔ RevokedSince B ((server B).trace s₀ calls) t := by
  rw [AccessLive, not_since_iff ⟨e, he, hi⟩]
  refine since_congr (fun x hx => ?_) fun x hx => Iff.rfl
  have h := steps_of_mem_trace hx
  rw [not_not, ← revokes_iff h, and_iff_right_iff_imp]
  intro hrev hissues
  obtain ⟨response, ha, -⟩ := hissues
  exact not_answers_of_endpoint h (by rw [hrev.endpoint]; decide) ha

/-! ### Client credentials on the sample server -/

namespace Sample

/-- The client every builder starts with. -/
def mockClient : ClientConfig where
  clientId := "mock-client"
  clientSecret := "mock-secret"
  redirectUris := {callback}
  allowedScopes := defaultScope

/-- The second client of the sample server. -/
def otherClient : ClientConfig where
  clientId := "other-client"
  clientSecret := "other-secret"
  redirectUris := {callback}
  allowedScopes := {"openid"}

def clientCredentialsForm (client : ClientConfig) (scope : Option String) : TokenRequest :=
  { emptyTokenRequest with
    grantType := "client_credentials"
    clientId := some client.clientId
    clientSecret := some client.clientSecret
    scope := scope }

def clientCredentialsCall (client : ClientConfig) (scope : Option String) : Call :=
  ⟨.token ⟨none⟩ (clientCredentialsForm client scope), draws 0 "01"⟩

theorem tokenCall_clientCredentialsCall (client : ClientConfig) (scope : Option String) :
    TokenCall build (clientCredentialsCall client scope) .clientCredentials
      ⟨client.clientId, client.clientSecret⟩ (clientCredentialsForm client scope) :=
  ⟨⟨none⟩, rfl, rfl, rfl⟩

end Sample

end GreenticConformance.OAuthMock
