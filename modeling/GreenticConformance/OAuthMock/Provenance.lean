import GreenticConformance.OAuthMock.DeviceCodes
import GreenticConformance.OAuthMock.Issued
import GreenticConformance.OAuthMock.RefreshFamilies

/-!
# Where tokens come from

Every token the server hands out, and every one it stores, goes back along refreshes to a
request that somebody was entitled to make: an authorization code that was granted and not
used since, a device code that was started and then approved, or client credentials. Client
and scope set are those of the root.

## Main definitions

- `Derives` — an event answers with tokens it has a right to, with the chain that says so

## Main results

- `Issues.derives` — every token response has such a chain
- `provenance` — so has every stored token
-/

namespace GreenticConformance.OAuthMock

open Runs

variable {B : Build}

/-- After `past`, the event has a right to tokens of `scope` for `client`. -/
inductive Derives (B : Build) :
    List Served → Served → ClientConfig → HashSet String → Prop
  | clientCredentials {past : List Served} {e : Served} {cred : ClientCredentials}
      {request : TokenRequest} {client : ClientConfig} {access : String}
      (h : ClientGranted B e cred request client access) :
      Derives B past e client (scopeOrAllowed client request.scope)
  | code {past : List Served} {e : Served} {cred : ClientCredentials} {request : TokenRequest}
      {code redirectUri verifier : String} {query : AuthorizeQuery} {client : ClientConfig}
      (hc : TokenCall B e.input .authorizationCode cred request)
      (hr : Redeems B request code redirectUri verifier)
      (ho : Outstanding B past code query client) (hclient : query.clientId = cred.clientId)
      (hb : B.features.pkce → Binds B query cred redirectUri verifier) :
      Derives B past e client (grantedScope query client)
  | device {t₁ t₂ : List Served} {e a d : Served} {cred : ClientCredentials} {c : String}
      {request : DeviceAuthorizationRequest} {client : ClientConfig} (ha : a ∈ t₁)
      (hs : StartsDevice B a c request client) (hd : DecidesOn d c .approved)
      (hk : ∀ x ∈ t₂, KeepsApproval B x c) (hp : PollsDevice B e c cred)
      (hclient : client.clientId = cred.clientId) :
      Derives B (t₁ ++ d :: t₂) e client (scopeOrAllowed client request.scope)
  | refresh {t₁ t₂ : List Served} {e a : Served} {t : String} {client : ClientConfig}
      {scope : HashSet String} (h : Derives B t₁ a client scope) (hi : IssuesRefresh a t)
      (hp : PresentsRefresh B e t) : Derives B (t₁ ++ a :: t₂) e client scope

section Derives

variable {s₀ : InnerState} {calls : List Call} {past rest : List Served} {e : Served} {x : Exchange}
variable {client : ClientConfig} {scope : HashSet String} {response : TokenResponse}

/-- Clients that are looked up under one id at two moments of a run are the same. -/
theorem client_eq_of_mem {a : Served} {id : String} {client client' : ClientConfig}
    (he : e ∈ (server B).trace s₀ calls) (ha : a ∈ (server B).trace s₀ calls)
    (hl : e.pre.client id = some client) (hl' : a.pre.client id = some client') :
    client = client' := by
  rw [pre_client he] at hl
  rw [pre_client ha] at hl'
  exact Option.some.inj (hl.symm.trans hl')

/-- An approved device code was started, approved after that, and left alone since. -/
theorem exists_approval (h₀ : Spawned s₀) (ht : (server B).trace s₀ calls = past ++ e :: rest)
    {c : String} {entry : DeviceCodeEntry} (hl : e.pre.deviceCodes.lookup c = some entry)
    (hap : entry.status = .approved) :
    ∃ t₁ a d t₂ request client, past = t₁ ++ d :: t₂ ∧ a ∈ t₁ ∧ StartsDevice B a c request client ∧
      DecidesOn d c .approved ∧ (∀ x ∈ t₂, KeepsApproval B x c) ∧
      entry.clientId = client.clientId ∧ entry.scope = scopeOrAllowed client request.scope := by
  obtain ⟨t₁, d, t₂, rfl, hd, hk⟩ := (approved_iff_since h₀ ht c).mp ⟨entry, hl, hap⟩
  obtain ⟨is₁, i, is₂, rfl, hpast, rfl, -⟩ := (server B).trace_eq_append_cons ht
  obtain ⟨a, ha, request, client, hst, hentry⟩ := started_of_lookup h₀ is₁ hl
  rw [hpast] at ha
  refine ⟨t₁, a, d, t₂, request, client, rfl, ?_, hst, hd, hk, by rw [hentry]; rfl,
    by rw [hentry]; rfl⟩
  rcases List.mem_append.mp ha with ha | ha
  · exact ha
  · rcases List.mem_cons.mp ha with rfl | ha
    · -- a decision starts nothing
      cases hst.endpoint.symm.trans hd.endpoint
    · exact absurd hst ((hk a ha).start _ _)

/-- **Every exchange** goes back to a root, by induction on the events before it. -/
theorem Exchanged.derives (h₀ : Spawned s₀) (hfresh : FreshCodes calls)
    (ht : (server B).trace s₀ calls = past ++ e :: rest) (hx : Exchanged B e x) :
    Derives B past e x.client x.scope := by
  induction hn : past.length using Nat.strong_induction_on generalizing past e rest x with
  | _ n ih =>
    have he : e ∈ (server B).trace s₀ calls := (server B).mem_trace_of_eq ht
    have hcall := hx.call
    have hreg := hx.registered
    have hpresented := hx.presented
    obtain ⟨g, cred, request, client, scope, nonce, access, id⟩ := x
    dsimp only at hcall hreg hpresented ⊢
    cases hpresented with
    | @authorizationCode c r v entry hr hl hm =>
      obtain ⟨query, client', d, ho, rfl⟩ := outstanding_of_lookup h₀ hfresh ht hl
      have hreg' := (ho.lookup h₀ hfresh ht).1
      have hid : query.clientId = cred.clientId :=
        (InnerState.client_clientId hreg').symm.trans hm.client
      rw [hid] at hreg'
      obtain rfl := Option.some.inj (hreg.symm.trans hreg')
      rw [← hid] at hreg'
      exact .code hcall hr ho hid fun hp => (redeemable_grantedCode hp hreg').mp hm
    | @refreshToken t entry hr hl hid =>
      obtain ⟨a, ha, x', hx', hdrawn, rfl⟩ :=
        refreshLedger.issued_of_lookup (hfresh.refresh s₀) h₀.lookup_refresh ht hl
      obtain ⟨t₁, t₂, rfl⟩ := List.append_of_mem ha
      have ht' : (server B).trace s₀ calls = t₁ ++ a :: (t₂ ++ e :: rest) := by simpa using ht
      have ha' := (server B).mem_trace_of_eq ht'
      have hderives := ih t₁.length (by simp [← hn]) ht' hx' rfl
      -- the client that presents the token is the one it was issued to
      have hsame : x'.client = client := by
        have hkey : x'.credentials.clientId = cred.clientId :=
          (InnerState.client_clientId hx'.registered).symm.trans hid
        exact client_eq_of_mem ha' he (hkey ▸ hx'.registered) hreg
      rw [← hsame]
      exact .refresh hderives ⟨_, hx'.output, congrArg some hdrawn⟩ ⟨cred, request, hcall, hr⟩
    | @deviceCode c entry hd hl hid hst =>
      have hap : entry.status = .approved := (polledStatus_eq_approved.mp hst).2
      obtain ⟨t₁, a, d, t₂, dreq, client', rfl, ha, hs, hdec, hk, hcid, hscope⟩ :=
        exists_approval h₀ ht hl hap
      have hsame : client' = client := by
        have hkey : dreq.clientId = cred.clientId :=
          (InnerState.client_clientId hs.registered).symm.trans (hcid.symm.trans hid)
        have ha' : a ∈ (server B).trace s₀ calls := by
          rw [ht]
          simp [ha]
        exact client_eq_of_mem ha' he (hkey ▸ hs.registered) hreg
      rw [hscope, ← hsame]
      exact .device ha hs hdec hk ⟨request, hcall, hd⟩ (hcid.symm.trans hid)

/-- **Every token response** has a chain that entitles to it, and stays within the client's
scopes. -/
theorem Issues.derives (h₀ : Spawned s₀) (hfresh : FreshCodes calls)
    (ht : (server B).trace s₀ calls = past ++ e :: rest) (h : Issues B e client scope response) :
    Derives B past e client scope ∧ scope ⊆ client.allowedScopes := by
  cases h with
  | exchanged hx =>
    have hw := wellOwned_of_mem_trace h₀ ((server B).mem_trace_of_eq ht)
    exact ⟨hx.derives h₀ hfresh ht, hx.scope_subset hw⟩
  | clientCredentials hg => exact ⟨.clientCredentials hg, scopeOrAllowed_subset _ _⟩

/-- The event answers with tokens of `scope` for `client`, and is entitled to. -/
structure Entitled (B : Build) (past : List Served) (e : Served) (client : ClientConfig)
    (scope : HashSet String) (response : TokenResponse) : Prop where
  issues : Issues B e client scope response
  derives : Derives B past e client scope
  within : scope ⊆ client.allowedScopes

theorem Issues.entitled (h₀ : Spawned s₀) (hfresh : FreshCodes calls)
    (ht : (server B).trace s₀ calls = past ++ e :: rest) (h : Issues B e client scope response) :
    Entitled B past e client scope response :=
  ⟨h, (h.derives h₀ hfresh ht).1, (h.derives h₀ hfresh ht).2⟩

/-- **No token out of thin air.** Every token response of a run, every access token and every
refresh token that is stored after it goes back to a root that entitles to it; a stored
refresh token is stored for the client and scope set of its root. -/
theorem provenance (h₀ : Spawned s₀) (hfresh : FreshCodes calls) :
    (∀ past e rest response, (server B).trace s₀ calls = past ++ e :: rest → Answers e response →
      ∃ client scope, Entitled B past e client scope response) ∧
    (∀ t ∈ ((server B).run s₀ calls).accessTokens, ∃ past e rest client scope response,
      (server B).trace s₀ calls = past ++ e :: rest ∧ response.accessToken = t ∧
        Entitled B past e client scope response) ∧
    ∀ t entry, ((server B).run s₀ calls).refreshTokens.lookup t = some entry →
      ∃ past e rest client response, (server B).trace s₀ calls = past ++ e :: rest ∧
        response.refreshToken = some t ∧ entry.clientId = client.clientId ∧
          Entitled B past e client entry.scope response := by
  refine ⟨fun past e rest response ht ha => ?_, fun t hmem => ?_, fun t entry hl => ?_⟩
  · obtain ⟨client, scope, hi⟩ := ha.issues (steps_of_mem_trace ((server B).mem_trace_of_eq ht))
    exact ⟨client, scope, hi.entitled h₀ hfresh ht⟩
  · obtain ⟨past, e, rest, ht, ⟨response, ha, rfl⟩, -⟩ := (mem_accessTokens_iff h₀).mp hmem
    obtain ⟨client, scope, hi⟩ := ha.issues (steps_of_mem_trace ((server B).mem_trace_of_eq ht))
    exact ⟨past, e, rest, client, scope, response, ht, rfl, hi.entitled h₀ hfresh ht⟩
  · obtain ⟨past, e, rest, ht, ⟨x, hx, rfl, rfl⟩, -⟩ :=
      (refreshLedger.lookup_iff_since (hfresh.refresh s₀) h₀.lookup_refresh).mp hl
    exact ⟨past, e, rest, x.client, _, ht, rfl, rfl, (Issues.exchanged hx).entitled h₀ hfresh ht⟩

end Derives

open Sample in
/-- The refreshed token of the sample server goes back to its root. -/
theorem provenance_refreshed : ∃ past e rest client scope response,
    (server build).trace start [authorizeCall, redeemCall "02", refreshCall "02" "03"] =
        past ++ e :: rest ∧
      response.accessToken = accessToken "03" ∧ Entitled build past e client scope response :=
  (@provenance build start [authorizeCall, redeemCall "02", refreshCall "02" "03"] spawned_start
    (by decide)).2.1 (accessToken "03") (by decide)

end GreenticConformance.OAuthMock
