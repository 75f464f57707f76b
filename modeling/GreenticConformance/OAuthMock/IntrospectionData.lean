import GreenticConformance.OAuthMock.Issued

/-!
# What introspection says about a token

`introspect` answers every active token with the same client id and scope. The
stores it looks at hold neither for access tokens, and it does not read them for
refresh tokens, so its answer agrees with the issue of a token only where the
constants happen to be right.

## Main results

- `introspection_agrees_iff` — when the answer agrees with the token response
-/

namespace GreenticConformance.OAuthMock

open Runs

variable {B : Build} {s s₀ : InnerState} {e : Served} {calls : List Call} {t : String}
  {headers : HeaderMap} {body : HashMap String String} {d : Draws} {info : Introspection}

/-- The response returns `t`, as an access or a refresh token. -/
def TokenResponse.Returns (response : TokenResponse) (t : String) : Prop :=
  response.accessToken = t ∨ response.refreshToken = some t

/-- Every live token was returned by some token response of the run. -/
theorem exists_issues (h : AccessLive ((server B).trace s₀ calls) t ∨
      RefreshLive B ((server B).trace s₀ calls) t) :
    ∃ e ∈ (server B).trace s₀ calls, ∃ client scope response,
      Issues B e client scope response ∧ response.Returns t := by
  rcases h with h | h
  · obtain ⟨e, he, response, ha, ht⟩ := h.exists_mem
    obtain ⟨client, scope, hi⟩ := ha.issues (steps_of_mem_trace he)
    exact ⟨e, he, client, scope, response, hi, .inl ht⟩
  · obtain ⟨e, he, response, ha, ht⟩ := h.exists_mem
    obtain ⟨client, scope, hi⟩ := ha.issues (steps_of_mem_trace he)
    exact ⟨e, he, client, scope, response, hi, .inr ht⟩

/-- The answer of `introspect` does not depend on the token. -/
theorem introspection_constant (hn : NamesToken B headers body t)
    (hout : ((server B).event s ⟨.introspect headers body, d⟩).output =
      .http (.ok (.introspection info))) :
    info.clientId = "mock-client" ∧ info.scope = scopeToString defaultScope := by
  simp only [server_output, serve, respond, introspect_exec hn, Except.map] at hout
  cases hout
  exact ⟨rfl, rfl⟩

/-- **Introspection and issue.** A token reported active was returned by a token
response of the run, and the reported client and scope are those of that
response exactly when it was the default client's and its scope the default
scope. -/
theorem introspection_agrees_iff (h₀ : Spawned s₀) (hn : NamesToken B headers body t)
    (hout : ((server B).event ((server B).run s₀ calls) ⟨.introspect headers body, d⟩).output =
      .http (.ok (.introspection info))) (hactive : info.active = true) :
    (∃ e ∈ (server B).trace s₀ calls, ∃ client scope response,
      Issues B e client scope response ∧ response.Returns t) ∧
    ∀ e ∈ (server B).trace s₀ calls, ∀ client scope response,
      Issues B e client scope response → response.Returns t →
      (info.clientId = client.clientId ∧ info.scope = response.scope ↔
        client.clientId = "mock-client" ∧ scopeToString scope = scopeToString defaultScope) := by
  have hreports : ReportsActive B ((server B).run s₀ calls) ⟨.introspect headers body, d⟩ :=
    ⟨info, hout, hactive⟩
  rw [reportsActive_iff hn, mem_accessTokens_iff h₀, mem_refreshTokens_iff h₀] at hreports
  obtain ⟨hclient, hscope⟩ := introspection_constant hn hout
  refine ⟨exists_issues hreports, ?_⟩
  intro e _ client scope response hi _
  rw [hclient, hscope, hi.response_scope]
  exact and_congr eq_comm eq_comm

open Sample in
/-- A client credentials token of the default client for its whole scope is
reported as it was issued. -/
theorem introspection_agrees_iff_default :
    ∃ info : Introspection,
      ((server build).event ((server build).run start [clientCredentialsCall mockClient none])
          ⟨.introspect basic (tokenBody (accessToken "01")), draws 1 "02"⟩).output =
        .http (.ok (.introspection info)) ∧
      info.clientId = "mock-client" ∧ info.scope = "email openid profile" := by
  have hg : ClientGranted build ((server build).event start (clientCredentialsCall mockClient none))
      ⟨"mock-client", "mock-secret"⟩ (clientCredentialsForm mockClient none) mockClient
      (accessToken "01") :=
    ⟨tokenCall_clientCredentialsCall _ _, rfl, rfl, rfl, rfl⟩
  have hiff := (@introspection_agrees_iff build start [clientCredentialsCall mockClient none] _ _ _
    (draws 1 "02") _ spawned_start (namesToken_basic (accessToken "01")) rfl (by decide)).2 _
    (by simp) _ _ _ (.clientCredentials hg) (.inl rfl)
  exact ⟨_, rfl, hiff.mpr ⟨rfl, rfl⟩⟩

open Sample in
/-- The token of another client, for a part of the default scope, is reported as
the default client's and for the default scope. -/
theorem introspection_of_other_client :
    Answers ((server build).event start (clientCredentialsCall otherClient none))
      (clientCredentialsResponse {"openid"} (accessToken "01")) ∧
    (clientCredentialsResponse {"openid"} (accessToken "01")).scope = "openid" ∧
    TokenCall build (clientCredentialsCall otherClient none) .clientCredentials
      ⟨"other-client", "other-secret"⟩ (clientCredentialsForm otherClient none) ∧
    ((server build).event ((server build).run start [clientCredentialsCall otherClient none])
        ⟨.introspect basic (tokenBody (accessToken "01")), draws 1 "02"⟩).output =
      .http (.ok (.introspection {
        active := true
        iss := "http://127.0.0.1:8080"
        clientId := "mock-client"
        scope := "email openid profile"
        tokenType := "Bearer" })) :=
  ⟨rfl, rfl, tokenCall_clientCredentialsCall _ _, rfl⟩

end GreenticConformance.OAuthMock
