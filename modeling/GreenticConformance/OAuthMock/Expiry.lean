import GreenticConformance.OAuthMock.Issued

/-!
# Expired access tokens

An access token carries an `exp` claim one hour after its issue, and the token
response announces the same hour. Neither `userinfo` nor `introspect` reads a
clock, so a token outlives its claim: what ends it is a revocation.

## Main results

- `expired_token_refused_iff` — which expired tokens the two endpoints refuse
-/

namespace GreenticConformance.OAuthMock

open Runs

variable {B : Build} {s₀ : InnerState} {e : Served} {calls : List Call} {response : TokenResponse}
  {t : String} {exp : ℤ}

/-- The clock reads a time after the whole run and later than the claim `exp`. -/
structure ExpiredAt (calls : List Call) (exp : ℤ) (now : OffsetDateTime) : Prop where
  after : ∀ c ∈ calls, c.draws.now ≤ now ∧ c.draws.issuedAt ≤ now
  expired : exp * 1000000000 < now

/-- The clock goes past every claim. -/
theorem exists_expiredAt (calls : List Call) (exp : ℤ) : ∃ now, ExpiredAt calls exp now := by
  induction calls with
  | nil => exact ⟨exp * 1000000000 + 1, by simp, by omega⟩
  | cons c calls ih =>
    obtain ⟨now, hafter, hexpired⟩ := ih
    refine ⟨max now (max c.draws.now c.draws.issuedAt), ?_, lt_max_of_lt_left hexpired⟩
    intro c' hc'
    rcases List.mem_cons.mp hc' with rfl | hc'
    · exact ⟨le_max_of_le_right (le_max_left _ _), le_max_of_le_right (le_max_right _ _)⟩
    · obtain ⟨hnow, hissued⟩ := hafter c' hc'
      exact ⟨le_max_of_le_left hnow, le_max_of_le_left hissued⟩

/-- The header a client sends with access token `t`. -/
def bearerHeader (t : String) : HeaderMap := ⟨some (.text ("Bearer " ++ t))⟩

theorem extractBearerToken_bearerHeader (t : String) :
    extractBearerToken (bearerHeader t) = .ok t := by
  have ht : stripPrefix "Bearer " ("Bearer " ++ t) = some t := stripPrefix_append _ _
  simp only [extractBearerToken, bearerHeader, Option.bind_some, HeaderValue.toStr, ht]

/-! ## The two endpoints -/

/-- After the run, `userinfo` refuses `t` at every time past `exp`. -/
def UserinfoRefusesExpired (B : Build) (s₀ : InnerState) (calls : List Call) (t : String)
    (exp : ℤ) : Prop :=
  ∀ headers d, extractBearerToken headers = .ok t → ExpiredAt calls exp d.now →
    ¬ UserinfoSucceeds B ((server B).run s₀ calls) ⟨.userinfo headers, d⟩

/-- After the run, `introspect` reports `t` inactive at every time past `exp`. -/
def IntrospectRefusesExpired (B : Build) (s₀ : InnerState) (calls : List Call) (t : String)
    (exp : ℤ) : Prop :=
  ∀ headers body d, NamesToken B headers body t → ExpiredAt calls exp d.now →
    ¬ ReportsActive B ((server B).run s₀ calls) ⟨.introspect headers body, d⟩

theorem userinfoRefusesExpired_iff (h₀ : Spawned s₀) (d : Draws) :
    UserinfoRefusesExpired B s₀ calls t exp ↔ ¬ AccessLive ((server B).trace s₀ calls) t := by
  rw [← mem_accessTokens_iff h₀]
  constructor
  · intro hrefuses hmem
    obtain ⟨now, hnow⟩ := exists_expiredAt calls exp
    have ht := extractBearerToken_bearerHeader t
    exact hrefuses (bearerHeader t) { d with now := now } ht hnow
      ((userinfoSucceeds_iff ht).mpr hmem)
  · intro hnot headers d ht _ hsucc
    exact hnot ((userinfoSucceeds_iff ht).mp hsucc)

theorem introspectRefusesExpired_iff (h₀ : Spawned s₀) (d : Draws) {headers : HeaderMap}
    {body : HashMap String String} (hn : NamesToken B headers body t) :
    IntrospectRefusesExpired B s₀ calls t exp ↔
      ¬ AccessLive ((server B).trace s₀ calls) t ∧
        ¬ RefreshLive B ((server B).trace s₀ calls) t := by
  rw [← mem_accessTokens_iff h₀, ← mem_refreshTokens_iff h₀, ← not_or]
  constructor
  · intro hrefuses hlive
    obtain ⟨now, hnow⟩ := exists_expiredAt calls exp
    exact hrefuses headers body { d with now := now } hn hnow ((reportsActive_iff hn).mpr hlive)
  · intro hnot headers body d hn _ hreports
    exact hnot ((reportsActive_iff hn).mp hreports)

/-- **Expired access tokens.** The access token of every token response carries
an `exp` claim one hour after its issue. Past that claim `userinfo` refuses the
token exactly when a revocation has named it since its last issue, and
`introspect` reports it inactive exactly when, besides, it is not a live refresh
token. -/
theorem expired_token_refused_iff (h₀ : Spawned s₀) (he : e ∈ (server B).trace s₀ calls)
    (ha : Answers e response) :
    ∃ claims : AccessClaims,
      e.input.draws.encode (jwtHeader e.pre) (.access claims) e.pre.signing.encoding =
        .ok response.accessToken ∧
      claims.exp = unixTimestamp (e.input.draws.issuedAt + TimeDuration.hours 1) ∧
      response.expiresIn = 3600 ∧
      (UserinfoRefusesExpired B s₀ calls response.accessToken claims.exp ↔
        RevokedSince B ((server B).trace s₀ calls) response.accessToken) ∧
      ∀ headers body, NamesToken B headers body response.accessToken →
        (IntrospectRefusesExpired B s₀ calls response.accessToken claims.exp ↔
          RevokedSince B ((server B).trace s₀ calls) response.accessToken ∧
            ¬ RefreshLive B ((server B).trace s₀ calls) response.accessToken) := by
  obtain ⟨client, scope, hi⟩ := ha.issues (steps_of_mem_trace he)
  refine ⟨_, hi.signed, rfl, hi.response_expiresIn, ?_, ?_⟩
  · rw [userinfoRefusesExpired_iff h₀ e.input.draws, not_accessLive_iff he ⟨response, ha, rfl⟩]
  · intro headers body hn
    rw [introspectRefusesExpired_iff h₀ e.input.draws hn,
      not_accessLive_iff he ⟨response, ha, rfl⟩]

/-! ### Two hours after an exchange on the sample server -/

namespace Sample

/-- What the exchange of the sample run signs into its access token. -/
def exchangedClaims : AccessClaims :=
  accessClaims (draws 60000000000 "02") start mockClient {"openid", "email"}

end Sample

open Sample in
/-- Nobody revoked the token of this run, so it is accepted past its claim. -/
theorem expired_token_refused_iff_exchanged :
    ¬ ∀ claims : AccessClaims,
      (draws 60000000000 "02").encode (jwtHeader start) (.access claims) keys.encoding =
        .ok (accessToken "02") →
      UserinfoRefusesExpired build start [authorizeCall, redeemCall "02"] (accessToken "02")
        claims.exp := by
  intro hall
  obtain ⟨claims, hsigned, -, -, hiff, -⟩ := @expired_token_refused_iff build start
    ((server build).event ((server build).run start [authorizeCall]) (redeemCall "02"))
    [authorizeCall, redeemCall "02"] _ spawned_start (by simp) rfl
  obtain ⟨t₁, x, t₂, ht, ⟨headers, body, hx, -⟩, -⟩ := hiff.mp (hall claims hsigned)
  have hmem : x ∈ (server build).trace start [authorizeCall, redeemCall "02"] := by
    rw [ht]; simp
  simp only [Machine.trace_cons, Machine.trace_nil, List.mem_cons, List.not_mem_nil,
    or_false] at hmem
  rcases hmem with rfl | rfl <;> cases hx

open Sample in
/-- Two hours after the exchange both endpoints still accept the token whose
claim expired after one. -/
theorem expired_token_accepted :
    start.client "mock-client" = some mockClient ∧
    (draws 60000000000 "02").encode (jwtHeader start) (.access exchangedClaims) keys.encoding =
      .ok (accessToken "02") ∧
    Answers ((server build).event ((server build).run start [authorizeCall]) (redeemCall "02"))
      (exchangeResponse (draws 60000000000 "02") {"openid", "email"} (accessToken "02")
        "id.mock-client") ∧
    ExpiredAt [authorizeCall, redeemCall "02"] exchangedClaims.exp (TimeDuration.hours 2) ∧
    UserinfoSucceeds build ((server build).run start [authorizeCall, redeemCall "02"])
      ⟨.userinfo (bearer (accessToken "02")), draws (TimeDuration.hours 2) "03"⟩ ∧
    ReportsActive build ((server build).run start [authorizeCall, redeemCall "02"])
      ⟨.introspect basic (tokenBody (accessToken "02")), draws (TimeDuration.hours 2) "04"⟩ := by
  have hmem : accessToken "02" ∈
      ((server build).run start [authorizeCall, redeemCall "02"]).accessTokens := by decide
  refine ⟨rfl, rfl, rfl, ⟨by decide, by decide⟩, ?_, ?_⟩
  · exact (userinfoSucceeds_iff (by decide)).mpr hmem
  · exact (reportsActive_iff (namesToken_basic _)).mpr (.inl hmem)

end GreenticConformance.OAuthMock
