import GreenticConformance.Checks.Guards
import GreenticConformance.Locks.ReadWrite
import GreenticConformance.OAuthMock.Discovery
import GreenticConformance.OAuthMock.RefreshFamilies
import Mathlib.Data.Fintype.Basic
import Mathlib.Tactic.FinCases

/-!
# Concurrent requests

The server runs every request as a task of its own, and the tasks share the state behind a
readers-writer lock. A handler checks what it can without the state, takes the read or the
write guard, and keeps it until it answers. However the work under the guards is cut into
steps and however these steps interleave, the tasks get the answers of `server`, which
serves one call at a time.

## Main definitions

- `beforeGuard` — what a handler does before it asks for a guard
- `Bodies` — a way to cut the work under the guard into steps

## Main results

- `linearizable` — concurrent requests are served as if one after the other
- `spent_once` — of concurrent requests for one grant, one gets tokens
- `never_stuck` — every request is answered
-/

namespace GreenticConformance.OAuthMock

open Runs Checks Locks
open Handler (exec_liftResult_bind exec_failIf_bind exec_okOr_bind exec_throw)

variable {B : Build} {L κ : Type*}

/-! ## Before the guard -/

/-- The handlers of the grants up to `state.write()`. -/
def grantBeforeGuard (B : Build) (request : TokenRequest) : Except MockError Mode :=
  match request.grantType with
  | "authorization_code" => do
    let _ ← Checks.okOr request.code (.invalidRequest "missing code")
    let _ ← Checks.okOr request.redirectUri (.invalidRequest "missing redirect_uri")
    if B.features.pkce then
      let _ ← Checks.okOr request.codeVerifier
        (.invalidRequest "PKCE enabled; code_verifier is required")
      .ok .write
    else
      .ok .write
  | "client_credentials" => .ok .write
  | "refresh_token" => do
    let _ ← Checks.okOr request.refreshToken (.invalidRequest "missing refresh_token")
    .ok .write
  | "urn:ietf:params:oauth:grant-type:device_code" | "device_code" => do
    let _ ← Checks.okOr request.deviceCode (.invalidRequest "missing device_code")
    .ok .write
  | other => .error (.invalidRequest s!"unsupported grant_type {other}")

/-- A handler up to `state.read()` or `state.write()`: the guard it asks for, or its answer
without one. -/
def beforeGuard (B : Build) (c : Call) : Except MockError Mode :=
  match c.request with
  | .discovery | .jwks => .ok .read
  | .authorize query =>
    if query.responseType ≠ "code" then
      .error (.invalidRequest "unsupported response_type")
    else
      .ok .write
  | .token headers request => do
    let _ ← extractClientCredentials B headers request
    grantBeforeGuard B request
  | .deviceAuthorization _ =>
    if B.features.deviceCode then
      .ok .write
    else
      .error (.invalidRequest "device_code feature disabled")
  | .userinfo headers => do
    let _ ← extractBearerToken headers
    .ok .read
  | .introspect headers body => do
    let _ ← extractClientCredentials B headers emptyTokenRequest
    let _ ← Checks.okOr (body.lookup "token") (.invalidRequest "missing token")
    .ok .read
  | .revoke headers body => do
    let _ ← extractClientCredentials B headers emptyTokenRequest
    let _ ← Checks.okOr (body.lookup "token") (.invalidRequest "missing token")
    .ok .write
  | .approveDeviceCode _ | .denyDeviceCode _ => .ok .write

section Admit

variable {s : InnerState} {c : Call} {d : Draws} {headers : HeaderMap} {request : TokenRequest}
variable {cred : ClientCredentials} {e : MockError}

/-- A missing field is all that a check before the guard complains about. -/
theorem okOr_bind_write {o : Option String} {e' : MockError}
    (h : (Checks.okOr o e' >>= fun _ => Except.ok Mode.write) = .error e) : o = none ∧ e' = e := by
  cases o with
  | none => exact ⟨rfl, Except.error.inj h⟩
  | some t => cases h

theorem handleAuthorizationCode_of_refused (hg : request.grantType = "authorization_code")
    (h : grantBeforeGuard B request = .error e) :
    (handleAuthorizationCode B d cred request).exec s = (.error e, s) := by
  simp only [grantBeforeGuard, hg] at h
  simp only [handleAuthorizationCode, exec_okOr_bind]
  cases hc : request.code with
  | none =>
    rw [hc] at h
    cases h
    rfl
  | some code =>
    cases hr : request.redirectUri with
    | none =>
      rw [hc, hr] at h
      cases h
      rfl
    | some redirectUri =>
      rw [hc, hr] at h
      simp only [Checks.okOr, ok_bind] at h
      simp only [pkceVerifier]
      split_ifs at h ⊢ with hp
      obtain ⟨hv, rfl⟩ := okOr_bind_write h
      simp only [hv, exec_okOr_bind]

theorem handleDeviceCode_of_refused
    (h : (Checks.okOr request.deviceCode (.invalidRequest "missing device_code") >>=
      fun _ => Except.ok Mode.write) = .error e) :
    (handleDeviceCode d cred request).exec s = (.error e, s) := by
  obtain ⟨hv, rfl⟩ := okOr_bind_write h
  simp only [handleDeviceCode, hv, exec_okOr_bind]

theorem token_unsupported (hx : extractClientCredentials B headers request = .ok cred)
    (hg : ∀ g : GrantType, ¬ g.Named request.grantType) : (token B d headers request).exec s =
      (.error (.invalidRequest s!"unsupported grant_type {request.grantType}"), s) := by
  simp only [token, exec_liftResult_bind, hx]
  split
  · next h => exact absurd h (hg .authorizationCode)
  · next h => exact absurd h (hg .clientCredentials)
  · next h => exact absurd h (hg .refreshToken)
  · next h => exact absurd (.inl h) (hg .deviceCode)
  · next h => exact absurd (.inr h) (hg .deviceCode)
  · rfl

theorem grantBeforeGuard_unsupported (hg : ∀ g : GrantType, ¬ g.Named request.grantType) :
    grantBeforeGuard B request =
      .error (.invalidRequest s!"unsupported grant_type {request.grantType}") := by
  unfold grantBeforeGuard
  split
  · next h => exact absurd h (hg .authorizationCode)
  · next h => exact absurd h (hg .clientCredentials)
  · next h => exact absurd h (hg .refreshToken)
  · next h => exact absurd (.inl h) (hg .deviceCode)
  · next h => exact absurd (.inr h) (hg .deviceCode)
  · rfl

/-- A token request that its grant refuses before the guard. -/
theorem token_of_refused (hx : extractClientCredentials B headers request = .ok cred)
    (h : grantBeforeGuard B request = .error e) :
    (token B d headers request).exec s = (.error e, s) := by
  by_cases hnamed : ∃ g : GrantType, g.Named request.grantType
  · obtain ⟨g, hg⟩ := hnamed
    rw [token_exec hx hg]
    cases g with
    | authorizationCode => exact handleAuthorizationCode_of_refused hg h
    | clientCredentials =>
      have hname : request.grantType = "client_credentials" := hg
      simp [grantBeforeGuard, hname] at h
    | refreshToken =>
      have hname : request.grantType = "refresh_token" := hg
      simp only [grantBeforeGuard, hname] at h
      obtain ⟨hv, rfl⟩ := okOr_bind_write h
      simp only [grantHandler, handleRefreshToken, hv, exec_okOr_bind]
    | deviceCode =>
      rcases hg with hg | hg
      · simp only [grantBeforeGuard, hg] at h
        exact handleDeviceCode_of_refused h
      · simp only [grantBeforeGuard, hg] at h
        exact handleDeviceCode_of_refused h
  · rw [not_exists] at hnamed
    rw [grantBeforeGuard_unsupported hnamed] at h
    rw [token_unsupported hx hnamed, Except.error.inj h]

/-- What introspection and revocation check of a request before they look for its token. -/
theorem exec_tokenNamed_of_refused {α : Type} {mode : Mode} {body : HashMap String String}
    {k : String → Handler α}
    (h : (do
      let _ ← extractClientCredentials B headers emptyTokenRequest
      let _ ← Checks.okOr (body.lookup "token") (.invalidRequest "missing token")
      Except.ok mode) = .error e) :
    (do
      let _ ← Handler.liftResult (extractClientCredentials B headers emptyTokenRequest)
      let token ← Handler.okOr (body.lookup "token") (.invalidRequest "missing token")
      k token : Handler α).exec s = (.error e, s) := by
  rw [exec_liftResult_bind]
  cases hx : extractClientCredentials B headers emptyTokenRequest with
  | error e' =>
    simp only [hx, error_bind] at h
    cases h
    rfl
  | ok cred =>
    dsimp only
    rw [exec_okOr_bind]
    cases ht : body.lookup "token" with
    | none =>
      simp only [hx, ht, ok_bind, Checks.okOr, error_bind] at h
      cases h
      rfl
    | some token => simp only [hx, ht, ok_bind, Checks.okOr] at h; cases h

/-- **Without a guard** a handler gives the answer that `server` gives, which leaves the
state alone. -/
theorem serve_of_refused (h : beforeGuard B c = .error e) :
    serve B s c = (.http (.error e), s) := by
  unfold beforeGuard at h
  unfold serve
  cases hc : c.request with
  | discovery => rw [hc] at h; cases h
  | jwks => rw [hc] at h; cases h
  | authorize query =>
    rw [hc] at h
    dsimp only at h
    split_ifs at h with hr
    cases h
    simp only [respond, authorize, exec_failIf_bind, if_pos hr]
    rfl
  | token headers request =>
    rw [hc] at h
    cases hx : extractClientCredentials B headers request with
    | error e' =>
      simp only [hx, error_bind] at h
      cases h
      simp only [respond, token, exec_liftResult_bind, hx]
      rfl
    | ok cred =>
      simp only [hx, ok_bind] at h
      simp only [respond, token_of_refused hx h]
      rfl
  | deviceAuthorization request =>
    rw [hc] at h
    dsimp only at h
    split_ifs at h with hf
    cases h
    simp only [respond, deviceAuthorization, exec_failIf_bind, hf]
    rfl
  | userinfo headers =>
    rw [hc] at h
    cases hx : extractBearerToken headers with
    | error e' =>
      simp only [hx, error_bind] at h
      cases h
      simp only [respond, userinfo, exec_liftResult_bind, hx]
      rfl
    | ok token => simp only [hx, ok_bind] at h; cases h
  | introspect headers body =>
    rw [hc] at h
    have hexec : (introspect B headers body).exec s = (.error e, s) := exec_tokenNamed_of_refused h
    simp only [respond, hexec]
    rfl
  | revoke headers body =>
    rw [hc] at h
    have hexec : (revoke B headers body).exec s = (.error e, s) := exec_tokenNamed_of_refused h
    simp only [respond, hexec]
    rfl
  | approveDeviceCode userCode => rw [hc] at h; cases h
  | denyDeviceCode userCode => rw [hc] at h; cases h

/-- The handlers that are let in as readers do not write. -/
theorem serve_of_read (h : beforeGuard B c = .ok .read) : (serve B s c).2 = s := by
  unfold beforeGuard at h
  unfold serve
  cases hc : c.request with
  | discovery => rfl
  | jwks => rfl
  | authorize query =>
    rw [hc] at h
    dsimp only at h
    split_ifs at h
    cases h
  | token headers request =>
    rw [hc] at h
    obtain ⟨cred, -, h⟩ := bind_eq_ok.mp h
    unfold grantBeforeGuard at h
    split at h
    · obtain ⟨_, -, h⟩ := bind_eq_ok.mp h
      obtain ⟨_, -, h⟩ := bind_eq_ok.mp h
      split_ifs at h
      · obtain ⟨_, -, h⟩ := bind_eq_ok.mp h
        cases h
      · cases h
    · cases h
    · obtain ⟨_, -, h⟩ := bind_eq_ok.mp h
      cases h
    · obtain ⟨_, -, h⟩ := bind_eq_ok.mp h
      cases h
    · obtain ⟨_, -, h⟩ := bind_eq_ok.mp h
      cases h
    · cases h
  | deviceAuthorization request =>
    rw [hc] at h
    dsimp only at h
    split_ifs at h
    cases h
  | userinfo headers => exact userinfo_state s headers
  | introspect headers body => exact introspect_state B s headers body
  | revoke headers body =>
    rw [hc] at h
    obtain ⟨_, -, h⟩ := bind_eq_ok.mp h
    obtain ⟨_, -, h⟩ := bind_eq_ok.mp h
    cases h
  | approveDeviceCode userCode => rw [hc] at h; cases h
  | denyDeviceCode userCode => rw [hc] at h; cases h

end Admit

/-! ## Under the guard -/

/-- A way to cut the work that handlers do under their guard into steps: all steps together
are the handler, and those of a reader only look. -/
structure Bodies (B : Build) (L : Type*) where
  body : Call → Body InnerState L Response
  run_body : ∀ c s, (body c).run s = serve B s c
  reads : ∀ c, beforeGuard B c = .ok .read → (body c).Reads

namespace Bodies

/-- The tasks that the server spawns for its requests. -/
def service (W : Bodies B L) : Service InnerState L Call Response where
  task c :=
    match beforeGuard B c with
    | .error e => .answered (.http (.error e))
    | .ok mode => .guarded mode (W.body c)
  reads {c body} h := by
    cases ha : beforeGuard B c with
    | error e => simp [ha] at h
    | ok mode =>
      simp only [ha, Task.guarded.injEq] at h
      obtain ⟨rfl, rfl⟩ := h
      exact W.reads c ha

/-- The handlers in one step each. -/
def whole (B : Build) : Bodies B (Option Response) where
  body c :=
    { kept := none
      steps := [fun x => ((serve B x.1 c).2, some (serve B x.1 c).1)]
      answer := fun kept => kept.getD (.call (.ok ())) }
  run_body _ _ := rfl
  reads c h f hf x := by
    rw [List.mem_singleton.mp hf]
    exact serve_of_read h

/-- One at a time, the tasks are the server. -/
theorem machine_service (W : Bodies B L) : W.service.machine = server B := by
  rw [Service.machine, server]
  congr 1
  funext s c
  cases ha : beforeGuard B c with
  | error e => simp only [service, ha, serve_of_refused ha]
  | ok mode => simp only [service, ha, W.run_body]

end Bodies

/-! ## Single-use grants -/

/-- The call names the authorization code or refresh token `t`. -/
inductive Spends (B : Build) (c : Call) : GrantType → String → Prop
  | code {cred : ClientCredentials} {request : TokenRequest} {t : String}
      (hc : TokenCall B c .authorizationCode cred request) (ht : request.code = some t) :
      Spends B c .authorizationCode t
  | refresh {cred : ClientCredentials} {request : TokenRequest} {t : String}
      (hc : TokenCall B c .refreshToken cred request) (ht : request.refreshToken = some t) :
      Spends B c .refreshToken t

section Spends

variable {e : Served} {s₀ : InnerState} {cs : List Call} {t : String}

theorem Spends.redeemed (h : Steps B e) (hs : Spends B e.input .authorizationCode t)
    (hy : YieldsTokens e) : Redeemed B e t := by
  refine ⟨?_, hy⟩
  cases hs with
  | code hc ht =>
    obtain ⟨response, ha⟩ := hy
    obtain ⟨client, scope, nonce, access, id, hx, -⟩ := ha.exchanged h hc nofun
    cases hx.presented with
    | authorizationCode hr _ _ =>
      obtain rfl := Option.some.inj (ht.symm.trans hr.code)
      exact ⟨_, _, _, _, hc, hr⟩

theorem Spends.presents (hs : Spends B e.input .refreshToken t) : PresentsRefresh B e t := by
  cases hs with
  | refresh hc ht => exact ⟨_, _, hc, ht⟩

/-- Served one at a time, no two calls get tokens for the same grant. -/
theorem pairwise_spends (h₀ : Spawned s₀) (hfresh : FreshCodes cs) :
    ((server B).trace s₀ cs).Pairwise fun x y => ∀ g t, Spends B x.input g t → YieldsTokens x →
      Spends B y.input g t → ¬ YieldsTokens y := by
  have hcode := redeemed_once (B := B) h₀ hfresh
  have hrefresh := (refreshLedger (B := B)).taken_once (hfresh.refresh s₀) h₀.lookup_refresh
  refine (hcode.and hrefresh).imp_of_mem fun {x y} hx hy hxy g t hsx hyx hsy hyy => ?_
  have hx := steps_of_mem_trace hx
  have hy := steps_of_mem_trace hy
  cases g with
  | authorizationCode => exact hxy.1 t (hsx.redeemed hx hyx) (hsy.redeemed hy hyy)
  | refreshToken =>
    exact hxy.2 t (Refreshes.takes hx hsx.presents hyx) (Refreshes.takes hy hsy.presents hyy)
  | clientCredentials => cases hsx
  | deviceCode => cases hsx

end Spends

/-! ## All requests together -/

section Together

variable {W : Bodies B L} {calls : κ → Call} {s₀ : InnerState} {order : List κ} {j k : κ}

theorem stateAfter_service : stateAfter W.service calls s₀ order =
    (server B).run s₀ (order.map calls) := by
  rw [stateAfter, Machine.run_comap, W.machine_service]

/-- An answer in an order is the server's, after the calls before it. -/
theorem serve_of_answersIn {a : Response} (h : AnswersIn W.service calls s₀ order k a) :
    ∃ before after, order = before ++ k :: after ∧
      a = (serve B ((server B).run s₀ (before.map calls)) (calls k)).1 := by
  obtain ⟨e, he, rfl, rfl⟩ := h
  obtain ⟨before, i, after, horder, rfl⟩ := Machine.exists_of_mem_trace _ he
  refine ⟨before, after, horder, ?_⟩
  rw [← Machine.run_comap, ← W.machine_service]
  show (W.service.machine.step _ (calls i)).1 = _
  rw [W.machine_service]
  rfl

variable [DecidableEq κ] {ls : List (Label κ)} {c : Config InnerState L Response κ}

/-- **Concurrent requests are served as if one after the other.** There is an order of the
tasks in which every task that ended got the answer that the server gives when it serves
them one at a time; when nobody writes, the state is the one that the server is in; and a
task that ended before another one began comes before it. -/
theorem linearizable (h : Reaches W.service calls s₀ ls c) :
    (serialOrder ls).Nodup ∧
    (∀ k a, c.status k = some (.done a) → ∃ before after,
      serialOrder ls = before ++ k :: after ∧
        a = (serve B ((server B).run s₀ (before.map calls)) (calls k)).1) ∧
    ((∀ k body, c.status k ≠ some (.holding .write body)) →
      c.state = (server B).run s₀ ((serialOrder ls).map calls)) ∧
    ∀ ls₁ ls₂ c₁ j k a, ls = ls₁ ++ ls₂ → Reaches W.service calls s₀ ls₁ c₁ →
      c₁.status j = some (.done a) → c₁.status k = none → k ∈ serialOrder ls →
        ∃ l₁ l₂ l₃, serialOrder ls = l₁ ++ j :: l₂ ++ k :: l₃ := by
  have hserial := h.serial
  refine ⟨hserial.nodup, fun k a hk => ?_, fun hfree => ?_, ?_⟩
  · have hcertain : c.outcome k = some a := by simp [Config.outcome, hk, Status.outcome]
    exact serve_of_answersIn (hserial.answers k a hcertain)
  · rw [hserial.settles.free hfree, stateAfter_service]
  · intro ls₁ ls₂ c₁ j k a hls h₁ hj hk hmem
    obtain ⟨hjmem, hknot⟩ := h₁.precedes hj hk
    rw [hls, serialOrder_append] at hmem ⊢
    have hkmem := (List.mem_append.mp hmem).resolve_left hknot
    obtain ⟨l₁, l₂, hl⟩ := List.append_of_mem hjmem
    obtain ⟨l₃, l₄, hl'⟩ := List.append_of_mem hkmem
    refine ⟨l₁, l₂ ++ l₃, l₄, ?_⟩
    rw [hl, hl']
    simp

/-- **Races for one grant.** When a request is answered with tokens, no other one that names
the same authorization code or the same refresh token is, however they interleave. -/
theorem spent_once (h₀ : Spawned s₀)
    (hfresh : Function.Injective fun k => (calls k).draws.generatedCode)
    (h : Reaches W.service calls s₀ ls c) {g : GrantType} {t : String} {response : TokenResponse}
    (hj : Spends B (calls j) g t)
    (haj : c.status j = some (.done (.http (.ok (.tokens response))))) :
    ∀ k ≠ j, Spends B (calls k) g t → ∀ response',
      c.status k ≠ some (.done (.http (.ok (.tokens response')))) := by
  intro k hne hk response' hak
  have hserial := h.serial
  have hcodes : FreshCodes ((serialOrder ls).map calls) := by
    rw [FreshCodes, List.map_map]
    exact hserial.nodup.map hfresh
  have hanswer : ∀ {k a}, c.status k = some (.done a) →
      AnswersIn W.service calls s₀ (serialOrder ls) k a :=
    fun hk => hserial.answers _ _ (by simp [Config.outcome, hk, Status.outcome])
  have honce := pairwise_spends (B := B) h₀ hcodes
  rw [← W.machine_service] at honce
  obtain ⟨x, y, hxi, hxo, hyi, hyo, hxy⟩ := (hanswer haj).related (hanswer hak) hne.symm honce
  rw [← hxi] at hj
  rw [← hyi] at hk
  rcases hxy with hxy | hyx
  · exact hxy g t hj ⟨response, hxo⟩ hk ⟨response', hyo⟩
  · exact hyx g t hk ⟨response', hyo⟩ hj ⟨response, hxo⟩

/-- **Every request is answered.** A task that holds the guard can always go on; when nobody
holds it, the lock can let in any task that waits; every step brings some task on; and when
no task can go on, all that arrived have their answers. -/
theorem never_stuck (h : Reaches W.service calls s₀ ls c) :
    (∀ k mode body, c.status k = some (.holding mode body) →
      ∃ l c', Locks.Step W.service calls c l c' ∧ (l = .work k ∨ l = .drop k)) ∧
    ((∀ k mode body, c.status k ≠ some (.holding mode body)) → ∀ k mode body,
      c.status k = some (.waiting mode body) → ∃ c', Locks.Step W.service calls c (.take k) c') ∧
    ls.length ≤ ∑ k ∈ arrivals ls, (W.service.task (calls k)).cost ∧
    ((∀ l c', Locks.Step W.service calls c l c' → l.arrived? ≠ none) →
      ∀ k ∈ arrivals ls, ∃ a, c.status k = some (.done a)) := by
  refine ⟨fun k mode body hk => exists_step_of_holding _ _ hk,
    fun hfree k mode body hk => exists_take_of_free _ _ hfree hk, ?_, fun hlast => ?_⟩
  · rw [← h.length_add]
    exact Nat.le_add_right _ _
  · exact (h.all_done hlast).1

end Together

/-! ### A race on the sample server -/

namespace Sample

/-- A code is minted, and two tasks redeem it. -/
def racingCalls : Fin 3 → Call
  | 0 => authorizeCall
  | 1 => redeemCall "02"
  | 2 => redeemCall "03"

/-- Both redeeming tasks have arrived when the later one is let in first. -/
def raceLabels : List (Label (Fin 3)) :=
  [.arrive 0, .take 0, .work 0, .drop 0, .arrive 1, .arrive 2, .take 2, .work 2, .drop 2, .take 1,
    .work 1, .drop 1]

theorem reaches_race : ∃ c response a,
    Reaches (Bodies.whole build).service racingCalls start raceLabels c ∧
      c.status 2 = some (.done (.http (.ok (.tokens response)))) ∧ c.status 1 = some (.done a) ∧
        ∀ k body, c.status k ≠ some (.holding .write body) := by
  have h₀ : Reaches (Bodies.whole build).service racingCalls start [] ⟨start, fun _ => none⟩ :=
    .start
  have h₁ := h₀.step (.arrive (k := 0) rfl rfl)
  have h₂ := h₁.step (.take (k := 0) rfl (by intro j held body hj; fin_cases j <;> cases hj))
  have h₃ := h₂.step (.work (k := 0) rfl)
  have h₄ := h₃.step (.drop (k := 0) rfl)
  have h₅ := h₄.step (.arrive (k := 1) rfl rfl)
  have h₆ := h₅.step (.arrive (k := 2) rfl rfl)
  have h₇ := h₆.step (.take (k := 2) rfl (by intro j held body hj; fin_cases j <;> cases hj))
  have h₈ := h₇.step (.work (k := 2) rfl)
  have h₉ := h₈.step (.drop (k := 2) rfl)
  have h₁₀ := h₉.step (.take (k := 1) rfl (by intro j held body hj; fin_cases j <;> cases hj))
  have h₁₁ := h₁₀.step (.work (k := 1) rfl)
  have h₁₂ := h₁₁.step (.drop (k := 1) rfl)
  refine ⟨_, _, _, h₁₂, rfl, rfl, fun k body hk => ?_⟩
  fin_cases k <;> cases hk

theorem spends_racingCalls {k : Fin 3} (hk : k ≠ 0) :
    Spends build (racingCalls k) .authorizationCode (code "01") := by
  fin_cases k
  · exact absurd rfl hk
  · exact .code (tokenCall_redeemCall "02") rfl
  · exact .code (tokenCall_redeemCall "03") rfl

theorem injective_racingCalls :
    Function.Injective fun k => (racingCalls k).draws.generatedCode := by
  decide

end Sample

open Sample in
/-- The code is minted, redeemed by the later task, and then named by the earlier one. -/
theorem linearizable_race : ∃ c,
    Reaches (Bodies.whole build).service racingCalls start raceLabels c ∧
      c.state = (server build).run start [authorizeCall, redeemCall "03", redeemCall "02"] := by
  obtain ⟨c, response, a, h, -, -, hfree⟩ := reaches_race
  exact ⟨c, h, (linearizable h).2.2.1 hfree⟩

open Sample in
/-- The earlier task ends without tokens. -/
theorem spent_once_race : ∃ c a,
    Reaches (Bodies.whole build).service racingCalls start raceLabels c ∧
      c.status 1 = some (.done a) ∧ ∀ response, a ≠ .http (.ok (.tokens response)) := by
  obtain ⟨c, response, a, h, h₂, h₁, -⟩ := reaches_race
  refine ⟨c, a, h, h₁, fun response' ha => ?_⟩
  rw [ha] at h₁
  exact spent_once spawned_start injective_racingCalls h (spends_racingCalls (by decide)) h₂ 1
    (by decide) (spends_racingCalls (by decide)) response' h₁

open Sample in
theorem never_stuck_race :
    12 ≤ ∑ k ∈ arrivals raceLabels, ((Bodies.whole build).service.task (racingCalls k)).cost := by
  obtain ⟨c, response, a, h, -, -, -⟩ := reaches_race
  exact (never_stuck h).2.2.1

end GreenticConformance.OAuthMock
