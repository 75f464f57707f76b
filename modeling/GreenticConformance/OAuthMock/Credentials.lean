import GreenticConformance.OAuthMock.Grants

/-!
# Client credentials

The credentials of a request are read in one place and compared with the
configured secret in one handler only: client credentials requests are refused
unless the client is registered with that secret, and no other endpoint looks at
the secret at all.

## Main results

- `refused_iff` — which requests with invalid credentials are refused
- `credentials_checked_iff` — which requests check their credentials
-/

namespace GreenticConformance.OAuthMock

open Runs Handler

/-- The call goes to an endpoint that demands client credentials, and these are
the ones it presents. -/
inductive Authenticates (B : Build) (c : Call) (cred : ClientCredentials) : Prop
  | token {g : GrantType} {request : TokenRequest} (h : TokenCall B c g cred request)
  | introspect {headers : HeaderMap} {body : HashMap String String}
      (hc : c.request = .introspect headers body)
      (hx : extractClientCredentials B headers emptyTokenRequest = .ok cred)
  | revoke {headers : HeaderMap} {body : HashMap String String}
      (hc : c.request = .revoke headers body)
      (hx : extractClientCredentials B headers emptyTokenRequest = .ok cred)

/-- The credentials are those of a registered client. -/
def ValidCredentials (s : InnerState) (cred : ClientCredentials) : Prop :=
  ∃ client, s.client cred.clientId = some client ∧ client.clientSecret = cred.clientSecret

def Succeeds (r : Response) : Prop := ∃ reply, r = .http (.ok reply)

/-- Refused with `invalid_client`. -/
def RefusesClient (r : Response) : Prop := ∃ msg, r = .http (.error (.invalidClient msg))

/-- Success needs valid credentials, and invalid ones are refused. -/
def ChecksCredentials (B : Build) (s : InnerState) (c : Call) (cred : ClientCredentials) : Prop :=
  (Succeeds ((server B).event s c).output → ValidCredentials s cred) ∧
    (¬ ValidCredentials s cred → RefusesClient ((server B).event s c).output)

/-- A device code request names the stored device code of another client. -/
def PollsForeign (B : Build) (s : InnerState) (c : Call) (cred : ClientCredentials) : Prop :=
  ∃ code, Presents B c cred .deviceCode code ∧
    ∃ entry, s.deviceCodes.lookup code = some entry ∧ entry.clientId ≠ cred.clientId

variable {B : Build} {e : Served} {s : InnerState} {c : Call} {cred : ClientCredentials}
  {request : TokenRequest} {g : GrantType}

theorem RefusesClient.not_succeeds {r : Response} (h : RefusesClient r) : ¬ Succeeds r := by
  intro hsucc
  obtain ⟨reply, hs⟩ := hsucc
  obtain ⟨msg, hr⟩ := h
  cases hs.symm.trans hr

/-! ## The token endpoint -/

theorem refusesClient_iff {a : Except MockError TokenResponse} :
    RefusesClient (.http (a.map .tokens)) ↔ ∃ msg, a = .error (.invalidClient msg) := by
  cases a with
  | error err => simp [RefusesClient, Except.map]
  | ok response => simp [RefusesClient, Except.map]

/-- Client credentials requests are refused when their credentials are wrong. -/
theorem clientCredentials_refused_iff (h : Steps B e)
    (hc : TokenCall B e.input .clientCredentials cred request) :
    RefusesClient e.output ↔ ¬ ValidCredentials e.pre cred := by
  obtain ⟨a, s', ho, -, hrun⟩ := grantRun_of_steps h hc
  rw [ho, refusesClient_iff]
  cases hrun with
  | unknownClient hcl =>
    refine iff_of_true ⟨_, rfl⟩ ?_
    intro hvalid
    obtain ⟨client, hcl', -⟩ := hvalid
    cases hcl.symm.trans hcl'
  | wrongSecret hcl hne =>
    refine iff_of_true ⟨_, rfl⟩ ?_
    intro hvalid
    obtain ⟨client, hcl', hs⟩ := hvalid
    obtain rfl := Option.some.inj (hcl.symm.trans hcl')
    exact hne hs
  | unsigned msg hcl hs =>
    refine iff_of_false ?_ (not_not.mpr ⟨_, hcl, hs⟩)
    intro hrefused
    obtain ⟨_, h⟩ := hrefused
    cases h
  | granted hcl hs =>
    refine iff_of_false ?_ (not_not.mpr ⟨_, hcl, hs⟩)
    intro hrefused
    obtain ⟨_, h⟩ := hrefused
    cases h

/-- Authorization code requests never blame the client: whoever owns a stored
code is registered. -/
theorem authorizationCode_not_refused (hw : WellOwned B e.pre) (h : Steps B e)
    (hc : TokenCall B e.input .authorizationCode cred request) : ¬ RefusesClient e.output := by
  obtain ⟨a, s', ho, -, hrun⟩ := grantRun_of_steps h hc
  rw [ho, refusesClient_iff]
  intro hrefused
  obtain ⟨msg, ha⟩ := hrefused
  cases hrun with
  | orphan hr hl hm hcl => exact absurd hcl (hm.client ▸ (hw.codes _ _ hl).owned).not_unknown
  | _ => cases ha

theorem refreshToken_not_refused (hw : WellOwned B e.pre) (h : Steps B e)
    (hc : TokenCall B e.input .refreshToken cred request) : ¬ RefusesClient e.output := by
  obtain ⟨a, s', ho, -, hrun⟩ := grantRun_of_steps h hc
  rw [ho, refusesClient_iff]
  intro hrefused
  obtain ⟨msg, ha⟩ := hrefused
  cases hrun with
  | orphan ht hl he hcl => exact absurd hcl (he ▸ hw.refresh _ _ hl).not_unknown
  | _ => cases ha

/-- Device code requests blame the client for the code of another client only. -/
theorem deviceCode_refused_iff (hw : WellOwned B e.pre) (h : Steps B e)
    (hc : TokenCall B e.input .deviceCode cred request) :
    RefusesClient e.output ↔ PollsForeign B e.pre e.input cred := by
  obtain ⟨a, s', ho, -, hrun⟩ := grantRun_of_steps h hc
  rw [ho, refusesClient_iff]
  constructor
  · intro hrefused
    obtain ⟨msg, ha⟩ := hrefused
    cases hrun with
    | foreign hd hl hne => exact ⟨_, ⟨request, hc, hd⟩, _, hl, hne⟩
    | orphan hd hl he hst hcl => exact absurd hcl (he ▸ hw.devices _ _ hl).not_unknown
    | waiting =>
      split at ha
      · cases ha
      · cases ha
    | settled hd hl he hst =>
      generalize polledStatus e.input.draws _ = st at hst
      cases hst <;> cases ha
    | _ => cases ha
  · intro hpoll
    obtain ⟨code, ⟨request', hc', hd'⟩, entry, hl', hne'⟩ := hpoll
    obtain ⟨-, -, rfl⟩ := hc.unique hc'
    have hforeign : ∀ {code' entry'}, request.deviceCode = some code' →
        e.pre.deviceCodes.lookup code' = some entry' → entry'.clientId ≠ cred.clientId := by
      intro code' entry' hd hl
      obtain rfl := Option.some.inj (hd.symm.trans hd')
      obtain rfl := Option.some.inj (hl.symm.trans hl')
      exact hne'
    cases hrun with
    | missing hno => cases hno.symm.trans hd'
    | unknown hd hl =>
      obtain rfl := Option.some.inj (hd.symm.trans hd')
      cases hl.symm.trans hl'
    | foreign => exact ⟨_, rfl⟩
    | waiting hd hl he => exact absurd he (hforeign hd hl)
    | orphan hd hl he => exact absurd he (hforeign hd hl)
    | unsigned msg hd hl he => exact absurd he (hforeign hd hl)
    | exchanged hd hl he => exact absurd he (hforeign hd hl)
    | settled hd hl he => exact absurd he (hforeign hd hl)

/-! ## Introspection and revocation -/

section Body

variable {headers : HeaderMap} {body : HashMap String String}

/-- Introspection only asks for some readable credentials. -/
theorem introspect_not_refused (hc : c.request = .introspect headers body)
    (hx : extractClientCredentials B headers emptyTokenRequest = .ok cred) :
    ¬ RefusesClient ((server B).event s c).output := by
  intro h
  obtain ⟨msg, ho⟩ := h
  simp only [server_output, serve, hc, respond, introspect, hx, exec_liftResult_bind,
    exec_okOr_bind] at ho
  cases hb : body.lookup "token" with
  | none =>
    rw [hb] at ho
    cases ho
  | some t =>
    rw [hb] at ho
    cases ho

/-- Revocation only asks for some readable credentials. -/
theorem revoke_not_refused (hc : c.request = .revoke headers body)
    (hx : extractClientCredentials B headers emptyTokenRequest = .ok cred) :
    ¬ RefusesClient ((server B).event s c).output := by
  intro h
  obtain ⟨msg, ho⟩ := h
  simp only [server_output, serve, hc, respond, revoke, hx, exec_liftResult_bind,
    exec_okOr_bind] at ho
  cases hb : body.lookup "token" with
  | none =>
    rw [hb] at ho
    cases ho
  | some t =>
    rw [hb] at ho
    cases ho

end Body

/-! ## Who checks the credentials -/

/-- With invalid credentials a request is refused in two cases: it is a client
credentials request, or it polls the device code of another client. -/
theorem refused_iff (hw : WellOwned B s) (ha : Authenticates B c cred)
    (hv : ¬ ValidCredentials s cred) :
    RefusesClient ((server B).event s c).output ↔
      (∃ request, TokenCall B c .clientCredentials cred request) ∨ PollsForeign B s c cred := by
  have h := steps_event B s c
  cases ha with
  | @token g request hc =>
    have hcc : g ≠ .clientCredentials →
        ¬ ∃ request, TokenCall B c .clientCredentials cred request := by
      rintro hg ⟨_, hc'⟩
      exact hg (hc.unique hc').1
    have hpf : g ≠ .deviceCode → ¬ PollsForeign B s c cred := by
      rintro hg ⟨_, ⟨_, hc', -⟩, -⟩
      exact hg (hc.unique hc').1
    cases g with
    | authorizationCode =>
      exact iff_of_false (authorizationCode_not_refused hw h hc)
        (not_or_intro (hcc nofun) (hpf nofun))
    | clientCredentials =>
      exact iff_of_true ((clientCredentials_refused_iff h hc).mpr hv) (.inl ⟨_, hc⟩)
    | refreshToken =>
      exact iff_of_false (refreshToken_not_refused hw h hc)
        (not_or_intro (hcc nofun) (hpf nofun))
    | deviceCode =>
      rw [deviceCode_refused_iff hw h hc]
      exact (or_iff_right (hcc nofun)).symm
  | introspect hc hx =>
    have hend : c.request.endpoint ≠ .token := by rw [hc]; nofun
    refine iff_of_false (introspect_not_refused hc hx) ?_
    rintro (⟨_, hc'⟩ | ⟨_, ⟨_, hc', -⟩, -⟩) <;> exact hend hc'.endpoint
  | revoke hc hx =>
    have hend : c.request.endpoint ≠ .token := by rw [hc]; nofun
    refine iff_of_false (revoke_not_refused hc hx) ?_
    rintro (⟨_, hc'⟩ | ⟨_, ⟨_, hc', -⟩, -⟩) <;> exact hend hc'.endpoint

/-- **Who checks the credentials.** In every reachable state, a request that
presents credentials is handled as its credentials demand exactly when they are
valid, or it is a client credentials request, or it polls the device code of
another client. -/
theorem credentials_checked_iff {s : InnerState} {c : Call} {cred : ClientCredentials}
    (hs : Reachable B s) (ha : Authenticates B c cred) :
    ChecksCredentials B s c cred ↔ ValidCredentials s cred ∨
      (∃ request, TokenCall B c .clientCredentials cred request) ∨ PollsForeign B s c cred := by
  have hw : WellOwned B s := hs.wellOwned
  by_cases hv : ValidCredentials s cred
  · exact iff_of_true ⟨fun _ => hv, fun hno => absurd hv hno⟩ (.inl hv)
  · rw [or_iff_right hv, ← refused_iff hw ha hv]
    constructor
    · intro hcheck
      exact hcheck.2 hv
    · intro hr
      exact ⟨fun hsucc => absurd hsucc hr.not_succeeds, fun _ => hr⟩

/-! ### A wrong secret on the sample server -/

namespace Sample

def wrongSecret : ClientCredentials := ⟨"mock-client", "wrong-secret"⟩

/-- A complete redemption with a wrong secret. -/
def wrongSecretCall : Call :=
  ⟨.token ⟨none⟩ { redeemForm (code "01") with clientSecret := some "wrong-secret" }, draws 0 "02"⟩

/-- A client credentials request with a wrong secret. -/
def wrongGrantCall : Call :=
  ⟨.token ⟨none⟩ { form with
      grantType := "client_credentials", clientSecret := some "wrong-secret" },
    draws 0 "02"⟩

theorem not_validCredentials_wrongSecret (calls : List Call) :
    ¬ ValidCredentials ((server build).run start calls) wrongSecret := by
  intro h
  obtain ⟨client, hc, hs⟩ := h
  rw [InnerState.client, run_clients] at hc
  obtain rfl := Option.some.inj ((show start.client "mock-client" = some _ from rfl).symm.trans hc)
  revert hs
  decide

end Sample

open Sample in
/-- A wrong secret buys tokens. -/
theorem wrong_secret_accepted :
    Reachable build ((server build).run start [authorizeCall]) ∧
    Authenticates build wrongSecretCall wrongSecret ∧
    ¬ ChecksCredentials build ((server build).run start [authorizeCall]) wrongSecretCall
      wrongSecret := by
  refine ⟨⟨start, _, spawned_start, rfl⟩,
    .token (g := .authorizationCode) ⟨⟨none⟩, rfl, rfl, rfl⟩, fun h => ?_⟩
  exact not_validCredentials_wrongSecret _ (h.1 ⟨_, rfl⟩)

open Sample in
/-- The client credentials grant refuses it. -/
theorem wrong_secret_refused :
    RefusesClient ((server build).event start wrongGrantCall).output := by
  have hcall : TokenCall build wrongGrantCall .clientCredentials wrongSecret _ :=
    ⟨⟨none⟩, rfl, rfl, rfl⟩
  have hchecks : ChecksCredentials build start wrongGrantCall wrongSecret :=
    (credentials_checked_iff ⟨start, [], spawned_start, rfl⟩ (.token hcall)).mpr
      (.inr (.inl ⟨_, hcall⟩))
  exact hchecks.2 (not_validCredentials_wrongSecret [])

end GreenticConformance.OAuthMock
