import GreenticConformance.OAuthMock.Outcomes

/-!
# The steps of the server

The token endpoint, device authorization, revocation and the two decision
methods on top of the single handlers, and `Step`: everything one call can do.
-/

namespace GreenticConformance.OAuthMock

open Runs Handler

/-! ## Token endpoint -/

/-- The grants `token` dispatches to. -/
inductive GrantType where
  | authorizationCode
  | clientCredentials
  | refreshToken
  | deviceCode
  deriving DecidableEq

/-- The values of the form field `grant_type` that name a grant. -/
def GrantType.Named : GrantType → String → Prop
  | .authorizationCode, g => g = "authorization_code"
  | .clientCredentials, g => g = "client_credentials"
  | .refreshToken, g => g = "refresh_token"
  | .deviceCode, g => g = "urn:ietf:params:oauth:grant-type:device_code" ∨ g = "device_code"

theorem GrantType.Named.unique {a b : GrantType} {g : String} (ha : a.Named g) (hb : b.Named g) :
    a = b := by
  cases a <;> cases b <;> first | rfl | (simp only [GrantType.Named] at ha hb; subst_vars; simp_all)

section Token

variable (B : Build) (d : Draws) (s : InnerState)

inductive TokenRun (headers : HeaderMap) (request : TokenRequest) :
    Except MockError TokenResponse → InnerState → Prop
  | unauthenticated {e : MockError} (hx : extractClientCredentials B headers request = .error e) :
      TokenRun headers request (.error e) s
  | authorizationCode {cred : ClientCredentials} {r : Except MockError TokenResponse}
      {s' : InnerState} (hx : extractClientCredentials B headers request = .ok cred)
      (hg : GrantType.authorizationCode.Named request.grantType)
      (h : AuthorizationCodeRun B d s cred request r s') : TokenRun headers request r s'
  | clientCredentials {cred : ClientCredentials} {r : Except MockError TokenResponse}
      {s' : InnerState} (hx : extractClientCredentials B headers request = .ok cred)
      (hg : GrantType.clientCredentials.Named request.grantType)
      (h : ClientCredentialsRun d s cred request r s') : TokenRun headers request r s'
  | refreshToken {cred : ClientCredentials} {r : Except MockError TokenResponse}
      {s' : InnerState} (hx : extractClientCredentials B headers request = .ok cred)
      (hg : GrantType.refreshToken.Named request.grantType)
      (h : RefreshTokenRun d s cred request r s') : TokenRun headers request r s'
  | deviceCode {cred : ClientCredentials} {r : Except MockError TokenResponse}
      {s' : InnerState} (hx : extractClientCredentials B headers request = .ok cred)
      (hg : GrantType.deviceCode.Named request.grantType)
      (h : DeviceCodeRun d s cred request r s') : TokenRun headers request r s'
  | unsupported {cred : ClientCredentials} {msg : String}
      (hx : extractClientCredentials B headers request = .ok cred)
      (hg : ∀ g : GrantType, ¬ g.Named request.grantType) :
      TokenRun headers request (.error (.invalidRequest msg)) s

theorem token_run (headers : HeaderMap) (request : TokenRequest) :
    TokenRun B d s headers request ((token B d headers request).exec s).1
      ((token B d headers request).exec s).2 := by
  simp only [token, exec_liftResult_bind]
  cases hx : extractClientCredentials B headers request with
  | error e => exact .unauthenticated hx
  | ok cred =>
    simp only
    split
    · next hg => exact .authorizationCode hx hg (handleAuthorizationCode_run B d s cred request)
    · next hg => exact .clientCredentials hx hg (handleClientCredentials_run d s cred request)
    · next hg => exact .refreshToken hx hg (handleRefreshToken_run d s cred request)
    · next hg => exact .deviceCode hx (.inl hg) (handleDeviceCode_run d s cred request)
    · next hg => exact .deviceCode hx (.inr hg) (handleDeviceCode_run d s cred request)
    · next h₁ h₂ h₃ h₄ h₅ =>
      refine .unsupported hx fun g hg => ?_
      cases g with
      | authorizationCode => exact h₁ hg
      | clientCredentials => exact h₂ hg
      | refreshToken => exact h₃ hg
      | deviceCode => exact hg.elim h₄ h₅

/-! ## Device authorization -/

/-- The entry that `device_authorization` stores. -/
def startedDevice (client : ClientConfig) (scope : Option String) : DeviceCodeEntry where
  clientId := client.clientId
  scope := scopeOrAllowed client scope
  _deviceCode := d.generatedCode
  userCode := d.userCode
  expiresAt := d.now + TimeDuration.minutes 10
  _interval := 5
  status := .pending 0

def deviceResponse : DeviceAuthorizationResponse where
  deviceCode := d.generatedCode
  userCode := d.userCode
  verificationUri := s.issuer ++ "/device"
  verificationUriComplete := s.issuer ++ "/device?user_code=" ++ d.userCode
  expiresIn := 600
  interval := 5

inductive DeviceAuthorizationRun (request : DeviceAuthorizationRequest) :
    Except MockError DeviceAuthorizationResponse → InnerState → Prop
  | disabled (h : ¬ B.features.deviceCode) :
      DeviceAuthorizationRun request (.error (.invalidRequest "device_code feature disabled")) s
  | unknownClient (hc : s.client request.clientId = none) :
      DeviceAuthorizationRun request (.error (.invalidClient "unknown client")) s
  | started {client : ClientConfig} (hf : B.features.deviceCode)
      (hc : s.client request.clientId = some client) :
      DeviceAuthorizationRun request (.ok (deviceResponse d s))
        (s.insertDeviceCode d.generatedCode (startedDevice d client request.scope))

theorem deviceAuthorization_run (request : DeviceAuthorizationRequest) :
    DeviceAuthorizationRun B d s request ((deviceAuthorization B d request).exec s).1
      ((deviceAuthorization B d request).exec s).2 := by
  simp only [deviceAuthorization, exec_failIf_bind, exec_get_bind, exec_okOr_bind]
  split
  · next hf => exact .disabled hf
  · next hf =>
    split
    · next client hc => exact .started (not_not.mp hf) hc
    · next hc => exact .unknownClient hc

/-! ## Revocation -/

/-- `introspect` and `revoke` get past their credentials and find a token. -/
def NamesToken (headers : HeaderMap) (body : HashMap String String) (t : String) : Prop :=
  (∃ cred, extractClientCredentials B headers emptyTokenRequest = .ok cred) ∧
    body.lookup "token" = some t

inductive RevokeRun (headers : HeaderMap) (body : HashMap String String) :
    Except MockError Unit → InnerState → Prop
  | refused (e : MockError) (h : ∀ t, ¬ NamesToken B headers body t) :
      RevokeRun headers body (.error e) s
  | revoked {t : String} (h : NamesToken B headers body t) :
      RevokeRun headers body (.ok ()) ((s.removeAccessToken t).removeRefreshToken t)

theorem revoke_run (headers : HeaderMap) (body : HashMap String String) :
    RevokeRun B s headers body ((revoke B headers body).exec s).1
      ((revoke B headers body).exec s).2 := by
  simp only [revoke, exec_liftResult_bind]
  cases hx : extractClientCredentials B headers emptyTokenRequest with
  | error e =>
    refine .refused e fun t h => ?_
    obtain ⟨⟨cred, hcred⟩, -⟩ := h
    cases hx.symm.trans hcred
  | ok cred =>
    simp only [exec_okOr_bind]
    cases ht : body.lookup "token" with
    | none => exact .refused _ fun t h => nomatch ht.symm.trans h.2
    | some t => exact .revoked ⟨⟨cred, hx⟩, ht⟩

/-! ## Device decisions -/

/-- The argument of a decision matches the entry. -/
def DeviceCodeEntry.Matches (entry : DeviceCodeEntry) (userCode : String) : Prop :=
  eqIgnoreAsciiCase entry.userCode userCode = true

theorem findUserCode_eq_some {userCode c : String} (h : findUserCode d s userCode = some c) :
    ∃ entry, s.deviceCodes.lookup c = some entry ∧ entry.Matches userCode := by
  have hp := List.find?_some h
  rwa [Option.any_eq_true] at hp

theorem findUserCode_eq_none {userCode : String} (h : findUserCode d s userCode = none)
    {c : String} {entry : DeviceCodeEntry} (hl : s.deviceCodes.lookup c = some entry) :
    ¬ entry.Matches userCode := by
  intro hm
  have hmem : c ∈ d.order.iter s.deviceCodes.keys := by
    rw [d.order.mem_iter, Finmap.mem_keys]
    exact Finmap.mem_of_lookup_eq_some hl
  have hp := List.find?_eq_none.mp h c hmem
  rw [hl] at hp
  exact hp hm

inductive DecisionRun (status : DeviceCodeStatus) (userCode : String) :
    Except String Unit → InnerState → Prop
  | notFound (msg : String) (h : findUserCode d s userCode = none) :
      DecisionRun status userCode (.error msg) s
  | decided {c : String} {entry : DeviceCodeEntry} (h : findUserCode d s userCode = some c)
      (hl : s.deviceCodes.lookup c = some entry) (hm : entry.Matches userCode) :
      DecisionRun status userCode (.ok ()) (s.insertDeviceCode c { entry with status := status })

theorem decideDeviceCode_run (status : DeviceCodeStatus) (userCode : String) :
    DecisionRun d s status userCode (decideDeviceCode d status userCode s).1
      (decideDeviceCode d status userCode s).2 := by
  unfold decideDeviceCode
  cases h : findUserCode d s userCode with
  | none => exact .notFound _ h
  | some c =>
    obtain ⟨entry, hl, hm⟩ := findUserCode_eq_some d s h
    simp only [hl]
    exact .decided h hl hm

end Token

/-! ## One call -/

/-- What kind of step a request is. -/
inductive Endpoint where
  | read
  | authorize
  | token
  | deviceAuthorization
  | revoke
  | decision
  deriving DecidableEq

/-- The handlers under `read` only take the read guard. -/
def Request.endpoint : Request → Endpoint
  | .discovery | .jwks | .userinfo _ | .introspect _ _ => .read
  | .authorize _ => .authorize
  | .token _ _ => .token
  | .deviceAuthorization _ => .deviceAuthorization
  | .revoke _ _ => .revoke
  | .approveDeviceCode _ | .denyDeviceCode _ => .decision

/-- A token request of grant `g` whose client credentials can be read. -/
def TokenCall (B : Build) (c : Call) (g : GrantType) (cred : ClientCredentials)
    (request : TokenRequest) : Prop :=
  ∃ headers, c.request = .token headers request ∧
    extractClientCredentials B headers request = .ok cred ∧ g.Named request.grantType

namespace TokenCall

variable {B : Build} {c : Call} {g g' : GrantType} {cred cred' : ClientCredentials}
  {request request' : TokenRequest}

theorem endpoint (h : TokenCall B c g cred request) : c.request.endpoint = .token := by
  obtain ⟨headers, hc, -⟩ := h
  rw [hc]; rfl

/-- A call is a token request of one grant, client and form only. -/
theorem unique (h : TokenCall B c g cred request) (h' : TokenCall B c g' cred' request') :
    g = g' ∧ cred = cred' ∧ request = request' := by
  obtain ⟨headers, hc, hx, hg⟩ := h
  obtain ⟨headers', hc', hx', hg'⟩ := h'
  obtain ⟨rfl, rfl⟩ := Request.token.inj (hc.symm.trans hc')
  exact ⟨hg.unique hg', Except.ok.inj (hx.symm.trans hx'), rfl⟩

end TokenCall

/-- What the handler of grant `g` does. -/
def GrantRun (B : Build) (d : Draws) (s : InnerState) (g : GrantType) (cred : ClientCredentials)
    (request : TokenRequest) : Except MockError TokenResponse → InnerState → Prop :=
  match g with
  | .authorizationCode => AuthorizationCodeRun B d s cred request
  | .clientCredentials => ClientCredentialsRun d s cred request
  | .refreshToken => RefreshTokenRun d s cred request
  | .deviceCode => DeviceCodeRun d s cred request

/-- A call of `approve_device_code` or `deny_device_code` with its status. -/
def Request.Decides : Request → DeviceCodeStatus → String → Prop
  | .approveDeviceCode u, status, userCode => status = .approved ∧ u = userCode
  | .denyDeviceCode u, status, userCode => status = .denied ∧ u = userCode
  | _, _, _ => False

theorem Request.Decides.endpoint {r : Request} {status : DeviceCodeStatus} {userCode : String}
    (h : r.Decides status userCode) : r.endpoint = .decision := by
  cases r <;> first | rfl | exact h.elim

theorem Request.Decides.unique {r : Request} {status status' : DeviceCodeStatus}
    {userCode userCode' : String} (h : r.Decides status userCode)
    (h' : r.Decides status' userCode') : status = status' ∧ userCode = userCode' := by
  cases r with
  | approveDeviceCode u => exact ⟨h.1.trans h'.1.symm, h.2.symm.trans h'.2⟩
  | denyDeviceCode u => exact ⟨h.1.trans h'.1.symm, h.2.symm.trans h'.2⟩
  | _ => exact h.elim

/-- Everything one call can do to a state. -/
inductive Step (B : Build) (s : InnerState) (c : Call) : Response → InnerState → Prop
  | read {r : Response} (hc : c.request.endpoint = .read)
      (hr : ∀ response, r ≠ .http (.ok (.tokens response))) : Step B s c r s
  | authorize {query : AuthorizeQuery} {r : Except MockError String} {s' : InnerState}
      (hc : c.request = .authorize query) (h : AuthorizeRun B c.draws s query r s') :
      Step B s c (.http (r.map .redirect)) s'
  | token {g : GrantType} {cred : ClientCredentials} {request : TokenRequest}
      {r : Except MockError TokenResponse} {s' : InnerState} (hc : TokenCall B c g cred request)
      (h : GrantRun B c.draws s g cred request r s') : Step B s c (.http (r.map .tokens)) s'
  | tokenRefused (e : MockError) (hc : c.request.endpoint = .token)
      (hn : ∀ g cred request, ¬ TokenCall B c g cred request) : Step B s c (.http (.error e)) s
  | deviceAuthorization {request : DeviceAuthorizationRequest}
      {r : Except MockError DeviceAuthorizationResponse} {s' : InnerState}
      (hc : c.request = .deviceAuthorization request)
      (h : DeviceAuthorizationRun B c.draws s request r s') :
      Step B s c (.http (r.map .device)) s'
  | revoke {headers : HeaderMap} {body : HashMap String String} {r : Except MockError Unit}
      {s' : InnerState} (hc : c.request = .revoke headers body)
      (h : RevokeRun B s headers body r s') : Step B s c (.http (r.map fun _ => .ok)) s'
  | decision {status : DeviceCodeStatus} {userCode : String} {r : Except String Unit}
      {s' : InnerState} (hc : c.request.Decides status userCode)
      (h : DecisionRun c.draws s status userCode r s') : Step B s c (.call r) s'

theorem userinfo_state (s : InnerState) (headers : HeaderMap) :
    ((userinfo headers).exec s).2 = s := by
  simp only [userinfo, exec_liftResult_bind]
  split
  · simp only [exec_get_bind, exec_failIf_bind]
    split <;> rfl
  · rfl

theorem introspect_state (B : Build) (s : InnerState) (headers : HeaderMap)
    (body : HashMap String String) : ((introspect B headers body).exec s).2 = s := by
  simp only [introspect, exec_liftResult_bind]
  split
  · simp only [exec_okOr_bind]
    split <;> rfl
  · rfl

theorem map_ne_tokens {α : Type} {reply : α → Reply} (hr : ∀ a t, reply a ≠ .tokens t)
    (r : Except MockError α) (response : TokenResponse) :
    Response.http (r.map reply) ≠ .http (.ok (.tokens response)) := by
  cases r with
  | error e => nofun
  | ok a => exact fun h => hr a response (Except.ok.inj (Response.http.inj h))

/-- A token request either reaches the handler of its grant or is refused
without touching the state. -/
theorem step_token {B : Build} {s : InnerState} {c : Call} {headers : HeaderMap}
    {request : TokenRequest} {r : Except MockError TokenResponse} {s' : InnerState}
    (hc : c.request = .token headers request)
    (h : TokenRun B c.draws s headers request r s') : Step B s c (.http (r.map .tokens)) s' := by
  have hend : c.request.endpoint = .token := by rw [hc]; rfl
  cases h with
  | unauthenticated hx =>
    refine .tokenRefused _ hend fun g cred request' h => ?_
    obtain ⟨headers', hc', hx', -⟩ := h
    obtain ⟨rfl, rfl⟩ := Request.token.inj (hc.symm.trans hc')
    cases hx.symm.trans hx'
  | authorizationCode hx hg h => exact .token ⟨headers, hc, hx, hg⟩ h
  | clientCredentials hx hg h => exact .token ⟨headers, hc, hx, hg⟩ h
  | refreshToken hx hg h => exact .token ⟨headers, hc, hx, hg⟩ h
  | deviceCode hx hg h => exact .token ⟨headers, hc, hx, hg⟩ h
  | unsupported hx hg =>
    refine .tokenRefused _ hend fun g cred request' h => ?_
    obtain ⟨headers', hc', -, hg'⟩ := h
    obtain ⟨rfl, rfl⟩ := Request.token.inj (hc.symm.trans hc')
    exact hg g hg'

/-- Serving a call is one of its steps. -/
theorem serve_step (B : Build) (s : InnerState) (c : Call) :
    Step B s c (serve B s c).1 (serve B s c).2 := by
  unfold serve
  cases hc : c.request with
  | discovery => exact .read (hc ▸ rfl) nofun
  | jwks => exact .read (hc ▸ rfl) nofun
  | authorize query => exact .authorize hc (authorize_run B c.draws s query)
  | token headers request => exact step_token hc (token_run B c.draws s headers request)
  | deviceAuthorization request =>
    exact .deviceAuthorization hc (deviceAuthorization_run B c.draws s request)
  | userinfo headers =>
    simp only [respond, userinfo_state]
    exact .read (hc ▸ rfl) (map_ne_tokens nofun _)
  | introspect headers body =>
    simp only [respond, introspect_state]
    exact .read (hc ▸ rfl) (map_ne_tokens nofun _)
  | revoke headers body => exact .revoke hc (revoke_run B s headers body)
  | approveDeviceCode u =>
    exact .decision (hc ▸ ⟨rfl, rfl⟩) (decideDeviceCode_run c.draws s .approved u)
  | denyDeviceCode u =>
    exact .decision (hc ▸ ⟨rfl, rfl⟩) (decideDeviceCode_run c.draws s .denied u)

/-- The event is a step of the server. -/
abbrev Steps (B : Build) (e : Served) : Prop := Step B e.pre e.input e.output e.post

theorem steps_event (B : Build) (s : InnerState) (c : Call) : Steps B ((server B).event s c) :=
  serve_step B s c

theorem steps_of_mem_trace {B : Build} {s : InnerState} {calls : List Call} {e : Served}
    (h : e ∈ (server B).trace s calls) : Steps B e := by
  obtain ⟨is₁, i, is₂, -, rfl⟩ := (server B).exists_of_mem_trace h
  exact steps_event B _ i

/-- A token request whose credentials can be read is answered by the handler
of its grant. -/
theorem grantRun_of_steps {B : Build} {e : Served} {g : GrantType} {cred : ClientCredentials}
    {request : TokenRequest} (h : Steps B e) (hc : TokenCall B e.input g cred request) :
    ∃ a s', e.output = .http (a.map .tokens) ∧ e.post = s' ∧
      GrantRun B e.input.draws e.pre g cred request a s' := by
  have hend := hc.endpoint
  unfold Steps at h
  generalize e.output = r at h
  generalize e.post = s' at h
  cases h with
  | read hc' => cases hc'.symm.trans hend
  | authorize hc' => rw [hc'] at hend; cases hend
  | token hc' h =>
    obtain ⟨rfl, rfl, rfl⟩ := hc'.unique hc
    exact ⟨_, _, rfl, rfl, h⟩
  | tokenRefused _ _ hn => exact absurd hc (hn _ _ _)
  | deviceAuthorization hc' => rw [hc'] at hend; cases hend
  | revoke hc' => rw [hc'] at hend; cases hend
  | decision hc' => cases hc'.endpoint.symm.trans hend

/-- An authorize request is answered by its handler. -/
theorem authorizeRun_of_steps {B : Build} {e : Served} {query : AuthorizeQuery} (h : Steps B e)
    (hc : e.input.request = .authorize query) :
    ∃ (r : Except MockError String) (s' : InnerState), e.output = .http (r.map .redirect) ∧
      e.post = s' ∧ AuthorizeRun B e.input.draws e.pre query r s' := by
  have hend : e.input.request.endpoint = .authorize := by rw [hc]; rfl
  unfold Steps at h
  generalize e.output = r at h
  generalize e.post = s' at h
  cases h with
  | read hc' => cases hc'.symm.trans hend
  | authorize hc' h =>
    obtain rfl := Request.authorize.inj (hc'.symm.trans hc)
    exact ⟨_, _, rfl, rfl, h⟩
  | token hc' => cases hc'.endpoint.symm.trans hend
  | tokenRefused _ hc' => cases hc'.symm.trans hend
  | deviceAuthorization hc' => cases hc'.symm.trans hc
  | revoke hc' => cases hc'.symm.trans hc
  | decision hc' => cases hc'.endpoint.symm.trans hend

/-- A revocation request is answered by the handler of revocations. -/
theorem revokeRun_of_steps {B : Build} {e : Served} {headers : HeaderMap}
    {body : HashMap String String} (h : Steps B e) (hc : e.input.request = .revoke headers body) :
    ∃ (a : Except MockError Unit) (s' : InnerState), e.output = .http (a.map fun _ => .ok) ∧
      e.post = s' ∧ RevokeRun B e.pre headers body a s' := by
  have hend : e.input.request.endpoint = .revoke := by rw [hc]; rfl
  unfold Steps at h
  generalize e.output = r at h
  generalize e.post = s' at h
  cases h with
  | read hc' => cases hc'.symm.trans hend
  | authorize hc' => cases hc'.symm.trans hc
  | token hc' => cases hc'.endpoint.symm.trans hend
  | tokenRefused _ hc' => cases hc'.symm.trans hend
  | deviceAuthorization hc' => cases hc'.symm.trans hc
  | revoke hc' h =>
    obtain ⟨rfl, rfl⟩ := Request.revoke.inj (hc'.symm.trans hc)
    exact ⟨_, _, rfl, rfl, h⟩
  | decision hc' => cases hc'.endpoint.symm.trans hend

end GreenticConformance.OAuthMock
