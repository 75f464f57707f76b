import GreenticConformance.OAuthMock.Steps

/-!
# What a served call did

Predicates on one event of a run, in the words of the protocol: an authorize
request mints a code, a token request redeems it, presents a refresh token,
polls a device code or exchanges a grant for tokens, a call decides on a device
code. The last definition lists everything an event can do to one device code.
-/

namespace GreenticConformance.OAuthMock

open Runs

variable (B : Build)

/-- The event answers a token request with tokens. -/
def Answers (e : Served) (response : TokenResponse) : Prop :=
  e.output = .http (.ok (.tokens response))

/-- The event answers with tokens. -/
def YieldsTokens (e : Served) : Prop := ∃ response, Answers e response

/-- The event answers with access token `t`. -/
def IssuesAccess (e : Served) (t : String) : Prop :=
  ∃ response, Answers e response ∧ response.accessToken = t

/-- The event answers with refresh token `t`. -/
def IssuesRefresh (e : Served) (t : String) : Prop :=
  ∃ response, Answers e response ∧ response.refreshToken = some t

/-! ## Authorization codes -/

/-- An authorize request passed all its checks and drew `code`. -/
structure MintsCode (e : Served) (code : String) (query : AuthorizeQuery)
    (client : ClientConfig) : Prop where
  requested : e.input.request = .authorize query
  grants : Grants B e.pre query client
  code : e.input.draws.generatedCode = code

/-- An authorization code request of the complete form names `code`. -/
def RedeemsCode (e : Served) (code : String) : Prop :=
  ∃ cred request redirectUri codeVerifier, TokenCall B e.input .authorizationCode cred request ∧
    Redeems B request code redirectUri codeVerifier

def CodeIssued (e : Served) (code : String) (entry : AuthorizationCode) : Prop :=
  ∃ query client, MintsCode B e code query client ∧ entry = grantedCode e.input.draws query client

/-! ## Exchanges -/

/-- The data of a successful exchange of a stored grant for tokens. -/
structure Exchange where
  grant : GrantType
  credentials : ClientCredentials
  request : TokenRequest
  client : ClientConfig
  scope : HashSet String
  nonce : Option String
  access : String
  id : String

/-- The stored grant that an exchange presents, with its scope and nonce. -/
inductive Presented (s : InnerState) (d : Draws) (cred : ClientCredentials)
    (request : TokenRequest) : GrantType → HashSet String → Option String → Prop
  | authorizationCode {c r v : String} {entry : AuthorizationCode} (hr : Redeems B request c r v)
      (hl : s.authorizationCodes.lookup c = some entry) (hm : Redeemable B cred entry r v) :
      Presented s d cred request .authorizationCode entry.scope entry.nonce
  | refreshToken {t : String} {entry : RefreshTokenEntry} (ht : request.refreshToken = some t)
      (hl : s.refreshTokens.lookup t = some entry) (he : entry.clientId = cred.clientId) :
      Presented s d cred request .refreshToken entry.scope none
  | deviceCode {c : String} {entry : DeviceCodeEntry} (hd : request.deviceCode = some c)
      (hl : s.deviceCodes.lookup c = some entry) (he : entry.clientId = cred.clientId)
      (hst : polledStatus d entry = .approved) :
      Presented s d cred request .deviceCode entry.scope none

/-- The call is entitled to the exchange `x`. -/
structure Accepts (s : InnerState) (c : Call) (x : Exchange) : Prop where
  call : TokenCall B c x.grant x.credentials x.request
  registered : s.client x.credentials.clientId = some x.client
  presented : Presented B s c.draws x.credentials x.request x.grant x.scope x.nonce
  signs : Signs c.draws s x.client x.scope x.nonce x.access x.id

/-- The event is the exchange `x`. -/
structure Exchanged (e : Served) (x : Exchange) : Prop where
  call : TokenCall B e.input x.grant x.credentials x.request
  registered : e.pre.client x.credentials.clientId = some x.client
  presented : Presented B e.pre e.input.draws x.credentials x.request x.grant x.scope x.nonce
  signs : Signs e.input.draws e.pre x.client x.scope x.nonce x.access x.id
  output : Answers e (exchangeResponse e.input.draws x.scope x.access x.id)

theorem Exchanged.accepts {B : Build} {e : Served} {x : Exchange} (h : Exchanged B e x) :
    Accepts B e.pre e.input x :=
  ⟨h.call, h.registered, h.presented, h.signs⟩

/-- A client credentials request is granted the access token `access`. -/
structure ClientGranted (e : Served) (cred : ClientCredentials) (request : TokenRequest)
    (client : ClientConfig) (access : String) : Prop where
  call : TokenCall B e.input .clientCredentials cred request
  registered : e.pre.client cred.clientId = some client
  secret : client.clientSecret = cred.clientSecret
  signs : e.input.draws.encode (jwtHeader e.pre)
    (.access (accessClaims e.input.draws e.pre client (scopeOrAllowed client request.scope)))
    e.pre.signing.encoding = .ok access
  output : Answers e (clientCredentialsResponse (scopeOrAllowed client request.scope) access)

/-! ## Refresh tokens -/

/-- A refresh token request names `t`. -/
def PresentsRefresh (e : Served) (t : String) : Prop :=
  ∃ cred request, TokenCall B e.input .refreshToken cred request ∧ request.refreshToken = some t

/-- A successful revocation names `t`. -/
def Revokes (e : Served) (t : String) : Prop :=
  ∃ headers body, e.input.request = .revoke headers body ∧ NamesToken B headers body t

def RefreshConsumed (e : Served) (t : String) : Prop := PresentsRefresh B e t ∨ Revokes B e t

/-- The refresh token entry an exchange stores. -/
def Exchange.entry (x : Exchange) (e : Served) : RefreshTokenEntry where
  clientId := x.client.clientId
  scope := x.scope
  _subject := e.pre.user
  _issuedAt := e.input.draws.issuedAt

def RefreshIssued (e : Served) (t : String) (entry : RefreshTokenEntry) : Prop :=
  ∃ x, Exchanged B e x ∧ e.input.draws.generatedCode = t ∧ entry = x.entry e

/-! ## Device codes -/

/-- A device authorization request drew the device code `c`. -/
structure StartsDevice (e : Served) (c : String) (request : DeviceAuthorizationRequest)
    (client : ClientConfig) : Prop where
  requested : e.input.request = .deviceAuthorization request
  enabled : B.features.deviceCode
  registered : e.pre.client request.clientId = some client
  code : e.input.draws.generatedCode = c

/-- A device code request names `c`. -/
def PollsDevice (e : Served) (c : String) (cred : ClientCredentials) : Prop :=
  ∃ request, TokenCall B e.input .deviceCode cred request ∧ request.deviceCode = some c

/-- A device code request names `c` and is answered with tokens. -/
def DeviceExchanged (e : Served) (c : String) : Prop :=
  (∃ cred, PollsDevice B e c cred) ∧ YieldsTokens e

/-- An approval or denial reaches the entry stored under `c`. -/
def DecidesOn (e : Served) (c : String) (status : DeviceCodeStatus) : Prop :=
  ∃ userCode, e.input.request.Decides status userCode ∧
    findUserCode e.input.draws e.pre userCode = some c

/-- A refused poll: the polled status, the status it leaves and its error. -/
inductive PollRefused : DeviceCodeStatus → DeviceCodeStatus → MockError → Prop
  | waiting (n : UInt32) : PollRefused (.pending n) (.pending (n + 1))
      (if (n + 1) % 3 = 0 then .slowDown else .authorizationPending)
  | settled {st : DeviceCodeStatus} {err : MockError} (h : Settled st err) : PollRefused st st err

/-- Everything an event can do to the device code `c`. -/
inductive DeviceStep (e : Served) (c : String) :
    Option DeviceCodeEntry → Option DeviceCodeEntry → Prop
  | started {o : Option DeviceCodeEntry} {request : DeviceAuthorizationRequest}
      {client : ClientConfig} (h : StartsDevice B e c request client) :
      DeviceStep e c o (some (startedDevice e.input.draws client request.scope))
  | idle {o : Option DeviceCodeEntry} (hs : ∀ request client, ¬ StartsDevice B e c request client)
      (hp : ∀ entry cred, o = some entry → entry.clientId = cred.clientId →
        ¬ PollsDevice B e c cred)
      (hd : ∀ status, ¬ DecidesOn e c status) : DeviceStep e c o o
  | polled {entry : DeviceCodeEntry} {cred : ClientCredentials} {st : DeviceCodeStatus}
      {err : MockError} (hp : PollsDevice B e c cred) (he : entry.clientId = cred.clientId)
      (hst : PollRefused (polledStatus e.input.draws entry) st err)
      (ho : e.output = .http (.error err)) :
      DeviceStep e c (some entry) (some { entry with status := st })
  | exchanged {entry : DeviceCodeEntry} {x : Exchange} (hx : Exchanged B e x)
      (hg : x.grant = .deviceCode) (hc : x.request.deviceCode = some c)
      (he : entry.clientId = x.credentials.clientId) (hsc : x.scope = entry.scope)
      (hst : polledStatus e.input.draws entry = .approved) :
      DeviceStep e c (some entry) (some { entry with status := .completed })
  | lost {entry : DeviceCodeEntry} {cred : ClientCredentials} {err : MockError}
      (hp : PollsDevice B e c cred) (he : entry.clientId = cred.clientId)
      (hst : polledStatus e.input.draws entry = .approved)
      (hl : e.pre.client cred.clientId = none ∨ ¬ SigningSucceeds e.input.draws)
      (ho : e.output = .http (.error err)) : DeviceStep e c (some entry) none
  | decided {entry : DeviceCodeEntry} {status : DeviceCodeStatus} (h : DecidesOn e c status) :
      DeviceStep e c (some entry) (some { entry with status := status })

end GreenticConformance.OAuthMock
