import GreenticConformance.OAuthMock.Types
import GreenticConformance.OAuthMock.Strings

/-!
# The request handlers

The handlers of `crates/oauth-mock/src/lib.rs`, one definition a function, in
the order of the source. A handler runs under the write guard: it threads the
guarded state, and an early `return Err(..)` or `?` keeps what was written
before it.
-/

namespace GreenticConformance.OAuthMock

/-! ## Early returns under a guard -/

/-- Code that holds the guard: an error does not undo earlier writes. -/
abbrev Handler (α : Type) := ExceptT MockError (StateM InnerState) α

namespace Handler

/-- `opt.ok_or_else(|| e)?`. -/
def okOr {α : Type} (o : Option α) (e : MockError) : Handler α :=
  match o with
  | some a => pure a
  | none => throw e

/-- `if c { return Err(e) }`. -/
def failIf (c : Prop) [Decidable c] (e : MockError) : Handler Unit :=
  if c then throw e else pure ()

/-- `result?`. -/
def liftResult {α : Type} (r : Except MockError α) : Handler α :=
  match r with
  | .ok a => pure a
  | .error e => throw e

/-- The answer of a handler and the state it leaves behind. -/
def exec {α : Type} (h : Handler α) (s : InnerState) : Except MockError α × InnerState :=
  (ExceptT.run h).run s

end Handler

open Handler

/-! ## Scopes -/

/-- The elements of a set of strings in increasing order. -/
def sorted (s : HashSet String) : List String :=
  Quot.liftOn s.val (fun l => l.insertionSort (· ≤ ·)) fun a b h =>
    List.Perm.eq_of_pairwise' (List.pairwise_insertionSort _ a) (List.pairwise_insertionSort _ b)
      (((List.perm_insertionSort _ a).trans h).trans (List.perm_insertionSort _ b).symm)

/-- `parse_scope`. Its `Result` is always `Ok`. -/
def parseScope (scope : Option String) : HashSet String :=
  match scope with
  | some value => (splitWhitespace value).toFinset
  | none => ∅

def scopeToString (scope : HashSet String) : String := " ".intercalate (sorted scope)

def defaultScope : HashSet String := {"openid", "profile", "email"}

section Handlers

variable (B : Build) (d : Draws)

/-! ## Credentials and signatures -/

/-- `extract_client_credentials`: the `Authorization` header, when there is
one, is the only source; the form fields are read without it. -/
def extractClientCredentials (headers : HeaderMap) (request : TokenRequest) :
    Except MockError ClientCredentials :=
  match headers.authorization with
  | some headerValue => do
    let auth ← match headerValue.toStr with
      | some auth => .ok auth
      | none => .error (.invalidClient "invalid Authorization header")
    match stripPrefix "Basic " auth with
    | some encoded => do
      let decoded ← match B.crates.standardDecode encoded with
        | some decoded => .ok decoded
        | none => .error (.invalidClient "invalid basic auth")
      let decoded ← match String.fromUTF8? decoded with
        | some decoded => .ok decoded
        | none => .error (.invalidClient "invalid utf8 basic auth")
      match splitOnce ':' decoded with
      | some (id, secret) => .ok ⟨id, secret⟩
      | none => .error (.invalidClient "invalid Authorization header")
    | none => .error (.invalidClient "invalid Authorization header")
  | none => do
    let clientId ← match request.clientId with
      | some clientId => .ok clientId
      | none => .error (.invalidClient "missing client_id")
    let clientSecret ← match request.clientSecret with
      | some clientSecret => .ok clientSecret
      | none => .error (.invalidClient "missing client_secret")
    .ok ⟨clientId, clientSecret⟩

def extractBearerToken (headers : HeaderMap) : Except MockError String :=
  match headers.authorization.bind HeaderValue.toStr with
  | some auth =>
    match stripPrefix "Bearer " auth with
    | some token => .ok token
    | none => .error (.invalidToken "invalid bearer token header")
  | none => .error (.invalidToken "missing Authorization header")

/-- The JWT header both token kinds are signed with. -/
def jwtHeader (s : InnerState) : JwtHeader where
  alg := .rs256
  kid := some s.signing.jwk.kid

def accessClaims (s : InnerState) (client : ClientConfig) (scope : HashSet String) :
    AccessClaims where
  iss := s.issuer
  sub := s.user.sub
  aud := client.clientId
  exp := unixTimestamp (d.issuedAt + TimeDuration.hours 1)
  iat := unixTimestamp d.issuedAt
  scope := scopeToString scope
  clientId := client.clientId
  jti := d.jti

def issueAccessToken (s : InnerState) (client : ClientConfig) (scope : HashSet String) :
    Except MockError String :=
  (d.encode (jwtHeader s) (.access (accessClaims d s client scope)) s.signing.encoding).mapError
    fun err => .serverError s!"encode access token: {err}"

def idClaims (s : InnerState) (client : ClientConfig) (scope : HashSet String)
    (nonce : Option String) : IdClaims where
  iss := s.issuer
  sub := s.user.sub
  aud := client.clientId
  exp := unixTimestamp (d.issuedAt + TimeDuration.hours 1)
  iat := unixTimestamp d.issuedAt
  email := s.user.email
  preferredUsername := s.user.preferredUsername
  groups := s.user.groups
  scope := scopeToString scope
  nonce := nonce

def issueIdToken (s : InnerState) (client : ClientConfig) (scope : HashSet String)
    (nonce : Option String) : Except MockError String :=
  (d.encode (jwtHeader s) (.id (idClaims d s client scope nonce)) s.signing.encoding).mapError
    fun err => .serverError s!"encode id token: {err}"

def issueRefreshToken (client : ClientConfig) (scope : HashSet String) : Handler String := do
  let refreshToken := d.generatedCode
  modify fun s => s.insertRefreshToken refreshToken
    { clientId := client.clientId, scope := scope, _subject := s.user, _issuedAt := d.issuedAt }
  return refreshToken

/-- The tail that the three exchanging grants share: sign an access and an id
token, store a refresh token, and only then record the access token. -/
def issueTokens (client : ClientConfig) (scope : HashSet String) (nonce : Option String) :
    Handler TokenResponse := do
  let accessToken ← liftResult (issueAccessToken d (← get) client scope)
  let idToken ← liftResult (issueIdToken d (← get) client scope nonce)
  let refreshToken ← issueRefreshToken d client scope
  modify fun s => s.insertAccessToken accessToken
  return {
    tokenType := "Bearer"
    expiresIn := 3600
    accessToken := accessToken
    idToken := some idToken
    scope := scopeToString scope
    refreshToken := some refreshToken }

/-- base64url-nopad(SHA-256(verifier)) = expected. -/
def verifyCodeChallenge (verifier expectedChallenge : String) : Bool :=
  B.crates.urlSafeNoPadEncode (B.crates.sha256 verifier.toUTF8) == expectedChallenge

/-! ## Discovery -/

def discovery (s : InnerState) : DiscoveryDocument where
  issuer := s.issuer
  authorizationEndpoint := s.issuer ++ "/authorize"
  tokenEndpoint := s.issuer ++ "/token"
  jwksUri := s.issuer ++ "/jwks.json"
  deviceAuthorizationEndpoint := s.issuer ++ "/device_authorization"
  userinfoEndpoint := s.issuer ++ "/userinfo"
  introspectionEndpoint := s.issuer ++ "/introspect"
  revocationEndpoint := s.issuer ++ "/revoke"
  responseTypesSupported := ["code", "token"]
  grantTypesSupported :=
    ["authorization_code", "refresh_token", "client_credentials",
      "urn:ietf:params:oauth:grant-type:device_code", "device_code"]
  codeChallengeMethodsSupported := ["S256"]
  scopesSupported :=
    ((d.order.iter s.clients.clients.keys).filterMap s.client).flatMap
      fun client => d.order.iter client.allowedScopes

/-! ## Authorization endpoint -/

/-- The block of `authorize` under `#[cfg(feature = "pkce")]`. -/
def checkPkceQuery (query : AuthorizeQuery) : Handler Unit :=
  if B.features.pkce then do
    let method ← okOr query.codeChallengeMethod (.invalidRequest "missing code_challenge_method")
    failIf (method ≠ "S256") (.invalidRequest "only S256 accepted")
    failIf (query.codeChallenge = none) (.invalidRequest "missing code_challenge")
  else
    pure ()

def authorize (query : AuthorizeQuery) : Handler String := do
  failIf (query.responseType ≠ "code") (.invalidRequest "unsupported response_type")
  let client ← okOr ((← get).client query.clientId) (.invalidClient "unknown client")
  failIf (query.redirectUri ∉ client.redirectUris) (.invalidRequest "redirect_uri mismatch")
  let allowed := parseScope query.scope ∩ client.allowedScopes
  failIf (allowed = ∅) (.invalidScope "no allowed scopes requested")
  checkPkceQuery B query
  let code := d.generatedCode
  modify fun s => s.insertAuthorizationCode code
    { clientId := client.clientId
      redirectUri := query.redirectUri
      scope := allowed
      codeChallenge := query.codeChallenge
      nonce := query.nonce
      _createdAt := d.now }
  -- the code is already stored when the redirect URI turns out not to parse
  let redirect ← okOr (B.crates.parseUrl query.redirectUri) (.invalidRequest "invalid redirect_uri")
  let redirect := B.crates.appendPair redirect "code" code
  let redirect := match query.state with
    | some state => B.crates.appendPair redirect "state" state
    | none => redirect
  return B.crates.urlToString redirect

/-! ## Token endpoint -/

/-- The verifier that `handle_authorization_code` binds under
`#[cfg(feature = "pkce")]`; other builds never read it. -/
def pkceVerifier (request : TokenRequest) : Handler String :=
  if B.features.pkce then
    okOr request.codeVerifier (.invalidRequest "PKCE enabled; code_verifier is required")
  else
    pure ""

/-- The block of `handle_authorization_code` under `#[cfg(feature = "pkce")]`. -/
def checkPkceEntry (codeVerifier : String) (entry : AuthorizationCode) : Handler Unit :=
  if B.features.pkce then do
    let expected ← okOr entry.codeChallenge (.invalidGrant "missing code challenge")
    failIf (¬ verifyCodeChallenge B codeVerifier expected) (.invalidGrant "code_verifier mismatch")
  else
    pure ()

def handleAuthorizationCode (credentials : ClientCredentials) (request : TokenRequest) :
    Handler TokenResponse := do
  let code ← okOr request.code (.invalidRequest "missing code")
  let redirectUri ← okOr request.redirectUri (.invalidRequest "missing redirect_uri")
  let codeVerifier ← pkceVerifier B request
  let entry ← okOr ((← get).authorizationCodes.lookup code)
    (.invalidGrant "invalid authorization code")
  modify fun s => s.removeAuthorizationCode code
  failIf (entry.clientId ≠ credentials.clientId)
    (.invalidGrant "authorization code client mismatch")
  failIf (entry.redirectUri ≠ redirectUri) (.invalidGrant "redirect_uri mismatch")
  checkPkceEntry B codeVerifier entry
  let client ← okOr ((← get).client credentials.clientId) (.invalidClient "unknown client")
  issueTokens d client entry.scope entry.nonce

def handleClientCredentials (credentials : ClientCredentials) (request : TokenRequest) :
    Handler TokenResponse := do
  let client ← okOr ((← get).client credentials.clientId) (.invalidClient "unknown client")
  failIf (client.clientSecret ≠ credentials.clientSecret) (.invalidClient "invalid client_secret")
  let requestedScope := parseScope request.scope
  let scope :=
    if requestedScope = ∅ then client.allowedScopes else requestedScope ∩ client.allowedScopes
  let accessToken ← liftResult (issueAccessToken d (← get) client scope)
  modify fun s => s.insertAccessToken accessToken
  return {
    tokenType := "Bearer"
    expiresIn := 3600
    accessToken := accessToken
    idToken := none
    scope := scopeToString scope
    refreshToken := none }

def handleRefreshToken (credentials : ClientCredentials) (request : TokenRequest) :
    Handler TokenResponse := do
  let refreshToken ← okOr request.refreshToken (.invalidRequest "missing refresh_token")
  let entry ← okOr ((← get).refreshTokens.lookup refreshToken)
    (.invalidGrant "invalid refresh token")
  modify fun s => s.removeRefreshToken refreshToken
  failIf (entry.clientId ≠ credentials.clientId)
    (.invalidGrant "client mismatch for refresh token")
  let client ← okOr ((← get).client credentials.clientId) (.invalidClient "unknown client")
  issueTokens d client entry.scope none

/-- A poll past the expiry sees the code as expired, whatever was decided. -/
def polledStatus (entry : DeviceCodeEntry) : DeviceCodeStatus :=
  if d.now > entry.expiresAt then .expired else entry.status

/-- The `match` on the polled status: the status to store and the answer. An
early error in the approved branch leaves the entry out of the map. -/
def settleDeviceCode (credentials : ClientCredentials) (scope : HashSet String) :
    DeviceCodeStatus → Handler (DeviceCodeStatus × Except MockError TokenResponse)
  | .pending pollCount => do
    let pollCount := pollCount + 1
    return (.pending pollCount,
      .error (if pollCount % 3 = 0 then .slowDown else .authorizationPending))
  | .approved => do
    let client ← okOr ((← get).client credentials.clientId) (.invalidClient "unknown client")
    let response ← issueTokens d client scope none
    return (.completed, .ok response)
  | .denied => return (.denied, .error .accessDenied)
  | .expired => return (.expired, .error .expiredToken)
  | .completed => return (.completed, .error (.invalidGrant "device_code already used"))

def handleDeviceCode (credentials : ClientCredentials) (request : TokenRequest) :
    Handler TokenResponse := do
  let deviceCode ← okOr request.deviceCode (.invalidRequest "missing device_code")
  let entry ← okOr ((← get).deviceCodes.lookup deviceCode) (.invalidGrant "invalid device_code")
  modify fun s => s.removeDeviceCode deviceCode
  if entry.clientId ≠ credentials.clientId then
    modify fun s => s.insertDeviceCode deviceCode entry
    throw (.invalidClient "client mismatch for device_code")
  else
    let (status, result) ← settleDeviceCode d credentials entry.scope (polledStatus d entry)
    modify fun s => s.insertDeviceCode deviceCode { entry with status := status }
    liftResult result

def token (headers : HeaderMap) (request : TokenRequest) : Handler TokenResponse := do
  let credentials ← liftResult (extractClientCredentials B headers request)
  match request.grantType with
  | "authorization_code" => handleAuthorizationCode B d credentials request
  | "client_credentials" => handleClientCredentials d credentials request
  | "refresh_token" => handleRefreshToken d credentials request
  | "urn:ietf:params:oauth:grant-type:device_code" | "device_code" =>
    handleDeviceCode d credentials request
  | other => throw (.invalidRequest s!"unsupported grant_type {other}")

/-! ## Device authorization endpoint -/

/-- The generated user code: eight alphanumeric characters, in upper case. -/
def Draws.userCode : String := toAsciiUppercase d.userCodeSample

def deviceAuthorization (request : DeviceAuthorizationRequest) :
    Handler DeviceAuthorizationResponse := do
  failIf (¬ B.features.deviceCode) (.invalidRequest "device_code feature disabled")
  let client ← okOr ((← get).client request.clientId) (.invalidClient "unknown client")
  let requestedScope := parseScope request.scope
  let scope :=
    if requestedScope = ∅ then client.allowedScopes else requestedScope ∩ client.allowedScopes
  let deviceCode := d.generatedCode
  let userCode := d.userCode
  modify fun s => s.insertDeviceCode deviceCode
    { clientId := client.clientId
      scope := scope
      _deviceCode := deviceCode
      userCode := userCode
      expiresAt := d.now + TimeDuration.minutes 10
      _interval := 5
      status := .pending 0 }
  let issuer := (← get).issuer
  return {
    deviceCode := deviceCode
    userCode := userCode
    verificationUri := issuer ++ "/device"
    verificationUriComplete := issuer ++ "/device?user_code=" ++ userCode
    expiresIn := 600
    interval := 5 }

/-! ## Userinfo, introspection and revocation -/

def userinfo (headers : HeaderMap) : Handler UserInfo := do
  let token ← liftResult (extractBearerToken headers)
  let s ← get
  failIf (token ∉ s.accessTokens) (.invalidToken "unknown access token")
  return ⟨s.user.sub, s.user.email, s.user.preferredUsername, s.user.groups⟩

/-- The request without form fields that `introspect` and `revoke` pass on. -/
def emptyTokenRequest : TokenRequest where
  grantType := ""
  code := none
  redirectUri := none
  codeVerifier := none
  refreshToken := none
  clientId := none
  clientSecret := none
  deviceCode := none
  scope := none

def introspect (headers : HeaderMap) (body : HashMap String String) : Handler Introspection := do
  let _ ← liftResult (extractClientCredentials B headers emptyTokenRequest)
  let token ← okOr (body.lookup "token") (.invalidRequest "missing token")
  let s ← get
  let active := token ∈ s.accessTokens ∨ token ∈ s.refreshTokens
  return {
    active := active
    iss := s.issuer
    clientId := "mock-client"
    scope := scopeToString defaultScope
    tokenType := "Bearer" }

def revoke (headers : HeaderMap) (body : HashMap String String) : Handler Unit := do
  let _ ← liftResult (extractClientCredentials B headers emptyTokenRequest)
  let token ← okOr (body.lookup "token") (.invalidRequest "missing token")
  modify fun s => s.removeAccessToken token
  modify fun s => s.removeRefreshToken token

/-! ## Device decisions -/

/-- `values_mut().find(..)`: the first entry, in iteration order, whose user
code matches. -/
def findUserCode (s : InnerState) (userCode : String) : Option String :=
  (d.order.iter s.deviceCodes.keys).find? fun deviceCode =>
    (s.deviceCodes.lookup deviceCode).any fun entry => eqIgnoreAsciiCase entry.userCode userCode

/-- What `approve_device_code` and `deny_device_code` share: the status is
overwritten without being looked at. -/
def decideDeviceCode (status : DeviceCodeStatus) (userCode : String) (s : InnerState) :
    Except String Unit × InnerState :=
  match findUserCode d s userCode with
  | none => (.error s!"device code {userCode} not found", s)
  | some deviceCode =>
    match s.deviceCodes.lookup deviceCode with
    | none => (.error s!"device code {userCode} not found", s)
    | some entry =>
      (.ok (), s.insertDeviceCode deviceCode { entry with status := status })

def approveDeviceCode (userCode : String) (s : InnerState) : Except String Unit × InnerState :=
  decideDeviceCode d .approved userCode s

def denyDeviceCode (userCode : String) (s : InnerState) : Except String Unit × InnerState :=
  decideDeviceCode d .denied userCode s

end Handlers

end GreenticConformance.OAuthMock
