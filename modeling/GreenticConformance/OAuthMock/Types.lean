import Mathlib.Data.Finmap
import Mathlib.Data.Finset.Basic
import Mathlib.Data.Multiset.Basic
import Mathlib.Data.String.Basic
import Mathlib.Data.List.Sort
import Mathlib.Tactic.Simps.Basic

/-!
# The data of the embedded OAuth provider

The records, requests, answers and errors of `crates/oauth-mock`. Hash maps and
hash sets are finite maps and finite sets, so two stores are equal when they
hold the same entries; the order in which the server iterates over them is an
input of the step that iterates (`HashOrder`).

## Main definitions

- `InnerState` — what the `RwLock` guards
- `ClientTable` — the client map, whose entries carry their own key
- `Request`, `Response` — the endpoints and their answers
- `Build`, `Draws` — third-party code, clock, random generators and signer
-/

namespace GreenticConformance.OAuthMock

/-- `std::collections::HashMap`, up to iteration order. -/
abbrev HashMap (K V : Type) := Finmap fun _ : K => V

/-- `std::collections::HashSet`, up to iteration order. -/
abbrev HashSet (K : Type) := Finset K

/-! ## Time -/

/-- `time::OffsetDateTime`, as nanoseconds since the Unix epoch. -/
abbrev OffsetDateTime := ℤ

namespace TimeDuration

def minutes (n : ℤ) : ℤ := n * 60 * 1000000000

def hours (n : ℤ) : ℤ := minutes (n * 60)

end TimeDuration

/-- Whole seconds, rounded towards the past. -/
def unixTimestamp (t : OffsetDateTime) : ℤ := t / 1000000000

/-! ## Configuration -/

structure ClientConfig where
  clientId : String
  clientSecret : String
  redirectUris : HashSet String
  allowedScopes : HashSet String

/-- The client map. `with_client` inserts every configuration under its own
`client_id`, so a lookup returns a configuration with the id it was asked for. -/
structure ClientTable where
  clients : HashMap String ClientConfig
  keyed : ∀ id c, clients.lookup id = some c → c.clientId = id

namespace ClientTable

def empty : ClientTable := ⟨∅, fun _ _ h => by simp at h⟩

/-- `clients.insert(client_id.clone(), ClientConfig { client_id, .. })`. -/
def insert (table : ClientTable) (c : ClientConfig) : ClientTable where
  clients := table.clients.insert c.clientId c
  keyed id c' h := by
    by_cases hid : id = c.clientId
    · subst hid
      rw [Finmap.lookup_insert] at h
      exact congrArg ClientConfig.clientId (Option.some.inj h.symm)
    · exact table.keyed id c' (Finmap.lookup_insert_of_ne _ hid ▸ h)

end ClientTable

structure MockUser where
  sub : String
  email : String
  preferredUsername : String
  groups : List String
  deriving DecidableEq

def MockUser.default : MockUser where
  sub := "user-123"
  email := "mock.user@example.com"
  preferredUsername := "mock.user"
  groups := ["mockers", "testers"]

structure Jwk where
  kty : String
  use_ : String
  kid : String
  alg : String
  n : String
  e : String
  deriving DecidableEq

/-- `jsonwebtoken::EncodingKey`: the PEM text it was made from. The server only
hands it to the signer. -/
abbrev EncodingKey := String

structure SigningKeys where
  encoding : EncodingKey
  jwk : Jwk
  deriving DecidableEq

/-! ## Stored grants -/

structure AuthorizationCode where
  clientId : String
  redirectUri : String
  scope : HashSet String
  codeChallenge : Option String
  nonce : Option String
  _createdAt : OffsetDateTime
  deriving DecidableEq

structure RefreshTokenEntry where
  clientId : String
  scope : HashSet String
  _subject : MockUser
  _issuedAt : OffsetDateTime
  deriving DecidableEq

/-- The poll counter is a `u32` and wraps as in a release build. -/
inductive DeviceCodeStatus where
  | pending (pollCount : UInt32)
  | approved
  | denied
  | expired
  | completed
  deriving DecidableEq

structure DeviceCodeEntry where
  clientId : String
  scope : HashSet String
  _deviceCode : String
  userCode : String
  expiresAt : OffsetDateTime
  _interval : UInt64
  status : DeviceCodeStatus
  deriving DecidableEq

structure InnerState where
  issuer : String
  signing : SigningKeys
  clients : ClientTable
  user : MockUser
  authorizationCodes : HashMap String AuthorizationCode
  refreshTokens : HashMap String RefreshTokenEntry
  accessTokens : HashSet String
  deviceCodes : HashMap String DeviceCodeEntry

namespace InnerState

variable (s : InnerState)

def client (clientId : String) : Option ClientConfig :=
  s.clients.clients.lookup clientId

theorem client_clientId {s : InnerState} {id : String} {c : ClientConfig}
    (h : s.client id = some c) : c.clientId = id :=
  s.clients.keyed id c h

/-! The writes of the handlers, each with one lemma a field. -/

@[simps] def insertAuthorizationCode (code : String) (entry : AuthorizationCode) : InnerState :=
  { s with authorizationCodes := s.authorizationCodes.insert code entry }

@[simps] def removeAuthorizationCode (code : String) : InnerState :=
  { s with authorizationCodes := s.authorizationCodes.erase code }

@[simps] def insertRefreshToken (token : String) (entry : RefreshTokenEntry) : InnerState :=
  { s with refreshTokens := s.refreshTokens.insert token entry }

@[simps] def removeRefreshToken (token : String) : InnerState :=
  { s with refreshTokens := s.refreshTokens.erase token }

@[simps] def insertAccessToken (token : String) : InnerState :=
  { s with accessTokens := insert token s.accessTokens }

@[simps] def removeAccessToken (token : String) : InnerState :=
  { s with accessTokens := s.accessTokens.erase token }

@[simps] def insertDeviceCode (code : String) (entry : DeviceCodeEntry) : InnerState :=
  { s with deviceCodes := s.deviceCodes.insert code entry }

@[simps] def removeDeviceCode (code : String) : InnerState :=
  { s with deviceCodes := s.deviceCodes.erase code }

end InnerState

/-! ## Requests -/

/-- A header value, as far as `to_str` can see it. -/
inductive HeaderValue where
  | text (s : String)
  | binary (b : ByteArray)

def HeaderValue.toStr : HeaderValue → Option String
  | .text s => some s
  | .binary _ => none

/-- The one header the handlers read. -/
structure HeaderMap where
  authorization : Option HeaderValue

structure AuthorizeQuery where
  responseType : String
  clientId : String
  redirectUri : String
  scope : Option String
  state : Option String
  codeChallenge : Option String
  codeChallengeMethod : Option String
  nonce : Option String
  deriving DecidableEq

structure TokenRequest where
  grantType : String
  code : Option String
  redirectUri : Option String
  codeVerifier : Option String
  refreshToken : Option String
  clientId : Option String
  clientSecret : Option String
  deviceCode : Option String
  scope : Option String
  deriving DecidableEq

structure DeviceAuthorizationRequest where
  clientId : String
  scope : Option String
  deriving DecidableEq

structure ClientCredentials where
  clientId : String
  clientSecret : String
  deriving DecidableEq

/-- The HTTP endpoints and the two methods a test calls on the running server. -/
inductive Request where
  | discovery
  | jwks
  | authorize (query : AuthorizeQuery)
  | token (headers : HeaderMap) (request : TokenRequest)
  | deviceAuthorization (request : DeviceAuthorizationRequest)
  | userinfo (headers : HeaderMap)
  | introspect (headers : HeaderMap) (body : HashMap String String)
  | revoke (headers : HeaderMap) (body : HashMap String String)
  | approveDeviceCode (userCode : String)
  | denyDeviceCode (userCode : String)

/-! ## Answers -/

inductive MockError where
  | invalidRequest (msg : String)
  | invalidClient (msg : String)
  | invalidGrant (msg : String)
  | invalidScope (msg : String)
  | invalidToken (msg : String)
  | accessDenied
  | authorizationPending
  | slowDown
  | expiredToken
  | serverError (msg : String)
  deriving DecidableEq

/-- The status and JSON body of an error response. -/
structure ErrorResponse where
  status : ℕ
  error : String
  errorDescription : String
  deriving DecidableEq

def MockError.intoResponse : MockError → ErrorResponse
  | .invalidRequest msg => ⟨400, "invalid_request", msg⟩
  | .invalidClient msg => ⟨401, "invalid_client", msg⟩
  | .invalidGrant msg => ⟨400, "invalid_grant", msg⟩
  | .invalidScope msg => ⟨400, "invalid_scope", msg⟩
  | .invalidToken msg => ⟨401, "invalid_token", msg⟩
  | .accessDenied => ⟨400, "access_denied", "user denied the request"⟩
  | .authorizationPending => ⟨400, "authorization_pending", "authorization pending"⟩
  | .slowDown => ⟨400, "slow_down", "slow down"⟩
  | .expiredToken => ⟨400, "expired_token", "device code expired"⟩
  | .serverError msg => ⟨500, "server_error", msg⟩

structure DiscoveryDocument where
  issuer : String
  authorizationEndpoint : String
  tokenEndpoint : String
  jwksUri : String
  deviceAuthorizationEndpoint : String
  userinfoEndpoint : String
  introspectionEndpoint : String
  revocationEndpoint : String
  responseTypesSupported : List String
  grantTypesSupported : List String
  codeChallengeMethodsSupported : List String
  scopesSupported : List String
  deriving DecidableEq

/-- The JSON body of a successful token request. -/
structure TokenResponse where
  tokenType : String
  expiresIn : ℕ
  accessToken : String
  idToken : Option String
  scope : String
  refreshToken : Option String
  deriving DecidableEq

structure DeviceAuthorizationResponse where
  deviceCode : String
  userCode : String
  verificationUri : String
  verificationUriComplete : String
  expiresIn : ℕ
  interval : ℕ
  deriving DecidableEq

structure UserInfo where
  sub : String
  email : String
  preferredUsername : String
  groups : List String
  deriving DecidableEq

structure Introspection where
  active : Bool
  iss : String
  clientId : String
  scope : String
  tokenType : String
  deriving DecidableEq

/-- The body of a successful HTTP response. -/
inductive Reply where
  | document (doc : DiscoveryDocument)
  | keys (jwk : Jwk)
  | redirect (location : String)
  | tokens (response : TokenResponse)
  | device (response : DeviceAuthorizationResponse)
  | userinfo (info : UserInfo)
  | introspection (info : Introspection)
  | ok
  deriving DecidableEq

/-- What a step answers: an HTTP response, or the result of a method call. -/
inductive Response where
  | http (result : Except MockError Reply)
  | call (result : Except String Unit)

/-! ## JWT claims -/

inductive Algorithm where
  | rs256
  deriving DecidableEq

/-- The header fields the server sets. -/
structure JwtHeader where
  alg : Algorithm
  kid : Option String
  deriving DecidableEq

structure AccessClaims where
  iss : String
  sub : String
  aud : String
  exp : ℤ
  iat : ℤ
  scope : String
  clientId : String
  jti : String
  deriving DecidableEq

structure IdClaims where
  iss : String
  sub : String
  aud : String
  exp : ℤ
  iat : ℤ
  email : String
  preferredUsername : String
  groups : List String
  scope : String
  nonce : Option String
  deriving DecidableEq

inductive Claims where
  | access (claims : AccessClaims)
  | id (claims : IdClaims)
  deriving DecidableEq

/-! ## What the server does not compute itself -/

/-- An iteration order of hash sets: every element is visited once. -/
structure HashOrder where
  iter : HashSet String → List String
  iter_val : ∀ s, (iter s : Multiset String) = s.val

theorem HashOrder.mem_iter (o : HashOrder) {s : HashSet String} {x : String} :
    x ∈ o.iter s ↔ x ∈ s := by
  rw [← Multiset.mem_coe, o.iter_val, Finset.mem_val]

/-- Cargo features, on by default. -/
structure Features where
  pkce : Bool := true
  deviceCode : Bool := true

/-- The pure third-party functions: `url`, `base64` and `sha2`. -/
structure Crates where
  Url : Type
  parseUrl : String → Option Url
  appendPair : Url → String → String → Url
  urlToString : Url → String
  standardDecode : String → Option ByteArray
  urlSafeNoPadEncode : ByteArray → String
  sha256 : ByteArray → ByteArray

/-- One build of the server. -/
structure Build where
  crates : Crates
  features : Features := {}

/-- What the clock, the random generators, the signer and the hash maps return
during one step. `issuedAt` is the clock reading just before tokens are signed,
`now` any other one; a step draws at most one `generate_code`. -/
structure Draws where
  now : OffsetDateTime
  issuedAt : OffsetDateTime
  generatedCode : String
  userCodeSample : String
  jti : String
  encode : JwtHeader → Claims → EncodingKey → Except String String
  order : HashOrder

/-- One atomic step: a request and the draws made while serving it. -/
structure Call where
  request : Request
  draws : Draws

end GreenticConformance.OAuthMock
