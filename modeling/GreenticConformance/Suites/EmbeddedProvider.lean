import GreenticConformance.Host.Json
import GreenticConformance.Suites.OAuthProvider
import GreenticConformance.Urls.Serialize

/-!
# The routes of the embedded provider

`suites/oauth.rs`: what the provider of the mock suite answers to a request, with the
query or the form decoded from its bytes.

## Main definitions

- `wellKnown`, `token`, `jwks` — the other handlers
- `AuthorizeRequest.ofPairs`, `TokenRequest.ofPairs` — the extractors
- `route` — the router

## Main results

- `ofPairs_query`, `ofPairs_form` — the extractors read what a client has written
-/

namespace GreenticConformance.OAuth

open Host Urls

/-- The form of a token request, decoded. -/
structure TokenRequest where
  grantType : String
  code : String
  redirectUri : String
  clientId : String
  clientSecret : String

/-- A response as a client sees it: its status, the bytes of its location, and its body
as `json()` reads it. -/
structure HttpResponse where
  status : ℕ
  location : Option (List UInt8)
  json : Except String Json

/-! ## Handlers -/

section Handlers

variable (state : ProviderState)

def wellKnown : Json :=
  let issuer := state.issuer
  .object [
    ("issuer", .string issuer),
    ("authorization_endpoint", .string s!"{issuer}/authorize"),
    ("token_endpoint", .string s!"{issuer}/token"),
    ("jwks_uri", .string s!"{issuer}/jwks"),
    ("response_types_supported", .array [.string "code"]),
    ("subject_types_supported", .array [.string "public"]),
    ("id_token_signing_alg_values_supported", .array [.string "RS256"])]

/-- The tokens of the provider, at a time in seconds. -/
def tokenDocument (now : ℕ) : Json :=
  .object [
    ("token_type", .string "Bearer"),
    ("expires_in", .number "3600"),
    ("access_token", .string s!"mock-access-token-{now}"),
    ("refresh_token", .string "mock-refresh-token"),
    ("id_token", .string s!"mock-id-token-{now}")]

/-- The tokens, or the text of a response with status 400. -/
def token (now : ℕ) (params : TokenRequest) : Except String Json :=
  if params.grantType ≠ "authorization_code" then
    .error "unsupported grant_type"
  else if params.code ≠ state.code then
    .error "invalid authorization code"
  else if params.clientId ≠ state.clientId ∨ params.clientSecret ≠ state.clientSecret then
    .error "invalid client credentials"
  else if params.redirectUri ≠ state.redirectUri then
    .error "redirect_uri mismatch"
  else
    .ok (tokenDocument now)

def jwks : Json :=
  .object [("keys", .array [.object [
    ("kty", .string "RSA"),
    ("kid", .string "mock-key"),
    ("alg", .string "RS256"),
    ("use", .string "sig"),
    ("n", .string "mock-modulus"),
    ("e", .string "AQAB"),
    ("issuer", .string state.issuer)]])]

end Handlers

/-! ## Extractors -/

/-- The value of a field that may be missing; nothing if it is there twice. -/
def optionalField (pairs : List (String × String)) (name : String) : Option (Option String) :=
  match pairs.filter (·.1 = name) with
  | [] => some none
  | [pair] => some (some pair.2)
  | _ => none

def requiredField (pairs : List (String × String)) (name : String) : Option String :=
  (optionalField pairs name).join

/-- `Query<AuthorizeRequest>`. The field for the scope has a name of its own, so that a
scope is not looked at. -/
def AuthorizeRequest.ofPairs (pairs : List (String × String)) : Option AuthorizeRequest := do
  let responseType ← requiredField pairs "response_type"
  let clientId ← requiredField pairs "client_id"
  let redirectUri ← requiredField pairs "redirect_uri"
  let _ ← optionalField pairs "_scope"
  let state ← optionalField pairs "state"
  return ⟨responseType, clientId, redirectUri, state⟩

/-- `Form<TokenRequest>`. -/
def TokenRequest.ofPairs (pairs : List (String × String)) : Option TokenRequest := do
  let grantType ← requiredField pairs "grant_type"
  let code ← requiredField pairs "code"
  let redirectUri ← requiredField pairs "redirect_uri"
  let clientId ← requiredField pairs "client_id"
  let clientSecret ← requiredField pairs "client_secret"
  return ⟨grantType, code, redirectUri, clientId, clientSecret⟩

/-! ## The router -/

namespace HttpResponse

/-- `Json(document).into_response()`. -/
def ofJson (document : Json) : HttpResponse := ⟨200, none, .ok document⟩

/-- A body that is a text of words is no JSON. -/
def ofText (status : ℕ) : HttpResponse :=
  ⟨status, none, .error "expected value at line 1 column 1"⟩

def empty (status : ℕ) (location : Option (List UInt8)) : HttpResponse :=
  ⟨status, location, .error "EOF while parsing a value at line 1 column 0"⟩

/-- A location that is no header value is left out: the status stays, and the body is the
text of the error. -/
def ofResponse : Response → HttpResponse
  | .badRequest _ => ofText 400
  | .seeOther location => empty 303 (some (utf8 location.toList))
  | .noLocation => ⟨303, none, .error "expected ident at line 1 column 2"⟩

end HttpResponse

inductive Method
  | get
  | post

/-- The answer to a request, by its path and the bytes of its query or its form, at a time. -/
def route (state : ProviderState) (now : ℕ) (method : Method) (path : String)
    (content : List UInt8) : HttpResponse :=
  match path, method with
  | "/.well-known/openid-configuration", .get => .ofJson (wellKnown state)
  | "/authorize", .get =>
    match AuthorizeRequest.ofPairs (formPairs content) with
    | some params => .ofResponse (authorize state params)
    | none => .ofText 400
  | "/token", .post =>
    match TokenRequest.ofPairs (formPairs content) with
    | some params =>
      match token state now params with
      | .ok document => .ofJson document
      | .error _ => .ofText 400
    | none => .ofText 422
  | "/jwks", .get => .ofJson (jwks state)
  | "/.well-known/openid-configuration", _ => .empty 405 none
  | "/authorize", _ => .empty 405 none
  | "/token", _ => .empty 405 none
  | "/jwks", _ => .empty 405 none
  | _, _ => .empty 404 none

/-- The request got to a handler. -/
def HttpResponse.Handled (response : HttpResponse) : Prop := response.status ∉ [404, 405]

theorem handled_ofResponse (response : Response) : (HttpResponse.ofResponse response).Handled := by
  cases response with
  | badRequest body => simp [HttpResponse.Handled, HttpResponse.ofResponse, HttpResponse.ofText]
  | seeOther location => simp [HttpResponse.Handled, HttpResponse.ofResponse, HttpResponse.empty]
  | noLocation => simp [HttpResponse.Handled, HttpResponse.ofResponse]

section Routes

variable (state : ProviderState) (now : ℕ) (content : List UInt8)

theorem handled_authorize : (route state now .get "/authorize" content).Handled := by
  simp only [route]
  cases AuthorizeRequest.ofPairs (formPairs content) with
  | none => simp [HttpResponse.Handled, HttpResponse.ofText]
  | some params => exact handled_ofResponse _

theorem handled_token : (route state now .post "/token" content).Handled := by
  simp only [route]
  cases TokenRequest.ofPairs (formPairs content) with
  | none => simp [HttpResponse.Handled, HttpResponse.ofText]
  | some params =>
    cases hdocument : token state now params with
    | ok document => simp [HttpResponse.Handled, hdocument, HttpResponse.ofJson]
    | error body => simp [HttpResponse.Handled, hdocument, HttpResponse.ofText]

theorem handled_jwks : (route state now .get "/jwks" content).Handled := by
  simp [HttpResponse.Handled, route, HttpResponse.ofJson]

end Routes

/-! ## What a client has written -/

/-- The bytes of a query or a form. -/
def encodePairs (pairs : List (String × String)) : List UInt8 := pairs.foldl appendPair []

theorem formPairs_encodePairs (pairs : List (String × String)) :
    formPairs (encodePairs pairs) = pairs := by
  rw [encodePairs, formPairs_foldl_appendPair]
  rfl

/-- The query of the suite, with any values in it. -/
def authorizePairs (clientId redirectUri scope state : String) : List (String × String) :=
  [("response_type", "code"), ("client_id", clientId), ("redirect_uri", redirectUri),
    ("scope", scope), ("state", state)]

/-- The form of the suite, with any values in it. -/
def tokenPairs (code redirectUri clientId clientSecret : String) : List (String × String) :=
  [("grant_type", "authorization_code"), ("code", code), ("redirect_uri", redirectUri),
    ("client_id", clientId), ("client_secret", clientSecret)]

theorem ofPairs_query (clientId redirectUri scope state : String) :
    AuthorizeRequest.ofPairs (formPairs (encodePairs
      (authorizePairs clientId redirectUri scope state))) =
        some ⟨"code", clientId, redirectUri, some state⟩ := by
  rw [formPairs_encodePairs]
  simp [AuthorizeRequest.ofPairs, authorizePairs, requiredField, optionalField]

theorem ofPairs_form (code redirectUri clientId clientSecret : String) :
    TokenRequest.ofPairs (formPairs (encodePairs
      (tokenPairs code redirectUri clientId clientSecret))) =
        some ⟨"authorization_code", code, redirectUri, clientId, clientSecret⟩ := by
  rw [formPairs_encodePairs]
  simp [TokenRequest.ofPairs, tokenPairs, requiredField, optionalField]

end GreenticConformance.OAuth
