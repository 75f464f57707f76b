import GreenticConformance.OAuthMock.AuthorizationCodes

/-!
# What discovery promises

The discovery document is written from the issuer, the route table from fixed
paths, and the two handlers dispatch on strings of their own. Which path a client
requests for a URL is up to its URL library, so it is a parameter here.

## Main definitions

- `router` — the route table
- `TellsTruth` — every promise of a discovery document is kept

## Main results

- `discovery_promises` — which promises are kept, for every configuration
-/

namespace GreenticConformance.OAuthMock

open Runs Handler

variable {B : Build} {s : InnerState} {d : Draws} {b : MockServerBuilder}
  {baseUrl suffix path : String} {signing : SigningKeys} {requestPath : String → String}

/-! ## Routes -/

inductive Method where
  | get
  | post
  deriving DecidableEq

/-- The functions that `router` registers. -/
inductive RouteHandler where
  | discovery
  | jwksEndpoint
  | authorize
  | token
  | deviceAuthorization
  | userinfo
  | introspect
  | revoke
  deriving DecidableEq

structure Route where
  path : String
  method : Method
  handler : RouteHandler
  deriving DecidableEq

def router : List Route :=
  [⟨"/.well-known/openid-configuration", .get, .discovery⟩,
   ⟨"/jwks.json", .get, .jwksEndpoint⟩,
   ⟨"/authorize", .get, .authorize⟩,
   ⟨"/token", .post, .token⟩,
   ⟨"/device_authorization", .post, .deviceAuthorization⟩,
   ⟨"/userinfo", .get, .userinfo⟩,
   ⟨"/introspect", .post, .introspect⟩,
   ⟨"/revoke", .post, .revoke⟩]

/-- The handler that serves a method on a path; static paths match exactly. -/
def route (method : Method) (path : String) : Option RouteHandler :=
  (router.find? fun r => r.path = path ∧ r.method = method).map Route.handler

/-- No two routes share a path. -/
theorem route_eq_some_iff {r : Route} (hr : r ∈ router) :
    route r.method path = some r.handler ↔ path = r.path := by
  constructor
  · intro h
    obtain ⟨r', hfound, hhandler⟩ := Option.map_eq_some_iff.mp h
    have hpath := List.find?_some hfound
    have hmem := List.mem_of_find?_eq_some hfound
    simp only [decide_eq_true_eq] at hpath
    have hsame : ∀ x ∈ router, ∀ y ∈ router, x.handler = y.handler → x.path = y.path := by decide
    rw [← hpath.1]
    exact hsame r' hmem r hr hhandler
  · rintro rfl
    have hall : ∀ x ∈ router, route x.method x.path = some x.handler := by decide
    exact hall r hr

/-- The endpoint URLs of a document, with the routes they stand for. -/
def DiscoveryDocument.endpoints (doc : DiscoveryDocument) : List Route :=
  [⟨doc.authorizationEndpoint, .get, .authorize⟩,
   ⟨doc.tokenEndpoint, .post, .token⟩,
   ⟨doc.jwksUri, .get, .jwksEndpoint⟩,
   ⟨doc.deviceAuthorizationEndpoint, .post, .deviceAuthorization⟩,
   ⟨doc.userinfoEndpoint, .get, .userinfo⟩,
   ⟨doc.introspectionEndpoint, .post, .introspect⟩,
   ⟨doc.revocationEndpoint, .post, .revoke⟩]

/-- A request for the URL is served by the handler it is advertised for. -/
def Route.Routed (requestPath : String → String) (r : Route) : Prop :=
  route r.method (requestPath r.path) = some r.handler

/-- Every endpoint URL is the path of its route, after the issuer. -/
theorem endpoint_of_mem {r : Route} (hr : r ∈ (discovery d s).endpoints) :
    ∃ r' ∈ router, r = { r' with path := s.issuer ++ r'.path } := by
  simp only [DiscoveryDocument.endpoints, discovery, List.mem_cons, List.not_mem_nil,
    or_false] at hr
  rcases hr with rfl | rfl | rfl | rfl | rfl | rfl | rfl
  · exact ⟨⟨"/authorize", .get, .authorize⟩, by decide, rfl⟩
  · exact ⟨⟨"/token", .post, .token⟩, by decide, rfl⟩
  · exact ⟨⟨"/jwks.json", .get, .jwksEndpoint⟩, by decide, rfl⟩
  · exact ⟨⟨"/device_authorization", .post, .deviceAuthorization⟩, by decide, rfl⟩
  · exact ⟨⟨"/userinfo", .get, .userinfo⟩, by decide, rfl⟩
  · exact ⟨⟨"/introspect", .post, .introspect⟩, by decide, rfl⟩
  · exact ⟨⟨"/revoke", .post, .revoke⟩, by decide, rfl⟩

/-- An endpoint is served exactly when its URL is requested under the fixed path
of its route. -/
theorem endpoint_served_iff {r' : Route} (hr : r' ∈ router) :
    Route.Routed requestPath { r' with path := s.issuer ++ r'.path } ↔
      requestPath (s.issuer ++ r'.path) = r'.path :=
  route_eq_some_iff hr

/-! ## Dispatch -/

/-- `authorize` does not refuse the value, whatever the rest of the query is. -/
def AcceptsResponseType (B : Build) (s : InnerState) (responseType : String) : Prop :=
  ∀ d query, query.responseType = responseType →
    ((authorize B d query).exec s).1 ≠ .error (.invalidRequest "unsupported response_type")

/-- The handler of each grant. -/
def grantHandler (B : Build) (d : Draws) (credentials : ClientCredentials)
    (request : TokenRequest) : GrantType → Handler TokenResponse
  | .authorizationCode => handleAuthorizationCode B d credentials request
  | .clientCredentials => handleClientCredentials d credentials request
  | .refreshToken => handleRefreshToken d credentials request
  | .deviceCode => handleDeviceCode d credentials request

/-- `token` hands every request of the value to one grant handler, once it has
read the credentials. -/
def DispatchesGrantType (B : Build) (s : InnerState) (grantType : String) : Prop :=
  ∃ g : GrantType, ∀ d headers request credentials,
    extractClientCredentials B headers request = .ok credentials →
    request.grantType = grantType →
    (token B d headers request).exec s = (grantHandler B d credentials request g).exec s

/-- The PKCE block has errors of its own. -/
theorem checkPkceQuery_ne_unsupported (query : AuthorizeQuery) (s : InnerState) :
    ((checkPkceQuery B query).exec s).1 ≠
      .error (.invalidRequest "unsupported response_type") := by
  unfold checkPkceQuery
  split
  · rw [exec_okOr_bind]
    split
    · rw [exec_failIf_bind]
      split
      · simp
      · rw [exec_failIf]
        split <;> simp
    · simp
  · simp

/-- Only the check of the response type refuses it. -/
theorem authorize_unsupported_iff {query : AuthorizeQuery} :
    ((authorize B d query).exec s).1 = .error (.invalidRequest "unsupported response_type") ↔
      query.responseType ≠ "code" := by
  rw [authorize, exec_failIf_bind]
  by_cases ht : query.responseType ≠ "code"
  · rw [if_pos ht]
    exact iff_of_true rfl ht
  · rw [if_neg ht]
    refine iff_of_false ?_ ht
    simp only [exec_get_bind, exec_okOr_bind, exec_failIf_bind]
    split
    · split
      · simp
      · split
        · simp
        · have hno := @checkPkceQuery_ne_unsupported B query s
          rcases hx : (checkPkceQuery B query).exec s with ⟨e | u, s'⟩
          · rw [hx] at hno
            rw [exec_bind, hx]
            intro h
            obtain rfl := Except.error.inj h
            exact hno rfl
          · rw [exec_bind, hx]
            simp only [exec_modify_bind, exec_okOr_bind]
            split <;> simp
    · simp

theorem acceptsResponseType_iff (d : Draws) {r : String} :
    AcceptsResponseType B s r ↔ r = "code" := by
  constructor
  · intro haccepts
    by_contra hr
    exact haccepts d ⟨r, "", "", none, none, none, none, none⟩ rfl
      (authorize_unsupported_iff.mpr hr)
  · rintro rfl d query hq h
    exact authorize_unsupported_iff.mp h hq

/-- A value that names a grant is handed to its handler. -/
theorem token_exec {headers : HeaderMap} {request : TokenRequest} {credentials : ClientCredentials}
    {g : GrantType} (hx : extractClientCredentials B headers request = .ok credentials)
    (hg : g.Named request.grantType) :
    (token B d headers request).exec s = (grantHandler B d credentials request g).exec s := by
  simp only [token, exec_liftResult_bind, hx]
  cases g with
  | authorizationCode => rw [show request.grantType = "authorization_code" from hg]; rfl
  | clientCredentials => rw [show request.grantType = "client_credentials" from hg]; rfl
  | refreshToken => rw [show request.grantType = "refresh_token" from hg]; rfl
  | deviceCode =>
    rcases hg with hg | hg
    · rw [hg]; rfl
    · rw [hg]; rfl

theorem dispatchesGrantType {g : GrantType} {grantType : String} (hg : g.Named grantType) :
    DispatchesGrantType B s grantType :=
  ⟨g, fun _ _ _ _ hx ht => token_exec hx (ht ▸ hg)⟩

theorem grantTypesSupported_named {grantType : String}
    (h : grantType ∈ (discovery d s).grantTypesSupported) : ∃ g : GrantType, g.Named grantType := by
  simp only [discovery, List.mem_cons, List.not_mem_nil, or_false] at h
  rcases h with rfl | rfl | rfl | rfl | rfl
  · exact ⟨.authorizationCode, rfl⟩
  · exact ⟨.refreshToken, rfl⟩
  · exact ⟨.clientCredentials, rfl⟩
  · exact ⟨.deviceCode, .inl rfl⟩
  · exact ⟨.deviceCode, .inr rfl⟩

/-! ## Paths -/

/-- The issuer of a server is the one it was spawned with. -/
theorem run_issuer (s : InnerState) (calls : List Call) :
    ((server B).run s calls).issuer = s.issuer := by
  induction calls generalizing s with
  | nil => rfl
  | cons c calls ih =>
    rw [Machine.run_cons, ih, post_stores (steps_event B s c)]
    rfl

/-- A path segment that URL libraries leave alone: unreserved characters, and
neither of the two dot segments. -/
def PlainSegment (seg : List Char) : Prop :=
  seg ≠ ['.'] ∧ seg ≠ ['.', '.'] ∧
    ∀ c ∈ seg, c.isAlphanum = true ∨ c ∈ ['-', '.', '_', '~']

instance (seg : List Char) : Decidable (PlainSegment seg) :=
  have : Decidable (∀ c ∈ seg, c.isAlphanum = true ∨ c ∈ ['-', '.', '_', '~']) :=
    List.decidableBAll _ seg
  inferInstanceAs (Decidable (_ ∧ _ ∧ _))

/-- A non-empty sequence of plain segments, each after a slash. -/
def PlainPath (path : String) : Prop :=
  ∃ segs : List (List Char), segs ≠ [] ∧ path.toList = segs.flatMap ('/' :: ·) ∧
    ∀ seg ∈ segs, PlainSegment seg

/-- A client asks the server at `baseUrl` for a plain path as it is. -/
def RequestsPlainPaths (baseUrl : String) (requestPath : String → String) : Prop :=
  ∀ path, PlainPath path → requestPath (baseUrl ++ path) = path

theorem PlainPath.append {p q : String} (hp : PlainPath p) (hq : PlainPath q) :
    PlainPath (p ++ q) := by
  obtain ⟨ps, hne, hps, hplain⟩ := hp
  obtain ⟨qs, -, hqs, hplain'⟩ := hq
  refine ⟨ps ++ qs, by simp [hne], by rw [String.toList_append, hps, hqs, List.flatMap_append], ?_⟩
  intro seg hseg
  rcases List.mem_append.mp hseg with h | h
  · exact hplain seg h
  · exact hplain' seg h

theorem plainPath_of_mem_router {r : Route} (hr : r ∈ router) : PlainPath r.path := by
  simp only [router, List.mem_cons, List.not_mem_nil, or_false] at hr
  rcases hr with rfl | rfl | rfl | rfl | rfl | rfl | rfl | rfl
  · exact ⟨[".well-known".toList, "openid-configuration".toList], by decide, by decide, by decide⟩
  · exact ⟨["jwks.json".toList], by decide, by decide, by decide⟩
  · exact ⟨["authorize".toList], by decide, by decide, by decide⟩
  · exact ⟨["token".toList], by decide, by decide, by decide⟩
  · exact ⟨["device_authorization".toList], by decide, by decide, by decide⟩
  · exact ⟨["userinfo".toList], by decide, by decide, by decide⟩
  · exact ⟨["introspect".toList], by decide, by decide, by decide⟩
  · exact ⟨["revoke".toList], by decide, by decide, by decide⟩

/-- Without a suffix, every advertised URL is served. -/
theorem served_of_no_suffix (hpath : RequestsPlainPaths baseUrl requestPath)
    (hs : s.issuer = baseUrl) {r : Route} (hr : r ∈ (discovery d s).endpoints) :
    r.Routed requestPath := by
  obtain ⟨r', hr', rfl⟩ := endpoint_of_mem hr
  rw [endpoint_served_iff hr', hs]
  exact hpath _ (plainPath_of_mem_router hr')

/-- After a plain suffix, no advertised URL is served. -/
theorem not_served_of_suffix (hpath : RequestsPlainPaths baseUrl requestPath)
    (hs : s.issuer = baseUrl ++ "/" ++ suffix) (hplain : PlainPath ("/" ++ suffix)) {r : Route}
    (hr : r ∈ (discovery d s).endpoints) : ¬ r.Routed requestPath := by
  obtain ⟨r', hr', rfl⟩ := endpoint_of_mem hr
  have hurl : baseUrl ++ "/" ++ suffix ++ r'.path = baseUrl ++ ("/" ++ suffix ++ r'.path) := by
    simp only [String.append_assoc]
  rw [endpoint_served_iff hr', hs, hurl, hpath _ (hplain.append (plainPath_of_mem_router hr'))]
  intro hsame
  have hlen := congrArg String.length hsame
  simp only [String.length_append] at hlen
  have hslash : "/".length = 1 := rfl
  omega

/-! ## The document as a whole -/

/-- Every promise of the document is kept: its URLs are served, its response and
grant types are understood. -/
structure TellsTruth (B : Build) (requestPath : String → String) (s : InnerState)
    (doc : DiscoveryDocument) : Prop where
  endpoints : ∀ r ∈ doc.endpoints, r.Routed requestPath
  responseTypes : ∀ r ∈ doc.responseTypesSupported, AcceptsResponseType B s r
  grantTypes : ∀ g ∈ doc.grantTypesSupported, DispatchesGrantType B s g

/-- **Discovery.** Of no configuration and at no moment does the document tell
the truth, since it promises the response type `token`. Besides that response
type, it does so exactly as far as its URLs go: all are served without an issuer
suffix, none after a plain one. -/
theorem discovery_promises (b : MockServerBuilder) (baseUrl : String) (signing : SigningKeys)
    (calls : List Call) (d : Draws) (requestPath : String → String) :
    let s := (server B).run (b.spawn baseUrl signing) calls
    let doc := discovery d s
    ¬ TellsTruth B requestPath s doc ∧
    (∀ r ∈ doc.responseTypesSupported, AcceptsResponseType B s r ↔ r = "code") ∧
    (∀ g ∈ doc.grantTypesSupported, DispatchesGrantType B s g) ∧
    (RequestsPlainPaths baseUrl requestPath → b.issuerSuffix = none →
      ∀ r ∈ doc.endpoints, r.Routed requestPath) ∧
    (RequestsPlainPaths baseUrl requestPath → ∀ suffix, b.issuerSuffix = some suffix →
      PlainPath ("/" ++ suffix) → ∀ r ∈ doc.endpoints, ¬ r.Routed requestPath) := by
  intro s doc
  have hissuer : s.issuer = (b.spawn baseUrl signing).issuer := run_issuer _ calls
  refine ⟨?_, ?_, ?_, ?_, ?_⟩
  · intro htruth
    have htoken : "token" ∈ doc.responseTypesSupported := by
      simp [doc, discovery]
    have hcode := (acceptsResponseType_iff d).mp (htruth.responseTypes _ htoken)
    exact absurd hcode (by decide)
  · intro r _
    exact acceptsResponseType_iff d
  · intro g hg
    obtain ⟨grant, hnamed⟩ := grantTypesSupported_named hg
    exact dispatchesGrantType hnamed
  · intro hpath hnone r hr
    refine served_of_no_suffix hpath ?_ hr
    rw [hissuer, MockServerBuilder.spawn, hnone]
  · intro hpath suffix hsome hplain r hr
    refine not_served_of_suffix hpath ?_ hplain hr
    rw [hissuer, MockServerBuilder.spawn, hsome]
    rfl

/-! ### The sample address -/

namespace Sample

def address : String := "http://127.0.0.1:8080"

/-- What a client asks the server at the sample address for. -/
def pathOf (url : String) : String := (stripPrefix address url).getD url

theorem requestsPlainPaths_pathOf : RequestsPlainPaths address pathOf := by
  intro path _
  rw [pathOf, stripPrefix_append, Option.getD_some]

end Sample

open Sample in
/-- Without a suffix every URL of the document is served. -/
theorem discovery_promises_default :
    ∀ r ∈ (discovery (draws 0 "01") ((server build).run
        (MockServerBuilder.default.spawn address keys) [authorizeCall])).endpoints,
      r.Routed pathOf :=
  (discovery_promises MockServerBuilder.default address keys [authorizeCall] (draws 0 "01")
    pathOf).2.2.2.1 requestsPlainPaths_pathOf rfl

open Sample in
/-- The default server promises a response type that it refuses, and a server
with a suffix a token endpoint that it does not have. -/
theorem discovery_untrue :
    "token" ∈ (discovery (draws 0 "01")
      (MockServerBuilder.default.spawn address keys)).responseTypesSupported ∧
    ((authorize build (draws 0 "01") { authorizeQuery with responseType := "token" }).exec
      (MockServerBuilder.default.spawn address keys)).1 =
        .error (.invalidRequest "unsupported response_type") ∧
    (discovery (draws 0 "01") ((MockServerBuilder.default.withIssuerSuffix "tenant").spawn address
      keys)).tokenEndpoint = "http://127.0.0.1:8080/tenant/token" ∧
    route .post (pathOf "http://127.0.0.1:8080/tenant/token") = none := by
  refine ⟨by decide, rfl, by decide, by decide⟩

end GreenticConformance.OAuthMock
