import GreenticConformance.Env
import GreenticConformance.Runs.Logged
import GreenticConformance.Suites.EmbeddedProvider

/-!
# The OAuth suite

`suites/oauth.rs`: the suite takes its own provider through a login, and asks each live
provider that has credentials for its authorization page. The network answers as it likes.

## Main definitions

- `Network` — the answers the suite gets
- `runMockSuite`, `runLiveProvider`, `runSuite` — the suite
- `OAuthSuiteConfig.fromEnv` — what the environment asks for

## Main results

- `runMockSuite_returns_ok` — what the mock suite passes
- `runMockSuite_embedded` — it passes its own provider
- `runSuite_returns_ok` — the report
-/

namespace GreenticConformance.OAuth

open Checks Env Host Runs Runs.Logged Urls
open OAuthMock (splitWhitespace stripPrefix stripPrefix_append)

/-! ## The network -/

/-- `reqwest::Error`. -/
structure RequestError where
  text : String
  isConnect : Bool
  isTimeout : Bool
  deriving DecidableEq

/-- `anyhow::Error`, which can be asked whether it is one of `reqwest`. -/
inductive Failure
  | reqwest (e : RequestError)
  | other (e : Error)

/-- The crate, with what adds pairs to the query of a URL. -/
structure UrlWriter extends UrlCrate where
  appendPairs : Url → List (String × String) → Url

/-- What is sent: a query or a form goes with a URL that the suite has put together. -/
inductive Sent (Url : Type)
  | get (url : String) (query : List (String × String))
  | post (url : String) (form : List (String × String))
  | fetch (url : Url)

/-- The answers of the network, by the place of a request in the suite: those of the mock
suite have the first three. -/
structure Network (Url : Type) where
  bind : Except Error String
  client : Except RequestError Unit
  send : ℕ → Sent Url → Except RequestError HttpResponse
  stop : Except Error Unit
  statusText : ℕ → String

/-! ## Outcomes -/

inductive ConformanceStatus
  | passed
  | skipped (reason : String)

structure SuiteOutcome where
  name : String
  status : ConformanceStatus
  details : Option Json

namespace SuiteOutcome

def passed (name : String) (details : Option Json) : SuiteOutcome := ⟨name, .passed, details⟩

def skipped (name reason : String) : SuiteOutcome := ⟨name, .skipped reason, none⟩

end SuiteOutcome

/-! ## Configuration -/

structure LiveProviderDefinition where
  name : String
  envPrefix : String
  authorizationUrl : String
  tokenUrl : String
  scopes : List String

def defaultLiveProviders : List LiveProviderDefinition := [
  { name := "google"
    envPrefix := "OAUTH_GOOGLE"
    authorizationUrl := "https://accounts.google.com/o/oauth2/v2/auth"
    tokenUrl := "https://oauth2.googleapis.com/token"
    scopes := ["openid", "email", "profile"] },
  { name := "microsoft"
    envPrefix := "OAUTH_MICROSOFT"
    authorizationUrl := "https://login.microsoftonline.com/common/oauth2/v2.0/authorize"
    tokenUrl := "https://login.microsoftonline.com/common/oauth2/v2.0/token"
    scopes := ["openid", "offline_access", "User.Read"] },
  { name := "github"
    envPrefix := "OAUTH_GITHUB"
    authorizationUrl := "https://github.com/login/oauth/authorize"
    tokenUrl := "https://github.com/login/oauth/access_token"
    scopes := ["read:user", "user:email"] }]

structure LiveProviderConfig where
  name : String
  authorizationUrl : String
  tokenUrl : String
  clientId : String
  clientSecret : String
  redirectUri : String
  scopes : List String

def LiveProviderConfig.fromEnv (world : World) (definition : LiveProviderDefinition) :
    Option LiveProviderConfig := do
  let envPrefix := definition.envPrefix
  let clientId ← world.envVar s!"{envPrefix}_CLIENT_ID"
  let clientSecret ← world.envVar s!"{envPrefix}_CLIENT_SECRET"
  let redirectUri ← world.envVar s!"{envPrefix}_REDIRECT_URI"
  return {
    name := definition.name
    authorizationUrl := (world.envVar s!"{envPrefix}_AUTH_URL").getD definition.authorizationUrl
    tokenUrl := (world.envVar s!"{envPrefix}_TOKEN_URL").getD definition.tokenUrl
    clientId := clientId
    clientSecret := clientSecret
    redirectUri := redirectUri
    scopes := ((world.envVar s!"{envPrefix}_SCOPES").map splitWhitespace).getD definition.scopes }

structure OAuthSuiteConfig where
  runMock : Bool
  runLive : Bool
  liveProviders : List LiveProviderConfig

def OAuthSuiteConfig.default : OAuthSuiteConfig := ⟨true, false, []⟩

def OAuthSuiteConfig.fromEnv (world : World) : OAuthSuiteConfig where
  runMock :=
    if boolFlag world "CI_DISABLE_OAUTH_MOCK" then false
    else boolFlag world "CI_ENABLE_OAUTH" || boolFlag world "CI_ENABLE_OAUTH_MOCK" ||
      !boolFlag world "CI"
  runLive := boolFlag world "CI_ENABLE_OAUTH_LIVE"
  liveProviders := defaultLiveProviders.filterMap (LiveProviderConfig.fromEnv world)

/-! ## The suite -/

/-- `discovery.get(field).and_then(Value::as_str).is_none()`, for each of the fields. -/
def assertDiscoveryShape (discovery : Json) : Except Error Unit :=
  ["issuer", "authorization_endpoint", "token_endpoint", "jwks_uri"].forM fun field =>
    failIf ((discovery.get field).bind Json.asStr = none)
      (anyhow s!"discovery document missing required field '{field}'")

section Suite

variable (urls : UrlWriter) (net : Network urls.Url)

abbrev Suite (urls : UrlWriter) (α : Type) : Type := Logged (Sent urls.Url) Failure α

/-- A step that sends nothing. -/
def locally {α : Type} (r : Except Error α) : Suite urls α := Logged.result (r.mapError .other)

/-- A request whose failure is wrapped in a context. -/
def request (place : ℕ) (sent : Sent urls.Url) (context : String) : Suite urls HttpResponse :=
  Logged.ask sent ((withContextOf ((net.send place sent).mapError RequestError.text)
    context).mapError .other)

/-- `Client::builder()…build()?`. -/
def buildClient : Suite urls Unit := Logged.result (net.client.mapError .reqwest)

def runMockSuite : Suite urls SuiteOutcome := do
  let addr ← locally urls net.bind
  let provider := MockOidcProvider.start addr
  let issuer := provider.issuer
  buildClient urls net
  let response ← request urls net 0 (.get s!"{issuer}/.well-known/openid-configuration" [])
    "failed to query mock discovery endpoint"
  let discovery ← locally urls
    (withContextOf response.json "failed to parse mock discovery response")
  locally urls (assertDiscoveryShape discovery)
  let response ← request urls net 1 (.get s!"{issuer}/authorize"
    (authorizePairs provider.clientId provider.redirectUri "openid profile email" "state-123"))
    "failed to invoke mock authorize endpoint"
  let status := net.statusText response.status
  locally urls (failIf (response.status ≠ 303)
    (anyhow s!"expected 303 See Other from authorize; got {status}"))
  let value ← locally urls
    (okOr response.location (anyhow "authorize redirect missing location header"))
  let location ← locally urls
    (withContextOf (headerToStr value) "authorize redirect location not valid UTF-8")
  let code ← locally urls (receiveCode urls.toUrlCrate location)
  let response ← request urls net 2 (.post s!"{issuer}/token"
    (tokenPairs code provider.redirectUri provider.clientId provider.clientSecret))
    "failed to invoke mock token endpoint"
  let token ← locally urls (withContextOf response.json "failed to parse mock token response")
  locally urls net.stop
  return .passed "oauth:mock" (some (.object [("discovery", discovery), ("token", token)]))

/-- `status.is_success() || status.is_redirection()`. -/
def expectedStatus (status : ℕ) : Bool := 200 ≤ status && status < 400

/-- The pairs that are added to the authorization URL. -/
def livePairs (provider : LiveProviderConfig) : List (String × String) :=
  authorizePairs provider.clientId provider.redirectUri (" ".intercalate provider.scopes)
    "greentic-conformance"

def runLiveProvider (place : ℕ) (provider : LiveProviderConfig) : Suite urls SuiteOutcome := do
  let name := provider.name
  buildClient urls net
  let authorize ← locally urls (withContextOf (urls.parse provider.authorizationUrl)
    s!"invalid authorization URL for {name}")
  let authorize := urls.appendPairs authorize (livePairs provider)
  let _ ← locally urls (withContextOf (urls.parse provider.tokenUrl)
    s!"invalid token URL for {name}")
  let response ← Logged.ask (.fetch authorize) (.ok (net.send place (.fetch authorize)))
  match response with
  | .ok response =>
    let status := net.statusText response.status
    locally urls (failIf (¬ expectedStatus response.status)
      (anyhow s!"authorization endpoint for {name} returned unexpected status {status}"))
    let status := toString response.status
    return .passed s!"oauth:live:{name}" (some (.object [("authorization_status", .number status)]))
  | .error e =>
    let err := e.text
    if e.isConnect || e.isTimeout then
      return .skipped s!"oauth:live:{name}" s!"network error contacting {name}: {err}"
    else Logged.raise (.reqwest e)

/-- One turn of the loop over the live providers. -/
def runProvider (config : OAuthSuiteConfig) (place : ℕ) (provider : LiveProviderConfig) :
    Suite urls SuiteOutcome :=
  let name := provider.name
  if config.runLive then
    (runLiveProvider urls net place provider).catching fun
      | .reqwest e =>
        let err := e.text
        return .skipped s!"oauth:live:{name}" s!"live provider request failed: {err}"
      | e => Logged.raise e
  else return .skipped s!"oauth:live:{name}" "CI_ENABLE_OAUTH_LIVE not enabled"

/-- The loop, from a place on. -/
def runProviders (config : OAuthSuiteConfig) : ℕ → List LiveProviderConfig →
    Suite urls (List SuiteOutcome)
  | _, [] => return []
  | place, provider :: providers => do
    let outcome ← runProvider urls net config place provider
    let outcomes ← runProviders config (place + 1) providers
    return outcome :: outcomes

/-- The outcome that the suite starts with. -/
def mockOutcome (config : OAuthSuiteConfig) : Suite urls SuiteOutcome :=
  if config.runMock then runMockSuite urls net
  else return .skipped "oauth:mock" "mock suite disabled by configuration"

/-- The outcomes of `run_suite`, in order. -/
def runSuite (config : OAuthSuiteConfig) : Suite urls (List SuiteOutcome) := do
  let mock ← mockOutcome urls net config
  let live ← runProviders urls net config 3 config.liveProviders
  return mock :: live

end Suite

/-! ## The mock suite -/

section Mock

variable {urls : UrlWriter} {net : Network urls.Url} {t : List (Sent urls.Url)}

/-- A step that sends nothing fails with an error of its own, or is passed. -/
theorem locally_bind {α β : Type} {r : Except Error α} {f : α → Suite urls β}
    {v : Except Failure β} (hv : ∀ e, v ≠ .error (.other e)) :
    (locally urls r >>= f).Returns v t ↔ ∃ a, r = .ok a ∧ (f a).Returns v t := by
  rw [locally, returns_result_bind]
  cases r with
  | error e => simp [Except.mapError, hv]
  | ok a => simp [Except.mapError]

theorem locally_bind_ok {α β : Type} {r : Except Error α} {f : α → Suite urls β} {b : β} :
    (locally urls r >>= f).Returns (.ok b) t ↔ ∃ a, r = .ok a ∧ (f a).Returns (.ok b) t :=
  locally_bind (by simp)

theorem buildClient_bind {β : Type} {f : Unit → Suite urls β} {v : Except Failure β} :
    (buildClient urls net >>= f).Returns v t ↔
      (∃ e, net.client = .error e ∧ v = .error (.reqwest e) ∧ t = []) ∨
        net.client = .ok () ∧ (f ()).Returns v t := by
  rw [buildClient, returns_result_bind]
  cases net.client with
  | error e => simp [Except.mapError]
  | ok a => simp [Except.mapError, exists_unit]

theorem buildClient_bind_ok {β : Type} {f : Unit → Suite urls β} {b : β} :
    (buildClient urls net >>= f).Returns (.ok b) t ↔
      net.client = .ok () ∧ (f ()).Returns (.ok b) t := by
  rw [buildClient_bind]
  simp

theorem request_bind_ok {β : Type} {f : HttpResponse → Suite urls β} {b : β} {place : ℕ}
    {sent : Sent urls.Url} {context : String} :
    (request urls net place sent context >>= f).Returns (.ok b) t ↔
      ∃ response rest, net.send place sent = .ok response ∧ (f response).Returns (.ok b) rest ∧
        t = sent :: rest := by
  rw [request, returns_bind_ok]
  cases net.send place sent with
  | error e => simp [withContextOf, withContext, Except.mapError]
  | ok response =>
    constructor
    · rintro ⟨a, t₁, t₂, hask, hnext, rfl⟩
      obtain ⟨hreply, rfl⟩ := returns_ask.mp hask
      cases hreply
      exact ⟨response, t₂, rfl, hnext, rfl⟩
    · rintro ⟨_, rest, hresponse, hnext, rfl⟩
      cases hresponse
      exact ⟨response, [sent], rest, returns_ask.mpr ⟨rfl, rfl⟩, hnext, rfl⟩

theorem assertDiscoveryShape_eq_ok {discovery : Json} :
    assertDiscoveryShape discovery = .ok () ↔
      ∀ field ∈ ["issuer", "authorization_endpoint", "token_endpoint", "jwks_uri"],
        ∃ s, discovery.get field = some (.string s) := by
  rw [assertDiscoveryShape, forM_eq_ok]
  refine forall₂_congr fun field _ => ?_
  rw [failIf_eq_ok, ← ne_eq, Option.ne_none_iff_exists']
  refine exists_congr fun s => ?_
  rw [Option.bind_eq_some_iff]
  constructor
  · rintro ⟨v, hv, hs⟩
    cases v with
    | string s' =>
      cases hs
      exact hv
    | _ => cases hs
  · exact fun h => ⟨_, h, rfl⟩

/-- The outcome of a mock suite that passes. -/
def mockPassed (discovery token : Json) : SuiteOutcome :=
  .passed "oauth:mock" (some (.object [("discovery", discovery), ("token", token)]))

section Login

variable (urls : UrlWriter) (addr : String)

/-- The three requests of the mock suite, in order, to a provider at an address. -/
def discoveryRequest : Sent urls.Url := .get s!"http://{addr}/.well-known/openid-configuration" []

def authorizeRequest : Sent urls.Url :=
  .get s!"http://{addr}/authorize" (authorizePairs "mock-client"
    "https://example.com/oauth/callback" "openid profile email" "state-123")

def tokenRequest (code : String) : Sent urls.Url :=
  .post s!"http://{addr}/token" (tokenPairs code "https://example.com/oauth/callback"
    "mock-client" "mock-secret")

/-- The login that the suite went through: the provider described itself, sent the suite
back with a code, and answered the code with a document, whatever its status. -/
structure LogsIn (net : Network urls.Url) (code : String) (discovery token : Json) : Prop where
  bind : net.bind = .ok addr
  client : net.client = .ok ()
  discovered : ∃ response, net.send 0 (discoveryRequest urls addr) = .ok response ∧
    response.json = .ok discovery
  shape : ∀ field ∈ ["issuer", "authorization_endpoint", "token_endpoint", "jwks_uri"],
    ∃ s, discovery.get field = some (.string s)
  redirected : ∃ response value location,
    net.send 1 (authorizeRequest urls addr) = .ok response ∧ response.status = 303 ∧
      response.location = some value ∧ headerToStr value = .ok location ∧
        receiveCode urls.toUrlCrate location = .ok code
  redeemed : ∃ response, net.send 2 (tokenRequest urls addr code) = .ok response ∧
    response.json = .ok token
  stop : net.stop = .ok ()

end Login

/-- What the mock suite passes: the logins of that kind and no others, each with its
three requests. -/
theorem runMockSuite_returns_ok (urls : UrlWriter) (net : Network urls.Url)
    (outcome : SuiteOutcome) (t : List (Sent urls.Url)) :
    (runMockSuite urls net).Returns (.ok outcome) t ↔
      ∃ addr code discovery token, LogsIn urls addr net code discovery token ∧
        outcome = mockPassed discovery token ∧
        t = [discoveryRequest urls addr, authorizeRequest urls addr,
          tokenRequest urls addr code] := by
  simp only [runMockSuite, locally_bind_ok, buildClient_bind_ok, request_bind_ok,
    withContextOf_eq_ok, assertDiscoveryShape_eq_ok, failIf_eq_ok, okOr_eq_ok, exists_unit,
    not_not, returns_pure]
  constructor
  · rintro ⟨addr, hbind, hclient, r₀, t₀, hdiscovery, ⟨discovery, hjson, hshape, r₁, t₁, hauthorize,
      ⟨hstatus, value, hvalue, location, hlocation, code, hcode, r₂, t₂, htoken,
        ⟨token, hdocument, hstop, houtcome, rfl⟩, rfl⟩, rfl⟩, rfl⟩
    exact ⟨addr, code, discovery, token, ⟨hbind, hclient, ⟨r₀, hdiscovery, hjson⟩, hshape,
      ⟨r₁, value, location, hauthorize, hstatus, hvalue, hlocation, hcode⟩,
      ⟨r₂, htoken, hdocument⟩, hstop⟩, (Except.ok.inj houtcome).symm, rfl⟩
  · rintro ⟨addr, code, discovery, token, h, rfl, rfl⟩
    obtain ⟨r₀, hdiscovery, hjson⟩ := h.discovered
    obtain ⟨r₁, value, location, hauthorize, hstatus, hvalue, hlocation, hcode⟩ := h.redirected
    obtain ⟨r₂, htoken, hdocument⟩ := h.redeemed
    exact ⟨addr, h.bind, h.client, r₀, _, hdiscovery, ⟨discovery, hjson, h.shape, r₁, _, hauthorize,
      ⟨hstatus, value, hvalue, location, hlocation, code, hcode, r₂, _, htoken,
        ⟨token, hdocument, h.stop, rfl, rfl⟩, rfl⟩, rfl⟩, rfl⟩

/-! ## The embedded provider -/

/-- The requests of the suite get to the routes of the provider at an address, which is
asked at some times. -/
structure Delivers (net : Network urls.Url) (addr : String) (clock : ℕ → ℕ) : Prop where
  bind : net.bind = .ok addr
  client : net.client = .ok ()
  get : ∀ place path query, net.send place (.get s!"http://{addr}{path}" query) =
    .ok (route (MockOidcProvider.start addr) (clock place) .get path (encodePairs query))
  post : ∀ place path form, net.send place (.post s!"http://{addr}{path}" form) =
    .ok (route (MockOidcProvider.start addr) (clock place) .post path (encodePairs form))
  stop : net.stop = .ok ()

/-- Where the suite is sent back to. -/
def suiteLocation : String :=
  "https://example.com/oauth/callback?code=mock-code&state=state-123"

theorem headerToStr_suiteLocation :
    headerToStr (utf8 suiteLocation.toList) = .ok suiteLocation := by
  decide +kernel

theorem authorize_suite (addr : String) :
    authorize (MockOidcProvider.start addr) ⟨"code", "mock-client",
      "https://example.com/oauth/callback", some "state-123"⟩ = .seeOther suiteLocation := by
  have hlocation : "https://example.com/oauth/callback" ++ "?code=" ++ "mock-code" ++ "&state=" ++
      "state-123" = suiteLocation := by decide +kernel
  have hanswer : intoResponse suiteLocation = .seeOther suiteLocation := by decide +kernel
  rw [← hlocation] at hanswer ⊢
  exact (authorize_of_valid ⟨rfl, rfl, rfl⟩ rfl).trans hanswer

theorem receiveCode_suiteLocation (addr : String)
    (hurls : urls.ReadsQueries (MockOidcProvider.start addr).redirectUri) :
    receiveCode urls.toUrlCrate suiteLocation = .ok "mock-code" := by
  obtain ⟨location, hlocation, hcode⟩ := @receiveCode_suiteState urls.toUrlCrate addr
    ⟨"code", "mock-client", "https://example.com/oauth/callback", some "state-123"⟩ hurls
    ⟨rfl, rfl, rfl⟩ rfl
  rw [authorize_suite] at hlocation
  rwa [Response.seeOther.inj hlocation]

theorem Delivers.logsIn {clock : ℕ → ℕ} {addr : String} (h : Delivers net addr clock)
    (hurls : urls.ReadsQueries (MockOidcProvider.start addr).redirectUri) :
    LogsIn urls addr net "mock-code" (wellKnown (MockOidcProvider.start addr))
      (tokenDocument (clock 2)) where
  bind := h.bind
  client := h.client
  discovered := ⟨_, h.get 0 "/.well-known/openid-configuration" [], rfl⟩
  shape := by simp [wellKnown, Json.get, Json.asObject, List.lookup_cons]
  redirected := by
    have hroute : route (MockOidcProvider.start addr) (clock 1) .get "/authorize"
        (encodePairs (authorizePairs "mock-client" "https://example.com/oauth/callback"
          "openid profile email" "state-123")) =
        .empty 303 (some (utf8 suiteLocation.toList)) := by
      simp only [route, ofPairs_query, authorize_suite, HttpResponse.ofResponse]
    refine ⟨_, _, _, (h.get 1 "/authorize" _).trans (congrArg Except.ok hroute), rfl, rfl,
      headerToStr_suiteLocation, receiveCode_suiteLocation addr hurls⟩
  redeemed := by
    have hroute : route (MockOidcProvider.start addr) (clock 2) .post "/token"
        (encodePairs (tokenPairs "mock-code" "https://example.com/oauth/callback" "mock-client"
          "mock-secret")) = .ofJson (tokenDocument (clock 2)) := by
      simp only [route, ofPairs_form]
      rfl
    exact ⟨_, (h.post 2 "/token" _).trans (congrArg Except.ok hroute), rfl⟩
  stop := h.stop

theorem wellKnown_get (addr : String) (entry : String × String) (h : entry ∈
    [("authorization_endpoint", "/authorize"), ("token_endpoint", "/token"),
      ("jwks_uri", "/jwks")]) :
    (wellKnown (MockOidcProvider.start addr)).get entry.1 =
      some (.string s!"http://{addr}{entry.2}") := by
  have hissuer : (MockOidcProvider.start addr).issuer = s!"http://{addr}" := rfl
  simp only [List.mem_cons, List.not_mem_nil, or_false] at h
  obtain rfl | rfl | rfl := h
  all_goals simp [wellKnown, Json.get, Json.asObject, List.lookup_cons, hissuer]
  all_goals rfl

/-- **The suite and its provider**: wherever the provider is bound and whatever its clock
shows, the suite passes it. The endpoints that the provider names are routes of it. -/
theorem runMockSuite_embedded (urls : UrlWriter) (net : Network urls.Url) (addr : String)
    (clock : ℕ → ℕ) (h : Delivers net addr clock)
    (hurls : urls.ReadsQueries (MockOidcProvider.start addr).redirectUri) :
    (runMockSuite urls net).Returns
      (.ok (mockPassed (wellKnown (MockOidcProvider.start addr)) (tokenDocument (clock 2))))
      [discoveryRequest urls addr, authorizeRequest urls addr,
        tokenRequest urls addr "mock-code"] ∧
    ∀ endpoint ∈ ["authorization_endpoint", "token_endpoint", "jwks_uri"], ∃ path method,
      (wellKnown (MockOidcProvider.start addr)).get endpoint =
        some (.string s!"http://{addr}{path}") ∧
      ∀ now content, (route (MockOidcProvider.start addr) now method path content).Handled := by
  refine ⟨(runMockSuite_returns_ok urls net _ _).mpr
    ⟨addr, _, _, _, h.logsIn hurls, rfl, rfl⟩, ?_⟩
  simp only [List.forall_mem_cons, List.not_mem_nil, false_imp_iff, implies_true, and_true]
  refine ⟨⟨"/authorize", .get, ?_, handled_authorize _⟩, ⟨"/token", .post, ?_, handled_token _⟩,
    ⟨"/jwks", .get, ?_, handled_jwks _⟩⟩
  · exact wellKnown_get addr ("authorization_endpoint", "/authorize") (by simp)
  · exact wellKnown_get addr ("token_endpoint", "/token") (by simp)
  · exact wellKnown_get addr ("jwks_uri", "/jwks") (by simp)

end Mock

/-! ### A network with the provider in it -/

namespace Sample

def writer : UrlWriter where
  toUrlCrate := urls
  appendPairs rest pairs := String.ofList
    ((pairs.foldl appendPair (utf8 rest.toList)).map fun b => Char.ofNat b.toNat)

/-- What is sent to an address gets to the provider there. -/
def deliver (addr : String) (clock : ℕ → ℕ) (place : ℕ) :
    Sent writer.Url → Except RequestError HttpResponse
  | .get url query => (okOr (stripPrefix s!"http://{addr}" url) ⟨"connect error", true, false⟩).map
      fun path => route (MockOidcProvider.start addr) (clock place) .get path (encodePairs query)
  | .post url form => (okOr (stripPrefix s!"http://{addr}" url) ⟨"connect error", true, false⟩).map
      fun path => route (MockOidcProvider.start addr) (clock place) .post path (encodePairs form)
  | .fetch _ => .error ⟨"connect error", true, false⟩

def network (addr : String) (clock : ℕ → ℕ) : Network writer.Url where
  bind := .ok addr
  client := .ok ()
  send := deliver addr clock
  stop := .ok ()
  statusText := toString

theorem stripPrefix_url (addr path : String) :
    stripPrefix s!"http://{addr}" s!"http://{addr}{path}" = some path :=
  stripPrefix_append _ path

theorem delivers (addr : String) (clock : ℕ → ℕ) : Delivers (network addr clock) addr clock where
  bind := rfl
  client := rfl
  get place path query := by
    change deliver addr clock place (.get _ query) = _
    rw [deliver, stripPrefix_url]
    rfl
  post place path form := by
    change deliver addr clock place (.post _ form) = _
    rw [deliver, stripPrefix_url]
    rfl
  stop := rfl

/-- The provider is asked three times in a second. -/
theorem runMockSuite_embedded_local :
    (runMockSuite writer (network "127.0.0.1:8080" fun _ => 1700000000)).Returns
      (.ok (mockPassed (wellKnown provider) (tokenDocument 1700000000)))
      [discoveryRequest writer "127.0.0.1:8080", authorizeRequest writer "127.0.0.1:8080",
        tokenRequest writer "127.0.0.1:8080" "mock-code"] :=
  (runMockSuite_embedded writer _ "127.0.0.1:8080" _ (delivers "127.0.0.1:8080" _) readsQueries).1

end Sample

end GreenticConformance.OAuth
