import GreenticConformance.Suites.OAuthSuite
import Mathlib.Data.List.Forall2

/-!
# The report of the OAuth suite

A report has an outcome for the mock suite and one for each live provider, in order. A live
provider that cannot be reached is skipped: only one that is configured with something that
is no URL, or that answers with an unexpected status, ends the suite.

## Main definitions

- `Visits` — the visit of a live provider, as far as it does not end the suite
- `WellBehaved` — a live provider that does not end the suite

## Main results

- `runProvider_returns_ok` — the live part is made of such visits
- `runSuite_report` — what is in a report, and what was asked for it
- `runSuite_reports_iff` — when there is a report
-/

namespace GreenticConformance.OAuth

open Checks Env Host Runs Runs.Logged Urls

variable {urls : UrlWriter} {net : Network urls.Url} {config : OAuthSuiteConfig} {place : ℕ}
variable {provider : LiveProviderConfig} {outcome : SuiteOutcome} {t : List (Sent urls.Url)}

/-! ## One provider -/

/-- Both URLs of the provider are URLs, and this is the authorization page that is asked. -/
def Asks (urls : UrlWriter) (provider : LiveProviderConfig) (url : urls.Url) : Prop :=
  ∃ base, urls.parse provider.authorizationUrl = .ok base ∧
    (∃ token, urls.parse provider.tokenUrl = .ok token) ∧
    url = urls.appendPairs base (livePairs provider)

def liveName (provider : LiveProviderConfig) : String :=
  let name := provider.name
  s!"oauth:live:{name}"

def networkError (provider : LiveProviderConfig) (e : RequestError) : String :=
  let name := provider.name
  let err := e.text
  s!"network error contacting {name}: {err}"

def requestFailed (e : RequestError) : String :=
  let err := e.text
  s!"live provider request failed: {err}"

/-- The visit of a live provider that does not end the suite: what came of it, and the
request that was sent. -/
inductive Visits (net : Network urls.Url) (place : ℕ) (provider : LiveProviderConfig) :
    Except RequestError SuiteOutcome → List (Sent urls.Url) → Prop
  | unbuilt {e} (hclient : net.client = .error e) : Visits net place provider (.error e) []
  | answered {url response} (hclient : net.client = .ok ()) (hasks : Asks urls provider url)
      (hsend : net.send place (.fetch url) = .ok response)
      (hstatus : expectedStatus response.status = true) : Visits net place provider
        (.ok (.passed (liveName provider)
          (some (.object [("authorization_status", .number (toString response.status))]))))
        [.fetch url]
  | unreachable {url e} (hclient : net.client = .ok ()) (hasks : Asks urls provider url)
      (hsend : net.send place (.fetch url) = .error e)
      (hnetwork : (e.isConnect || e.isTimeout) = true) : Visits net place provider
        (.ok (.skipped (liveName provider) (networkError provider e))) [.fetch url]
  | failed {url e} (hclient : net.client = .ok ()) (hasks : Asks urls provider url)
      (hsend : net.send place (.fetch url) = .error e)
      (hnetwork : (e.isConnect || e.isTimeout) = false) :
      Visits net place provider (.error e) [.fetch url]

theorem runLiveProvider_returns {r : Except RequestError SuiteOutcome} :
    (runLiveProvider urls net place provider).Returns (r.mapError .reqwest) t ↔
      Visits net place provider r t := by
  have hother : ∀ e, r.mapError Failure.reqwest ≠ .error (.other e) := by
    cases r <;> simp [Except.mapError]
  simp only [runLiveProvider, buildClient_bind, locally_bind hother, returns_ask_ok_bind,
    withContextOf_eq_ok]
  constructor
  · rintro (⟨e, hclient, hr, rfl⟩ | ⟨hclient, base, hbase, token, htoken, rest, hnext, rfl⟩)
    · cases r with
      | ok o => cases hr
      | error e' =>
        cases hr
        exact .unbuilt hclient
    · have hasks : Asks urls provider (urls.appendPairs base (livePairs provider)) :=
        ⟨base, hbase, ⟨token, htoken⟩, rfl⟩
      cases hsend : net.send place (.fetch (urls.appendPairs base (livePairs provider))) with
      | ok response =>
        rw [hsend] at hnext
        simp only [locally_bind hother, failIf_eq_ok, exists_unit, not_not, returns_pure] at hnext
        obtain ⟨hstatus, hr, rfl⟩ := hnext
        cases r with
        | error e => cases hr
        | ok o =>
          cases hr
          exact .answered hclient hasks hsend hstatus
      | error e =>
        rw [hsend] at hnext
        cases hnetwork : e.isConnect || e.isTimeout with
        | true =>
          simp only [hnetwork, if_true, returns_pure] at hnext
          obtain ⟨hr, rfl⟩ := hnext
          cases r with
          | error e => cases hr
          | ok o =>
            cases hr
            exact .unreachable hclient hasks hsend hnetwork
        | false =>
          simp only [hnetwork, Bool.false_eq_true, if_false, returns_raise] at hnext
          obtain ⟨hr, rfl⟩ := hnext
          cases r with
          | ok o => cases hr
          | error e' =>
            cases hr
            exact .failed hclient hasks hsend hnetwork
  · intro h
    cases h with
    | unbuilt hclient => exact .inl ⟨_, hclient, rfl, rfl⟩
    | answered hclient hasks hsend hstatus =>
      obtain ⟨base, hbase, ⟨token, htoken⟩, rfl⟩ := hasks
      refine .inr ⟨hclient, base, hbase, token, htoken, [], ?_, rfl⟩
      rw [hsend]
      simp only [locally_bind hother, failIf_eq_ok, exists_unit, not_not, returns_pure]
      exact ⟨hstatus, rfl, trivial⟩
    | unreachable hclient hasks hsend hnetwork =>
      obtain ⟨base, hbase, ⟨token, htoken⟩, rfl⟩ := hasks
      refine .inr ⟨hclient, base, hbase, token, htoken, [], ?_, rfl⟩
      rw [hsend]
      simp only [hnetwork, if_true, returns_pure]
      exact ⟨rfl, trivial⟩
    | failed hclient hasks hsend hnetwork =>
      obtain ⟨base, hbase, ⟨token, htoken⟩, rfl⟩ := hasks
      refine .inr ⟨hclient, base, hbase, token, htoken, [], ?_, rfl⟩
      rw [hsend]
      simp only [hnetwork, Bool.false_eq_true, if_false, returns_raise]
      exact ⟨rfl, trivial⟩

/-- What becomes of a visit: a request that failed is skipped. -/
def settle (provider : LiveProviderConfig) : Except RequestError SuiteOutcome → SuiteOutcome
  | .ok outcome => outcome
  | .error e => .skipped (liveName provider) (requestFailed e)

theorem runProvider_returns_ok (hlive : config.runLive = true) :
    (runProvider urls net config place provider).Returns (.ok outcome) t ↔
      ∃ r, Visits net place provider r t ∧ outcome = settle provider r := by
  rw [runProvider, if_pos hlive, returns_catching_ok]
  simp only [← runLiveProvider_returns]
  constructor
  · rintro (h | ⟨e, t₁, t₂, hraised, hhandler, rfl⟩)
    · exact ⟨.ok outcome, h, rfl⟩
    · cases e with
      | reqwest e =>
        obtain ⟨houtcome, rfl⟩ := returns_pure.mp hhandler
        refine ⟨.error e, ?_, (Except.ok.inj houtcome).symm⟩
        rwa [List.append_nil]
      | other e => cases (returns_raise.mp hhandler).1
  · rintro ⟨r, h, rfl⟩
    cases r with
    | ok o => exact .inl h
    | error e =>
      exact .inr ⟨.reqwest e, t, [], h, returns_pure.mpr ⟨rfl, rfl⟩, (List.append_nil t).symm⟩

theorem Visits.name {r : Except RequestError SuiteOutcome} (h : Visits net place provider r t) :
    (settle provider r).name = liveName provider := by
  cases h <;> rfl

/-- A live provider that does not end the suite: its URLs are URLs, and the status of its
page is one of success or redirection, if there is a page. -/
def WellBehaved (net : Network urls.Url) (place : ℕ) (provider : LiveProviderConfig) : Prop :=
  ∃ url, Asks urls provider url ∧
    ∀ response, net.send place (.fetch url) = .ok response → expectedStatus response.status = true

theorem exists_visits_iff : (∃ r t, Visits net place provider r t) ↔
    (net.client = .ok () → WellBehaved net place provider) := by
  constructor
  · rintro ⟨r, t, h⟩ hok
    cases h with
    | unbuilt hclient => cases hclient.symm.trans hok
    | answered _ hasks hsend hstatus =>
      refine ⟨_, hasks, fun response hresponse => ?_⟩
      cases hsend.symm.trans hresponse
      exact hstatus
    | unreachable _ hasks hsend => exact ⟨_, hasks, fun _ h => by cases hsend.symm.trans h⟩
    | failed _ hasks hsend => exact ⟨_, hasks, fun _ h => by cases hsend.symm.trans h⟩
  · intro h
    cases hclient : net.client with
    | error e => exact ⟨_, _, .unbuilt hclient⟩
    | ok _ =>
      obtain ⟨url, hasks, hstatus⟩ := h hclient
      cases hsend : net.send place (.fetch url) with
      | ok response => exact ⟨_, _, .answered hclient hasks hsend (hstatus response hsend)⟩
      | error e =>
        cases hnetwork : e.isConnect || e.isTimeout with
        | true => exact ⟨_, _, .unreachable hclient hasks hsend hnetwork⟩
        | false => exact ⟨_, _, .failed hclient hasks hsend hnetwork⟩

/-- The request of a visit, if the client could be built. -/
theorem Visits.requests {r : Except RequestError SuiteOutcome}
    (h : Visits net place provider r t) :
    (∀ e, net.client = .error e → t = []) ∧
      (net.client = .ok () → ∃ url, Asks urls provider url ∧ t = [.fetch url]) := by
  cases h with
  | unbuilt hclient => simp [hclient]
  | answered hclient hasks => exact ⟨by simp [hclient], fun _ => ⟨_, hasks, rfl⟩⟩
  | unreachable hclient hasks => exact ⟨by simp [hclient], fun _ => ⟨_, hasks, rfl⟩⟩
  | failed hclient hasks => exact ⟨by simp [hclient], fun _ => ⟨_, hasks, rfl⟩⟩

/-! ## All providers -/

section Providers

variable {providers : List LiveProviderConfig} {outcomes : List SuiteOutcome}

/-- The requests of the live part. -/
def LiveRequests (net : Network urls.Url) (config : OAuthSuiteConfig)
    (providers : List LiveProviderConfig) (t : List (Sent urls.Url)) : Prop :=
  if config.runLive = true ∧ net.client = .ok () then
    List.Forall₂ (fun provider sent => ∃ url, Asks urls provider url ∧ sent = .fetch url)
      providers t
  else t = []

theorem runProvider_step
    (h : (runProvider urls net config place provider).Returns (.ok outcome) t) :
    outcome.name = liveName provider ∧ LiveRequests net config [provider] t := by
  unfold LiveRequests
  cases hlive : config.runLive with
  | true =>
    obtain ⟨r, hvisits, rfl⟩ := (runProvider_returns_ok hlive).mp h
    obtain ⟨hnone, hone⟩ := hvisits.requests
    refine ⟨hvisits.name, ?_⟩
    cases hclient : net.client with
    | error e => simp [hnone e hclient]
    | ok _ =>
      obtain ⟨url, hasks, rfl⟩ := hone hclient
      rw [if_pos ⟨rfl, rfl⟩]
      exact .cons ⟨url, hasks, rfl⟩ .nil
  | false =>
    rw [runProvider, hlive, if_neg (by decide), returns_pure] at h
    obtain ⟨houtcome, rfl⟩ := h
    rw [← Except.ok.inj houtcome]
    exact ⟨rfl, by simp⟩

/-- One outcome for each provider, and one request if there are any. -/
theorem runProviders_report
    (h : (runProviders urls net config place providers).Returns (.ok outcomes) t) :
    outcomes.map SuiteOutcome.name = providers.map liveName ∧
      LiveRequests net config providers t := by
  induction providers generalizing place outcomes t with
  | nil =>
    rw [runProviders, returns_pure] at h
    obtain ⟨houtcomes, rfl⟩ := h
    rw [← Except.ok.inj houtcomes]
    exact ⟨rfl, by simp [LiveRequests]⟩
  | cons provider providers ih =>
    rw [runProviders] at h
    obtain ⟨outcome, t₁, _, hfirst, h₁, rfl⟩ := returns_bind_ok.mp h
    obtain ⟨rest, t₂, _, hrest, h₂, rfl⟩ := returns_bind_ok.mp h₁
    obtain ⟨houtcomes, rfl⟩ := returns_pure.mp h₂
    rw [← Except.ok.inj houtcomes, List.append_nil]
    obtain ⟨hname, hsent⟩ := runProvider_step hfirst
    obtain ⟨hnames, hsents⟩ := ih hrest
    refine ⟨by rw [List.map_cons, hname, hnames, List.map_cons], ?_⟩
    unfold LiveRequests at *
    split_ifs at * with hasked
    · exact List.rel_append hsent hsents
    · rw [hsent, hsents]
      rfl

theorem runProvider_ends_iff : (∃ outcome t,
      (runProvider urls net config place provider).Returns (.ok outcome) t) ↔
    (config.runLive = true → net.client = .ok () → WellBehaved net place provider) := by
  cases hlive : config.runLive with
  | true =>
    simp only [runProvider_returns_ok hlive, forall_const, ← exists_visits_iff]
    constructor
    · rintro ⟨_, t, r, h, _⟩
      exact ⟨r, t, h⟩
    · rintro ⟨r, t, h⟩
      exact ⟨_, t, r, h, rfl⟩
  | false =>
    refine iff_of_true ?_ (by simp)
    rw [runProvider, hlive, if_neg (by decide)]
    exact ⟨_, [], returns_pure.mpr ⟨rfl, rfl⟩⟩

theorem runProviders_ends_iff : (∃ outcomes t,
      (runProviders urls net config place providers).Returns (.ok outcomes) t) ↔
    (config.runLive = true → net.client = .ok () →
      ∀ entry ∈ providers.zipIdx place, WellBehaved net entry.2 entry.1) := by
  induction providers generalizing place with
  | nil =>
    refine iff_of_true ⟨[], [], ?_⟩ (by simp)
    exact returns_pure.mpr ⟨rfl, rfl⟩
  | cons provider providers ih =>
    have hfirst := @runProvider_ends_iff urls net config place provider
    have hrest := @ih (place + 1)
    constructor
    · rintro ⟨outcomes, t, h⟩ hlive hclient
      rw [runProviders] at h
      obtain ⟨outcome, t₁, _, h₁, h', rfl⟩ := returns_bind_ok.mp h
      obtain ⟨rest, t₂, _, h₂, _, rfl⟩ := returns_bind_ok.mp h'
      rw [List.zipIdx_cons, List.forall_mem_cons]
      exact ⟨hfirst.mp ⟨_, _, h₁⟩ hlive hclient, hrest.mp ⟨_, _, h₂⟩ hlive hclient⟩
    · intro h
      simp only [List.zipIdx_cons, List.forall_mem_cons] at h
      obtain ⟨outcome, t₁, h₁⟩ := hfirst.mpr fun hlive hclient => (h hlive hclient).1
      obtain ⟨rest, t₂, h₂⟩ := hrest.mpr fun hlive hclient => (h hlive hclient).2
      exact ⟨_, _, h₁.bind (h₂.bind (returns_pure.mpr ⟨rfl, rfl⟩))⟩

end Providers

/-! ## The suite -/

/-- What the crate documents about queries: pairs are added at the end, and read back. -/
structure UrlWriter.Facts (urls : UrlWriter) where
  query : urls.Url → List UInt8
  queryPairs_eq : ∀ url, urls.queryPairs url = formPairs (query url)
  query_appendPairs : ∀ url pairs,
    query (urls.appendPairs url pairs) = pairs.foldl appendPair (query url)

theorem UrlWriter.Facts.queryPairs_appendPairs (facts : urls.Facts) (url : urls.Url)
    (pairs : List (String × String)) :
    urls.queryPairs (urls.appendPairs url pairs) = urls.queryPairs url ++ pairs := by
  rw [facts.queryPairs_eq, facts.query_appendPairs, formPairs_foldl_appendPair,
    facts.queryPairs_eq]

/-- The names that outcomes of the suite can have, in order. -/
def suiteNames : List String :=
  ["oauth:mock", "oauth:live:google", "oauth:live:microsoft", "oauth:live:github"]

theorem fromEnv_name {world : World} {definition : LiveProviderDefinition}
    (h : LiveProviderConfig.fromEnv world definition = some provider) :
    provider.name = definition.name := by
  unfold LiveProviderConfig.fromEnv at h
  simp only [bind, Option.bind_eq_some_iff] at h
  obtain ⟨clientId, _, clientSecret, _, redirectUri, _, h⟩ := h
  rw [← Option.some.inj h]

/-- Providers without credentials are left out, and the others keep their order. -/
theorem liveNames_sublist (world : World) :
    (((OAuthSuiteConfig.fromEnv world).liveProviders).map liveName).Sublist
      ["oauth:live:google", "oauth:live:microsoft", "oauth:live:github"] := by
  have hsublist : ∀ definitions : List LiveProviderDefinition,
      ((definitions.filterMap (LiveProviderConfig.fromEnv world)).map liveName).Sublist
        (definitions.map fun definition =>
          let name := definition.name
          s!"oauth:live:{name}") := by
    intro definitions
    induction definitions with
    | nil => exact .slnil
    | cons definition definitions ih =>
      cases hconfig : LiveProviderConfig.fromEnv world definition with
      | none =>
        rw [List.filterMap_cons_none hconfig]
        exact ih.cons _
      | some provider =>
        rw [List.filterMap_cons_some hconfig, List.map_cons, List.map_cons, liveName,
          fromEnv_name hconfig]
        exact ih.cons_cons _
  exact hsublist defaultLiveProviders

/-- What is in the report of a run and in its log: an outcome for the mock suite and one for
each provider, the login of the mock suite, and one page for each provider, with the
parameters of the request behind those that its URL had before. -/
structure Report (net : Network urls.Url) (config : OAuthSuiteConfig)
    (outcomes : List SuiteOutcome) (t : List (Sent urls.Url)) : Prop where
  names : outcomes.map SuiteOutcome.name = "oauth:mock" :: config.liveProviders.map liveName
  requests : ∃ login pages, t = login ++ pages ∧
    (if config.runMock = true then ∃ addr code discovery token,
        LogsIn urls addr net code discovery token ∧
        outcomes.head? = some (mockPassed discovery token) ∧
        login = [discoveryRequest urls addr, authorizeRequest urls addr,
          tokenRequest urls addr code]
      else login = []) ∧
    if config.runLive = true ∧ net.client = .ok () then
      List.Forall₂ (fun provider sent => ∃ base url,
        urls.parse provider.authorizationUrl = .ok base ∧ sent = .fetch url ∧
          urls.queryPairs url = urls.queryPairs base ++ livePairs provider)
        config.liveProviders pages
    else pages = []

theorem LiveRequests.pages (facts : urls.Facts) {providers : List LiveProviderConfig}
    (h : LiveRequests net config providers t) :
    if config.runLive = true ∧ net.client = .ok () then
      List.Forall₂ (fun provider sent => ∃ base url,
        urls.parse provider.authorizationUrl = .ok base ∧ sent = .fetch url ∧
          urls.queryPairs url = urls.queryPairs base ++ livePairs provider) providers t
    else t = [] := by
  unfold LiveRequests at h
  split_ifs at h ⊢ with hasked
  · refine h.imp ?_
    rintro provider sent ⟨_, ⟨base, hbase, _, rfl⟩, rfl⟩
    exact ⟨base, _, hbase, rfl, facts.queryPairs_appendPairs base _⟩
  · exact h

theorem report_of_returns (facts : urls.Facts) {outcomes : List SuiteOutcome}
    (h : (runSuite urls net config).Returns (.ok outcomes) t) : Report net config outcomes t := by
  rw [runSuite] at h
  obtain ⟨mock, t₁, _, hmock, h₁, rfl⟩ := returns_bind_ok.mp h
  obtain ⟨live, t₂, _, hlive, h₂, rfl⟩ := returns_bind_ok.mp h₁
  obtain ⟨houtcomes, rfl⟩ := returns_pure.mp h₂
  rw [← Except.ok.inj houtcomes, List.append_nil]
  obtain ⟨hnames, hpages⟩ := runProviders_report hlive
  unfold mockOutcome at hmock
  split_ifs at hmock with hrun
  · obtain ⟨addr, code, discovery, token, hlogin, rfl, rfl⟩ :=
      (runMockSuite_returns_ok urls net mock t₁).mp hmock
    refine ⟨by rw [List.map_cons, hnames]; rfl, _, t₂, rfl, ?_, hpages.pages facts⟩
    rw [if_pos hrun]
    exact ⟨addr, code, discovery, token, hlogin, rfl, rfl⟩
  · obtain ⟨hskipped, rfl⟩ := returns_pure.mp hmock
    rw [← Except.ok.inj hskipped]
    refine ⟨by rw [List.map_cons, hnames]; rfl, [], t₂, rfl, ?_, hpages.pages facts⟩
    rw [if_neg hrun]

/-- **The report**: whatever the environment and the network are, a report has one outcome
for each check, under names that are not repeated, and nothing was sent but what belongs to
a check that is turned on. -/
theorem runSuite_report (urls : UrlWriter) (facts : urls.Facts) (net : Network urls.Url)
    (world : World) (outcomes : List SuiteOutcome) (t : List (Sent urls.Url))
    (h : (runSuite urls net (.fromEnv world)).Returns (.ok outcomes) t) :
    Report net (.fromEnv world) outcomes t ∧
      (outcomes.map SuiteOutcome.name).Sublist suiteNames := by
  have hreport := report_of_returns facts h
  refine ⟨hreport, ?_⟩
  rw [hreport.names]
  exact (liveNames_sublist world).cons_cons _

/-- **When there is a report**: the login of the mock suite goes through and every live
provider behaves, as far as they are asked at all. No failure of the network in the live
part ends the suite. -/
theorem runSuite_reports_iff (urls : UrlWriter) (net : Network urls.Url)
    (config : OAuthSuiteConfig) :
    (∃ outcomes t, (runSuite urls net config).Returns (.ok outcomes) t) ↔
      (config.runMock = true → ∃ addr code discovery token,
        LogsIn urls addr net code discovery token) ∧
      (config.runLive = true → net.client = .ok () →
        ∀ entry ∈ config.liveProviders.zipIdx 3, WellBehaved net entry.2 entry.1) := by
  rw [← runProviders_ends_iff]
  constructor
  · rintro ⟨outcomes, t, h⟩
    rw [runSuite] at h
    obtain ⟨mock, t₁, _, hmock, h₁, rfl⟩ := returns_bind_ok.mp h
    obtain ⟨live, t₂, _, hlive, _, rfl⟩ := returns_bind_ok.mp h₁
    refine ⟨fun hrun => ?_, live, t₂, hlive⟩
    rw [mockOutcome, if_pos hrun] at hmock
    obtain ⟨addr, code, discovery, token, hlogin, _⟩ :=
      (runMockSuite_returns_ok urls net mock t₁).mp hmock
    exact ⟨addr, code, discovery, token, hlogin⟩
  · rintro ⟨hmock, live, t₂, hlive⟩
    have hfirst : ∃ mock t₁, (mockOutcome urls net config).Returns (.ok mock) t₁ := by
      unfold mockOutcome
      by_cases hrun : config.runMock = true
      · obtain ⟨addr, code, discovery, token, hlogin⟩ := hmock hrun
        rw [if_pos hrun]
        exact ⟨_, _, (runMockSuite_returns_ok urls net _ _).mpr
          ⟨addr, code, discovery, token, hlogin, rfl, rfl⟩⟩
      · rw [if_neg hrun]
        exact ⟨_, [], returns_pure.mpr ⟨rfl, rfl⟩⟩
    obtain ⟨mock, t₁, hmock⟩ := hfirst
    exact ⟨_, _, hmock.bind (hlive.bind (returns_pure.mpr ⟨rfl, rfl⟩))⟩

/-! ### A live provider -/

namespace Sample

/-- The variables of one provider, which has an authorization URL of its own. -/
def liveWorld : World := { World.empty with
  envVar := fun name => [("CI_DISABLE_OAUTH_MOCK", "1"), ("CI_ENABLE_OAUTH_LIVE", "yes"),
    ("OAUTH_GOOGLE_CLIENT_ID", "id"), ("OAUTH_GOOGLE_CLIENT_SECRET", "secret"),
    ("OAUTH_GOOGLE_REDIRECT_URI", "https://rp.test/back"), ("OAUTH_GOOGLE_SCOPES", "openid email"),
    ("OAUTH_GOOGLE_AUTH_URL", "https://accounts.google.com/o/oauth2/v2/auth?hd=test")].lookup name }

/-- The crate, for URLs that are a text and the bytes of a query. -/
def pageWriter : UrlWriter where
  Url := String × List UInt8
  parse s := match OAuthMock.splitOnce '?' s with
    | some (base, rest) => .ok (base, utf8 rest.toList)
    | none => .ok (s, [])
  queryPairs url := formPairs url.2
  appendPairs url pairs := (url.1, pairs.foldl appendPair url.2)

def pageFacts : pageWriter.Facts where
  query := Prod.snd
  queryPairs_eq _ := rfl
  query_appendPairs _ _ := rfl

/-- Every page redirects to a login. -/
def pageNetwork : Network pageWriter.Url where
  bind := .error (anyhow "failed to bind mock OIDC listener")
  client := .ok ()
  send _ _ := .ok (.empty 302 (some (utf8 "/login".toList)))
  stop := .ok ()
  statusText := toString

theorem runSuite_report_live : ∃ outcomes t,
    (runSuite pageWriter pageNetwork (.fromEnv liveWorld)).Returns (.ok outcomes) t ∧
      Report pageNetwork (.fromEnv liveWorld) outcomes t ∧
      (outcomes.map SuiteOutcome.name).Sublist suiteNames := by
  have hsome : (runSuite pageWriter pageNetwork (.fromEnv liveWorld)).value.isSome = true := by
    decide +kernel
  obtain ⟨outcomes, hvalue⟩ := Option.isSome_iff_exists.mp hsome
  obtain ⟨t, h⟩ := value_eq_some.mp hvalue
  exact ⟨outcomes, t, h, runSuite_report pageWriter pageFacts pageNetwork liveWorld outcomes t h⟩

end Sample

end GreenticConformance.OAuth
