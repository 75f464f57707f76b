import GreenticConformance.OAuthMock.AuthorizationCodes

/-!
# Atomicity of the authorization endpoint

`authorize` has error exits on both sides of the insertion into the code store. The
exits before it leave the state alone; the one after it, for a redirect URI that is
registered and does not parse, leaves a code behind that nobody was told of.

## Main definitions

- `AuthorizeAtomic` — an error changes no store, a redirect adds its code only

## Main results

- `authorize_atomic_iff` — which requests are served atomically
-/

namespace GreenticConformance.OAuthMock

open Runs

variable {B : Build} {e : Served} {query : AuthorizeQuery}

/-! ## Atomic requests -/

/-- The four stores of the two states hold the same. -/
structure SameStores (s s' : InnerState) : Prop where
  authorizationCodes : s'.authorizationCodes = s.authorizationCodes
  refreshTokens : s'.refreshTokens = s.refreshTokens
  accessTokens : s'.accessTokens = s.accessTokens
  deviceCodes : s'.deviceCodes = s.deviceCodes

/-- The answer redirects with `code`, which the event adds to its store and which was
not there before. -/
structure RedirectsWith (B : Build) (e : Served) (query : AuthorizeQuery) (location code : String) :
    Prop where
  location : ∃ url, B.crates.parseUrl query.redirectUri = some url ∧
    location = redirectLocation B { e.input.draws with generatedCode := code } query url
  new : e.pre.authorizationCodes.lookup code = none
  added : ∃ entry, e.post = e.pre.insertAuthorizationCode code entry

/-- The answer to the query changes everything or nothing: an error no store, a
redirect one code, the one it carries. -/
structure AuthorizeAtomic (B : Build) (e : Served) (query : AuthorizeQuery) : Prop where
  error : ∀ err, e.output = .http (.error err) → SameStores e.pre e.post
  redirect : ∀ location, e.output = .http (.ok (.redirect location)) →
    ∃ code, RedirectsWith B e query location code

/-! ## Outcomes -/

/-- A code that a later call draws is not stored before that call. -/
theorem lookup_generatedCode {s₀ : InnerState} {calls : List Call} (h₀ : Spawned s₀)
    (hfresh : FreshCodes calls) (he : e ∈ (server B).trace s₀ calls) :
    e.pre.authorizationCodes.lookup e.input.draws.generatedCode = none := by
  obtain ⟨past, rest, ht⟩ := List.append_of_mem he
  rw [Option.eq_none_iff_forall_ne_some]
  intro entry hstored
  obtain ⟨a, ha, _, _, hminted, -⟩ :=
    codeLedger.issued_of_lookup (hfresh.codes s₀) h₀.lookup_codes ht hstored
  have hpair := hfresh.pairwise (B := B) s₀
  rw [ht] at hpair
  exact (List.pairwise_append.mp hpair).2.2 a ha e (by simp) hminted.code

/-- A code that was not there is there after it is added. -/
theorem not_sameStores_insert {s : InnerState} {code : String} {entry : AuthorizationCode}
    (hnew : s.authorizationCodes.lookup code = none) :
    ¬ SameStores s (s.insertAuthorizationCode code entry) := by
  intro hsame
  have hlookup := congrArg (Finmap.lookup code) hsame.authorizationCodes
  rw [InnerState.insertAuthorizationCode_authorizationCodes, Finmap.lookup_insert, hnew] at hlookup
  cases hlookup

/-- **Atomicity of `authorize`.** In every run of every server with fresh codes, an
authorize request is atomic exactly if a check before the code is stored refuses it
or its redirect URI parses. -/
theorem authorize_atomic_iff {s₀ : InnerState} {calls : List Call} (h₀ : Spawned s₀)
    (hfresh : FreshCodes calls) (he : e ∈ (server B).trace s₀ calls)
    (hc : e.input.request = .authorize query) :
    AuthorizeAtomic B e query ↔
      ((∀ client, ¬ Grants B e.pre query client) ∨ B.crates.parseUrl query.redirectUri ≠ none) := by
  obtain ⟨r, s', houtput, hpost, hrun⟩ := authorizeRun_of_steps (steps_of_mem_trace he) hc
  have hnew := lookup_generatedCode h₀ hfresh he
  cases hrun with
  | refused err hrefused =>
    refine iff_of_true ⟨?_, ?_⟩ (.inl hrefused)
    · intro err' _
      rw [hpost]
      exact ⟨rfl, rfl, rfl, rfl⟩
    · intro location hlocation
      rw [houtput] at hlocation
      cases hlocation
  | unparsable hgrants hparse =>
    refine iff_of_false ?_ ?_
    · -- the code was stored before the redirect URI was parsed
      intro hatomic
      have hsame := hatomic.error _ houtput
      rw [hpost] at hsame
      exact not_sameStores_insert hnew hsame
    · rintro (hrefused | hparses)
      · exact hrefused _ hgrants
      · exact hparses hparse
  | @redirected client url hgrants hparse =>
    refine iff_of_true ⟨?_, ?_⟩ (.inr (by simp [hparse]))
    · intro err herror
      rw [houtput] at herror
      cases herror
    · intro location hlocation
      rw [houtput] at hlocation
      cases hlocation
      exact ⟨e.input.draws.generatedCode, ⟨url, hparse, rfl⟩, hnew, _, hpost⟩

open Sample in
/-- The authorize request of the test suite is atomic. -/
theorem authorize_atomic_iff_sample :
    AuthorizeAtomic build ((server build).event start authorizeCall) authorizeQuery := by
  have hiff := @authorize_atomic_iff build ((server build).event start authorizeCall)
    authorizeQuery start [authorizeCall] spawned_start (by decide) (by simp) rfl
  exact hiff.mpr (.inr (by decide))

namespace Sample

/-- A server with a client whose registered redirect URI is not a URL. -/
def misregistered : InnerState :=
  (MockServerBuilder.default.withClient "broken-client" "broken-secret" ["not a url"]
    ["openid"]).spawn "http://127.0.0.1:8080" keys

def brokenQuery : AuthorizeQuery :=
  { authorizeQuery with clientId := "broken-client", redirectUri := "not a url" }

def brokenCall : Call := ⟨.authorize brokenQuery, draws 0 "01"⟩

end Sample

open Sample in
/-- The request is answered with an error, and its code is stored. -/
theorem authorize_not_atomic :
    Spawned misregistered ∧
    ((server build).event misregistered brokenCall).output =
      .http (.error (.invalidRequest "invalid redirect_uri")) ∧
    ((server build).event misregistered brokenCall).post.authorizationCodes.lookup (code "01") ≠
      none ∧
    ¬ AuthorizeAtomic build ((server build).event misregistered brokenCall) brokenQuery := by
  have houtput : ((server build).event misregistered brokenCall).output =
      .http (.error (.invalidRequest "invalid redirect_uri")) := rfl
  have hstored : ((server build).event misregistered brokenCall).post.authorizationCodes.lookup
      (code "01") ≠ none := by decide
  refine ⟨⟨_, _, _, rfl⟩, houtput, hstored, fun hatomic => hstored ?_⟩
  rw [(hatomic.error _ houtput).authorizationCodes]
  rfl

end GreenticConformance.OAuthMock
