import GreenticConformance.OAuthMock.Invariant

/-!
# Authorization codes

The code store is a ledger: authorize requests issue codes, complete
authorization code requests consume them. With fresh codes a request therefore
succeeds exactly when its code was minted, has not been named since, and was
minted for this client, redirect URI and verifier.

## Main results

- `codeLedger` — the store as a ledger
- `code_contract` — when a code yields tokens, which ones, and how often
-/

namespace GreenticConformance.OAuthMock

open Runs

variable {B : Build}

/-! ## The ledger of codes -/

theorem codeLedger : Ledger (server B) (·.authorizationCodes) (CodeIssued B) (RedeemsCode B) where
  change s c := codes_change (steps_event B s c)

theorem FreshCodes.codes {calls : List Call} (h : FreshCodes calls) (s : InnerState) :
    FreshIssues (CodeIssued B) ((server B).trace s calls) := by
  refine (h.pairwise s).imp fun {x y} hne code v w hx hy => ?_
  obtain ⟨_, _, hmx, -⟩ := hx
  obtain ⟨_, _, hmy, -⟩ := hy
  exact hne (hmx.code.trans hmy.code.symm)

theorem Spawned.lookup_codes {s : InnerState} (h : Spawned s) (code : String) :
    s.authorizationCodes.lookup code = none := by
  obtain ⟨b, baseUrl, signing, rfl⟩ := h
  exact Finmap.lookup_empty code

/-! ## Bindings -/

/-- The query binds its code to this client, redirect URI and verifier. -/
structure Binds (B : Build) (query : AuthorizeQuery) (cred : ClientCredentials)
    (redirectUri codeVerifier : String) : Prop where
  clientId : query.clientId = cred.clientId
  redirectUri : query.redirectUri = redirectUri
  challenge : query.codeChallenge =
    some (B.crates.urlSafeNoPadEncode (B.crates.sha256 codeVerifier.toUTF8))

/-- The scope that an authorize request grants. -/
def grantedScope (query : AuthorizeQuery) (client : ClientConfig) : HashSet String :=
  parseScope query.scope ∩ client.allowedScopes

/-- `code` was minted for `query` and has not been named since. -/
def Outstanding (B : Build) (past : List Served) (code : String) (query : AuthorizeQuery)
    (client : ClientConfig) : Prop :=
  Since (fun e => MintsCode B e code query client) (fun e => ¬ RedeemsCode B e code) past

/-- A stored code is redeemable exactly by what its query binds it to. -/
theorem redeemable_grantedCode {s : InnerState} {d : Draws} {query : AuthorizeQuery}
    {client : ClientConfig} {cred : ClientCredentials} {redirectUri codeVerifier : String}
    (hp : B.features.pkce = true) (hc : s.client query.clientId = some client) :
    Redeemable B cred (grantedCode d query client) redirectUri codeVerifier ↔
      Binds B query cred redirectUri codeVerifier := by
  have hid : client.clientId = query.clientId := InnerState.client_clientId hc
  constructor
  · intro h
    obtain ⟨challenge, hch, hv⟩ := h.pkce hp
    have heq : B.crates.urlSafeNoPadEncode (B.crates.sha256 codeVerifier.toUTF8) = challenge :=
      eq_of_beq hv
    exact ⟨hid.symm.trans h.client, h.redirectUri, heq ▸ hch⟩
  · intro h
    exact ⟨hid.trans h.clientId, h.redirectUri, fun _ => ⟨_, h.challenge, beq_self_eq_true _⟩⟩

theorem MintsCode.entry {e : Served} {code : String} {query : AuthorizeQuery}
    {client : ClientConfig} (h : MintsCode B e code query client) :
    CodeIssued B e code (grantedCode e.input.draws query client) :=
  ⟨query, client, h, rfl⟩

/-! ## One redemption -/

section Redemption

variable {e : Served} {cred : ClientCredentials} {request : TokenRequest} {c r v : String}

/-- A complete request is answered with tokens of the stored entry only. -/
theorem redemption_sound (h : Steps B e) (hc : TokenCall B e.input .authorizationCode cred request)
    (hr : Redeems B request c r v) {response : TokenResponse} (ha : Answers e response) :
    ∃ entry client access id, e.pre.authorizationCodes.lookup c = some entry ∧
      Redeemable B cred entry r v ∧ e.pre.client cred.clientId = some client ∧
      Signs e.input.draws e.pre client entry.scope entry.nonce access id ∧
      response = exchangeResponse e.input.draws entry.scope access id := by
  obtain ⟨client, scope, nonce, access, id, hx, rfl⟩ := ha.exchanged h hc nofun
  cases hx.presented with
  | authorizationCode hr' hl hm =>
    obtain ⟨rfl, rfl, rfl⟩ := hr.unique hr'
    exact ⟨_, client, access, id, hl, hm, hx.registered, hx.signs, rfl⟩

end Redemption

/-! ## Runs -/

section Run

variable {s₀ : InnerState} {calls : List Call} {past rest : List Served} {e : Served}
  {cred : ClientCredentials} {request : TokenRequest} {code redirectUri codeVerifier : String}

/-- The entry that a redemption finds, in terms of the past. -/
theorem lookup_code_iff (h₀ : Spawned s₀) (hfresh : FreshCodes calls)
    (ht : (server B).trace s₀ calls = past ++ e :: rest) {entry : AuthorizationCode} :
    e.pre.authorizationCodes.lookup code = some entry ↔
      Since (fun x => CodeIssued B x code entry) (fun x => ¬ RedeemsCode B x code) past :=
  codeLedger.lookup_pre_iff_since (hfresh.codes s₀) h₀.lookup_codes ht

/-- An outstanding code is stored with the entry of its query. -/
theorem Outstanding.lookup (h₀ : Spawned s₀) (hfresh : FreshCodes calls)
    (ht : (server B).trace s₀ calls = past ++ e :: rest) {query : AuthorizeQuery}
    {client : ClientConfig} (h : Outstanding B past code query client) :
    e.pre.client query.clientId = some client ∧
      ∃ d, e.pre.authorizationCodes.lookup code = some (grantedCode d query client) := by
  obtain ⟨t₁, a, t₂, rfl, hm, hsince⟩ := h
  have hstored := (lookup_code_iff h₀ hfresh ht).mpr ⟨t₁, a, t₂, rfl, hm.entry, hsince⟩
  refine ⟨?_, _, hstored⟩
  have ha : a ∈ (server B).trace s₀ calls := by
    rw [ht]
    simp
  rw [pre_client ((server B).mem_trace_of_eq ht), ← pre_client ha]
  exact hm.grants.registered

/-- A stored code is outstanding for some query. -/
theorem outstanding_of_lookup (h₀ : Spawned s₀) (hfresh : FreshCodes calls)
    (ht : (server B).trace s₀ calls = past ++ e :: rest) {entry : AuthorizationCode}
    (hl : e.pre.authorizationCodes.lookup code = some entry) :
    ∃ query client d,
      Outstanding B past code query client ∧ entry = grantedCode d query client := by
  obtain ⟨t₁, a, t₂, rfl, ⟨query, client, hm, rfl⟩, hsince⟩ :=
    (lookup_code_iff h₀ hfresh ht).mp hl
  exact ⟨query, client, _, ⟨t₁, a, t₂, rfl, hm, hsince⟩, rfl⟩

section Contract

variable (hB : B.features = {}) (h₀ : Spawned s₀) (hfresh : FreshCodes calls)
  (ht : (server B).trace s₀ calls = past ++ e :: rest)
  (hc : TokenCall B e.input .authorizationCode cred request)
  (hr : Redeems B request code redirectUri codeVerifier)

include hB h₀ hfresh ht hc hr

/-- Whoever gets tokens presented an outstanding code bound to the request. -/
theorem outstanding_of_answers {response : TokenResponse} (ha : Answers e response) :
    ∃ query client access id, Outstanding B past code query client ∧
      Binds B query cred redirectUri codeVerifier ∧
      Signs e.input.draws e.pre client (grantedScope query client) query.nonce access id ∧
      response = exchangeResponse e.input.draws (grantedScope query client) access id := by
  have hp : B.features.pkce = true := by rw [hB]
  have hstep : Steps B e := steps_of_mem_trace ((server B).mem_trace_of_eq ht)
  obtain ⟨entry, client', access, id, hl, hm, hcl, hs, rfl⟩ := redemption_sound hstep hc hr ha
  obtain ⟨query, client, d, ho, rfl⟩ := outstanding_of_lookup h₀ hfresh ht hl
  have hreg := (ho.lookup h₀ hfresh ht).1
  have hb := (redeemable_grantedCode hp hreg).mp hm
  -- the owner of the code is the client of the request
  rw [hb.clientId] at hreg
  obtain rfl := Option.some.inj (hreg.symm.trans hcl)
  exact ⟨query, client, access, id, ho, hb, hs, rfl⟩

/-- An outstanding code bound to the request yields tokens. -/
theorem yieldsTokens_of_outstanding (hsign : SigningSucceeds e.input.draws)
    {query : AuthorizeQuery} {client : ClientConfig} (ho : Outstanding B past code query client)
    (hb : Binds B query cred redirectUri codeVerifier) : YieldsTokens e := by
  have hp : B.features.pkce = true := by rw [hB]
  have hmem : e ∈ (server B).trace s₀ calls := (server B).mem_trace_of_eq ht
  have hw : WellOwned B e.pre := wellOwned_of_mem_trace h₀ hmem
  obtain ⟨hreg, d, hl⟩ := ho.lookup h₀ hfresh ht
  have hm := (redeemable_grantedCode (d := d) hp hreg).mpr hb
  exact (Presented.authorizationCode hr hl hm).yieldsTokens hw hsign (steps_of_mem_trace hmem) hc

end Contract

/-- A complete request named `code` and was answered with tokens. -/
def Redeemed (B : Build) (e : Served) (code : String) : Prop :=
  RedeemsCode B e code ∧ YieldsTokens e

theorem Redeemed.takes (h : Steps B e) (hr : Redeemed B e code) :
    Takes (·.authorizationCodes) (RedeemsCode B) e code := by
  refine ⟨hr.1, ?_⟩
  obtain ⟨⟨cred, request, r, v, hc, hrd⟩, response, ha⟩ := hr
  obtain ⟨entry, -, -, -, hl, -⟩ := redemption_sound h hc hrd ha
  rw [hl]
  exact Option.some_ne_none entry

theorem redeemed_once (h₀ : Spawned s₀) (hfresh : FreshCodes calls) :
    ((server B).trace s₀ calls).Pairwise fun x y => ∀ code, Redeemed B x code →
      ¬ Redeemed B y code := by
  have honce := (codeLedger (B := B)).taken_once (hfresh.codes s₀) h₀.lookup_codes
  refine honce.imp_of_mem fun {x y} hx hy hxy code hrx hry => ?_
  exact hxy code (hrx.takes (steps_of_mem_trace hx)) (hry.takes (steps_of_mem_trace hy))

end Run

/-- **The contract of authorization codes.** Along a run of a default build, a
complete request yields tokens exactly when its code is outstanding and bound
to it; the tokens carry the scope and the nonce of the authorize request; and
no code yields tokens twice. -/
theorem code_contract {s₀ : InnerState} {calls : List Call} (hB : B.features = {})
    (h₀ : Spawned s₀) (hfresh : FreshCodes calls) (hsign : ∀ c ∈ calls, SigningSucceeds c.draws) :
    (∀ past e rest cred request code redirectUri codeVerifier,
      (server B).trace s₀ calls = past ++ e :: rest →
      TokenCall B e.input .authorizationCode cred request → request.code = some code →
      request.redirectUri = some redirectUri → request.codeVerifier = some codeVerifier →
      (YieldsTokens e ↔ ∃ query client, Outstanding B past code query client ∧
        Binds B query cred redirectUri codeVerifier) ∧
      ∀ response, Answers e response → ∃ query client id,
        Outstanding B past code query client ∧ Binds B query cred redirectUri codeVerifier ∧
        response.scope = scopeToString (grantedScope query client) ∧
        response.idToken = some id ∧
        e.input.draws.encode (jwtHeader e.pre)
          (.id (idClaims e.input.draws e.pre client (grantedScope query client) query.nonce))
          e.pre.signing.encoding = .ok id) ∧
    ((server B).trace s₀ calls).Pairwise fun x y => ∀ code, Redeemed B x code →
      ¬ Redeemed B y code := by
  refine ⟨fun past e rest cred request code r v ht hc hcode hredirect hverifier => ?_,
    redeemed_once h₀ hfresh⟩
  have hr : Redeems B request code r v := ⟨hcode, hredirect, by rw [hB]; exact hverifier⟩
  have hinput : e.input ∈ calls :=
    (server B).input_mem_of_mem_trace ((server B).mem_trace_of_eq ht)
  refine ⟨⟨?_, ?_⟩, fun response ha => ?_⟩
  · intro h
    obtain ⟨response, ha⟩ := h
    obtain ⟨query, client, -, -, ho, hb, -⟩ := outstanding_of_answers hB h₀ hfresh ht hc hr ha
    exact ⟨query, client, ho, hb⟩
  · intro h
    obtain ⟨query, client, ho, hb⟩ := h
    exact yieldsTokens_of_outstanding hB h₀ hfresh ht hc hr (hsign _ hinput) ho hb
  · obtain ⟨query, client, access, id, ho, hb, hs, rfl⟩ :=
      outstanding_of_answers hB h₀ hfresh ht hc hr ha
    exact ⟨query, client, id, ho, hb, rfl, rfl, hs.id⟩

/-! ### Runs of the sample server -/

namespace Sample

def authorizeCall : Call := ⟨.authorize authorizeQuery, draws 0 "01"⟩

def redeemCall (suffix : String) : Call :=
  ⟨.token ⟨none⟩ (redeemForm (code "01")), draws 60000000000 suffix⟩

theorem tokenCall_redeemCall (suffix : String) :
    TokenCall build (redeemCall suffix) .authorizationCode ⟨"mock-client", "mock-secret"⟩
      (redeemForm (code "01")) :=
  ⟨⟨none⟩, rfl, rfl, rfl⟩

end Sample

open Sample in
/-- The round trip of the test suite. -/
theorem code_contract_roundtrip :
    YieldsTokens ((server build).event ((server build).run start [authorizeCall])
      (redeemCall "02")) := by
  have hm : MintsCode build ((server build).event start authorizeCall) (code "01") authorizeQuery
      { clientId := "mock-client", clientSecret := "mock-secret", redirectUris := {callback},
        allowedScopes := defaultScope } :=
    ⟨rfl, ⟨rfl, rfl, by decide, by decide, fun _ => ⟨rfl, _, rfl⟩⟩, rfl⟩
  refine ((@code_contract build start [authorizeCall, redeemCall "02"] rfl spawned_start (by decide)
    fun c hc => ?_).1 [_] _ [] _ _ _ _ _ rfl (tokenCall_redeemCall "02") rfl rfl rfl).1.mpr ?_
  · simp only [List.mem_cons, List.not_mem_nil, or_false] at hc
    rcases hc with rfl | rfl <;> exact signingSucceeds_draws _ _
  · exact ⟨authorizeQuery, _, ⟨[], _, [], rfl, hm, by simp⟩, rfl, rfl, by decide⟩

open Sample in
/-- A request that guesses the code before it is minted does not spoil it. -/
theorem code_named_before_minted :
    ¬ (YieldsTokens ((server build).event
          ((server build).run start [redeemCall "00", authorizeCall]) (redeemCall "02")) ↔
        ∃ query client,
          (∃ a ∈ (server build).trace start [redeemCall "00", authorizeCall],
            MintsCode build a (code "01") query client) ∧
          (∀ x ∈ (server build).trace start [redeemCall "00", authorizeCall],
            ¬ RedeemsCode build x (code "01")) ∧
          Binds build query ⟨"mock-client", "mock-secret"⟩ callback verifier) := by
  intro h
  obtain ⟨_, _, -, hno, -⟩ := h.mp ⟨_, rfl⟩
  exact hno _ List.mem_cons_self ⟨_, _, _, _, tokenCall_redeemCall "00", rfl, rfl, rfl⟩

end GreenticConformance.OAuthMock
