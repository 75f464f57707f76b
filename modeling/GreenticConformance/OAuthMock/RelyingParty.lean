import GreenticConformance.OAuthMock.Expiry
import GreenticConformance.OAuthMock.Discovery
import GreenticConformance.OAuthMock.Signing
import GreenticConformance.Urls.Serialize

/-!
# The relying party

What a client of the server relies on: tokens that verify under the keys the server
publishes, with claims that match what it says elsewhere, and an authorization code flow
that goes through, whatever other clients do in the meantime.

## Main definitions

- `KeyPair` — what is signed with a key verifies under its published part
- `Validates` — the checks of a client on a token response
- `QueryFacts` — what the `url` crate does to queries
- `Follows` — the token request of a client that was sent back with a code

## Main results

- `responses_validate` — every token response, under the keys served at any moment
- `flow_completes` — an honest client gets its tokens
-/

namespace GreenticConformance.OAuthMock

open Runs Urls

variable {B : Build} {s s₀ : InnerState} {calls : List Call} {c : Call} {e : Served}

/-! ## What the server publishes -/

theorem post_signing (h : Steps B e) : e.post.signing = e.pre.signing := by
  rw [post_stores h]

theorem post_user (h : Steps B e) : e.post.user = e.pre.user := by
  rw [post_stores h]

/-- Every event of a run sees the issuer, the keys and the user that the run started with. -/
theorem pre_fixed (h : e ∈ (server B).trace s₀ calls) :
    e.pre.issuer = s₀.issuer ∧ e.pre.signing = s₀.signing ∧ e.pre.user = s₀.user := by
  have hstep : ∀ s c, s.issuer = s₀.issuer ∧ s.signing = s₀.signing ∧ s.user = s₀.user →
      ((server B).event s c).post.issuer = s₀.issuer ∧
        ((server B).event s c).post.signing = s₀.signing ∧
          ((server B).event s c).post.user = s₀.user := by
    intro s c hs
    have h := steps_event B s c
    have hissuer : ((server B).event s c).post.issuer = s.issuer := by
      rw [post_stores h]
      rfl
    exact ⟨hissuer.trans hs.1, (post_signing h).trans hs.2.1, (post_user h).trans hs.2.2⟩
  exact (Machine.pre_invariant hstep ⟨rfl, rfl, rfl⟩ h).1

/-- A handler's answers are of its own kind. -/
theorem exists_reply {α : Type} {reply : α → Reply} {r : Except MockError α × InnerState}
    {x : Reply} (h : (respond reply r).1 = .http (.ok x)) : ∃ a, reply a = x := by
  rcases r with ⟨e | a, s'⟩
  · cases h
  · cases h
    exact ⟨a, rfl⟩

/-- Only the key endpoint answers with keys. -/
theorem keys_of_serve {jwk : Jwk} (h : (serve B s c).1 = .http (.ok (.keys jwk))) :
    jwk = s.signing.jwk := by
  unfold serve at h
  cases hc : c.request with
  | jwks =>
    rw [hc] at h
    cases h
    rfl
  | discovery => rw [hc] at h; cases h
  | approveDeviceCode => rw [hc] at h; cases h
  | denyDeviceCode => rw [hc] at h; cases h
  | _ =>
    rw [hc] at h
    obtain ⟨_, h⟩ := exists_reply h
    cases h

/-- Only discovery answers with a document. -/
theorem document_of_serve {doc : DiscoveryDocument}
    (h : (serve B s c).1 = .http (.ok (.document doc))) : doc = discovery c.draws s := by
  unfold serve at h
  cases hc : c.request with
  | discovery =>
    rw [hc] at h
    cases h
    rfl
  | jwks => rw [hc] at h; cases h
  | approveDeviceCode => rw [hc] at h; cases h
  | denyDeviceCode => rw [hc] at h; cases h
  | _ =>
    rw [hc] at h
    obtain ⟨_, h⟩ := exists_reply h
    cases h

theorem output_eq_serve (h : e ∈ (server B).trace s₀ calls) :
    e.output = (serve B e.pre e.input).1 := by
  obtain ⟨is₁, i, is₂, -, rfl⟩ := (server B).exists_of_mem_trace h
  rfl

theorem keys_served (h : e ∈ (server B).trace s₀ calls) {jwk : Jwk}
    (ho : e.output = .http (.ok (.keys jwk))) : jwk = s₀.signing.jwk := by
  rw [output_eq_serve h] at ho
  rw [keys_of_serve ho, (pre_fixed h).2.1]

theorem issuer_served (h : e ∈ (server B).trace s₀ calls) {doc : DiscoveryDocument}
    (ho : e.output = .http (.ok (.document doc))) : doc.issuer = s₀.issuer := by
  rw [output_eq_serve h] at ho
  rw [document_of_serve ho]
  exact (pre_fixed h).1

/-! ## Checks on tokens -/

/-- `jsonwebtoken::decode`, with the RSA components of a published key. -/
abbrev Verifier := Jwk → String → Option (JwtHeader × Claims)

/-- What is signed with the private key verifies under the public one. -/
def KeyPair (verify : Verifier) (keys : SigningKeys) (d : Draws) : Prop :=
  ∀ header claims t, d.encode header claims keys.encoding = .ok t →
    verify keys.jwk t = some (header, claims)

/-- The tokens verify under the key, they were issued by the issuer for the client, they live
an hour, and the access token says what the response says. -/
structure Validates (verify : Verifier) (jwk : Jwk) (issuer clientId : String)
    (response : TokenResponse) : Prop where
  access : ∃ claims,
    verify jwk response.accessToken = some (⟨.rs256, some jwk.kid⟩, .access claims) ∧
    claims.iss = issuer ∧ claims.aud = clientId ∧ claims.clientId = clientId ∧
      claims.scope = response.scope ∧ claims.exp = claims.iat + response.expiresIn
  id : ∀ token, response.idToken = some token →
    ∃ claims, verify jwk token = some (⟨.rs256, some jwk.kid⟩, .id claims) ∧
      claims.iss = issuer ∧ claims.aud = clientId ∧ claims.scope = response.scope ∧
        claims.exp = claims.iat + response.expiresIn

/-- A token lives an hour, to the second. -/
theorem unixTimestamp_add_hour (t : OffsetDateTime) :
    unixTimestamp (t + TimeDuration.hours 1) = unixTimestamp t + 3600 := by
  have hhour : TimeDuration.hours 1 = 3600 * 1000000000 := rfl
  rw [unixTimestamp, unixTimestamp, hhour, Int.add_mul_ediv_right _ _ (by decide)]

theorem Issues.validates {verify : Verifier} {client : ClientConfig} {scope : HashSet String}
    {response : TokenResponse} (h : Issues B e client scope response)
    (hkeys : KeyPair verify e.pre.signing e.input.draws) :
    Validates verify e.pre.signing.jwk e.pre.issuer client.clientId response := by
  have hexp := unixTimestamp_add_hour e.input.draws.issuedAt
  refine ⟨⟨_, hkeys _ _ _ h.signed, rfl, rfl, rfl, h.response_scope.symm, ?_⟩, fun token ht => ?_⟩
  · rw [h.response_expiresIn]
    exact hexp
  · cases h with
    | exchanged hx =>
      obtain rfl := Option.some.inj ht
      exact ⟨_, hkeys _ _ _ hx.signs.id, rfl, rfl, rfl, hexp⟩
    | clientCredentials hg => cases ht

/-- **Every token response validates**, under the keys and the issuer that the server serves
at any moment of the run, before or after. -/
theorem responses_validate {verify : Verifier}
    (hkeys : ∀ c ∈ calls, KeyPair verify s₀.signing c.draws) {k v : Served}
    {response : TokenResponse} {jwk : Jwk} {doc : DiscoveryDocument}
    (he : e ∈ (server B).trace s₀ calls) (ha : Answers e response)
    (hk : k ∈ (server B).trace s₀ calls) (hjwk : k.output = .http (.ok (.keys jwk)))
    (hv : v ∈ (server B).trace s₀ calls) (hdoc : v.output = .http (.ok (.document doc))) :
    ∃ client scope, Issues B e client scope response ∧
      Validates verify jwk doc.issuer client.clientId response := by
  obtain ⟨client, scope, hi⟩ := ha.issues (steps_of_mem_trace he)
  obtain ⟨hissuer, hsigning, -⟩ := pre_fixed he
  refine ⟨client, scope, hi, ?_⟩
  rw [keys_served hk hjwk, issuer_served hv hdoc, ← hsigning, ← hissuer]
  refine hi.validates ?_
  rw [hsigning]
  exact hkeys _ ((server B).input_mem_of_mem_trace he)

/-! ## Redirects -/

/-- What the `url` crate documents about the query of a URL: `append_pair` writes one more
pair, and a URL is read back from its text. -/
structure QueryFacts (C : Crates) where
  query : C.Url → List UInt8
  query_appendPair : ∀ url key value,
    query (C.appendPair url key value) = appendPair (query url) (key, value)
  parse_toString : ∀ url, C.parseUrl (C.urlToString url) = some url

namespace QueryFacts

variable {C : Crates} (F : QueryFacts C)

/-- `url.query_pairs()`. -/
def pairs (url : C.Url) : List (String × String) := formPairs (F.query url)

/-- `Url::parse(location)?.query_pairs().find(|(k, _)| k == name).map(|(_, v)| v)`. -/
def param (location name : String) : Option String :=
  (C.parseUrl location).bind fun url => ((F.pairs url).find? (·.1 = name)).map (·.2)

theorem pairs_appendPair (url : C.Url) (key value : String) :
    F.pairs (C.appendPair url key value) = F.pairs url ++ [(key, value)] := by
  rw [pairs, F.query_appendPair, formPairs_appendPair, pairs]

end QueryFacts

/-- The redirect URI has no parameter of a name that `authorize` adds. -/
def PlainRedirect (F : QueryFacts B.crates) (redirectUri : String) : Prop :=
  ∀ url, B.crates.parseUrl redirectUri = some url →
    ∀ pair ∈ F.pairs url, pair.1 ≠ "code" ∧ pair.1 ≠ "state"

theorem find?_of_forall_ne {pairs rest : List (String × String)} {name : String}
    (h : ∀ pair ∈ pairs, pair.1 ≠ name) :
    (pairs ++ rest).find? (·.1 = name) = rest.find? (·.1 = name) := by
  rw [List.find?_append, List.find?_eq_none.mpr (by simpa using h), Option.none_or]

/-- **The redirect is read back**: the code that was drawn and the state that was sent,
whatever characters it has. -/
theorem param_redirect (F : QueryFacts B.crates) {d : Draws} {query : AuthorizeQuery}
    {url : B.crates.Url} (hplain : PlainRedirect F query.redirectUri)
    (hu : B.crates.parseUrl query.redirectUri = some url) :
    F.param (redirectLocation B d query url) "code" = some d.generatedCode ∧
      F.param (redirectLocation B d query url) "state" = query.state := by
  have hcode : ∀ pair ∈ F.pairs url, pair.1 ≠ "code" := fun p hp => (hplain url hu p hp).1
  have hstate : ∀ pair ∈ F.pairs url, pair.1 ≠ "state" := fun p hp => (hplain url hu p hp).2
  unfold redirectLocation QueryFacts.param
  rw [F.parse_toString]
  cases query.state with
  | none =>
    simp only [Option.bind_some, F.pairs_appendPair, find?_of_forall_ne hcode,
      find?_of_forall_ne hstate]
    exact ⟨rfl, rfl⟩
  | some state =>
    simp only [Option.bind_some, F.pairs_appendPair, List.append_assoc, find?_of_forall_ne hcode,
      find?_of_forall_ne hstate]
    exact ⟨rfl, rfl⟩

/-! ## The authorization code flow -/

/-- The token request of the client that was sent back to `location`. -/
structure Follows (F : QueryFacts B.crates) (query : AuthorizeQuery) (location verifier : String)
    (cred : ClientCredentials) (request : TokenRequest) (c : Call) : Prop where
  call : TokenCall B c .authorizationCode cred request
  client : cred.clientId = query.clientId
  code : request.code = F.param location "code"
  redirectUri : request.redirectUri = some query.redirectUri
  codeVerifier : request.codeVerifier = some verifier
  challenge : query.codeChallenge =
    some (B.crates.urlSafeNoPadEncode (B.crates.sha256 verifier.toUTF8))

section Flow

variable {t₁ t₂ t₃ t₄ : List Served} {a r u : Served} {F : QueryFacts B.crates}
variable {query : AuthorizeQuery} {location verifier : String} {cred : ClientCredentials}
variable {request : TokenRequest}

/-- An authorize request that was answered with a redirect has minted the code in it. -/
theorem minted_of_redirect (h : Steps B a) (hplain : PlainRedirect F query.redirectUri)
    (hreq : a.input.request = .authorize query)
    (hout : a.output = .http (.ok (.redirect location))) :
    ∃ client code, MintsCode B a code query client ∧ F.param location "code" = some code ∧
      F.param location "state" = query.state := by
  obtain ⟨result, s', ho, -, hrun⟩ := authorizeRun_of_steps h hreq
  rw [hout] at ho
  cases hrun with
  | refused e hno => cases ho
  | unparsable => cases ho
  | @redirected client url hg hu =>
    cases ho
    obtain ⟨hcode, hstate⟩ := param_redirect F (d := a.input.draws) hplain hu
    exact ⟨client, _, ⟨hreq, hg, rfl⟩, hcode, hstate⟩

/-- An access token that was issued and not revoked since is stored. -/
theorem mem_accessTokens_of_issued (h₀ : Spawned s₀)
    (ht : (server B).trace s₀ calls = t₁ ++ r :: (t₂ ++ u :: t₃)) {t : String}
    (hi : IssuesAccess r t) (hkept : ∀ x ∈ t₂, ¬ Revokes B x t) : t ∈ u.pre.accessTokens := by
  have ht' : (server B).trace s₀ calls = (t₁ ++ r :: t₂) ++ u :: t₃ := by simpa using ht
  obtain ⟨is₁, i, is₂, -, hpast, rfl, -⟩ := (server B).trace_eq_append_cons ht'
  rw [Machine.event_pre, mem_accessTokens_iff h₀, hpast]
  refine ⟨t₁, r, t₂, rfl, hi, fun x hx => ?_⟩
  show ¬ RevokeSucceeds x t
  have hmem : x ∈ (server B).trace s₀ calls := by
    rw [ht]
    simp [hx]
  rw [← revokes_iff (steps_of_mem_trace hmem)]
  exact hkept x hx

/-- **An honest client gets through.** A client that is sent back with a code, redeems it with
its verifier before anybody else names it, and then asks who the user is, gets its state back,
gets tokens for the scopes it was granted and an id token for its nonce, and is told the user;
whatever other requests are served in between, as long as the access token is not revoked. -/
theorem flow_completes (hB : B.features = {}) (h₀ : Spawned s₀) (hfresh : FreshCodes calls)
    (ht : (server B).trace s₀ calls = t₁ ++ a :: (t₂ ++ r :: (t₃ ++ u :: t₄)))
    (hplain : PlainRedirect F query.redirectUri) (hreq : a.input.request = .authorize query)
    (hout : a.output = .http (.ok (.redirect location)))
    (hfollows : Follows F query location verifier cred request r.input)
    (hquiet : ∀ x ∈ t₂, ∀ code, F.param location "code" = some code → ¬ RedeemsCode B x code)
    (hsign : SigningSucceeds r.input.draws) :
    F.param location "state" = query.state ∧
    ∃ client response id, s₀.client query.clientId = some client ∧ Answers r response ∧
      response.scope = scopeToString (grantedScope query client) ∧ response.idToken = some id ∧
      r.input.draws.encode (jwtHeader s₀) (.id (idClaims r.input.draws s₀ client
        (grantedScope query client) query.nonce)) s₀.signing.encoding = .ok id ∧
      ∀ headers, u.input.request = .userinfo headers →
        extractBearerToken headers = .ok response.accessToken →
        (∀ x ∈ t₃, ¬ Revokes B x response.accessToken) →
        u.output = .http (.ok (.userinfo
          ⟨s₀.user.sub, s₀.user.email, s₀.user.preferredUsername, s₀.user.groups⟩)) := by
  have hmem : ∀ {x}, x ∈ t₁ ++ a :: (t₂ ++ r :: (t₃ ++ u :: t₄)) → x ∈ (server B).trace s₀ calls :=
    fun hx => ht ▸ hx
  have ha := hmem (x := a) (by simp)
  have hr := hmem (x := r) (by simp)
  have hu := hmem (x := u) (by simp)
  obtain ⟨client, code, hminted, hcode, hstate⟩ :=
    minted_of_redirect (steps_of_mem_trace ha) hplain hreq hout
  refine ⟨hstate, ?_⟩
  -- the code is outstanding when the client redeems it
  have ho : Outstanding B (t₁ ++ a :: t₂) code query client :=
    ⟨t₁, a, t₂, rfl, hminted, fun x hx => hquiet x hx code hcode⟩
  have htr : (server B).trace s₀ calls = (t₁ ++ a :: t₂) ++ r :: (t₃ ++ u :: t₄) := by
    simpa using ht
  have hredeems : Redeems B request code query.redirectUri verifier :=
    ⟨hfollows.code.trans hcode, hfollows.redirectUri, by rw [hB]; exact hfollows.codeVerifier⟩
  have hbinds : Binds B query cred query.redirectUri verifier :=
    ⟨hfollows.client.symm, rfl, hfollows.challenge⟩
  obtain ⟨response, hanswers⟩ :=
    yieldsTokens_of_outstanding hB h₀ hfresh htr hfollows.call hredeems hsign ho hbinds
  obtain ⟨query', client', access, id, ho', hbinds', hsigns, rfl⟩ :=
    outstanding_of_answers hB h₀ hfresh htr hfollows.call hredeems hanswers
  -- a code is minted once
  obtain ⟨rfl, rfl⟩ : query' = query ∧ client' = client := by
    obtain ⟨v₁, b, v₂, hv, hb, -⟩ := ho'
    have hbmem : b ∈ (server B).trace s₀ calls := by
      rw [htr, hv]
      simp
    obtain rfl := eq_of_drawn hfresh hbmem ha (hb.code.trans hminted.code.symm)
    obtain rfl := Request.authorize.inj (hb.requested.symm.trans hreq)
    exact ⟨rfl, Option.some.inj (hb.grants.registered.symm.trans hminted.grants.registered)⟩
  obtain ⟨hissuer, hkeys, huser⟩ := pre_fixed hr
  refine ⟨client', _, id, ?_, hanswers, rfl, rfl, ?_, fun headers hinfo htoken hkept => ?_⟩
  · rw [← pre_client ha]
    exact hminted.grants.registered
  · have hid := hsigns.id
    simp only [jwtHeader, idClaims, hissuer, hkeys, huser] at hid ⊢
    exact hid
  · have hstored := mem_accessTokens_of_issued h₀ htr ⟨_, hanswers, rfl⟩ hkept
    rw [output_eq_serve hu]
    simp only [serve, hinfo, respond, userinfo_exec htoken, if_pos hstored, (pre_fixed hu).2.2]
    rfl

end Flow

/-! ### Tokens and a flow on the sample server -/

namespace Sample

/-- What the client credentials of the default client are granted. -/
def grantedClaims : AccessClaims :=
  accessClaims (draws 0 "01") start mockClient (scopeOrAllowed mockClient (some "openid"))

/-- A signer that signs these claims and no others, and its verifier. -/
def signGranted (header : JwtHeader) (claims : Claims) (_ : EncodingKey) : Except String String :=
  if (header, claims) = (jwtHeader start, .access grantedClaims) then .ok "signed"
  else .error "unexpected claims"

def verifyGranted (_ : Jwk) (token : String) : Option (JwtHeader × Claims) :=
  if token = "signed" then some (jwtHeader start, .access grantedClaims) else none

theorem keyPair_signGranted (d : Draws) :
    KeyPair verifyGranted keys (d.withEncode signGranted) := by
  intro header claims t ht
  change signGranted header claims keys.encoding = .ok t at ht
  unfold signGranted at ht
  split_ifs at ht with h
  obtain rfl := Except.ok.inj ht
  rw [h]
  rfl

def grantedDraws (suffix : String) : Draws := (draws 0 suffix).withEncode signGranted

/-- A token is granted between a look at the keys and one at the issuer. -/
def validatedCalls : List Call :=
  [⟨.jwks, grantedDraws "02"⟩,
    ⟨.token ⟨none⟩ (clientCredentialsForm mockClient (some "openid")), grantedDraws "01"⟩,
    ⟨.discovery, grantedDraws "03"⟩]

/-- A byte as the character of its number, and back. -/
def latin (bytes : List UInt8) : String := String.ofList (bytes.map fun b => Char.ofNat b.toNat)

def bytes (text : String) : List UInt8 := text.toList.map fun c => UInt8.ofNat c.toNat

theorem bytes_latin (bs : List UInt8) : bytes (latin bs) = bs := by
  have hall : ∀ k : Fin 256,
      UInt8.ofNat (Char.ofNat (UInt8.ofNat k).toNat).toNat = UInt8.ofNat k := by decide +kernel
  rw [bytes, latin, String.toList_ofList, List.map_map]
  refine List.map_id'' (fun b => ?_) bs
  have hb := hall ⟨b.toNat, b.toNat_lt⟩
  rwa [UInt8.ofNat_toNat] at hb

/-- The callback with a query behind it. -/
def urlText (query : List UInt8) : String :=
  if query = [] then callback else callback ++ "?" ++ latin query

def parseUrlText (text : String) : Option (List UInt8) :=
  match stripPrefix (callback ++ "?") text with
  | some rest => some (bytes rest)
  | none => if text = callback then some [] else none

theorem parseUrlText_urlText (query : List UInt8) : parseUrlText (urlText query) = some query := by
  unfold urlText
  split_ifs with h
  · rw [h]
    rfl
  · rw [parseUrlText, stripPrefix_append]
    exact congrArg some (bytes_latin query)

/-- The crates of the sample server, for URLs that are the callback with any query. -/
def queryCrates : Crates :=
  { crates with
    Url := List UInt8
    parseUrl := parseUrlText
    appendPair := fun url key value => appendPair url (key, value)
    urlToString := urlText }

def queryFacts : QueryFacts queryCrates where
  query := id
  query_appendPair _ _ _ := rfl
  parse_toString := parseUrlText_urlText

def queryBuild : Build := { crates := queryCrates }

theorem plainRedirect_callback : PlainRedirect (B := queryBuild) queryFacts callback := by
  intro url hu pair hp
  have hnil : url = [] := by
    have hparse : parseUrlText callback = some [] := rfl
    exact Option.some.inj (hu.symm.trans hparse)
  rw [hnil] at hp
  cases hp

/-- The state has every separator in it, and more. -/
def flowQuery : AuthorizeQuery := { authorizeQuery with state := some "a b&code=c#d%20é" }

def flowCalls : List Call :=
  [⟨.authorize flowQuery, draws 0 "01"⟩, redeemCall "02",
    ⟨.userinfo (bearer (accessToken "02")), draws 0 "03"⟩]

end Sample

open Sample in
theorem responses_validate_granted : ∃ client scope response,
    (∃ e ∈ (server build).trace start validatedCalls, Issues build e client scope response) ∧
      Validates verifyGranted keys.jwk start.issuer client.clientId response := by
  have hkeys : ∀ c ∈ validatedCalls, KeyPair verifyGranted start.signing c.draws := by
    simp only [validatedCalls, List.forall_mem_cons]
    exact ⟨keyPair_signGranted _, keyPair_signGranted _, keyPair_signGranted _, by simp⟩
  have hmem : ∀ e ∈ (server build).trace start validatedCalls,
      e ∈ (server build).trace start validatedCalls := fun _ h => h
  simp only [validatedCalls, Machine.trace_cons, Machine.trace_nil, List.forall_mem_cons] at hmem
  obtain ⟨hk, he, hv, -⟩ := hmem
  obtain ⟨client, scope, hi, hvalid⟩ := responses_validate hkeys he rfl hk rfl hv rfl
  exact ⟨client, scope, _, ⟨_, he, hi⟩, hvalid⟩

open Sample in
theorem flow_completes_sample :
    queryFacts.param (redirectLocation queryBuild (draws 0 "01") flowQuery []) "state" =
      some "a b&code=c#d%20é" := by
  have hparse : queryBuild.crates.parseUrl flowQuery.redirectUri = some [] := rfl
  have hcode := (@param_redirect queryBuild queryFacts (draws 0 "01") flowQuery []
    plainRedirect_callback hparse).1
  refine (@flow_completes queryBuild start flowCalls [] [] [] [] _ _ _ queryFacts flowQuery _
    verifier ⟨"mock-client", "mock-secret"⟩ (redeemForm (code "01")) rfl spawned_start (by decide)
    rfl plainRedirect_callback rfl rfl ?_ (by simp) (signingSucceeds_draws _ _)).1
  exact ⟨tokenCall_redeemCall "02", rfl, hcode.symm, rfl, rfl, rfl⟩

end GreenticConformance.OAuthMock
