import GreenticConformance.Host.Error
import GreenticConformance.OAuthMock.Strings
import GreenticConformance.Urls.Form

/-!
# The embedded provider

`suites/oauth.rs`: the mock suite sends a browser to a provider of its own and reads the
code and the state from the URL it is sent back to. The provider writes the state into
that URL as it came, without escaping it, so that a state with characters of a meaning of
their own comes back as something else, or not at all.

## Main definitions

- `authorize` — the redirect of the provider
- `readLocation`, `readRedirect` — what the suite reads from the location
- `Verbatim` — nothing in the state has a meaning in a URL or is kept out of a header

## Main results

- `receiveCode_suiteState` — the suite gets its code
- `redirect_roundTrip_iff` — the states that come back
-/

namespace GreenticConformance.OAuth

open Checks Host Urls
open OAuthMock (eq_of_ascii stripPrefix stripPrefix_append)

/-! ## The provider -/

structure ProviderState where
  issuer : String
  clientId : String
  clientSecret : String
  redirectUri : String
  code : String

/-- `MockOidcProvider::start`, on the address it has bound. -/
def MockOidcProvider.start (addr : String) : ProviderState where
  issuer := s!"http://{addr}"
  clientId := "mock-client"
  clientSecret := "mock-secret"
  redirectUri := "https://example.com/oauth/callback"
  code := "mock-code"

/-- The query of a request, decoded. -/
structure AuthorizeRequest where
  responseType : String
  clientId : String
  redirectUri : String
  state : Option String

/-- A response: a text with status 400, a redirect, or what is left of a redirect whose
location is no header value. -/
inductive Response
  | badRequest (body : String)
  | seeOther (location : String)
  | noLocation
  deriving DecidableEq

/-- The bytes a `HeaderValue` may have: tabs, and what is not an ASCII control. -/
def headerByte (b : UInt8) : Bool := (0x20 ≤ b && b != 0x7F) || b == '\t'.toUInt8

/-- `(StatusCode::SEE_OTHER, [(header::LOCATION, location)]).into_response()`. -/
def intoResponse (location : String) : Response :=
  if (utf8 location.toList).all headerByte then .seeOther location else .noLocation

def authorize (state : ProviderState) (params : AuthorizeRequest) : Response :=
  if params.clientId ≠ state.clientId then
    .badRequest "invalid client_id"
  else if params.redirectUri ≠ state.redirectUri then
    .badRequest "invalid redirect_uri"
  else if params.responseType ≠ "code" then
    .badRequest "unsupported response_type"
  else
    let stateParam := params.state.getD ""
    intoResponse s!"{state.redirectUri}?code={state.code}&state={stateParam}"

/-! ## The suite -/

/-- What the suite calls of the `url` crate. -/
structure UrlCrate where
  Url : Type
  parse : String → Except String Url
  queryPairs : Url → List (String × String)

/-- One turn of the loop, with the code and the state that were found before. -/
def readPair (found : Option String × Option String) (pair : String × String) :
    Option String × Option String :=
  if pair.1 = "code" then (some pair.2, found.2)
  else if pair.1 = "state" then (found.1, some pair.2)
  else found

/-- The loop over the pairs: the last of each name counts. -/
def collectPairs (pairs : List (String × String)) : Option String × Option String :=
  pairs.foldl readPair (none, none)

/-- The bytes of visible ASCII, and the tab. -/
def visibleAscii (b : UInt8) : Bool := b == 9 || (32 ≤ b && b < 127)

/-- `HeaderValue::to_str`: what is not visible ASCII has none. -/
def headerToStr (bytes : List UInt8) : Except String String :=
  if bytes.all visibleAscii then
    .ok (String.ofList (bytes.map fun b => Char.ofNat b.toNat))
  else .error "failed to convert header to a str"

/-- What `run_mock_suite` does with the text of the location. It starts behind `to_str`,
which has made a text of the header. -/
def readRedirect (url : UrlCrate) (location : String) : Except Error (String × String) := do
  let redirect ← withContextOf (url.parse location) "failed to parse redirect location"
  let (code, state) := collectPairs (url.queryPairs redirect)
  let code ← okOr code (anyhow "redirect missing authorization code")
  let state ← okOr state (anyhow "redirect missing state")
  return (code, state)

/-- The part of `run_mock_suite` that reads the location, from the bytes of the header. -/
def readLocation (url : UrlCrate) (value : List UInt8) : Except Error (String × String) := do
  let location ← withContextOf (headerToStr value) "authorize redirect location not valid UTF-8"
  readRedirect url location

/-- And the part that compares the state with the one it sent. -/
def receiveCode (url : UrlCrate) (location : String) : Except Error String := do
  let (code, state) ← readRedirect url location
  failIf (state ≠ "state-123") (anyhow s!"state mismatch; expected state-123, got {state}")
  return code

/-! ## The round trip -/

/-- The crate reads a query behind `base` as the URL Standard has it. -/
def UrlCrate.ReadsQueries (url : UrlCrate) (base : String) : Prop :=
  ∀ rest, ∃ redirect, url.parse (base ++ "?" ++ rest) = .ok redirect ∧
    url.queryPairs redirect = formPairs (query rest.toList)

/-- A request that the provider does not refuse. -/
structure AuthorizeRequest.Valid (params : AuthorizeRequest) (state : ProviderState) : Prop where
  clientId : params.clientId = state.clientId
  redirectUri : params.redirectUri = state.redirectUri
  responseType : params.responseType = "code"

/-- The value of the location header leads to the code and the state that was sent. -/
def RoundTrips (url : UrlCrate) (state : ProviderState) (params : AuthorizeRequest)
    (sent : String) : Prop :=
  ∃ location, authorize state params = .seeOther location ∧
    readLocation url (utf8 location.toList) = .ok (state.code, sent)

/-- The characters of ASCII that are no controls. -/
def printable (c : Char) : Bool := ' ' ≤ c && c ≤ '~'

/-- Printable ASCII, with none of `&`, `#` and `+`, no escape, and no blank at the end. -/
structure Verbatim (sent : String) : Prop where
  plain : ∀ c ∈ sent.toList, printable c = true ∧ c ≠ '&' ∧ c ≠ '#' ∧ c ≠ '+'
  noEscape : hasEscape (· == '%') hexChar sent.toList = false
  last : sent.toList.getLast? ≠ some ' '

instance (sent : String) : Decidable (Verbatim sent) :=
  decidable_of_iff ((sent.toList.all fun c =>
        printable c && c != '&' && c != '#' && c != '+') = true ∧
      hasEscape (· == '%') hexChar sent.toList = false ∧ sent.toList.getLast? ≠ some ' ') <| by
    simp only [List.all_eq_true, Bool.and_eq_true, bne_iff_ne, and_assoc]
    exact ⟨fun h => ⟨h.1, h.2.1, h.2.2⟩, fun h => ⟨h.plain, h.noEscape, h.last⟩⟩

section

variable {url : UrlCrate} {addr sent value : String} {params : AuthorizeRequest}
variable {pairs : List (String × String)} {found : Option String × Option String} {cs : List Char}

/-! ### The header -/

theorem visibleAscii_toUInt8 {c : Char} (h : asciiChar c = true) :
    visibleAscii c.toUInt8 = (c == '\t' || printable c) :=
  eq_of_ascii (f := fun c => visibleAscii c.toUInt8) (g := fun c => c == '\t' || printable c)
    (by decide +kernel) (of_decide_eq_true h)

theorem asciiChar_of_printable {c : Char} (h : printable c = true) : asciiChar c = true := by
  have hle : c ≤ '~' := of_decide_eq_true (Bool.and_eq_true_iff.mp h).2
  have hcode : c.toNat ≤ 126 := hle
  exact decide_eq_true (by omega)

theorem asciiChar_of_visible {c : Char} (h : c = '\t' ∨ printable c = true) :
    asciiChar c = true := by
  rcases h with rfl | hprintable
  · rfl
  · exact asciiChar_of_printable hprintable

/-- What a header may be read as it may be written with. -/
theorem ascii_and_header_of_visible {b : UInt8} (h : visibleAscii b = true) :
    asciiByte b = true ∧ headerByte b = true := by
  have hall : ∀ k : Fin 256, visibleAscii (UInt8.ofNat k) = true →
      asciiByte (UInt8.ofNat k) = true ∧ headerByte (UInt8.ofNat k) = true := by decide +kernel
  have hb := hall ⟨b.toNat, b.toNat_lt⟩
  rw [UInt8.ofNat_toNat] at hb
  exact hb h

/-- The texts that can be read from a header. -/
theorem all_visibleAscii_iff :
    (utf8 cs).all visibleAscii = true ↔ ∀ c ∈ cs, c = '\t' ∨ printable c = true := by
  rw [List.all_eq_true]
  constructor
  · intro h c hc
    have hbytes : ∀ b ∈ String.utf8EncodeChar c, visibleAscii b = true :=
      fun b hb => h b (List.mem_flatMap.mpr ⟨c, hc, hb⟩)
    cases hascii : asciiChar c with
    | false =>
      obtain ⟨b, rest, hb⟩ := List.exists_cons_of_ne_nil (String.utf8EncodeChar_ne_nil (c := c))
      have hmem : b ∈ String.utf8EncodeChar c := hb ▸ List.mem_cons_self
      have hhigh := asciiByte_of_mem_utf8EncodeChar hascii hmem
      rw [(ascii_and_header_of_visible (hbytes b hmem)).1] at hhigh
      cases hhigh
    | true =>
      have hbyte := hbytes c.toUInt8 (by simp [utf8EncodeChar_of_ascii hascii])
      rwa [visibleAscii_toUInt8 hascii, Bool.or_eq_true, beq_iff_eq] at hbyte
  · intro h b hb
    obtain ⟨c, hc, hmem⟩ := List.mem_flatMap.mp hb
    have hascii := asciiChar_of_visible (h c hc)
    rw [utf8EncodeChar_of_ascii hascii, List.mem_singleton] at hmem
    rw [hmem, visibleAscii_toUInt8 hascii, Bool.or_eq_true, beq_iff_eq]
    exact h c hc

/-- A text of ASCII is what its bytes are read as, one by one. -/
theorem map_ofNat_utf8 (h : ∀ c ∈ cs, asciiChar c = true) :
    (utf8 cs).map (fun b => Char.ofNat b.toNat) = cs := by
  induction cs with
  | nil => rfl
  | cons c cs ih =>
    have hascii := h c List.mem_cons_self
    have hcode : c.toNat < 128 := of_decide_eq_true hascii
    have hbyte : c.toUInt8.toNat = c.toNat := Nat.mod_eq_of_lt (by omega : c.toNat < 256)
    rw [utf8_cons, utf8EncodeChar_of_ascii hascii, List.singleton_append, List.map_cons, hbyte,
      Char.ofNat_toNat, ih fun d hd => h d (List.mem_cons_of_mem _ hd)]

/-- A header is read as what was written into it, or not at all. -/
theorem headerToStr_utf8_iff {text : String} : headerToStr (utf8 cs) = .ok text ↔
    (utf8 cs).all visibleAscii = true ∧ text = String.ofList cs := by
  unfold headerToStr
  by_cases hvisible : (utf8 cs).all visibleAscii = true
  · have hascii : ∀ c ∈ cs, asciiChar c = true :=
      fun c hc => asciiChar_of_visible (all_visibleAscii_iff.mp hvisible c hc)
    rw [if_pos hvisible, map_ofNat_utf8 hascii]
    simp [hvisible, eq_comm]
  · rw [if_neg hvisible]
    simp [hvisible]

theorem c0ControlOrSpace_of_printable {c : Char} (h : printable c = true) (hblank : c ≠ ' ') :
    c0ControlOrSpace c = false := by
  have hle : ' ' ≤ c := of_decide_eq_true (Bool.and_eq_true_iff.mp h).1
  exact decide_eq_false fun hc0 => hblank (le_antisymm hc0 hle)

theorem tabOrNewline_of_printable {c : Char} (h : printable c = true) :
    tabOrNewline c = false := by
  by_contra htab
  simp only [tabOrNewline, Bool.not_eq_false, Bool.or_eq_true, beq_iff_eq] at htab
  rcases htab with (rfl | rfl) | rfl <;> exact absurd h (by decide)

/-! ### The loop -/

theorem readRedirect_eq_ok_iff {location code state : String} {redirect : url.Url}
    (hparse : url.parse location = .ok redirect) :
    readRedirect url location = .ok (code, state) ↔
      collectPairs (url.queryPairs redirect) = (some code, some state) := by
  simp only [readRedirect, hparse, withContextOf_ok, ok_bind]
  rcases collectPairs (url.queryPairs redirect) with ⟨_ | c, _ | s⟩
  all_goals simp [okOr, pure, Except.pure, bind, Except.bind]

/-- What the loop has found is of a pair. -/
theorem state_mem_of_collect
    (h : (pairs.foldl readPair found).2 = some value) : found.2 = some value ∨
      ("state", value) ∈ pairs := by
  induction pairs generalizing found with
  | nil => exact .inl h
  | cons pair pairs ih =>
    rw [List.foldl_cons] at h
    rcases ih h with h | h
    · unfold readPair at h
      split_ifs at h with hcode hstate
      · exact .inl h
      · refine .inr (List.mem_cons.mpr (.inl ?_))
        rw [← hstate, ← Option.some.inj h]
      · exact .inl h
    · exact .inr (List.mem_cons_of_mem _ h)

/-! ### The answer -/

/-- What the provider puts behind the question mark, up to the state. -/
def answer : List Char := "code=mock-code&state=".toList

theorem clean_answer : Clean answer := by decide

/-- The code is a pair of its own, in front of the state. -/
theorem formPairs_answer (cs : List Char) :
    formPairs (query (answer ++ cs)) =
      ("code", "mock-code") :: formPairs (utf8 ("state".toList ++ '=' :: queryText cs)) := by
  have hname : formDecode (utf8 "code".toList) = "code" :=
    formDecode_utf8_toList (by decide) (by decide)
  have hcode : formDecode (utf8 "mock-code".toList) = "mock-code" :=
    formDecode_utf8_toList (by decide) (by decide)
  have hsplit : answer ++ queryText cs = "code".toList ++ '=' :: "mock-code".toList ++
      '&' :: ("state".toList ++ '=' :: queryText cs) := rfl
  rw [formPairs_query, clean_answer.queryText_append, hsplit,
    formPairs_utf8_cons (by decide) (by decide), hname, hcode]

/-- A state without an ampersand is the last pair. -/
theorem formPairs_state {text : List Char} (h : '&' ∉ text) :
    formPairs (utf8 ("state".toList ++ '=' :: text)) = [("state", formDecode (utf8 text))] := by
  have hname : formDecode (utf8 "state".toList) = "state" :=
    formDecode_utf8_toList (by decide) (by decide)
  have hamp : '&' ∉ "state".toList ++ '=' :: text := by
    rw [List.mem_append, List.mem_cons]
    rintro (h' | h' | h')
    · exact absurd h' (by decide)
    · exact absurd h' (by decide)
    · exact h h'
  rw [formPairs_utf8_last (by decide) hamp, hname]

/-- The state that is read has all of its characters only when nothing was taken from it. -/
theorem clean_of_state_mem
    (h : ("state", String.ofList cs) ∈
      formPairs (utf8 ("state".toList ++ '=' :: queryText cs))) :
    Clean cs ∧ '&' ∉ cs ∧ formDecode (utf8 cs) = String.ofList cs := by
  have htaken := (queryText_sublist cs).countP_le (p := asciiChar)
  have hamp : '&' ∉ queryText cs := by
    intro hamp
    have hlt := countP_lt_of_mem_formPairs (by decide) (by decide) hamp h
    rw [String.toList_ofList] at hlt
    omega
  rw [formPairs_state hamp, List.mem_singleton] at h
  have hread : String.ofList cs = formDecode (utf8 (queryText cs)) := (Prod.mk.inj h).2
  have hclean : Clean cs := by
    apply clean_of_countP_le
    have hle := countP_formDecode_le (utf8 (queryText cs))
    rwa [← hread, String.toList_ofList, countP_utf8] at hle
  rw [hclean.queryText_eq] at hread hamp
  exact ⟨hclean, hamp, hread.symm⟩

theorem collectPairs_answer_iff :
    collectPairs (formPairs (query (answer ++ cs))) =
        (some "mock-code", some (String.ofList cs)) ↔
      Clean cs ∧ '&' ∉ cs ∧ formDecode (utf8 cs) = String.ofList cs := by
  rw [formPairs_answer]
  constructor
  · intro h
    rcases state_mem_of_collect (congrArg Prod.snd h) with h | h
    · cases h
    · rw [List.mem_cons] at h
      exact clean_of_state_mem (h.resolve_left fun heq => absurd (Prod.mk.inj heq).1 (by decide))
  · rintro ⟨hclean, hamp, hread⟩
    rw [hclean.queryText_eq, formPairs_state hamp, hread]
    rfl

/-! ### The states that come back -/

theorem authorize_of_valid {state : ProviderState} (hvalid : params.Valid state)
    (hsent : params.state = some sent) :
    authorize state params =
      intoResponse (state.redirectUri ++ "?code=" ++ state.code ++ "&state=" ++ sent) := by
  rw [authorize, if_neg (not_not_intro hvalid.clientId),
    if_neg (not_not_intro hvalid.redirectUri), if_neg (not_not_intro hvalid.responseType), hsent]
  rfl

theorem location_eq (sent : String) :
    "https://example.com/oauth/callback" ++ "?code=" ++ "mock-code" ++ "&state=" ++ sent =
      "https://example.com/oauth/callback" ++ "?" ++ String.ofList (answer ++ sent.toList) := by
  rw [String.ofList_append, String.ofList_toList, ← String.append_assoc]
  rfl

theorem intoResponse_eq_seeOther_iff {location location' : String} :
    intoResponse location = .seeOther location' ↔
      (utf8 location.toList).all headerByte = true ∧ location = location' := by
  unfold intoResponse
  split_ifs with h
  · simp [h]
  · simp [h]

/-- The constant part of the location can be read from a header. -/
theorem all_visibleAscii_location :
    (utf8 ("https://example.com/oauth/callback" ++ "?" ++
        String.ofList (answer ++ cs)).toList).all visibleAscii = true ↔
      ∀ c ∈ cs, c = '\t' ∨ printable c = true := by
  have hconst : (utf8 ("https://example.com/oauth/callback?".toList ++ answer)).all visibleAscii =
      true := by decide +kernel
  have hsplit : ("https://example.com/oauth/callback" ++ "?" ++
      String.ofList (answer ++ cs)).toList =
        "https://example.com/oauth/callback?".toList ++ answer ++ cs := by
    rw [String.toList_append, String.toList_ofList, List.append_assoc]
    rfl
  rw [hsplit, utf8_append, List.all_append, hconst, Bool.true_and, all_visibleAscii_iff]

/-- The text of the location, without the header around it. -/
theorem readRedirect_location_iff
    (hurl : url.ReadsQueries (MockOidcProvider.start addr).redirectUri) :
    readRedirect url ("https://example.com/oauth/callback" ++ "?" ++
        String.ofList (answer ++ sent.toList)) = .ok ("mock-code", sent) ↔
      Clean sent.toList ∧ '&' ∉ sent.toList ∧
        formDecode (utf8 sent.toList) = String.ofList sent.toList := by
  obtain ⟨redirect, hparse, hpairs⟩ := hurl (String.ofList (answer ++ sent.toList))
  rw [String.toList_ofList] at hpairs
  rw [← collectPairs_answer_iff, ← hpairs, String.ofList_toList]
  exact readRedirect_eq_ok_iff hparse

theorem readLocation_utf8_iff {location : String} {found : String × String} :
    readLocation url (utf8 location.toList) = .ok found ↔
      (utf8 location.toList).all visibleAscii = true ∧ readRedirect url location = .ok found := by
  simp only [readLocation, bind_eq_ok, withContextOf_eq_ok, headerToStr_utf8_iff,
    String.ofList_toList]
  constructor
  · rintro ⟨text, ⟨hvisible, rfl⟩, hread⟩
    exact ⟨hvisible, hread⟩
  · rintro ⟨hvisible, hread⟩
    exact ⟨location, ⟨hvisible, rfl⟩, hread⟩

theorem roundTrips_iff (hurl : url.ReadsQueries (MockOidcProvider.start addr).redirectUri)
    (hvalid : params.Valid (MockOidcProvider.start addr)) (hsent : params.state = some sent) :
    RoundTrips url (MockOidcProvider.start addr) params sent ↔
      (∀ c ∈ sent.toList, c = '\t' ∨ printable c = true) ∧ Clean sent.toList ∧
        '&' ∉ sent.toList ∧ formDecode (utf8 sent.toList) = String.ofList sent.toList := by
  have hauthorize := (authorize_of_valid hvalid hsent).trans
    (congrArg intoResponse (location_eq sent))
  rw [← readRedirect_location_iff hurl, ← all_visibleAscii_location]
  constructor
  · rintro ⟨location, hlocation, hread⟩
    rw [hauthorize] at hlocation
    obtain ⟨-, rfl⟩ := intoResponse_eq_seeOther_iff.mp hlocation
    exact readLocation_utf8_iff.mp hread
  · rintro ⟨hvisible, hread⟩
    -- what can be read from a header can be written into one
    have hheader := List.all_eq_true.mpr fun b hb =>
      (ascii_and_header_of_visible (List.all_eq_true.mp hvisible b hb)).2
    exact ⟨_, hauthorize.trans (intoResponse_eq_seeOther_iff.mpr ⟨hheader, rfl⟩),
      readLocation_utf8_iff.mpr ⟨hvisible, hread⟩⟩

theorem verbatim_iff : Verbatim sent ↔
    (∀ c ∈ sent.toList, c = '\t' ∨ printable c = true) ∧ Clean sent.toList ∧
      '&' ∉ sent.toList ∧ formDecode (utf8 sent.toList) = String.ofList sent.toList := by
  rw [formDecode_utf8_eq_iff]
  constructor
  · intro h
    refine ⟨fun c hc => .inr (h.plain c hc).1,
      ⟨fun c hc => ⟨tabOrNewline_of_printable (h.plain c hc).1, (h.plain c hc).2.2.1⟩,
        fun c hc => ?_⟩,
      fun hmem => (h.plain _ hmem).2.1 rfl, h.noEscape, fun hmem => (h.plain _ hmem).2.2.2 rfl⟩
    refine c0ControlOrSpace_of_printable (h.plain c (List.mem_of_getLast? hc)).1 ?_
    rintro rfl
    exact h.last hc
  · rintro ⟨hheader, hclean, hamp, hesc, hplus⟩
    refine ⟨fun c hc => ⟨?_, ?_, (hclean.kept c hc).2, ?_⟩, hesc, fun hlast => ?_⟩
    · rcases hheader c hc with rfl | hprintable
      · exact absurd (hclean.kept _ hc).1 (by decide)
      · exact hprintable
    · exact fun heq => hamp (heq ▸ hc)
    · exact fun heq => hplus (heq ▸ hc)
    · exact absurd (hclean.last ' ' hlast) (by decide)

/-- What the suite sends is one of the states that come back, so that it gets the code. -/
theorem receiveCode_suiteState
    (hurl : url.ReadsQueries (MockOidcProvider.start addr).redirectUri)
    (hvalid : params.Valid (MockOidcProvider.start addr))
    (hsent : params.state = some "state-123") :
    ∃ location, authorize (MockOidcProvider.start addr) params = .seeOther location ∧
      receiveCode url location = .ok "mock-code" := by
  have hverbatim : Verbatim "state-123" := by decide
  obtain ⟨location, hlocation, hback⟩ :=
    (roundTrips_iff hurl hvalid hsent).mpr (verbatim_iff.mp hverbatim)
  refine ⟨location, hlocation, ?_⟩
  rw [receiveCode, (readLocation_utf8_iff.mp hback).2]
  rfl

/-- **The redirect round trip**: the states that come back are those of printable ASCII in
which nothing has a meaning of its own. -/
theorem redirect_roundTrip_iff (url : UrlCrate) (addr sent : String) (params : AuthorizeRequest)
    (hurl : url.ReadsQueries (MockOidcProvider.start addr).redirectUri)
    (hvalid : params.Valid (MockOidcProvider.start addr)) (hsent : params.state = some sent) :
    RoundTrips url (MockOidcProvider.start addr) params sent ↔ Verbatim sent :=
  (roundTrips_iff hurl hvalid hsent).trans verbatim_iff.symm

end

/-! ### Two requests -/

namespace Sample

/-- The crate on the URLs of the callback. -/
def urls : UrlCrate where
  Url := String
  parse s := okOr (stripPrefix "https://example.com/oauth/callback?" s)
    "relative URL without a base"
  queryPairs rest := formPairs (query rest.toList)

theorem parse_urls (rest : String) :
    urls.parse ("https://example.com/oauth/callback" ++ "?" ++ rest) = .ok rest := by
  have hbase : "https://example.com/oauth/callback" ++ "?" =
      "https://example.com/oauth/callback?" := rfl
  rw [hbase]
  exact congrArg (okOr · _) (stripPrefix_append _ rest)

theorem queryPairs_urls (rest : String) :
    urls.queryPairs rest = formPairs (query rest.toList) := by
  dsimp only [urls]

theorem readsQueries : urls.ReadsQueries "https://example.com/oauth/callback" :=
  fun rest => ⟨rest, parse_urls rest, queryPairs_urls rest⟩

def provider : ProviderState := MockOidcProvider.start "127.0.0.1:8080"

def request (state : String) : AuthorizeRequest where
  responseType := "code"
  clientId := "mock-client"
  redirectUri := "https://example.com/oauth/callback"
  state := some state

theorem request_valid (state : String) : (request state).Valid provider := ⟨rfl, rfl, rfl⟩

/-- The state that the suite itself sends. -/
theorem roundTrips_suiteState :
    RoundTrips urls (MockOidcProvider.start "127.0.0.1:8080") (request "state-123") "state-123" :=
  (redirect_roundTrip_iff urls "127.0.0.1:8080" "state-123" (request "state-123") readsQueries
    (request_valid "state-123") rfl).mpr (by decide)

/-- A plus sign comes back as a blank. -/
theorem not_roundTrips_plus :
    (request "a+b").Valid provider ∧ (request "a+b").state = some "a+b" ∧
      authorize provider (request "a+b") =
        .seeOther "https://example.com/oauth/callback?code=mock-code&state=a+b" ∧
      readLocation urls
          (utf8 "https://example.com/oauth/callback?code=mock-code&state=a+b".toList) =
        .ok ("mock-code", "a b") ∧
      ¬ RoundTrips urls provider (request "a+b") "a+b" := by
  have hauthorize : authorize provider (request "a+b") =
      .seeOther "https://example.com/oauth/callback?code=mock-code&state=a+b" := by decide +kernel
  have hread : readLocation urls
      (utf8 "https://example.com/oauth/callback?code=mock-code&state=a+b".toList) =
        .ok ("mock-code", "a b") := by decide +kernel
  refine ⟨request_valid "a+b", rfl, hauthorize, hread, ?_⟩
  rintro ⟨location, hlocation, hback⟩
  obtain rfl := Response.seeOther.inj (hauthorize.symm.trans hlocation)
  rw [hread] at hback
  exact absurd (Except.ok.inj hback) (by decide)

end Sample

end GreenticConformance.OAuth
