import GreenticConformance.Urls.Percent
import GreenticConformance.Words.Pieces
import Mathlib.Data.List.DropRight

/-!
# Queries and forms

What follows the question mark of a URL is cleaned when the URL is read: blanks at the
end, tabs and line breaks go, a number sign ends it, and some bytes are escaped. The
query is then read as a form, a list of pairs. The escapes put in are undone there.

## Main definitions

- `formPairs` — the pairs of a form
- `query` — the query of a URL
- `Clean` — a text that is its own query text

## Main results

- `formDecode_utf8_eq_iff` — the texts that are read as they stand
- `formPairs_query` — the pairs of a query are those of the cleaned text
- `clean_of_countP_le` — a text that keeps its ASCII characters is clean
-/

namespace Urls

open Words

variable {b : UInt8} {bs : List UInt8} {set : UInt8 → Bool}

/-! ## Forms -/

def plusByte (b : UInt8) : UInt8 := if b == '+'.toUInt8 then ' '.toUInt8 else b

/-- A name or a value: plus signs are blanks, and escapes are decoded. -/
def formDecode (bs : List UInt8) : String :=
  String.ofList (lossy (percentDecode (bs.map plusByte)))

/-- The name ends at the first equals sign. -/
def formPair (sequence : List UInt8) : String × String :=
  (formDecode (sequence.takeWhile (· != '='.toUInt8)),
    formDecode (sequence.dropWhile (· != '='.toUInt8)).tail)

/-- `form_urlencoded::parse`. -/
def formPairs (input : List UInt8) : List (String × String) :=
  ((input.splitOnP (· == '&'.toUInt8)).filter (· ≠ [])).map formPair

/-- The bytes that the reader acts on. -/
def formByte (b : UInt8) : Bool :=
  hexByte b || percent b || b == '+'.toUInt8 || b == '&'.toUInt8 || b == '='.toUInt8

/-! ## Escaping other bytes -/

theorem plusByte_of_ne (h : b ≠ '+'.toUInt8) : plusByte b = b :=
  if_neg (by simpa using h)

theorem plusByte_of_hexByte (h : hexByte b = true) : plusByte b = b :=
  plusByte_of_ne fun heq => absurd h (heq ▸ by decide)

/-- A plus sign and a blank are alike to most. -/
theorem apply_plusByte {p : UInt8 → Bool} (hp : p '+'.toUInt8 = p ' '.toUInt8) (b : UInt8) :
    p (plusByte b) = p b := by
  by_cases hb : b = '+'.toUInt8
  · rw [hb, hp]
    rfl
  · rw [plusByte_of_ne hb]

theorem percent_plusByte (b : UInt8) : percent (plusByte b) = percent b := apply_plusByte rfl b

theorem hexByte_plusByte (b : UInt8) : hexByte (plusByte b) = hexByte b := apply_plusByte rfl b

theorem countP_map_plusByte (bs : List UInt8) :
    (bs.map plusByte).countP asciiByte = bs.countP asciiByte := by
  rw [List.countP_map]
  apply List.countP_congr
  intro b _
  rw [Function.comp_apply, apply_plusByte (p := asciiByte) rfl b]

theorem startsHex_map_plusByte (n : ℕ) (bs : List UInt8) :
    startsHex hexByte n (bs.map plusByte) = startsHex hexByte n bs := by
  rw [List.map_eq_flatMap]
  apply startsHex_flatMap
  · exact fun b hb => ⟨plusByte b, rfl, by rwa [hexByte_plusByte]⟩
  · exact fun b hb => ⟨plusByte b, [], rfl, by rwa [hexByte_plusByte]⟩

section Escaping

variable (hset : ∀ b, set b = true → formByte b = false)
include hset

theorem set_eq_false_of_formByte (h : formByte b = true) : set b = false := by
  cases hb : set b with
  | false => rfl
  | true => exact absurd h (by simp [hset b hb])

theorem startsHex_percentEncode (n : ℕ) (bs : List UInt8) :
    startsHex hexByte n (percentEncode set bs) = startsHex hexByte n bs := by
  apply startsHex_flatMap
  · intro b hb
    have hform : formByte b = true := by simp [formByte, hb]
    exact ⟨b, percentEncodeByte_of_not (set_eq_false_of_formByte hset hform), hb⟩
  · intro b hb
    -- the percent sign is no digit
    cases hesc : set b with
    | true => exact ⟨_, _, percentEncodeByte_of_set hesc, by decide⟩
    | false => exact ⟨b, [], percentEncodeByte_of_not hesc, hb⟩

omit hset in
/-- A byte of the set is decoded from its escape, -/
theorem percentDecode_map_cons_of_set (h : set b = true) (rest : List UInt8) :
    percentDecode ((percentEncode set (b :: rest)).map plusByte) =
      b :: percentDecode ((percentEncode set rest).map plusByte) := by
  rw [percentEncode_cons_of_set h, List.map_cons, List.map_cons, List.map_cons,
    plusByte_of_hexByte (hexByte_hexDigit (div_sixteen_lt b)),
    plusByte_of_hexByte (hexByte_hexDigit (mod_sixteen_lt b)), plusByte_of_ne (by decide),
    percentDecode_hexDigits]

/-- and stands for itself where it was not escaped. -/
theorem percentDecode_map_cons (h : set b = true) (rest : List UInt8) :
    percentDecode ((b :: rest).map plusByte) = b :: percentDecode (rest.map plusByte) := by
  have hform := hset b h
  have hplus : plusByte b = b := plusByte_of_ne fun heq => by
    rw [heq] at hform
    exact absurd hform (by decide)
  have hpct : percent b = false := by
    by_contra hpct
    simp [formByte, hpct] at hform
  rw [List.map_cons, hplus, percentDecode_cons_of_not (by rw [hpct, Bool.false_and])]

/-- Escapes that were put in are decoded to what was there. -/
theorem percentDecode_map_percentEncode (bs : List UInt8) :
    percentDecode ((percentEncode set bs).map plusByte) = percentDecode (bs.map plusByte) := by
  induction hn : bs.length using Nat.strong_induction_on generalizing bs with
  | _ n ih =>
    subst hn
    cases bs with
    | nil => rfl
    | cons b rest =>
      have hrest := ih rest.length (Nat.lt_succ_self _) rest rfl
      cases hesc : set b with
      | true => rw [percentDecode_map_cons_of_set hesc, percentDecode_map_cons hset hesc, hrest]
      | false =>
        rw [percentEncode_cons_of_not hesc, List.map_cons, List.map_cons]
        cases hb : percent (plusByte b) && startsHex hexByte 2 (rest.map plusByte) with
        | false =>
          have henc : (percent (plusByte b) &&
              startsHex hexByte 2 ((percentEncode set rest).map plusByte)) = false := by
            rw [startsHex_map_plusByte, startsHex_percentEncode hset, ← startsHex_map_plusByte, hb]
          rw [percentDecode_cons_of_not hb, percentDecode_cons_of_not henc, hrest]
        | true =>
          -- the digits were not escaped
          obtain ⟨hpct, hstarts⟩ := Bool.and_eq_true_iff.mp hb
          rw [startsHex_map_plusByte] at hstarts
          obtain ⟨x, y, tail, rfl, hx, hy⟩ := startsHex_two_iff.mp hstarts
          obtain ⟨value, hdecode⟩ := percentDecode_escape hpct hx hy
          have hkept : ∀ d, hexByte d = true → set d = false := fun d hd =>
            set_eq_false_of_formByte hset (by simp [formByte, hd])
          have htail := ih tail.length (by simp; omega) tail rfl
          rw [percentEncode_cons_of_not (hkept x hx), percentEncode_cons_of_not (hkept y hy)]
          simp only [List.map_cons]
          rw [plusByte_of_hexByte hx, plusByte_of_hexByte hy, hdecode, hdecode, htail]

theorem formDecode_percentEncode (bs : List UInt8) :
    formDecode (percentEncode set bs) = formDecode bs := by
  rw [formDecode, percentDecode_map_percentEncode hset, formDecode]

/-- No escape contains a separator. -/
theorem spells_percentEncodeByte (sep : UInt8) (hform : formByte sep = true)
    (hpct : percent sep = false) (hhex : hexByte sep = false) :
    Spells (· == sep) (· == sep) (percentEncodeByte set) where
  separator b hb := by
    obtain rfl := eq_of_beq hb
    exact ⟨b, percentEncodeByte_of_not (set_eq_false_of_formByte hset hform), hb⟩
  other b hb d hd := by
    rcases mem_percentEncodeByte hd with rfl | hd | hd
    · exact hb
    · exact beq_eq_false_iff_ne.mpr fun h => absurd hpct (by simp [← h, hd])
    · exact beq_eq_false_iff_ne.mpr fun h => absurd hhex (by simp [← h, hd])

theorem formPair_percentEncode (sequence : List UInt8) :
    formPair (percentEncode set sequence) = formPair sequence := by
  have hspells := spells_percentEncodeByte hset '='.toUInt8 rfl rfl rfl
  have hname := formDecode_percentEncode hset (sequence.takeWhile (· != '='.toUInt8))
  have hvalue := formDecode_percentEncode hset (sequence.dropWhile (· != '='.toUInt8)).tail
  refine Prod.ext (Eq.trans (congrArg formDecode ?_) hname)
    (Eq.trans (congrArg formDecode ?_) hvalue)
  · exact hspells.takeWhile_flatMap sequence
  · exact hspells.tail_dropWhile_flatMap sequence

/-- Escapes that were put in do not show in the pairs. -/
theorem formPairs_percentEncode (bs : List UInt8) :
    formPairs (percentEncode set bs) = formPairs bs := by
  have hspells := spells_percentEncodeByte hset '&'.toUInt8 rfl rfl rfl
  have hempty : (fun sequence => decide (sequence ≠ [])) ∘ percentEncode set =
      fun sequence => decide (sequence ≠ []) := by
    funext sequence
    exact decide_eq_decide.mpr percentEncode_eq_nil_iff.not
  have hpair : formPair ∘ percentEncode set = formPair := by
    funext sequence
    exact formPair_percentEncode hset sequence
  calc formPairs (percentEncode set bs)
      = (((bs.splitOnP (· == '&'.toUInt8)).map (percentEncode set)).filter (· ≠ [])).map
          formPair := by
        rw [formPairs, percentEncode, hspells.splitOnP_flatMap]
        rfl
    _ = formPairs bs := by rw [List.filter_map, List.map_map, hempty, hpair, formPairs]

end Escaping

/-! ## Values -/

/-- Decoding makes no ASCII character up. -/
theorem countP_formDecode_le (bs : List UInt8) :
    (formDecode bs).toList.countP asciiChar ≤ bs.countP asciiByte := by
  rw [formDecode, String.toList_ofList]
  calc (lossy (percentDecode (bs.map plusByte))).countP asciiChar
      ≤ (percentDecode (bs.map plusByte)).countP asciiByte := countP_lossy_le _
    _ ≤ (bs.map plusByte).countP asciiByte := countP_percentDecode_le _
    _ = bs.countP asciiByte := countP_map_plusByte bs

/-- An escape costs ASCII characters. -/
theorem hasEscape_eq_false_of_countP_le
    (h : bs.countP asciiByte ≤ (formDecode bs).toList.countP asciiChar) :
    hasEscape percent hexByte (bs.map plusByte) = false := by
  by_contra hesc
  have hlt := countP_percentDecode_lt ((Bool.not_eq_false _).mp hesc)
  rw [countP_map_plusByte] at hlt
  have hread := countP_lossy_le (percentDecode (bs.map plusByte))
  rw [formDecode, String.toList_ofList] at h
  omega

theorem hasEscape_map_plusByte (bs : List UInt8) :
    hasEscape percent hexByte (bs.map plusByte) = hasEscape percent hexByte bs := by
  induction bs with
  | nil => rfl
  | cons b bs ih =>
    rw [List.map_cons, hasEscape, hasEscape, percent_plusByte, startsHex_map_plusByte, ih]

def plusChar (c : Char) : Char := if c = '+' then ' ' else c

theorem plusChar_ne (c : Char) : plusChar c ≠ '+' := by
  unfold plusChar
  split_ifs with hc
  · decide
  · exact hc

theorem map_plusByte_utf8EncodeChar (c : Char) :
    (String.utf8EncodeChar c).map plusByte = String.utf8EncodeChar (plusChar c) := by
  by_cases hc : c = '+'
  · rw [hc, utf8EncodeChar_of_ascii rfl, plusChar, if_pos rfl, utf8EncodeChar_of_ascii rfl]
    rfl
  · rw [plusChar, if_neg hc]
    have hkept : ∀ b ∈ String.utf8EncodeChar c, plusByte b = id b := fun b hb =>
      plusByte_of_ne (ne_of_mem_utf8EncodeChar rfl hc hb)
    rw [List.map_congr_left hkept, List.map_id]

theorem map_plusByte_utf8 (cs : List Char) : (utf8 cs).map plusByte = utf8 (cs.map plusChar) := by
  induction cs with
  | nil => rfl
  | cons c cs ih =>
    rw [utf8_cons, List.map_append, map_plusByte_utf8EncodeChar, ih, List.map_cons, utf8_cons]

theorem formDecode_utf8_of_not {cs : List Char} (h : hasEscape (· == '%') hexChar cs = false) :
    formDecode (utf8 cs) = String.ofList (cs.map plusChar) := by
  have hbytes : hasEscape percent hexByte ((utf8 cs).map plusByte) = false := by
    rw [hasEscape_map_plusByte, hasEscape_utf8, h]
  rw [formDecode, percentDecode_eq_self hbytes, map_plusByte_utf8, lossy_utf8]

/-- A text that was written as it stands is read as something else when it has an escape
or a plus sign, and else as it stands. -/
theorem formDecode_utf8_eq_iff {cs : List Char} :
    formDecode (utf8 cs) = String.ofList cs ↔
      hasEscape (· == '%') hexChar cs = false ∧ '+' ∉ cs := by
  constructor
  · intro h
    have hesc : hasEscape (· == '%') hexChar cs = false := by
      rw [← hasEscape_utf8, ← hasEscape_map_plusByte]
      apply hasEscape_eq_false_of_countP_le
      rw [h, String.toList_ofList, countP_utf8]
    refine ⟨hesc, fun hplus => ?_⟩
    rw [formDecode_utf8_of_not hesc, String.ofList_inj] at h
    rw [← h] at hplus
    obtain ⟨c, -, hc⟩ := List.mem_map.mp hplus
    exact plusChar_ne c hc
  · rintro ⟨hesc, hplus⟩
    have hkept : ∀ c ∈ cs, plusChar c = id c := by
      intro c hc
      have hne : c ≠ '+' := fun heq => hplus (heq ▸ hc)
      rw [plusChar, if_neg hne, id]
    rw [formDecode_utf8_of_not hesc, List.map_congr_left hkept, List.map_id]

theorem formDecode_utf8_toList {s : String}
    (hesc : hasEscape (· == '%') hexChar s.toList = false) (hplus : '+' ∉ s.toList) :
    formDecode (utf8 s.toList) = s :=
  (formDecode_utf8_eq_iff.mpr ⟨hesc, hplus⟩).trans String.ofList_toList

/-! ## Pairs -/

theorem formPairs_append_cons {w rest : List UInt8} (hw : Free (· == '&'.toUInt8) w)
    (hne : w ≠ []) : formPairs (w ++ '&'.toUInt8 :: rest) = formPair w :: formPairs rest := by
  rw [formPairs, List.splitOnP_append_cons_of_forall_mem hw _ (beq_self_eq_true _),
    List.filter_cons_of_pos (by simpa using hne), List.map_cons, formPairs]

theorem formPairs_of_free {w : List UInt8} (hw : Free (· == '&'.toUInt8) w) (hne : w ≠ []) :
    formPairs w = [formPair w] := by
  rw [formPairs, List.splitOnP_eq_singleton hw, List.filter_cons_of_pos (by simpa using hne)]
  rfl

theorem formPair_append_cons {name : List UInt8} (hname : '='.toUInt8 ∉ name)
    (value : List UInt8) :
    formPair (name ++ '='.toUInt8 :: value) = (formDecode name, formDecode value) := by
  have hkeep : ∀ b ∈ name, (b != '='.toUInt8) = true := fun b hb =>
    bne_iff_ne.mpr fun heq => hname (heq ▸ hb)
  rw [formPair, List.takeWhile_append_of_pos hkeep, List.dropWhile_append_of_pos hkeep]
  simp

section Text

variable {name value rest : List Char}

/-- A pair as it is written in a text. -/
theorem formPair_utf8 (hname : '=' ∉ name) (value : List Char) :
    formPair (utf8 (name ++ '=' :: value)) = (formDecode (utf8 name), formDecode (utf8 value)) := by
  have hbytes : '='.toUInt8 ∉ utf8 name := fun h => ne_of_mem_utf8 rfl hname h rfl
  rw [utf8_append, utf8_cons, utf8EncodeChar_of_ascii rfl, List.singleton_append,
    formPair_append_cons hbytes]

theorem free_utf8 {cs : List Char} (h : '&' ∉ cs) : Free (· == '&'.toUInt8) (utf8 cs) :=
  fun _ hb => beq_eq_false_iff_ne.mpr (ne_of_mem_utf8 rfl h hb)

theorem utf8_pair_ne_nil (name value : List Char) : utf8 (name ++ '=' :: value) ≠ [] := by
  rw [utf8_append, utf8_cons, utf8EncodeChar_of_ascii rfl]
  simp

theorem formPairs_utf8_last (hname : '=' ∉ name) (hamp : '&' ∉ name ++ '=' :: value) :
    formPairs (utf8 (name ++ '=' :: value)) =
      [(formDecode (utf8 name), formDecode (utf8 value))] := by
  rw [formPairs_of_free (free_utf8 hamp) (utf8_pair_ne_nil name value), formPair_utf8 hname]

theorem formPairs_utf8_cons (hname : '=' ∉ name) (hamp : '&' ∉ name ++ '=' :: value)
    (rest : List Char) :
    formPairs (utf8 (name ++ '=' :: value ++ '&' :: rest)) =
      (formDecode (utf8 name), formDecode (utf8 value)) :: formPairs (utf8 rest) := by
  rw [utf8_append, utf8_cons, utf8EncodeChar_of_ascii rfl, List.singleton_append,
    formPairs_append_cons (free_utf8 hamp) (utf8_pair_ne_nil name value), formPair_utf8 hname]

end Text

/-- A value is decoded from a stretch of the form. -/
theorem exists_sublist_of_mem_formPairs {input : List UInt8} {name value : String}
    (h : (name, value) ∈ formPairs input) :
    ∃ stretch, stretch.Sublist input ∧ value = formDecode stretch := by
  obtain ⟨sequence, hmem, hpair⟩ := List.mem_map.mp h
  obtain ⟨-, before, after, hinput, -, -⟩ := mem_splitOnP_iff.mp (List.mem_filter.mp hmem).1
  have hsequence : sequence.Sublist input := by
    rw [hinput]
    exact (List.sublist_append_right before sequence).trans (List.sublist_append_left _ after)
  have htail : (sequence.dropWhile (· != '='.toUInt8)).tail.Sublist sequence :=
    (List.tail_sublist _).trans (List.dropWhile_sublist _)
  exact ⟨_, htail.trans hsequence, (congrArg Prod.snd hpair).symm⟩

/-- An ampersand in a value ends it: no pair has all of its ASCII characters. -/
theorem countP_lt_of_mem_formPairs {name value : List Char} {key read : String}
    (hname : '=' ∉ name) (hfree : '&' ∉ name) (hamp : '&' ∈ value)
    (h : (key, read) ∈ formPairs (utf8 (name ++ '=' :: value))) :
    read.toList.countP asciiChar < value.countP asciiChar := by
  obtain ⟨first, rest, rfl, hfirst⟩ := List.eq_append_cons_of_mem hamp
  have hpair : '&' ∉ name ++ '=' :: first := by simp [hfree, hfirst]
  rw [← List.cons_append, ← List.append_assoc, formPairs_utf8_cons hname hpair,
    List.mem_cons] at h
  rw [List.countP_append, List.countP_cons_of_pos (by decide)]
  rcases h with h | h
  · have hread := countP_formDecode_le (utf8 first)
    rw [← (Prod.mk.inj h).2, countP_utf8] at hread
    omega
  · obtain ⟨stretch, hsub, rfl⟩ := exists_sublist_of_mem_formPairs h
    have hread := (countP_formDecode_le stretch).trans hsub.countP_le
    rw [countP_utf8] at hread
    omega

/-! ## Queries -/

def c0ControlOrSpace (c : Char) : Bool := c ≤ ' '

def tabOrNewline (c : Char) : Bool := c == '\t' || c == '\n' || c == '\r'

/-- The bytes that are escaped in the query of an `http` or `https` URL. -/
def specialQuery (b : UInt8) : Bool :=
  b < 0x20 || 0x7F ≤ b || b == ' '.toUInt8 || b == '"'.toUInt8 || b == '#'.toUInt8 ||
    b == '<'.toUInt8 || b == '>'.toUInt8 || b == '\''.toUInt8

/-- What is read of the text behind the question mark. -/
def queryText (cs : List Char) : List Char :=
  ((cs.rdropWhile c0ControlOrSpace).filter fun c => !tabOrNewline c).takeWhile (· != '#')

/-- The query of a URL, from the text behind its question mark. -/
def query (cs : List Char) : List UInt8 := percentEncode specialQuery (utf8 (queryText cs))

theorem formByte_of_specialQuery {b : UInt8} (h : specialQuery b = true) :
    formByte b = false := by
  have hall : ∀ k : Fin 256, specialQuery (UInt8.ofNat k) = true →
      formByte (UInt8.ofNat k) = false := by decide +kernel
  have hb := hall ⟨b.toNat, b.toNat_lt⟩
  rw [UInt8.ofNat_toNat] at hb
  exact hb h

/-- The form is that of the text. -/
theorem formPairs_query (cs : List Char) : formPairs (query cs) = formPairs (utf8 (queryText cs)) :=
  formPairs_percentEncode (fun _ => formByte_of_specialQuery) _

theorem queryText_sublist (cs : List Char) : (queryText cs).Sublist cs :=
  ((List.takeWhile_sublist _).trans List.filter_sublist).trans
    (List.rdropWhile_prefix _ _).sublist

/-- Nothing is taken from the text. -/
structure Clean (cs : List Char) : Prop where
  kept : ∀ c ∈ cs, tabOrNewline c = false ∧ c ≠ '#'
  last : ∀ c ∈ cs.getLast?, c0ControlOrSpace c = false

instance (cs : List Char) : Decidable (Clean cs) :=
  decidable_of_iff ((cs.all fun c => !tabOrNewline c && c != '#') = true ∧
      (cs.getLast?.all fun c => !c0ControlOrSpace c) = true) <| by
    simp only [List.all_eq_true, Option.all_eq_true, Bool.and_eq_true, Bool.not_eq_true',
      bne_iff_ne]
    exact ⟨fun h => ⟨h.1, h.2⟩, fun h => ⟨h.kept, h.last⟩⟩

theorem Clean.rdropWhile_append {before : List Char} (h : Clean before) (cs : List Char) :
    (before ++ cs).rdropWhile c0ControlOrSpace = before ++ cs.rdropWhile c0ControlOrSpace := by
  induction cs using List.reverseRecOn with
  | nil =>
    rw [List.append_nil, List.rdropWhile_nil, List.append_nil, List.rdropWhile_eq_self_iff]
    exact fun hne => by simp [h.last _ (List.getLast?_eq_getLast_of_ne_nil hne)]
  | append_singleton cs c ih =>
    rw [← List.append_assoc, List.rdropWhile_concat, List.rdropWhile_concat]
    split_ifs
    · exact ih
    · exact List.append_assoc _ _ _

theorem Clean.queryText_append {before : List Char} (h : Clean before) (cs : List Char) :
    queryText (before ++ cs) = before ++ queryText cs := by
  have hfilter : (before.filter fun c => !tabOrNewline c) = before :=
    List.filter_eq_self.mpr fun c hc => by simp [(h.kept c hc).1]
  have htake : ∀ c ∈ before, (c != '#') = true := fun c hc => bne_iff_ne.mpr (h.kept c hc).2
  rw [queryText, h.rdropWhile_append, List.filter_append, hfilter,
    List.takeWhile_append_of_pos htake, queryText]

theorem Clean.queryText_eq {cs : List Char} (h : Clean cs) : queryText cs = cs := by
  have happend := h.queryText_append []
  rwa [List.append_nil, show queryText [] = [] from rfl, List.append_nil] at happend

/-- Elements that were all kept are kept each. -/
theorem mem_of_countP_le {α : Type*} {p : α → Bool} {xs ys : List α} {c : α}
    (hsub : ys.Sublist xs) (hle : xs.countP p ≤ ys.countP p) (hc : p c = true) (hmem : c ∈ xs) :
    c ∈ ys := by
  have hfilter : ys.filter p = xs.filter p := by
    refine (hsub.filter p).eq_of_length_le ?_
    rwa [← List.countP_eq_length_filter, ← List.countP_eq_length_filter]
  have hkept : c ∈ xs.filter p := List.mem_filter.mpr ⟨hmem, hc⟩
  exact (List.mem_filter.mp (hfilter ▸ hkept)).1

theorem asciiChar_of_c0ControlOrSpace {c : Char} (h : c0ControlOrSpace c = true) :
    asciiChar c = true := by
  have hle : c.toNat ≤ 32 := Char.le_def.mp (of_decide_eq_true h)
  exact decide_eq_true (by omega)

/-- Blanks at the end are ASCII. -/
theorem rtakeWhile_eq_nil_of_countP_le {cs : List Char}
    (h : cs.countP asciiChar ≤ (cs.rdropWhile c0ControlOrSpace).countP asciiChar) :
    cs.rtakeWhile c0ControlOrSpace = [] := by
  have hsplit := congrArg (List.countP asciiChar)
    (List.rdropWhile_append_rtakeWhile (p := c0ControlOrSpace) (l := cs))
  rw [List.countP_append] at hsplit
  have hnone : (cs.rtakeWhile c0ControlOrSpace).countP asciiChar = 0 := by omega
  refine List.eq_nil_iff_forall_not_mem.mpr fun c hc => ?_
  exact List.countP_eq_zero.mp hnone c hc
    (asciiChar_of_c0ControlOrSpace (List.mem_rtakeWhile_imp hc))

/-- Whatever is taken takes ASCII characters with it. -/
theorem clean_of_countP_le {cs : List Char}
    (h : cs.countP asciiChar ≤ (queryText cs).countP asciiChar) : Clean cs := by
  have hmem : ∀ c ∈ cs, asciiChar c = true → c ∈ queryText cs := fun c hc hascii =>
    mem_of_countP_le (queryText_sublist cs) h hascii hc
  refine ⟨fun c hc => ⟨?_, ?_⟩, fun c hc => ?_⟩
  · by_contra htab
    have htab : tabOrNewline c = true := (Bool.not_eq_false _).mp htab
    have hascii : asciiChar c = true := by
      simp only [tabOrNewline, Bool.or_eq_true, beq_iff_eq] at htab
      rcases htab with (rfl | rfl) | rfl <;> rfl
    have hkept := (List.mem_filter.mp ((List.takeWhile_sublist _).mem (hmem c hc hascii))).2
    simp [htab] at hkept
  · rintro rfl
    exact absurd (List.mem_takeWhile_imp (hmem '#' hc rfl)) (by decide)
  · have hsub : (queryText cs).Sublist (cs.rdropWhile c0ControlOrSpace) :=
      (List.takeWhile_sublist _).trans List.filter_sublist
    have hnil := rtakeWhile_eq_nil_of_countP_le (h.trans hsub.countP_le)
    obtain ⟨hne, rfl⟩ := List.mem_getLast?_eq_getLast hc
    simpa using List.rtakeWhile_eq_nil_iff.mp hnil hne

end Urls
