import GreenticConformance.Urls.Form

/-!
# Writing forms

A pair is written with every byte escaped that the reader acts on, a blank as a plus sign.
Whatever the name and the value are, the pair is read back, behind any pairs that were
there before.

## Main definitions

- `formEncode` — a name or a value
- `appendPair` — one more pair at the end of a form

## Main results

- `formDecode_formEncode` — what was written is read back
- `formPairs_appendPair` — so is a pair behind others
-/

namespace Urls

open Words

variable {b : UInt8}

/-! ## Names and values -/

/-- `form_urlencoded::byte_serialized_unchanged`. -/
def unchangedByte (b : UInt8) : Bool :=
  b == '*'.toUInt8 || b == '-'.toUInt8 || b == '.'.toUInt8 || b == '_'.toUInt8 ||
    ('0'.toUInt8 ≤ b && b ≤ '9'.toUInt8) || ('A'.toUInt8 ≤ b && b ≤ 'Z'.toUInt8) ||
    ('a'.toUInt8 ≤ b && b ≤ 'z'.toUInt8)

/-- One byte of `form_urlencoded::byte_serialize`. -/
def formEncodeByte (b : UInt8) : List UInt8 :=
  if unchangedByte b then [b]
  else if b = ' '.toUInt8 then ['+'.toUInt8]
  else ['%'.toUInt8, hexDigit (b / 16), hexDigit (b % 16)]

/-- `form_urlencoded::byte_serialize`, on the bytes of a text. -/
def formEncode (text : String) : List UInt8 := (utf8 text.toList).flatMap formEncodeByte

/-- The reader takes an unchanged byte for itself. -/
theorem plain_of_unchangedByte (h : unchangedByte b = true) :
    percent b = false ∧ b ≠ '+'.toUInt8 ∧ b ≠ '&'.toUInt8 ∧ b ≠ '='.toUInt8 := by
  have hall : ∀ k : Fin 256, unchangedByte (UInt8.ofNat k) = true →
      percent (UInt8.ofNat k) = false ∧ UInt8.ofNat k ≠ '+'.toUInt8 ∧
        UInt8.ofNat k ≠ '&'.toUInt8 ∧ UInt8.ofNat k ≠ '='.toUInt8 := by decide +kernel
  have hb := hall ⟨b.toNat, b.toNat_lt⟩
  rw [UInt8.ofNat_toNat] at hb
  exact hb h

/-- Neither separator is written into a name or a value. -/
theorem ne_of_mem_formEncodeByte {d sep : UInt8} (hsep : sep = '&'.toUInt8 ∨ sep = '='.toUInt8)
    (h : d ∈ formEncodeByte b) : d ≠ sep := by
  have hhex : ∀ {n : UInt8}, n < 16 → hexDigit n ≠ sep := by
    intro n hn heq
    have hdigit := hexByte_hexDigit hn
    rw [heq] at hdigit
    rcases hsep with rfl | rfl <;> exact absurd hdigit (by decide)
  unfold formEncodeByte at h
  split_ifs at h with hplain hblank
  · obtain ⟨-, -, hamp, heq⟩ := plain_of_unchangedByte hplain
    rw [List.mem_singleton.mp h]
    rcases hsep with rfl | rfl
    · exact hamp
    · exact heq
  · rw [List.mem_singleton.mp h]
    rcases hsep with rfl | rfl <;> decide
  · simp only [List.mem_cons, List.not_mem_nil, or_false] at h
    rcases h with rfl | rfl | rfl
    · rcases hsep with rfl | rfl <;> decide
    · exact hhex (div_sixteen_lt b)
    · exact hhex (mod_sixteen_lt b)

theorem ne_of_mem_formEncode {text : String} {d sep : UInt8}
    (hsep : sep = '&'.toUInt8 ∨ sep = '='.toUInt8) (h : d ∈ formEncode text) : d ≠ sep := by
  obtain ⟨b, -, hb⟩ := List.mem_flatMap.mp h
  exact ne_of_mem_formEncodeByte hsep hb

/-- One byte is read back in front of what else there is to read. -/
theorem percentDecode_formEncodeByte (b : UInt8) (rest : List UInt8) :
    percentDecode ((formEncodeByte b).map plusByte ++ rest) = b :: percentDecode rest := by
  unfold formEncodeByte
  split_ifs with hplain hblank
  · obtain ⟨hpct, hplus, -⟩ := plain_of_unchangedByte hplain
    rw [List.map_singleton, plusByte_of_ne hplus, List.singleton_append,
      percentDecode_cons_of_not (by simp [hpct])]
  · rw [hblank, List.map_singleton, List.singleton_append]
    exact percentDecode_cons_of_not rfl
  · have hpct : plusByte '%'.toUInt8 = '%'.toUInt8 := rfl
    simp only [List.map_cons, List.map_nil, hpct, List.cons_append, List.nil_append,
      plusByte_of_hexByte (hexByte_hexDigit (div_sixteen_lt b)),
      plusByte_of_hexByte (hexByte_hexDigit (mod_sixteen_lt b))]
    exact percentDecode_hexDigits b rest

/-- **What was written is read back**, by induction on the bytes of the text. -/
theorem formDecode_formEncode (text : String) : formDecode (formEncode text) = text := by
  have hbytes : ∀ bs : List UInt8,
      percentDecode ((bs.flatMap formEncodeByte).map plusByte) = bs := by
    intro bs
    induction bs with
    | nil => rfl
    | cons b bs ih =>
      rw [List.flatMap_cons, List.map_append, percentDecode_formEncodeByte, ih]
  rw [formDecode, formEncode, hbytes, lossy_utf8, String.ofList_toList]

/-! ## Pairs -/

def formEncodePair (pair : String × String) : List UInt8 :=
  formEncode pair.1 ++ '='.toUInt8 :: formEncode pair.2

/-- `form_urlencoded::Serializer::append_pair`. -/
def appendPair (form : List UInt8) (pair : String × String) : List UInt8 :=
  if form = [] then formEncodePair pair else form ++ '&'.toUInt8 :: formEncodePair pair

theorem formEncodePair_ne_nil (pair : String × String) : formEncodePair pair ≠ [] := by
  simp [formEncodePair]

theorem free_formEncodePair (pair : String × String) :
    Free (· == '&'.toUInt8) (formEncodePair pair) := by
  intro d hd
  rw [beq_eq_false_iff_ne]
  rcases List.mem_append.mp hd with hd | hd
  · exact ne_of_mem_formEncode (.inl rfl) hd
  · rcases List.mem_cons.mp hd with rfl | hd
    · decide
    · exact ne_of_mem_formEncode (.inl rfl) hd

theorem formPair_formEncodePair (pair : String × String) :
    formPair (formEncodePair pair) = pair := by
  have hname : '='.toUInt8 ∉ formEncode pair.1 := fun h => ne_of_mem_formEncode (.inr rfl) h rfl
  rw [formEncodePair, formPair_append_cons hname, formDecode_formEncode, formDecode_formEncode]

/-- The pairs on both sides of a separator. -/
theorem formPairs_append (form rest : List UInt8) :
    formPairs (form ++ '&'.toUInt8 :: rest) = formPairs form ++ formPairs rest := by
  have hsplit : (form ++ '&'.toUInt8 :: rest).splitOnP (· == '&'.toUInt8) =
      form.splitOnP (· == '&'.toUInt8) ++ rest.splitOnP (· == '&'.toUInt8) :=
    List.splitOnP_append_cons form rest (beq_self_eq_true _)
  rw [formPairs, hsplit, List.filter_append, List.map_append, formPairs, formPairs]

/-- **One more pair** is read behind the others. -/
theorem formPairs_appendPair (form : List UInt8) (pair : String × String) :
    formPairs (appendPair form pair) = formPairs form ++ [pair] := by
  have hpair : formPairs (formEncodePair pair) = [pair] := by
    rw [formPairs_of_free (free_formEncodePair pair) (formEncodePair_ne_nil pair),
      formPair_formEncodePair]
  unfold appendPair
  split_ifs with h
  · rw [h, hpair]
    rfl
  · rw [formPairs_append, hpair]

/-- All pairs that are written one after the other are read in their order. -/
theorem formPairs_foldl_appendPair (pairs : List (String × String)) (form : List UInt8) :
    formPairs (pairs.foldl appendPair form) = formPairs form ++ pairs := by
  induction pairs generalizing form with
  | nil => rw [List.foldl_nil, List.append_nil]
  | cons pair pairs ih => rw [List.foldl_cons, ih, formPairs_appendPair, List.append_assoc]; rfl

end Urls
