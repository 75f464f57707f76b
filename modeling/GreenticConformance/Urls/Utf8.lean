import Mathlib.Data.List.Basic
import Mathlib.Data.String.Basic
import Mathlib.Tactic.Common

/-!
# Texts and their bytes

A text is written in UTF-8. Any bytes can be read as a text: a stretch that spells no
character stands for U+FFFD. What was written is read back, and reading does not make up
ASCII characters.

## Main definitions

- `utf8` — the bytes of a text
- `lossy` — the text that any bytes are read as

## Main results

- `lossy_utf8` — what was written is read back
- `countP_lossy_le` — a text has no more ASCII characters than its bytes
-/

namespace Urls

variable {c : Char} {cs : List Char} {b : UInt8} {bs : List UInt8}

/-! ## Writing -/

def utf8 (cs : List Char) : List UInt8 := cs.flatMap String.utf8EncodeChar

/-- `char::is_ascii`. -/
def asciiChar (c : Char) : Bool := c.toNat < 128

/-- `u8::is_ascii`. -/
def asciiByte (b : UInt8) : Bool := b < 128

@[simp] theorem utf8_nil : utf8 [] = [] := rfl

@[simp] theorem utf8_cons : utf8 (c :: cs) = String.utf8EncodeChar c ++ utf8 cs :=
  List.flatMap_cons

@[simp] theorem utf8_append {ds : List Char} : utf8 (cs ++ ds) = utf8 cs ++ utf8 ds :=
  List.flatMap_append

theorem utf8EncodeChar_of_ascii (h : asciiChar c = true) :
    String.utf8EncodeChar c = [c.toUInt8] := by
  have hc : c.val.toNat ≤ 0x7f := Nat.le_of_lt_succ (of_decide_eq_true h)
  rw [String.utf8EncodeChar, if_pos hc]
  rfl

theorem asciiByte_of_ascii (h : asciiChar c = true) : asciiByte c.toUInt8 = true := by
  have hc : c.val.toNat < 128 := of_decide_eq_true h
  have hb : c.toUInt8.toNat = c.val.toNat % 256 := rfl
  refine decide_eq_true (UInt8.lt_iff_toNat_lt.mpr ?_)
  show c.toUInt8.toNat < 128
  omega

/-- A byte of a longer sequence is a leading or a continuation byte. -/
theorem asciiByte_of_mem_utf8EncodeChar (h : asciiChar c = false)
    (hb : b ∈ String.utf8EncodeChar c) : asciiByte b = false := by
  have hc : ¬ c.val.toNat ≤ 0x7f := fun hle =>
    of_decide_eq_false h (Nat.lt_succ_of_le hle)
  have high : ∀ n, 128 ≤ n → n < 256 → asciiByte (UInt8.ofNat n) = false := by
    intro n hn hlt
    refine decide_eq_false fun h => ?_
    have := UInt8.lt_iff_toNat_lt.mp h
    rw [UInt8.toNat_ofNat_of_lt' hlt] at this
    exact absurd this (by simpa using hn)
  rw [String.utf8EncodeChar, if_neg hc] at hb
  split_ifs at hb <;> simp only [List.mem_cons, List.not_mem_nil, or_false] at hb
  · rcases hb with rfl | rfl <;> exact high _ (by omega) (by omega)
  · rcases hb with rfl | rfl | rfl <;> exact high _ (by omega) (by omega)
  · rcases hb with rfl | rfl | rfl | rfl <;> exact high _ (by omega) (by omega)

theorem toUInt8_inj {a : Char} (hc : asciiChar c = true) (ha : asciiChar a = true)
    (h : c.toUInt8 = a.toUInt8) : c = a := by
  have hcode : c.val.toNat % 256 = a.val.toNat % 256 := congrArg UInt8.toNat h
  have hc : c.val.toNat < 128 := of_decide_eq_true hc
  have ha : a.val.toNat < 128 := of_decide_eq_true ha
  refine Char.toNat_inj.mp ?_
  show c.val.toNat = a.val.toNat
  omega

/-- The byte of an ASCII character stands for nothing else. -/
theorem ne_of_mem_utf8EncodeChar {a : Char} (ha : asciiChar a = true) (hne : c ≠ a)
    (hb : b ∈ String.utf8EncodeChar c) : b ≠ a.toUInt8 := by
  rintro rfl
  cases hc : asciiChar c with
  | true =>
    rw [utf8EncodeChar_of_ascii hc, List.mem_singleton] at hb
    exact hne (toUInt8_inj hc ha hb.symm)
  | false =>
    have hhigh := asciiByte_of_mem_utf8EncodeChar hc hb
    rw [asciiByte_of_ascii ha] at hhigh
    cases hhigh

theorem ne_of_mem_utf8 {a : Char} (ha : asciiChar a = true) (hne : a ∉ cs) (hb : b ∈ utf8 cs) :
    b ≠ a.toUInt8 := by
  obtain ⟨c, hc, hmem⟩ := List.mem_flatMap.mp hb
  exact ne_of_mem_utf8EncodeChar ha (fun heq => hne (heq ▸ hc)) hmem

theorem countP_utf8EncodeChar (c : Char) :
    (String.utf8EncodeChar c).countP asciiByte = [c].countP asciiChar := by
  cases h : asciiChar c with
  | true => simp [utf8EncodeChar_of_ascii h, asciiByte_of_ascii h, h]
  | false =>
    rw [List.countP_eq_zero.mpr fun b hb => by simp [asciiByte_of_mem_utf8EncodeChar h hb]]
    simp [h]

@[simp] theorem countP_utf8 (cs : List Char) :
    (utf8 cs).countP asciiByte = cs.countP asciiChar := by
  induction cs with
  | nil => rfl
  | cons c cs ih =>
    rw [utf8_cons, List.countP_append, countP_utf8EncodeChar, ih, ← List.countP_append,
      List.singleton_append]

/-! ## Reading -/

/-- The character that the bytes start with. -/
def decodeChar? (bs : List UInt8) : Option Char := bs.toByteArray.utf8DecodeChar? 0

/-- `10xxxxxx`. -/
def continuation (b : UInt8) : Bool := 0x80 ≤ b && b ≤ 0xBF

/-- The second byte a sequence of three or four may have. -/
def secondByte (first second : UInt8) : Bool :=
  (first == 0xE0 && 0xA0 ≤ second && second ≤ 0xBF) ||
    (0xE1 ≤ first && first ≤ 0xEC && continuation second) ||
    (first == 0xED && 0x80 ≤ second && second ≤ 0x9F) ||
    (0xEE ≤ first && first ≤ 0xEF && continuation second) ||
    (first == 0xF0 && 0x90 ≤ second && second ≤ 0xBF) ||
    (0xF1 ≤ first && first ≤ 0xF3 && continuation second) ||
    (first == 0xF4 && 0x80 ≤ second && second ≤ 0x8F)

/-- The bytes that one U+FFFD stands for, where no character starts: those that the
beginning of some sequence has, or else one. -/
def invalidLength (bs : List UInt8) : ℕ :=
  if secondByte (bs.getD 0 0) (bs.getD 1 0) then
    if 0xF0 ≤ bs.getD 0 0 && continuation (bs.getD 2 0) then 3 else 2
  else
    1

/-- Reading, when `skip` bytes of the last character are left. -/
def lossyFrom : ℕ → List UInt8 → List Char
  | _, [] => []
  | skip + 1, _ :: rest => lossyFrom skip rest
  | 0, b :: rest =>
    match decodeChar? (b :: rest) with
    | some c => c :: lossyFrom (c.utf8Size - 1) rest
    | none => '\uFFFD' :: lossyFrom (invalidLength (b :: rest) - 1) rest

/-- `String::from_utf8_lossy`. -/
def lossy (bs : List UInt8) : List Char := lossyFrom 0 bs

theorem lossyFrom_zero_of_some (h : decodeChar? (b :: bs) = some c) :
    lossyFrom 0 (b :: bs) = c :: lossyFrom (c.utf8Size - 1) bs := by
  rw [lossyFrom, h]

theorem lossyFrom_zero_of_none (h : decodeChar? (b :: bs) = none) :
    lossyFrom 0 (b :: bs) = '\uFFFD' :: lossyFrom (invalidLength (b :: bs) - 1) bs := by
  rw [lossyFrom, h]

theorem lossyFrom_eq_lossy_drop (skip : ℕ) (bs : List UInt8) :
    lossyFrom skip bs = lossy (bs.drop skip) := by
  induction bs generalizing skip with
  | nil => simp [lossy, lossyFrom]
  | cons b bs ih =>
    cases skip with
    | zero => rfl
    | succ skip => exact ih skip

theorem decodeChar?_append (c : Char) (bs : List UInt8) :
    decodeChar? (String.utf8EncodeChar c ++ bs) = some c := by
  rw [decodeChar?, List.toByteArray_append, ByteArray.utf8DecodeChar?_utf8EncodeChar_append]

theorem eq_append_of_decodeChar? (h : decodeChar? bs = some c) :
    bs = String.utf8EncodeChar c ++ bs.drop c.utf8Size := by
  obtain ⟨rest, hrest⟩ := ByteArray.exists_of_utf8DecodeChar?_eq_some h
  have hbs : bs = String.utf8EncodeChar c ++ rest.data.toList := by
    have hlist := congrArg (fun bytes => bytes.data.toList) hrest
    simpa [ByteArray.toList_data_append] using hlist
  rw [hbs, ← String.length_utf8EncodeChar c, List.drop_left]

/-- A character and what is read after it. -/
theorem lossy_encode_append (c : Char) (bs : List UInt8) :
    lossy (String.utf8EncodeChar c ++ bs) = c :: lossy bs := by
  obtain ⟨b, rest, hb⟩ := List.exists_cons_of_ne_nil (String.utf8EncodeChar_ne_nil (c := c))
  have hdecode := decodeChar?_append c bs
  have hlength : rest.length = c.utf8Size - 1 := by
    have := String.length_utf8EncodeChar c
    rw [hb, List.length_cons] at this
    omega
  rw [hb, List.cons_append] at hdecode ⊢
  rw [lossy, lossyFrom_zero_of_some hdecode, lossyFrom_eq_lossy_drop, ← hlength, List.drop_left]

/-- What was written is read back. -/
theorem lossy_utf8 (cs : List Char) : lossy (utf8 cs) = cs := by
  induction cs with
  | nil => rfl
  | cons c cs ih => rw [utf8_cons, lossy_encode_append, ih]

/-- An ASCII character that is read has a byte of its own. -/
theorem countP_lossyFrom_le (skip : ℕ) (bs : List UInt8) :
    (lossyFrom skip bs).countP asciiChar ≤ (bs.drop skip).countP asciiByte := by
  induction bs generalizing skip with
  | nil => simp [lossyFrom]
  | cons b bs ih =>
    cases skip with
    | succ skip => exact ih skip
    | zero =>
      rw [List.drop_zero]
      cases hdecode : decodeChar? (b :: bs) with
      | some c =>
        have hsplit := eq_append_of_decodeChar? hdecode
        have hdrop : (b :: bs).drop c.utf8Size = bs.drop (c.utf8Size - 1) := by
          obtain ⟨n, hn⟩ := Nat.exists_eq_succ_of_ne_zero c.utf8Size_pos.ne'
          rw [hn, List.drop_succ_cons, Nat.succ_sub_one]
        have hrest := ih (c.utf8Size - 1)
        rw [lossyFrom_zero_of_some hdecode, hsplit, List.countP_append, countP_utf8EncodeChar,
          hdrop, ← List.singleton_append, List.countP_append]
        exact Nat.add_le_add_left hrest _
      | none =>
        -- U+FFFD is none
        have hrest := ih (invalidLength (b :: bs) - 1)
        have hdrop := ((List.drop_sublist (invalidLength (b :: bs) - 1) bs).cons b).countP_le
          (p := asciiByte)
        rw [lossyFrom_zero_of_none hdecode, List.countP_cons_of_neg (by decide)]
        exact hrest.trans hdrop

theorem countP_lossy_le (bs : List UInt8) :
    (lossy bs).countP asciiChar ≤ bs.countP asciiByte := countP_lossyFrom_le 0 bs

end Urls
