import GreenticConformance.Urls.Utf8

/-!
# Percent-encoding

A percent sign and two hexadecimal digits stand for a byte; a percent sign without two
digits after it stands for itself. Decoding leaves a text without such escapes as it is,
and takes ASCII bytes from any other.

## Main definitions

- `percentDecode` — reading
- `percentEncode` — writing, with the bytes of a set escaped
- `hasEscape` — an escape stands in a text

## Main results

- `percentDecode_eq_self` — a text without an escape is read as it stands
- `countP_percentDecode_lt` — any other loses ASCII bytes
- `hasEscape_utf8` — the escapes of a text are those of its bytes
- `percentDecode_hexDigits` — an escaped byte is read back
-/

namespace Urls

variable {α β : Type*} {b : UInt8} {bs rest : List UInt8} {set : UInt8 → Bool}

/-! ## Escapes -/

/-- The value of a hexadecimal digit, of either case. -/
def hexValue (b : UInt8) : Option UInt8 :=
  if '0'.toUInt8 ≤ b ∧ b ≤ '9'.toUInt8 then some (b - '0'.toUInt8)
  else if 'A'.toUInt8 ≤ b ∧ b ≤ 'F'.toUInt8 then some (b - 'A'.toUInt8 + 10)
  else if 'a'.toUInt8 ≤ b ∧ b ≤ 'f'.toUInt8 then some (b - 'a'.toUInt8 + 10)
  else none

def hexByte (b : UInt8) : Bool := (hexValue b).isSome

def percent (b : UInt8) : Bool := b == '%'.toUInt8

/-- The first `n` are digits. -/
def startsHex (hex : α → Bool) : ℕ → List α → Bool
  | 0, _ => true
  | _ + 1, [] => false
  | n + 1, a :: rest => hex a && startsHex hex n rest

/-- A percent sign with two digits after it. -/
def hasEscape (pct hex : α → Bool) : List α → Bool
  | [] => false
  | a :: rest => (pct a && startsHex hex 2 rest) || hasEscape pct hex rest

/-- `percent_encoding::percent_decode`: a percent sign without two digits after it stands
for itself. -/
def percentDecode : List UInt8 → List UInt8
  | b :: h :: l :: rest =>
    if percent b then
      match hexValue h, hexValue l with
      | some x, some y => (x * 16 + y) :: percentDecode rest
      | _, _ => b :: percentDecode (h :: l :: rest)
    else
      b :: percentDecode (h :: l :: rest)
  | bs => bs

theorem percentDecode_cons_of_not (h : (percent b && startsHex hexByte 2 rest) = false) :
    percentDecode (b :: rest) = b :: percentDecode rest := by
  match rest with
  | [] => rfl
  | [_] => rfl
  | x :: y :: rest =>
    rw [percentDecode]
    split_ifs with hb
    · split
      · next hx hy => simp [startsHex, hexByte, hb, hx, hy] at h
      · rfl
    · rfl

theorem startsHex_two_iff {hex : α → Bool} {xs : List α} :
    startsHex hex 2 xs = true ↔ ∃ x y tail, xs = x :: y :: tail ∧ hex x = true ∧ hex y = true := by
  match xs with
  | [] => simp [startsHex]
  | [_] => simp [startsHex]
  | x :: y :: tail => simp [startsHex]

/-- The value is that of the two digits. -/
theorem percentDecode_escape {x y : UInt8} (hb : percent b = true) (hx : hexByte x = true)
    (hy : hexByte y = true) :
    ∃ value, ∀ tail, percentDecode (b :: x :: y :: tail) = value :: percentDecode tail := by
  obtain ⟨m, hm⟩ := Option.isSome_iff_exists.mp hx
  obtain ⟨n, hn⟩ := Option.isSome_iff_exists.mp hy
  refine ⟨m * 16 + n, fun tail => ?_⟩
  rw [percentDecode, if_pos hb, hm, hn]

theorem asciiByte_of_percent (h : percent b = true) : asciiByte b = true := by
  rw [eq_of_beq h]
  rfl

theorem asciiByte_of_hexByte (h : hexByte b = true) : asciiByte b = true := by
  refine decide_eq_true ?_
  unfold hexByte hexValue at h
  split_ifs at h with hd hu hl
  · exact UInt8.lt_of_le_of_lt hd.2 (by decide)
  · exact UInt8.lt_of_le_of_lt hu.2 (by decide)
  · exact UInt8.lt_of_le_of_lt hl.2 (by decide)
  · cases h

/-! ## Spelling -/

/-- A spelling that writes a digit as a digit, and begins anything else with something else. -/
theorem startsHex_flatMap {hex : α → Bool} {hex' : β → Bool} {spell : α → List β}
    (hdigit : ∀ a, hex a = true → ∃ d, spell a = [d] ∧ hex' d = true)
    (hother : ∀ a, hex a = false → ∃ d tail, spell a = d :: tail ∧ hex' d = false)
    (n : ℕ) (xs : List α) : startsHex hex' n (xs.flatMap spell) = startsHex hex n xs := by
  induction n generalizing xs with
  | zero => rfl
  | succ n ih =>
    cases xs with
    | nil => rfl
    | cons a xs =>
      rw [List.flatMap_cons]
      cases ha : hex a with
      | true =>
        obtain ⟨d, hd, hhex⟩ := hdigit a ha
        rw [hd, List.singleton_append, startsHex, startsHex, hhex, ha, ih]
      | false =>
        obtain ⟨d, tail, hd, hhex⟩ := hother a ha
        rw [hd, List.cons_append, startsHex, startsHex, hhex, ha, Bool.false_and, Bool.false_and]

theorem hasEscape_append_of_forall {pct hex : α → Bool} {w xs : List α}
    (hw : ∀ a ∈ w, pct a = false) : hasEscape pct hex (w ++ xs) = hasEscape pct hex xs := by
  induction w with
  | nil => rfl
  | cons a w ih =>
    rw [List.forall_mem_cons] at hw
    rw [List.cons_append, hasEscape, hw.1, Bool.false_and, Bool.false_or, ih hw.2]

/-- `char::is_ascii_hexdigit`. -/
def hexChar (c : Char) : Bool :=
  ('0' ≤ c && c ≤ '9') || ('A' ≤ c && c ≤ 'F') || ('a' ≤ c && c ≤ 'f')

theorem hexByte_toUInt8 {c : Char} (h : asciiChar c = true) : hexByte c.toUInt8 = hexChar c := by
  have hall : ∀ k : Fin 128, hexByte (Char.ofNat k).toUInt8 = hexChar (Char.ofNat k) := by
    decide +kernel
  have hc := hall ⟨c.toNat, of_decide_eq_true h⟩
  rwa [Char.ofNat_toNat] at hc

theorem asciiChar_of_hexChar {c : Char} (h : hexChar c = true) : asciiChar c = true := by
  have hle : c ≤ 'f' := by
    simp only [hexChar, Bool.or_eq_true, Bool.and_eq_true, decide_eq_true_eq] at h
    rcases h with (h | h) | h
    · exact Char.le_trans h.2 (by decide)
    · exact Char.le_trans h.2 (by decide)
    · exact h.2
  have hcode : c.toNat ≤ 102 := Char.le_def.mp hle
  exact decide_eq_true (by omega)

theorem startsHex_utf8 (n : ℕ) (cs : List Char) :
    startsHex hexByte n (utf8 cs) = startsHex hexChar n cs := by
  apply startsHex_flatMap
  · intro c hc
    have hascii := asciiChar_of_hexChar hc
    exact ⟨c.toUInt8, utf8EncodeChar_of_ascii hascii, by rw [hexByte_toUInt8 hascii, hc]⟩
  · intro c hc
    cases hascii : asciiChar c with
    | true => exact ⟨_, [], utf8EncodeChar_of_ascii hascii, by rw [hexByte_toUInt8 hascii, hc]⟩
    | false =>
      obtain ⟨d, tail, hd⟩ := List.exists_cons_of_ne_nil (String.utf8EncodeChar_ne_nil (c := c))
      have hhigh := asciiByte_of_mem_utf8EncodeChar hascii (hd ▸ List.mem_cons_self)
      refine ⟨d, tail, hd, ?_⟩
      by_contra hdigit
      rw [asciiByte_of_hexByte ((Bool.not_eq_false _).mp hdigit)] at hhigh
      cases hhigh

/-- The escapes of a text are those of its bytes. -/
theorem hasEscape_utf8 (cs : List Char) :
    hasEscape percent hexByte (utf8 cs) = hasEscape (· == '%') hexChar cs := by
  induction cs with
  | nil => rfl
  | cons c cs ih =>
    rw [utf8_cons, hasEscape]
    by_cases hc : c = '%'
    · have hspell : String.utf8EncodeChar '%' = ['%'.toUInt8] := utf8EncodeChar_of_ascii rfl
      rw [hc, hspell, List.singleton_append, hasEscape, startsHex_utf8, ih]
      rfl
    · have hother : ∀ b ∈ String.utf8EncodeChar c, percent b = false := fun b hb =>
        beq_eq_false_iff_ne.mpr (ne_of_mem_utf8EncodeChar rfl hc hb)
      rw [hasEscape_append_of_forall hother, ih, beq_eq_false_iff_ne.mpr hc, Bool.false_and,
        Bool.false_or]

/-! ## Losses -/

theorem percentDecode_eq_self (h : hasEscape percent hexByte bs = false) :
    percentDecode bs = bs := by
  induction bs with
  | nil => rfl
  | cons b rest ih =>
    rw [hasEscape, Bool.or_eq_false_iff] at h
    rw [percentDecode_cons_of_not h.1, ih h.2]

/-- What is decoded has no more ASCII bytes, and fewer after an escape. -/
theorem countP_percentDecode_add_le (bs : List UInt8) :
    (percentDecode bs).countP asciiByte + (hasEscape percent hexByte bs).toNat ≤
      bs.countP asciiByte := by
  induction hn : bs.length using Nat.strong_induction_on generalizing bs with
  | _ n ih =>
    subst hn
    cases bs with
    | nil => rfl
    | cons b rest =>
      cases hb : percent b && startsHex hexByte 2 rest with
      | false =>
        have hrest := ih rest.length (Nat.lt_succ_self _) rest rfl
        rw [percentDecode_cons_of_not hb, hasEscape, hb, Bool.false_or, List.countP_cons,
          List.countP_cons]
        omega
      | true =>
        -- three ASCII bytes for one byte
        obtain ⟨hpct, hstarts⟩ := Bool.and_eq_true_iff.mp hb
        obtain ⟨x, y, tail, rfl, hx, hy⟩ := startsHex_two_iff.mp hstarts
        obtain ⟨value, hdecode⟩ := percentDecode_escape hpct hx hy
        have hrest := ih tail.length (by simp; omega) tail rfl
        have hvalue : [value].countP asciiByte ≤ 1 := List.countP_le_length
        have hescape := (hasEscape percent hexByte (b :: x :: y :: tail)).toNat_le
        rw [hdecode, ← List.singleton_append, List.countP_append,
          List.countP_cons_of_pos (asciiByte_of_percent hpct),
          List.countP_cons_of_pos (asciiByte_of_hexByte hx),
          List.countP_cons_of_pos (asciiByte_of_hexByte hy)]
        omega

theorem countP_percentDecode_le (bs : List UInt8) :
    (percentDecode bs).countP asciiByte ≤ bs.countP asciiByte :=
  (Nat.le_add_right _ _).trans (countP_percentDecode_add_le bs)

theorem countP_percentDecode_lt (h : hasEscape percent hexByte bs = true) :
    (percentDecode bs).countP asciiByte < bs.countP asciiByte := by
  have hle := countP_percentDecode_add_le bs
  rw [h] at hle
  exact hle

/-! ## Writing -/

/-- The digit of a value below 16. -/
def hexDigit (n : UInt8) : UInt8 :=
  if n < 10 then '0'.toUInt8 + n else 'A'.toUInt8 + (n - 10)

/-- A byte of the set is escaped. -/
def percentEncodeByte (set : UInt8 → Bool) (b : UInt8) : List UInt8 :=
  if set b then ['%'.toUInt8, hexDigit (b / 16), hexDigit (b % 16)] else [b]

/-- `percent_encoding::percent_encode`. -/
def percentEncode (set : UInt8 → Bool) (bs : List UInt8) : List UInt8 :=
  bs.flatMap (percentEncodeByte set)

theorem hexValue_hexDigit {n : UInt8} (h : n < 16) : hexValue (hexDigit n) = some n := by
  have hall : ∀ k : Fin 16, hexValue (hexDigit (UInt8.ofNat k)) = some (UInt8.ofNat k) := by
    decide
  have hn := hall ⟨n.toNat, UInt8.lt_iff_toNat_lt.mp h⟩
  rwa [UInt8.ofNat_toNat] at hn

theorem hexByte_hexDigit {n : UInt8} (h : n < 16) : hexByte (hexDigit n) = true := by
  rw [hexByte, hexValue_hexDigit h]
  rfl

theorem div_sixteen_lt (b : UInt8) : b / 16 < 16 := by
  have := b.toNat_lt
  refine UInt8.lt_iff_toNat_lt.mpr ?_
  show b.toNat / 16 < 16
  omega

theorem mod_sixteen_lt (b : UInt8) : b % 16 < 16 :=
  UInt8.lt_iff_toNat_lt.mpr (Nat.mod_lt _ (by decide))

/-- The two digits of a byte. -/
theorem div_mul_add_mod (b : UInt8) : b / 16 * 16 + b % 16 = b := by
  have := b.toNat_lt
  have hdiv : (b / 16).toNat = b.toNat / 16 := rfl
  have hmod : (b % 16).toNat = b.toNat % 16 := rfl
  rw [← UInt8.toNat_inj, UInt8.toNat_add, UInt8.toNat_mul, hdiv, hmod]
  show (b.toNat / 16 * 16 % 256 + b.toNat % 16) % 256 = b.toNat
  omega

theorem percentEncodeByte_of_not (h : set b = false) : percentEncodeByte set b = [b] :=
  if_neg (by simp [h])

theorem percentEncodeByte_of_set (h : set b = true) :
    percentEncodeByte set b = ['%'.toUInt8, hexDigit (b / 16), hexDigit (b % 16)] :=
  if_pos h

theorem mem_percentEncodeByte {d : UInt8} (h : d ∈ percentEncodeByte set b) :
    d = b ∨ percent d = true ∨ hexByte d = true := by
  cases hb : set b with
  | false =>
    rw [percentEncodeByte_of_not hb] at h
    exact .inl (List.mem_singleton.mp h)
  | true =>
    rw [percentEncodeByte_of_set hb, List.mem_cons, List.mem_cons, List.mem_singleton] at h
    rcases h with rfl | rfl | rfl
    · exact .inr (.inl rfl)
    · exact .inr (.inr (hexByte_hexDigit (div_sixteen_lt b)))
    · exact .inr (.inr (hexByte_hexDigit (mod_sixteen_lt b)))

theorem percentEncode_cons_of_set (h : set b = true) :
    percentEncode set (b :: bs) =
      '%'.toUInt8 :: hexDigit (b / 16) :: hexDigit (b % 16) :: percentEncode set bs := by
  rw [percentEncode, List.flatMap_cons, percentEncodeByte_of_set h]
  rfl

theorem percentEncode_cons_of_not (h : set b = false) :
    percentEncode set (b :: bs) = b :: percentEncode set bs := by
  rw [percentEncode, List.flatMap_cons, percentEncodeByte_of_not h]
  rfl

theorem percentEncode_eq_nil_iff : percentEncode set bs = [] ↔ bs = [] := by
  cases bs with
  | nil => simp [percentEncode]
  | cons b rest =>
    cases hb : set b with
    | true => simp [percentEncode_cons_of_set hb]
    | false => simp [percentEncode_cons_of_not hb]

/-- An escaped byte is decoded. -/
theorem percentDecode_hexDigits (b : UInt8) (rest : List UInt8) :
    percentDecode ('%'.toUInt8 :: hexDigit (b / 16) :: hexDigit (b % 16) :: rest) =
      b :: percentDecode rest := by
  rw [percentDecode, if_pos (by decide), hexValue_hexDigit (div_sixteen_lt b),
    hexValue_hexDigit (mod_sixteen_lt b)]
  dsimp only
  rw [div_mul_add_mod]

end Urls
