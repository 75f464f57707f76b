import Mathlib.Data.String.Basic

/-!
# Strings of the standard library

The methods of `str` that the handlers call, on the characters of a string.
-/

namespace GreenticConformance.OAuthMock

/-- `char::is_whitespace`: the Unicode property `White_Space`. -/
def isWhitespace (c : Char) : Bool :=
  let n := c.toNat
  (9 ≤ n && n ≤ 13) || n == 0x20 || n == 0x85 || n == 0xA0 || n == 0x1680 ||
    (0x2000 ≤ n && n ≤ 0x200A) || n == 0x2028 || n == 0x2029 || n == 0x202F ||
    n == 0x205F || n == 0x3000

/-- `str::split_whitespace`. -/
def splitWhitespace (s : String) : List String :=
  ((s.toList.splitOnP isWhitespace).filter (· ≠ [])).map String.ofList

/-- `str::strip_prefix`. -/
def stripPrefix (p s : String) : Option String :=
  if p.toList.isPrefixOf s.toList then
    some (String.ofList (s.toList.drop p.toList.length))
  else
    none

theorem stripPrefix_append (p s : String) : stripPrefix p (p ++ s) = some s := by
  have hp : p.toList.isPrefixOf (p ++ s).toList = true := by
    rw [String.toList_append, List.isPrefixOf_iff_prefix]
    exact List.prefix_append _ _
  rw [stripPrefix, if_pos hp, String.toList_append, List.drop_left, String.ofList_toList]

theorem stripPrefix_eq_some_iff {p s r : String} : stripPrefix p s = some r ↔ s = p ++ r := by
  refine ⟨fun h => ?_, fun h => h ▸ stripPrefix_append p r⟩
  unfold stripPrefix at h
  split_ifs at h with hp
  obtain ⟨rest, hrest⟩ := List.isPrefixOf_iff_prefix.mp hp
  rw [← Option.some.inj h, ← String.toList_inj, String.toList_append, String.toList_ofList,
    ← hrest, List.drop_left]

/-- `str::split_once` at a character. -/
def splitOnce (c : Char) (s : String) : Option (String × String) :=
  match s.toList.dropWhile (· ≠ c) with
  | [] => none
  | _ :: rest => some (String.ofList (s.toList.takeWhile (· ≠ c)), String.ofList rest)

/-- The split is at the first such character. -/
theorem splitOnce_eq_some_iff {c : Char} {s a b : String} :
    splitOnce c s = some (a, b) ↔ s.toList = a.toList ++ c :: b.toList ∧ c ∉ a.toList := by
  unfold splitOnce
  constructor
  · intro h
    have hsplit := List.takeWhile_append_dropWhile (p := fun d => d ≠ c) (l := s.toList)
    have hstop := List.head?_dropWhile_not (fun d => d ≠ c) s.toList
    cases hrest : s.toList.dropWhile fun d => d ≠ c with
    | nil =>
      rw [hrest] at h
      cases h
    | cons d rest =>
      rw [hrest] at h hsplit hstop
      obtain ⟨rfl, rfl⟩ := Prod.mk.inj (Option.some.inj h)
      -- what stops the search is the character itself
      have hd : d = c := by simpa using hstop
      rw [String.toList_ofList, String.toList_ofList, ← hd]
      rw [← hd] at hsplit
      refine ⟨hsplit.symm, fun hc => ?_⟩
      have hne := List.all_eq_true.mp (List.all_takeWhile (l := s.toList)) d hc
      simp at hne
  · intro h
    obtain ⟨hs, hc⟩ := h
    have hall : ∀ d ∈ a.toList, (d ≠ c : Bool) = true := by
      intro d hd
      exact decide_eq_true fun heq => hc (heq ▸ hd)
    rw [hs, List.dropWhile_append_of_pos hall, List.takeWhile_append_of_pos hall]
    simp [String.ofList_toList]

/-- `String::from_utf8` undoes `as_bytes`. -/
theorem fromUTF8?_eq_some_iff {bytes : ByteArray} {s : String} :
    String.fromUTF8? bytes = some s ↔ bytes = s.toUTF8 := by
  unfold String.fromUTF8?
  constructor
  · intro h
    split_ifs at h with hvalid
    rw [← Option.some.inj h]
    rfl
  · rintro rfl
    rw [String.toUTF8_eq_toByteArray, dif_pos s.isValidUTF8]
    rfl

/-- `char::to_ascii_uppercase` on every character. -/
def toAsciiUppercase (s : String) : String := String.ofList (s.toList.map Char.toUpper)

/-- `str::eq_ignore_ascii_case`. -/
def eqIgnoreAsciiCase (a b : String) : Bool :=
  a.toList.map Char.toLower == b.toList.map Char.toLower

/-! ## Upper and lower case -/

section Casing

variable {c : Char}

/-- What agrees on each ASCII character agrees on a character that is one. -/
theorem eq_of_ascii {β : Type} {f g : Char → β}
    (hall : ∀ k : Fin 128, f (Char.ofNat k) = g (Char.ofNat k)) (h : c.toNat < 128) :
    f c = g c := by
  have hc := hall ⟨c.toNat, h⟩
  rwa [Char.ofNat_toNat] at hc

theorem toLower_of_not_ascii (h : 128 ≤ c.toNat) : c.toLower = c := by
  refine dif_neg fun hletter => ?_
  have hcode : c.toNat ≤ 'Z'.toNat := hletter.2
  exact absurd (Nat.le_trans h hcode) (by decide)

theorem toUpper_of_not_ascii (h : 128 ≤ c.toNat) : c.toUpper = c := by
  refine dif_neg fun hletter => ?_
  have hcode : c.toNat ≤ 'z'.toNat := hletter.2
  exact absurd (Nat.le_trans h hcode) (by decide)

/-- Lowering twice is lowering once. -/
theorem toLower_toLower (c : Char) : c.toLower.toLower = c.toLower := by
  rcases Nat.lt_or_ge c.toNat 128 with h | h
  · exact eq_of_ascii (f := fun c => c.toLower.toLower) (by decide +kernel) h
  · rw [toLower_of_not_ascii h, toLower_of_not_ascii h]

/-- Raising the letters again undoes the lowering. -/
theorem toUpper_toLower_toUpper (c : Char) : c.toUpper.toLower.toUpper = c.toUpper := by
  rcases Nat.lt_or_ge c.toNat 128 with h | h
  · exact eq_of_ascii (f := fun c => c.toUpper.toLower.toUpper) (by decide +kernel) h
  · rw [toUpper_of_not_ascii h, toLower_of_not_ascii h, toUpper_of_not_ascii h]

end Casing

end GreenticConformance.OAuthMock
