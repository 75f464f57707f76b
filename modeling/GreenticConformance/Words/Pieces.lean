import Mathlib.Data.List.Basic
import Mathlib.Tactic.Common

/-!
# Words between separators

A list that is split at its separators falls into pieces: the stretches without a
separator that a separator, or an end of the list, bounds on either side. Words that
are joined by one separator come apart again.

## Main definitions

- `Free` — no separator
- `Piece` — a stretch between separators
- `Spells` — every letter is written as a word, and a separator as a separator

## Main results

- `mem_splitOnP_iff` — splitting gives the pieces
- `splitOnP_intercalate` — splitting undoes joining
- `Spells.splitOnP_flatMap` — a text that is spelled out is split where it was
-/

namespace Words

variable {α β : Type*} {p : α → Bool} {q : β → Bool} {spell : α → List β}
variable {w xs ys : List α} {c : α}

/-- No element is a separator. -/
def Free (p : α → Bool) (w : List α) : Prop := ∀ c ∈ w, p c = false

instance : Decidable (Free p w) := inferInstanceAs (Decidable (∀ c ∈ w, p c = false))

/-- `w` stands in `xs` with a separator or an end on either side of it. -/
def Piece (p : α → Bool) (w xs : List α) : Prop :=
  Free p w ∧ ∃ before after, xs = before ++ w ++ after ∧
    (∀ c ∈ before.getLast?, p c = true) ∧ ∀ c ∈ after.head?, p c = true

theorem Free.append (hw : Free p w) (hc : p c = false) : Free p (w ++ [c]) := by
  intro d hd
  rcases List.mem_append.mp hd with hd | hd
  · exact hw d hd
  · exact List.mem_singleton.mp hd ▸ hc

theorem Free.piece (h : Free p w) : Piece p w w :=
  ⟨h, [], [], by simp, nofun, nofun⟩

/-- The stretch in front of the first separator. -/
theorem Free.piece_append_cons (h : Free p w) (hc : p c = true) : Piece p w (w ++ c :: xs) := by
  refine ⟨h, [], c :: xs, by simp, nofun, fun d hd => ?_⟩
  obtain rfl := Option.some.inj hd
  exact hc

/-- What stands behind a separator keeps its pieces. -/
theorem Piece.append_cons (h : Piece p w xs) (hc : p c = true) : Piece p w (ys ++ c :: xs) := by
  obtain ⟨hw, before, after, rfl, hbefore, hafter⟩ := h
  refine ⟨hw, ys ++ c :: before, after, by simp, fun d hd => ?_, hafter⟩
  cases hlast : before.getLast? with
  | some last =>
    rw [List.getLast?_append, List.getLast?_cons, hlast] at hd
    obtain rfl : last = d := by simpa using hd
    exact hbefore last hlast
  | none =>
    -- nothing is in between
    rw [List.getLast?_append, List.getLast?_cons, hlast] at hd
    obtain rfl : c = d := by simpa using hd
    exact hc

theorem piece_of_mem_splitOnP (h : w ∈ xs.splitOnP p) : Piece p w xs := by
  -- with what was read since the last separator in front
  have hread : ∀ seen, Free p seen → w ∈ (seen ++ xs).splitOnP p → Piece p w (seen ++ xs) := by
    clear h
    induction xs with
    | nil =>
      intro seen hseen hw
      rw [List.append_nil, List.splitOnP_eq_singleton hseen, List.mem_singleton] at hw
      rw [hw, List.append_nil]
      exact hseen.piece
    | cons c xs ih =>
      intro seen hseen hw
      cases hc : p c with
      | true =>
        rw [List.splitOnP_append_cons_of_forall_mem hseen c hc, List.mem_cons] at hw
        rcases hw with rfl | hw
        · exact hseen.piece_append_cons hc
        · exact (ih [] nofun hw).append_cons hc
      | false =>
        have hshift : seen ++ c :: xs = seen ++ [c] ++ xs := by simp
        rw [hshift] at hw ⊢
        exact ih (seen ++ [c]) (hseen.append hc) hw
  exact hread [] nofun h

/-- Splitting a list gives its pieces. -/
theorem mem_splitOnP_iff : w ∈ xs.splitOnP p ↔ Piece p w xs := by
  refine ⟨piece_of_mem_splitOnP, fun h => ?_⟩
  obtain ⟨hw, before, after, rfl, hbefore, hafter⟩ := h
  have hfirst : w ∈ (w ++ after).splitOnP p := by
    cases after with
    | nil => simp [List.splitOnP_eq_singleton hw]
    | cons d after =>
      rw [List.splitOnP_append_cons_of_forall_mem hw d (hafter d rfl)]
      exact List.mem_cons_self
  rcases List.eq_nil_or_concat before with rfl | ⟨before, d, rfl⟩
  · exact hfirst
  · have hd : p d = true := hbefore d (by simp)
    have hshift : before.concat d ++ w ++ after = before ++ d :: (w ++ after) := by simp
    rw [hshift, List.splitOnP_append_cons _ _ hd]
    exact List.mem_append_right _ hfirst

/-- Pieces that were joined by a separator come apart again. -/
theorem splitOnP_intercalate {ws : List (List α)} (hc : p c = true) (hws : ∀ w ∈ ws, Free p w)
    (hne : ws ≠ []) : ([c].intercalate ws).splitOnP p = ws := by
  induction ws with
  | nil => exact absurd rfl hne
  | cons w ws ih =>
    rw [List.forall_mem_cons] at hws
    by_cases hlast : ws = []
    · rw [hlast, List.intercalate_singleton, List.splitOnP_eq_singleton hws.1]
    · rw [List.intercalate_cons_of_ne_nil hlast, List.append_assoc, List.singleton_append,
        List.splitOnP_append_cons_of_forall_mem hws.1 c hc, ih hws.2 hlast]

/-! ## Spelling -/

theorem splitOnP_append_of_free (hw : Free p w) :
    (w ++ xs).splitOnP p = (xs.splitOnP p).modifyHead (w ++ ·) := by
  induction w with
  | nil =>
    show xs.splitOnP p = (xs.splitOnP p).modifyHead id
    rw [List.modifyHead_id, id]
  | cons c w ih =>
    have hrest : Free p w := fun d hd => hw d (List.mem_cons_of_mem _ hd)
    have hc : p c = false := hw c List.mem_cons_self
    rw [List.cons_append, List.splitOnP_cons_eq_if_modifyHead, if_neg (by simp [hc]), ih hrest,
      List.modifyHead_modifyHead]
    rfl

/-- A separator is written as a separator, and anything else without one. -/
structure Spells (p : α → Bool) (q : β → Bool) (spell : α → List β) : Prop where
  separator : ∀ c, p c = true → ∃ d, spell c = [d] ∧ q d = true
  other : ∀ c, p c = false → Free q (spell c)

namespace Spells

variable (h : Spells p q spell)
include h

theorem splitOnP_flatMap (xs : List α) :
    (xs.flatMap spell).splitOnP q = (xs.splitOnP p).map (·.flatMap spell) := by
  induction xs with
  | nil => simp
  | cons c xs ih =>
    rw [List.flatMap_cons, List.splitOnP_cons_eq_if_modifyHead]
    cases hc : p c with
    | true =>
      obtain ⟨d, hd, hq⟩ := h.separator c hc
      rw [hd, List.singleton_append, List.splitOnP_cons_eq_if_modifyHead, if_pos hq, ih]
      rfl
    | false =>
      rw [splitOnP_append_of_free (h.other c hc), ih]
      cases xs.splitOnP p with
      | nil => rfl
      | cons word words => rfl

/-- What stands in front of the first separator. -/
theorem takeWhile_flatMap (xs : List α) :
    (xs.flatMap spell).takeWhile (fun d => !q d) =
      (xs.takeWhile fun c => !p c).flatMap spell := by
  induction xs with
  | nil => rfl
  | cons c xs ih =>
    rw [List.flatMap_cons]
    cases hc : p c with
    | true =>
      obtain ⟨d, hd, hq⟩ := h.separator c hc
      rw [hd, List.singleton_append, List.takeWhile_cons_of_neg (by simp [hq]),
        List.takeWhile_cons_of_neg (by simp [hc]), List.flatMap_nil]
    | false =>
      have hfree : ∀ d ∈ spell c, (!q d) = true := fun d hd => by rw [h.other c hc d hd]; rfl
      rw [List.takeWhile_append_of_pos hfree, ih, List.takeWhile_cons_of_pos (by simp [hc]),
        List.flatMap_cons]

/-- What stands behind it. -/
theorem tail_dropWhile_flatMap (xs : List α) :
    ((xs.flatMap spell).dropWhile fun d => !q d).tail =
      (xs.dropWhile fun c => !p c).tail.flatMap spell := by
  induction xs with
  | nil => rfl
  | cons c xs ih =>
    rw [List.flatMap_cons]
    cases hc : p c with
    | true =>
      obtain ⟨d, hd, hq⟩ := h.separator c hc
      rw [hd, List.singleton_append, List.dropWhile_cons_of_neg (by simp [hq]),
        List.dropWhile_cons_of_neg (by simp [hc]), List.tail_cons, List.tail_cons]
    | false =>
      have hfree : ∀ d ∈ spell c, (!q d) = true := fun d hd => by rw [h.other c hc d hd]; rfl
      rw [List.dropWhile_append_of_pos hfree, ih, List.dropWhile_cons_of_pos (by simp [hc])]

end Spells

end Words
