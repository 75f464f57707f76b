import Mathlib.Data.Finset.Basic
import Mathlib.Data.List.Perm.Basic
import Mathlib.Tactic.Common

/-!
# Tables of rows that may be switched off

A check that turns the live rows of a table into a set sees neither their order, nor
how often one occurs, nor the rows that are switched off.

## Main definitions

- `HashOrder` — the order in which a hash set is iterated
- `Rearranged` — tables that differ in what such a check does not see

## Main results

- `Rearranged.mem_iff` — rearranged tables have the same live rows
-/

namespace Checks

variable {α κ : Type*}

/-- The order in which a hash set is iterated: any list of its elements. -/
structure HashOrder (κ : Type*) where
  toList : Finset κ → List κ
  mem_toList : ∀ {s : Finset κ} {k : κ}, k ∈ toList s ↔ k ∈ s

/-- Permuting and duplicating rows, and adding or removing rows that are not live. -/
inductive Rearranged (live : α → Bool) : List α → List α → Prop
  | perm {rows rows' : List α} (h : rows.Perm rows') : Rearranged live rows rows'
  | duplicate {row : α} {rows : List α} (h : row ∈ rows) : Rearranged live rows (row :: rows)
  | idle {row : α} {rows : List α} (h : live row = false) : Rearranged live rows (row :: rows)
  | symm {rows rows' : List α} (h : Rearranged live rows rows') : Rearranged live rows' rows
  | trans {rows rows' rows'' : List α} (h : Rearranged live rows rows')
      (h' : Rearranged live rows' rows'') : Rearranged live rows rows''

/-- Rearranged tables have the same live rows. -/
theorem Rearranged.mem_iff {live : α → Bool} {rows rows' : List α}
    (h : Rearranged live rows rows') {row : α} (hlive : live row = true) :
    row ∈ rows ↔ row ∈ rows' := by
  induction h with
  | perm h => exact h.mem_iff
  | duplicate h =>
    rw [List.mem_cons]
    exact ⟨Or.inr, fun hrow => hrow.elim (fun heq => heq ▸ h) id⟩
  | idle h =>
    have hne : row ≠ _ := fun heq => absurd hlive (by rw [heq, h]; decide)
    simp [hne]
  | symm _ ih => exact ih.symm
  | trans _ _ ih ih' => exact ih.trans ih'

/-- A property of some live row survives a rearrangement. -/
theorem Rearranged.exists_iff {live : α → Bool} {rows rows' : List α}
    (h : Rearranged live rows rows') {p : α → Prop} :
    (∃ row ∈ rows, live row = true ∧ p row) ↔ ∃ row ∈ rows', live row = true ∧ p row := by
  constructor
  · intro hex
    obtain ⟨row, hrow, hlive, hp⟩ := hex
    exact ⟨row, (h.mem_iff hlive).mp hrow, hlive, hp⟩
  · intro hex
    obtain ⟨row, hrow, hlive, hp⟩ := hex
    exact ⟨row, (h.mem_iff hlive).mpr hrow, hlive, hp⟩

/-- The list has one element of the given key and only one. -/
theorem filter_key_eq_singleton [DecidableEq κ] {key : α → κ} {k : κ} {xs : List α}
    (hnodup : (xs.map key).Nodup) (hmem : ∃ x ∈ xs, key x = k) :
    ∃ x ∈ xs, key x = k ∧ (xs.filter fun y => key y = k) = [x] := by
  induction xs with
  | nil => simp at hmem
  | cons y ys ih =>
    rw [List.map_cons, List.nodup_cons] at hnodup
    by_cases hy : key y = k
    · have hrest : (ys.filter fun z => key z = k) = [] := by
        rw [List.filter_eq_nil_iff]
        intro z hz hkey
        rw [decide_eq_true_iff] at hkey
        exact hnodup.1 (List.mem_map.mpr ⟨z, hz, hkey.trans hy.symm⟩)
      exact ⟨y, by simp, hy, by simp [hy, hrest]⟩
    · have htail : ∃ x ∈ ys, key x = k := by
        obtain ⟨x, hx, hkey⟩ := hmem
        rcases List.mem_cons.mp hx with heq | hx
        · exact absurd (heq ▸ hkey) hy
        · exact ⟨x, hx, hkey⟩
      obtain ⟨x, hx, hkey, hfilter⟩ := ih hnodup.2 htail
      exact ⟨x, List.mem_cons_of_mem y hx, hkey, by simp [hy, hfilter]⟩

end Checks
