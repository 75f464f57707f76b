import GreenticConformance.Checks.Guards

/-!
# The first failure

Which failure checks in order return: that of the first check that does not pass. What
comes after it has no say.

## Main definitions

- `FirstFailure` — an element that fails, behind elements that pass

## Main results

- `bind_eq_error`, `forM_eq_error` — the failures of a sequence and of a loop
-/

namespace Checks

universe u

variable {ε ε' : Type*} {α β : Type u} {e : ε}

theorem failIf_eq_error {c : Prop} [Decidable c] {e' : ε} :
    (failIf c e' : Except ε Unit) = .error e ↔ c ∧ e' = e := by
  unfold failIf
  by_cases h : c
  · simp [h]
  · simp [h]

theorem bind_eq_error {r : Except ε α} {f : α → Except ε β} :
    (r >>= f) = .error e ↔ r = .error e ∨ ∃ a, r = .ok a ∧ f a = .error e := by
  cases r with
  | error e' => simp [error_bind]
  | ok a => simp [ok_bind]

theorem mapError_eq_error {r : Except ε α} {f : ε → ε'} {e' : ε'} :
    r.mapError f = .error e' ↔ ∃ e, r = .error e ∧ f e = e' := by
  cases r <;> simp [Except.mapError]

/-- One of the elements fails this way, and those before it pass. -/
def FirstFailure (f : α → Except ε Unit) (xs : List α) (e : ε) : Prop :=
  ∃ before x after, xs = before ++ x :: after ∧ (∀ y ∈ before, f y = .ok ()) ∧ f x = .error e

variable {f : α → Except ε Unit} {xs : List α}

theorem firstFailure_nil : ¬ FirstFailure f [] e := by
  rintro ⟨before, x, after, hsplit, -, -⟩
  simp at hsplit

theorem firstFailure_cons {x : α} : FirstFailure f (x :: xs) e ↔
    f x = .error e ∨ f x = .ok () ∧ FirstFailure f xs e := by
  constructor
  · rintro ⟨before, y, after, hsplit, hbefore, hy⟩
    cases before with
    | nil =>
      obtain ⟨rfl, rfl⟩ := List.cons.inj hsplit
      exact .inl hy
    | cons z before =>
      obtain ⟨rfl, rfl⟩ := List.cons.inj hsplit
      obtain ⟨hz, hbefore⟩ := List.forall_mem_cons.mp hbefore
      exact .inr ⟨hz, before, y, after, rfl, hbefore, hy⟩
  · rintro (hx | ⟨hx, before, y, after, rfl, hbefore, hy⟩)
    · exact ⟨[], x, xs, rfl, by simp, hx⟩
    · exact ⟨x :: before, y, after, rfl, List.forall_mem_cons.mpr ⟨hx, hbefore⟩, hy⟩

/-- **Loops** return the first failure. -/
theorem forM_eq_error : xs.forM f = .error e ↔ FirstFailure f xs e := by
  induction xs with
  | nil => exact iff_of_false nofun firstFailure_nil
  | cons x xs ih =>
    change (f x >>= fun _ => xs.forM f) = .error e ↔ _
    rw [bind_eq_error, exists_unit, ih, firstFailure_cons]

theorem forM_congr {g : α → Except ε Unit} (h : ∀ x ∈ xs, f x = g x) : xs.forM f = xs.forM g := by
  induction xs with
  | nil => rfl
  | cons x xs ih =>
    obtain ⟨hx, hxs⟩ := List.forall_mem_cons.mp h
    change (f x >>= fun _ => xs.forM f) = (g x >>= fun _ => xs.forM g)
    rw [hx, ih hxs]

end Checks
