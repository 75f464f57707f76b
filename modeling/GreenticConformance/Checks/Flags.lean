import Mathlib.Data.Finset.Basic
import Mathlib.Tactic.Common

/-!
# Decisions under strictness flags

A decision takes a set of flags, each of which may only ask for more. When
acceptance under every set splits into a part that ignores the flags and one part
for each flag that is on, the flags are independent: no set of them accepts more
or less than its flags do one at a time.

## Main definitions

- `Layered` — acceptance splits into a base and one requirement a flag

## Main results

- `Layered.accepts_iff` — independence
- `Layered.anti` — fewer flags accept more
-/

namespace Checks

variable {F : Type*} {accepts : Finset F → Prop} {S T : Finset F}

/-- Acceptance splits into a base and one requirement for each flag that is on. -/
def Layered (accepts : Finset F → Prop) : Prop :=
  ∃ (base : Prop) (requires : F → Prop), ∀ S, accepts S ↔ base ∧ ∀ f ∈ S, requires f

namespace Layered

/-- A set of flags accepts what the empty set and each of its flags accept. -/
theorem accepts_iff (h : Layered accepts) :
    accepts S ↔ accepts ∅ ∧ ∀ f ∈ S, accepts {f} := by
  obtain ⟨base, requires, hsplit⟩ := h
  have hsingle (f : F) : accepts {f} ↔ base ∧ requires f := by
    rw [hsplit]
    simp
  simp only [hsplit S, hsplit ∅, hsingle]
  constructor
  · intro hS
    exact ⟨⟨hS.1, by simp⟩, fun f hf => ⟨hS.1, hS.2 f hf⟩⟩
  · intro hS
    exact ⟨hS.1.1, fun f hf => (hS.2 f hf).2⟩

/-- Relaxing flags never turns acceptance into rejection. -/
theorem anti (h : Layered accepts) (hST : S ⊆ T) (hT : accepts T) : accepts S := by
  obtain ⟨base, requires, hsplit⟩ := h
  rw [hsplit] at hT ⊢
  exact ⟨hT.1, fun f hf => hT.2 f (hST hf)⟩

end Layered

end Checks
