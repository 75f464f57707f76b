import GreenticConformance.Suites.Policy

/-!
# The retry schedule

The delays of `compute_backoff_schedule` are products of two configured numbers, in
`u64`. They are the exact multiples of the base as long as the longest of them fits.

## Main results

- `computeBackoffSchedule_eq_some_iff` — the configurations with an exact schedule
- `computeBackoffSchedule_exact_iff` — the same for what the schedule should be
-/

namespace GreenticConformance.Policy

open Checks

variable {overflowChecks : Bool} {attempts baseMs : UInt64}

/-! ## Arithmetic -/

/-- The result of an operation is exact when it fits, whatever the build does with one
that does not. -/
theorem arithmetic_eq_exact_iff (overflowChecks : Bool) {exact : ℕ} :
    (arithmetic overflowChecks exact).map UInt64.toNat = some exact ↔ exact < 2 ^ 64 := by
  unfold arithmetic
  by_cases hfits : exact < 2 ^ 64
  · have hkept : ¬ (overflowChecks = true ∧ 2 ^ 64 ≤ exact) := fun h => by omega
    rw [if_neg hkept]
    simp
  · refine iff_of_false (fun h => ?_) hfits
    cases overflowChecks with
    | true =>
      rw [if_pos ⟨rfl, Nat.not_lt.mp hfits⟩] at h
      cases h
    | false =>
      -- a wrapped result is small, so it is not this one
      simp at h
      omega

/-- The delay of one attempt. -/
def delay (overflowChecks : Bool) (baseMs : UInt64) (i : ℕ) : Option Duration := do
  let k ← arithmetic overflowChecks (i + 1)
  let delay ← arithmetic overflowChecks (baseMs.toNat * k.toNat)
  return delay.toNat

theorem delay_eq_exact_iff {i : ℕ} (hi : i < attempts.toNat) :
    delay overflowChecks baseMs i = some (baseMs.toNat * (i + 1)) ↔
      baseMs.toNat * (i + 1) < 2 ^ 64 := by
  have hlt : i + 1 < 2 ^ 64 := by
    have := attempts.toNat_lt
    omega
  obtain ⟨k, hk, hexact⟩ := Option.map_eq_some_iff.mp
    ((arithmetic_eq_exact_iff overflowChecks).mpr hlt)
  rw [← arithmetic_eq_exact_iff overflowChecks]
  simp [delay, hk, hexact, Option.map_eq_some_iff, Option.bind_eq_some_iff]

/-! ## The schedule -/

/-- The exact multiples of the base. -/
def multiples (attempts baseMs : UInt64) : List Duration :=
  (List.range attempts.toNat).map fun k => baseMs.toNat * (k + 1)

theorem multiples_pairwise (attempts baseMs : UInt64) :
    (multiples attempts baseMs).Pairwise (· ≤ ·) := by
  unfold multiples
  rw [List.pairwise_map]
  refine List.pairwise_lt_range.imp fun hlt => ?_
  exact Nat.mul_le_mul_left _ (by omega)

/-- All multiples fit when the last one does. -/
theorem forall_fits_iff {n b : ℕ} : (∀ i < n, b * (i + 1) < 2 ^ 64) ↔ b * n < 2 ^ 64 := by
  constructor
  · intro hall
    cases n with
    | zero => simp
    | succ n => exact hall n n.lt_succ_self
  · intro hlast i hi
    calc b * (i + 1) ≤ b * n := Nat.mul_le_mul_left b hi
      _ < 2 ^ 64 := hlast

/-- The room for the delays can be asked for, and the longest delay fits. -/
def Representable (attempts baseMs : UInt64) : Prop :=
  16 * attempts.toNat < 2 ^ 63 ∧ baseMs.toNat * attempts.toNat < 2 ^ 64

theorem computeBackoffSchedule_eq_some_iff :
    computeBackoffSchedule overflowChecks attempts baseMs = some (multiples attempts baseMs) ↔
      Representable attempts baseMs := by
  unfold computeBackoffSchedule Representable
  by_cases hroom : 2 ^ 63 ≤ 16 * attempts.toNat
  · rw [if_pos hroom]
    refine iff_of_false (fun h => nomatch h) fun h => ?_
    exact absurd h.1 (Nat.not_lt.mpr hroom)
  · rw [if_neg hroom, and_iff_right (Nat.not_le.mp hroom), ← forall_fits_iff]
    change (List.range attempts.toNat).mapM (delay overflowChecks baseMs) = _ ↔ _
    rw [multiples, mapM_eq_some_map]
    simp only [List.mem_range]
    exact forall₂_congr fun i hi => delay_eq_exact_iff hi

/-- One delay an attempt is returned, each the exact multiple of the base, and none is
shorter than the one before. -/
structure ExactSchedule (attempts baseMs : UInt64) (schedule : List Duration) : Prop where
  length : schedule.length = attempts.toNat
  delays : ∀ k < attempts.toNat, schedule[k]? = some (baseMs.toNat * (k + 1))
  nondecreasing : schedule.Pairwise (· ≤ ·)

theorem exactSchedule_iff {schedule : List Duration} :
    ExactSchedule attempts baseMs schedule ↔ schedule = multiples attempts baseMs := by
  constructor
  · intro h
    apply List.ext_getElem?
    intro k
    by_cases hk : k < attempts.toNat
    · rw [h.delays k hk]
      simp [multiples, hk]
    · have hlength := h.length
      rw [List.getElem?_eq_none (by omega), List.getElem?_eq_none]
      simp only [multiples, List.length_map, List.length_range]
      omega
  · rintro rfl
    refine ⟨by simp [multiples], fun k hk => ?_, multiples_pairwise attempts baseMs⟩
    simp [multiples, hk]

/-- **Backoff**: the schedule is the exact one in exactly the configurations in which it
can be represented, in a build with overflow checks as in one without. -/
theorem computeBackoffSchedule_exact_iff (overflowChecks : Bool) (attempts baseMs : UInt64) :
    (∃ schedule, computeBackoffSchedule overflowChecks attempts baseMs = some schedule ∧
      ExactSchedule attempts baseMs schedule) ↔ Representable attempts baseMs := by
  simp only [exactSchedule_iff, exists_eq_right]
  exact computeBackoffSchedule_eq_some_iff

/-- The second of two attempts after the longest base panics in a build with overflow
checks, and comes out shorter than the first in one without. -/
theorem not_exactSchedule_longest :
    (¬ ∃ schedule, computeBackoffSchedule true 2 18446744073709551615 = some schedule ∧
      ExactSchedule 2 18446744073709551615 schedule) ∧
    ¬ ∃ schedule, computeBackoffSchedule false 2 18446744073709551615 = some schedule ∧
      ExactSchedule 2 18446744073709551615 schedule := by
  refine ⟨?_, ?_⟩
  · rintro ⟨schedule, hrun, -⟩
    exact nomatch hrun
  · rintro ⟨schedule, hrun, hexact⟩
    have hwrapped : schedule = [18446744073709551615, 18446744073709551614] :=
      (Option.some.inj hrun).symm
    have hshorter := hexact.nondecreasing
    rw [hwrapped] at hshorter
    exact absurd hshorter (by decide)

end GreenticConformance.Policy
