import Mathlib.Data.List.Basic
import Mathlib.Data.List.Induction
import Mathlib.Tactic.Common

/-!
# Machines that answer every input

A `Machine` is a total deterministic transition function that also produces an
output. A run is driven by a list of inputs; its `trace` records, for every
input in order, the state before it, the input, the output and the state after
it. Interleavings of concurrent callers are exactly the input lists, provided
that one call is one step.

## Main definitions

- `Machine.run` — the state after a list of inputs
- `Machine.trace` — the events of a list of inputs

## Main results

- `Machine.run_invariant` — what every step preserves holds after every run
- `Machine.run_counts` — what every step of a kind increments counts them
-/

namespace Runs

/-- A total deterministic transition function with an output. -/
structure Machine (σ ι ο : Type*) where
  step : σ → ι → ο × σ

/-- One executed step. -/
structure Event (σ ι ο : Type*) where
  pre : σ
  input : ι
  output : ο
  post : σ

namespace Machine

variable {σ ι ο : Type*} (M : Machine σ ι ο)

/-- The event of feeding `i` to the machine in state `s`. -/
def event (s : σ) (i : ι) : Event σ ι ο :=
  ⟨s, i, (M.step s i).1, (M.step s i).2⟩

@[simp] theorem event_pre (s : σ) (i : ι) : (M.event s i).pre = s := rfl

@[simp] theorem event_input (s : σ) (i : ι) : (M.event s i).input = i := rfl

/-- The state after a list of inputs. -/
def run (s : σ) : List ι → σ
  | [] => s
  | i :: is => run (M.step s i).2 is

/-- The events of a list of inputs, oldest first. -/
def trace (s : σ) : List ι → List (Event σ ι ο)
  | [] => []
  | i :: is => M.event s i :: trace (M.step s i).2 is

@[simp] theorem run_nil (s : σ) : M.run s [] = s := rfl

@[simp] theorem run_cons (s : σ) (i : ι) (is : List ι) :
    M.run s (i :: is) = M.run (M.event s i).post is := rfl

@[simp] theorem trace_nil (s : σ) : M.trace s [] = [] := rfl

@[simp] theorem trace_cons (s : σ) (i : ι) (is : List ι) :
    M.trace s (i :: is) = M.event s i :: M.trace (M.event s i).post is := rfl

theorem run_append (s : σ) (is js : List ι) :
    M.run s (is ++ js) = M.run (M.run s is) js := by
  induction is generalizing s with
  | nil => rfl
  | cons i is ih => exact ih _

theorem trace_append (s : σ) (is js : List ι) :
    M.trace s (is ++ js) = M.trace s is ++ M.trace (M.run s is) js := by
  induction is generalizing s with
  | nil => rfl
  | cons i is ih => simp only [List.cons_append, trace_cons, run_cons, ih]

theorem run_concat (s : σ) (is : List ι) (i : ι) :
    M.run s (is ++ [i]) = (M.event (M.run s is) i).post := by
  rw [run_append]; rfl

theorem trace_concat (s : σ) (is : List ι) (i : ι) :
    M.trace s (is ++ [i]) = M.trace s is ++ [M.event (M.run s is) i] := by
  rw [trace_append]; rfl

/-- Splitting a trace splits the inputs that drove it. -/
theorem trace_eq_append {s : σ} {is : List ι} {t₁ t₂ : List (Event σ ι ο)}
    (h : M.trace s is = t₁ ++ t₂) :
    ∃ is₁ is₂, is = is₁ ++ is₂ ∧ M.trace s is₁ = t₁ ∧ M.trace (M.run s is₁) is₂ = t₂ := by
  induction t₁ generalizing s is with
  | nil => exact ⟨[], is, rfl, rfl, h⟩
  | cons e t₁ ih =>
    cases is with
    | nil => cases h
    | cons i is =>
      obtain ⟨he, ht⟩ := List.cons.inj h
      obtain ⟨is₁, is₂, rfl, h₁, h₂⟩ := ih ht
      exact ⟨i :: is₁, is₂, rfl, congrArg₂ List.cons he h₁, h₂⟩

/-- An event of a trace, with the runs before and after it. -/
theorem trace_eq_append_cons {s : σ} {is : List ι} {t₁ t₂ : List (Event σ ι ο)}
    {e : Event σ ι ο} (h : M.trace s is = t₁ ++ e :: t₂) :
    ∃ is₁ i is₂, is = is₁ ++ i :: is₂ ∧ M.trace s is₁ = t₁ ∧
      e = M.event (M.run s is₁) i ∧ M.trace e.post is₂ = t₂ := by
  obtain ⟨is₁, js, rfl, h₁, h₂⟩ := M.trace_eq_append h
  cases js with
  | nil => cases h₂
  | cons i is₂ =>
    obtain ⟨rfl, h₃⟩ := List.cons.inj h₂
    exact ⟨is₁, i, is₂, rfl, h₁, rfl, h₃⟩

/-- Every event of a trace is a step of the machine from a state of the run. -/
theorem exists_of_mem_trace {s : σ} {is : List ι} {e : Event σ ι ο}
    (h : e ∈ M.trace s is) :
    ∃ is₁ i is₂, is = is₁ ++ i :: is₂ ∧ e = M.event (M.run s is₁) i := by
  obtain ⟨t₁, t₂, ht⟩ := List.append_of_mem h
  obtain ⟨is₁, i, is₂, his, -, he, -⟩ := M.trace_eq_append_cons ht
  exact ⟨is₁, i, is₂, his, he⟩

theorem mem_trace_of_eq {s : σ} {is : List ι} {t₁ t₂ : List (Event σ ι ο)} {e : Event σ ι ο}
    (h : M.trace s is = t₁ ++ e :: t₂) : e ∈ M.trace s is := by
  rw [h]
  simp

/-- The inputs of a trace are the inputs that drove it. -/
theorem map_input_trace (s : σ) (is : List ι) : (M.trace s is).map Event.input = is := by
  induction is generalizing s with
  | nil => rfl
  | cons i is ih => rw [trace_cons, List.map_cons, ih, event_input]

theorem input_mem_of_mem_trace {s : σ} {is : List ι} {e : Event σ ι ο} (h : e ∈ M.trace s is) :
    e.input ∈ is := by
  rw [← M.map_input_trace s is]
  exact List.mem_map_of_mem h

/-- What inputs never repeat, events never repeat. -/
theorem pairwise_trace_of_nodup {α : Type*} {f : ι → α} {is : List ι} (h : (is.map f).Nodup)
    (s : σ) : (M.trace s is).Pairwise fun x y => f x.input ≠ f y.input := by
  rw [← M.map_input_trace s is, List.map_map] at h
  exact List.pairwise_map.mp h

section Invariant

variable {M} {I : σ → Prop} (hI : ∀ s i, I s → I (M.event s i).post)

include hI

/-- What every step preserves holds after every run. -/
theorem run_invariant {s : σ} (hs : I s) (is : List ι) : I (M.run s is) := by
  induction is generalizing s with
  | nil => exact hs
  | cons i is ih => exact ih (hI s i hs)

/-- Every event of a run starts in a state that satisfies the invariant. -/
theorem pre_invariant {s : σ} (hs : I s) {is : List ι} {e : Event σ ι ο}
    (he : e ∈ M.trace s is) : I e.pre ∧ ∃ i, e = M.event e.pre i := by
  obtain ⟨is₁, i, is₂, -, rfl⟩ := M.exists_of_mem_trace he
  exact ⟨run_invariant hI hs is₁, i, rfl⟩

end Invariant

/-- What every step of one run preserves holds before and after each of its
events. -/
theorem trace_invariant {I : σ → Prop} {s : σ} {is : List ι}
    (hI : ∀ e ∈ M.trace s is, I e.pre → I e.post) (hs : I s) {e : Event σ ι ο}
    (he : e ∈ M.trace s is) : I e.pre ∧ I e.post := by
  induction is generalizing s with
  | nil => simp at he
  | cons i is ih =>
    have hpost : I (M.event s i).post := hI _ (by simp) hs
    rw [trace_cons] at he
    rcases List.mem_cons.mp he with rfl | he
    · exact ⟨hs, hpost⟩
    · exact ih (fun x hx => hI x (by simp [hx])) hpost he

/-- A state that counts some events: after a run it has counted those of the run. -/
theorem run_counts {F : ℕ → σ → Prop} {p : Event σ ι ο → Prop} [DecidablePred p] {s : σ}
    {is : List ι} (hF : ∀ e ∈ M.trace s is, ∀ n, F n e.pre → F (if p e then n + 1 else n) e.post)
    {n : ℕ} (hs : F n s) : F (n + (M.trace s is).countP fun e => p e) (M.run s is) := by
  induction is generalizing s n with
  | nil => simpa using hs
  | cons i is ih =>
    have hpost := hF (M.event s i) (by simp) n hs
    have hrest := ih (fun e he => hF e (by simp [he])) hpost
    rw [run_cons, trace_cons, List.countP_cons]
    by_cases hp : p (M.event s i)
    · rw [if_pos hp] at hrest
      simpa [hp, Nat.add_assoc, Nat.add_comm 1] using hrest
    · rw [if_neg hp] at hrest
      simpa [hp] using hrest

/-- The machine that is told by name what to do. -/
def comap {κ : Type*} (f : κ → ι) : Machine σ κ ο where
  step s k := M.step s (f k)

theorem run_comap {κ : Type*} (f : κ → ι) (s : σ) (ks : List κ) :
    (M.comap f).run s ks = M.run s (ks.map f) := by
  induction ks generalizing s with
  | nil => rfl
  | cons k ks ih => exact ih _

theorem trace_comap {κ : Type*} (f : κ → ι) (s : σ) (ks : List κ) :
    ((M.comap f).trace s ks).map (fun e => Event.mk e.pre (f e.input) e.output e.post) =
      M.trace s (ks.map f) := by
  induction ks generalizing s with
  | nil => rfl
  | cons k ks ih => exact congrArg (_ :: ·) (ih _)

end Machine

end Runs
