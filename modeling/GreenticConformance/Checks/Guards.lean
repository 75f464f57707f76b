import Mathlib.Data.Finset.Basic
import Mathlib.Data.List.Forall2
import Mathlib.Logic.Unique
import Mathlib.Tactic.Common

/-!
# Checks that stop at the first failure

A validator runs checks in order and returns at the first that fails. Whether it
accepts does not depend on the order: it accepts when every check passes. The
lemmas here read that off the code, one for each way two checks are put together.

## Main definitions

- `failIf`, `okOr`, `checkIf` — early returns, and a check under a condition
- `forDistinct` — a loop that also refuses a repeated key
- `FreshKeys` — no key is repeated or was seen before

## Main results

- `bind_eq_ok`, `forM_eq_ok`, `forDistinct_eq_ok` — what an accepted sequence and
  an accepted loop have passed
- `exists_forall₂_iff` — when a loop that collects results has any
-/

namespace Checks

universe u

variable {ε ε' κ : Type*} {α β : Type u}

/-! ## Early returns -/

/-- `if c { return Err(e) }`. -/
def failIf (c : Prop) [Decidable c] (e : ε) : Except ε Unit :=
  if c then .error e else .ok ()

/-- `o.ok_or_else(|| e)`. -/
def okOr (o : Option α) (e : ε) : Except ε α :=
  match o with
  | some a => .ok a
  | none => .error e

/-- `if c { r?; }`. -/
def checkIf (c : Bool) (r : Except ε Unit) : Except ε Unit :=
  if c then r else .ok ()

@[simp] theorem failIf_eq_ok {c : Prop} [Decidable c] {e : ε} {u : Unit} :
    failIf c e = .ok u ↔ ¬ c := by
  unfold failIf
  by_cases h : c
  · simp [h]
  · simp [h]

@[simp] theorem checkIf_eq_ok {c : Bool} {r : Except ε Unit} :
    checkIf c r = .ok () ↔ (c = true → r = .ok ()) := by
  cases c <;> simp [checkIf]

@[simp] theorem okOr_eq_ok {o : Option α} {e : ε} {a : α} : okOr o e = .ok a ↔ o = some a := by
  cases o <;> simp [okOr]

@[simp] theorem mapError_eq_ok {r : Except ε α} {f : ε → ε'} {a : α} :
    r.mapError f = .ok a ↔ r = .ok a := by
  cases r <;> simp [Except.mapError]

theorem map_eq_ok {r : Except ε α} {f : α → β} {b : β} :
    r.map f = .ok b ↔ ∃ a, r = .ok a ∧ f a = b := by
  cases r <;> simp [Except.map]

/-! ## Sequences -/

theorem bind_eq_ok {r : Except ε α} {f : α → Except ε β} {b : β} :
    (r >>= f) = .ok b ↔ ∃ a, r = .ok a ∧ f a = .ok b := by
  cases r with
  | error e => simp [bind, Except.bind]
  | ok a => simp [bind, Except.bind]

theorem ok_bind {f : α → Except ε β} {a : α} : (Except.ok a >>= f) = f a := rfl

theorem error_bind {f : α → Except ε β} {e : ε} : (Except.error e >>= f) = .error e := rfl

/-- A check has one way to pass. -/
theorem exists_unit {p : Unit → Prop} : (∃ u, p u) ↔ p () :=
  Unique.exists_iff

@[simp] theorem pure_eq_ok {a b : α} : (pure a : Except ε α) = .ok b ↔ a = b := by
  simp [pure, Except.pure]

/-! ## Loops -/

/-- A loop of checks accepts when every element passes. -/
theorem forM_eq_ok {f : α → Except ε Unit} {xs : List α} :
    xs.forM f = .ok () ↔ ∀ x ∈ xs, f x = .ok () := by
  induction xs with
  | nil => exact iff_of_true rfl (by simp)
  | cons x xs ih =>
    change (f x >>= fun _ => xs.forM f) = .ok () ↔ _
    rw [bind_eq_ok, exists_unit, ih, List.forall_mem_cons]

/-- A loop that collects what a function gives for each element that passes a test. -/
theorem mapM_eq_ok {g : α → Except ε β} {p : α → Prop} {f : α → β}
    (hg : ∀ x y, g x = .ok y ↔ p x ∧ y = f x) {xs : List α} {ys : List β} :
    xs.mapM g = .ok ys ↔ (∀ x ∈ xs, p x) ∧ ys = xs.map f := by
  induction xs generalizing ys with
  | nil =>
    rw [List.mapM_nil, pure_eq_ok]
    simp [eq_comm]
  | cons x xs ih =>
    simp only [List.mapM_cons, bind_eq_ok, pure_eq_ok, hg, ih, List.forall_mem_cons, List.map_cons]
    constructor
    · intro h
      obtain ⟨_, ⟨hx, rfl⟩, _, ⟨hxs, rfl⟩, rfl⟩ := h
      exact ⟨⟨hx, hxs⟩, rfl⟩
    · intro h
      obtain ⟨⟨hx, hxs⟩, rfl⟩ := h
      exact ⟨_, ⟨hx, rfl⟩, _, ⟨hxs, rfl⟩, rfl⟩

/-- A loop that collects one value an element, value by value. -/
theorem mapM_eq_ok_iff_forall₂ {g : α → Except ε β} {xs : List α} {ys : List β} :
    xs.mapM g = .ok ys ↔ List.Forall₂ (fun x y => g x = .ok y) xs ys := by
  induction xs generalizing ys with
  | nil =>
    rw [List.mapM_nil, pure_eq_ok, List.forall₂_nil_left_iff]
    exact eq_comm
  | cons x xs ih =>
    simp only [List.mapM_cons, bind_eq_ok, pure_eq_ok, ih, List.forall₂_cons_left_iff]
    constructor
    · intro h
      obtain ⟨y, hxy, ys, hall, rfl⟩ := h
      exact ⟨y, ys, hxy, hall, rfl⟩
    · intro h
      obtain ⟨y, ys, hxy, hall, rfl⟩ := h
      exact ⟨y, hxy, ys, hall, rfl⟩

/-- A loop that may panic gives the values of a function when every turn gives its
value. -/
theorem mapM_eq_some_map {f : α → Option β} {g : α → β} {xs : List α} :
    xs.mapM f = some (xs.map g) ↔ ∀ x ∈ xs, f x = some (g x) := by
  induction xs with
  | nil => simp
  | cons x xs ih =>
    rw [List.mapM_cons, List.map_cons, List.forall_mem_cons, ← ih]
    cases f x with
    | none => simp
    | some y =>
      cases xs.mapM f with
      | none => simp
      | some ys => simp

/-- A loop that collects one result an element has a result when every element
has one. -/
theorem exists_forall₂_iff {R : α → β → Prop} {xs : List α} :
    (∃ ys, List.Forall₂ R xs ys) ↔ ∀ x ∈ xs, ∃ y, R x y := by
  constructor
  · intro h
    obtain ⟨ys, hall⟩ := h
    induction hall with
    | nil => simp
    | cons hxy _ ih =>
      rw [List.forall_mem_cons]
      exact ⟨⟨_, hxy⟩, ih⟩
  · intro h
    induction xs with
    | nil => exact ⟨[], .nil⟩
    | cons x xs ih =>
      rw [List.forall_mem_cons] at h
      obtain ⟨y, hxy⟩ := h.1
      obtain ⟨ys, hall⟩ := ih h.2
      exact ⟨y :: ys, .cons hxy hall⟩

section Kept

variable {γ δ : Type*} {f : γ → Option δ} {xs : List γ}

/-- A list of which nothing is filtered out keeps its places. -/
theorem getElem?_filterMap_of_forall (h : ∀ x ∈ xs, f x ≠ none) (i : ℕ) :
    (xs.filterMap f)[i]? = xs[i]?.bind f := by
  induction xs generalizing i with
  | nil => simp
  | cons x xs ih =>
    rw [List.forall_mem_cons] at h
    obtain ⟨y, hy⟩ := Option.ne_none_iff_exists'.mp h.1
    rw [List.filterMap_cons_some hy]
    cases i with
    | zero => simp [hy]
    | succ i => simpa using ih h.2 i

theorem forall₂_filterMap_left {ζ : Type*} {R : δ → ζ → Prop} {zs : List ζ}
    (h : ∀ x ∈ xs, f x ≠ none) :
    List.Forall₂ R (xs.filterMap f) zs ↔
      List.Forall₂ (fun x z => ∃ y, f x = some y ∧ R y z) xs zs := by
  induction xs generalizing zs with
  | nil => simp
  | cons x xs ih =>
    rw [List.forall_mem_cons] at h
    obtain ⟨y, hy⟩ := Option.ne_none_iff_exists'.mp h.1
    rw [List.filterMap_cons_some hy]
    simp [List.forall₂_cons_left_iff, hy, ih h.2]

end Kept

section Distinct

variable [DecidableEq κ] (key : α → κ) (duplicate : α → ε) (before after : α → Except ε Unit)

/-- `for x in xs { before(x)?; if !seen.insert(key(x)) { return Err(duplicate(x)) }
after(x)?; }`. -/
def forDistinct (seen : Finset κ) : List α → Except ε Unit
  | [] => .ok ()
  | x :: xs => do
    before x
    failIf (key x ∈ seen) (duplicate x)
    after x
    forDistinct (insert (key x) seen) xs

/-- No key of the list is repeated or was seen before it. -/
def FreshKeys (key : α → κ) (seen : Set κ) (xs : List α) : Prop :=
  (∀ x ∈ xs, key x ∉ seen) ∧ (xs.map key).Nodup

omit [DecidableEq κ] in
@[simp] theorem freshKeys_nil {seen : Set κ} : FreshKeys key seen [] := by
  simp [FreshKeys]

omit [DecidableEq κ] in
/-- A loop that remembers the keys it has seen tests one key at a time. -/
theorem freshKeys_cons {seen : Set κ} {x : α} {xs : List α} :
    FreshKeys key seen (x :: xs) ↔ key x ∉ seen ∧ FreshKeys key (insert (key x) seen) xs := by
  simp only [FreshKeys, List.forall_mem_cons, List.map_cons, List.nodup_cons,
    Set.mem_insert_iff, not_or]
  constructor
  · intro h
    obtain ⟨⟨hseen, hall⟩, hnew, hnodup⟩ := h
    refine ⟨hseen, fun y hy => ⟨?_, hall y hy⟩, hnodup⟩
    intro hkey
    exact hnew (hkey ▸ List.mem_map_of_mem hy)
  · intro h
    obtain ⟨hseen, hall, hnodup⟩ := h
    refine ⟨⟨hseen, fun y hy => (hall y hy).2⟩, ?_, hnodup⟩
    intro hmem
    obtain ⟨y, hy, hkey⟩ := List.mem_map.mp hmem
    exact (hall y hy).1 hkey

omit [DecidableEq κ] in
/-- Nothing is seen before the first element of a list. -/
theorem freshKeys_empty {xs : List α} : FreshKeys key ∅ xs ↔ (xs.map key).Nodup := by
  simp [FreshKeys]

/-- The loop accepts when every element passes, and no key is repeated or was
there before. -/
theorem forDistinct_eq_ok {seen : Finset κ} {xs : List α} :
    forDistinct key duplicate before after seen xs = .ok () ↔
      (∀ x ∈ xs, before x = .ok () ∧ after x = .ok () ∧ key x ∉ seen) ∧ (xs.map key).Nodup := by
  have hfresh : forDistinct key duplicate before after seen xs = .ok () ↔
      (∀ x ∈ xs, before x = .ok () ∧ after x = .ok ()) ∧ FreshKeys key ↑seen xs := by
    induction xs generalizing seen with
    | nil => simp [forDistinct]
    | cons x xs ih =>
      simp only [forDistinct, bind_eq_ok, exists_unit, failIf_eq_ok, ih, List.forall_mem_cons,
        freshKeys_cons, Finset.coe_insert, Finset.mem_coe]
      tauto
  rw [hfresh, FreshKeys, ← and_assoc, ← forall₂_and]
  simp only [and_assoc, Finset.mem_coe]

end Distinct

end Checks
