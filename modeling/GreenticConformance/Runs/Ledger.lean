import GreenticConformance.Runs.Since
import Mathlib.Data.Finmap

/-!
# Stores of single-use grants

A `Ledger` is a component of a machine's state that maps keys to grants. Every
event may issue grants and may consume keys; nothing else changes the store.
When no key is issued twice, the store holds exactly the grants that were
issued and not consumed since, and a key is taken out at most once.

## Main results

- `Ledger.mem_iff_since`, `Ledger.lookup_iff_since` — the store as a property of
  the past
- `Ledger.lookup_none_of_consumed` — a consumed key stays out
- `Ledger.taken_once` — single use
-/

namespace Runs

section Finmap

variable {K V : Type*} [DecidableEq K] {m : Finmap fun _ : K => V} {k x : K} {v : V}

theorem lookup_insert_ite : (m.insert k v).lookup x = if x = k then some v else m.lookup x := by
  by_cases h : x = k
  · subst h
    rw [Finmap.lookup_insert, if_pos rfl]
  · rw [Finmap.lookup_insert_of_ne _ h, if_neg h]

theorem lookup_erase_ite : (m.erase k).lookup x = if x = k then none else m.lookup x := by
  by_cases h : x = k
  · subst h
    rw [Finmap.lookup_erase, if_pos rfl]
  · rw [Finmap.lookup_erase_ne h, if_neg h]

/-- Taking an entry out and storing another one under its key replaces it. -/
@[simp] theorem insert_erase : (m.erase k).insert k v = m.insert k v := by
  apply Finmap.ext_lookup
  intro x
  simp only [lookup_insert_ite, lookup_erase_ite]
  split <;> rfl

theorem insert_of_lookup (h : m.lookup k = some v) : m.insert k v = m := by
  apply Finmap.ext_lookup
  intro x
  rw [lookup_insert_ite]
  split
  · next hx => rw [hx, h]
  · rfl

theorem erase_of_lookup (h : m.lookup k = none) : m.erase k = m := by
  apply Finmap.ext_lookup
  intro x
  rw [lookup_erase_ite]
  split
  · next hx => rw [hx, h]
  · rfl

theorem mem_iff_lookup_eq_some : k ∈ m ↔ ∃ v, m.lookup k = some v := by
  rw [← Finmap.lookup_isSome, Option.isSome_iff_exists]

end Finmap

variable {σ ι ο K V : Type*} [DecidableEq K]

/-- What an event does to a store: it may take a key out and then put an entry
in. -/
structure Change (K V : Type*) where
  taken : Option K := none
  put : Option (K × V) := none

namespace Change

def apply (c : Change K V) (m : Finmap fun _ : K => V) : Finmap fun _ : K => V :=
  let rest := match c.taken with
    | some k => m.erase k
    | none => m
  match c.put with
  | some (k, v) => rest.insert k v
  | none => rest

theorem lookup_apply (c : Change K V) (m : Finmap fun _ : K => V) (k : K) (v : V) :
    (c.apply m).lookup k = some v ↔
      c.put = some (k, v) ∨
        ((c.taken ≠ some k ∧ ∀ w, c.put ≠ some (k, w)) ∧ m.lookup k = some v) := by
  obtain ⟨taken, put⟩ := c
  rcases put with _ | ⟨k', v'⟩ <;> rcases taken with _ | k''
  · simp [apply]
  · simp only [apply, lookup_erase_ite]
    split
    · next h => simp [h]
    · next h => simp [Ne.symm h]
  · simp only [apply, lookup_insert_ite]
    split
    · next h => simp [h]
    · next h => simp [Ne.symm h]
  · simp only [apply, lookup_insert_ite, lookup_erase_ite]
    split
    · next h => simp [h]
    · next h =>
      split
      · next h' => simp [h', Ne.symm (h' ▸ h)]
      · next h' => simp [Ne.symm h, Ne.symm h']

end Change

/-- From `m` to `m'`, exactly what is issued was put in and exactly what is
consumed was taken out. -/
def IsChange (issues : K → V → Prop) (consumes : K → Prop) (m m' : Finmap fun _ : K => V) :
    Prop :=
  ∃ c : Change K V, (∀ k v, issues k v ↔ c.put = some (k, v)) ∧
    (∀ k, consumes k ↔ c.taken = some k) ∧ m' = c.apply m

namespace IsChange

variable {issues : K → V → Prop} {consumes : K → Prop} {m m' : Finmap fun _ : K => V} {k : K}
  {v : V}

theorem lookup (h : IsChange issues consumes m m') (k : K) (v : V) :
    m'.lookup k = some v ↔
      issues k v ∨ ((¬ consumes k ∧ ∀ w, ¬ issues k w) ∧ m.lookup k = some v) := by
  obtain ⟨c, hi, hc, rfl⟩ := h
  simp only [c.lookup_apply, hi, hc, ne_eq]

/-- An entry that is neither consumed nor issued again stays. -/
theorem kept (h : IsChange issues consumes m m') (hc : ¬ consumes k) (hi : ∀ w, ¬ issues k w)
    (hl : m.lookup k = some v) : m'.lookup k = some v :=
  (h.lookup k v).mpr (.inr ⟨⟨hc, hi⟩, hl⟩)

/-- An entry that was not issued was there before, and was not consumed. -/
theorem of_post (h : IsChange issues consumes m m') (hi : ¬ issues k v)
    (hl : m'.lookup k = some v) : ¬ consumes k ∧ m.lookup k = some v := by
  rcases (h.lookup k v).mp hl with hnew | ⟨⟨hc, -⟩, hold⟩
  · exact absurd hnew hi
  · exact ⟨hc, hold⟩

theorem quiet (hi : ∀ k v, ¬ issues k v) (hc : ∀ k, ¬ consumes k) :
    IsChange issues consumes m m :=
  ⟨{}, by simp [hi], by simp [hc], rfl⟩

theorem take (hi : ∀ k v, ¬ issues k v) (hc : ∀ x, consumes x ↔ x = k) :
    IsChange issues consumes m (m.erase k) :=
  ⟨{ taken := some k }, by simp [hi], by simp [hc, eq_comm], rfl⟩

theorem put (hi : ∀ x w, issues x w ↔ x = k ∧ w = v) (hc : ∀ x, ¬ consumes x) :
    IsChange issues consumes m (m.insert k v) :=
  ⟨{ put := some (k, v) }, by simp [hi, eq_comm], by simp [hc], rfl⟩

theorem takePut {t : K} (hi : ∀ x w, issues x w ↔ x = k ∧ w = v) (hc : ∀ x, consumes x ↔ x = t) :
    IsChange issues consumes m ((m.erase t).insert k v) :=
  ⟨{ taken := some t, put := some (k, v) }, by simp [hi, eq_comm], by simp [hc, eq_comm], rfl⟩

end IsChange

/-- The component `store` of the machine's state is a ledger: every event
issues what it puts in, consumes what it takes out, and does nothing else. -/
structure Ledger (M : Machine σ ι ο) (store : σ → Finmap fun _ : K => V)
    (issues : Event σ ι ο → K → V → Prop) (consumes : Event σ ι ο → K → Prop) : Prop where
  change : ∀ s i, IsChange (issues (M.event s i)) (consumes (M.event s i)) (store s)
    (store (M.event s i).post)

/-- No key is issued twice along `t`. -/
def FreshIssues (issues : Event σ ι ο → K → V → Prop) (t : List (Event σ ι ο)) : Prop :=
  t.Pairwise fun x y => ∀ k v w, issues x k v → ¬ issues y k w

/-- The event consumes `k` while it is stored. -/
def Takes (store : σ → Finmap fun _ : K => V) (consumes : Event σ ι ο → K → Prop)
    (e : Event σ ι ο) (k : K) : Prop :=
  consumes e k ∧ (store e.pre).lookup k ≠ none

namespace Ledger

variable {M : Machine σ ι ο} {store : σ → Finmap fun _ : K => V}
  {issues : Event σ ι ο → K → V → Prop} {consumes : Event σ ι ο → K → Prop}
  (L : Ledger M store issues consumes)

include L

/-- What one event of a run does to one key. -/
theorem lookup_post {s : σ} {is : List ι} {e : Event σ ι ο} (he : e ∈ M.trace s is) (k : K)
    (v : V) : (store e.post).lookup k = some v ↔
      issues e k v ∨
        ((¬ consumes e k ∧ ∀ w, ¬ issues e k w) ∧ (store e.pre).lookup k = some v) := by
  obtain ⟨is₁, i, is₂, -, rfl⟩ := M.exists_of_mem_trace he
  exact (L.change _ i).lookup k v

/-- The keys of a ledger are the ones issued and not consumed since, however
often they are issued. -/
theorem mem_iff_since {s : σ} {k : K} (h0 : (store s).lookup k = none) (is : List ι) :
    k ∈ store (M.run s is) ↔
      Since (fun e => ∃ v, issues e k v) (fun e => ¬ consumes e k) (M.trace s is) := by
  refine M.holds_iff_since (F := fun s => k ∈ store s) ?_ fun e he => ?_
  · rw [← Finmap.lookup_eq_none]
    exact h0
  · simp only [mem_iff_lookup_eq_some, L.lookup_post he k]
    constructor
    · rintro ⟨v, hi | ⟨⟨hc, -⟩, hl⟩⟩
      · exact .inl ⟨v, hi⟩
      · exact .inr ⟨hc, v, hl⟩
    · rintro (⟨v, hi⟩ | ⟨hc, v, hl⟩)
      · exact ⟨v, .inl hi⟩
      · by_cases hn : ∃ w, issues e k w
        · obtain ⟨w, hw⟩ := hn
          exact ⟨w, .inl hw⟩
        · exact ⟨v, .inr ⟨⟨hc, fun w hw => hn ⟨w, hw⟩⟩, hl⟩⟩

variable {s : σ} {is : List ι} (hfresh : FreshIssues issues (M.trace s is))
  (h0 : ∀ k, (store s).lookup k = none)

include hfresh h0

/-- **A ledger remembers**: with fresh keys, it holds what was issued and not
consumed since. -/
theorem lookup_iff_since {k : K} {v : V} :
    (store (M.run s is)).lookup k = some v ↔
      Since (fun e => issues e k v) (fun e => ¬ consumes e k) (M.trace s is) := by
  have hsince := M.holds_iff_since (F := fun s => (store s).lookup k = some v) (by simp [h0 k])
    fun e (he : e ∈ M.trace s is) => L.lookup_post he k v
  rw [hsince]
  constructor
  · exact Since.mono (fun _ h => h) (fun _ h => h.1)
  · exact Since.strengthen hfresh fun x y hxy hx hy => ⟨hy, fun w => hxy k v w hx⟩

/-- The store an event starts from, in terms of the events before it. -/
theorem lookup_pre_iff_since {k : K} {v : V} {past rest : List (Event σ ι ο)} {e : Event σ ι ο}
    (ht : M.trace s is = past ++ e :: rest) :
    (store e.pre).lookup k = some v ↔
      Since (fun e => issues e k v) (fun e => ¬ consumes e k) past := by
  obtain ⟨is₁, i, is₂, -, rfl, rfl, -⟩ := M.trace_eq_append_cons ht
  rw [ht] at hfresh
  exact L.lookup_iff_since (List.pairwise_append.mp hfresh).1 h0

/-- A key that was issued and then consumed stays out of the store. -/
theorem lookup_none_of_consumed {k : K} {v : V} {t₁ t₂ : List (Event σ ι ο)} {a x : Event σ ι ο}
    (ht : M.trace s is = t₁ ++ x :: t₂) (ha : a ∈ t₁) (hi : issues a k v) (hx : consumes x k) :
    (store (M.run s is)).lookup k = none := by
  rw [Option.eq_none_iff_forall_ne_some]
  intro w hw
  rw [L.lookup_iff_since hfresh h0, ht] at hw
  rw [ht] at hfresh
  -- no event from `x` on issues the key again
  have hlater : ∀ e ∈ x :: t₂, ¬ issues e k w :=
    fun e he => (List.pairwise_append.mp hfresh).2.2 a ha e he k v w hi
  exact (hw.of_append hlater).2 x (by simp) hx

/-- The same for the store a later event starts from. -/
theorem lookup_pre_none_of_consumed {k : K} {v : V} {t₁ t₂ t₃ : List (Event σ ι ο)}
    {a x y : Event σ ι ο} (ht : M.trace s is = t₁ ++ x :: t₂ ++ y :: t₃) (ha : a ∈ t₁)
    (hi : issues a k v) (hx : consumes x k) : (store y.pre).lookup k = none := by
  obtain ⟨is₁, i, is₂, -, h₁, rfl, -⟩ := M.trace_eq_append_cons ht
  rw [ht] at hfresh
  have hpast : FreshIssues issues (M.trace s is₁) := h₁ ▸ (List.pairwise_append.mp hfresh).1
  exact L.lookup_none_of_consumed hpast h0 h₁ ha hi hx

/-- A stored key was issued by an event of the past. -/
theorem issued_of_lookup {k : K} {v : V} {past rest : List (Event σ ι ο)} {e : Event σ ι ο}
    (ht : M.trace s is = past ++ e :: rest) (hl : (store e.pre).lookup k = some v) :
    ∃ a ∈ past, issues a k v := by
  rw [L.lookup_pre_iff_since hfresh h0 ht] at hl
  exact hl.exists_mem

/-- A key that was taken stays out of the store. -/
theorem lookup_none_of_takes {k : K} {t₁ t₂ : List (Event σ ι ο)} {x : Event σ ι ο}
    (ht : M.trace s is = t₁ ++ x :: t₂) (hx : Takes store consumes x k) :
    (store (M.run s is)).lookup k = none := by
  obtain ⟨v, hv⟩ := Option.ne_none_iff_exists'.mp hx.2
  obtain ⟨a, ha, hi⟩ := L.issued_of_lookup hfresh h0 ht hv
  exact L.lookup_none_of_consumed hfresh h0 ht ha hi hx.1

/-- **Single use**: no two events take the same key. -/
theorem taken_once : (M.trace s is).Pairwise fun x y => ∀ k, Takes store consumes x k →
    ¬ Takes store consumes y k := by
  refine pairwise_of_splits fun t₁ x t₂ y t₃ ht k hx hy => hy.2 ?_
  obtain ⟨is₁, i, is₂, -, h₁, rfl, -⟩ := M.trace_eq_append_cons ht
  rw [ht] at hfresh
  have hpast : FreshIssues issues (M.trace s is₁) := h₁ ▸ (List.pairwise_append.mp hfresh).1
  exact L.lookup_none_of_takes hpast h0 h₁ hx

end Ledger

end Runs
