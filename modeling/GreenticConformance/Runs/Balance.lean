import GreenticConformance.Runs.Ledger

/-!
# The balance of a ledger

A ledger that never issues a key twice holds as many entries as were issued less those that
were taken out while they were stored. Nothing is lost and nothing is counted twice.

## Main results

- `IsChange.card` — one event
- `Ledger.card_add_countP` — a whole run
-/

namespace Runs

section Keys

variable {K V : Type*} [DecidableEq K] {m m' : Finmap fun _ : K => V} {k : K} {v : V}

theorem keys_insert : (m.insert k v).keys = insert k m.keys := by
  ext x
  rw [Finset.mem_insert, Finmap.mem_keys, Finmap.mem_keys, Finmap.mem_insert]

theorem card_keys_insert (h : k ∉ m) : (m.insert k v).keys.card = m.keys.card + 1 := by
  rw [keys_insert, Finset.card_insert_of_notMem]
  rwa [Finmap.mem_keys]

theorem card_keys_erase (h : k ∈ m) : (m.erase k).keys.card + 1 = m.keys.card := by
  rw [Finmap.keys_erase, Finset.card_erase_add_one]
  rwa [Finmap.mem_keys]

open Classical in
/-- What one event does to the number of entries, when what it issues is new. -/
theorem IsChange.card {issues : K → V → Prop} {consumes : K → Prop}
    (h : IsChange issues consumes m m') (hnew : ∀ k v, issues k v → k ∉ m) :
    m'.keys.card + (if ∃ k, consumes k ∧ k ∈ m then 1 else 0) =
      m.keys.card + if ∃ k v, issues k v then 1 else 0 := by
  obtain ⟨⟨taken, put⟩, hi, hc, rfl⟩ := h
  -- the entries that are left before something is put in
  have hrest : ∃ rest : Finmap fun _ : K => V, (∀ x ∈ rest, x ∈ m) ∧
      rest.keys.card + (if ∃ k, consumes k ∧ k ∈ m then 1 else 0) = m.keys.card ∧
      Change.apply ⟨taken, put⟩ m = Change.apply ⟨none, put⟩ rest := by
    cases taken with
    | none => exact ⟨m, fun _ hx => hx, by simp [hc], rfl⟩
    | some t =>
      refine ⟨m.erase t, fun x hx => ((Finmap.mem_erase).mp hx).2, ?_, rfl⟩
      by_cases ht : t ∈ m
      · rw [if_pos ⟨t, (hc t).mpr rfl, ht⟩, card_keys_erase ht]
      · rw [if_neg, erase_of_lookup (Finmap.lookup_eq_none.mpr ht), Nat.add_zero]
        rintro ⟨x, hx, hmem⟩
        obtain rfl := Option.some.inj ((hc x).mp hx)
        exact ht hmem
  obtain ⟨rest, hsub, hcard, happly⟩ := hrest
  rw [happly, ← hcard]
  cases put with
  | none => simp [Change.apply, hi]
  | some kv =>
    obtain ⟨k, v⟩ := kv
    have hk : k ∉ rest := fun hmem => hnew k v ((hi k v).mpr rfl) (hsub k hmem)
    rw [if_pos (c := ∃ k v, issues k v) ⟨k, v, (hi k v).mpr rfl⟩]
    show (rest.insert k v).keys.card + _ = _
    rw [card_keys_insert hk]
    omega

end Keys

variable {σ ι ο K V : Type*} [DecidableEq K] {M : Machine σ ι ο}
variable {store : σ → Finmap fun _ : K => V} {issues : Event σ ι ο → K → V → Prop}
variable {consumes : Event σ ι ο → K → Prop}

open Classical in
/-- **Balance**: what is stored and what was taken are together what was issued. -/
theorem Ledger.card_add_countP (L : Ledger M store issues consumes) {s : σ} {is : List ι}
    (hfresh : FreshIssues issues (M.trace s is)) (h0 : ∀ k, (store s).lookup k = none) :
    (store (M.run s is)).keys.card +
        (M.trace s is).countP (fun e => decide (∃ k, Takes store consumes e k)) =
      (M.trace s is).countP fun e => decide (∃ k v, issues e k v) := by
  induction is using List.reverseRecOn with
  | nil =>
    have hempty : store s = ∅ := by
      apply Finmap.ext_lookup
      intro k
      rw [h0 k, Finmap.lookup_empty]
    simp [hempty]
  | append_singleton is i ih =>
    have hlast := M.trace_concat s is i
    rw [hlast] at hfresh ⊢
    have hpast : FreshIssues issues (M.trace s is) := (List.pairwise_append.mp hfresh).1
    -- what the last event issues was not issued before, so it is not stored
    have hnew : ∀ k v, issues (M.event (M.run s is) i) k v → k ∉ store (M.run s is) := by
      intro k v hi hmem
      obtain ⟨w, hw⟩ := mem_iff_lookup_eq_some.mp hmem
      obtain ⟨a, ha, hissues⟩ := ((L.lookup_iff_since hpast h0).mp hw).exists_mem
      exact (List.pairwise_append.mp hfresh).2.2 a ha _ (List.mem_singleton_self _) k w v hissues hi
    have hcard := (L.change (M.run s is) i).card hnew
    have htakes : (∃ k, Takes store consumes (M.event (M.run s is) i) k) ↔
        ∃ k, consumes (M.event (M.run s is) i) k ∧ k ∈ store (M.run s is) := by
      refine exists_congr fun k => and_congr_right fun _ => ?_
      rw [M.event_pre, ne_eq, Finmap.lookup_eq_none, not_not]
    rw [Machine.run_concat, List.countP_append, List.countP_append, List.countP_singleton,
      List.countP_singleton, ← ih hpast]
    simp only [decide_eq_true_eq, htakes]
    omega

end Runs
