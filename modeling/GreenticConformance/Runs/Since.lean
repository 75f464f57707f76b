import GreenticConformance.Runs.Machine

/-!
# Past-time properties of runs

`Since p q t` says that some event of `t` satisfied `p` and that every event
after it satisfied `q`. A state predicate that every step sets on `p`, keeps on
`q` and otherwise clears is exactly such a property of the past
(`Machine.holds_iff_since`), which turns a statement about a mutable store into
a statement about the history of requests.
-/

namespace Runs

variable {ε : Type*} {p p' q q' : ε → Prop} {t : List ε}

/-! ## Pairs of events -/

/-- A relation holds along `t` when it holds between any two positions. -/
theorem pairwise_of_splits {R : ε → ε → Prop}
    (h : ∀ t₁ x t₂ y t₃, t = t₁ ++ x :: t₂ ++ y :: t₃ → R x y) : t.Pairwise R := by
  induction t with
  | nil => exact List.Pairwise.nil
  | cons a t ih =>
    refine List.pairwise_cons.mpr ⟨fun b hb => ?_, ih fun t₁ x t₂ y t₃ ht => ?_⟩
    · obtain ⟨t₂, t₃, rfl⟩ := List.append_of_mem hb
      exact h [] a t₂ b t₃ rfl
    · exact h (a :: t₁) x t₂ y t₃ (by rw [ht]; rfl)

theorem rel_of_mem_after {R : ε → ε → Prop} {t₁ t₂ : List ε} {x y : ε}
    (h : (t₁ ++ x :: t₂).Pairwise R) (hy : y ∈ t₂) : R x y :=
  (List.pairwise_cons.mp (List.pairwise_append.mp h).2.1).1 y hy

/-! ## Since -/

/-- Some event satisfied `p`, and every later one satisfied `q`. -/
def Since (p q : ε → Prop) (t : List ε) : Prop :=
  ∃ t₁ e t₂, t = t₁ ++ e :: t₂ ∧ p e ∧ ∀ x ∈ t₂, q x

@[simp] theorem since_nil : ¬ Since p q [] := by
  intro h
  obtain ⟨t₁, e, t₂, h, -⟩ := h
  exact List.append_ne_nil_of_right_ne_nil t₁ (List.cons_ne_nil e t₂) h.symm

theorem since_concat {e : ε} : Since p q (t ++ [e]) ↔ p e ∨ (q e ∧ Since p q t) := by
  constructor
  · intro h
    obtain ⟨t₁, x, t₂, h, hp, hq⟩ := h
    rcases List.eq_nil_or_concat t₂ with rfl | ⟨t₂, y, rfl⟩
    · obtain ⟨-, rfl⟩ := List.append_singleton_inj.mp h
      exact .inl hp
    · rw [List.concat_eq_append, ← List.cons_append, ← List.append_assoc] at h
      obtain ⟨rfl, rfl⟩ := List.append_singleton_inj.mp h
      exact .inr ⟨hq _ (by simp), t₁, x, t₂, rfl, hp, fun z hz => hq z (by simp [hz])⟩
  · rintro (hp | ⟨hq, t₁, x, t₂, rfl, hp, h⟩)
    · exact ⟨t, e, [], rfl, hp, by simp⟩
    · refine ⟨t₁, x, t₂ ++ [e], by simp, hp, fun z hz => ?_⟩
      rcases List.mem_append.mp hz with hz | hz
      · exact h z hz
      · exact List.mem_singleton.mp hz ▸ hq

theorem Since.mono (hp : ∀ e, p e → p' e) (hq : ∀ e, q e → q' e) (h : Since p q t) :
    Since p' q' t := by
  obtain ⟨t₁, e, t₂, ht, he, h⟩ := h
  exact ⟨t₁, e, t₂, ht, hp e he, fun x hx => hq x (h x hx)⟩

theorem Since.exists_mem (h : Since p q t) : ∃ e ∈ t, p e := by
  obtain ⟨t₁, e, t₂, rfl, he, -⟩ := h
  exact ⟨e, by simp, he⟩

/-- What earlier events imply about later ones may be added to what held
since. -/
theorem Since.strengthen {R : ε → ε → Prop} (hR : t.Pairwise R)
    (hq : ∀ x y, R x y → p x → q y → q' y) (h : Since p q t) : Since p q' t := by
  obtain ⟨t₁, e, t₂, rfl, he, h⟩ := h
  exact ⟨t₁, e, t₂, rfl, he, fun x hx => hq e x (rel_of_mem_after hR hx) he (h x hx)⟩

/-- What did not start in the last part of a history started before it and held
throughout that part. -/
theorem Since.of_append {t₁ t₂ : List ε} (h : Since p q (t₁ ++ t₂)) (hp : ∀ e ∈ t₂, ¬ p e) :
    Since p q t₁ ∧ ∀ e ∈ t₂, q e := by
  induction t₂ using List.reverseRecOn with
  | nil => exact ⟨by simpa using h, by simp⟩
  | append_singleton t₂ e ih =>
    rw [← List.append_assoc, since_concat] at h
    rcases h with he | ⟨hq, h⟩
    · exact absurd he (hp e (by simp))
    · obtain ⟨h, hall⟩ := ih h fun x hx => hp x (by simp [hx])
      refine ⟨h, fun x hx => ?_⟩
      rcases List.mem_append.mp hx with hx | hx
      · exact hall x hx
      · exact List.mem_singleton.mp hx ▸ hq

/-- What an event neither starts nor keeps started after it. -/
theorem Since.after {t₁ t₂ : List ε} {e : ε} (h : Since p q (t₁ ++ e :: t₂)) (hp : ¬ p e)
    (hq : ¬ q e) : Since p q t₂ := by
  induction t₂ using List.reverseRecOn with
  | nil =>
    rcases since_concat.mp h with h | h
    · exact absurd h hp
    · exact absurd h.1 hq
  | append_singleton t₂ x ih =>
    rw [← List.cons_append, ← List.append_assoc, since_concat] at h
    rw [since_concat]
    exact h.imp_right fun h => ⟨h.1, ih h.2⟩

theorem Since.before {t₂ : List ε} (h : Since p q t₂) (t₁ : List ε) : Since p q (t₁ ++ t₂) := by
  obtain ⟨u, e, v, rfl, he, hv⟩ := h
  exact ⟨t₁ ++ u, e, v, by simp, he, hv⟩

theorem since_congr (hp : ∀ e ∈ t, (p e ↔ p' e)) (hq : ∀ e ∈ t, (q e ↔ q' e)) :
    Since p q t ↔ Since p' q' t := by
  induction t using List.reverseRecOn with
  | nil => simp
  | append_singleton t e ih =>
    have hinit := ih (fun x hx => hp x (by simp [hx])) fun x hx => hq x (by simp [hx])
    rw [since_concat, since_concat, hp e (by simp), hq e (by simp), hinit]

/-- The event that everything has held since may be taken to be the latest of
its kind. -/
theorem since_iff_latest : Since p q t ↔ Since p (fun e => ¬ p e ∧ q e) t := by
  induction t using List.reverseRecOn with
  | nil => simp
  | append_singleton t e ih =>
    rw [since_concat, since_concat, ih]
    by_cases hp : p e
    · simp [hp]
    · simp [hp]

/-- Once some event satisfied `p`, the negation of `Since` is a `Since` as well:
`q` failed after the latest `p`. -/
theorem not_since_iff (h : ∃ e ∈ t, p e) :
    ¬ Since p q t ↔ Since (fun e => ¬ p e ∧ ¬ q e) (fun e => ¬ p e) t := by
  induction t using List.reverseRecOn with
  | nil => simp at h
  | append_singleton t e ih =>
    rw [since_concat, since_concat]
    by_cases hp : p e
    · simp [hp]
    · have hinit : ∃ x ∈ t, p x := by
        obtain ⟨x, hx, hpx⟩ := h
        rcases List.mem_append.mp hx with hx | hx
        · exact ⟨x, hx, hpx⟩
        · exact absurd (List.mem_singleton.mp hx ▸ hpx) hp
      by_cases hq : q e
      · simp [hp, hq, ih hinit]
      · simp [hp, hq]

/-! ## Runs -/

/-- A step that makes a state predicate false neither sets it nor keeps it where it
holds. -/
theorem cleared_iff {sets keeps before after : Prop} (hafter : ¬ after) (hsets : ¬ sets)
    (hkeeps : keeps → ¬ before) : after ↔ sets ∨ (keeps ∧ before) := by
  refine iff_of_false hafter ?_
  rintro (h | ⟨hkeep, hbefore⟩)
  · exact hsets h
  · exact hkeeps hkeep hbefore

namespace Machine

variable {σ ι ο : Type*} {M : Machine σ ι ο} {F : σ → Prop} {p q : Event σ ι ο → Prop}

/-- **States remember the past**: if `F` is false at first, and every event of
the run makes it true on `p`, keeps it on `q` and otherwise makes it false,
then `F` holds after the run exactly when `q` held since some `p`. -/
theorem holds_iff_since {s : σ} (h0 : ¬ F s) {is : List ι}
    (hF : ∀ e ∈ M.trace s is, (F e.post ↔ p e ∨ (q e ∧ F e.pre))) :
    F (M.run s is) ↔ Since p q (M.trace s is) := by
  induction is using List.reverseRecOn with
  | nil => simp [h0]
  | append_singleton is i ih =>
    have hlast := hF (M.event (M.run s is) i) (by simp [trace_concat])
    have hinit := ih fun e he => hF e (by simp [trace_concat, he])
    rw [run_concat, trace_concat, since_concat, hlast, event_pre, hinit]

/-- The same for the state an event of the run starts from. -/
theorem holds_pre_iff_since {s : σ} (h0 : ¬ F s) {is : List ι} {past rest : List (Event σ ι ο)}
    {e : Event σ ι ο} (ht : M.trace s is = past ++ e :: rest)
    (hF : ∀ x ∈ past, (F x.post ↔ p x ∨ (q x ∧ F x.pre))) : F e.pre ↔ Since p q past := by
  obtain ⟨is₁, i, is₂, -, rfl, rfl, -⟩ := M.trace_eq_append_cons ht
  exact holds_iff_since h0 hF

end Machine

end Runs
