import Mathlib.Tactic.Common

/-!
# Programs that may raise, seen from outside

A program in a language with exceptions asks an environment questions. What matters
of it is whether it returns, what it returns or raises, and the log of what it did.
A loop that may go on forever is given fuel; more fuel only adds outcomes.

## Main definitions

- `Logged` — programs, a monad
- `Logged.Returns` — a program ends with an outcome and a log
- `Logged.Ends`, `Logged.value` — an outcome without the log
- `Logged.Logs` — a program logs such entries only
- `Logged.Extends` — a program returns whatever another one does

## Main results

- `Logged.returns_bind_ok`, `Logged.returns_catching_ok` — the log of a sequence and
  of a handler
- `Logged.Extends.bind`, `Logged.Extends.catching` — more fuel for the parts is more
  fuel for the whole
-/

namespace Runs

/-- The outcome and the log of a program, if it returns. -/
def Logged (ω ε α : Type) : Type := Option (Except ε α × List ω)

namespace Logged

variable {ω ε α β : Type}

/-! ## Programs -/

/-- The program ends, with this outcome and this log. -/
def Returns (x : Logged ω ε α) (r : Except ε α) (t : List ω) : Prop :=
  match x with
  | none => False
  | some (r', t') => r' = r ∧ t' = t

/-- Never returns. -/
def stall : Logged ω ε α := none

/-- Returns or raises, without doing anything. -/
def result (r : Except ε α) : Logged ω ε α := some (r, [])

def raise (e : ε) : Logged ω ε α := result (.error e)

/-- Logs an entry. -/
def note (w : ω) : Logged ω ε Unit := some (.ok (), [w])

/-- Logs a question with its answer, and gives the answer back. -/
def ask (w : ω) (reply : Except ε α) : Logged ω ε α := some (reply, [w])

/-- What a program goes on to do after a log. -/
def after (t : List ω) : Logged ω ε α → Logged ω ε α
  | none => none
  | some (r, t') => some (r, t ++ t')

instance : Monad (Logged ω ε) where
  pure a := result (.ok a)
  bind x f :=
    match x with
    | none => none
    | some (.error e, t) => some (.error e, t)
    | some (.ok a, t) => after t (f a)

/-- `try: x except e: handler(e)`. -/
def catching (x : Logged ω ε α) (handler : ε → Logged ω ε α) : Logged ω ε α :=
  match x with
  | none => none
  | some (.error e, t) => after t (handler e)
  | some (.ok a, t) => some (.ok a, t)

/-! ## Outcomes and logs -/

variable {x y : Logged ω ε α} {f g : α → Logged ω ε β} {r : Except ε α} {t : List ω}

theorem Returns.unique {r' : Except ε α} {t' : List ω} (h : x.Returns r t) (h' : x.Returns r' t') :
    r = r' ∧ t = t' := by
  match x with
  | some (_, _) => exact ⟨h.1.symm.trans h'.1, h.2.symm.trans h'.2⟩

@[simp] theorem not_returns_stall : ¬ (stall : Logged ω ε α).Returns r t := id

@[simp] theorem returns_result {r' : Except ε α} :
    (result r' : Logged ω ε α).Returns r t ↔ r' = r ∧ t = [] :=
  and_congr_right fun _ => eq_comm

@[simp] theorem returns_pure {a : α} :
    (pure a : Logged ω ε α).Returns r t ↔ .ok a = r ∧ t = [] :=
  returns_result

@[simp] theorem returns_raise {e : ε} :
    (raise e : Logged ω ε α).Returns r t ↔ .error e = r ∧ t = [] :=
  returns_result

@[simp] theorem returns_ask {w : ω} {reply : Except ε α} :
    (ask w reply).Returns r t ↔ reply = r ∧ t = [w] :=
  and_congr_right fun _ => eq_comm

@[simp] theorem returns_note {w : ω} {u : Except ε Unit} :
    (note w : Logged ω ε Unit).Returns u t ↔ .ok () = u ∧ t = [w] :=
  returns_ask

theorem returns_after {t₁ : List ω} :
    (after t₁ x).Returns r t ↔ ∃ t₂, x.Returns r t₂ ∧ t = t₁ ++ t₂ := by
  match x with
  | none => simp [after, Returns]
  | some (r', t') =>
    constructor
    · intro h
      exact ⟨t', ⟨h.1, rfl⟩, h.2.symm⟩
    · intro h
      obtain ⟨t₂, hx, ht⟩ := h
      exact ⟨hx.1, by rw [ht, ← hx.2]⟩

/-- A sequence raises in its first part or goes on: the logs follow each other. -/
theorem returns_bind {s : Except ε β} :
    (x >>= f).Returns s t ↔ (∃ e, s = .error e ∧ x.Returns (.error e) t) ∨
      ∃ a t₁ t₂, x.Returns (.ok a) t₁ ∧ (f a).Returns s t₂ ∧ t = t₁ ++ t₂ := by
  match x with
  | none => simp [Bind.bind, Returns]
  | some (.error e, t') => simp [Bind.bind, Returns, eq_comm]
  | some (.ok a, t') =>
    refine (returns_after (x := f a) (r := s)).trans ?_
    constructor
    · intro h
      obtain ⟨t₂, h₂, ht⟩ := h
      exact .inr ⟨a, t', t₂, ⟨rfl, rfl⟩, h₂, ht⟩
    · intro h
      obtain ⟨_, _, hok, _⟩ | ⟨_, _, t₂, ⟨hok, rfl⟩, h₂, ht⟩ := h
      · cases hok
      · cases hok
        exact ⟨t₂, h₂, ht⟩

/-- A sequence that ends well. -/
theorem returns_bind_ok {b : β} :
    (x >>= f).Returns (.ok b) t ↔
      ∃ a t₁ t₂, x.Returns (.ok a) t₁ ∧ (f a).Returns (.ok b) t₂ ∧ t = t₁ ++ t₂ := by
  rw [returns_bind]
  simp

/-- A sequence whose second part does nothing raises in its first. -/
theorem returns_bind_pure_error {g : α → β} {e : ε} :
    (x >>= fun a => pure (g a)).Returns (.error e) t ↔ x.Returns (.error e) t := by
  rw [returns_bind]
  simp

/-- A sequence whose first part ends well. -/
theorem Returns.bind {a : α} {s : Except ε β} {t₁ t₂ : List ω} (hx : x.Returns (.ok a) t₁)
    (hf : (f a).Returns s t₂) : (x >>= f).Returns s (t₁ ++ t₂) :=
  returns_bind.mpr (.inr ⟨a, t₁, t₂, hx, hf, rfl⟩)

/-- A sequence whose first part raises. -/
theorem Returns.bind_error {e : ε} (hx : x.Returns (.error e) t) :
    (x >>= f).Returns (.error e) t :=
  returns_bind.mpr (.inl ⟨e, rfl, hx⟩)

/-- A sequence whose first part does nothing but return or raise. -/
theorem returns_result_bind {v : Except ε α} {s : Except ε β} :
    ((result v : Logged ω ε α) >>= f).Returns s t ↔
      (∃ e, v = .error e ∧ s = .error e ∧ t = []) ∨ ∃ a, v = .ok a ∧ (f a).Returns s t := by
  rw [returns_bind]
  cases v with
  | error e => simp
  | ok a => simp

/-- A sequence that starts with a question that is answered. -/
theorem returns_ask_ok_bind {w : ω} {a : α} {s : Except ε β} :
    (ask w (.ok a) >>= f).Returns s t ↔ ∃ rest, (f a).Returns s rest ∧ t = w :: rest :=
  returns_after

/-- A handled program that ends well did so itself or in its handler. -/
theorem returns_catching_ok {handler : ε → Logged ω ε α} {a : α} :
    (x.catching handler).Returns (.ok a) t ↔ x.Returns (.ok a) t ∨
      ∃ e t₁ t₂, x.Returns (.error e) t₁ ∧ (handler e).Returns (.ok a) t₂ ∧ t = t₁ ++ t₂ := by
  match x with
  | none => simp [catching, Returns]
  | some (.ok a', t') => simp [catching, Returns]
  | some (.error e, t') =>
    refine (returns_after (x := handler e)).trans ?_
    constructor
    · intro h
      obtain ⟨t₂, h₂, ht⟩ := h
      exact .inr ⟨e, t', t₂, ⟨rfl, rfl⟩, h₂, ht⟩
    · intro h
      obtain ⟨hok, _⟩ | ⟨_, _, t₂, ⟨herr, rfl⟩, h₂, ht⟩ := h
      · cases hok
      · cases herr
        exact ⟨t₂, h₂, ht⟩

theorem Returns.catching {handler : ε → Logged ω ε α} {a : α} (hx : x.Returns (.ok a) t) :
    (x.catching handler).Returns (.ok a) t :=
  returns_catching_ok.mpr (.inl hx)

theorem Returns.catching_error {handler : ε → Logged ω ε α} {e : ε} {t₁ t₂ : List ω}
    (hx : x.Returns (.error e) t₁) (hh : (handler e).Returns r t₂) :
    (x.catching handler).Returns r (t₁ ++ t₂) := by
  match x, hx with
  | some (_, _), ⟨rfl, rfl⟩ => exact returns_after.mpr ⟨t₂, hh, rfl⟩

/-- The value of a program that returns without raising. -/
def value (x : Logged ω ε α) : Option α :=
  match x with
  | some (.ok a, _) => some a
  | _ => none

theorem value_eq_some {a : α} : x.value = some a ↔ ∃ t, x.Returns (.ok a) t := by
  match x with
  | none => simp [value, Returns]
  | some (.error e, t') => simp [value, Returns]
  | some (.ok a', t') => simp [value, Returns]

/-! ## Outcomes alone -/

/-- The program ends with this outcome. -/
def Ends (x : Logged ω ε α) (r : Except ε α) : Prop := ∃ t, x.Returns r t

theorem Returns.ends (h : x.Returns r t) : x.Ends r := ⟨t, h⟩

@[simp] theorem ends_result {r' : Except ε α} : (result r' : Logged ω ε α).Ends r ↔ r' = r := by
  simp [Ends]

@[simp] theorem ends_ask {w : ω} {reply : Except ε α} : (ask w reply).Ends r ↔ reply = r := by
  simp [Ends]

/-- A sequence ends where its first part raises, or else where its second part ends. -/
theorem ends_bind {s : Except ε β} :
    (x >>= f).Ends s ↔
      (∃ e, x.Ends (.error e) ∧ s = .error e) ∨ ∃ a, x.Ends (.ok a) ∧ (f a).Ends s := by
  constructor
  · intro h
    obtain ⟨t, h⟩ := h
    obtain ⟨e, rfl, herr⟩ | ⟨a, t₁, t₂, h₁, h₂, _⟩ := returns_bind.mp h
    · exact .inl ⟨e, herr.ends, rfl⟩
    · exact .inr ⟨a, h₁.ends, h₂.ends⟩
  · intro h
    obtain ⟨e, ⟨t, herr⟩, rfl⟩ | ⟨a, ⟨t₁, h₁⟩, t₂, h₂⟩ := h
    · exact herr.bind_error.ends
    · exact (h₁.bind h₂).ends

/-- A sequence that starts with a question goes on with the answer. -/
theorem ends_ask_bind {w : ω} {reply : Except ε α} {s : Except ε β} :
    (ask w reply >>= f).Ends s ↔
      (∃ e, reply = .error e ∧ s = .error e) ∨ ∃ a, reply = .ok a ∧ (f a).Ends s := by
  simp only [ends_bind, ends_ask]

theorem ends_result_bind {r' : Except ε α} {s : Except ε β} :
    ((result r' : Logged ω ε α) >>= f).Ends s ↔
      (∃ e, r' = .error e ∧ s = .error e) ∨ ∃ a, r' = .ok a ∧ (f a).Ends s := by
  simp only [ends_bind, ends_result]

/-! ## What is logged at all -/

/-- The program logs such entries only, whether it ends well or not. -/
def Logs (P : ω → Prop) (x : Logged ω ε α) : Prop := ∀ r t, x.Returns r t → ∀ w ∈ t, P w

section Logs

variable {P : ω → Prop}

theorem logs_stall : Logs P (stall : Logged ω ε α) :=
  fun _ _ h => absurd h not_returns_stall

theorem logs_result {r : Except ε α} : Logs P (result r : Logged ω ε α) := by
  intro r' t h
  rw [returns_result] at h
  simp [h.2]

theorem logs_ask {w : ω} {reply : Except ε α} (hw : P w) : Logs P (ask w reply) := by
  intro r t h
  rw [returns_ask] at h
  simp [h.2, hw]

/-- The second part of a sequence matters for what the first part can return. -/
theorem Logs.bind_of_returns (hx : Logs P x) (hf : ∀ a t, x.Returns (.ok a) t → Logs P (f a)) :
    Logs P (x >>= f) := by
  intro s t h w hw
  obtain ⟨e, _, herr⟩ | ⟨a, t₁, t₂, h₁, h₂, rfl⟩ := returns_bind.mp h
  · exact hx _ t herr w hw
  · rcases List.mem_append.mp hw with hw | hw
    · exact hx _ t₁ h₁ w hw
    · exact hf a t₁ h₁ s t₂ h₂ w hw

theorem Logs.bind (hx : Logs P x) (hf : ∀ a, Logs P (f a)) : Logs P (x >>= f) :=
  hx.bind_of_returns fun a _ _ => hf a

theorem Logs.catching {handler : ε → Logged ω ε α} (hx : Logs P x)
    (hhandler : ∀ e, Logs P (handler e)) : Logs P (x.catching handler) := by
  match x, hx with
  | none, _ => exact logs_stall
  | some (.ok a, t), hx => exact hx
  | some (.error e, t), hx =>
    intro r u h w hw
    obtain ⟨t₂, h₂, rfl⟩ := returns_after.mp h
    rcases List.mem_append.mp hw with hw | hw
    · exact hx (.error e) t ⟨rfl, rfl⟩ w hw
    · exact hhandler e r t₂ h₂ w hw

end Logs

/-! ## More fuel -/

/-- The second program returns whatever the first one does. -/
def Extends (x y : Logged ω ε α) : Prop := ∀ r t, x.Returns r t → y.Returns r t

theorem Extends.refl : Extends x x := fun _ _ h => h

theorem extends_stall : Extends stall x := fun _ _ h => absurd h not_returns_stall

theorem Extends.bind (hx : Extends x y) (hf : ∀ a, Extends (f a) (g a)) :
    Extends (x >>= f) (y >>= g) := by
  intro s t h
  obtain ⟨e, rfl, herr⟩ | ⟨a, t₁, t₂, h₁, h₂, rfl⟩ := returns_bind.mp h
  · exact (hx _ t herr).bind_error
  · exact (hx _ t₁ h₁).bind (hf a s t₂ h₂)

theorem Extends.catching {handler : ε → Logged ω ε α} (hx : Extends x y) :
    Extends (x.catching handler) (y.catching handler) := by
  intro r t h
  match x, hx, h with
  | some (.ok a, t'), hx, h =>
    have hy : y.Returns (.ok a) t' := hx _ _ ⟨rfl, rfl⟩
    obtain ⟨rfl, rfl⟩ := h
    exact hy.catching
  | some (.error e, t'), hx, h =>
    have hy : y.Returns (.error e) t' := hx _ _ ⟨rfl, rfl⟩
    obtain ⟨t₂, h₂, ht⟩ := returns_after.mp h
    rw [ht]
    exact hy.catching_error h₂

end Logged

end Runs
