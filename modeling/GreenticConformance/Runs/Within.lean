import GreenticConformance.Runs.Logged

/-!
# Programs that end in time

A program that asks questions ends within a bound when it returns or raises, with so many
entries in its log at most. The bounds of the parts of a program add up.

## Main definitions

- `Logged.EndsWithin` — the program ends, within a bound

## Main results

- `EndsWithin.bind`, `EndsWithin.catching` — the bounds of a sequence and of a handler
-/

namespace Runs.Logged

variable {ω ε α β : Type} {x : Logged ω ε α} {f : α → Logged ω ε β} {m n : ℕ}

/-- The program ends, well or not, with at most `n` entries in its log. -/
def EndsWithin (n : ℕ) (x : Logged ω ε α) : Prop := ∃ r t, x.Returns r t ∧ t.length ≤ n

theorem EndsWithin.mono (h : EndsWithin m x) (hmn : m ≤ n) : EndsWithin n x := by
  obtain ⟨r, t, hx, ht⟩ := h
  exact ⟨r, t, hx, Nat.le_trans ht hmn⟩

theorem endsWithin_result (r : Except ε α) : EndsWithin 0 (result r : Logged ω ε α) :=
  ⟨r, [], returns_result.mpr ⟨rfl, rfl⟩, Nat.le_refl _⟩

theorem endsWithin_pure (a : α) : EndsWithin 0 (pure a : Logged ω ε α) := endsWithin_result (.ok a)

theorem endsWithin_raise (e : ε) : EndsWithin 0 (raise e : Logged ω ε α) :=
  endsWithin_result (.error e)

theorem endsWithin_ask (w : ω) (reply : Except ε α) : EndsWithin 1 (ask w reply) :=
  ⟨reply, [w], returns_ask.mpr ⟨rfl, rfl⟩, Nat.le_refl _⟩

/-- The second part matters for what the first part can return. -/
theorem EndsWithin.bind_of_returns (hx : EndsWithin m x)
    (hf : ∀ a t, x.Returns (.ok a) t → EndsWithin n (f a)) : EndsWithin (m + n) (x >>= f) := by
  obtain ⟨r, t, hr, ht⟩ := hx
  cases r with
  | error e => exact ⟨.error e, t, hr.bind_error, Nat.le_add_right_of_le ht⟩
  | ok a =>
    obtain ⟨s, u, hs, hu⟩ := hf a t hr
    refine ⟨s, t ++ u, hr.bind hs, ?_⟩
    rw [List.length_append]
    exact Nat.add_le_add ht hu

theorem EndsWithin.bind (hx : EndsWithin m x) (hf : ∀ a, EndsWithin n (f a)) :
    EndsWithin (m + n) (x >>= f) :=
  hx.bind_of_returns fun a _ _ => hf a

/-- What only gives a value takes no time. -/
theorem endsWithin_result_bind (v : Except ε α) (hf : ∀ a, EndsWithin n (f a)) :
    EndsWithin n ((result v : Logged ω ε α) >>= f) := by
  have h : EndsWithin (0 + n) ((result v : Logged ω ε α) >>= f) := (endsWithin_result v).bind hf
  rwa [Nat.zero_add] at h

/-- A program that first notes something has noted it whatever comes then. -/
theorem EndsWithin.note_bind {w : ω} {g : Unit → Logged ω ε β} (hg : EndsWithin n (g ())) :
    ∃ r rest, (note w >>= g).Returns r (w :: rest) ∧ rest.length ≤ n := by
  obtain ⟨r, rest, hreturns, hlength⟩ := hg
  exact ⟨r, rest, returns_ask_ok_bind.mpr ⟨rest, hreturns, rfl⟩, hlength⟩

/-- What only gives a value, or raises, leaves the log to what comes behind it. -/
theorem exists_returns_result_bind {P : List ω → Prop} {v : Except ε α} (hnil : P [])
    (hf : ∀ a, v = .ok a → ∃ r t, (f a).Returns r t ∧ P t) :
    ∃ r t, ((result v : Logged ω ε α) >>= f).Returns r t ∧ P t := by
  cases v with
  | error e => exact ⟨.error e, [], returns_result_bind.mpr (.inl ⟨e, rfl, rfl, rfl⟩), hnil⟩
  | ok a =>
    obtain ⟨r, t, hreturns, ht⟩ := hf a rfl
    exact ⟨r, t, returns_result_bind.mpr (.inr ⟨a, rfl, hreturns⟩), ht⟩

theorem EndsWithin.catching {handler : ε → Logged ω ε α} (hx : EndsWithin m x)
    (hhandler : ∀ e, EndsWithin n (handler e)) : EndsWithin (m + n) (x.catching handler) := by
  obtain ⟨r, t, hr, ht⟩ := hx
  cases r with
  | ok a => exact ⟨.ok a, t, hr.catching, Nat.le_add_right_of_le ht⟩
  | error e =>
    obtain ⟨s, u, hs, hu⟩ := hhandler e
    refine ⟨s, t ++ u, hr.catching_error hs, ?_⟩
    rw [List.length_append]
    exact Nat.add_le_add ht hu

end Runs.Logged
