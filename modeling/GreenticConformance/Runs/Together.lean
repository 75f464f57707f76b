import GreenticConformance.Runs.Logged

/-!
# Two programs side by side

Two programs that do the same and differ in nothing but their outcomes, as the same
program does under two settings. A relation between the outcomes says how.

## Main definitions

- `Logged.Together` — the same log, and related outcomes

## Main results

- `Logged.Together.bind`, `Logged.Together.catching` — parts that go together make wholes
  that do
-/

namespace Runs

namespace Logged

variable {ω ε α β γ δ : Type}

/-- A program that has returned. -/
def done (r : Except ε α) (t : List ω) : Logged ω ε α := some (r, t)

/-- Both programs return with the same log and related outcomes, or neither does. -/
inductive Together (R : Except ε α → Except ε β → Prop) :
    Logged ω ε α → Logged ω ε β → Prop
  | stall : Together R stall stall
  | both {r s t} (h : R r s) : Together R (done r t) (done s t)

/-- What a sequence goes on with. -/
def resume (f : α → Logged ω ε γ) : Except ε α → Logged ω ε γ
  | .ok a => f a
  | .error e => raise e

/-- What a handler makes of an outcome. -/
def handle (handler : ε → Logged ω ε α) : Except ε α → Logged ω ε α
  | .ok a => result (.ok a)
  | .error e => handler e

variable {x : Logged ω ε α} {y : Logged ω ε β} {R : Except ε α → Except ε β → Prop}

/-- A program goes together with itself. -/
theorem together_self {S : Except ε α → Except ε α → Prop} (hS : ∀ r, S r r)
    (x : Logged ω ε α) : Together S x x := by
  match x with
  | none => exact .stall
  | some (r, _) => exact .both (hS r)

theorem together_result {r : Except ε α} {s : Except ε β} (h : R r s) :
    Together R (result r : Logged ω ε α) (result s) := .both h

theorem Together.after (h : Together R x y) (t : List ω) : Together R (after t x) (after t y) := by
  cases h with
  | stall => exact .stall
  | both h => exact .both h

theorem done_bind {r : Except ε α} {t : List ω} (f : α → Logged ω ε γ) :
    done r t >>= f = Logged.after t (resume f r) := by
  cases r with
  | ok a => rfl
  | error e => exact congrArg (done (.error e)) (List.append_nil t).symm

theorem done_catching {r : Except ε α} {t : List ω} (handler : ε → Logged ω ε α) :
    (done r t).catching handler = Logged.after t (handle handler r) := by
  cases r with
  | ok a => exact congrArg (done (.ok a)) (List.append_nil t).symm
  | error e => rfl

/-- Two sequences go together, if they do from any related outcomes of their first parts. -/
theorem Together.bind {S : Except ε γ → Except ε δ → Prop} {f : α → Logged ω ε γ}
    {g : β → Logged ω ε δ} (h : Together R x y)
    (hnext : ∀ r s, R r s → Together S (resume f r) (resume g s)) :
    Together S (x >>= f) (y >>= g) := by
  cases h with
  | stall => exact .stall
  | both h =>
    rw [done_bind, done_bind]
    exact (hnext _ _ h).after _

theorem Together.catching {S : Except ε α → Except ε β → Prop} {f : ε → Logged ω ε α}
    {g : ε → Logged ω ε β} (h : Together R x y)
    (hnext : ∀ r s, R r s → Together S (handle f r) (handle g s)) :
    Together S (x.catching f) (y.catching g) := by
  cases h with
  | stall => exact .stall
  | both h =>
    rw [done_catching, done_catching]
    exact (hnext _ _ h).after _

/-- The sequences of one program go together, if they do from any value. -/
theorem together_bind_self {S : Except ε γ → Except ε δ → Prop} {f : α → Logged ω ε γ}
    {g : α → Logged ω ε δ} (x : Logged ω ε α) (herror : ∀ e, S (.error e) (.error e))
    (hnext : ∀ a, Together S (f a) (g a)) : Together S (x >>= f) (x >>= g) := by
  refine (together_self (fun r => rfl) x).bind ?_
  rintro r s rfl
  cases r with
  | ok a => exact hnext a
  | error e => exact together_result (herror e)

/-! ## What one says about the other -/

variable {r : Except ε α} {s : Except ε β} {t : List ω}

theorem Together.returns (h : Together R x y) (hx : x.Returns r t) :
    ∃ s, y.Returns s t ∧ R r s := by
  cases h with
  | stall => exact absurd hx not_returns_stall
  | both h =>
    obtain ⟨rfl, rfl⟩ := hx
    exact ⟨_, ⟨rfl, rfl⟩, h⟩

theorem Together.returns_left (h : Together R x y) (hy : y.Returns s t) :
    ∃ r, x.Returns r t ∧ R r s := by
  cases h with
  | stall => exact absurd hy not_returns_stall
  | both h =>
    obtain ⟨rfl, rfl⟩ := hy
    exact ⟨_, ⟨rfl, rfl⟩, h⟩

end Logged

end Runs
