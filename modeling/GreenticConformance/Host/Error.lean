import GreenticConformance.Checks.Guards
import Mathlib.Tactic.Common

/-!
# Errors with context

`anyhow::Error` as far as its texts go: the outermost message, which `{err}` and
`err.to_string()` print, and the messages it was wrapped around.
-/

namespace GreenticConformance.Host

/-- `anyhow::Error`: its messages, the outermost first. -/
structure Error where
  message : String
  causes : List String
  deriving DecidableEq

/-- `anyhow!(msg)`. -/
def anyhow (msg : String) : Error := ⟨msg, []⟩

def Error.context (e : Error) (msg : String) : Error := ⟨msg, e.message :: e.causes⟩

/-- `result.with_context(|| msg)`. -/
def withContext {α : Type} (r : Except Error α) (msg : String) : Except Error α :=
  r.mapError fun e => e.context msg

/-- `result.with_context(|| msg)` on an error of another library, known by its
text. -/
def withContextOf {α : Type} (r : Except String α) (msg : String) : Except Error α :=
  withContext (r.mapError anyhow) msg

@[simp] theorem withContext_eq_ok {α : Type} {r : Except Error α} {msg : String} {a : α} :
    withContext r msg = .ok a ↔ r = .ok a :=
  Checks.mapError_eq_ok

@[simp] theorem withContextOf_eq_ok {α : Type} {r : Except String α} {msg : String} {a : α} :
    withContextOf r msg = .ok a ↔ r = .ok a := by
  simp [withContextOf]

theorem withContext_ok {α : Type} {a : α} {msg : String} :
    withContext (.ok a) msg = .ok a := rfl

theorem withContext_error {α : Type} {e : Error} {msg : String} :
    withContext (.error e : Except Error α) msg = .error (e.context msg) := rfl

theorem withContextOf_ok {α : Type} {a : α} {msg : String} :
    withContextOf (.ok a) msg = .ok a := rfl

theorem withContext_map {α β : Type} {f : α → β} {r : Except Error α} {msg : String} :
    withContext (f <$> r) msg = f <$> withContext r msg := by
  cases r <;> rfl

theorem withContextOf_map {α β : Type} {f : α → β} {r : Except String α} {msg : String} :
    withContextOf (f <$> r) msg = f <$> withContextOf r msg := by
  cases r <;> rfl

end GreenticConformance.Host
