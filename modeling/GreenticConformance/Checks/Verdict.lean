import Mathlib.Tactic.Common

/-!
# Verdicts and issues

A check that goes on after a failure collects issues and keeps a flag. The flag and
the list say the same thing when the flag is set exactly if the list is empty.

## Main definitions

- `Agrees` — the flag says what the list says

## Main results

- `agrees_isEmpty`, `agrees_issue`, `Agrees.settled` — how checks keep the two in step
-/

namespace Checks

variable {ι : Type*} {verdict : Bool} {issues : List ι}

/-- The verdict is good exactly when there are no issues. -/
def Agrees (verdict : Bool) (issues : List ι) : Prop :=
  verdict = true ↔ issues = []

/-- A verdict that is read off the issues. -/
theorem agrees_isEmpty : Agrees issues.isEmpty issues :=
  List.isEmpty_iff

/-- A verdict that is taken back when an issue is added. -/
theorem agrees_issue (issue : ι) : Agrees false (issues ++ [issue]) := by
  simp [Agrees]

/-- A verdict that is given while there are no issues. -/
theorem agrees_nil : Agrees true ([] : List ι) :=
  iff_of_true rfl rfl

/-- A verdict that is taken back at the end if there are issues. -/
theorem Agrees.settled (h : issues = [] → verdict = true) :
    Agrees (if issues ≠ [] then false else verdict) issues := by
  by_cases hissues : issues = []
  · simp [Agrees, hissues, h hissues]
  · simp [Agrees, hissues]

end Checks
