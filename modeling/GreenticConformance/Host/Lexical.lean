import GreenticConformance.Host.Path
import GreenticConformance.Paths.Places

/-!
# Lexical normal forms of paths

Where a path leads when its components are read one by one, without a look at the
file system: separators that are repeated and single dots are skipped, and `..`
takes back the component before it.

## Main results

- `normalize_join` — a relative path is walked from where the other path leads
-/

namespace GreenticConformance.Host.Path

open Paths

/-- The step of the text between two separators, if it is one. -/
def component (segment : OsStr) : Option (Step OsStr) :=
  if segment = [] ∨ segment = [dot] then none
  else if segment = [dot, dot] then some .up
  else some (.down segment)

/-- The steps of a text, its root apart. -/
def steps (t : OsStr) : List (Step OsStr) := (t.splitOn separator).filterMap component

/-- Where a path leads. -/
def normalize (p : Path) : Place OsStr :=
  (if p.isAbsolute then Place.root else Place.here).walk (steps p.text)

/-- The path is relative, does not climb above the place it is resolved from, and does
not end there. -/
def Descends (p : Path) : Prop := p.isAbsolute = false ∧ Place.Descends (steps p.text)

instance (p : Path) : Decidable (Descends p) := inferInstanceAs (Decidable (_ ∧ _))

example : normalize (ofString "/packs//./demo/../flows/") = Place.root.extend
    [OsStr.ofString "packs", OsStr.ofString "flows"] := by decide

example : Descends (ofString "flows/../components/echo.wasm") := by decide

example : ¬ Descends (ofString "flows/../../secret") := by decide

theorem steps_append_separator (t t' : OsStr) :
    steps (t ++ separator :: t') = steps t ++ steps t' := by
  rw [steps, List.splitOn_append_cons_self, List.filterMap_append]
  rfl

@[simp] theorem steps_nil : steps [] = [] := rfl

/-- The text of a joined relative path has the steps of both texts. -/
theorem steps_join {p q : Path} (h : q.isAbsolute = false) :
    steps (p.join q).text = steps p.text ++ steps q.text := by
  rw [join, if_neg (by simp [h])]
  by_cases hempty : p.text = []
  · rw [if_pos (.inl hempty), hempty]
    rfl
  · by_cases hlast : p.text.getLast? = some separator
    · rw [if_pos (.inr hlast)]
      obtain ⟨t, ht⟩ := List.getLast?_eq_some_iff.mp hlast
      show steps (p.text ++ q.text) = _
      rw [ht, List.append_assoc, List.singleton_append, steps_append_separator,
        steps_append_separator, steps_nil, List.append_nil]
    · rw [if_neg (by simp [hempty, hlast])]
      exact steps_append_separator p.text q.text

theorem isAbsolute_join {p q : Path} (h : q.isAbsolute = false) :
    (p.join q).isAbsolute = p.isAbsolute := by
  rw [join, if_neg (by simp [h])]
  cases htext : p.text with
  | nil =>
    rw [if_pos (.inl rfl)]
    rw [isAbsolute] at h
    simp [isAbsolute, htext, h]
  | cons c t =>
    split
    · simp [isAbsolute, htext]
    · simp [isAbsolute, htext]

/-- **Joined paths**: a relative path is walked from where the other one leads. -/
theorem normalize_join {p q : Path} (h : q.isAbsolute = false) :
    (p.join q).normalize = p.normalize.walk (steps q.text) := by
  rw [normalize, normalize, isAbsolute_join h, steps_join h, Place.walk_append]

/-- A path that descends leads strictly below every path it is joined to. -/
theorem Descends.strictlyBelow {q : Path} (h : q.Descends) (p : Path) :
    p.normalize.StrictlyBelow (p.join q).normalize := by
  rw [normalize_join h.1]
  exact Place.strictlyBelow_walk p.normalize h.2

end GreenticConformance.Host.Path
