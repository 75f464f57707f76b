import Mathlib.Data.List.Induction
import Mathlib.Tactic.Common

/-!
# Places in a tree, lexically

Where a list of steps leads can be read off the steps, without a look at the tree:
every step up takes back the last step down. What is left are the levels that were
climbed above the start and the names that were entered from there.

## Main definitions

- `Place` — where a list of steps leads
- `Place.StrictlyBelow` — the places that are reached by entering names only

## Main results

- `walk_eq` — a walk from any place, in terms of the walk from the start
- `strictlyBelow_walk` — walks that never climb above their start end below it
-/

namespace Paths

variable {ν : Type*}

/-- One step of a path. -/
inductive Step (ν : Type*) where
  | up
  | down (name : ν)
  deriving DecidableEq

/-- The place reached by climbing `ups` levels, from the root or from the start, and
then entering `names`. There is nothing above the root. -/
@[ext]
structure Place (ν : Type*) where
  rooted : Bool
  ups : ℕ
  names : List ν
  ups_of_rooted : rooted = true → ups = 0
  deriving DecidableEq

namespace Place

def root : Place ν := ⟨true, 0, [], fun _ => rfl⟩

/-- The start of a path that is not rooted. -/
def here : Place ν := ⟨false, 0, [], fun _ => rfl⟩

/-- The place below `p` that is reached by entering `names`. -/
def extend (p : Place ν) (names : List ν) : Place ν := { p with names := p.names ++ names }

/-- The place above `p`. The root is above itself. -/
def parent (p : Place ν) : Place ν :=
  if h : p.names = [] ∧ p.rooted = false then
    { p with ups := p.ups + 1, ups_of_rooted := fun hrooted => by simp [h.2] at hrooted }
  else
    { p with names := p.names.dropLast }

def step (p : Place ν) : Step ν → Place ν
  | .up => p.parent
  | .down name => p.extend [name]

def walk (p : Place ν) (steps : List (Step ν)) : Place ν := steps.foldl step p

/-- Some names have to be entered to get from `p` to `q`. -/
def StrictlyBelow (p q : Place ν) : Prop := ∃ names, names ≠ [] ∧ q = p.extend names

variable {p q : Place ν} {steps : List (Step ν)}

@[simp] theorem walk_nil : p.walk [] = p := rfl

theorem walk_append {steps' : List (Step ν)} :
    p.walk (steps ++ steps') = (p.walk steps).walk steps' :=
  List.foldl_append

theorem walk_concat {s : Step ν} : p.walk (steps ++ [s]) = (p.walk steps).step s :=
  walk_append

@[simp] theorem extend_nil : p.extend [] = p := by
  apply Place.ext
  · rfl
  · rfl
  · exact List.append_nil p.names

theorem extend_extend {names names' : List ν} :
    (p.extend names).extend names' = p.extend (names ++ names') := by
  apply Place.ext
  · rfl
  · rfl
  · exact List.append_assoc p.names names names'

/-- Climbing takes back the last name that was entered. -/
theorem parent_extend {names : List ν} (h : names ≠ []) :
    (p.extend names).parent = p.extend names.dropLast := by
  have hne : ¬ ((p.extend names).names = [] ∧ (p.extend names).rooted = false) := by
    simp [extend, h]
  rw [parent, dif_neg hne]
  apply Place.ext
  · rfl
  · rfl
  · exact List.dropLast_append_of_ne_nil h

@[simp] theorem rooted_step {s : Step ν} : (p.step s).rooted = p.rooted := by
  cases s with
  | down name => rfl
  | up =>
    rw [step, parent]
    split
    · rfl
    · rfl

@[simp] theorem rooted_walk : (p.walk steps).rooted = p.rooted := by
  induction steps using List.reverseRecOn with
  | nil => rfl
  | append_singleton steps s ih => rw [walk_concat, rooted_step, ih]

/-- **Walks from anywhere**: climb as often as the walk from the start does, then
enter the same names. -/
theorem walk_eq (p : Place ν) (steps : List (Step ν)) :
    p.walk steps =
      (p.walk (List.replicate (here.walk steps).ups .up)).extend (here.walk steps).names := by
  induction steps using List.reverseRecOn with
  | nil => simp [here]
  | append_singleton steps s ih =>
    rw [walk_concat, walk_concat, ih]
    have hrooted : ((here : Place ν).walk steps).rooted = false := rooted_walk
    generalize (here : Place ν).walk steps = q at hrooted ⊢
    cases s with
    | down name =>
      rw [step, step, extend_extend]
      rfl
    | up =>
      rw [step, step]
      by_cases hnames : q.names = []
      · -- both climb one level higher
        have hq : q.parent.ups = q.ups + 1 ∧ q.parent.names = [] := by
          rw [parent, dif_pos ⟨hnames, hrooted⟩]
          exact ⟨rfl, hnames⟩
        rw [hq.1, hq.2, hnames, extend_nil, extend_nil, List.replicate_succ', walk_concat]
        rfl
      · -- both take back the last name
        have hq : q.parent.ups = q.ups ∧ q.parent.names = q.names.dropLast := by
          rw [parent, dif_neg fun h => hnames h.1]
          exact ⟨rfl, rfl⟩
        rw [hq.1, hq.2, parent_extend hnames]

/-- A walk that never climbs above its start and does not end at it. -/
def Descends (steps : List (Step ν)) : Prop :=
  ((here : Place ν).walk steps).ups = 0 ∧ ((here : Place ν).walk steps).names ≠ []

instance [DecidableEq ν] : Decidable (Descends steps) :=
  inferInstanceAs (Decidable (_ ∧ _))

/-- Wherever such a walk starts, it ends strictly below. -/
theorem strictlyBelow_walk (p : Place ν) (h : Descends steps) : p.StrictlyBelow (p.walk steps) := by
  refine ⟨(here.walk steps).names, h.2, ?_⟩
  rw [walk_eq, h.1]
  rfl

/-- What is strictly below a place is as rooted, and more names away. -/
theorem StrictlyBelow.longer (h : p.StrictlyBelow q) :
    q.rooted = p.rooted ∧ p.names.length < q.names.length := by
  obtain ⟨names, hnames, rfl⟩ := h
  refine ⟨rfl, ?_⟩
  show p.names.length < (p.names ++ names).length
  have hlength := List.length_pos_iff.mpr hnames
  rw [List.length_append]
  omega

end Place

end Paths
