import Mathlib.Tactic.Common

/-!
# JSON values

`serde_json::Value`. The members of an object are a list of pairs, of which a
lookup takes the first; a parsed object has no repeated key. A number is known by
the text of its value, which is the same for numbers that compare equal.
-/

namespace GreenticConformance.Host

inductive Json where
  | null
  | bool (b : Bool)
  | number (literal : String)
  | string (s : String)
  | array (items : List Json)
  | object (members : List (String × Json))

namespace Json

/-- `Value::as_object`. -/
def asObject : Json → Option (List (String × Json))
  | .object members => some members
  | _ => none

/-- `Value::is_object`. -/
def isObject (v : Json) : Bool := v.asObject.isSome

/-- `Value::as_str`. -/
def asStr : Json → Option String
  | .string s => some s
  | _ => none

/-- `Value::get` at a key. -/
def get (v : Json) (key : String) : Option Json :=
  v.asObject.bind fun members => members.lookup key

theorem isObject_iff {v : Json} : v.isObject = true ↔ ∃ members, v = .object members := by
  cases v <;> simp [isObject, asObject]

/-! ## Trees -/

/-- Induction over the values inside a value. -/
@[elab_as_elim, induction_eliminator]
theorem induction {motive : Json → Prop} (null : motive .null) (bool : ∀ b, motive (.bool b))
    (number : ∀ literal, motive (.number literal)) (string : ∀ s, motive (.string s))
    (array : ∀ items, (∀ v ∈ items, motive v) → motive (.array items))
    (object : ∀ members, (∀ m ∈ members, motive m.2) → motive (.object members)) :
    ∀ v, motive v
  | .null => null
  | .bool b => bool b
  | .number literal => number literal
  | .string s => string s
  | .array items => array items fun v _ => induction null bool number string array object v
  | .object members =>
    object members fun m hm =>
      -- a member is smaller than the list it stands in
      have : sizeOf m.2 < 1 + sizeOf members := by
        have := List.sizeOf_lt_of_mem hm
        have : sizeOf m = 1 + sizeOf m.1 + sizeOf m.2 := rfl
        omega
      induction null bool number string array object m.2

/-- No object in the value repeats a key: what a `serde_json::Map` makes sure of. -/
inductive Distinct : Json → Prop
  | null : Distinct .null
  | bool (b : Bool) : Distinct (.bool b)
  | number (literal : String) : Distinct (.number literal)
  | string (s : String) : Distinct (.string s)
  | array {items : List Json} : (∀ v ∈ items, Distinct v) → Distinct (.array items)
  | object {members : List (String × Json)} : (members.map Prod.fst).Nodup →
      (∀ m ∈ members, Distinct m.2) → Distinct (.object members)

theorem distinct_array {items : List Json} : Distinct (.array items) ↔ ∀ v ∈ items, Distinct v := by
  refine ⟨fun h => ?_, .array⟩
  cases h with
  | array h => exact h

theorem distinct_object {members : List (String × Json)} : Distinct (.object members) ↔
    (members.map Prod.fst).Nodup ∧ ∀ m ∈ members, Distinct m.2 := by
  refine ⟨fun h => ?_, fun h => .object h.1 h.2⟩
  cases h with
  | object hkeys h => exact ⟨hkeys, h⟩

/-- The lookup of a key that is not repeated finds its member. -/
theorem lookup_of_mem {members : List (String × Json)} (h : (members.map Prod.fst).Nodup)
    {m : String × Json} (hm : m ∈ members) : members.lookup m.1 = some m.2 := by
  induction members with
  | nil => simp at hm
  | cons head members ih =>
    rw [List.map_cons, List.nodup_cons] at h
    rcases List.mem_cons.mp hm with rfl | hm
    · exact List.lookup_cons_self
    · have hne : m.1 ≠ head.1 := fun heq => h.1 (heq ▸ List.mem_map_of_mem hm)
      rw [List.lookup_cons, beq_eq_false_iff_ne.mpr hne]
      exact ih h.2 hm

theorem mem_of_lookup {members : List (String × Json)} {key : String} {v : Json}
    (h : members.lookup key = some v) : (key, v) ∈ members := by
  obtain ⟨before, after, heq, -⟩ := List.lookup_eq_some_iff.mp h
  simp [heq]

end Json

/-- A `serde_json::Value`: no object in it repeats a key. -/
structure Value where
  json : Json
  distinct : json.Distinct

end GreenticConformance.Host
