import GreenticConformance.RunnerSuite
import Mathlib.Logic.Relation
import Mathlib.Order.Defs.PartialOrder

/-!
# Fragments of a JSON value

`json_contains` orders the JSON values: a value is above every fragment that it
contains. Members of objects and items of arrays can be added anywhere in the
value above, and be left out anywhere in the fragment, and the order stays.

## Main definitions

- `Adds`, `Extends` — one addition to a value, and any number of them
- `Fragment` — the order on the values

## Main results

- `contains_refl`, `contains_trans` — the order laws of `jsonContains`
- `Extends.contains` — an extended value contains the value it came from
- `jsonContains_preorder` — the laws together, and that they make it monotone
-/

namespace GreenticConformance.RunnerSuite

open Host

/-! ## What containment asks -/

theorem membersContain_iff {members expected : List (String × Json)} :
    membersContain members expected = true ↔
      ∀ m ∈ expected, ∃ v, members.lookup m.1 = some v ∧ jsonContains v m.2 = true := by
  induction expected with
  | nil => simp [membersContain]
  | cons m expected ih =>
    rw [membersContain, Bool.and_eq_true, ih, List.forall_mem_cons]
    apply and_congr_left'
    cases members.lookup m.1 with
    | none => simp
    | some v => simp

theorem itemsContain_iff {items expected : List Json} :
    itemsContain items expected = true ↔
      ∀ e ∈ expected, ∃ v ∈ items, jsonContains v e = true := by
  induction expected with
  | nil => simp [itemsContain]
  | cons e expected ih =>
    rw [itemsContain, Bool.and_eq_true, ih, List.forall_mem_cons, List.any_eq_true]

theorem contains_object_iff {a : Json} {expected : List (String × Json)} :
    jsonContains a (.object expected) = true ↔
      ∃ members, a = .object members ∧ membersContain members expected = true := by
  cases a <;> simp [jsonContains]

theorem contains_array_iff {a : Json} {expected : List Json} :
    jsonContains a (.array expected) = true ↔
      ∃ items, a = .array items ∧ itemsContain items expected = true := by
  cases a <;> simp [jsonContains]

/-- `null`, a Boolean, a number and a string are contained in nothing else. -/
inductive IsScalar : Json → Prop
  | null : IsScalar .null
  | bool (b : Bool) : IsScalar (.bool b)
  | number (literal : String) : IsScalar (.number literal)
  | string (s : String) : IsScalar (.string s)

theorem contains_scalar_iff {a e : Json} (h : IsScalar e) : jsonContains a e = true ↔ a = e := by
  cases h with
  | null => cases a <;> simp [jsonContains]
  | bool b => cases a <;> simp [jsonContains]
  | number literal => cases a <;> simp [jsonContains]
  | string s => cases a <;> simp [jsonContains]

/-! ## The order laws -/

theorem contains_refl {a : Json} (h : a.Distinct) : jsonContains a a = true := by
  induction a with
  | null => exact (contains_scalar_iff .null).mpr rfl
  | bool b => exact (contains_scalar_iff (.bool b)).mpr rfl
  | number literal => exact (contains_scalar_iff (.number literal)).mpr rfl
  | string s => exact (contains_scalar_iff (.string s)).mpr rfl
  | array items ih =>
    rw [Json.distinct_array] at h
    refine contains_array_iff.mpr ⟨items, rfl, itemsContain_iff.mpr fun v hv => ?_⟩
    exact ⟨v, hv, ih v hv (h v hv)⟩
  | object members ih =>
    rw [Json.distinct_object] at h
    refine contains_object_iff.mpr ⟨members, rfl, membersContain_iff.mpr fun m hm => ?_⟩
    -- without repeated keys the member found under a key is the member itself
    exact ⟨m.2, Json.lookup_of_mem h.1 hm, ih m hm (h.2 m hm)⟩

theorem contains_trans {a b c : Json} (hab : jsonContains a b = true)
    (hbc : jsonContains b c = true) : jsonContains a c = true := by
  induction c generalizing a b with
  | null => rwa [(contains_scalar_iff .null).mp hbc] at hab
  | bool x => rwa [(contains_scalar_iff (.bool x)).mp hbc] at hab
  | number literal => rwa [(contains_scalar_iff (.number literal)).mp hbc] at hab
  | string s => rwa [(contains_scalar_iff (.string s)).mp hbc] at hab
  | array expected ih =>
    obtain ⟨middle, rfl, hlower⟩ := contains_array_iff.mp hbc
    obtain ⟨items, rfl, hupper⟩ := contains_array_iff.mp hab
    rw [itemsContain_iff] at hlower hupper
    refine contains_array_iff.mpr ⟨items, rfl, itemsContain_iff.mpr fun e he => ?_⟩
    obtain ⟨v, hv, hve⟩ := hlower e he
    obtain ⟨u, hu, huv⟩ := hupper v hv
    exact ⟨u, hu, ih e he huv hve⟩
  | object expected ih =>
    obtain ⟨middle, rfl, hlower⟩ := contains_object_iff.mp hbc
    obtain ⟨members, rfl, hupper⟩ := contains_object_iff.mp hab
    rw [membersContain_iff] at hlower hupper
    refine contains_object_iff.mpr ⟨members, rfl, membersContain_iff.mpr fun m hm => ?_⟩
    obtain ⟨v, hv, hvm⟩ := hlower m hm
    obtain ⟨u, hu, huv⟩ := hupper (m.1, v) (Json.mem_of_lookup hv)
    exact ⟨u, hu, ih m hm huv hvm⟩

/-- The values by containment, the fragment below. -/
def Fragment (e a : Value) : Prop := jsonContains a.json e.json = true

instance : Preorder Value where
  le := Fragment
  le_refl a := contains_refl a.distinct
  le_trans _ _ _ hab hbc := contains_trans hbc hab

/-! ## Additions -/

/-- One item or one member is added, anywhere in a value. -/
inductive Adds : Json → Json → Prop
  | item (before after : List Json) (v : Json) :
      Adds (.array (before ++ after)) (.array (before ++ v :: after))
  | member (before after : List (String × Json)) (m : String × Json) :
      Adds (.object (before ++ after)) (.object (before ++ m :: after))
  | inItem (before after : List Json) {v v' : Json} : Adds v v' →
      Adds (.array (before ++ v :: after)) (.array (before ++ v' :: after))
  | inMember (before after : List (String × Json)) (key : String) {v v' : Json} : Adds v v' →
      Adds (.object (before ++ (key, v) :: after)) (.object (before ++ (key, v') :: after))

/-- The first value becomes the second by additions. -/
def Extends (a a' : Value) : Prop := Relation.ReflTransGen Adds a.json a'.json

theorem Adds.distinct {a a' : Json} (h : Adds a a') (hd : a'.Distinct) : a.Distinct := by
  induction h with
  | item before after v =>
    rw [Json.distinct_array] at hd ⊢
    intro u hu
    apply hd
    simp only [List.mem_append, List.mem_cons] at hu ⊢
    tauto
  | member before after m =>
    rw [Json.distinct_object] at hd ⊢
    have hsub : (before ++ after).Sublist (before ++ m :: after) :=
      List.Sublist.append_left (List.sublist_cons_self m after) before
    exact ⟨hd.1.sublist (hsub.map Prod.fst), fun u hu => hd.2 u (hsub.subset hu)⟩
  | inItem before after _ ih =>
    rw [Json.distinct_array] at hd ⊢
    simp only [List.forall_mem_append, List.forall_mem_cons] at hd ⊢
    exact ⟨hd.1, ih hd.2.1, hd.2.2⟩
  | inMember before after key _ ih =>
    rw [Json.distinct_object] at hd ⊢
    simp only [List.forall_mem_append, List.forall_mem_cons] at hd ⊢
    refine ⟨?_, hd.2.1, ih hd.2.2.1, hd.2.2.2⟩
    simpa using hd.1

/-- An array contains what is left of it, and items that are contained in its own. -/
theorem contains_array_of_forall {items expected : List Json} (hd : (Json.array items).Distinct)
    (h : ∀ e ∈ expected, e ∈ items ∨ ∃ v ∈ items, v.Distinct → jsonContains v e = true) :
    jsonContains (.array items) (.array expected) = true := by
  rw [Json.distinct_array] at hd
  refine contains_array_iff.mpr ⟨items, rfl, itemsContain_iff.mpr fun e he => ?_⟩
  rcases h e he with hkept | ⟨v, hv, hsmaller⟩
  · exact ⟨e, hkept, contains_refl (hd e hkept)⟩
  · exact ⟨v, hv, hsmaller (hd v hv)⟩

/-- And so does an object, member by member. -/
theorem contains_object_of_forall {members expected : List (String × Json)}
    (hd : (Json.object members).Distinct)
    (h : ∀ m ∈ expected, m ∈ members ∨
      ∃ v, (m.1, v) ∈ members ∧ (v.Distinct → jsonContains v m.2 = true)) :
    jsonContains (.object members) (.object expected) = true := by
  rw [Json.distinct_object] at hd
  refine contains_object_iff.mpr ⟨members, rfl, membersContain_iff.mpr fun m hm => ?_⟩
  rcases h m hm with hkept | ⟨v, hv, hsmaller⟩
  · exact ⟨m.2, Json.lookup_of_mem hd.1 hkept, contains_refl (hd.2 m hkept)⟩
  · exact ⟨v, Json.lookup_of_mem hd.1 hv, hsmaller (hd.2 (m.1, v) hv)⟩

/-- A value with an addition contains the value before it. -/
theorem Adds.contains {a a' : Json} (h : Adds a a') (hd : a'.Distinct) :
    jsonContains a' a = true := by
  induction h with
  | item before after v =>
    refine contains_array_of_forall hd fun u hu => .inl ?_
    exact List.perm_middle.mem_iff.mpr (List.mem_cons_of_mem v hu)
  | member before after m =>
    refine contains_object_of_forall hd fun u hu => .inl ?_
    exact List.perm_middle.mem_iff.mpr (List.mem_cons_of_mem m hu)
  | @inItem before after v v' _ ih =>
    have hchanged : v' ∈ before ++ v' :: after := by simp
    refine contains_array_of_forall hd fun u hu => ?_
    rcases List.mem_cons.mp (List.perm_middle.mem_iff.mp hu) with rfl | hu
    · exact .inr ⟨v', hchanged, ih⟩
    · exact .inl (List.perm_middle.mem_iff.mpr (List.mem_cons_of_mem v' hu))
  | @inMember before after key v v' _ ih =>
    have hchanged : (key, v') ∈ before ++ (key, v') :: after := by simp
    refine contains_object_of_forall hd fun u hu => ?_
    rcases List.mem_cons.mp (List.perm_middle.mem_iff.mp hu) with rfl | hu
    · exact .inr ⟨v', hchanged, ih⟩
    · exact .inl (List.perm_middle.mem_iff.mpr (List.mem_cons_of_mem (key, v') hu))

theorem contains_of_adds {a a' : Json} (h : Relation.ReflTransGen Adds a a')
    (hd : a'.Distinct) : a.Distinct ∧ jsonContains a' a = true := by
  -- backwards from the larger value, of which every value on the way is a part
  induction h using Relation.ReflTransGen.head_induction_on with
  | refl => exact ⟨hd, contains_refl hd⟩
  | head hadd _ ih => exact ⟨hadd.distinct ih.1, contains_trans ih.2 (hadd.contains ih.1)⟩

/-- An extension contains the value it came from. -/
theorem Extends.contains {a a' : Value} (h : Extends a a') :
    jsonContains a'.json a.json = true :=
  (contains_of_adds h a'.distinct).2

/-- Containment is a preorder on the JSON values, and a match stays a match when the
actual value is extended anywhere and when anything is left out of what is
expected. -/
theorem jsonContains_preorder :
    (∀ a : Value, jsonContains a.json a.json = true) ∧
    (∀ a b c : Value, jsonContains a.json b.json = true → jsonContains b.json c.json = true →
      jsonContains a.json c.json = true) ∧
    ∀ actual actual' expected expected' : Value, Extends actual actual' →
      Extends expected' expected → jsonContains actual.json expected.json = true →
      jsonContains actual'.json expected'.json = true := by
  refine ⟨fun a => le_refl a, fun a b c hab hbc => ?_, ?_⟩
  · have hcb : c ≤ b := hbc
    have hba : b ≤ a := hab
    exact le_trans hcb hba
  · intro actual actual' expected expected' hactual hexpected hmatch
    have hlarger : jsonContains actual'.json expected.json = true :=
      contains_trans hactual.contains hmatch
    exact contains_trans hlarger hexpected.contains

namespace Sample

/-- What a runner printed: one message. -/
def printed : Value where
  json := .object [("status", .string "ok"), ("messages", .array [.string "mock"])]
  distinct := by simp [Json.distinct_object, Json.distinct_array, Json.Distinct.string]

/-- The same with a second message in front. -/
def printedMore : Value where
  json := .object [("status", .string "ok"), ("messages", .array [.null, .string "mock"])]
  distinct := by
    simp [Json.distinct_object, Json.distinct_array, Json.Distinct.string, Json.Distinct.null]

/-- The messages without the status. -/
def messages : Value where
  json := .object [("messages", .array [.string "mock"])]
  distinct := by simp [Json.distinct_object, Json.distinct_array, Json.Distinct.string]

theorem printedMore_extends : Extends printed printedMore :=
  .single (.inMember [("status", .string "ok")] [] "messages" (.item [] [.string "mock"] .null))

theorem printed_extends : Extends messages printed :=
  .single (.member [] [("messages", .array [.string "mock"])] ("status", .string "ok"))

theorem contains_printedMore : jsonContains printedMore.json messages.json = true :=
  jsonContains_preorder.2.2 printed printedMore printed messages printedMore_extends
    printed_extends (jsonContains_preorder.1 printed)

end Sample

end GreenticConformance.RunnerSuite
