import GreenticConformance.Checks.Guards
import GreenticConformance.Host.World
import GreenticConformance.Serde.Record

/-!
# Derived serialisation

What `#[derive(Serialize, Deserialize)]` makes of the types that documents are built of,
at `serde_json::Value`: strings, options, lists and structs. A struct is read from an
object, or from an array with the values of its fields.

## Main definitions

- `stringCodec`, `optionCodec`, `listCodec`, `structCodec` — the types
- `required`, `optional`, `defaulted` — the fields

## Main results

- `structCodec_stable` — a struct that was read is read back from what is written for it
-/

namespace GreenticConformance.Host

open Checks Serde

variable {α : Type}

/-! ## Types -/

def stringCodec : Codec Json String := ⟨.string, Json.asStr⟩

def valueCodec : Codec Json Json := ⟨id, some⟩

def optionCodec (c : Codec Json α) : Codec Json (Option α) where
  write o := o.elim .null c.write
  read
    | .null => some none
    | v => (c.read v).map some

def listCodec (c : Codec Json α) : Codec Json (List α) where
  write l := .array (l.map c.write)
  read
    | .array items => items.mapM c.read
    | _ => none

def structCodec (members : α → List (String × Json)) (reader : Reader Json α) : Codec Json α where
  write a := .object (members a)
  read
    | .object ms => reader.ofMembers ms
    | .array items => reader.ofItems items
    | _ => none

/-! ## Fields -/

section Fields

variable (name : String) (c : Codec Json α)

def required (aliases : List String) : Field Json α := ⟨name, aliases, c, none, none⟩

/-- `#[serde(default)]`, for a type with a default. -/
def defaulted (default : α) : Field Json α := ⟨name, [], c, some default, some default⟩

/-- `#[serde(default)]`, for an option. -/
def optional : Field Json (Option α) := defaulted name (optionCodec c) none

end Fields

/-- The text of a value is parsed as the value is read. -/
def ParsesText (c : Codec Json α) (parsers : Parsers α) (serde : SerdeJson) (v : Json) : Prop :=
  ∀ a, c.read v = some a → parsers.json (serde.toString v) = .ok a

/-! ## Reading back -/

section Stable

variable {c : Codec Json α} {name : String} {aliases : List String}

/-- Null is not written for anything that was not read from null. -/
def Shows (c : Codec Json α) : Prop := ∀ v a, v ≠ .null → c.read v = some a → c.write a ≠ .null

theorem stringCodec_stable : stringCodec.Stable := fun _ _ _ => rfl

theorem stringCodec_shows : Shows stringCodec := fun _ _ _ _ => Json.noConfusion

theorem valueCodec_stable : valueCodec.Stable := fun _ _ _ => rfl

theorem valueCodec_shows : Shows valueCodec := by
  rintro v a hv h
  rwa [← Option.some.inj h]

theorem optionCodec_read {v : Json} (hv : v ≠ .null) :
    (optionCodec c).read v = (c.read v).map some := by
  cases v with
  | null => exact absurd rfl hv
  | _ => rfl

/-- A value that is written as null is not told apart from none. -/
theorem optionCodec_roundTrips {o : Option α} : (optionCodec c).RoundTrips o ↔
    ∀ a, o = some a → c.write a ≠ .null ∧ c.RoundTrips a := by
  cases o with
  | none => simp [Codec.RoundTrips, optionCodec]
  | some a =>
    have hwrite : (optionCodec c).write (some a) = c.write a := rfl
    rw [Codec.RoundTrips, hwrite]
    constructor
    · intro h a' ha'
      obtain rfl := Option.some.inj ha'
      have hne : c.write a ≠ .null := by
        intro hnull
        rw [hnull] at h
        cases h
      rw [optionCodec_read hne] at h
      obtain ⟨b, hb, heq⟩ := Option.map_eq_some_iff.mp h
      exact ⟨hne, hb.trans heq⟩
    · intro h
      obtain ⟨hne, hback⟩ := h a rfl
      rw [optionCodec_read hne, hback]
      rfl

theorem optionCodec_stable (hc : c.Stable) (hshows : Shows c) : (optionCodec c).Stable := by
  intro v o h
  rw [optionCodec_roundTrips]
  rintro a rfl
  have hv : v ≠ .null := by
    rintro rfl
    cases h
  rw [optionCodec_read hv] at h
  obtain ⟨b, hb, heq⟩ := Option.map_eq_some_iff.mp h
  obtain rfl := Option.some.inj heq
  exact ⟨hshows v b hv hb, hc v b hb⟩

/-- An element that was read was read from something. -/
theorem exists_read_of_mem {items : List Json} {l : List α} (h : items.mapM c.read = some l) {a : α}
    (ha : a ∈ l) : ∃ v, c.read v = some a := by
  induction items generalizing l with
  | nil =>
    rw [List.mapM_nil] at h
    obtain rfl := Option.some.inj h
    exact absurd ha List.not_mem_nil
  | cons v items ih =>
    rw [List.mapM_cons] at h
    obtain ⟨b, hb, hrest⟩ := Option.bind_eq_some_iff.mp h
    obtain ⟨bs, hbs, heq⟩ := Option.bind_eq_some_iff.mp hrest
    obtain rfl := Option.some.inj heq
    rcases List.mem_cons.mp ha with rfl | ha
    · exact ⟨v, hb⟩
    · exact ih hbs ha

theorem listCodec_roundTrips {l : List α} :
    (listCodec c).RoundTrips l ↔ ∀ a ∈ l, c.RoundTrips a := by
  have hread : (listCodec c).read ((listCodec c).write l) = (l.map c.write).mapM c.read := rfl
  rw [Codec.RoundTrips, hread, List.mapM_map]
  constructor
  · intro h a ha
    have hself : l.mapM (c.read ∘ c.write) = some (l.map id) := by rwa [List.map_id]
    exact mapM_eq_some_map.mp hself a ha
  · intro h
    have hself := mapM_eq_some_map.mpr h
    rwa [List.map_id'] at hself

theorem listCodec_stable (hc : c.Stable) : (listCodec c).Stable := by
  intro v l h
  cases v with
  | array items =>
    rw [listCodec_roundTrips]
    intro a ha
    obtain ⟨v, hv⟩ := exists_read_of_mem h ha
    exact hc v a hv
  | _ => cases h

theorem optionalString_roundTrips (value : Option String) :
    (optionCodec stringCodec).RoundTrips value := by
  rw [optionCodec_roundTrips]
  exact fun _ _ => ⟨Json.noConfusion, rfl⟩

theorem optionalValue_roundTrips {value : Option Json} :
    (optionCodec valueCodec).RoundTrips value ↔ value ≠ some .null := by
  rw [optionCodec_roundTrips]
  constructor
  · rintro h rfl
    exact (h .null rfl).1 rfl
  · rintro hne v rfl
    exact ⟨fun hnull => hne (congrArg some hnull), rfl⟩

theorem strings_roundTrips (values : List String) : (listCodec stringCodec).RoundTrips values :=
  listCodec_roundTrips.mpr fun _ _ => rfl

theorem listCodec_shows : Shows (listCodec c) := fun _ _ _ _ => Json.noConfusion

theorem structCodec_shows {members : α → List (String × Json)} {reader : Reader Json α} :
    Shows (structCodec members reader) := fun _ _ _ _ => Json.noConfusion

theorem required_good (hc : c.Stable) : (required name c aliases).Good :=
  ⟨hc, fun _ h => (by cases h), fun _ h => (by cases h)⟩

theorem defaulted_good {default : α} (hc : c.Stable) (hdefault : c.RoundTrips default) :
    (defaulted name c default).Good := by
  refine ⟨hc, fun b h => ?_, fun b h => ?_⟩
  · rwa [← Option.some.inj h]
  · rwa [← Option.some.inj h]

theorem optional_good (hc : c.Stable) (hshows : Shows c) : (optional name c).Good :=
  defaulted_good (optionCodec_stable hc hshows) rfl

end Stable

/-! ## Structs -/

section Structs

variable {members : α → List (String × Json)} {reader : Reader Json α} {ns : List (List String)}
variable {a : α} {v : Json}

theorem structCodec_rereads (h : Agrees members ns reader []) (hapart : Apart ns)
    (hread : (structCodec members reader).read v = some a) : Rereads reader members a := by
  cases v with
  | object ms => exact h.reread_members hapart hread
  | array items => exact h.reread_items hapart hread
  | _ => cases hread

theorem structCodec_stable (h : Agrees members ns reader []) (hapart : Apart ns) :
    (structCodec members reader).Stable :=
  fun _ _ hread => (structCodec_rereads h hapart hread).1

/-- The struct is read back from what is written for it, from the bare values of its fields,
and from an object with its members under any names of their fields, among unknown members
and in any order. -/
structure Robust (c : Codec Json α) (members : α → List (String × Json)) (ns : List (List String))
    (a : α) : Prop where
  written : c.read (c.write a) = some a
  bare : c.read (.array ((members a).map Prod.snd)) = some a
  mixed : ∀ ms extra object, List.Forall₂ (SameField ns) (members a) ms →
    (∀ m ∈ extra, ∀ names ∈ ns, m.1 ∉ names) → (ms ++ extra).Perm object →
      c.read (.object object) = some a

theorem structCodec_robust (h : Agrees members ns reader []) (hapart : Apart ns)
    (hread : (structCodec members reader).read v = some a) :
    Robust (structCodec members reader) members ns a := by
  have hrereads := structCodec_rereads h hapart hread
  exact ⟨hrereads.1, hrereads.2, fun _ _ _ hrenamed hextra hperm =>
    h.ofMembers_mixed hrereads hrenamed hextra hperm⟩

/-- A struct is read back if its fields are. -/
theorem structCodec_roundTrips (h : Agrees members ns reader []) (hapart : Apart ns) :
    (structCodec members reader).RoundTrips a ↔ ∃ ms, Written reader ms a := by
  constructor
  · intro hback
    exact h.written_of_members hback
  · intro hwritten
    obtain ⟨ms, hwritten⟩ := hwritten
    exact (h.rereads_of_written hapart hwritten).1

/-- What is read back at all is read back in every form, and could have been read. -/
theorem structCodec_robust_iff (h : Agrees members ns reader []) (hapart : Apart ns) :
    (Robust (structCodec members reader) members ns a ↔
      (structCodec members reader).RoundTrips a) ∧
    ((∃ v, (structCodec members reader).read v = some a) ↔
      (structCodec members reader).RoundTrips a) :=
  ⟨⟨Robust.written, structCodec_robust h hapart⟩,
    ⟨fun ⟨_, hread⟩ => structCodec_stable h hapart _ _ hread, fun hback => ⟨_, hback⟩⟩⟩

end Structs

end GreenticConformance.Host
