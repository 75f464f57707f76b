import Mathlib.Data.List.Forall2
import Mathlib.Data.List.Perm.Basic
import Mathlib.Tactic.Common

/-!
# Records as values

A record is written as members, a name and a value each, and read from members in any
order, or from the bare values in the order of its fields. A member that is missing may
stand for something, a member of another name is passed over, and one that is there twice
is refused.

## Main definitions

- `Codec` — how a type is written and read
- `Field`, `Reader` — a field of a record, and how a record is read field by field
- `Reader.ofMembers`, `Reader.ofItems` — the two ways to read a record
- `Agrees` — a record is written with the fields that it is read from

## Main results

- `Agrees.reread_members`, `Agrees.reread_items` — what was read is read back from what is
  written for it
- `ofMembers_perm`, `ofMembers_unknown`, `Agrees.ofMembers_renamed` — order, other members
  and other names do not matter
-/

namespace Serde

variable {V α β : Type}

/-! ## Codecs -/

/-- How the values of a type are written, and how they are read. -/
structure Codec (V α : Type) where
  write : α → V
  read : V → Option α

/-- What is written is read back. -/
def Codec.RoundTrips (c : Codec V α) (a : α) : Prop := c.read (c.write a) = some a

/-- Whatever was read is read back from what is written for it. -/
def Codec.Stable (c : Codec V α) : Prop := ∀ v a, c.read v = some a → c.RoundTrips a

/-! ## Records -/

/-- A field: the name that it is written under, other names that it is read under, and what
it is where its member is missing, or where the values end before it. -/
structure Field (V β : Type) where
  name : String
  aliases : List String
  codec : Codec V β
  absent : Option β
  short : Option β

namespace Field

/-- All names of a field. -/
def names (f : Field V β) : List String := f.name :: f.aliases

/-- The field, from the members under its names. -/
def pick (f : Field V β) : List (String × V) → Option β
  | [] => f.absent
  | [member] => f.codec.read member.2
  | _ :: _ :: _ => none

/-- The field among the members of a record. -/
def find (f : Field V β) (members : List (String × V)) : Option β :=
  f.pick (members.filter (·.1 ∈ f.names))

/-- Whatever the field can be read as is read back from what is written for it. -/
structure Good (f : Field V β) : Prop where
  stable : f.codec.Stable
  absent : ∀ b, f.absent = some b → f.codec.RoundTrips b
  short : ∀ b, f.short = some b → f.codec.RoundTrips b

end Field

/-- How a record is read, field by field. -/
inductive Reader (V α : Type) : Type 1
  | done (a : α)
  | field {β : Type} (f : Field V β) (next : β → Reader V α)

namespace Reader

/-- The record with these members. -/
def ofMembers (members : List (String × V)) : Reader V α → Option α
  | .done a => some a
  | .field f next => (f.find members).bind fun b => ofMembers members (next b)

/-- The record with these values, in the order of its fields. -/
def ofItems : Reader V α → List V → Option α
  | .done a, [] => some a
  | .done _, _ :: _ => none
  | .field f next, [] => f.short.bind fun b => ofItems (next b) []
  | .field f next, v :: vs => (f.codec.read v).bind fun b => ofItems (next b) vs

/-- A name of one of the fields. -/
inductive Knows (name : String) : Reader V α → Prop
  | here {β : Type} {f : Field V β} {next} (h : name ∈ f.names) : Knows name (.field f next)
  | there {β : Type} {f : Field V β} {next} (b : β) (h : Knows name (next b)) :
      Knows name (.field f next)

end Reader

section Members

variable {f : Field V β} {r : Reader V α} {members members' extra : List (String × V)}

theorem pick_perm (h : members.Perm members') : f.pick members = f.pick members' := by
  match members, members' with
  | [], [] => rfl
  | [m], [m'] => rw [List.singleton_perm_singleton.mp h]
  | _ :: _ :: _, _ :: _ :: _ => rfl
  | [], _ :: _ => simp at h
  | _ :: _, [] => simp at h
  | [_], _ :: _ :: _ => simpa using h.length_eq
  | _ :: _ :: _, [_] => simpa using h.length_eq

/-- **Order**: the members of a record can stand in any order. -/
theorem ofMembers_perm (h : members.Perm members') :
    r.ofMembers members = r.ofMembers members' := by
  induction r with
  | done a => rfl
  | field f next ih =>
    have hfind : f.find members = f.find members' := pick_perm (h.filter _)
    rw [Reader.ofMembers, Reader.ofMembers, hfind]
    congr 1
    funext b
    exact ih b

/-- **Other members** are passed over. -/
theorem ofMembers_unknown (h : ∀ m ∈ extra, ¬ r.Knows m.1) :
    r.ofMembers (members ++ extra) = r.ofMembers members := by
  induction r with
  | done a => rfl
  | field f next ih =>
    have hnone : extra.filter (·.1 ∈ f.names) = [] := by
      rw [List.filter_eq_nil_iff]
      intro m hm hname
      exact h m hm (.here (of_decide_eq_true hname))
    have hfind : f.find (members ++ extra) = f.find members := by
      rw [Field.find, Field.find, List.filter_append, hnone, List.append_nil]
    rw [Reader.ofMembers, Reader.ofMembers, hfind]
    congr 1
    funext b
    exact ih b fun m hm hknows => h m hm (.there b hknows)

end Members

/-! ## Writing -/

/-- A record is written with the fields that it is read from, in their order, behind the
members that were written before. The names of the fields are listed. -/
inductive Agrees (write : α → List (String × V)) :
    List (List String) → Reader V α → List (String × V) → Prop
  | done {a before} (h : write a = before) : Agrees write [] (.done a) before
  | field {β : Type} {f : Field V β} {next ns before} (hgood : f.Good)
      (h : ∀ b, Agrees write ns (next b) (before ++ [(f.name, f.codec.write b)])) :
      Agrees write (f.names :: ns) (.field f next) before

/-- No two fields share a name. -/
def Apart (ns : List (List String)) : Prop :=
  ns.Pairwise fun names names' => ∀ name ∈ names, name ∉ names'

instance (ns : List (List String)) : Decidable (Apart ns) :=
  inferInstanceAs (Decidable (ns.Pairwise fun names names' => ∀ name ∈ names, name ∉ names'))

/-- Two members have the same value, under names of the same field. -/
def SameField (ns : List (List String)) (m m' : String × V) : Prop :=
  m.2 = m'.2 ∧ ∀ names ∈ ns, (m.1 ∈ names ↔ m'.1 ∈ names)

/-- The members that are written for a record whose fields are these. -/
inductive Written : Reader V α → List (String × V) → α → Prop
  | done (a : α) : Written (.done a) [] a
  | field {β : Type} {f : Field V β} {next : β → Reader V α} {b ms a}
      (hb : f.codec.RoundTrips b) (h : Written (next b) ms a) :
      Written (.field f next) ((f.name, f.codec.write b) :: ms) a

theorem exists_written_done {a a' : α} : (∃ ms, Written (.done a' : Reader V α) ms a) ↔ a' = a := by
  constructor
  · intro h
    obtain ⟨_, hwritten⟩ := h
    cases hwritten
    rfl
  · rintro rfl
    exact ⟨[], .done _⟩

/-- A record whose first field is read back, and whose other fields are. -/
theorem exists_written_field {f : Field V β} {next : β → Reader V α} {a : α} :
    (∃ ms, Written (.field f next) ms a) ↔
      ∃ b, f.codec.RoundTrips b ∧ ∃ ms, Written (next b) ms a := by
  constructor
  · intro h
    obtain ⟨_, hwritten⟩ := h
    cases hwritten with
    | field hb hwritten => exact ⟨_, hb, _, hwritten⟩
  · intro h
    obtain ⟨b, hb, ms, hwritten⟩ := h
    exact ⟨_, .field hb hwritten⟩

section Writing

variable {write : α → List (String × V)} {ns : List (List String)} {r : Reader V α}
variable {before members ms : List (String × V)} {items : List V} {a : α}

theorem Field.Good.roundTrips_of_pick {f : Field V β} (hf : f.Good) {b : β}
    (h : f.pick members = some b) : f.codec.RoundTrips b := by
  match members, h with
  | [], h => exact hf.absent b h
  | [m], h => exact hf.stable m.2 b h

theorem Agrees.written_of_members (h : Agrees write ns r before)
    (hread : r.ofMembers members = some a) : ∃ ms, Written r ms a := by
  induction h with
  | done h =>
    cases hread
    exact ⟨[], .done _⟩
  | field hgood _ ih =>
    obtain ⟨b, hb, hnext⟩ := Option.bind_eq_some_iff.mp hread
    obtain ⟨ms, hwritten⟩ := ih b hnext
    exact ⟨_, .field (hgood.roundTrips_of_pick hb) hwritten⟩

theorem Agrees.written_of_items (h : Agrees write ns r before) (hread : r.ofItems items = some a) :
    ∃ ms, Written r ms a := by
  induction h generalizing items with
  | done h =>
    cases items with
    | nil =>
      cases hread
      exact ⟨[], .done _⟩
    | cons v items => cases hread
  | field hgood _ ih =>
    cases items with
    | nil =>
      obtain ⟨b, hb, hnext⟩ := Option.bind_eq_some_iff.mp hread
      obtain ⟨ms, hwritten⟩ := ih b hnext
      exact ⟨_, .field (hgood.short b hb) hwritten⟩
    | cons v items =>
      obtain ⟨b, hb, hnext⟩ := Option.bind_eq_some_iff.mp hread
      obtain ⟨ms, hwritten⟩ := ih b hnext
      exact ⟨_, .field (hgood.stable v b hb) hwritten⟩

/-- What is written is what was written before and the members of the fields. -/
theorem Agrees.write_eq (h : Agrees write ns r before) (hwritten : Written r ms a) :
    write a = before ++ ms := by
  induction h generalizing ms with
  | done h =>
    cases hwritten
    rw [h, List.append_nil]
  | field _ _ ih =>
    cases hwritten with
    | field _ hwritten =>
      rw [ih _ hwritten, List.append_assoc]
      rfl

/-- The names that are written are those of the fields. -/
theorem Agrees.mem_names (h : Agrees write ns r before) (hwritten : Written r ms a) :
    ∀ m ∈ ms, ∃ names ∈ ns, m.1 ∈ names := by
  induction h generalizing ms with
  | done h =>
    cases hwritten
    exact fun _ hm => absurd hm List.not_mem_nil
  | field _ _ ih =>
    cases hwritten with
    | field _ hwritten =>
      intro m hm
      rcases List.mem_cons.mp hm with rfl | hm
      · exact ⟨_, List.mem_cons_self, List.mem_cons_self⟩
      · obtain ⟨names, hnames, hname⟩ := ih _ hwritten m hm
        exact ⟨names, List.mem_cons_of_mem _ hnames, hname⟩

/-- Each field is found among the members, behind those of the fields before it. -/
theorem Agrees.ofMembers_written (h : Agrees write ns r before) (hapart : Apart ns)
    (hwritten : Written r ms a) (hbefore : ∀ m ∈ before, ∀ names ∈ ns, m.1 ∉ names) :
    r.ofMembers (before ++ ms) = some a := by
  induction h generalizing ms with
  | done h =>
    cases hwritten
    rfl
  | @field β f next ns before _ hagrees ih =>
    cases hwritten with
    | @field _ _ _ b ms _ hb hwritten =>
      obtain ⟨hfirst, hrest⟩ := List.pairwise_cons.mp hapart
      have hfront : before.filter (·.1 ∈ f.names) = [] := by
        rw [List.filter_eq_nil_iff]
        intro m hm hname
        exact hbefore m hm _ List.mem_cons_self (of_decide_eq_true hname)
      have hback : ms.filter (·.1 ∈ f.names) = [] := by
        rw [List.filter_eq_nil_iff]
        intro m hm hname
        obtain ⟨names, hnames, hin⟩ := (hagrees b).mem_names hwritten m hm
        exact hfirst names hnames _ (of_decide_eq_true hname) hin
      have hfind : f.find (before ++ (f.name, f.codec.write b) :: ms) = some b := by
        have hself : f.name ∈ f.names := List.mem_cons_self
        rw [Field.find, List.filter_append, hfront, List.filter_cons, if_pos (by simpa using hself),
          hback]
        exact hb
      rw [Reader.ofMembers, hfind]
      have hnext := ih b hrest hwritten ?_
      · rwa [List.append_assoc] at hnext
      · intro m hm names hnames
        rcases List.mem_append.mp hm with hm | hm
        · exact hbefore m hm names (List.mem_cons_of_mem _ hnames)
        · rw [List.mem_singleton.mp hm]
          exact hfirst names hnames _ List.mem_cons_self

theorem Written.ofItems (hwritten : Written r ms a) : r.ofItems (ms.map Prod.snd) = some a := by
  induction hwritten with
  | done a => rfl
  | field hb _ ih =>
    rw [List.map_cons, Reader.ofItems, hb]
    exact ih

/-- The two ways to read what is written for a record. -/
def Rereads (r : Reader V α) (write : α → List (String × V)) (a : α) : Prop :=
  r.ofMembers (write a) = some a ∧ r.ofItems ((write a).map Prod.snd) = some a

theorem Agrees.rereads_of_written (h : Agrees write ns r []) (hapart : Apart ns)
    (hwritten : Written r ms a) : Rereads r write a := by
  rw [Rereads, h.write_eq hwritten]
  exact ⟨h.ofMembers_written hapart hwritten (by simp), hwritten.ofItems⟩

theorem Agrees.knows (h : Agrees write ns r before) {name : String} (hknows : r.Knows name) :
    ∃ names ∈ ns, name ∈ names := by
  induction h with
  | done _ => cases hknows
  | field _ _ ih =>
    cases hknows with
    | here hname => exact ⟨_, List.mem_cons_self, hname⟩
    | there b hknows =>
      obtain ⟨names, hnames, hname⟩ := ih b hknows
      exact ⟨names, List.mem_cons_of_mem _ hnames, hname⟩

/-- **What was read from members** is read back from what is written for it. -/
theorem Agrees.reread_members (h : Agrees write ns r []) (hapart : Apart ns)
    (hread : r.ofMembers members = some a) : Rereads r write a := by
  obtain ⟨ms, hwritten⟩ := h.written_of_members hread
  exact h.rereads_of_written hapart hwritten

/-- **What was read from bare values** is so, too. -/
theorem Agrees.reread_items (h : Agrees write ns r []) (hapart : Apart ns)
    (hread : r.ofItems items = some a) : Rereads r write a := by
  obtain ⟨ms, hwritten⟩ := h.written_of_items hread
  exact h.rereads_of_written hapart hwritten

theorem pick_map {f : Field V β} {members' : List (String × V)}
    (h : members.map Prod.snd = members'.map Prod.snd) : f.pick members = f.pick members' := by
  match members, members' with
  | [], [] => rfl
  | [m], [m'] => exact congrArg f.codec.read (List.singleton_inj.mp h)
  | _ :: _ :: _, _ :: _ :: _ => rfl
  | [], _ :: _ => simp at h
  | _ :: _, [] => simp at h
  | [_], _ :: _ :: _ => simp at h
  | _ :: _ :: _, [_] => simp at h

theorem map_filter_renamed {names : List String} {members' : List (String × V)}
    (h : List.Forall₂ (SameField [names]) members members') :
    (members.filter (·.1 ∈ names)).map Prod.snd = (members'.filter (·.1 ∈ names)).map Prod.snd := by
  induction h with
  | nil => rfl
  | @cons m m' _ _ hm _ ih =>
    obtain ⟨hvalue, hname⟩ := hm
    have hiff : m.1 ∈ names ↔ m'.1 ∈ names := hname names (List.mem_singleton.mpr rfl)
    by_cases hin : m.1 ∈ names
    · rw [List.filter_cons_of_pos (by simpa using hin),
        List.filter_cons_of_pos (by simpa using hiff.mp hin), List.map_cons, List.map_cons, ih,
        hvalue]
    · rw [List.filter_cons_of_neg (by simpa using hin),
        List.filter_cons_of_neg (by simpa using fun h => hin (hiff.mpr h)), ih]

/-- **Other names** of a field do as well. -/
theorem Agrees.ofMembers_renamed (h : Agrees write ns r before) {members' : List (String × V)}
    (hrenamed : List.Forall₂ (SameField ns) members members') :
    r.ofMembers members = r.ofMembers members' := by
  induction h with
  | done _ => rfl
  | @field β f next ns _ _ _ ih =>
    have hfind : f.find members = f.find members' := by
      apply pick_map
      apply map_filter_renamed
      exact hrenamed.imp fun m m' hm => ⟨hm.1, fun names hnames =>
        hm.2 names (List.mem_singleton.mp hnames ▸ List.mem_cons_self)⟩
    rw [Reader.ofMembers, Reader.ofMembers, hfind]
    congr 1
    funext b
    exact ih b (hrenamed.imp fun m m' hm =>
      ⟨hm.1, fun names hnames => hm.2 names (List.mem_cons_of_mem _ hnames)⟩)

/-- What is read back is so when its members go by other names, and stand among unknown
members in any order. -/
theorem Agrees.ofMembers_mixed (h : Agrees write ns r []) (hrereads : Rereads r write a)
    {extra object : List (String × V)} (hrenamed : List.Forall₂ (SameField ns) (write a) members)
    (hextra : ∀ m ∈ extra, ∀ names ∈ ns, m.1 ∉ names) (hperm : (members ++ extra).Perm object) :
    r.ofMembers object = some a := by
  have hunknown : ∀ m ∈ extra, ¬ r.Knows m.1 := by
    intro m hm hknows
    obtain ⟨names, hnames, hname⟩ := h.knows hknows
    exact hextra m hm names hnames hname
  rw [← ofMembers_perm hperm, ofMembers_unknown hunknown, ← h.ofMembers_renamed hrenamed]
  exact hrereads.1

end Writing

end Serde
