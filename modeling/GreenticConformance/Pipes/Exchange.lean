import Mathlib.Logic.Relation
import Mathlib.Tactic.Common

/-!
# A program behind three pipes

A host starts a program, writes its input, closes it, and then reads both outputs until
the program has exited. Each stream is a pipe: a queue of bounded length on which a
writer waits while it is full and a reader while it is empty. Host and program take
steps in any order.

## Main definitions

- `Program` — what a program may do next
- `Finishes` — a program that reads its input and exits, if its output is read
- `Step`, `Deadlock` — the two sides together
- `Jams` — a program that fills its outputs with too much input still unread

## Main results

- `deadlockFree_iff` — the exchange is free of deadlocks exactly if the program does
  not jam
- `deadlockFree_drained` — an exchange with nothing to write is always free of them
-/

namespace Pipes

variable {β : Type*}

/-! ## Programs -/

/-- What a program does in a step. -/
inductive Action (β : Type*) where
  | read (b : β)
  | eof
  | out (b : β)
  | err (b : β)
  | internal

/-- A program, by what it may do in each state. One that has exited does nothing. -/
structure Program (β : Type*) where
  State : Type
  start : State
  step : State → Action β → State → Prop
  Exited : State → Prop
  exited_stops : ∀ {s a s'}, Exited s → ¬ step s a s'

/-- The lengths of the three pipes. -/
structure Capacities where
  stdin : ℕ
  stdout : ℕ
  stderr : ℕ
  stdin_pos : 0 < stdin
  stdout_pos : 0 < stdout
  stderr_pos : 0 < stderr

section Alone

variable (P : Program β)

/-- A step of a program that has all of its input before it and whose output is read. -/
inductive Alone : List β → P.State → List β → P.State → Prop
  | read {b rest s s'} (h : P.step s (.read b) s') : Alone (b :: rest) s rest s'
  | eof {s s'} (h : P.step s .eof s') : Alone [] s [] s'
  | out {b rest s s'} (h : P.step s (.out b) s') : Alone rest s rest s'
  | err {b rest s s'} (h : P.step s (.err b) s') : Alone rest s rest s'
  | internal {rest s s'} (h : P.step s .internal s') : Alone rest s rest s'

/-- Whatever the program does, it comes to an end and has read the input by then. -/
inductive Finishes : List β → P.State → Prop
  | exited {s} (h : P.Exited s) : Finishes [] s
  | moves {rest s} (hmove : ∃ rest' s', Alone P rest s rest' s')
      (h : ∀ rest' s', Alone P rest s rest' s' → Finishes rest' s') : Finishes rest s

variable {P}

theorem alone_iff {rest rest' : List β} {s s' : P.State} :
    Alone P rest s rest' s' ↔
      (∃ b, rest = b :: rest' ∧ P.step s (.read b) s') ∨
      (rest = [] ∧ rest' = [] ∧ P.step s .eof s') ∨
      rest = rest' ∧ ((∃ b, P.step s (.out b) s') ∨ (∃ b, P.step s (.err b) s') ∨
        P.step s .internal s') := by
  constructor
  · intro h
    cases h with
    | read h => exact .inl ⟨_, rfl, h⟩
    | eof h => exact .inr (.inl ⟨rfl, rfl, h⟩)
    | out h => exact .inr (.inr ⟨rfl, .inl ⟨_, h⟩⟩)
    | err h => exact .inr (.inr ⟨rfl, .inr (.inl ⟨_, h⟩)⟩)
    | internal h => exact .inr (.inr ⟨rfl, .inr (.inr h)⟩)
  · intro h
    obtain ⟨b, rfl, h⟩ | ⟨rfl, rfl, h⟩ | ⟨rfl, ⟨b, h⟩ | ⟨b, h⟩ | h⟩ := h
    · exact .read h
    · exact .eof h
    · exact .out h
    · exact .err h
    · exact .internal h

theorem Alone.not_exited {rest rest' : List β} {s s' : P.State} (h : Alone P rest s rest' s') :
    ¬ P.Exited s := by
  intro hexited
  cases h with
  | read h => exact P.exited_stops hexited h
  | eof h => exact P.exited_stops hexited h
  | out h => exact P.exited_stops hexited h
  | err h => exact P.exited_stops hexited h
  | internal h => exact P.exited_stops hexited h

theorem Finishes.next {rest rest' : List β} {s s' : P.State} (h : Finishes P rest s)
    (hmove : Alone P rest s rest' s') : Finishes P rest' s' := by
  cases h with
  | exited hexited => exact absurd hexited hmove.not_exited
  | moves _ h => exact h rest' s' hmove

/-- A program that has input left has not exited, and can move. -/
theorem Finishes.not_exited {rest : List β} {s : P.State} (h : Finishes P rest s)
    (hrest : rest ≠ []) : ¬ P.Exited s := by
  cases h with
  | exited _ => exact absurd rfl hrest
  | moves hmove _ =>
    obtain ⟨_, _, hmove⟩ := hmove
    exact hmove.not_exited

end Alone

/-! ## The two sides together -/

/-- Where the host is. -/
inductive Phase (β : Type*) where
  | writing (rest : List β)
  | draining
  | returned

/-- The host, the pipes and the program. -/
structure Exchange (P : Program β) where
  phase : Phase β
  stdin : List β
  stdout : List β
  stderr : List β
  program : P.State

variable {P : Program β} {caps : Capacities}

/-- A step of either side. A write to a program that has exited fails, and the host
returns. -/
inductive Step (caps : Capacities) : Exchange P → Exchange P → Prop
  | write {b rest i o e s} (h : i.length < caps.stdin) :
      Step caps ⟨.writing (b :: rest), i, o, e, s⟩ ⟨.writing rest, i ++ [b], o, e, s⟩
  | broken {b rest i o e s} (h : P.Exited s) :
      Step caps ⟨.writing (b :: rest), i, o, e, s⟩ ⟨.returned, i, o, e, s⟩
  | close {i o e s} : Step caps ⟨.writing [], i, o, e, s⟩ ⟨.draining, i, o, e, s⟩
  | drainOut {b i o e s} : Step caps ⟨.draining, i, b :: o, e, s⟩ ⟨.draining, i, o, e, s⟩
  | drainErr {b i o e s} : Step caps ⟨.draining, i, o, b :: e, s⟩ ⟨.draining, i, o, e, s⟩
  | finish {i s} (h : P.Exited s) : Step caps ⟨.draining, i, [], [], s⟩ ⟨.returned, i, [], [], s⟩
  | read {p b i o e s s'} (h : P.step s (.read b) s') :
      Step caps ⟨p, b :: i, o, e, s⟩ ⟨p, i, o, e, s'⟩
  | eof {p o e s s'} (hclosed : ∀ rest, p ≠ .writing rest) (h : P.step s .eof s') :
      Step caps ⟨p, [], o, e, s⟩ ⟨p, [], o, e, s'⟩
  | out {p b i o e s s'} (h : P.step s (.out b) s') (hroom : o.length < caps.stdout) :
      Step caps ⟨p, i, o, e, s⟩ ⟨p, i, o ++ [b], e, s'⟩
  | err {p b i o e s s'} (h : P.step s (.err b) s') (hroom : e.length < caps.stderr) :
      Step caps ⟨p, i, o, e, s⟩ ⟨p, i, o, e ++ [b], s'⟩
  | internal {p i o e s s'} (h : P.step s .internal s') :
      Step caps ⟨p, i, o, e, s⟩ ⟨p, i, o, e, s'⟩

/-- The host waits, and neither side can move. -/
def Deadlock (caps : Capacities) (x : Exchange P) : Prop :=
  x.phase ≠ .returned ∧ ∀ y, ¬ Step caps x y

/-- No order of steps leads to a deadlock. -/
def DeadlockFree (caps : Capacities) (x : Exchange P) : Prop :=
  ∀ y, Relation.ReflTransGen (Step caps) x y → ¬ Deadlock caps y

/-- The host is about to write an input to the program. -/
def writeTo (P : Program β) (input : List β) : Exchange P := ⟨.writing input, [], [], [], P.start⟩

/-- The host has nothing to write. -/
def drain (P : Program β) : Exchange P := ⟨.draining, [], [], [], P.start⟩

/-! ## Programs that jam -/

/-- What a program can get to while nobody reads its output: the input that is left, and
what it has written. -/
inductive Undrained (P : Program β) (caps : Capacities) (input : List β) :
    List β → List β → List β → P.State → Prop
  | start : Undrained P caps input input [] [] P.start
  | read {b rest o e s s'} (h : Undrained P caps input (b :: rest) o e s)
      (hstep : P.step s (.read b) s') : Undrained P caps input rest o e s'
  | out {b rest o e s s'} (h : Undrained P caps input rest o e s) (hstep : P.step s (.out b) s')
      (hroom : o.length < caps.stdout) : Undrained P caps input rest (o ++ [b]) e s'
  | err {b rest o e s s'} (h : Undrained P caps input rest o e s) (hstep : P.step s (.err b) s')
      (hroom : e.length < caps.stderr) : Undrained P caps input rest o (e ++ [b]) s'
  | internal {rest o e s s'} (h : Undrained P caps input rest o e s)
      (hstep : P.step s .internal s') : Undrained P caps input rest o e s'

/-- The action has to wait: it writes to a full pipe, or reads what is not there. -/
def Waits (caps : Capacities) (rest o e : List β) : Action β → Prop
  | .read b => rest.head? ≠ some b
  | .eof => True
  | .out _ => caps.stdout ≤ o.length
  | .err _ => caps.stderr ≤ e.length
  | .internal => False

/-- The program can get, with its output unread, to where it has to wait while more of its
input is left than the pipe holds. -/
def Jams (P : Program β) (caps : Capacities) (input : List β) : Prop :=
  ∃ rest o e s, Undrained P caps input rest o e s ∧ caps.stdin < rest.length ∧
    ∀ a s', P.step s a s' → Waits caps rest o e a

theorem Undrained.finishes {input rest o e : List β} {s : P.State}
    (h : Undrained P caps input rest o e s) (hinput : Finishes P input P.start) :
    Finishes P rest s := by
  induction h with
  | start => exact hinput
  | read _ hstep ih => exact ih.next (.read hstep)
  | out _ hstep _ ih => exact ih.next (.out hstep)
  | err _ hstep _ ih => exact ih.next (.err hstep)
  | internal _ hstep ih => exact ih.next (.internal hstep)

theorem Undrained.length_le {input rest o e : List β} {s : P.State}
    (h : Undrained P caps input rest o e s) : rest.length ≤ input.length := by
  induction h with
  | start => exact Nat.le_refl _
  | read _ _ ih => exact Nat.le_of_succ_le ih
  | out _ _ _ ih => exact ih
  | err _ _ _ ih => exact ih
  | internal _ _ ih => exact ih

/-- An input that fits into the pipe jams no program. -/
theorem not_jams_of_length_le {input : List β} (h : input.length ≤ caps.stdin) :
    ¬ Jams P caps input := by
  intro hjams
  obtain ⟨rest, o, e, s, hundrained, hmore, _⟩ := hjams
  have hle := hundrained.length_le
  omega

/-! ## Deadlocks come from jams -/

/-- What holds after any steps of an exchange: the host writes to a program whose output
nobody has read, or the program has all of its input before it. -/
def Invariant (caps : Capacities) (input : List β) (x : Exchange P) : Prop :=
  match x.phase with
  | .writing rest => Undrained P caps input (x.stdin ++ rest) x.stdout x.stderr x.program ∧
      x.stdin.length ≤ caps.stdin
  | .draining => Finishes P x.stdin x.program
  | .returned => True

theorem Step.invariant {input : List β} (hinput : Finishes P input P.start) {x y : Exchange P}
    (hstep : Step caps x y) (h : Invariant caps input x) : Invariant caps input y := by
  cases hstep with
  | write hroom =>
    obtain ⟨hundrained, _⟩ := h
    refine ⟨?_, ?_⟩
    · simpa using hundrained
    · rw [List.length_append]
      exact hroom
  | broken _ => trivial
  | close =>
    obtain ⟨hundrained, _⟩ := h
    have hrest := hundrained.finishes hinput
    rwa [List.append_nil] at hrest
  | drainOut => exact h
  | drainErr => exact h
  | finish _ => trivial
  | @read p _ _ _ _ _ _ hmove =>
    cases p with
    | writing rest =>
      obtain ⟨hundrained, hroom⟩ := h
      exact ⟨hundrained.read hmove, Nat.le_of_succ_le hroom⟩
    | draining => exact h.next (.read hmove)
    | returned => trivial
  | @eof p _ _ _ _ hclosed hmove =>
    cases p with
    | writing rest => exact absurd rfl (hclosed rest)
    | draining => exact h.next (.eof hmove)
    | returned => trivial
  | @out p _ _ _ _ _ _ hmove hroom =>
    cases p with
    | writing rest => exact ⟨h.1.out hmove hroom, h.2⟩
    | draining => exact h.next (.out hmove)
    | returned => trivial
  | @err p _ _ _ _ _ _ hmove hroom =>
    cases p with
    | writing rest => exact ⟨h.1.err hmove hroom, h.2⟩
    | draining => exact h.next (.err hmove)
    | returned => trivial
  | @internal p _ _ _ _ _ hmove =>
    cases p with
    | writing rest => exact ⟨h.1.internal hmove, h.2⟩
    | draining => exact h.next (.internal hmove)
    | returned => trivial

theorem reachable_invariant {input : List β} (hinput : Finishes P input P.start)
    {x y : Exchange P} (hsteps : Relation.ReflTransGen (Step caps) x y)
    (h : Invariant caps input x) : Invariant caps input y := by
  induction hsteps with
  | refl => exact h
  | tail _ hstep ih => exact hstep.invariant hinput ih

/-- A host that reads the output of a program that is coming to its end is not stuck. -/
theorem not_deadlock_draining {i o e : List β} {s : P.State} (h : Finishes P i s) :
    ¬ Deadlock caps ⟨.draining, i, o, e, s⟩ := by
  intro hdead
  have hstuck := hdead.2
  cases o with
  | cons b o => exact hstuck _ .drainOut
  | nil =>
    cases e with
    | cons b e => exact hstuck _ .drainErr
    | nil =>
      cases h with
      | exited hexited => exact hstuck _ (.finish hexited)
      | moves hmove _ =>
        obtain ⟨_, _, hmove⟩ := hmove
        cases hmove with
        | read hstep => exact hstuck _ (.read hstep)
        | eof hstep => exact hstuck _ (.eof (by simp) hstep)
        | out hstep => exact hstuck _ (.out hstep caps.stdout_pos)
        | err hstep => exact hstuck _ (.err hstep caps.stderr_pos)
        | internal hstep => exact hstuck _ (.internal hstep)

/-- A deadlock while the host writes shows a program that jams. -/
theorem jams_of_deadlock {input rest i o e : List β} {s : P.State}
    (h : Invariant caps input ⟨.writing rest, i, o, e, s⟩)
    (hdead : Deadlock caps ⟨.writing rest, i, o, e, s⟩) : Jams P caps input := by
  obtain ⟨hundrained, hle⟩ := h
  dsimp only at hundrained hle
  have hstuck := hdead.2
  cases rest with
  | nil => exact absurd .close (hstuck _)
  | cons b rest =>
    -- the host has to wait, so the pipe is full
    have hfull : ¬ i.length < caps.stdin := fun hroom => hstuck _ (.write hroom)
    refine ⟨i ++ b :: rest, o, e, s, hundrained, ?_, ?_⟩
    · simp
      omega
    · intro a s' hstep
      cases a with
      | read c =>
        intro hhead
        cases i with
        | nil => exact absurd caps.stdin_pos hfull
        | cons d i =>
          obtain rfl : d = c := by simpa using hhead
          exact hstuck _ (.read hstep)
      | eof => trivial
      | out c => exact Nat.not_lt.mp fun hroom => hstuck _ (.out hstep hroom)
      | err c => exact Nat.not_lt.mp fun hroom => hstuck _ (.err hstep hroom)
      | internal => exact hstuck _ (.internal hstep)

/-! ## Jams make deadlocks -/

/-- The host can write on until the pipe is full. -/
theorem fill {i o e rest : List β} {s : P.State} {n : ℕ} (hn : i.length + n ≤ caps.stdin)
    (hrest : n ≤ rest.length) :
    Relation.ReflTransGen (Step caps) ⟨.writing rest, i, o, e, s⟩
      ⟨.writing (rest.drop n), i ++ rest.take n, o, e, s⟩ := by
  induction n generalizing i rest with
  | zero => simpa using Relation.ReflTransGen.refl
  | succ n ih =>
    cases rest with
    | nil => simp at hrest
    | cons b rest =>
      have hstep : Step caps (⟨.writing (b :: rest), i, o, e, s⟩ : Exchange P)
          ⟨.writing rest, i ++ [b], o, e, s⟩ := .write (by omega)
      have hsteps := @ih (i ++ [b]) rest (by simp; omega) (by simpa using hrest)
      simpa using Relation.ReflTransGen.head hstep hsteps

/-- What the program can get to with its output unread, it can get to while the host
writes. -/
theorem exists_writing {input rest o e : List β} {s : P.State}
    (h : Undrained P caps input rest o e s) :
    ∃ i w, i ++ w = rest ∧ i.length ≤ caps.stdin ∧
      Relation.ReflTransGen (Step caps) (writeTo P input) ⟨.writing w, i, o, e, s⟩ := by
  induction h with
  | start => exact ⟨[], input, rfl, Nat.zero_le _, .refl⟩
  | @read b rest o e s s' _ hstep ih =>
    obtain ⟨i, w, heq, hle, hsteps⟩ := ih
    cases i with
    | nil =>
      -- nothing is in the pipe yet, so the host has to write first
      obtain rfl : w = b :: rest := heq
      refine ⟨[], rest, rfl, Nat.zero_le _, (hsteps.tail (.write caps.stdin_pos)).tail ?_⟩
      exact .read hstep
    | cons c i =>
      obtain ⟨rfl, rfl⟩ : c = b ∧ i ++ w = rest := by simpa using heq
      exact ⟨i, w, rfl, Nat.le_of_succ_le hle, hsteps.tail (.read hstep)⟩
  | out _ hstep hroom ih =>
    obtain ⟨i, w, heq, hle, hsteps⟩ := ih
    exact ⟨i, w, heq, hle, hsteps.tail (.out hstep hroom)⟩
  | err _ hstep hroom ih =>
    obtain ⟨i, w, heq, hle, hsteps⟩ := ih
    exact ⟨i, w, heq, hle, hsteps.tail (.err hstep hroom)⟩
  | internal _ hstep ih =>
    obtain ⟨i, w, heq, hle, hsteps⟩ := ih
    exact ⟨i, w, heq, hle, hsteps.tail (.internal hstep)⟩

/-- A host that waits for room before a program that waits is stuck. -/
theorem deadlock_of_waits {b : β} {w i o e : List β} {s : P.State}
    (hfull : i.length = caps.stdin) (hexited : ¬ P.Exited s)
    (hwaits : ∀ a s', P.step s a s' → Waits caps (i ++ b :: w) o e a) :
    Deadlock caps ⟨.writing (b :: w), i, o, e, s⟩ := by
  refine ⟨by simp, ?_⟩
  intro y hstep
  cases hstep with
  | write hroom => omega
  | broken h => exact hexited h
  | read h => exact hwaits _ _ h rfl
  | eof hclosed _ => exact hclosed _ rfl
  | out h hroom => exact absurd hroom (Nat.not_lt.mpr (hwaits _ _ h))
  | err h hroom => exact absurd hroom (Nat.not_lt.mpr (hwaits _ _ h))
  | internal h => exact hwaits _ _ h

theorem exists_deadlock_of_jams {input : List β} (hinput : Finishes P input P.start)
    (h : Jams P caps input) :
    ∃ x, Relation.ReflTransGen (Step caps) (writeTo P input) x ∧ Deadlock caps x := by
  obtain ⟨rest, o, e, s, hundrained, hmore, hwaits⟩ := h
  obtain ⟨i, w, rfl, hle, hsteps⟩ := exists_writing hundrained
  rw [List.length_append] at hmore
  -- the host fills the pipe, and has something left to write
  have hfill := @fill _ _ caps i o e w s (caps.stdin - i.length) (by omega) (by omega)
  obtain ⟨b, w', hw⟩ : ∃ b w', w.drop (caps.stdin - i.length) = b :: w' := by
    apply List.exists_cons_of_ne_nil
    intro hnil
    have hlen := congrArg List.length hnil
    simp at hlen
    omega
  have hsplit : i ++ w.take (caps.stdin - i.length) ++ b :: w' = i ++ w := by
    rw [← hw, List.append_assoc, List.take_append_drop]
  rw [hw] at hfill
  refine ⟨_, hsteps.trans hfill, deadlock_of_waits ?_ ?_ (by rwa [hsplit])⟩
  · simp
    omega
  · rw [← hsplit] at hundrained
    exact (hundrained.finishes hinput).not_exited (by simp)

/-- The exchange with a program that comes to its end is free of deadlocks exactly if the
program does not jam. -/
theorem deadlockFree_iff {input : List β} (hinput : Finishes P input P.start) :
    DeadlockFree caps (writeTo P input) ↔ ¬ Jams P caps input := by
  constructor
  · intro hfree hjams
    obtain ⟨x, hsteps, hdead⟩ := exists_deadlock_of_jams hinput hjams
    exact hfree x hsteps hdead
  · intro hjams x hsteps hdead
    have hinv := reachable_invariant hinput hsteps ⟨.start, Nat.zero_le _⟩
    obtain ⟨phase, i, o, e, s⟩ := x
    cases phase with
    | writing rest => exact hjams (jams_of_deadlock hinv hdead)
    | draining => exact not_deadlock_draining hinv hdead
    | returned => exact hdead.1 rfl

/-- With nothing to write there is no deadlock: the host reads from the start. -/
theorem deadlockFree_drained (h : Finishes P [] P.start) : DeadlockFree caps (drain P) := by
  intro x hsteps hdead
  have hinv := @reachable_invariant _ _ _ [] h _ _ hsteps h
  obtain ⟨phase, i, o, e, s⟩ := x
  cases phase with
  | writing rest => exact not_jams_of_length_le (Nat.zero_le _) (jams_of_deadlock hinv hdead)
  | draining => exact not_deadlock_draining hinv hdead
  | returned => exact hdead.1 rfl

end Pipes
