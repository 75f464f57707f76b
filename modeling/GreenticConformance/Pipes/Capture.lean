import GreenticConformance.Pipes.Exchange
import Mathlib.Order.WellFounded

/-!
# What the host holds in the end

The host keeps what it takes out of the two output pipes. However its steps and those of
the program follow each other, what it holds when it returns is what the program writes
when it runs on its own, with all of its input before it; and it does return, unless both
sides get stuck.

## Main definitions

- `Solo` — a program on its own, with what it has written
- `Captures` — a run of the exchange, with what the host has taken out of the pipes
- `ahead` — the input that the program has not read

## Main results

- `Captures.outputs` — the host ends with the output of the program
- `acc_of_finishes` — no run goes on forever
- `Outputs.unique` — a deterministic program has one output
-/

namespace Pipes

open Relation

variable {β : Type*} {P : Program β} {caps : Capacities}

/-! ## A program on its own -/

/-- A program that has its input before it, and what it has written. -/
structure Solo (P : Program β) where
  rest : List β
  stdout : List β
  stderr : List β
  program : P.State

inductive Solo.Step : Solo P → Solo P → Prop
  | read {b rest o e s s'} (h : P.step s (.read b) s') :
      Solo.Step ⟨b :: rest, o, e, s⟩ ⟨rest, o, e, s'⟩
  | eof {o e s s'} (h : P.step s .eof s') : Solo.Step ⟨[], o, e, s⟩ ⟨[], o, e, s'⟩
  | out {b rest o e s s'} (h : P.step s (.out b) s') :
      Solo.Step ⟨rest, o, e, s⟩ ⟨rest, o ++ [b], e, s'⟩
  | err {b rest o e s s'} (h : P.step s (.err b) s') :
      Solo.Step ⟨rest, o, e, s⟩ ⟨rest, o, e ++ [b], s'⟩
  | internal {rest o e s s'} (h : P.step s .internal s') :
      Solo.Step ⟨rest, o, e, s⟩ ⟨rest, o, e, s'⟩

/-- What the program can get to from its start. -/
def Writes (P : Program β) (input : List β) (solo : Solo P) : Prop :=
  ReflTransGen Solo.Step ⟨input, [], [], P.start⟩ solo

/-- The program reads the input, writes these outputs and exits in this state. -/
def Outputs (P : Program β) (input o e : List β) (s : P.State) : Prop :=
  Writes P input ⟨[], o, e, s⟩ ∧ P.Exited s

/-- What the program does next depends on nothing but its input. -/
structure Program.Deterministic (P : Program β) : Prop where
  next : ∀ {s a s' s''}, P.step s a s' → P.step s a s'' → s' = s''
  action : ∀ {s a a' s' s''}, P.step s a s' → P.step s a' s'' →
    a = a' ∨ ((a = .eof ∨ ∃ b, a = .read b) ∧ (a' = .eof ∨ ∃ b, a' = .read b))

theorem Solo.Step.not_exited {x y : Solo P} (h : Solo.Step x y) : ¬ P.Exited x.program := by
  intro hexited
  cases h with
  | read h => exact P.exited_stops hexited h
  | eof h => exact P.exited_stops hexited h
  | out h => exact P.exited_stops hexited h
  | err h => exact P.exited_stops hexited h
  | internal h => exact P.exited_stops hexited h

/-- What a step does to the input and the outputs, by the action. -/
def Solo.next (x : Solo P) (s : P.State) : Action β → Solo P
  | .read _ => ⟨x.rest.tail, x.stdout, x.stderr, s⟩
  | .eof => ⟨x.rest, x.stdout, x.stderr, s⟩
  | .out b => ⟨x.rest, x.stdout ++ [b], x.stderr, s⟩
  | .err b => ⟨x.rest, x.stdout, x.stderr ++ [b], s⟩
  | .internal => ⟨x.rest, x.stdout, x.stderr, s⟩

/-- A step is one of an action, which reads what comes next. -/
theorem Solo.Step.exists_action {x y : Solo P} (h : Solo.Step x y) :
    ∃ a s, P.step x.program a s ∧ y = x.next s a ∧ (∀ b, a = .read b → x.rest.head? = some b) ∧
      (a = .eof → x.rest = []) := by
  cases h with
  | read h => exact ⟨_, _, h, rfl, by simp, by simp⟩
  | eof h => exact ⟨_, _, h, rfl, by simp, by simp⟩
  | out h => exact ⟨_, _, h, rfl, by simp, by simp⟩
  | err h => exact ⟨_, _, h, rfl, by simp, by simp⟩
  | internal h => exact ⟨_, _, h, rfl, by simp, by simp⟩

theorem rightUnique_step (hP : P.Deterministic) : Relator.RightUnique (Solo.Step (P := P)) := by
  intro x y z hy hz
  obtain ⟨a, s, hstep, rfl, hread, heof⟩ := hy.exists_action
  obtain ⟨a', s', hstep', rfl, hread', heof'⟩ := hz.exists_action
  -- two reads are of the same byte, and none is where the input ends
  have haction : a = a' := by
    rcases hP.action hstep hstep' with heq | ⟨rfl | ⟨b, rfl⟩, rfl | ⟨b', rfl⟩⟩
    · exact heq
    · rfl
    · have hhead := hread' b' rfl
      rw [heof rfl] at hhead
      cases hhead
    · have hhead := hread b rfl
      rw [heof' rfl] at hhead
      cases hhead
    · have hbyte : some b = some b' := (hread b rfl).symm.trans (hread' b' rfl)
      rw [Option.some.inj hbyte]
  subst haction
  rw [hP.next hstep hstep']

/-- A deterministic program has one output, and one state to exit in. -/
theorem Outputs.unique (hP : P.Deterministic) {input o e o' e' : List β} {s s' : P.State}
    (h : Outputs P input o e s) (h' : Outputs P input o' e' s') : o = o' ∧ e = e' ∧ s = s' := by
  have hlast : ∀ {x y : Solo P}, P.Exited x.program → ReflTransGen Solo.Step x y → x = y := by
    intro x y hexited hsteps
    rcases hsteps.cases_head with heq | ⟨z, hstep, _⟩
    · exact heq
    · exact absurd hexited hstep.not_exited
  have heq : (⟨[], o, e, s⟩ : Solo P) = ⟨[], o', e', s'⟩ := by
    rcases ReflTransGen.total_of_right_unique (rightUnique_step hP) h.1 h'.1 with hsteps | hsteps
    · exact hlast h.2 hsteps
    · exact (hlast h'.2 hsteps).symm
  cases heq
  exact ⟨rfl, rfl, rfl⟩

/-! ## What the host has taken -/

/-- What is missing in front of a queue. -/
def taken (before after : List β) : List β := before.take (before.length - after.length)

@[simp] theorem taken_self (l : List β) : taken l l = [] := by simp [taken]

@[simp] theorem taken_cons (b : β) (l : List β) : taken (b :: l) l = [b] := by simp [taken]

@[simp] theorem taken_append (l l' : List β) : taken l (l ++ l') = [] := by simp [taken]

/-- A run of the exchange, with what the host has taken out of the two output pipes. -/
inductive Captures (caps : Capacities) (x : Exchange P) : List β → List β → Exchange P → Prop
  | refl : Captures caps x [] [] x
  | tail {o e y z} (h : Captures caps x o e y) (hstep : Step caps y z) :
      Captures caps x (o ++ taken y.stdout z.stdout) (e ++ taken y.stderr z.stderr) z

theorem Captures.steps {x y : Exchange P} {o e : List β} (h : Captures caps x o e y) :
    ReflTransGen (Step caps) x y := by
  induction h with
  | refl => exact .refl
  | tail _ hstep ih => exact ih.tail hstep

/-! ## The input that is left -/

/-- What the host has still to write. -/
def Phase.unwritten : Phase β → List β
  | .writing rest => rest
  | .draining => []
  | .returned => []

/-- The input that the program has not read. -/
def ahead (x : Exchange P) : List β := x.stdin ++ x.phase.unwritten

/-- How much the host has to do before it can return. -/
def toDo (x : Exchange P) : ℕ :=
  x.stdout.length + x.stderr.length +
    match x.phase with
    | .writing rest => rest.length + 2
    | .draining => 1
    | .returned => 0

/-- The program on its own, with what it has written by now. -/
def alone (x : Exchange P) (o e : List β) : Solo P :=
  ⟨ahead x, o ++ x.stdout, e ++ x.stderr, x.program⟩

/-- A step of the exchange is one of the host, which the program does not notice, or one
of the program. -/
theorem Step.host_or_program {x y : Exchange P} (hstep : Step caps x y)
    (h : Finishes P (ahead x) x.program) (o e : List β) :
    alone y (o ++ taken x.stdout y.stdout) (e ++ taken x.stderr y.stderr) = alone x o e ∧
        toDo y < toDo x ∨
      Alone P (ahead x) x.program (ahead y) y.program ∧ Solo.Step (alone x o e)
        (alone y (o ++ taken x.stdout y.stdout) (e ++ taken x.stderr y.stderr)) := by
  cases hstep with
  | write _ =>
    refine .inl ⟨?_, ?_⟩
    · simp [alone, ahead, Phase.unwritten]
    · simp [toDo]
  | broken hexited => exact absurd hexited (h.not_exited (by simp [ahead, Phase.unwritten]))
  | close =>
    refine .inl ⟨?_, ?_⟩
    · simp [alone, ahead, Phase.unwritten]
    · simp [toDo]
  | drainOut =>
    refine .inl ⟨?_, ?_⟩
    · simp [alone, ahead]
    · simp [toDo]
  | drainErr =>
    refine .inl ⟨?_, ?_⟩
    · simp [alone, ahead]
    · simp [toDo]
  | finish _ =>
    refine .inl ⟨?_, ?_⟩
    · simp [alone, ahead, Phase.unwritten]
    · simp [toDo]
  | read hmove =>
    refine .inr ⟨.read hmove, ?_⟩
    simpa [alone, ahead] using Solo.Step.read hmove
  | @eof p _ _ _ _ hclosed hmove =>
    have hnil : p.unwritten = [] := by
      cases p with
      | writing rest => exact absurd rfl (hclosed rest)
      | draining => rfl
      | returned => rfl
    refine .inr ?_
    simp only [alone, ahead, hnil, taken_self, List.append_nil]
    exact ⟨.eof hmove, .eof hmove⟩
  | out hmove _ =>
    refine .inr ⟨.out hmove, ?_⟩
    simpa [alone, ahead, ← List.append_assoc] using Solo.Step.out hmove
  | err hmove _ =>
    refine .inr ⟨.err hmove, ?_⟩
    simpa [alone, ahead, ← List.append_assoc] using Solo.Step.err hmove
  | internal hmove =>
    refine .inr ⟨.internal hmove, ?_⟩
    simpa [alone, ahead] using Solo.Step.internal hmove

/-- A program that comes to its end keeps on coming to it. -/
theorem Step.finishes {x y : Exchange P} (hstep : Step caps x y)
    (h : Finishes P (ahead x) x.program) : Finishes P (ahead y) y.program := by
  rcases hstep.host_or_program h [] [] with ⟨heq, _⟩ | ⟨hmove, _⟩
  · have hahead : ahead y = ahead x := congrArg Solo.rest heq
    have hprogram : y.program = x.program := congrArg Solo.program heq
    rwa [hahead, hprogram]
  · exact h.next hmove

/-! ## No run goes on forever -/

/-- Between two steps of the program the host has only so much to do. -/
theorem acc_of_moves {x : Exchange P} (h : Finishes P (ahead x) x.program)
    (hmoves : ∀ y : Exchange P, Alone P (ahead x) x.program (ahead y) y.program →
      Acc (fun z y => Step caps y z) y) : Acc (fun z y => Step caps y z) x := by
  generalize hn : toDo x = n
  induction n using Nat.strong_induction_on generalizing x with
  | h n ih =>
    constructor
    intro y hstep
    rcases hstep.host_or_program h [] [] with ⟨heq, hlt⟩ | ⟨hmove, _⟩
    · have hahead : ahead y = ahead x := congrArg Solo.rest heq
      have hprogram : y.program = x.program := congrArg Solo.program heq
      refine ih (toDo y) (hn ▸ hlt) (hstep.finishes h) ?_ rfl
      rw [hahead, hprogram]
      exact hmoves
    · exact hmoves y hmove

theorem acc_of_finishes {rest : List β} {s : P.State} (h : Finishes P rest s) :
    ∀ x : Exchange P, ahead x = rest → x.program = s → Acc (fun z y => Step caps y z) x := by
  induction h with
  | exited hexited =>
    rintro x hahead rfl
    refine acc_of_moves (hahead ▸ .exited hexited) fun y hmove => ?_
    exact absurd hexited hmove.not_exited
  | moves hmove h ih =>
    rintro x rfl rfl
    exact acc_of_moves (.moves hmove h) fun y hmoved => ih _ _ hmoved y rfl rfl

/-! ## What a whole run has captured -/

/-- The start of an exchange: nothing has been written or read. -/
structure Fresh (input : List β) (x : Exchange P) : Prop where
  ahead_eq : ahead x = input
  stdout : x.stdout = []
  stderr : x.stderr = []
  program : x.program = P.start
  waiting : x.phase ≠ .returned

theorem fresh_writeTo (input : List β) : Fresh input (writeTo P input) :=
  ⟨rfl, rfl, rfl, rfl, by simp [writeTo]⟩

theorem fresh_drain : Fresh [] (drain P) := ⟨rfl, rfl, rfl, rfl, by simp [drain]⟩

/-- A host that has returned has left nothing in the pipes of a program that has exited. -/
def Settled (x : Exchange P) : Prop :=
  x.phase = .returned → x.stdout = [] ∧ x.stderr = [] ∧ P.Exited x.program

theorem Step.settled {x y : Exchange P} (hstep : Step caps x y)
    (h : Finishes P (ahead x) x.program) (hsettled : Settled x) : Settled y := by
  intro hreturned
  cases hstep with
  | write _ => cases hreturned
  | broken hexited => exact absurd hexited (h.not_exited (by simp [ahead, Phase.unwritten]))
  | close => cases hreturned
  | drainOut => cases hreturned
  | drainErr => cases hreturned
  | finish hexited => exact ⟨rfl, rfl, hexited⟩
  | read hmove => exact absurd hmove (P.exited_stops (hsettled hreturned).2.2)
  | eof _ hmove => exact absurd hmove (P.exited_stops (hsettled hreturned).2.2)
  | out hmove _ => exact absurd hmove (P.exited_stops (hsettled hreturned).2.2)
  | err hmove _ => exact absurd hmove (P.exited_stops (hsettled hreturned).2.2)
  | internal hmove => exact absurd hmove (P.exited_stops (hsettled hreturned).2.2)

section Runs

variable {input o e : List β} {x y : Exchange P}

/-- What the host holds and what is in the pipes is what the program has written. -/
theorem Captures.writes (hfinishes : Finishes P input P.start) (hfresh : Fresh input x)
    (h : Captures caps x o e y) :
    Writes P input (alone y o e) ∧ Finishes P (ahead y) y.program ∧ Settled y := by
  induction h with
  | refl =>
    have heq : alone x [] [] = ⟨input, [], [], P.start⟩ := by
      simp [alone, hfresh.ahead_eq, hfresh.stdout, hfresh.stderr, hfresh.program]
    refine ⟨?_, ?_, fun hreturned => absurd hreturned hfresh.waiting⟩
    · rw [heq]
      exact .refl
    · rwa [hfresh.ahead_eq, hfresh.program]
  | @tail o e y z _ hstep ih =>
    obtain ⟨hwrites, hy, hsettled⟩ := ih
    refine ⟨?_, hstep.finishes hy, hstep.settled hy hsettled⟩
    rcases hstep.host_or_program hy o e with ⟨heq, _⟩ | ⟨_, hmove⟩
    · rwa [heq]
    · exact hwrites.tail hmove

/-- **Pipe integrity**: a host that returns holds what the program writes on its own. -/
theorem Captures.outputs (hfinishes : Finishes P input P.start) (hfresh : Fresh input x)
    (h : Captures caps x o e y) (hreturned : y.phase = .returned) :
    Outputs P input o e y.program := by
  obtain ⟨hwrites, hy, hsettled⟩ := h.writes hfinishes hfresh
  obtain ⟨hout, herr, hexited⟩ := hsettled hreturned
  have hnil : ahead y = [] := by
    by_contra hne
    exact hy.not_exited hne hexited
  refine ⟨?_, hexited⟩
  rwa [alone, hnil, hout, herr, List.append_nil, List.append_nil] at hwrites

/-- And it does return, if the two sides never get stuck. -/
theorem Captures.returned (hfree : DeadlockFree caps x) (h : Captures caps x o e y)
    (hlast : ∀ z, ¬ Step caps y z) : y.phase = .returned := by
  by_contra hwaiting
  exact hfree y h.steps ⟨hwaiting, hlast⟩

end Runs

end Pipes
