import GreenticConformance.Pipes.Capture
import GreenticConformance.ProcessHarness

/-!
# The output of a process

`runner_suite.rs` and `component_suite.rs` judge a process by the output that
`wait_with_output` hands them. It is what the process writes on the whole payload,
whichever way the two sides take turns and however long the pipes are.

## Main definitions

- `payload` — what the harness writes to a process

## Main results

- `exchange_output` — the harness holds the output of the process
- `exchange_ends` — a run comes to its end, unless the process jams
-/

namespace GreenticConformance.ProcessHarness

open ComponentSuite Host Pipes Relation RunnerSuite

/-- The bytes that the process reads. -/
def payload (command : Command) : List UInt8 := (command.stdin.map asBytes).getD []

section

variable {caps : Capacities} {command : Command} {child : Program UInt8}

theorem exchange_fresh (command : Command) (child : Program UInt8) :
    Fresh (payload command) (exchange command child) := by
  unfold exchange payload
  cases command.stdin with
  | none => exact fresh_drain
  | some text => exact fresh_writeTo (asBytes text)

theorem exchange_finishes (h : Finishes child (payload command) child.start) :
    Finishes child (ahead (exchange command child)) (exchange command child).program := by
  have hfresh := exchange_fresh command child
  rwa [hfresh.ahead_eq, hfresh.program]

/-- With or without a payload, what gets a run stuck is a process that jams. -/
theorem exchange_free_iff (h : Finishes child (payload command) child.start) :
    DeadlockFree caps (exchange command child) ↔ ¬ Jams child caps (payload command) := by
  unfold exchange payload at *
  cases hstdin : command.stdin with
  | none =>
    rw [hstdin] at h
    exact iff_of_true (deadlockFree_drained h) (not_jams_of_length_le (Nat.zero_le _))
  | some text =>
    rw [hstdin] at h
    exact deadlockFree_iff h

/-- A run that can always go on, and not forever, gets to the end. -/
theorem exists_returned {x : Exchange child} (hacc : Acc (fun z y => Step caps y z) x)
    (hfree : DeadlockFree caps x) : ∃ y, ReflTransGen (Step caps) x y ∧ y.phase = .returned := by
  induction hacc with
  | intro x _ ih =>
    by_cases hreturned : x.phase = .returned
    · exact ⟨x, .refl, hreturned⟩
    · have hmoves : ∃ y, Step caps x y := by
        by_contra hstuck
        exact hfree x .refl ⟨hreturned, not_exists.mp hstuck⟩
      obtain ⟨y, hstep⟩ := hmoves
      obtain ⟨z, hsteps, hz⟩ := ih y hstep fun w hsteps => hfree w (hsteps.head hstep)
      exact ⟨z, hsteps.head hstep, hz⟩

/-- **Output**: when the harness returns, it holds what the process writes on its own,
with the whole payload before it. No other output is possible if the process is
deterministic. -/
theorem exchange_output (h : Finishes child (payload command) child.start) {o e : List UInt8}
    {x : Exchange child} (hrun : Captures caps (exchange command child) o e x)
    (hreturned : x.phase = .returned) :
    Outputs child (payload command) o e x.program ∧
      (child.Deterministic → ∀ o' e' s, Outputs child (payload command) o' e' s →
        o' = o ∧ e' = e ∧ s = x.program) := by
  have houtputs := hrun.outputs h (exchange_fresh command child) hreturned
  exact ⟨houtputs, fun hdet o' e' s h' => h'.unique hdet houtputs⟩

/-- **End of a run**: no order of steps goes on forever, and from wherever a run is it can
be brought to its end, exactly if the process does not jam. -/
theorem exchange_ends (h : Finishes child (payload command) child.start) :
    Acc (fun z y => Step caps y z) (exchange command child) ∧
      ((∀ x, ReflTransGen (Step caps) (exchange command child) x →
        ∃ y, ReflTransGen (Step caps) x y ∧ y.phase = .returned) ↔
          ¬ Jams child caps (payload command)) := by
  have hacc : Acc (fun z y => Step caps y z) (exchange command child) :=
    acc_of_finishes (exchange_finishes h) _ rfl rfl
  refine ⟨hacc, ?_⟩
  rw [← exchange_free_iff h]
  constructor
  · intro hends x hsteps hdead
    obtain ⟨y, hmore, hreturned⟩ := hends x hsteps
    -- a deadlock is as far as it goes
    rcases hmore.cases_head with rfl | ⟨z, hstep, _⟩
    · exact hdead.1 hreturned
    · exact hdead.2 z hstep
  · intro hfree x hsteps
    have haccx : Acc (fun z y => Step caps y z) x := by
      clear hfree h
      induction hsteps with
      | refl => exact hacc
      | tail _ hstep ih => exact ih.inv hstep
    exact exists_returned haccx fun y hmore => hfree y (hsteps.trans hmore)

end

/-! ## A process that echoes -/

inductive EchoState where
  | reading
  | holding (b : UInt8)
  | exited

/-- Writes each byte it has read, and exits at the end of its input. -/
def echoChild : Program UInt8 where
  State := EchoState
  start := .reading
  step
    | .reading, .read b, s => s = .holding b
    | .reading, .eof, s => s = .exited
    | .holding b, .out c, s => c = b ∧ s = .reading
    | _, _, _ => False
  Exited s := s = .exited
  exited_stops h hstep := by
    subst h
    exact hstep

theorem echoChild_finishes (input : List UInt8) : Finishes echoChild input .reading := by
  induction input with
  | nil =>
    refine .moves ⟨[], .exited, .eof rfl⟩ fun rest s hmove => ?_
    obtain ⟨_, hnil, _⟩ | ⟨_, rfl, h⟩ | ⟨_, ⟨_, h⟩ | ⟨_, h⟩ | h⟩ := alone_iff.mp hmove
    · cases hnil
    · exact h ▸ .exited rfl
    · cases h
    · cases h
    · cases h
  | cons b input ih =>
    refine .moves ⟨input, .holding b, .read rfl⟩ fun rest s hmove => ?_
    obtain ⟨c, hcons, h⟩ | ⟨hnil, _⟩ | ⟨_, ⟨_, h⟩ | ⟨_, h⟩ | h⟩ := alone_iff.mp hmove
    · -- the byte is written before the next one is read
      obtain ⟨rfl, rfl⟩ := List.cons.inj hcons
      subst h
      refine .moves ⟨input, .reading, .out ⟨rfl, rfl⟩⟩ fun rest s hmove => ?_
      obtain ⟨_, _, h⟩ | ⟨_, _, h⟩ | ⟨rfl, ⟨_, h⟩ | ⟨_, h⟩ | h⟩ := alone_iff.mp hmove
      · cases h
      · cases h
      · exact h.2 ▸ ih
      · cases h
      · cases h
    · cases hnil
    · cases h
    · cases h
    · cases h

theorem echoChild_deterministic : echoChild.Deterministic := by
  constructor
  · intro s a s' s'' h h'
    cases s <;> cases a <;> simp_all [echoChild]
  · intro s a a' s' s'' h h'
    cases s <;> cases a <;> cases a' <;> simp_all [echoChild]

/-- The smoke test of a pack whose payload is one letter. -/
def echoCommand : Command :=
  (RunnerOptions.default.withStdin "a").command .empty (.ofString "runner") (.ofString "pack")

theorem payload_echoCommand : payload echoCommand = [97] := by decide +kernel

/-- One of the orders: the letter is written and read, comes back, and is taken. -/
theorem echo_captures : Captures pipeCapacities (exchange echoCommand echoChild) [97] []
    ⟨.returned, [], [], [], .exited⟩ := by
  have hstart : exchange echoCommand echoChild = ⟨.writing [97], [], [], [], .reading⟩ := by
    rw [← payload_echoCommand]
    rfl
  rw [hstart]
  have hfresh : Captures pipeCapacities (⟨.writing [97], [], [], [], .reading⟩ : Exchange echoChild)
      [] [] ⟨.writing [97], [], [], [], .reading⟩ := .refl
  have hwritten := hfresh.tail (.write (by decide))
  have hread := hwritten.tail (.read rfl)
  have hout := hread.tail (.out ⟨rfl, rfl⟩ (by decide))
  have hclosed := hout.tail .close
  have heof := hclosed.tail (.eof (by simp) rfl)
  have htaken := heof.tail .drainOut
  exact htaken.tail (.finish rfl)

theorem exchange_output_echo :
    Outputs echoChild (payload echoCommand) [97] [] .exited ∧
      ∀ o' e' s, Outputs echoChild (payload echoCommand) o' e' s →
        o' = [97] ∧ e' = [] ∧ s = .exited := by
  obtain ⟨houtputs, honly⟩ := exchange_output (echoChild_finishes _) echo_captures rfl
  exact ⟨houtputs, honly echoChild_deterministic⟩

theorem exchange_ends_echo :
    Acc (fun z y => Step pipeCapacities y z) (exchange echoCommand echoChild) ∧
      ((∀ x, ReflTransGen (Step pipeCapacities) (exchange echoCommand echoChild) x →
        ∃ y, ReflTransGen (Step pipeCapacities) x y ∧ y.phase = .returned) ↔
          ¬ Jams echoChild pipeCapacities (payload echoCommand)) :=
  exchange_ends (echoChild_finishes _)

end GreenticConformance.ProcessHarness
