import GreenticConformance.ComponentSuite
import GreenticConformance.Pipes.Exchange
import GreenticConformance.RunnerSuite

/-!
# The process harness

A smoke test with a payload and the invocation of a component start a process with
three pipes, write the whole payload, close the input and only then read the outputs:
`write_all`, then `wait_with_output`. Without a payload the outputs are read from the
start.

## Main definitions

- `exchange` — what the harness does with a process it has started

## Main results

- `exchange_deadlockFree_iff` — both runs are free of deadlocks exactly with processes
  that do not jam
- `exchange_deadlockFree_of_no_payload` — a run without a payload always is
-/

namespace GreenticConformance.ProcessHarness

open ComponentSuite Host Pipes RunnerSuite

/-- `str::as_bytes`. -/
def asBytes (s : String) : List UInt8 := s.toList.flatMap String.utf8EncodeChar

/-- A process that was just started: the harness is about to write the payload of the
command, or has none to write. -/
def exchange (command : Command) (child : Program UInt8) : Exchange child :=
  match command.stdin with
  | some payload => writeTo child (asBytes payload)
  | none => drain child

/-- The two runs that write a payload, on a process that reads it and exits if its output
is read: no order of steps gets them stuck exactly if the process does not jam. -/
theorem exchange_deadlockFree_iff (caps : Capacities) (child : Program UInt8) :
    (∀ (o : RunnerOptions) (world : World) (hostBin packPath : Path) (payload : String),
      o.stdin = some payload → Finishes child (asBytes payload) child.start →
      (DeadlockFree caps (exchange (o.command world hostBin packPath) child) ↔
        ¬ Jams child caps (asBytes payload))) ∧
    ∀ (o : ComponentInvocationOptions) (json : SerdeJson) (componentPath : Path) (op : String)
      (input : Json), Finishes child (asBytes (json.toString input)) child.start →
      (DeadlockFree caps (exchange (o.command componentPath op (json.toString input)) child) ↔
        ¬ Jams child caps (asBytes (json.toString input))) := by
  constructor
  · intro o world hostBin packPath payload hstdin hfinishes
    have hexchange : exchange (o.command world hostBin packPath) child =
        writeTo child (asBytes payload) := by
      simp only [exchange, RunnerOptions.command, hstdin]
    rw [hexchange]
    exact deadlockFree_iff hfinishes
  · intro o json componentPath op input hfinishes
    exact deadlockFree_iff hfinishes

/-- Without a payload the outputs are read from the start, and no run gets stuck. -/
theorem exchange_deadlockFree_of_no_payload {caps : Capacities} {child : Program UInt8}
    {o : RunnerOptions} {world : World} {hostBin packPath : Path} (hstdin : o.stdin = none)
    (hfinishes : Finishes child [] child.start) :
    DeadlockFree caps (exchange (o.command world hostBin packPath) child) := by
  have hexchange : exchange (o.command world hostBin packPath) child = drain child := by
    simp only [exchange, RunnerOptions.command, hstdin]
  rw [hexchange]
  exact deadlockFree_drained hfinishes

/-! ## A process that greets before it reads -/

inductive BannerState where
  | banner (left : ℕ)
  | reading
  | exited

/-- Writes a banner of some length, then reads its input to the end and exits. -/
def bannerChild (length : ℕ) : Program UInt8 where
  State := BannerState
  start := .banner length
  step
    | .banner (left + 1), .out _, s => s = .banner left
    | .banner 0, .internal, s => s = .reading
    | .reading, .read _, s => s = .reading
    | .reading, .eof, s => s = .exited
    | _, _, _ => False
  Exited s := s = .exited
  exited_stops h hstep := by
    subst h
    exact hstep

theorem bannerChild_reading (length : ℕ) (input : List UInt8) :
    Finishes (bannerChild length) input .reading := by
  induction input with
  | nil =>
    refine .moves ⟨[], .exited, .eof rfl⟩ fun rest s hmove => ?_
    obtain ⟨_, hnil, _⟩ | ⟨_, rfl, h⟩ | ⟨_, ⟨_, h⟩ | ⟨_, h⟩ | h⟩ := alone_iff.mp hmove
    · cases hnil
    · exact h ▸ .exited rfl
    · cases h
    · cases h
    · cases h
  | cons b input ih =>
    refine .moves ⟨input, .reading, .read rfl⟩ fun rest s hmove => ?_
    obtain ⟨_, hcons, h⟩ | ⟨hnil, _⟩ | ⟨_, ⟨_, h⟩ | ⟨_, h⟩ | h⟩ := alone_iff.mp hmove
    · rw [← (List.cons.inj hcons).2]
      exact h ▸ ih
    · cases hnil
    · cases h
    · cases h
    · cases h

/-- It reads its input and exits, whatever the input is. -/
theorem bannerChild_finishes (length left : ℕ) (input : List UInt8) :
    Finishes (bannerChild length) input (.banner left) := by
  induction left with
  | zero =>
    refine .moves ⟨input, .reading, .internal rfl⟩ fun rest s hmove => ?_
    obtain ⟨_, _, h⟩ | ⟨_, _, h⟩ | ⟨rfl, ⟨_, h⟩ | ⟨_, h⟩ | h⟩ := alone_iff.mp hmove
    · cases h
    · cases h
    · cases h
    · cases h
    · exact h ▸ bannerChild_reading length input
  | succ left ih =>
    refine .moves ⟨input, .banner left, .out (b := 0) rfl⟩ fun rest s hmove => ?_
    obtain ⟨_, _, h⟩ | ⟨_, _, h⟩ | ⟨rfl, ⟨_, h⟩ | ⟨_, h⟩ | h⟩ := alone_iff.mp hmove
    · cases h
    · cases h
    · exact h ▸ ih
    · cases h
    · cases h

/-- As much of the banner as the pipe holds is written before anything is read. -/
theorem bannerChild_undrained {caps : Capacities} {length n : ℕ} {input : List UInt8}
    (hlength : caps.stdout < length) (hn : n ≤ caps.stdout) :
    Undrained (bannerChild length) caps input input (List.replicate n 0) []
      (.banner (length - n)) := by
  induction n with
  | zero => exact .start
  | succ n ih =>
    have hstep : (bannerChild length).step (.banner (length - n)) (.out 0)
        (.banner (length - (n + 1))) := by
      rw [show length - n = length - (n + 1) + 1 by omega]
      rfl
    rw [List.replicate_succ']
    exact (ih (by omega)).out hstep (by simp; omega)

/-- A banner and an input that are longer than their pipes jam it. -/
theorem bannerChild_jams {caps : Capacities} {length : ℕ} {input : List UInt8}
    (hlength : caps.stdout < length) (hinput : caps.stdin < input.length) :
    Jams (bannerChild length) caps input := by
  refine ⟨input, _, [], _, bannerChild_undrained hlength le_rfl, hinput, ?_⟩
  -- some of the banner is left, and there is no room for it
  intro a s hstep
  rw [show length - caps.stdout = length - caps.stdout - 1 + 1 by omega] at hstep
  cases a with
  | out b => simp [Waits]
  | read b => cases hstep
  | eof => cases hstep
  | err b => cases hstep
  | internal => cases hstep

/-! ## Pipes of 64 KiB -/

def pipeCapacities : Capacities where
  stdin := 65536
  stdout := 65536
  stderr := 65536
  stdin_pos := by decide
  stdout_pos := by decide
  stderr_pos := by decide

/-- A character is at least one byte. -/
theorem length_le_asBytes (s : String) : s.toList.length ≤ (asBytes s).length := by
  rw [asBytes]
  induction s.toList with
  | nil => exact Nat.zero_le _
  | cons c cs ih =>
    have hpos : 0 < (String.utf8EncodeChar c).length :=
      List.length_pos_of_ne_nil String.utf8EncodeChar_ne_nil
    rw [List.flatMap_cons, List.length_append, List.length_cons]
    omega

def payloadOf (length : ℕ) : String := String.ofList (List.replicate length 'a')

theorem length_le_payloadOf (length : ℕ) : length ≤ (asBytes (payloadOf length)).length := by
  have hle := length_le_asBytes (payloadOf length)
  rwa [payloadOf, String.toList_ofList, List.length_replicate] at hle

/-- A payload that does not fit into the pipe. -/
def longPayload : String := payloadOf 65537

theorem exchange_deadlockFree_iff_sample :
    (DeadlockFree pipeCapacities (exchange ((RunnerOptions.default.withStdin longPayload).command
        .empty (.ofString "runner") (.ofString "pack")) (bannerChild 10)) ↔
      ¬ Jams (bannerChild 10) pipeCapacities (asBytes longPayload)) ∧
    (DeadlockFree pipeCapacities (exchange (ComponentInvocationOptions.default.command
        (.ofString "component") "echo" "null") (bannerChild 10)) ↔
      ¬ Jams (bannerChild 10) pipeCapacities (asBytes "null")) := by
  have hiff := exchange_deadlockFree_iff pipeCapacities (bannerChild 10)
  let json : SerdeJson :=
    ⟨fun _ => .ok .null, fun _ => .ok [], fun _ => "null", fun _ => .ok "null"⟩
  exact ⟨hiff.1 _ .empty _ _ longPayload rfl (bannerChild_finishes 10 10 _),
    hiff.2 .default json (.ofString "component") "echo" .null (bannerChild_finishes 10 10 _)⟩

/-- A runner that prints a little more than the pipe holds before it reads a payload that
is a little longer gets stuck, although it reads all of its input and exits. -/
theorem exchange_deadlock_banner :
    Finishes (bannerChild 65537) (asBytes longPayload) (bannerChild 65537).start ∧
      ¬ DeadlockFree pipeCapacities (exchange
        ((RunnerOptions.default.withStdin longPayload).command .empty (.ofString "runner")
          (.ofString "pack")) (bannerChild 65537)) := by
  have hfinishes := bannerChild_finishes 65537 65537 (asBytes longPayload)
  refine ⟨hfinishes, fun hfree => ?_⟩
  have hlong : pipeCapacities.stdin < (asBytes longPayload).length := by
    have hpipe : pipeCapacities.stdin < 65537 := by decide
    exact Nat.lt_of_lt_of_le hpipe (length_le_payloadOf 65537)
  have hbanner : pipeCapacities.stdout < 65537 := by decide
  have hjams := bannerChild_jams hbanner hlong
  exact (deadlockFree_iff hfinishes).mp hfree hjams

end GreenticConformance.ProcessHarness
