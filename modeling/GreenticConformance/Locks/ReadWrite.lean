import GreenticConformance.Runs.Machine
import Mathlib.Algebra.BigOperators.Group.Finset.Basic
import Mathlib.Algebra.BigOperators.Group.Finset.Piecewise

/-!
# Tasks behind a readers-writer lock

Each task either has its answer without looking at the guarded state, or waits for a
guard, works on the state in steps that those of other tasks may come between, and drops
the guard. Readers hold it together and only look; a writer holds it alone. Such a system
gives the answers of a machine that serves the tasks one after the other.

## Main definitions

- `Service` — what a call does, before and under its guard
- `Service.machine` — the same without interruption
- `Step`, `Reaches` — the tasks together, in any order
- `serialOrder` — the order in which tasks were admitted

## Main results

- `Reaches.serial` — every run agrees with the machine on the serial order
- `Reaches.precedes` — a task that ended before another one began precedes it there
- `exists_step`, `Reaches.length_add` — no task waits for ever
-/

namespace Locks

open Runs

variable {σ L ι ο κ : Type*}

/-! ## Work under a guard -/

/-- What is left to do under a guard: steps on the guarded state and on what the task
keeps for itself, and the answer it draws from the latter. -/
structure Body (σ L ο : Type*) where
  kept : L
  steps : List (σ × L → σ × L)
  answer : L → ο

namespace Body

/-- The whole body at once. -/
def run (b : Body σ L ο) (s : σ) : ο × σ :=
  let last := b.steps.foldl (fun x f => f x) (s, b.kept)
  (b.answer last.2, last.1)

/-- The body leaves the state alone in every step. -/
def Reads (b : Body σ L ο) : Prop := ∀ f ∈ b.steps, ∀ x, (f x).1 = x.1

variable {s : σ} {kept : L} {f : σ × L → σ × L} {rest : List (σ × L → σ × L)} {answer : L → ο}

theorem run_cons : (Body.mk kept (f :: rest) answer).run s =
    (Body.mk (f (s, kept)).2 rest answer).run (f (s, kept)).1 := rfl

theorem Reads.cons (h : (Body.mk kept (f :: rest) answer).Reads) (kept' : L) :
    (Body.mk kept' rest answer).Reads ∧ ∀ x, (f x).1 = x.1 :=
  ⟨fun g hg => h g (List.mem_cons_of_mem _ hg), h f List.mem_cons_self⟩

theorem Reads.run {b : Body σ L ο} (h : b.Reads) (s : σ) : (b.run s).2 = s := by
  obtain ⟨kept, steps, answer⟩ := b
  induction steps generalizing kept s with
  | nil => rfl
  | cons f rest ih =>
    obtain ⟨hrest, hf⟩ := h.cons (f (s, kept)).2
    rw [run_cons, ih _ _ hrest, hf]

end Body

inductive Mode
  | read
  | write
  deriving DecidableEq

/-- What a call does: it is answered without the guard, or it needs one. -/
inductive Task (σ L ο : Type*) where
  | answered (a : ο)
  | guarded (mode : Mode) (body : Body σ L ο)

/-- Calls and their tasks. A read guard gives no way to write. -/
structure Service (σ L ι ο : Type*) where
  task : ι → Task σ L ο
  reads : ∀ {i body}, task i = .guarded .read body → body.Reads

/-- The service that takes its calls one at a time. -/
def Service.machine (S : Service σ L ι ο) : Machine σ ι ο where
  step s i :=
    match S.task i with
    | .answered a => (a, s)
    | .guarded _ body => body.run s

/-! ## Tasks together -/

/-- Where a task is. -/
inductive Status (σ L ο : Type*) where
  | waiting (mode : Mode) (body : Body σ L ο)
  | holding (mode : Mode) (body : Body σ L ο)
  | done (a : ο)

/-- The guarded state, and the tasks that have arrived. -/
structure Config (σ L ο κ : Type*) where
  state : σ
  status : κ → Option (Status σ L ο)

inductive Label (κ : Type*) where
  | answer (k : κ)
  | arrive (k : κ)
  | take (k : κ)
  | work (k : κ)
  | drop (k : κ)

/-- The lock lets a task in: a reader next to readers, a writer when nobody is in. -/
def Config.Admits (c : Config σ L ο κ) (mode : Mode) : Prop :=
  ∀ k held body, c.status k = some (.holding held body) → mode = .read ∧ held = .read

def Config.set [DecidableEq κ] (c : Config σ L ο κ) (k : κ) (st : Status σ L ο) :
    Config σ L ο κ :=
  { c with status := Function.update c.status k (some st) }

/-- A step of one task. -/
inductive Step [DecidableEq κ] (S : Service σ L ι ο) (calls : κ → ι) :
    Config σ L ο κ → Label κ → Config σ L ο κ → Prop
  | answer {c k a} (hnew : c.status k = none) (htask : S.task (calls k) = .answered a) :
      Step S calls c (.answer k) (c.set k (.done a))
  | arrive {c k mode body} (hnew : c.status k = none)
      (htask : S.task (calls k) = .guarded mode body) :
      Step S calls c (.arrive k) (c.set k (.waiting mode body))
  | take {c k mode body} (hstatus : c.status k = some (.waiting mode body))
      (hadmits : c.Admits mode) : Step S calls c (.take k) (c.set k (.holding mode body))
  | work {c k mode kept f rest answer}
      (hstatus : c.status k = some (.holding mode ⟨kept, f :: rest, answer⟩)) :
      Step S calls c (.work k)
        { c.set k (.holding mode ⟨(f (c.state, kept)).2, rest, answer⟩) with
          state := (f (c.state, kept)).1 }
  | drop {c k mode kept answer} (hstatus : c.status k = some (.holding mode ⟨kept, [], answer⟩)) :
      Step S calls c (.drop k) (c.set k (.done (answer kept)))

/-- What can happen from a state of the lock that nobody has asked for yet. -/
inductive Reaches [DecidableEq κ] (S : Service σ L ι ο) (calls : κ → ι) (s₀ : σ) :
    List (Label κ) → Config σ L ο κ → Prop
  | start : Reaches S calls s₀ [] ⟨s₀, fun _ => none⟩
  | step {ls c l c'} (h : Reaches S calls s₀ ls c) (hstep : Step S calls c l c') :
      Reaches S calls s₀ (ls ++ [l]) c'

/-- The tasks that have arrived by a label. -/
def Label.arrived? : Label κ → Option κ
  | .answer k | .arrive k => some k
  | _ => none

/-- The task that a label answers or lets in. -/
def Label.admitted? : Label κ → Option κ
  | .answer k | .take k => some k
  | _ => none

/-- The tasks in the order in which they were answered or let in. -/
def serialOrder (ls : List (Label κ)) : List κ := ls.filterMap Label.admitted?

variable {S : Service σ L ι ο} {calls : κ → ι} {s₀ : σ}

theorem serialOrder_concat (ls : List (Label κ)) (l : Label κ) :
    serialOrder (ls ++ [l]) = serialOrder ls ++ l.admitted?.toList := by
  rw [serialOrder, List.filterMap_append]
  cases h : l.admitted? with
  | none => simp [serialOrder, h]
  | some k => simp [serialOrder, h]

/-! ## Serial answers -/

/-- The answer that is certain of a task: a waiting one has none, one that holds the guard
will come to it whatever the others do. -/
def Status.outcome (s : σ) : Status σ L ο → Option ο
  | .waiting _ _ => none
  | .holding _ body => some (body.run s).1
  | .done a => some a

def Config.outcome (c : Config σ L ο κ) (k : κ) : Option ο :=
  (c.status k).bind (Status.outcome c.state)

/-- The machine gives the answer when it serves the tasks in this order. -/
def AnswersIn (S : Service σ L ι ο) (calls : κ → ι) (s₀ : σ) (order : List κ) (k : κ) (a : ο) :
    Prop :=
  ∃ e ∈ (S.machine.comap calls).trace s₀ order, e.input = k ∧ e.output = a

/-- The state after the tasks were served in this order. -/
abbrev stateAfter (S : Service σ L ι ο) (calls : κ → ι) (s₀ : σ) (order : List κ) : σ :=
  (S.machine.comap calls).run s₀ order

/-- The guards are held as the lock gives them out, by tasks that do what their calls
ask for. -/
structure Guarded (S : Service σ L ι ο) (calls : κ → ι) (c : Config σ L ο κ) : Prop where
  waits : ∀ k mode body, c.status k = some (.waiting mode body) →
    S.task (calls k) = .guarded mode body
  reads : ∀ k body, c.status k = some (.holding .read body) → body.Reads
  alone : ∀ j k mode body body', c.status k = some (.holding .write body) →
    c.status j = some (.holding mode body') → j = k

/-- Once the writer has finished, if there is one, the state will be `s`. -/
structure Settles (c : Config σ L ο κ) (s : σ) : Prop where
  free : (∀ k body, c.status k ≠ some (.holding .write body)) → c.state = s
  writing : ∀ k body, c.status k = some (.holding .write body) → (body.run c.state).2 = s

/-- What holds of the tasks and their serial order at every moment. -/
structure Serial (S : Service σ L ι ο) (calls : κ → ι) (s₀ : σ) (order : List κ)
    (c : Config σ L ο κ) : Prop where
  nodup : order.Nodup
  placed : ∀ k, k ∈ order ↔ (c.outcome k).isSome
  answers : ∀ k a, c.outcome k = some a → AnswersIn S calls s₀ order k a
  guarded : Guarded S calls c
  settles : Settles c (stateAfter S calls s₀ order)

section Serial

variable {c c' : Config σ L ο κ} {order : List κ} {j k : κ} {l : Label κ} {a : ο} {mode : Mode}
variable {body : Body σ L ο} {st st' : Status σ L ο}

theorem stateAfter_concat : stateAfter S calls s₀ (order ++ [k]) =
    (S.machine.step (stateAfter S calls s₀ order) (calls k)).2 :=
  (S.machine.comap calls).run_concat s₀ order k

/-- The tasks served before keep their answers when one more is served. -/
theorem AnswersIn.concat (h : AnswersIn S calls s₀ order k a) (j : κ) :
    AnswersIn S calls s₀ (order ++ [j]) k a := by
  obtain ⟨e, he, hk, ha⟩ := h
  refine ⟨e, ?_, hk, ha⟩
  rw [Machine.trace_concat]
  exact List.mem_append_left _ he

theorem answersIn_last : AnswersIn S calls s₀ (order ++ [k]) k
    (S.machine.step (stateAfter S calls s₀ order) (calls k)).1 := by
  refine ⟨(S.machine.comap calls).event (stateAfter S calls s₀ order) k, ?_, rfl, rfl⟩
  rw [Machine.trace_concat]
  simp

theorem machine_step_answered (htask : S.task (calls k) = .answered a) (s : σ) :
    S.machine.step s (calls k) = (a, s) := by
  simp only [Service.machine, htask]

theorem machine_step_guarded (htask : S.task (calls k) = .guarded mode body) (s : σ) :
    S.machine.step s (calls k) = body.run s := by
  simp only [Service.machine, htask]

/-- What holds between any two events of the machine's run holds, one way round, between
those of two tasks. -/
theorem AnswersIn.related {b : ο} {R : Event σ ι ο → Event σ ι ο → Prop}
    (hj : AnswersIn S calls s₀ order j a) (hk : AnswersIn S calls s₀ order k b) (hne : j ≠ k)
    (hR : (S.machine.trace s₀ (order.map calls)).Pairwise R) :
    ∃ x y, x.input = calls j ∧ x.output = a ∧ y.input = calls k ∧ y.output = b ∧
      (R x y ∨ R y x) := by
  obtain ⟨e, he, rfl, rfl⟩ := hj
  obtain ⟨e', he', rfl, rfl⟩ := hk
  rw [← Machine.trace_comap, List.pairwise_map] at hR
  have hor : ((S.machine.comap calls).trace s₀ order).Pairwise fun x y =>
      R ⟨x.pre, calls x.input, x.output, x.post⟩ ⟨y.pre, calls y.input, y.output, y.post⟩ ∨
        R ⟨y.pre, calls y.input, y.output, y.post⟩ ⟨x.pre, calls x.input, x.output, x.post⟩ :=
    hR.imp Or.inl
  have hsymm : Std.Symm fun x y : Event σ κ ο =>
      R ⟨x.pre, calls x.input, x.output, x.post⟩ ⟨y.pre, calls y.input, y.output, y.post⟩ ∨
        R ⟨y.pre, calls y.input, y.output, y.post⟩ ⟨x.pre, calls x.input, x.output, x.post⟩ :=
    ⟨fun _ _ h => h.symm⟩
  refine ⟨_, _, rfl, rfl, rfl, rfl, hor.forall he he' ?_⟩
  rintro rfl
  exact hne rfl

/-- The other holders of the lock next to one that holds it. -/
theorem Guarded.others (h : Guarded S calls c) (hk : c.status k = some (.holding mode body))
    {held : Mode} {body' : Body σ L ο} (hne : j ≠ k)
    (hj : c.status j = some (.holding held body')) : mode = .read ∧ held = .read := by
  cases mode with
  | write => exact absurd (h.alone j k held body body' hk hj) hne
  | read =>
    cases held with
    | write => exact absurd (h.alone k j .read body' body hj hk).symm hne
    | read => exact ⟨rfl, rfl⟩

/-- The state that a writer will leave behind, who is the only one. -/
theorem settles_of_writer {state : σ} (hk : c.status k = some (.holding .write body))
    (halone : ∀ j body', c.status j = some (.holding .write body') → j = k)
    (hstate : c.state = state) : Settles c (body.run state).2 := by
  refine ⟨fun hfree => absurd hk (hfree k body), fun j body' hj => ?_⟩
  obtain rfl := halone j body' hj
  obtain rfl : body = body' := by simpa [hk] using hj
  rw [hstate]

/-- A step that nobody is admitted by, and that brings nobody from his answer. -/
theorem Serial.silent (h : Serial S calls s₀ order c) (hsame : ∀ j, c'.outcome j = c.outcome j)
    (hguarded : Guarded S calls c') (hsettles : Settles c' (stateAfter S calls s₀ order)) :
    Serial S calls s₀ order c' := by
  refine ⟨h.nodup, fun j => ?_, fun j a ha => ?_, hguarded, hsettles⟩
  · rw [hsame, h.placed]
  · rw [hsame] at ha
    exact h.answers j a ha

variable [DecidableEq κ]

theorem set_status : (c.set k st).status j = if j = k then some st else c.status j := by
  simp only [Config.set, Function.update_apply]

/-- After one task has moved, a task is the one that moved, or is where it was. -/
theorem status_of_set (h : (c.set k st).status j = some st') :
    j = k ∧ st' = st ∨ j ≠ k ∧ c.status j = some st' := by
  rw [set_status] at h
  split_ifs at h with hj
  · exact .inl ⟨hj, (Option.some.inj h).symm⟩
  · exact .inr ⟨hj, h⟩

theorem outcome_set :
    (c.set k st).outcome j = if j = k then st.outcome c.state else c.outcome j := by
  rw [Config.outcome, set_status]
  split_ifs <;> rfl

/-- Where one task gets its answer from the state after the others, all answers are those of
the longer order. -/
theorem Serial.letIn (h : Serial S calls s₀ order c) (hnew : c.outcome k = none)
    (hst : st.outcome c.state = some (S.machine.step (stateAfter S calls s₀ order) (calls k)).1) :
    (order ++ [k]).Nodup ∧ (∀ j, j ∈ order ++ [k] ↔ ((c.set k st).outcome j).isSome) ∧
      ∀ j a, (c.set k st).outcome j = some a → AnswersIn S calls s₀ (order ++ [k]) j a := by
  have hfresh : k ∉ order := by
    rw [h.placed, hnew]
    simp
  refine ⟨?_, fun j => ?_, fun j a ha => ?_⟩
  · rw [List.nodup_append]
    refine ⟨h.nodup, by simp, fun x hx y hy heq => hfresh ?_⟩
    rwa [← List.mem_singleton.mp hy, ← heq]
  · rw [outcome_set, List.mem_append, List.mem_singleton, h.placed]
    by_cases hj : j = k
    · simp [hj, hst]
    · simp [hj]
  · rw [outcome_set] at ha
    by_cases hj : j = k
    · rw [if_pos hj, hst] at ha
      rw [hj, ← Option.some.inj ha]
      exact answersIn_last
    · rw [if_neg hj] at ha
      exact (h.answers j a ha).concat k

/-! ### Guards -/

theorem Guarded.set_done (h : Guarded S calls c) (k : κ) (a : ο) :
    Guarded S calls (c.set k (.done a)) := by
  refine ⟨fun j mode body hj => ?_, fun j body hj => ?_, fun i j mode body body' hj hi => ?_⟩
  · obtain ⟨-, hst⟩ | ⟨-, hj⟩ := status_of_set hj
    · cases hst
    · exact h.waits j mode body hj
  · obtain ⟨-, hst⟩ | ⟨-, hj⟩ := status_of_set hj
    · cases hst
    · exact h.reads j body hj
  · obtain ⟨-, hst⟩ | ⟨-, hj⟩ := status_of_set hj
    · cases hst
    · obtain ⟨-, hst⟩ | ⟨-, hi⟩ := status_of_set hi
      · cases hst
      · exact h.alone i j mode body body' hj hi

theorem Guarded.set_waiting (h : Guarded S calls c)
    (htask : S.task (calls k) = .guarded mode body) :
    Guarded S calls (c.set k (.waiting mode body)) := by
  refine ⟨fun j mode' body' hj => ?_, fun j body' hj => ?_, fun i j mode' body' body'' hj hi => ?_⟩
  · obtain ⟨rfl, hst⟩ | ⟨-, hj⟩ := status_of_set hj
    · cases hst
      exact htask
    · exact h.waits j mode' body' hj
  · obtain ⟨-, hst⟩ | ⟨-, hj⟩ := status_of_set hj
    · cases hst
    · exact h.reads j body' hj
  · obtain ⟨-, hst⟩ | ⟨-, hj⟩ := status_of_set hj
    · cases hst
    · obtain ⟨-, hst⟩ | ⟨-, hi⟩ := status_of_set hi
      · cases hst
      · exact h.alone i j mode' body' body'' hj hi

/-- A task gets the guard, or goes on under it: the others keep out of its way. -/
theorem Guarded.set_holding (h : Guarded S calls c) (hreads : mode = .read → body.Reads)
    (hothers : ∀ j held body', j ≠ k → c.status j = some (.holding held body') →
      mode = .read ∧ held = .read) : Guarded S calls (c.set k (.holding mode body)) := by
  refine ⟨fun j mode' body' hj => ?_, fun j body' hj => ?_, fun i j mode' body' body'' hj hi => ?_⟩
  · obtain ⟨-, hst⟩ | ⟨-, hj⟩ := status_of_set hj
    · cases hst
    · exact h.waits j mode' body' hj
  · obtain ⟨-, hst⟩ | ⟨-, hj⟩ := status_of_set hj
    · cases hst
      exact hreads rfl
    · exact h.reads j body' hj
  · obtain ⟨rfl, hst⟩ | ⟨hne, hj⟩ := status_of_set hj
    · cases hst
      obtain ⟨rfl, -⟩ | ⟨hne, hi⟩ := status_of_set hi
      · rfl
      · exact nomatch (hothers i mode' body'' hne hi).1
    · obtain ⟨heq, -⟩ | ⟨-, hi⟩ := status_of_set hi
      · exact nomatch (hothers j .write body' hne hj).2
      · exact h.alone i j mode' body' body'' hj hi

/-! ### The state that is settled on -/

/-- A task that neither was a writer nor becomes one changes nothing about the state. -/
theorem Settles.set {s : σ} (h : Settles c s)
    (hk : ∀ body, c.status k ≠ some (.holding .write body))
    (hst : ∀ body, st ≠ .holding .write body) : Settles (c.set k st) s := by
  refine ⟨fun hfree => h.free fun j body hj => hfree j body ?_, fun j body hj => ?_⟩
  · rw [set_status, if_neg]
    · exact hj
    · rintro rfl
      exact hk body hj
  · obtain ⟨-, heq⟩ | ⟨-, hj⟩ := status_of_set hj
    · exact absurd heq.symm (hst body)
    · exact h.writing j body hj

/-! ### Steps -/

theorem Serial.answer (h : Serial S calls s₀ order c) (hnew : c.status k = none)
    (htask : S.task (calls k) = .answered a) :
    Serial S calls s₀ (order ++ [k]) (c.set k (.done a)) := by
  have hnone : c.outcome k = none := by simp [Config.outcome, hnew]
  have hrun := machine_step_answered htask (stateAfter S calls s₀ order)
  have hst : (Status.done a : Status σ L ο).outcome c.state =
      some (S.machine.step (stateAfter S calls s₀ order) (calls k)).1 := by
    rw [hrun]
    rfl
  obtain ⟨hnodup, hplaced, hanswers⟩ := h.letIn hnone hst
  refine ⟨hnodup, hplaced, hanswers, h.guarded.set_done k a, ?_⟩
  rw [stateAfter_concat, hrun]
  exact h.settles.set (by simp [hnew]) (by simp)

theorem Serial.take (h : Serial S calls s₀ order c)
    (hstatus : c.status k = some (.waiting mode body)) (hadmits : c.Admits mode) :
    Serial S calls s₀ (order ++ [k]) (c.set k (.holding mode body)) := by
  have hnone : c.outcome k = none := by simp [Config.outcome, hstatus, Status.outcome]
  have htask := h.guarded.waits k mode body hstatus
  have hrun := machine_step_guarded htask (stateAfter S calls s₀ order)
  -- nobody writes, so the task starts from the state after those before it
  have hstate : c.state = stateAfter S calls s₀ order :=
    h.settles.free fun j body' hj => nomatch (hadmits j .write body' hj).2
  have hst : (Status.holding mode body).outcome c.state =
      some (S.machine.step (stateAfter S calls s₀ order) (calls k)).1 := by
    rw [hrun, ← hstate]
    rfl
  obtain ⟨hnodup, hplaced, hanswers⟩ := h.letIn hnone hst
  have hreads : mode = .read → body.Reads := by
    rintro rfl
    exact S.reads htask
  refine ⟨hnodup, hplaced, hanswers, ?_, ?_⟩
  · exact h.guarded.set_holding hreads fun j held body' _ hj => hadmits j held body' hj
  · rw [stateAfter_concat, hrun]
    cases mode with
    | read =>
      rw [(hreads rfl).run]
      exact h.settles.set (by simp [hstatus]) (by simp)
    | write =>
      refine settles_of_writer (by rw [set_status, if_pos rfl]) (fun j body' hj => ?_) hstate
      obtain ⟨rfl, -⟩ | ⟨-, hj⟩ := status_of_set hj
      · rfl
      · exact nomatch (hadmits j .write body' hj).1

theorem Serial.arrive (h : Serial S calls s₀ order c) (hnew : c.status k = none)
    (htask : S.task (calls k) = .guarded mode body) :
    Serial S calls s₀ order (c.set k (.waiting mode body)) := by
  refine h.silent (fun j => ?_) (h.guarded.set_waiting htask)
    (h.settles.set (by simp [hnew]) (by simp))
  rw [outcome_set]
  split_ifs with hj
  · simp [hj, Config.outcome, hnew, Status.outcome]
  · rfl

theorem Serial.work {kept : L} {f : σ × L → σ × L} {rest : List (σ × L → σ × L)} {answer : L → ο}
    (h : Serial S calls s₀ order c)
    (hstatus : c.status k = some (.holding mode ⟨kept, f :: rest, answer⟩)) :
    Serial S calls s₀ order
      { c.set k (.holding mode ⟨(f (c.state, kept)).2, rest, answer⟩) with
        state := (f (c.state, kept)).1 } := by
  have hreads : mode = .read → (Body.mk (f (c.state, kept)).2 rest answer).Reads ∧
      ∀ x, (f x).1 = x.1 := by
    rintro rfl
    exact (h.guarded.reads k _ hstatus).cons _
  have hguarded : Guarded S calls (c.set k (.holding mode ⟨(f (c.state, kept)).2, rest, answer⟩)) :=
    h.guarded.set_holding (fun hread => (hreads hread).1) fun j held body' hne hj =>
      h.guarded.others hstatus hne hj
  cases mode with
  | read =>
    rw [(hreads rfl).2]
    refine h.silent (fun j => ?_) hguarded (h.settles.set (by simp [hstatus]) (by simp))
    refine outcome_set.trans ?_
    split_ifs with hj
    · rw [hj, Config.outcome, hstatus, Option.bind_some, Status.outcome, Status.outcome,
        Body.run_cons, (hreads rfl).2]
    · rfl
  | write =>
    have halone : ∀ j held body', c.status j = some (.holding held body') → j = k :=
      fun j held body' hj => h.guarded.alone j k held _ body' hstatus hj
    refine h.silent (fun j => ?_) ⟨hguarded.waits, hguarded.reads, hguarded.alone⟩ ?_
    · -- the others have no guard, so what they come to does not depend on the state
      rw [Config.outcome, Config.outcome]
      dsimp only
      rw [set_status]
      split_ifs with hj
      · rw [hj, hstatus]
        rfl
      · cases hst : c.status j with
        | none => rfl
        | some st =>
          cases st with
          | waiting _ _ => rfl
          | holding held body' => exact absurd (halone j held body' hst) hj
          | done _ => rfl
    · rw [← h.settles.writing k _ hstatus, Body.run_cons]
      refine settles_of_writer (k := k) ?_ (fun j body' hj => ?_) rfl
      · dsimp only
        rw [set_status, if_pos rfl]
      · obtain ⟨rfl, -⟩ | ⟨-, hj⟩ := status_of_set hj
        · rfl
        · exact halone j .write body' hj

theorem Serial.drop {kept : L} {answer : L → ο} (h : Serial S calls s₀ order c)
    (hstatus : c.status k = some (.holding mode ⟨kept, [], answer⟩)) :
    Serial S calls s₀ order (c.set k (.done (answer kept))) := by
  refine h.silent (fun j => ?_) (h.guarded.set_done k _) ?_
  · rw [outcome_set]
    split_ifs with hj
    · rw [hj, Config.outcome, hstatus]
      rfl
    · rfl
  · cases mode with
    | read => exact h.settles.set (by simp [hstatus]) (by simp)
    | write =>
      refine ⟨fun _ => h.settles.writing k _ hstatus, fun j body' hj => ?_⟩
      obtain ⟨-, hst⟩ | ⟨hne, hj⟩ := status_of_set hj
      · cases hst
      · exact absurd (h.guarded.alone j k .write _ body' hstatus hj) hne

/-- **Step lemma**: what holds of the tasks and their serial order still does. -/
theorem Serial.step (h : Serial S calls s₀ order c) (hstep : Step S calls c l c') :
    Serial S calls s₀ (order ++ l.admitted?.toList) c' := by
  cases hstep with
  | answer hnew htask => exact h.answer hnew htask
  | arrive hnew htask =>
    show Serial S calls s₀ (order ++ []) _
    rw [List.append_nil]
    exact h.arrive hnew htask
  | take hstatus hadmits => exact h.take hstatus hadmits
  | work hstatus =>
    show Serial S calls s₀ (order ++ []) _
    rw [List.append_nil]
    exact h.work hstatus
  | drop hstatus =>
    show Serial S calls s₀ (order ++ []) _
    rw [List.append_nil]
    exact h.drop hstatus

/-- **Serial order**: whatever the tasks do together, the machine does in that order. -/
theorem Reaches.serial {ls : List (Label κ)} (h : Reaches S calls s₀ ls c) :
    Serial S calls s₀ (serialOrder ls) c := by
  induction h with
  | start =>
    exact ⟨List.nodup_nil, by simp [serialOrder, Config.outcome], by simp [Config.outcome],
      ⟨by simp, by simp, by simp⟩, ⟨fun _ => rfl, by simp⟩⟩
  | step _ hstep ih =>
    rw [serialOrder_concat]
    exact ih.step hstep

end Serial

/-! ## Real time -/

section Progress

variable {c c' : Config σ L ο κ} {ls ls₁ ls₂ : List (Label κ)} {j k : κ} {l : Label κ} {a : ο}
variable {st : Status σ L ο}

theorem serialOrder_append : serialOrder (ls₁ ++ ls₂) = serialOrder ls₁ ++ serialOrder ls₂ :=
  List.filterMap_append

variable [DecidableEq κ]

theorem Reaches.before (h : Reaches S calls s₀ (ls₁ ++ ls₂) c) :
    ∃ c₁, Reaches S calls s₀ ls₁ c₁ := by
  induction ls₂ using List.reverseRecOn generalizing c with
  | nil =>
    rw [List.append_nil] at h
    exact ⟨c, h⟩
  | append_singleton ls₂ l ih =>
    rw [← List.append_assoc] at h
    generalize hls : ls₁ ++ ls₂ ++ [l] = ls at h
    cases h with
    | start => simp at hls
    | step h _ =>
      obtain ⟨rfl, -⟩ := List.append_singleton_inj.mp hls
      exact ih h

/-- A task that has ended is in the serial order of what happened so far, one that has not
begun is not: it comes behind it. -/
theorem Reaches.precedes (h : Reaches S calls s₀ ls c) (hj : c.status j = some (.done a))
    (hk : c.status k = none) : j ∈ serialOrder ls ∧ k ∉ serialOrder ls := by
  have hserial := h.serial
  refine ⟨(hserial.placed j).mpr ?_, fun hmem => ?_⟩
  · simp [Config.outcome, hj, Status.outcome]
  · have hsome := (hserial.placed k).mp hmem
    simp [Config.outcome, hk] at hsome

/-! ## Progress -/

/-- A task that holds the guard can go on, whatever the others do. -/
theorem exists_step_of_holding {mode : Mode} {body : Body σ L ο} (S : Service σ L ι ο)
    (calls : κ → ι) (hk : c.status k = some (.holding mode body)) :
    ∃ l c', Step S calls c l c' ∧ (l = .work k ∨ l = .drop k) := by
  obtain ⟨kept, steps, answer⟩ := body
  cases steps with
  | nil => exact ⟨_, _, .drop hk, .inr rfl⟩
  | cons f rest => exact ⟨_, _, .work hk, .inl rfl⟩

/-- When nobody holds the guard, the lock can let in whom it likes. -/
theorem exists_take_of_free {mode : Mode} {body : Body σ L ο} (S : Service σ L ι ο) (calls : κ → ι)
    (hfree : ∀ j held body', c.status j ≠ some (.holding held body'))
    (hk : c.status k = some (.waiting mode body)) : ∃ c', Step S calls c (.take k) c' :=
  ⟨_, .take hk fun j held body' hj => absurd hj (hfree j held body')⟩

/-- Nobody waits for ever: as long as a task has arrived and not ended, some task can go on. -/
theorem exists_step (S : Service σ L ι ο) (calls : κ → ι) (hk : c.status k = some st)
    (hst : ∀ a, st ≠ .done a) : ∃ l c', Step S calls c l c' ∧ l.arrived? = none := by
  by_cases hheld : ∃ j mode body, c.status j = some (.holding mode body)
  · obtain ⟨j, mode, body, hj⟩ := hheld
    obtain ⟨l, c', hstep, rfl | rfl⟩ := exists_step_of_holding S calls hj
    · exact ⟨_, c', hstep, rfl⟩
    · exact ⟨_, c', hstep, rfl⟩
  · cases st with
    | waiting mode body =>
      obtain ⟨c', hstep⟩ := exists_take_of_free S calls
        (fun j held body' hj => hheld ⟨j, held, body', hj⟩) hk
      exact ⟨_, c', hstep, rfl⟩
    | holding mode body => exact absurd ⟨k, mode, body, hk⟩ hheld
    | done a => exact absurd rfl (hst a)

/-- The steps that a call takes: to arrive and to be let in, its work, and to leave. -/
def Task.cost : Task σ L ο → ℕ
  | .answered _ => 1
  | .guarded _ body => body.steps.length + 3

/-- The steps that are left to a task. -/
def Status.left : Status σ L ο → ℕ
  | .waiting _ body => body.steps.length + 2
  | .holding _ body => body.steps.length + 1
  | .done _ => 0

def Config.left (c : Config σ L ο κ) (k : κ) : ℕ := (c.status k).elim 0 Status.left

/-- The tasks that have arrived. -/
def arrivals (ls : List (Label κ)) : Finset κ := (ls.filterMap Label.arrived?).toFinset

theorem arrivals_of_none (h : l.arrived? = none) : arrivals (ls ++ [l]) = arrivals ls := by
  simp [arrivals, h]

theorem arrivals_of_some (h : l.arrived? = some k) :
    arrivals (ls ++ [l]) = insert k (arrivals ls) := by
  rw [arrivals, List.filterMap_append, List.toFinset_append]
  simp [arrivals, h]

theorem left_set : (c.set k st).left = Function.update c.left k st.left := by
  funext j
  rw [Config.left, set_status, Function.update_apply]
  split_ifs <;> rfl

/-- A task that has arrived goes on: one step less is left. -/
theorem sum_left_set {arrived : Finset κ} (hk : k ∈ arrived) (hleft : c.left k = st.left + 1) :
    ∑ j ∈ arrived, (c.set k st).left j + 1 = ∑ j ∈ arrived, c.left j := by
  rw [left_set, Finset.sum_update_of_mem hk, Finset.sum_eq_add_sum_sdiff_singleton_of_mem hk c.left,
    hleft]
  omega

/-- A task arrives: what it has still to do is added. -/
theorem sum_left_insert {arrived : Finset κ} (hk : k ∉ arrived) :
    ∑ j ∈ insert k arrived, (c.set k st).left j = st.left + ∑ j ∈ arrived, c.left j := by
  rw [left_set, Finset.sum_insert hk, Function.update_self]
  congr 1
  refine Finset.sum_congr rfl fun j hj => Function.update_of_ne ?_ _ _
  rintro rfl
  exact hk hj

/-- Arrived tasks are those with a status. -/
theorem Reaches.mem_arrivals (h : Reaches S calls s₀ ls c) :
    k ∈ arrivals ls ↔ c.status k ≠ none := by
  induction h with
  | start => simp [arrivals]
  | @step ls c l c' _ hstep ih =>
    have hset : ∀ {j st}, c.status j ≠ none →
        ((c.set j st).status k ≠ none ↔ c.status k ≠ none) := by
      intro j st hj
      rw [set_status]
      split_ifs with hkj
      · simp [hkj, hj]
      · rfl
    have hnew : ∀ {j st}, (c.set j st).status k ≠ none ↔ k = j ∨ c.status k ≠ none := by
      intro j st
      rw [set_status]
      split_ifs with hkj
      · simp [hkj]
      · simp [hkj]
    cases hstep with
    | answer _ _ => rw [arrivals_of_some rfl, Finset.mem_insert, ih, hnew]
    | arrive _ _ => rw [arrivals_of_some rfl, Finset.mem_insert, ih, hnew]
    | take hstatus _ => rw [arrivals_of_none rfl, ih, hset (by simp [hstatus])]
    | work hstatus =>
      rw [arrivals_of_none rfl, ih]
      exact (hset (by simp [hstatus])).symm
    | drop hstatus => rw [arrivals_of_none rfl, ih, hset (by simp [hstatus])]

/-- **Every step counts**: those taken and those left are together those that the calls of
the arrived tasks cost. -/
theorem Reaches.length_add (h : Reaches S calls s₀ ls c) :
    ls.length + ∑ k ∈ arrivals ls, c.left k = ∑ k ∈ arrivals ls, (S.task (calls k)).cost := by
  induction h with
  | start => simp [arrivals]
  | @step ls c l c' h hstep ih =>
    have hmem : ∀ {k st}, c.status k = some st → k ∈ arrivals ls :=
      fun hk => h.mem_arrivals.mpr (by simp [hk])
    have hnot : ∀ {k}, c.status k = none → k ∉ arrivals ls :=
      fun hk hmem => h.mem_arrivals.mp hmem hk
    rw [List.length_append, List.length_singleton]
    cases hstep with
    | answer hnew htask =>
      rw [arrivals_of_some rfl, sum_left_insert (hnot hnew), Finset.sum_insert (hnot hnew), htask,
        ← ih]
      simp only [Status.left, Task.cost]
      omega
    | arrive hnew htask =>
      rw [arrivals_of_some rfl, sum_left_insert (hnot hnew), Finset.sum_insert (hnot hnew), htask,
        ← ih]
      simp only [Status.left, Task.cost]
      omega
    | @take k mode body hstatus _ =>
      have hleft : c.left k = (Status.holding mode body).left + 1 := by
        simp [Config.left, hstatus, Status.left]
      rw [arrivals_of_none rfl, ← ih, ← sum_left_set (hmem hstatus) hleft]
      omega
    | @work k mode kept f rest answer hstatus =>
      have hleft : c.left k =
          (Status.holding mode (Body.mk (f (c.state, kept)).2 rest answer)).left + 1 := by
        simp [Config.left, hstatus, Status.left]
      rw [arrivals_of_none rfl, ← ih, ← sum_left_set (hmem hstatus) hleft]
      exact Nat.add_right_comm ..
    | @drop k mode kept answer hstatus =>
      have hleft : c.left k = (Status.done (answer kept) : Status σ L ο).left + 1 := by
        simp [Config.left, hstatus, Status.left]
      rw [arrivals_of_none rfl, ← ih, ← sum_left_set (hmem hstatus) hleft]
      omega

/-- A run that nothing but an arrival can follow has answered everybody. -/
theorem Reaches.all_done (h : Reaches S calls s₀ ls c)
    (hlast : ∀ l c', Step S calls c l c' → l.arrived? ≠ none) :
    (∀ k ∈ arrivals ls, ∃ a, c.status k = some (.done a)) ∧
      ls.length = ∑ k ∈ arrivals ls, (S.task (calls k)).cost := by
  have hdone : ∀ k ∈ arrivals ls, ∃ a, c.status k = some (.done a) := by
    intro k hk
    obtain ⟨st, hst⟩ := Option.ne_none_iff_exists'.mp (h.mem_arrivals.mp hk)
    by_contra hnot
    obtain ⟨l, c', hstep, hl⟩ :=
      exists_step S calls hst fun a heq => hnot ⟨a, by rw [hst, heq]⟩
    exact hlast l c' hstep hl
  refine ⟨hdone, ?_⟩
  rw [← h.length_add, Finset.sum_eq_zero, Nat.add_zero]
  intro k hk
  obtain ⟨a, ha⟩ := hdone k hk
  simp [Config.left, ha, Status.left]

end Progress

end Locks
