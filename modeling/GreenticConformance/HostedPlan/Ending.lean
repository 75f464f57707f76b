import GreenticConformance.HostedPlan.Main
import GreenticConformance.HostedPlan.Undriven
import GreenticConformance.Runs.Within
import Mathlib.Algebra.Order.Floor.Semiring
import Mathlib.Data.Rat.Floor
import Mathlib.Tactic.Linarith

/-!
# The driver ends

The one loop of the driver without a bound of its own is a poll, which looks at the clock
before each round and sleeps after it. On a clock that advances in between, every poll is
over after so many rounds, and so is every run of the command.

## Main definitions

- `Advances` — the clock advances from round to round
- `rounds` — how many rounds fit into the time that a poll has

## Main results

- `pollModule_endsWithin` — a poll ends
- `main_ends` — the command ends, with so many actions for each module
-/

namespace GreenticConformance.HostedPlan

open Checks Host Runs Runs.Logged

/-- The clock is not set back when a poll begins, and advances by `δ` from round to round:
`poll_module` sleeps for two seconds. -/
structure Advances (suite : Suite) (δ : ℚ) : Prop where
  pos : 0 < δ
  start : ∀ listing, suite.time listing 0 ≤ suite.time listing 1
  next : ∀ listing n, suite.time listing (n + 1) + δ ≤ suite.time listing (n + 2)

/-- The rounds that fit into the 900 seconds of a poll. -/
def rounds (δ : ℚ) : ℕ := ⌈900 / δ⌉₊

theorem le_rounds_mul {δ : ℚ} (h : 0 < δ) : 900 ≤ rounds δ * δ :=
  (div_le_iff₀ h).mp (Nat.le_ceil (900 / δ))

section Poll

variable {suite : Suite} {δ : ℚ} {fuel listing n : ℕ} {moduleId status lastStatus : Json}
variable {failFast : Bool}

theorem Advances.le (h : Advances suite δ) :
    suite.time listing 0 + n * δ ≤ suite.time listing (n + 1) := by
  induction n with
  | zero => simpa using h.start listing
  | succ n ih =>
    have hnext := h.next listing n
    push_cast
    linarith

/-- After the last round that fits the deadline has passed. -/
theorem Advances.deadline_le (h : Advances suite δ) :
    suite.time listing 0 + 900 ≤ suite.time listing (rounds δ + 1) := by
  have hrounds := le_rounds_mul h.pos
  have hclock := @Advances.le suite δ listing (rounds δ) h
  linarith

/-! ## A poll -/

theorem notPassed_endsWithin (message : String) : EndsWithin 0 (notPassed failFast message) := by
  cases failFast with
  | true => exact endsWithin_raise _
  | false => exact endsWithin_pure _

theorem ended_endsWithin {outcome : Json} :
    EndsWithin 0 (ended suite moduleId failFast status outcome) := by
  refine endsWithin_result_bind _ fun acceptable => ?_
  cases acceptable with
  | true => exact endsWithin_pure _
  | false => exact notPassed_endsWithin _

/-- In the rounds that are left a poll reads the clock and asks for the state of the module;
then it reads the clock once more. -/
theorem pollLoop_endsWithin (h : Advances suite δ) (hpast : n ≤ rounds δ)
    (hfuel : rounds δ < n + fuel) :
    EndsWithin (2 * (rounds δ - n) + 1) (pollLoop suite listing moduleId failFast
      (suite.time listing 0 + 900) fuel (n + 1) lastStatus) := by
  induction fuel generalizing n lastStatus with
  | zero => omega
  | succ fuel ih =>
    rw [pollLoop, Nat.add_comm _ 1]
    refine (endsWithin_ask _ _).bind_of_returns fun reading t hreading => ?_
    obtain ⟨hvalue, -⟩ := returns_ask.mp hreading
    obtain rfl := Except.ok.inj hvalue
    by_cases hlt : suite.time listing (n + 1) < suite.time listing 0 + 900
    · -- a round is left, as the deadline has not passed
      have hleft : n < rounds δ := by
        refine lt_of_le_of_ne hpast fun heq => ?_
        rw [heq] at hlt
        exact absurd hlt (not_lt.mpr h.deadline_le)
      have hbound : 2 * (rounds δ - n) = 1 + (2 * (rounds δ - (n + 1)) + 1) := by omega
      rw [if_pos hlt, hbound]
      refine (endsWithin_ask _ _).bind fun info => ?_
      refine endsWithin_result_bind _ fun status => ?_
      refine endsWithin_result_bind _ fun outcome => ?_
      refine endsWithin_result_bind _ fun stopped => ?_
      cases stopped with
      | true => exact ended_endsWithin.mono (Nat.zero_le _)
      | false => exact ih hleft (by omega)
    · rw [if_neg hlt]
      exact (notPassed_endsWithin _).mono (Nat.zero_le _)

theorem pollModule_endsWithin (h : Advances suite δ) (hfuel : rounds δ < fuel) :
    EndsWithin (2 * rounds δ + 2) (pollModule suite fuel listing moduleId failFast) := by
  rw [pollModule, Nat.add_comm _ 2, Nat.add_assoc 1 1]
  refine (endsWithin_ask _ _).bind_of_returns fun start t hstart => ?_
  obtain ⟨hvalue, -⟩ := returns_ask.mp hstart
  obtain rfl := Except.ok.inj hvalue
  exact (pollLoop_endsWithin h (Nat.zero_le _) (by omega)).mono (by omega)

end Poll

/-! ## A module -/

section Driving

variable {suite : Suite} {δ : ℚ} {fuel listing m : ℕ} {arguments : Arguments} {issuer : String}
variable {moduleId status : Json} {module : Module} {overallSuccess failFast : Bool}

theorem attempt_endsWithin {α : Type} {x : Driver α} (h : EndsWithin m x) :
    EndsWithin m (attempt failFast x) := by
  have hsome : EndsWithin (m + 0) (do let a ← x; pure (some a)) := h.bind fun a => endsWithin_pure _
  refine hsome.catching (n := 0) fun e => ?_
  cases e with
  | runtimeError message =>
    cases failFast with
    | true => exact endsWithin_raise _
    | false => exact endsWithin_pure _
  | _ => exact endsWithin_raise _

/-- The second way to start a module is tried only where the first one failed. -/
theorem startModule_endsWithin : EndsWithin 2 (startModule suite listing moduleId) := by
  have hstart : EndsWithin 1 (call suite listing 0 (startRequest suite moduleId)) :=
    endsWithin_ask _ _
  refine hstart.catching (n := 1) fun e => ?_
  cases e with
  | runtimeError message => exact endsWithin_ask _ _
  | _ => exact (endsWithin_raise _).mono (Nat.zero_le 1)

theorem startFrom_endsWithin {stage : String} :
    EndsWithin 2 (startFrom suite listing moduleId stage status) := by
  unfold startFrom
  by_cases h : isString status stage
  · rw [if_pos h]
    exact startModule_endsWithin.bind fun _ => endsWithin_pure _
  · rw [if_neg h]
    exact (endsWithin_pure _).mono (Nat.zero_le 2)

/-- One of the two tests for a start fails, so a module is started once. -/
theorem starts_endsWithin {f : Json → Driver Bool} (hf : ∀ status, EndsWithin m (f status)) :
    EndsWithin (2 + m) (do
      let status ← startFrom suite listing moduleId "CREATED" status
      let status ← startFrom suite listing moduleId "CONFIGURED" status
      f status) := by
  by_cases h : isString status "CREATED"
  · refine startFrom_endsWithin.bind_of_returns fun after t hafter => ?_
    have hwaiting : after = .string "WAITING" := by
      unfold startFrom at hafter
      rw [if_pos h, returns_bind_ok] at hafter
      obtain ⟨_, _, _, _, hpure, _⟩ := hafter
      exact (Except.ok.inj (returns_pure.mp hpure).1).symm
    have hother : isString (.string "WAITING") "CONFIGURED" = false := rfl
    rw [hwaiting, startFrom, hother]
    exact endsWithin_result_bind (.ok _) hf
  · rw [startFrom, if_neg h]
    refine endsWithin_result_bind (.ok status) fun _ => ?_
    exact startFrom_endsWithin.bind hf

theorem triggerWaiting_endsWithin :
    EndsWithin 1 (triggerWaiting suite listing arguments issuer moduleId status) := by
  unfold triggerWaiting
  by_cases h : isString status "WAITING"
  · rw [if_pos h]
    exact attempt_endsWithin (endsWithin_ask _ _)
  · rw [if_neg h]
    exact (endsWithin_pure _).mono (Nat.zero_le 1)

theorem pollTriggered_endsWithin {triggered : Option Unit} (h : Advances suite δ)
    (hfuel : rounds δ < fuel) : EndsWithin (2 * rounds δ + 2)
      (pollTriggered suite fuel listing failFast overallSuccess moduleId triggered) := by
  cases triggered with
  | none => exact (endsWithin_pure _).mono (Nat.zero_le _)
  | some _ =>
    have hpoll := @pollModule_endsWithin suite δ fuel listing moduleId failFast h hfuel
    exact (attempt_endsWithin hpoll).bind fun _ => endsWithin_pure _

/-- A listing ends: it is announced, asked about, started, triggered and polled. -/
theorem driveModule_ends (h : Advances suite δ) (hfuel : rounds δ < fuel) : ∃ r rest,
    (driveModule suite fuel listing arguments issuer overallSuccess module).Returns r
      (.processing module.name module.id :: rest) ∧ rest.length ≤ 2 * rounds δ + 6 := by
  refine EndsWithin.note_bind ?_
  have hbound : 2 * rounds δ + 6 = 1 + (2 + (1 + (2 * rounds δ + 2))) := by omega
  rw [hbound]
  refine (endsWithin_ask _ _).bind fun info => ?_
  refine endsWithin_result_bind _ fun status => ?_
  refine starts_endsWithin fun status => ?_
  exact triggerWaiting_endsWithin.bind fun _ => pollTriggered_endsWithin h hfuel

/-! ## The modules of a plan -/

/-- The log is no longer than the announcements of modules in it allow. -/
def LogsFor (bound : ℕ) (t : List Event) : Prop := t.length ≤ bound * t.countP isProcessing

theorem LogsFor.append {bound : ℕ} {t u : List Event} (ht : LogsFor bound t)
    (hu : LogsFor bound u) : LogsFor bound (t ++ u) := by
  unfold LogsFor at *
  rw [List.length_append, List.countP_append, Nat.mul_add]
  exact Nat.add_le_add ht hu

theorem logsFor_processing {bound : ℕ} {name moduleId : Json} {rest : List Event}
    (h : rest.length ≤ bound) : LogsFor (bound + 1) (.processing name moduleId :: rest) := by
  have hone : 1 ≤ (Event.processing name moduleId :: rest).countP isProcessing := by
    rw [List.countP_cons_of_pos rfl]
    exact Nat.le_add_left 1 _
  calc (Event.processing name moduleId :: rest).length ≤ (bound + 1) * 1 := by
        rw [List.length_cons, Nat.mul_one]
        exact Nat.succ_le_succ h
    _ ≤ _ := Nat.mul_le_mul_left _ hone

theorem driveFrom_ends {modules : List Module} (h : Advances suite δ) (hfuel : rounds δ < fuel) :
    ∃ r t, (driveFrom suite fuel arguments issuer listing overallSuccess modules).Returns r t ∧
      LogsFor (2 * rounds δ + 7) t := by
  induction modules generalizing listing overallSuccess with
  | nil => exact ⟨.ok overallSuccess, [], returns_pure.mpr ⟨rfl, rfl⟩, Nat.zero_le _⟩
  | cons module modules ih =>
    rw [driveFrom]
    obtain ⟨r, rest, hmodule, hlength⟩ :=
      @driveModule_ends suite δ fuel listing arguments issuer module overallSuccess h hfuel
    have hlogs := @logsFor_processing _ module.name module.id rest hlength
    cases r with
    | error e => exact ⟨.error e, _, hmodule.bind_error, hlogs⟩
    | ok after =>
      obtain ⟨s, u, hmodules, hmore⟩ := @ih (listing + 1) after
      exact ⟨s, _, hmodule.bind hmodules, hlogs.append hmore⟩

theorem ensureModules_endsWithin {planId : String} :
    EndsWithin 1 (ensureModules suite planId) := by
  refine EndsWithin.bind (m := 1) (n := 0) (endsWithin_ask _ _) fun detail => ?_
  refine endsWithin_result_bind _ fun modules => ?_
  refine endsWithin_result_bind _ fun entries => ?_
  refine endsWithin_result_bind _ fun normalized => ?_
  by_cases hempty : (normalized.filterMap id).isEmpty
  · rw [if_pos hempty]
    exact endsWithin_raise _
  · rw [if_neg hempty]
    exact endsWithin_pure _

theorem driveModules_ends (h : Advances suite δ) (hfuel : rounds δ < fuel) :
    ∃ r t, (driveModules suite fuel arguments).Returns r t ∧
      t.length ≤ 1 + (2 * rounds δ + 7) * t.countP isProcessing := by
  obtain ⟨r, t, hplan, hone⟩ := @ensureModules_endsWithin suite arguments.planId
  cases r with
  | error e => exact ⟨.error e, t, hplan.bind_error, Nat.le_add_right_of_le hone⟩
  | ok modules =>
    obtain ⟨s, u, hdrive, hlogs⟩ :=
      @driveFrom_ends suite δ fuel 1 arguments (issuerOf suite arguments) true modules h hfuel
    refine ⟨s, t ++ u, hplan.bind hdrive, ?_⟩
    rw [List.length_append, List.countP_append, Nat.mul_add]
    exact Nat.add_le_add hone (Nat.le_add_left_of_le hlogs)

theorem driveModules_extends {fuel' : ℕ} (h : fuel ≤ fuel') :
    Extends (driveModules suite fuel arguments) (driveModules suite fuel' arguments) :=
  .bind .refl fun _ => driveFrom_extends h

end Driving

/-! ## The command -/

section Command

variable {env : Environment} {args : Args} {δ : ℚ} {fuel : ℕ}

/-- The suite that the command asks has the clock of the environment. -/
theorem advances_of_buildClient {baseUrl token : String} {suite : Suite}
    (hclock : ∀ baseUrl token, Advances (env.suite baseUrl token) δ)
    (h : buildClient env baseUrl token = .ok suite) : Advances suite δ := by
  obtain ⟨url, _, hsuite⟩ := bind_eq_ok.mp h
  obtain rfl := Except.ok.inj hsuite
  have hadvances := hclock (rstripSlash url ++ "/") token
  exact ⟨hadvances.pos, hadvances.start, hadvances.next⟩

theorem main_extends {fuel' : ℕ} (h : fuel ≤ fuel') :
    Extends (main env fuel args) (main env fuel' args) := by
  refine .bind .refl fun serverUrl => .bind .refl fun suite => .bind .refl fun planId => ?_
  refine .bind .refl fun triggerUrl => ?_
  exact .catching (.bind (driveModules_extends h) fun _ => .refl)

end Command

/-- **The command ends**: whatever the suite and the relying party answer, and however many
modules the plan lists, the command returns or raises if the clock advances by `δ` from one
round of a poll to the next. It has asked for the plan once, and has done at most so many
things for each module it announced as the rounds of one poll allow. -/
theorem main_ends (env : Environment) (args : Args) {δ : ℚ}
    (hclock : ∀ baseUrl token, Advances (env.suite baseUrl token) δ) :
    ∃ r t, (∀ fuel, rounds δ < fuel → (main env fuel args).Returns r t) ∧
      t.length ≤ 1 + (2 * rounds δ + 7) * t.countP isProcessing := by
  -- the least fuel that is enough decides the outcome, more does not change it
  suffices hleast : ∃ r t, (main env (rounds δ + 1) args).Returns r t ∧
      t.length ≤ 1 + (2 * rounds δ + 7) * t.countP isProcessing by
    obtain ⟨r, t, hmain, hlength⟩ := hleast
    exact ⟨r, t, fun fuel hfuel => main_extends hfuel r t hmain, hlength⟩
  refine exists_returns_result_bind (Nat.zero_le _) fun serverUrl _ => ?_
  refine exists_returns_result_bind (Nat.zero_le _) fun suite hsuite => ?_
  refine exists_returns_result_bind (Nat.zero_le _) fun planId _ => ?_
  refine exists_returns_result_bind (Nat.zero_le _) fun triggerUrl _ => ?_
  obtain ⟨r, t, hdrive, hlength⟩ :=
    driveModules_ends (advances_of_buildClient hclock hsuite) (Nat.lt_succ_self _)
  exact ⟨statusOf r, t, exiting_returns.mpr ⟨r, hdrive, rfl⟩, hlength⟩

/-- The environment of the sample, on a clock that advances by the two seconds of a sleep. -/
theorem sampleEnvironment_advances (baseUrl token : String) :
    Advances (sampleEnvironment.suite baseUrl token) 2 where
  pos := by norm_num
  start listing := by simp [sampleEnvironment, sampleSuite]
  next listing n := by
    simp only [sampleEnvironment, sampleSuite]
    push_cast
    linarith

theorem main_ends_sample :
    ∃ r t, (∀ fuel, rounds 2 < fuel → (main sampleEnvironment fuel sampleArgs).Returns r t) ∧
      t.length ≤ 1 + (2 * rounds 2 + 7) * t.countP isProcessing :=
  main_ends sampleEnvironment sampleArgs sampleEnvironment_advances

end GreenticConformance.HostedPlan
