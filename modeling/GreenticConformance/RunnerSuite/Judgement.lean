import GreenticConformance.RunnerSuite

/-!
# The judgement on a runner

`handle_output` accepts an output when every condition of its expectation holds.
The report that it then gives names an exit code also for a process that a signal
ended and that has none: the code is 0, as of a process that succeeded.

## Main definitions

- `Meets`, `RunnerOptions.Accepts` — the conditions of an expectation, and of the options
- `RunnerOptions.Faithful` — what the judgement and its report should say

## Main results

- `RunnerOptions.handleOutput_accepts_iff` — a report is given when the conditions hold
- `RunnerOptions.faithful_iff` — the report is faithful unless a signal ended the process
-/

namespace GreenticConformance.RunnerSuite

open Checks Host

/-! ## Conditions -/

section Conditions

variable {json : SerdeJson} {hostBin packPath : Path} {output : Output}

/-- What an expectation asks of an output. -/
structure Meets (json : SerdeJson) (expectation : RunnerExpectation) (output : Output) : Prop where
  success : expectation.expectSuccess = true → output.status.success = true
  isJson : expectation.stdoutMustBeJson = true ∨ expectation.expectedEgress.isSome = true →
    ∃ parsed, json.fromStr (trim output.stdout.toStringLossy) = .ok parsed
  egress : ∀ expected parsed, expectation.expectedEgress = some expected →
    json.fromStr (trim output.stdout.toStringLossy) = .ok parsed →
    jsonContains parsed expected = true

/-- The stdout of an accepted output is looked at when JSON is asked for: then it
parses, and holds what is expected. -/
theorem checkExpectation_eq_ok {expectation : RunnerExpectation} {found : Option Json} :
    RunnerOptions.checkExpectation json hostBin output expectation = .ok found ↔
      (expectation.expectSuccess = true → output.status.success = true) ∧
      if expectation.stdoutMustBeJson = true ∨ expectation.expectedEgress.isSome = true then
        ∃ parsed, json.fromStr (trim output.stdout.toStringLossy) = .ok parsed ∧
          (∀ expected ∈ expectation.expectedEgress, jsonContains parsed expected = true) ∧
          some parsed = found
      else none = found := by
  unfold RunnerOptions.checkExpectation
  by_cases hfailed : expectation.expectSuccess = true ∧ output.status.success = false
  · simp only [if_pos hfailed]
    refine iff_of_false (fun h => by cases h) fun h => ?_
    exact absurd (h.1 hfailed.1) (Bool.eq_false_iff.mp hfailed.2)
  have hsuccess : expectation.expectSuccess = true → output.status.success = true := by
    intro hexpected
    exact Bool.eq_true_of_not_eq_false fun hstatus => hfailed ⟨hexpected, hstatus⟩
  by_cases hjson : expectation.stdoutMustBeJson = true ∨ expectation.expectedEgress.isSome = true
  · simp only [if_neg hfailed, if_pos hjson, bind_eq_ok, withContextOf_eq_ok]
    refine Iff.trans ?_ (and_iff_right hsuccess).symm
    refine exists_congr fun parsed => and_congr_right fun _ => ?_
    cases expectation.expectedEgress with
    | none => simp only [pure_eq_ok, Option.mem_def, reduceCtorEq, false_implies, implies_true,
        true_and]
    | some expected => simp only [bind_eq_ok, exists_unit, failIf_eq_ok, pure_eq_ok,
        Option.mem_def, Option.some_inj, forall_eq', Bool.not_eq_false]
  · simp only [if_neg hfailed, if_neg hjson]
    exact ⟨fun h => ⟨hsuccess, Except.ok.inj h⟩, fun h => congrArg _ h.2⟩

theorem meets_iff {expectation : RunnerExpectation} :
    Meets json expectation output ↔
      ∃ found, RunnerOptions.checkExpectation json hostBin output expectation = .ok found := by
  simp only [checkExpectation_eq_ok]
  by_cases hjson : expectation.stdoutMustBeJson = true ∨ expectation.expectedEgress.isSome = true
  · simp only [if_pos hjson]
    refine ⟨fun h => ?_, fun h => ?_⟩
    · obtain ⟨parsed, hparsed⟩ := h.isJson hjson
      refine ⟨some parsed, h.success, parsed, hparsed, fun expected hexpected => ?_, rfl⟩
      exact h.egress expected parsed hexpected hparsed
    · obtain ⟨_, hsuccess, parsed, hparsed, hegress, -⟩ := h
      refine ⟨hsuccess, fun _ => ⟨parsed, hparsed⟩, fun expected parsed' hexpected hparsed' => ?_⟩
      -- the text has one value
      have heq : parsed' = parsed := Except.ok.inj (hparsed'.symm.trans hparsed)
      exact heq ▸ hegress expected hexpected
  · simp only [if_neg hjson]
    refine ⟨fun h => ⟨none, h.success, rfl⟩, fun h => ?_⟩
    obtain ⟨_, hsuccess, -⟩ := h
    refine ⟨hsuccess, fun hasked => absurd hasked hjson, fun expected _ hexpected => ?_⟩
    exact absurd (Or.inr (by simp [hexpected])) hjson

end Conditions

/-! ## Reports -/

namespace RunnerOptions

variable (json : SerdeJson) (hostBin packPath : Path) (o : RunnerOptions) (output : Output)

/-- Every configured condition holds. -/
def Accepts : Prop := ∀ expectation ∈ o.expectation, Meets json expectation output

variable {json hostBin packPath o output}

theorem handleOutput_accepts_iff :
    (∃ report, o.handleOutput json hostBin packPath output = .ok report) ↔
      o.Accepts json output := by
  unfold handleOutput Accepts
  cases o.expectation with
  | none => exact iff_of_true ⟨_, rfl⟩ nofun
  | some expectation =>
    simp only [Option.mem_def, Option.some_inj, forall_eq', bind_eq_ok, pure_eq_ok]
    rw [meets_iff, exists_comm]
    exact exists_congr fun found => ⟨fun h => h.choose_spec.1, fun h => ⟨_, h, rfl⟩⟩

/-- The status in a report is the exit code, and 0 where there is none. -/
theorem status_of_handleOutput {report : RunnerReport}
    (h : o.handleOutput json hostBin packPath output = .ok report) :
    report.snapshot.status = output.status.code.getD 0 := by
  unfold handleOutput at h
  cases hexpectation : o.expectation with
  | none =>
    rw [hexpectation] at h
    rw [← Except.ok.inj h]
  | some expectation =>
    rw [hexpectation] at h
    obtain ⟨_, -, h⟩ := bind_eq_ok.mp h
    rw [← Except.ok.inj h]

/-- The code 0 stands for success, except where it stands for no code. -/
theorem status_eq_zero_iff {status : ExitStatus} :
    (status.code.getD 0 = 0 ↔ status.success = true) ↔ status.code ≠ none := by
  cases h : status.code with
  | none => simp [ExitStatus.success, h]
  | some code => simp [ExitStatus.success, h]

variable (json hostBin packPath o output)

/-- A report is given when the conditions hold, and its status is 0 when the process
succeeded. -/
def Faithful : Prop :=
  ((∃ report, o.handleOutput json hostBin packPath output = .ok report) ↔
      o.Accepts json output) ∧
    ∀ report, o.handleOutput json hostBin packPath output = .ok report →
      (report.snapshot.status = 0 ↔ output.status.success = true)

/-- The judgement is faithful when the process ended with an exit code, or is not
accepted. -/
theorem faithful_iff :
    o.Faithful json hostBin packPath output ↔
      output.status.code ≠ none ∨ ¬ o.Accepts json output := by
  have hstatus : ∀ report, o.handleOutput json hostBin packPath output = .ok report →
      ((report.snapshot.status = 0 ↔ output.status.success = true) ↔
        output.status.code ≠ none) := by
    intro report hreport
    rw [status_of_handleOutput hreport]
    exact status_eq_zero_iff
  have haccepts : o.Accepts json output ↔
      ∃ report, o.handleOutput json hostBin packPath output = .ok report :=
    handleOutput_accepts_iff.symm
  rw [Faithful, and_iff_right handleOutput_accepts_iff, haccepts]
  by_cases hcode : output.status.code = none
  · refine ⟨fun h => Or.inr fun hex => ?_, fun h report hreport => ?_⟩
    · obtain ⟨report, hreport⟩ := hex
      exact (hstatus report hreport).mp (h report hreport) hcode
    · exact absurd ⟨report, hreport⟩ (h.resolve_left (not_not_intro hcode))
  · exact iff_of_true (fun report hreport => (hstatus report hreport).mpr hcode) (Or.inl hcode)

end RunnerOptions

namespace Sample

/-- A process that a signal ended, without output. -/
def killed : Output where
  status := ⟨none, "signal: 9 (SIGKILL)"⟩
  stdout := []
  stderr := []

/-- A reader of JSON for outputs that are not read. -/
def noJson : SerdeJson where
  fromStr _ := .error "expected value"
  stringsFromStr _ := .error "expected value"
  toString _ := ""
  toStringPretty _ := .error ""

/-- Options that allow the runner to fail. -/
def failureAllowed : RunnerOptions :=
  RunnerOptions.default.withExpectation RunnerExpectation.default.allowFailure

/-- The report on a killed process shows the status of a success. -/
theorem killed_not_faithful :
    ¬ failureAllowed.Faithful noJson ⟨OsStr.ofString "runner"⟩ ⟨OsStr.ofString "pack"⟩ killed := by
  intro h
  have hreport := h.2 _ rfl
  exact absurd (hreport.mp rfl) (by decide)

end Sample

end GreenticConformance.RunnerSuite
