import GreenticConformance.Cli.Ready
import GreenticConformance.RunnerSuite.Judgement

/-!
# What the verdict on a runner stands for

`check_runner` runs the smoke test of the runner suite, if it knows of a pack to run it
on.

## Main definitions

- `Smokes` — a smoke test that is passed
- `RunnerV1` — what the verdict stands for

## Main results

- `checkRunner_verdict` — when there is a report, and what it says
-/

namespace GreenticConformance.Cli

open Checks Host
open RunnerSuite (Meets RunnerExpectation RunnerOptions)

section Runner

variable (world : World) (processes : Processes) (json : SerdeJson) (c : RunnerArgs)

/-- The smoke test of the runner on a pack is passed with this output. -/
structure Smokes (overrides : List (String × String)) (packPath : Path)
    (expectation : RunnerExpectation) (output : Output) : Prop where
  expects : c.parseExpectation json = .ok expectation
  found : world.pathExists c.path = true
  pack : world.pathExists packPath = true
  ran : Ran processes ((c.runnerOptions expectation overrides).command world c.path packPath) output
  meets : Meets json expectation output

/-- What `runner_v1` stands for. Nothing is run where no pack is given. -/
def RunnerV1 : Prop :=
  ∃ overrides, Ready world c.path c.workdir c.env overrides ∧
    ∀ packPath ∈ c.packPath world, ∃ expectation output,
      Smokes world processes json c overrides packPath expectation output

variable {world processes json c}
variable {overrides : List (String × String)} {packPath : Path} {run run' : RunnerRun}
variable {expectation : RunnerExpectation}

theorem runnerOptions_eq : c.runnerOptions expectation overrides =
    ⟨c.arg, overrides, c.workdir, c.stdin, some expectation⟩ := by
  have hargs (stdin : Option String) :
      c.arg.foldl RunnerOptions.addArg ⟨[], [], none, stdin, some expectation⟩ =
        ⟨c.arg, [], none, stdin, some expectation⟩ :=
    foldl_snoc (fun args => (⟨args, [], none, stdin, some expectation⟩ : RunnerOptions))
      (fun _ _ => rfl) [] c.arg
  unfold RunnerArgs.runnerOptions
  cases c.stdin with
  | none =>
    simp only [RunnerOptions.default, RunnerOptions.withExpectation, hargs]
    rw [foldl_snoc (fun env => (⟨c.arg, env, none, none, some expectation⟩ : RunnerOptions))
      (fun _ _ => ?_) [] overrides]
    · cases c.workdir <;> rfl
    · rfl
  | some payload =>
    simp only [RunnerOptions.default, RunnerOptions.withExpectation, RunnerOptions.withStdin, hargs]
    rw [foldl_snoc (fun env => (⟨c.arg, env, none, some payload, some expectation⟩ : RunnerOptions))
      (fun _ _ => ?_) [] overrides]
    · cases c.workdir <;> rfl
    · rfl

/-- A smoke test gives a report for an output that is accepted. -/
theorem smokeRunWithMocks_iff {o : RunnerOptions} {hostBin : Path} :
    (∃ report, o.smokeRunWithMocks world processes json hostBin packPath = .ok report) ↔
      world.pathExists hostBin = true ∧ world.pathExists packPath = true ∧
        ∃ output, Ran processes (o.command world hostBin packPath) output ∧
          o.Accepts json output := by
  have hcommand : (o.command world hostBin packPath).stdin = o.stdin := rfl
  unfold RunnerOptions.smokeRunWithMocks
  cases hstdin : o.stdin with
  | none =>
    simp only [bind_eq_ok, exists_unit, failIf_eq_ok, Bool.not_eq_false, withContextOf_eq_ok,
      output_eq_ok (hcommand.trans hstdin)]
    constructor
    · rintro ⟨report, hfound, hpack, output, hran, hreport⟩
      exact ⟨hfound, hpack, output, hran, RunnerOptions.handleOutput_accepts_iff.mp ⟨_, hreport⟩⟩
    · rintro ⟨hfound, hpack, output, hran, haccepts⟩
      obtain ⟨report, hreport⟩ := RunnerOptions.handleOutput_accepts_iff.mpr haccepts
      exact ⟨report, hfound, hpack, output, hran, hreport⟩
  | some payload =>
    simp only [bind_eq_ok, exists_unit, failIf_eq_ok, Bool.not_eq_false, withContextOf_eq_ok]
    constructor
    · rintro ⟨report, hfound, hpack, child, hspawn, hwrite, output, hwait, hreport⟩
      exact ⟨hfound, hpack, output, ⟨child, hspawn, fun _ => hwrite, hwait⟩,
        RunnerOptions.handleOutput_accepts_iff.mp ⟨_, hreport⟩⟩
    · rintro ⟨hfound, hpack, output, ⟨child, hspawn, hwrite, hwait⟩, haccepts⟩
      obtain ⟨report, hreport⟩ := RunnerOptions.handleOutput_accepts_iff.mpr haccepts
      have hpayload : (o.command world hostBin packPath).stdin ≠ none := by
        rw [hcommand, hstdin]
        exact Option.some_ne_none payload
      exact ⟨report, hfound, hpack, child, hspawn, hwrite hpayload, output, hwait, hreport⟩

/-- The smoke test adds an issue unless it is passed. -/
theorem smokeTest_issues (hissues : run.issues = [])
    (h : c.smokeTest world processes json overrides packPath run = .ok run') :
    ∃ expectation, c.parseExpectation json = .ok expectation ∧
      (run'.issues = [] ↔
        ∃ output, Smokes world processes json c overrides packPath expectation output) := by
  simp only [RunnerArgs.smokeTest, if_pos hissues, bind_eq_ok] at h
  obtain ⟨expectation, hexpects, h⟩ := h
  refine ⟨expectation, hexpects, ?_⟩
  have hsmokes : (∃ report, (c.runnerOptions expectation overrides).smokeRunWithMocks world
      processes json c.path packPath = .ok report) ↔
        ∃ output, Smokes world processes json c overrides packPath expectation output := by
    rw [smokeRunWithMocks_iff]
    have haccepts (output : Output) :
        (c.runnerOptions expectation overrides).Accepts json output ↔
          Meets json expectation output := by
      simp [RunnerOptions.Accepts, runnerOptions_eq]
    constructor
    · rintro ⟨hfound, hpack, output, hran, hmeets⟩
      exact ⟨output, hexpects, hfound, hpack, hran, (haccepts output).mp hmeets⟩
    · rintro ⟨output, -, hfound, hpack, hran, hmeets⟩
      exact ⟨hfound, hpack, output, hran, (haccepts output).mpr hmeets⟩
  rw [← hsmokes]
  cases hsmoke : (c.runnerOptions expectation overrides).smokeRunWithMocks world processes json
      c.path packPath with
  | ok report =>
    simp only [hsmoke, pure_eq_ok] at h
    subst h
    exact iff_of_true hissues ⟨report, rfl⟩
  | error err =>
    simp only [hsmoke, pure_eq_ok] at h
    subst h
    exact iff_of_false (by simp) (by simp)

theorem exists_smokeTest_iff : (∃ run', c.smokeTest world processes json overrides packPath run =
      .ok run') ↔
    (run.issues = [] → ∃ expectation, c.parseExpectation json = .ok expectation) := by
  unfold RunnerArgs.smokeTest
  by_cases hissues : run.issues = []
  · rw [if_pos hissues]
    simp only [bind_eq_ok]
    constructor
    · rintro ⟨_, expectation, hexpects, -⟩ _
      exact ⟨expectation, hexpects⟩
    · intro h
      obtain ⟨expectation, hexpects⟩ := h hissues
      cases hsmoke : (c.runnerOptions expectation overrides).smokeRunWithMocks world processes json
          c.path packPath with
      | ok report => exact ⟨_, expectation, hexpects, by rw [hsmoke]; rfl⟩
      | error err => exact ⟨_, expectation, hexpects, by rw [hsmoke]; rfl⟩
  · rw [if_neg hissues]
    exact iff_of_true ⟨run, rfl⟩ fun hnil => absurd hnil hissues

/-- The issues that the smoke test starts with. -/
theorem packIssues_eq_nil {message : String} :
    run.issues ++ issueIf (!world.pathExists packPath) message = [] ↔
      run.issues = [] ∧ world.pathExists packPath = true := by
  rw [List.append_eq_nil_iff, issueIf_eq_nil, Bool.not_eq_false']

theorem testPack_issues (h : c.testPack world processes json overrides run = .ok run') :
    run'.issues = [] ↔ run.issues = [] ∧ ∀ packPath ∈ c.packPath world, ∃ expectation output,
      Smokes world processes json c overrides packPath expectation output := by
  unfold RunnerArgs.testPack at h
  cases hpack : c.packPath world with
  | none =>
    rw [hpack] at h
    obtain rfl := Except.ok.inj h
    simp
  | some packPath =>
    simp only [hpack] at h
    simp only [Option.mem_def, Option.some_inj, forall_eq']
    by_cases hready : run.issues = [] ∧ world.pathExists packPath = true
    · obtain ⟨expectation, hexpects, hsmokes⟩ := smokeTest_issues (packIssues_eq_nil.mpr hready) h
      rw [hsmokes, and_iff_right hready.1]
      constructor
      · rintro ⟨output, hpassed⟩
        exact ⟨expectation, output, hpassed⟩
      · rintro ⟨expectation', output, hpassed⟩
        rw [Except.ok.inj (hexpects.symm.trans hpassed.expects)]
        exact ⟨output, hpassed⟩
    · rw [RunnerArgs.smokeTest, if_neg (mt packIssues_eq_nil.mp hready)] at h
      obtain rfl := Except.ok.inj h
      refine iff_of_false (mt packIssues_eq_nil.mp hready) ?_
      rintro ⟨hnil, _, _, hpassed⟩
      exact hready ⟨hnil, hpassed.pack⟩

theorem exists_testPack_iff : (∃ run', c.testPack world processes json overrides run = .ok run') ↔
    ∀ packPath ∈ c.packPath world, run.issues = [] → world.pathExists packPath = true →
      ∃ expectation, c.parseExpectation json = .ok expectation := by
  unfold RunnerArgs.testPack
  cases hpack : c.packPath world with
  | none => simp
  | some packPath =>
    simp only [Option.mem_def, Option.some_inj, forall_eq']
    rw [exists_smokeTest_iff, packIssues_eq_nil, and_imp]

/-- **Runners.** There is a report on every path that can be looked at, unless the smoke test
is due and the expected egress is not JSON. The verdict is good if the runner was ready and,
where there is a pack, passed the smoke test on it. -/
theorem checkRunner_verdict (world : World) (processes : Processes) (json : SerdeJson)
    (c : RunnerArgs) :
    ((∃ report, checkRunner world processes json c = .ok report) ↔
      (∃ metadata, world.metadata c.path = .ok metadata) ∧
        ∀ overrides, Ready world c.path c.workdir c.env overrides →
          ∀ packPath ∈ c.packPath world, world.pathExists packPath = true →
            ∃ expectation, c.parseExpectation json = .ok expectation) ∧
    ∀ report, checkRunner world processes json c = .ok report →
      (report.runnerV1 = true ↔ RunnerV1 world processes json c) := by
  refine ⟨?_, fun report h => ?_⟩
  · simp only [checkRunner, bind_eq_ok, withContextOf_eq_ok, pure_eq_ok]
    constructor
    · rintro ⟨_, metadata, hm, run, hrun, -⟩
      refine ⟨⟨metadata, hm⟩, fun overrides hready packPath hpack hexists => ?_⟩
      rw [← hready.overrides_eq] at hready
      exact exists_testPack_iff.mp ⟨run, hrun⟩ packPath hpack ((early_eq_nil hm).mpr hready) hexists
    · rintro ⟨⟨metadata, hm⟩, hparse⟩
      obtain ⟨run, hrun⟩ : ∃ run, c.testPack world processes json (envOverrides c.env).1
          ⟨fileIssues "runner" metadata ++ workdirIssues world "runner" c.workdir ++
            (envOverrides c.env).2, _, _⟩ = .ok run :=
        exists_testPack_iff.mpr fun packPath hpack hnil hexists =>
          hparse _ ((early_eq_nil hm).mp hnil) packPath hpack hexists
      exact ⟨_, metadata, hm, run, hrun, rfl⟩
  · have hagrees : report.runnerV1 = true ↔ report.issues = [] := checkRunner_agrees h
    simp only [checkRunner, bind_eq_ok, withContextOf_eq_ok, pure_eq_ok] at h
    obtain ⟨metadata, hm, run, hrun, hreport⟩ := h
    have hissues : report.issues = run.issues := by rw [← hreport]
    rw [hagrees, hissues, testPack_issues hrun, early_eq_nil hm, RunnerV1, exists_ready_iff]

end Runner

end GreenticConformance.Cli
