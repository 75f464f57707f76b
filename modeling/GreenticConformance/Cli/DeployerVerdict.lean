import GreenticConformance.Cli.Ready

/-!
# What the verdict on a deployer stands for

`check_deployer` asks the deployer for its help text, and has it apply a configuration
twice, if there is one.

## Main definitions

- `Helps`, `Idempotent` — the calls that go well
- `DeployerV1` — what the verdict stands for

## Main results

- `checkDeployer_verdict` — when there is a report, and what it says
-/

namespace GreenticConformance.Cli

open Checks Host
open DeployerSuite (assertDeployerIdempotent runDeployer)

section Deployer

/-- A call of the deployer, with nothing to read and nothing set. -/
def DeployerArgs.call (c : DeployerArgs) (args : List OsStr) : Command where
  program := c.path
  args := args
  env := []
  currentDir := none
  stdin := none

/-- The call that applies a configuration. -/
def DeployerArgs.applyCall (c : DeployerArgs) (config : Path) : Command :=
  c.call ([.ofString "apply", .ofString "-f", config.text] ++ c.arg.map OsStr.ofString)

variable (world : World) (processes : Processes) (c : DeployerArgs)

/-- The configuration was applied twice, in the second and the third process, with the same
text on the standard output. -/
structure Idempotent (config : Path) (first second : Output) : Prop where
  found : world.pathExists c.path = true
  configFound : world.pathExists config = true
  applied : processes.output 1 (c.applyCall config) = .ok first ∧ first.status.success = true
  again : processes.output 2 (c.applyCall config) = .ok second ∧ second.status.success = true
  same : first.stdout.toStringLossy = second.stdout.toStringLossy

/-- The deployer answers to `--help`. -/
def Helps (output : Output) : Prop :=
  processes.output 0 (c.call [.ofString "--help"]) = .ok output

/-- What `deployer_v1` stands for. -/
def DeployerV1 : Prop :=
  IsFilled world c.path ∧ (∃ output, Helps processes c output ∧ output.status.success = true) ∧
    ∀ config ∈ c.config, ∃ first second, Idempotent world processes c config first second

variable {world processes c} {run run' : DeployerRun} {config : Path}

theorem runDeployer_eq_ok {started : ℕ} {stdout : String} :
    runDeployer processes c.path config c.arg started = .ok stdout ↔
      ∃ output, (processes.output started (c.applyCall config) = .ok output ∧
        output.status.success = true) ∧ output.stdout.toStringLossy = stdout := by
  simp only [runDeployer, bind_eq_ok, exists_unit, failIf_eq_ok, withContextOf_eq_ok, pure_eq_ok,
    Bool.not_eq_false, and_assoc]
  rfl

theorem assertDeployerIdempotent_eq_ok :
    assertDeployerIdempotent world processes c.path config c.arg 1 = .ok () ↔
      ∃ first second, Idempotent world processes c config first second := by
  simp only [assertDeployerIdempotent, bind_eq_ok, exists_unit, failIf_eq_ok, withContext_eq_ok,
    runDeployer_eq_ok, Bool.not_eq_false, ne_eq, not_not]
  constructor
  · rintro ⟨hfound, hconfig, _, ⟨first, hfirst, rfl⟩, _, ⟨second, hsecond, rfl⟩, hsame⟩
    exact ⟨first, second, hfound, hconfig, hfirst, hsecond, hsame⟩
  · rintro ⟨first, second, hfound, hconfig, hfirst, hsecond, hsame⟩
    exact ⟨hfound, hconfig, _, ⟨first, hfirst, rfl⟩, _, ⟨second, hsecond, rfl⟩, hsame⟩

theorem help_issues (h : c.help processes run = .ok run') :
    run'.idempotentOk = run.idempotentOk ∧ (run'.issues = [] ↔ run.issues = [] ∧
      ∃ output, Helps processes c output ∧ output.status.success = true) := by
  unfold DeployerArgs.help at h
  by_cases hissues : run.issues = []
  · simp only [if_pos hissues, bind_eq_ok, withContextOf_eq_ok, pure_eq_ok] at h
    obtain ⟨output, hhelps, rfl⟩ := h
    change Helps processes c output at hhelps
    refine ⟨rfl, ?_⟩
    rw [List.append_eq_nil_iff, issueIf_eq_nil, Bool.not_eq_false']
    refine and_congr_right fun _ => ?_
    constructor
    · intro hsuccess
      exact ⟨output, hhelps, hsuccess⟩
    · rintro ⟨output', hhelps', hsuccess⟩
      rwa [Except.ok.inj (hhelps.symm.trans hhelps')]
  · rw [if_neg hissues] at h
    obtain rfl := Except.ok.inj h
    exact ⟨rfl, iff_of_false hissues fun hnil => hissues hnil.1⟩

theorem exists_help_iff : (∃ run', c.help processes run = .ok run') ↔
    (run.issues = [] → ∃ output, Helps processes c output) := by
  unfold DeployerArgs.help
  by_cases hissues : run.issues = []
  · rw [if_pos hissues]
    simp only [bind_eq_ok, withContextOf_eq_ok, pure_eq_ok]
    constructor
    · rintro ⟨_, output, hhelps, -⟩ _
      exact ⟨output, hhelps⟩
    · intro h
      obtain ⟨output, hhelps⟩ := h hissues
      exact ⟨_, output, hhelps, rfl⟩
  · rw [if_neg hissues]
    exact iff_of_true ⟨run, rfl⟩ fun hnil => absurd hnil hissues

theorem applyTwice_issues : (c.applyTwice world processes run).issues = [] ↔ run.issues = [] ∧
    ∀ config ∈ c.config, ∃ first second, Idempotent world processes c config first second := by
  unfold DeployerArgs.applyTwice
  by_cases hissues : run.issues = []
  · rw [if_pos hissues, and_iff_right hissues]
    cases c.config with
    | none => exact iff_of_true hissues (by simp)
    | some config =>
      simp only [Option.mem_def, Option.some_inj, forall_eq', ← assertDeployerIdempotent_eq_ok]
      by_cases hmissing : world.pathExists config = false
      · rw [if_pos hmissing]
        refine iff_of_false (by simp) fun hok => ?_
        obtain ⟨_, _, hpassed⟩ := assertDeployerIdempotent_eq_ok.mp hok
        cases hmissing.symm.trans hpassed.configFound
      · rw [if_neg hmissing]
        cases assertDeployerIdempotent world processes c.path config c.arg 1 with
        | ok u => exact iff_of_true hissues rfl
        | error err => exact iff_of_false (by simp) (by simp)
  · rw [if_neg hissues]
    exact iff_of_false hissues fun hnil => hissues hnil.1

theorem applyTwice_idempotentOk (h : run.idempotentOk = none) :
    (c.applyTwice world processes run).idempotentOk = some true ↔
      (c.applyTwice world processes run).issues = [] ∧ c.config.isSome = true := by
  unfold DeployerArgs.applyTwice
  by_cases hissues : run.issues = []
  · rw [if_pos hissues]
    cases c.config with
    | none => simp [h]
    | some config =>
      dsimp only
      by_cases hmissing : world.pathExists config = false
      · simp [if_pos hmissing, h]
      · rw [if_neg hmissing]
        cases assertDeployerIdempotent world processes c.path config c.arg 1 with
        | ok u => simp [hissues]
        | error err => simp
  · rw [if_neg hissues]
    simp [h, hissues]

/-- **Deployers.** There is a report on every path that can be looked at, unless it is a file
that cannot be started. The verdict is good if the deployer answers to `--help` and applies
the configuration twice with the same output, where there is one; then only is it reported
as idempotent. -/
theorem checkDeployer_verdict (world : World) (processes : Processes) (c : DeployerArgs) :
    ((∃ report, checkDeployer world processes c = .ok report) ↔
      (∃ metadata, world.metadata c.path = .ok metadata) ∧
        (IsFilled world c.path → ∃ output, Helps processes c output)) ∧
    ∀ report, checkDeployer world processes c = .ok report →
      (report.deployerV1 = true ↔ DeployerV1 world processes c) ∧
      (report.idempotentOk = some true ↔ report.deployerV1 = true ∧ c.config.isSome = true) := by
  refine ⟨?_, fun report h => ?_⟩
  · simp only [checkDeployer, bind_eq_ok, withContextOf_eq_ok, pure_eq_ok]
    constructor
    · rintro ⟨_, metadata, hm, run, hrun, -⟩
      refine ⟨⟨metadata, hm⟩, fun hfilled => ?_⟩
      exact exists_help_iff.mp ⟨run, hrun⟩ (fileIssues_eq_nil.mpr ((isFilled_iff hm).mp hfilled))
    · rintro ⟨⟨metadata, hm⟩, hhelps⟩
      obtain ⟨run, hrun⟩ : ∃ run, c.help processes
          ⟨fileIssues "deployer" metadata, fileWarnings "deployer" metadata, none⟩ = .ok run :=
        exists_help_iff.mpr fun hnil => hhelps ((isFilled_iff hm).mpr (fileIssues_eq_nil.mp hnil))
      exact ⟨_, metadata, hm, run, hrun, rfl⟩
  · simp only [checkDeployer, bind_eq_ok, withContextOf_eq_ok, pure_eq_ok] at h
    obtain ⟨metadata, hm, run, hrun, rfl⟩ := h
    obtain ⟨hnone, hhelp⟩ := help_issues hrun
    dsimp only
    rw [List.isEmpty_iff]
    refine ⟨?_, applyTwice_idempotentOk hnone⟩
    rw [applyTwice_issues, hhelp, fileIssues_eq_nil, ← isFilled_iff hm, DeployerV1, and_assoc]

end Deployer

end GreenticConformance.Cli
