import GreenticConformance.Cli.Checks

/-!
# The command line

`main` of `bin/greentic-conformance.rs`: parse the arguments, run one check, print
its report. Whether `main` ends successfully is a matter of whether there is a
report, not of what the report says.

## Main definitions

- `Commands.check` — the check of a command, with its report
- `main` — a whole run

## Main results

- `verdict_and_ending` — the verdict of a report agrees with its issues, and a run
  ends successfully exactly when it has a report
-/

namespace GreenticConformance.Cli

open Checks Host
open FlowSuite (FlowDocument)
open PackSuite (PackManifest)

inductive Commands where
  | checkPack (path : Path) (allowDevSignatures allowUnsigned : Bool) (format : OutputFormat)
  | checkFlow (path : Path) (allowMissingSchema : Bool) (allowExtension : List String)
    (format : OutputFormat)
  | checkComponent (args : ComponentArgs) (format : OutputFormat)
  | checkRunner (args : RunnerArgs) (format : OutputFormat)
  | checkDeployer (args : DeployerArgs) (format : OutputFormat)

/-- The other crates that are called. `parse` is `Cli::parse`, which ends the process
with an exit status where it does not return a command. -/
structure Libraries where
  parse : List OsStr → Except ℕ Commands
  openPack : Path → SigningPolicy → Except String PackLoad
  packManifests : Parsers PackManifest
  flowDocuments : Parsers FlowDocument
  json : SerdeJson

/-- How a run ends: `main` returns, or the parser of the arguments ends the process. -/
inductive Ending where
  | success (stdout : List String)
  | failure (error : Error)
  | parser (status : ℕ)
  deriving DecidableEq

section Main

variable (world : World) (processes : Processes) (libraries : Libraries)

namespace Commands

def format : Commands → OutputFormat
  | checkPack _ _ _ format => format
  | checkFlow _ _ _ format => format
  | checkComponent _ format => format
  | checkRunner _ format => format
  | checkDeployer _ format => format

/-- The report of the check that a command asks for. -/
def check : Commands → Except Error Report
  | checkPack path allowDevSignatures allowUnsigned _ =>
    (withContext (Cli.checkPack libraries.openPack path allowDevSignatures allowUnsigned)
      s!"failed to check pack {path.display}").map .pack
  | checkFlow path allowMissingSchema allowExtension _ =>
    (withContext
      (Cli.checkFlow world libraries.flowDocuments path allowMissingSchema allowExtension)
      s!"failed to check flows at {path.display}").map .flow
  | checkComponent args _ =>
    (Cli.checkComponent world processes libraries.packManifests libraries.json args).map .component
  | checkRunner args _ => (Cli.checkRunner world processes libraries.json args).map .runner
  | checkDeployer args _ => (Cli.checkDeployer world processes args).map .deployer

end Commands

def main (args : List OsStr) : Ending :=
  match libraries.parse args with
  | .error status => .parser status
  | .ok command =>
    match command.check world processes libraries with
    | .error error => .failure error
    | .ok report =>
      match report.emit libraries.json command.format with
      | .error error => .failure error
      -- the verdict of the report is not looked at again
      | .ok stdout => .success stdout

/-! ## Verdicts -/

/-- Whatever the command, the verdict of a report agrees with its issues. -/
theorem check_agrees {command : Commands} {report : Report}
    (h : command.check world processes libraries = .ok report) :
    Agrees report.verdict report.issues := by
  cases command with
  | checkPack path allowDevSignatures allowUnsigned format =>
    simp only [Commands.check, map_eq_ok, withContext_eq_ok] at h
    obtain ⟨pack, hpack, rfl⟩ := h
    exact checkPack_agrees _ hpack
  | checkFlow path allowMissingSchema allowExtension format =>
    simp only [Commands.check, map_eq_ok, withContext_eq_ok] at h
    obtain ⟨flow, hflow, rfl⟩ := h
    exact checkFlow_agrees _ _ hflow
  | checkComponent args format =>
    simp only [Commands.check, map_eq_ok] at h
    obtain ⟨component, hcomponent, rfl⟩ := h
    exact checkComponent_agrees hcomponent
  | checkRunner args format =>
    simp only [Commands.check, map_eq_ok] at h
    obtain ⟨runner, hrunner, rfl⟩ := h
    exact checkRunner_agrees hrunner
  | checkDeployer args format =>
    simp only [Commands.check, map_eq_ok] at h
    obtain ⟨deployer, hdeployer, rfl⟩ := h
    exact checkDeployer_agrees _ _ _ hdeployer

/-! ## Endings -/

variable {world processes libraries}

/-- A run ends successfully when it has a report and can print it. -/
theorem main_eq_success {args : List OsStr} {stdout : List String} :
    main world processes libraries args = .success stdout ↔
      ∃ command report, libraries.parse args = .ok command ∧
        command.check world processes libraries = .ok report ∧
        report.emit libraries.json command.format = .ok stdout := by
  unfold main
  cases libraries.parse args with
  | error status => simp
  | ok command =>
    simp only [Except.ok.injEq, exists_and_left, exists_eq_left']
    cases command.check world processes libraries with
    | error error => simp
    | ok report =>
      simp only [Except.ok.injEq, exists_eq_left']
      cases report.emit libraries.json command.format <;> simp

section Print

variable (hprint : ∀ value, ∃ text, libraries.json.toStringPretty value = .ok text)

include hprint

/-- Printing does not fail if the JSON printer does not. -/
theorem emitReport_ok (value : Json) (text : List String) (format : OutputFormat) :
    ∃ stdout, emitReport libraries.json value text format = .ok stdout := by
  cases format with
  | json =>
    obtain ⟨pretty, hpretty⟩ := hprint value
    refine ⟨[pretty], ?_⟩
    simp only [emitReport, hpretty]
    rfl
  | text => exact ⟨text, rfl⟩

theorem emit_ok (report : Report) (format : OutputFormat) :
    ∃ stdout, report.emit libraries.json format = .ok stdout := by
  cases report with
  | pack r => exact emitReport_ok hprint r.toJson r.text format
  | flow r => exact emitReport_ok hprint r.toJson r.text format
  | component r => exact emitReport_ok hprint r.toJson r.text format
  | runner r => exact emitReport_ok hprint r.toJson r.text format
  | deployer r => exact emitReport_ok hprint r.toJson r.text format

end Print

/-- **Verdicts and endings**: in every report the verdict is good exactly when there
are no issues, and a run that can print its report ends successfully exactly when it
has one, good or not. -/
theorem verdict_and_ending (world : World) (processes : Processes) (libraries : Libraries) :
    (∀ (command : Commands) (report : Report),
      command.check world processes libraries = .ok report →
        (report.verdict = true ↔ report.issues = [])) ∧
    ((∀ value, ∃ text, libraries.json.toStringPretty value = .ok text) →
      ∀ args : List OsStr, (∃ stdout, main world processes libraries args = .success stdout) ↔
        ∃ command report, libraries.parse args = .ok command ∧
          command.check world processes libraries = .ok report) := by
  refine ⟨fun command report h => check_agrees world processes libraries h, fun hprint args => ?_⟩
  constructor
  · intro h
    obtain ⟨stdout, hmain⟩ := h
    obtain ⟨command, report, hparse, hcheck, _⟩ := main_eq_success.mp hmain
    exact ⟨command, report, hparse, hcheck⟩
  · intro h
    obtain ⟨command, report, hparse, hcheck⟩ := h
    obtain ⟨stdout, hemit⟩ := emit_ok hprint report command.format
    exact ⟨stdout, main_eq_success.mpr ⟨command, report, hparse, hcheck, hemit⟩⟩

end Main

/-- The run ends by the verdict of its report. -/
def EndsByVerdict (world : World) (processes : Processes) (libraries : Libraries)
    (args : List OsStr) : Prop :=
  ∀ command report, libraries.parse args = .ok command →
    command.check world processes libraries = .ok report →
      ((∃ stdout, main world processes libraries args = .success stdout) ↔ report.verdict = true)

namespace Sample

/-- A file system with nothing in it. -/
def emptyWorld : World where
  pathExists _ := false
  isDir _ := false
  isFile _ := false
  readToString _ := .error "No such file or directory (os error 2)"
  metadata _ := .error "No such file or directory (os error 2)"
  walkDir _ := [.error "No such file or directory (os error 2)"]
  envVar _ := none
  currentDir := .ok (.ofString "/work")
  hashOrder _ := []

def noProcesses : Processes where
  spawn _ _ := .error "No such file or directory (os error 2)"

/-- The arguments `check-flow flows --format text`. -/
def args : List OsStr := ["check-flow", "flows", "--format", "text"].map OsStr.ofString

def command : Commands := .checkFlow (.ofString "flows") false [] .text

def libraries : Libraries where
  parse a := if a = args then .ok command else .error 2
  openPack _ _ := .error "No such file or directory (os error 2)"
  packManifests := ⟨fun _ => .error "unexpected text", fun _ => .error "unexpected text"⟩
  flowDocuments := ⟨fun _ => .error "unexpected text", fun _ => .error "unexpected text"⟩
  json := {
    fromStr := fun _ => .error "unexpected text"
    stringsFromStr := fun _ => .error "unexpected text"
    toString := fun _ => ""
    toStringPretty := fun _ => .ok "" }

/-- The report on flows that are not there. -/
def report : FlowCheckReport :=
  ⟨"flows", 0, false, false, ["flow path 'flows' does not exist"]⟩

end Sample

theorem verdict_and_ending_missing :
    ∃ stdout, main Sample.emptyWorld Sample.noProcesses Sample.libraries Sample.args =
      .success stdout := by
  refine ((verdict_and_ending Sample.emptyWorld Sample.noProcesses Sample.libraries).2
    (fun _ => ⟨"", rfl⟩) Sample.args).mpr ⟨Sample.command, .flow Sample.report, by rfl, by rfl⟩

/-- A check that fails ends successfully. -/
theorem failed_check_ends_successfully :
    ¬ EndsByVerdict Sample.emptyWorld Sample.noProcesses Sample.libraries Sample.args := by
  intro h
  have hends := h Sample.command (.flow Sample.report) (by rfl) (by rfl)
  have hmain : main Sample.emptyWorld Sample.noProcesses Sample.libraries Sample.args =
      .success Sample.report.text := by
    rfl
  exact absurd (hends.mp ⟨_, hmain⟩) (by decide)

end GreenticConformance.Cli
