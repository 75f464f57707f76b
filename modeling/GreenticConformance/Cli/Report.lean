import GreenticConformance.Host.Error
import GreenticConformance.Host.World

/-!
# Reports of the command line

The reports of the five checks in `bin/greentic-conformance.rs`, and how they are
printed. What is printed is a list of lines.

## Main definitions

- `Report` — a report of any of the checks, with its `verdict` and `issues`
- `Report.emit` — what is printed of it
-/

namespace GreenticConformance.Cli

open Checks Host

inductive OutputFormat where
  | json
  | text
  deriving DecidableEq

/-! ## The five reports -/

structure PackCheckReport where
  packPath : String
  signaturePolicy : String
  packV1Basic : Bool
  packV1Full : Bool
  signatureOk : Bool
  sbomOk : Bool
  issues : List String
  warnings : List String
  deriving DecidableEq

structure FlowCheckReport where
  root : String
  flowCount : ℕ
  flowV1Basic : Bool
  flowV1Safe : Bool
  issues : List String
  deriving DecidableEq

structure ComponentCheckReport where
  component : String
  componentV1WitOnly : Bool
  componentV1Hosted : Bool
  invokedOperation : Option String
  issues : List String
  warnings : List String
  deriving DecidableEq

structure RunnerCheckReport where
  runner : String
  runnerV1 : Bool
  issues : List String
  warnings : List String
  deriving DecidableEq

structure DeployerCheckReport where
  deployer : String
  deployerV1 : Bool
  idempotentOk : Option Bool
  issues : List String
  warnings : List String
  deriving DecidableEq

/-! ## As JSON -/

/-- A list of strings. -/
def jsonStrings (strings : List String) : Json := .array (strings.map .string)

def PackCheckReport.toJson (r : PackCheckReport) : Json :=
  .object [("pack_path", .string r.packPath), ("signature_policy", .string r.signaturePolicy),
    ("pack_v1_basic", .bool r.packV1Basic), ("pack_v1_full", .bool r.packV1Full),
    ("signature_ok", .bool r.signatureOk), ("sbom_ok", .bool r.sbomOk),
    ("issues", jsonStrings r.issues), ("warnings", jsonStrings r.warnings)]

def FlowCheckReport.toJson (r : FlowCheckReport) : Json :=
  .object [("root", .string r.root), ("flow_count", .number (toString r.flowCount)),
    ("flow_v1_basic", .bool r.flowV1Basic), ("flow_v1_safe", .bool r.flowV1Safe),
    ("issues", jsonStrings r.issues)]

def ComponentCheckReport.toJson (r : ComponentCheckReport) : Json :=
  .object [("component", .string r.component),
    ("component_v1_wit_only", .bool r.componentV1WitOnly),
    ("component_v1_hosted", .bool r.componentV1Hosted),
    ("invoked_operation", (r.invokedOperation.map Json.string).getD .null),
    ("issues", jsonStrings r.issues), ("warnings", jsonStrings r.warnings)]

def RunnerCheckReport.toJson (r : RunnerCheckReport) : Json :=
  .object [("runner", .string r.runner), ("runner_v1", .bool r.runnerV1),
    ("issues", jsonStrings r.issues), ("warnings", jsonStrings r.warnings)]

def DeployerCheckReport.toJson (r : DeployerCheckReport) : Json :=
  .object [("deployer", .string r.deployer), ("deployer_v1", .bool r.deployerV1),
    ("idempotent_ok", (r.idempotentOk.map Json.bool).getD .null),
    ("issues", jsonStrings r.issues), ("warnings", jsonStrings r.warnings)]

/-! ## As text -/

/-- The items under a title, unless there are none. -/
def titled (title : String) (items : List String) : List String :=
  if items = [] then [] else title :: items.map fun item => s!"- {item}"

/-- The parts of a report that the text format prints last. -/
def findings (issues warnings : List String) : List String :=
  titled "Issues:" issues ++ titled "Warnings:" warnings

def PackCheckReport.text (r : PackCheckReport) : List String :=
  [s!"Pack: {r.packPath}", s!"Signature policy: {r.signaturePolicy}",
    s!"pack_v1_basic: {r.packV1Basic}", s!"pack_v1_full: {r.packV1Full}"] ++
    findings r.issues r.warnings

def FlowCheckReport.text (r : FlowCheckReport) : List String :=
  [s!"Flow root: {r.root}", s!"flow_v1_basic: {r.flowV1Basic}",
    s!"flow_v1_safe: {r.flowV1Safe}", s!"flows discovered: {r.flowCount}"] ++
    findings r.issues []

def ComponentCheckReport.text (r : ComponentCheckReport) : List String :=
  [s!"Component: {r.component}", s!"component_v1_wit_only: {r.componentV1WitOnly}",
    s!"component_v1_hosted: {r.componentV1Hosted}"] ++ findings r.issues r.warnings

def RunnerCheckReport.text (r : RunnerCheckReport) : List String :=
  [s!"Runner: {r.runner}", s!"runner_v1: {r.runnerV1}"] ++ findings r.issues r.warnings

def DeployerCheckReport.text (r : DeployerCheckReport) : List String :=
  [s!"Deployer: {r.deployer}", s!"deployer_v1: {r.deployerV1}"] ++ findings r.issues r.warnings

/-! ## Printing -/

section Emit

variable (json : SerdeJson)

/-- What is printed of a report in either format. -/
def emitReport (value : Json) (text : List String) (format : OutputFormat) :
    Except Error (List String) :=
  match format with
  | .json => ((json.toStringPretty value).mapError anyhow).map fun pretty => [pretty]
  | .text => .ok text

def emitPackReport (r : PackCheckReport) (format : OutputFormat) : Except Error (List String) :=
  emitReport json r.toJson r.text format

def emitFlowReport (r : FlowCheckReport) (format : OutputFormat) : Except Error (List String) :=
  emitReport json r.toJson r.text format

def emitComponentReport (r : ComponentCheckReport) (format : OutputFormat) :
    Except Error (List String) :=
  emitReport json r.toJson r.text format

def emitRunnerReport (r : RunnerCheckReport) (format : OutputFormat) :
    Except Error (List String) :=
  emitReport json r.toJson r.text format

def emitDeployerReport (r : DeployerCheckReport) (format : OutputFormat) :
    Except Error (List String) :=
  emitReport json r.toJson r.text format

end Emit

/-! ## Any report -/

inductive Report where
  | pack (r : PackCheckReport)
  | flow (r : FlowCheckReport)
  | component (r : ComponentCheckReport)
  | runner (r : RunnerCheckReport)
  | deployer (r : DeployerCheckReport)
  deriving DecidableEq

namespace Report

/-- The flag that says whether the check was passed. -/
def verdict : Report → Bool
  | pack r => r.packV1Basic
  | flow r => r.flowV1Basic
  | component r => r.componentV1WitOnly
  | runner r => r.runnerV1
  | deployer r => r.deployerV1

def issues : Report → List String
  | pack r => r.issues
  | flow r => r.issues
  | component r => r.issues
  | runner r => r.issues
  | deployer r => r.issues

/-- What is printed of a report. -/
def emit (json : SerdeJson) (report : Report) (format : OutputFormat) :
    Except Error (List String) :=
  match report with
  | pack r => emitPackReport json r format
  | flow r => emitFlowReport json r format
  | component r => emitComponentReport json r format
  | runner r => emitRunnerReport json r format
  | deployer r => emitDeployerReport json r format

end Report

end GreenticConformance.Cli
