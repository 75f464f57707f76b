import GreenticConformance.Checks.Verdict
import GreenticConformance.Cli.Report
import GreenticConformance.Host.Text

/-!
# Checking a pack

`check_pack`: open a pack archive and look for structural faults in what was loaded.
`greentic_pack::open_pack` belongs to another crate; what it answers is given.

## Main definitions

- `PackLoad` — what `open_pack` loads, as far as it is looked at
- `performStructuralChecks` — the issues and warnings of a loaded pack
- `checkPack` — the check

## Main results

- `checkPack_agrees` — its verdict agrees with its issues
-/

namespace GreenticConformance.Cli

open Checks Host

/-! ## Loaded packs -/

inductive SigningPolicy where
  | devOk
  | strict
  deriving DecidableEq

structure VerifyReport where
  signatureOk : Bool
  sbomOk : Bool
  warnings : List String

structure PackMeta where
  packId : String
  name : String
  entryFlows : List String
  createdAtUtc : String

structure FlowEntry where
  id : String
  entry : String
  fileYaml : String
  fileJson : String

/-- A component of the manifest; its version is known by its text. -/
structure ComponentEntry where
  name : String
  version : String
  fileWasm : String
  schemaFile : Option String
  manifestFile : Option String

structure Manifest where
  packMeta : PackMeta
  flows : List FlowEntry
  components : List ComponentEntry

structure SbomEntry where
  path : String

structure PackLoad where
  manifest : Manifest
  report : VerifyReport
  sbom : List SbomEntry

/-! ## Structural checks -/

/-- The message, if the condition holds. -/
def issueIf (c : Bool) (msg : String) : List String := if c then [msg] else []

/-- `validate_meta`, the issues it pushes. -/
def validateMeta (m : PackMeta) : List String :=
  issueIf (isBlank m.packId) "meta.pack_id is required" ++
  issueIf (isBlank m.name) "meta.name is required" ++
  issueIf m.entryFlows.isEmpty "meta.entry_flows must include at least one entry" ++
  issueIf (isBlank m.createdAtUtc) "meta.created_at_utc is required"

section Structure

variable (sbomPaths : Finset String)

/-- `check_file_present`, the issues it pushes. -/
def checkFilePresent (kind path : String) : List String :=
  if isBlank path then [s!"{kind} path is empty"]
  else issueIf (path ∉ sbomPaths) s!"{kind} `{path}` missing from sbom.json"

/-- `check_file_present` on a file that may not be named. -/
def checkOptionalFile (kind : String) (path : Option String) : List String :=
  match path with
  | some path => checkFilePresent sbomPaths kind path
  | none => []

/-- The loop over the flows, with `flow_ids`. -/
def flowIssues (flowIds : Finset String) : List FlowEntry → List String
  | [] => []
  | flow :: flows =>
    issueIf (flow.id ∈ flowIds) s!"duplicate flow id `{flow.id}`" ++
    checkFilePresent sbomPaths "flow.entry" flow.entry ++
    checkFilePresent sbomPaths "flow.file_yaml" flow.fileYaml ++
    checkFilePresent sbomPaths "flow.file_json" flow.fileJson ++
    flowIssues (insert flow.id flowIds) flows

/-- The loop over the entry flows. -/
def entryIssues (flowIds : Finset String) (entryFlows : List String) : List String :=
  entryFlows.flatMap fun entry =>
    issueIf (entry ∉ flowIds) s!"meta.entry_flows references missing flow `{entry}`"

/-- The key of a component in `component_keys`. -/
def ComponentEntry.key (component : ComponentEntry) : String :=
  s!"{component.name}@{component.version}"

/-- The loop over the components, with `component_keys`, the latest entry first. -/
def componentIssues (componentKeys : List (String × ComponentEntry)) :
    List ComponentEntry → List String
  | [] => []
  | component :: components =>
    (match componentKeys.lookup component.key with
      | some prev =>
        let key := component.key
        let files := prev.fileWasm.quote ++ " and " ++ component.fileWasm.quote
        [s!"duplicate component entry `{key}` at files {files}"]
      | none => []) ++
    checkFilePresent sbomPaths "component.wasm" component.fileWasm ++
    checkOptionalFile sbomPaths "component.schema" component.schemaFile ++
    checkOptionalFile sbomPaths "component.manifest" component.manifestFile ++
    componentIssues ((component.key, component) :: componentKeys) components

end Structure

/-- What the structural checks push. -/
structure Pushed where
  issues : List String
  warnings : List String

/-- `perform_structural_checks`. -/
def performStructuralChecks (pack : PackLoad) (allowUnsigned : Bool) : Pushed :=
  let sbomPaths := (pack.sbom.map SbomEntry.path).toFinset
  let flowIds := (pack.manifest.flows.map FlowEntry.id).toFinset
  let unsigned := !pack.report.signatureOk
  { issues :=
      validateMeta pack.manifest.packMeta ++ flowIssues sbomPaths ∅ pack.manifest.flows ++
      entryIssues flowIds pack.manifest.packMeta.entryFlows ++
      componentIssues sbomPaths [] pack.manifest.components ++
      issueIf (unsigned && !allowUnsigned) "pack signature verification failed"
    warnings :=
      issueIf (unsigned && allowUnsigned)
        "pack signature verification failed (allowed by --allow-unsigned)" ++
      issueIf (!pack.report.sbomOk) "sbom validation reported issues" }

/-! ## The check -/

section Check

variable (openPack : Path → SigningPolicy → Except String PackLoad)

/-- The policy under which a pack is opened. -/
def signingPolicy (allowDevSignatures allowUnsigned : Bool) : SigningPolicy :=
  if allowUnsigned || allowDevSignatures then .devOk else .strict

/-- The name of the policy in the report. -/
def policyName (policy : SigningPolicy) (allowUnsigned : Bool) : String :=
  if allowUnsigned then "unsigned_ok"
  else
    match policy with
    | .devOk => "dev_ok"
    | .strict => "strict"

def checkPack (path : Path) (allowDevSignatures allowUnsigned : Bool) :
    Except Error PackCheckReport := do
  let policy := signingPolicy allowDevSignatures allowUnsigned
  let pack ← (openPack path policy).mapError fun message =>
    anyhow s!"pack failed verification: {message}"
  let pushed := performStructuralChecks pack allowUnsigned
  let warnings := pack.report.warnings ++ pushed.warnings
  return {
    packPath := path.display
    signaturePolicy := policyName policy allowUnsigned
    packV1Basic := pushed.issues.isEmpty
    packV1Full :=
      pushed.issues.isEmpty && warnings.isEmpty && pack.report.signatureOk && pack.report.sbomOk
    signatureOk := if allowUnsigned then true else pack.report.signatureOk
    sbomOk := pack.report.sbomOk
    issues := pushed.issues
    warnings := warnings }

/-- The verdict on a pack is read off its issues. -/
theorem checkPack_agrees {path : Path} {allowDevSignatures allowUnsigned : Bool}
    {report : PackCheckReport}
    (h : checkPack openPack path allowDevSignatures allowUnsigned = .ok report) :
    Agrees report.packV1Basic report.issues := by
  simp only [checkPack, bind_eq_ok, pure_eq_ok] at h
  obtain ⟨pack, _, hreport⟩ := h
  subst hreport
  dsimp only
  exact agrees_isEmpty

end Check

end GreenticConformance.Cli
