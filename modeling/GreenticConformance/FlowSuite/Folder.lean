import GreenticConformance.FlowSuite.Validation
import GreenticConformance.Host.World

/-!
# Flow folders

`validate_flow_folder`: walk a directory, pick the files with an allowed extension,
and read, parse and validate each.

## Main definitions

- `FlowValidationOptions.validateFlowFolder` — the entry point
- `FlowValidationOptions.Built` — options that the builder methods make

## Main results

- `validateFlowFolder_eq_ok` — what a reported folder has passed
-/

namespace GreenticConformance.FlowSuite

open Checks Host

/-! ## Options -/

/-- `FlowValidator`, for a validator that is a function. -/
abbrev FlowValidator := FlowDocument → Except Error Unit

structure FlowValidationOptions where
  allowedExtensions : List String
  requireSchema : Bool
  validators : List FlowValidator

namespace FlowValidationOptions

section Builder

variable (o : FlowValidationOptions)

def default : FlowValidationOptions where
  allowedExtensions := ["ygtc", "yaml", "yml", "json"]
  requireSchema := false
  validators := []

def withAllowedExtensions (extensions : List String) : FlowValidationOptions :=
  { o with allowedExtensions := extensions.map toAsciiLowercase }

def allowExtension (extension : String) : FlowValidationOptions :=
  let extension := toAsciiLowercase extension
  if extension ∈ o.allowedExtensions then o
  else { o with allowedExtensions := o.allowedExtensions ++ [extension] }

/-- The builder method `require_schema`, which has the name of its field. -/
def withRequireSchema (required : Bool) : FlowValidationOptions :=
  { o with requireSchema := required }

def allowMissingSchema : FlowValidationOptions := o.withRequireSchema false

def addValidator (validator : FlowValidator) : FlowValidationOptions :=
  { o with validators := o.validators ++ [validator] }

def withValidators (validators : List FlowValidator) : FlowValidationOptions :=
  { o with validators := validators }

end Builder

/-- The options that the builder methods make. -/
inductive Built : FlowValidationOptions → Prop
  | default : Built default
  | withAllowedExtensions (extensions) : Built o → Built (o.withAllowedExtensions extensions)
  | allowExtension (extension) : Built o → Built (o.allowExtension extension)
  | withRequireSchema (required) : Built o → Built (o.withRequireSchema required)
  | addValidator (validator) : Built o → Built (o.addValidator validator)
  | withValidators (validators) : Built o → Built (o.withValidators validators)

variable {o : FlowValidationOptions}

theorem mem_allowExtension {extension allowed : String} :
    allowed ∈ (o.allowExtension extension).allowedExtensions ↔
      allowed ∈ o.allowedExtensions ∨ allowed = toAsciiLowercase extension := by
  simp only [allowExtension]
  by_cases h : toAsciiLowercase extension ∈ o.allowedExtensions
  · rw [if_pos h]
    constructor
    · exact .inl
    · intro hallowed
      rcases hallowed with hallowed | rfl
      · exact hallowed
      · exact h
  · rw [if_neg h, List.mem_append, List.mem_singleton]

theorem Built.allowMissingSchema (h : Built o) : Built o.allowMissingSchema :=
  h.withRequireSchema false

end FlowValidationOptions

structure FlowValidationReport where
  root : Path
  flows : List FlowDocument

/-! ## Files -/

/-- `parse_flow_document`. -/
def parseFlowDocument (parsers : Parsers FlowDocument) (path : Path) (raw : String) :
    Except Error FlowDocument :=
  if path.hasExtension ["json", "JSON"] then
    let name := (path.fileName.bind OsStr.toStr).getD "<unknown>"
    withContextOf (parsers.json raw) s!"failed to parse flow JSON {name}"
  else
    match parsers.yaml raw with
    | .ok document => .ok document
    | .error yamlErr =>
      (parsers.json raw).mapError fun jsonErr => anyhow <|
        s!"failed to parse flow file {path.display} as YAML ({yamlErr}) or JSON ({jsonErr})"

/-- The extension that is looked up: in lower case, and empty where there is none
or it is no string. -/
def lookupExtension (path : Path) : String :=
  ((path.extension.bind OsStr.toStr).map toAsciiLowercase).getD ""

/-- `Iterator::flatten` on results: the errors are dropped. -/
def flatten (results : List (Except String DirEntry)) : List DirEntry :=
  results.filterMap Except.toOption

namespace FlowValidationOptions

variable (world : World) (parsers : Parsers FlowDocument) (o : FlowValidationOptions)

/-- The entry is a file that is not skipped. -/
def selects (entry : DirEntry) : Bool :=
  entry.isFile && o.allowedExtensions.any fun allowed => allowed = lookupExtension entry.path

/-- What the loop does with a file that is not skipped. -/
def checkFile (path : Path) : Except Error FlowDocument := do
  let raw ← withContextOf (world.readToString path) s!"failed to read flow file {path.display}"
  let document ← parseFlowDocument parsers path raw
  withContext (validateFlow document o.requireSchema)
    s!"invalid flow document {path.display}"
  o.validators.forM fun validator =>
    withContext (validator document) s!"custom validator failed for {path.display}"
  return document

/-- The variables of the loop: `flows` and `any_files`. -/
structure Visited where
  flows : List FlowDocument
  anyFiles : Bool

/-- The loop over the entries. -/
def visit (v : Visited) : List DirEntry → Except Error Visited
  | [] => .ok v
  | entry :: entries =>
    if o.selects entry then do
      let document ← o.checkFile world parsers entry.path
      visit ⟨v.flows ++ [document], true⟩ entries
    else
      visit v entries

def validateFlowFolder (path : Path) : Except Error FlowValidationReport := do
  failIf (world.pathExists path = false) (anyhow s!"flow path '{path.display}' does not exist")
  -- an error of the walk does not reach the loop
  let visited ← o.visit world parsers ⟨[], false⟩ (flatten (world.walkDir path))
  failIf (visited.anyFiles = false) (anyhow <|
    s!"no flow definitions found under '{path.display}' (expected extensions: " ++
      debugStrings o.allowedExtensions ++ ")")
  return { root := path, flows := visited.flows }

/-- The entries of the walk that are not skipped. -/
def chosen (path : Path) : List DirEntry :=
  (flatten (world.walkDir path)).filter o.selects

end FlowValidationOptions

/-! ## What a reported folder has passed -/

open FlowValidationOptions

variable {world : World} {parsers : Parsers FlowDocument} {o : FlowValidationOptions}

/-- The document is the content of the file, and every check accepts it. -/
structure Checked (world : World) (parsers : Parsers FlowDocument) (o : FlowValidationOptions)
    (path : Path) (document : FlowDocument) : Prop where
  parsed : ∃ raw, world.readToString path = .ok raw ∧
    parseFlowDocument parsers path raw = .ok document
  valid : validateFlow document o.requireSchema = .ok ()
  custom : ∀ validator ∈ o.validators, validator document = .ok ()

theorem checkFile_eq_ok {path : Path} {document : FlowDocument} :
    o.checkFile world parsers path = .ok document ↔ Checked world parsers o path document := by
  simp only [checkFile, bind_eq_ok, exists_unit, withContextOf_eq_ok, withContext_eq_ok,
    forM_eq_ok, pure_eq_ok]
  constructor
  · intro h
    obtain ⟨raw, hread, _, hparse, hvalid, hcustom, rfl⟩ := h
    exact ⟨⟨raw, hread, hparse⟩, hvalid, hcustom⟩
  · intro h
    obtain ⟨raw, hread, hparse⟩ := h.parsed
    exact ⟨raw, hread, document, hparse, h.valid, h.custom, rfl⟩

/-- The loop checks the entries that are not skipped, in their order. -/
theorem visit_eq_ok {v v' : Visited} {entries : List DirEntry} :
    o.visit world parsers v entries = .ok v' ↔
      ∃ documents, List.Forall₂ (fun entry => Checked world parsers o entry.path)
          (entries.filter o.selects) documents ∧
        v'.flows = v.flows ++ documents ∧
        v'.anyFiles = (v.anyFiles || entries.any o.selects) := by
  induction entries generalizing v with
  | nil =>
    obtain ⟨flows, anyFiles⟩ := v
    obtain ⟨flows', anyFiles'⟩ := v'
    simp [visit, eq_comm]
  | cons entry entries ih =>
    by_cases hselects : o.selects entry = true
    · rw [visit, if_pos hselects, List.filter_cons_of_pos hselects]
      simp only [bind_eq_ok, checkFile_eq_ok, ih, List.any_cons, hselects, Bool.true_or,
        Bool.or_true, List.append_assoc]
      constructor
      · intro h
        obtain ⟨document, hchecked, documents, hall, hflows, hany⟩ := h
        exact ⟨document :: documents, .cons hchecked hall, hflows, hany⟩
      · intro h
        obtain ⟨_, hall, hflows, hany⟩ := h
        cases hall with
        | cons hchecked hall => exact ⟨_, hchecked, _, hall, hflows, hany⟩
    · simp only [visit, if_neg hselects, ih, List.filter_cons_of_neg hselects, List.any_cons]
      rw [Bool.not_eq_true] at hselects
      simp only [hselects, Bool.false_or]

/-- **Reported folders**: the path is there, some file is not skipped, and the
report holds the checked document of every file that is not. -/
theorem validateFlowFolder_eq_ok {path : Path} {report : FlowValidationReport} :
    o.validateFlowFolder world parsers path = .ok report ↔
      world.pathExists path = true ∧ o.chosen world path ≠ [] ∧
      List.Forall₂ (fun entry => Checked world parsers o entry.path) (o.chosen world path)
        report.flows ∧ report.root = path := by
  have hany {entries : List DirEntry} : entries.any o.selects = true ↔
      entries.filter o.selects ≠ [] := by
    rw [Ne, List.filter_eq_nil_iff]
    simp
  simp only [validateFlowFolder, bind_eq_ok, exists_unit, failIf_eq_ok, visit_eq_ok,
    Bool.not_eq_false, pure_eq_ok, Bool.false_or, List.nil_append, chosen]
  constructor
  · intro h
    obtain ⟨hexists, visited, ⟨documents, hall, hflows, hanyFiles⟩, hfound, rfl⟩ := h
    refine ⟨hexists, ?_, ?_, rfl⟩
    · rw [hfound, eq_comm, hany] at hanyFiles
      exact hanyFiles
    · rw [hflows]
      exact hall
  · intro h
    obtain ⟨hexists, hnonempty, hall, hroot⟩ := h
    refine ⟨hexists, ⟨report.flows, true⟩, ⟨_, hall, rfl, ?_⟩, rfl, ?_⟩
    · exact (hany.mpr hnonempty).symm
    · rw [← hroot]

end GreenticConformance.FlowSuite
