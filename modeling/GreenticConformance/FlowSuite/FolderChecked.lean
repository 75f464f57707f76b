import GreenticConformance.FlowSuite.Folder
import GreenticConformance.FlowSuite.WellFormed

/-!
# What a folder that is reported valid has been checked for

A report should mean that everything in the folder was checked. It does mean so for
the files that the walk yields. What the walk cannot read it yields as an error, and
errors are dropped.

## Main definitions

- `FullyChecked` — a report that can be relied on
- `Refused` — the reasons for which a folder is refused

## Main results

- `folder_checked_iff` — the folders whose reports can be relied on
-/

namespace GreenticConformance.FlowSuite

open Checks Host FlowValidationOptions
open OAuthMock (eqIgnoreAsciiCase toLower_toLower)

variable {world : World} {parsers : Parsers FlowDocument} {o : FlowValidationOptions} {path : Path}

/-! ## Extensions -/

theorem toAsciiLowercase_idem (s : String) :
    toAsciiLowercase (toAsciiLowercase s) = toAsciiLowercase s := by
  simp only [toAsciiLowercase, String.toList_ofList, List.map_map, Function.comp_def,
    toLower_toLower]

theorem eqIgnoreAsciiCase_iff {a b : String} :
    eqIgnoreAsciiCase a b = true ↔ toAsciiLowercase a = toAsciiLowercase b := by
  rw [eqIgnoreAsciiCase, beq_iff_eq, toAsciiLowercase, toAsciiLowercase, String.ofList_inj]

/-- The builder methods keep the allowed extensions in lower case. -/
theorem FlowValidationOptions.Built.lower (h : Built o) :
    ∀ allowed ∈ o.allowedExtensions, toAsciiLowercase allowed = allowed := by
  induction h with
  | default => decide
  | withAllowedExtensions extensions _ _ =>
    intro allowed hallowed
    obtain ⟨raw, _, rfl⟩ := List.mem_map.mp hallowed
    exact toAsciiLowercase_idem raw
  | allowExtension extension _ ih =>
    intro allowed hallowed
    rcases mem_allowExtension.mp hallowed with hallowed | rfl
    · exact ih allowed hallowed
    · exact toAsciiLowercase_idem extension
  | withRequireSchema _ _ ih => exact ih
  | addValidator _ _ ih => exact ih
  | withValidators _ _ ih => exact ih

/-- The file has an extension, and it is allowed. -/
def hasAllowedExtension (o : FlowValidationOptions) (path : Path) : Bool :=
  (path.extension.bind OsStr.toStr).any fun name =>
    o.allowedExtensions.any fun allowed => eqIgnoreAsciiCase name allowed

/-- The flow files of a folder: its regular files with an allowed extension. -/
def flowFiles (world : World) (o : FlowValidationOptions) (path : Path) : List DirEntry :=
  (flatten (world.walkDir path)).filter fun entry =>
    entry.isFile && hasAllowedExtension o entry.path

/-- A file without an extension is not taken for one with an empty extension. -/
def ExtensionsNamed (world : World) (o : FlowValidationOptions) (path : Path) : Prop :=
  "" ∈ o.allowedExtensions → ∀ entry ∈ flatten (world.walkDir path), entry.isFile = true →
    ∃ name, entry.path.extension.bind OsStr.toStr = some name

/-- With a name for its extension, a file is looked up by that name. -/
theorem selects_of_some (hbuilt : Built o) {entry : DirEntry} {name : String}
    (h : entry.path.extension.bind OsStr.toStr = some name) :
    o.selects entry = (entry.isFile && hasAllowedExtension o entry.path) := by
  have hany : (o.allowedExtensions.any fun allowed => allowed = toAsciiLowercase name) =
      o.allowedExtensions.any fun allowed => eqIgnoreAsciiCase name allowed := by
    rw [Bool.eq_iff_iff, List.any_eq_true, List.any_eq_true]
    refine exists_congr fun allowed => and_congr_right fun hallowed => ?_
    rw [decide_eq_true_iff, eqIgnoreAsciiCase_iff, hbuilt.lower allowed hallowed, eq_comm]
  simp only [selects, lookupExtension, hasAllowedExtension, h, Option.map_some, Option.getD_some,
    Option.any_some, hany]

/-- Without one, it is looked up by the empty name. -/
theorem selects_of_none {entry : DirEntry}
    (h : entry.path.extension.bind OsStr.toStr = none) :
    o.selects entry = true ↔ entry.isFile = true ∧ "" ∈ o.allowedExtensions := by
  simp [selects, lookupExtension, h]

theorem flowFiles_eq_chosen (hbuilt : Built o) (h : ExtensionsNamed world o path) :
    flowFiles world o path = o.chosen world path := by
  refine List.filter_congr fun entry hentry => ?_
  cases hext : entry.path.extension.bind OsStr.toStr with
  | some name => exact (selects_of_some hbuilt hext).symm
  | none =>
    have hno : ¬ o.selects entry = true := by
      intro hselects
      obtain ⟨hfile, hempty⟩ := (selects_of_none hext).mp hselects
      obtain ⟨name, hname⟩ := h hempty entry hentry hfile
      rw [hext] at hname
      cases hname
    rw [Bool.not_eq_true] at hno
    rw [hno, hasAllowedExtension, hext, Option.any_none, Bool.and_false]

theorem flowFiles_sublist (hbuilt : Built o) :
    (flowFiles world o path).Sublist (o.chosen world path) := by
  refine List.monotone_filter_right _ fun entry hfile => ?_
  obtain ⟨hisFile, hext⟩ := Bool.and_eq_true_iff.mp hfile
  obtain ⟨name, hname, _⟩ := (Option.any_eq_true _ _).mp hext
  rw [selects_of_some hbuilt hname]
  exact hfile

theorem extensionsNamed_of_eq (h : flowFiles world o path = o.chosen world path) :
    ExtensionsNamed world o path := by
  intro hempty entry hentry hfile
  cases hext : entry.path.extension.bind OsStr.toStr with
  | some name => exact ⟨name, rfl⟩
  | none =>
    have hmem : entry ∈ flowFiles world o path := by
      rw [h]
      exact List.mem_filter.mpr ⟨hentry, (selects_of_none hext).mpr ⟨hfile, hempty⟩⟩
    have hallowed := (List.mem_filter.mp hmem).2
    simp [hasAllowedExtension, hext] at hallowed

/-! ## Reports -/

/-- No directory or entry of the walk was unreadable. -/
def WalkRead (world : World) (path : Path) : Prop :=
  ∀ e, .error e ∉ world.walkDir path

/-- The report is about everything in the folder. -/
structure FullyChecked (world : World) (parsers : Parsers FlowDocument)
    (o : FlowValidationOptions) (path : Path) (report : FlowValidationReport) : Prop where
  walk : WalkRead world path
  nonempty : flowFiles world o path ≠ []
  documents : List.Forall₂ (fun entry => Checked world parsers o entry.path)
    (flowFiles world o path) report.flows

/-- A folder is only reported valid if everything in it was checked, and is refused
if something in it cannot be. -/
structure OnlyCheckedValid (world : World) (parsers : Parsers FlowDocument)
    (o : FlowValidationOptions) (path : Path) : Prop where
  checked : ∀ report, o.validateFlowFolder world parsers path = .ok report →
    FullyChecked world parsers o path report
  unread : ¬ WalkRead world path → ∃ e, o.validateFlowFolder world parsers path = .error e
  unchecked : (∃ entry ∈ flowFiles world o path,
      ∀ document, ¬ Checked world parsers o entry.path document) →
    ∃ e, o.validateFlowFolder world parsers path = .error e

/-- Why a folder is refused whatever the walk could not read: its path is not
there, no file of it is picked, or a file that is picked cannot be read or parsed or
fails a check. -/
def Refused (world : World) (parsers : Parsers FlowDocument) (o : FlowValidationOptions)
    (path : Path) : Prop :=
  world.pathExists path = false ∨ o.chosen world path = [] ∨
    ∃ entry ∈ o.chosen world path, ∀ document, ¬ Checked world parsers o entry.path document

theorem exists_report_iff :
    (∃ report, o.validateFlowFolder world parsers path = .ok report) ↔
      ¬ Refused world parsers o path := by
  simp only [validateFlowFolder_eq_ok, Refused, not_or, not_exists, not_and, not_forall, not_not,
    Bool.not_eq_false]
  constructor
  · intro h
    obtain ⟨report, hexists, hnonempty, hall, _⟩ := h
    exact ⟨hexists, hnonempty, exists_forall₂_iff.mp ⟨_, hall⟩⟩
  · intro h
    obtain ⟨hexists, hnonempty, hchecked⟩ := h
    obtain ⟨documents, hall⟩ := exists_forall₂_iff.mpr hchecked
    exact ⟨⟨path, documents⟩, hexists, hnonempty, hall, rfl⟩

theorem exists_error_iff :
    (∃ e, o.validateFlowFolder world parsers path = .error e) ↔ Refused world parsers o path := by
  rw [← not_iff_not, ← exists_report_iff]
  cases o.validateFlowFolder world parsers path <;> simp

/-- **Reports that can be relied on**: the folder is refused in any case, or the
walk could read everything and no file without an extension was picked. -/
theorem folder_checked_iff (world : World) (parsers : Parsers FlowDocument)
    (o : FlowValidationOptions) (path : Path) (hbuilt : Built o) :
    OnlyCheckedValid world parsers o path ↔
      Refused world parsers o path ∨ (WalkRead world path ∧ ExtensionsNamed world o path) := by
  constructor
  · intro h
    by_cases hrefused : Refused world parsers o path
    · exact .inl hrefused
    · obtain ⟨report, hreport⟩ := exists_report_iff.mpr hrefused
      have hchecked := h.checked report hreport
      obtain ⟨_, _, hall, _⟩ := validateFlowFolder_eq_ok.mp hreport
      -- the documents of the report match both lists, so none was picked in addition
      have hlength : (flowFiles world o path).length = (o.chosen world path).length :=
        hchecked.documents.length_eq.trans hall.length_eq.symm
      have heq := (flowFiles_sublist hbuilt).eq_of_length hlength
      exact .inr ⟨hchecked.walk, extensionsNamed_of_eq heq⟩
  · intro h
    rcases h with hrefused | ⟨hwalk, hnamed⟩
    · have herror := exists_error_iff.mpr hrefused
      refine ⟨fun report hreport => ?_, fun _ => herror, fun _ => herror⟩
      exact absurd hrefused (exists_report_iff.mp ⟨report, hreport⟩)
    · have heq := flowFiles_eq_chosen hbuilt hnamed
      refine ⟨fun report hreport => ?_, fun hunread => absurd hwalk hunread, fun hunchecked => ?_⟩
      · obtain ⟨_, hnonempty, hall, _⟩ := validateFlowFolder_eq_ok.mp hreport
        rw [← heq] at hnonempty hall
        exact ⟨hwalk, hnonempty, hall⟩
      · rw [heq] at hunchecked
        exact exists_error_iff.mpr (.inr (.inr hunchecked))

namespace Sample

def flowText : String :=
  "id: demo.flow\ntype: messaging\nnodes:\n" ++
  "  - id: start\n    type: message.receive\n    route:\n      route: to_nodes\n" ++
  "      to: [end]\n" ++
  "  - id: end\n    type: message.send\n"

def flowParsers : Parsers FlowDocument where
  yaml text := if text = flowText then .ok forwardFlow else .error "unexpected text"
  json _ := .error "expected value at line 1 column 1"

/-- The directory `flows` with one flow in it, and what else the walk yields. -/
def flowWorld (rest : List (Except String DirEntry)) : World where
  pathExists p := p ∈ [.ofString "flows", .ofString "flows/demo.ygtc"]
  isDir p := p = .ofString "flows"
  isFile p := p = .ofString "flows/demo.ygtc"
  readToString p :=
    if p = .ofString "flows/demo.ygtc" then .ok flowText else .error "no such file"
  metadata p :=
    if p = .ofString "flows/demo.ygtc" then .ok ⟨true, flowText.length, 0o644⟩
    else .error "no such file"
  walkDir p :=
    if p = .ofString "flows" then
      .ok ⟨.ofString "flows", false⟩ :: .ok ⟨.ofString "flows/demo.ygtc", true⟩ :: rest
    else []
  envVar _ := none
  currentDir := .ok (.ofString "/work")
  hashOrder _ := []

/-- What the walk yields of a directory that may not be listed. -/
def unlisted : List (Except String DirEntry) :=
  [.ok ⟨.ofString "flows/private", false⟩, .error "flows/private: Permission denied"]

end Sample

theorem folder_checked_listed :
    OnlyCheckedValid (Sample.flowWorld []) Sample.flowParsers .default (.ofString "flows") := by
  refine (folder_checked_iff _ _ _ _ .default).mpr (.inr ⟨fun e he => ?_, fun hempty => ?_⟩)
  · simp [Sample.flowWorld] at he
  · exact absurd hempty (by decide)

/-- A directory that may not be listed is passed over, and the folder reported
valid. -/
theorem unlisted_reported_valid :
    FlowValidationOptions.default.validateFlowFolder (Sample.flowWorld Sample.unlisted)
        Sample.flowParsers (.ofString "flows") =
      .ok ⟨.ofString "flows", [Sample.forwardFlow]⟩ ∧
    ¬ OnlyCheckedValid (Sample.flowWorld Sample.unlisted) Sample.flowParsers .default
      (.ofString "flows") := by
  have hreport : FlowValidationOptions.default.validateFlowFolder
      (Sample.flowWorld Sample.unlisted) Sample.flowParsers (.ofString "flows") =
        .ok ⟨.ofString "flows", [Sample.forwardFlow]⟩ := by
    have hchosen : FlowValidationOptions.default.chosen (Sample.flowWorld Sample.unlisted)
        (.ofString "flows") = [⟨.ofString "flows/demo.ygtc", true⟩] := by
      decide
    rw [validateFlowFolder_eq_ok, hchosen]
    refine ⟨by decide, List.cons_ne_nil _ _, .cons ⟨⟨Sample.flowText, ?_, ?_⟩, ?_, ?_⟩ .nil, rfl⟩
    · simp [Sample.flowWorld]
    · have hext : (Path.ofString "flows/demo.ygtc").hasExtension ["json", "JSON"] = false := by
        decide
      simp [parseFlowDocument, hext, Sample.flowParsers]
    · decide
    · simp [FlowValidationOptions.default]
  refine ⟨hreport, fun h => ?_⟩
  have hwalk := (h.checked _ hreport).walk "flows/private: Permission denied"
  simp [Sample.flowWorld, Sample.unlisted] at hwalk

end GreenticConformance.FlowSuite
