import GreenticConformance.FlowSuite.FolderChecked
import Mathlib.Data.List.Perm.Basic

/-!
# Folders and their parts

The order in which a directory is listed is up to the file system, and flows may lie in
sub-folders. Neither is to matter: a folder is reported exactly if its parts are, and its
report holds the documents that theirs hold.

## Main definitions

- `Comprises` — a folder has the files of its parts

## Main results

- `folder_parts` — a folder is judged by its parts
-/

namespace GreenticConformance.FlowSuite

open Checks Host FlowValidationOptions

variable {world world' : World} {parsers : Parsers FlowDocument} {o : FlowValidationOptions}
variable {path : Path} {parts : List Path} {report : FlowValidationReport}

/-- The regular files in a folder, as far as the walk can read it. -/
def regularFiles (world : World) (path : Path) : List DirEntry :=
  (flatten (world.walkDir path)).filter DirEntry.isFile

/-- The folder has the files of its parts, listed in any order, with the same contents. The
parts may be its sub-folders, its single files, or the folder as another file system lists it. -/
structure Comprises (world world' : World) (path : Path) (parts : List Path) : Prop where
  found : world.pathExists path = true
  partsFound : ∀ part ∈ parts, world'.pathExists part = true
  files : (regularFiles world path).Perm (parts.flatMap (regularFiles world'))
  contents : ∀ entry ∈ regularFiles world path,
    world.readToString entry.path = world'.readToString entry.path

/-! ## The files that are picked -/

theorem chosen_eq_filter : o.chosen world path = (regularFiles world path).filter o.selects := by
  rw [chosen, regularFiles, List.filter_filter]
  refine List.filter_congr fun entry _ => ?_
  cases hfile : entry.isFile with
  | true => rw [Bool.and_true]
  | false => rw [selects, hfile, Bool.false_and, Bool.false_and]

theorem Comprises.chosen_perm (h : Comprises world world' path parts) :
    (o.chosen world path).Perm (parts.flatMap (o.chosen world')) := by
  have hparts : parts.flatMap (o.chosen world') =
      (parts.flatMap (regularFiles world')).filter o.selects := by
    rw [List.filter_flatMap]
    exact List.flatMap_congr fun part _ => chosen_eq_filter
  rw [hparts, chosen_eq_filter]
  exact h.files.filter _

/-- What a file is checked for does not depend on where it was listed. -/
theorem Comprises.checked_iff (h : Comprises world world' path parts) {entry : DirEntry}
    (hentry : entry ∈ o.chosen world path) {document : FlowDocument} :
    Checked world parsers o entry.path document ↔
      Checked world' parsers o entry.path document := by
  rw [chosen_eq_filter] at hentry
  have hcontents := h.contents entry (List.mem_filter.mp hentry).1
  constructor
  · rintro ⟨hparsed, hvalid, hcustom⟩
    rw [hcontents] at hparsed
    exact ⟨hparsed, hvalid, hcustom⟩
  · rintro ⟨hparsed, hvalid, hcustom⟩
    rw [← hcontents] at hparsed
    exact ⟨hparsed, hvalid, hcustom⟩

/-- A file has one document. -/
theorem checked_rightUnique :
    Relator.RightUnique fun (entry : DirEntry) => Checked world parsers o entry.path := by
  intro entry document document' h h'
  obtain ⟨raw, hread, hparse⟩ := h.parsed
  obtain ⟨raw', hread', hparse'⟩ := h'.parsed
  obtain rfl := Except.ok.inj (hread.symm.trans hread')
  exact Except.ok.inj (hparse.symm.trans hparse')

/-! ## The verdict and the documents -/

/-- The parts in which some file is picked. -/
def holding (world : World) (o : FlowValidationOptions) (parts : List Path) : List Path :=
  parts.filter fun part => !(o.chosen world part).isEmpty

theorem mem_holding {part : Path} :
    part ∈ holding world o parts ↔ part ∈ parts ∧ o.chosen world part ≠ [] := by
  rw [holding, List.mem_filter, Bool.not_eq_true', List.isEmpty_eq_false_iff]

/-- A folder is reported if some file is picked, and each that is picked has a document that
passes. -/
theorem exists_report_iff_checked (hfound : world.pathExists path = true) :
    (∃ report, o.validateFlowFolder world parsers path = .ok report) ↔
      o.chosen world path ≠ [] ∧ ∀ entry ∈ o.chosen world path,
        ∃ document, Checked world parsers o entry.path document := by
  rw [exists_report_iff, Refused, hfound]
  push Not
  simp

theorem Comprises.report_iff (h : Comprises world world' path parts) :
    (∃ report, o.validateFlowFolder world parsers path = .ok report) ↔
      holding world' o parts ≠ [] ∧ ∀ part ∈ holding world' o parts,
        ∃ report, o.validateFlowFolder world' parsers part = .ok report := by
  have hmem (entry : DirEntry) : entry ∈ o.chosen world path ↔
      ∃ part ∈ parts, entry ∈ o.chosen world' part := by
    rw [h.chosen_perm.mem_iff, List.mem_flatMap]
  rw [exists_report_iff_checked h.found]
  constructor
  · rintro ⟨hnonempty, hchecked⟩
    constructor
    · obtain ⟨entry, hentry⟩ := List.exists_mem_of_ne_nil _ hnonempty
      obtain ⟨part, hpart, hpicked⟩ := (hmem entry).mp hentry
      exact List.ne_nil_of_mem (mem_holding.mpr ⟨hpart, List.ne_nil_of_mem hpicked⟩)
    · intro part hpart
      obtain ⟨hpart, hpicks⟩ := mem_holding.mp hpart
      refine (exists_report_iff_checked (h.partsFound part hpart)).mpr ⟨hpicks, ?_⟩
      intro entry hentry
      have hentry' := (hmem entry).mpr ⟨part, hpart, hentry⟩
      obtain ⟨document, hdocument⟩ := hchecked entry hentry'
      exact ⟨document, (h.checked_iff hentry').mp hdocument⟩
  · rintro ⟨hholding, hreports⟩
    have hpart (part : Path) (hpart : part ∈ parts) (hpicks : o.chosen world' part ≠ []) :=
      (exists_report_iff_checked (h.partsFound part hpart)).mp
        (hreports part (mem_holding.mpr ⟨hpart, hpicks⟩))
    constructor
    · obtain ⟨part, hmember⟩ := List.exists_mem_of_ne_nil _ hholding
      obtain ⟨hmember, hpicks⟩ := mem_holding.mp hmember
      obtain ⟨entry, hentry⟩ := List.exists_mem_of_ne_nil _ hpicks
      exact List.ne_nil_of_mem ((hmem entry).mpr ⟨part, hmember, hentry⟩)
    · intro entry hentry
      obtain ⟨part, hmember, hpicked⟩ := (hmem entry).mp hentry
      obtain ⟨document, hdocument⟩ :=
        (hpart part hmember (List.ne_nil_of_mem hpicked)).2 entry hpicked
      exact ⟨document, (h.checked_iff hentry).mpr hdocument⟩

/-- The other parts add nothing. -/
theorem flatMap_holding :
    (holding world o parts).flatMap (o.chosen world) = parts.flatMap (o.chosen world) := by
  induction parts with
  | nil => rfl
  | cons part parts ih =>
    rw [List.flatMap_cons, ← ih]
    by_cases hempty : o.chosen world part = []
    · have hskipped : holding world o (part :: parts) = holding world o parts := by
        simp [holding, hempty]
      rw [hskipped, hempty, List.nil_append]
    · have hkept : holding world o (part :: parts) = part :: holding world o parts := by
        simp [holding, hempty]
      rw [hkept, List.flatMap_cons]

/-- The documents of reported parts, one after the other. -/
theorem flatMap_checked {reports : List FlowValidationReport}
    (hreports : List.Forall₂ (fun part report =>
      o.validateFlowFolder world parsers part = .ok report) (holding world o parts) reports) :
    List.Forall₂ (fun entry => Checked world parsers o entry.path)
      (parts.flatMap (o.chosen world)) (reports.flatMap FlowValidationReport.flows) := by
  rw [← flatMap_holding]
  refine List.rel_flatMap hreports fun part report hreport => ?_
  exact (validateFlowFolder_eq_ok.mp hreport).2.2.1

/-- **Folders and their parts**: a folder is reported exactly if some part of it holds a file
that is picked and all such parts are reported. Its documents are then those of the parts, in
some order. -/
theorem folder_parts (h : Comprises world world' path parts) :
    ((∃ report, o.validateFlowFolder world parsers path = .ok report) ↔
      holding world' o parts ≠ [] ∧ ∀ part ∈ holding world' o parts,
        ∃ report, o.validateFlowFolder world' parsers part = .ok report) ∧
    ∀ report reports, o.validateFlowFolder world parsers path = .ok report →
      List.Forall₂ (fun part report => o.validateFlowFolder world' parsers part = .ok report)
        (holding world' o parts) reports →
      report.flows.Perm (reports.flatMap FlowValidationReport.flows) := by
  refine ⟨h.report_iff, fun report reports hreport hreports => ?_⟩
  obtain ⟨_, _, hchecked, _⟩ := validateFlowFolder_eq_ok.mp hreport
  have hchecked' : List.Forall₂ (fun entry => Checked world' parsers o entry.path)
      (o.chosen world path) report.flows := by
    rw [List.forall₂_iff_get] at hchecked ⊢
    refine ⟨hchecked.1, fun i hi hi' => ?_⟩
    exact (h.checked_iff (List.get_mem _ _)).mp (hchecked.2 i hi hi')
  exact List.rel_perm_imp checked_rightUnique hchecked' (flatMap_checked hreports) h.chosen_perm

namespace Sample

/-- The directory `all` with a flow in each of two sub-folders and nothing else in a third. -/
def partsWorld : World where
  pathExists p := p ∈ [.ofString "all", .ofString "all/a", .ofString "all/b", .ofString "all/c"]
  isDir p := p ∈ [.ofString "all", .ofString "all/a", .ofString "all/b", .ofString "all/c"]
  isFile p := p ∈ [.ofString "all/a/demo.ygtc", .ofString "all/b/demo.yaml"]
  readToString p :=
    if p ∈ [.ofString "all/a/demo.ygtc", .ofString "all/b/demo.yaml"] then .ok flowText
    else .error "no such file"
  metadata _ := .error "no such file"
  walkDir p :=
    if p = .ofString "all" then
      [.ok ⟨.ofString "all", false⟩, .ok ⟨.ofString "all/c", false⟩,
        .ok ⟨.ofString "all/b", false⟩, .ok ⟨.ofString "all/b/demo.yaml", true⟩,
        .ok ⟨.ofString "all/a", false⟩, .ok ⟨.ofString "all/a/demo.ygtc", true⟩]
    else if p = .ofString "all/a" then
      [.ok ⟨.ofString "all/a", false⟩, .ok ⟨.ofString "all/a/demo.ygtc", true⟩]
    else if p = .ofString "all/b" then
      [.ok ⟨.ofString "all/b", false⟩, .ok ⟨.ofString "all/b/demo.yaml", true⟩]
    else [.ok ⟨p, false⟩]
  envVar _ := none
  currentDir := .ok (.ofString "/work")
  hashOrder _ := []

theorem partsWorld_comprises : Comprises partsWorld partsWorld (.ofString "all")
    [.ofString "all/a", .ofString "all/b", .ofString "all/c"] where
  found := by decide
  partsFound := by decide
  files := by
    have hall : regularFiles partsWorld (.ofString "all") =
        [⟨.ofString "all/b/demo.yaml", true⟩, ⟨.ofString "all/a/demo.ygtc", true⟩] := by decide
    have hparts : [Path.ofString "all/a", .ofString "all/b", .ofString "all/c"].flatMap
        (regularFiles partsWorld) =
          [⟨.ofString "all/a/demo.ygtc", true⟩, ⟨.ofString "all/b/demo.yaml", true⟩] := by decide
    rw [hall, hparts]
    exact .swap _ _ _
  contents _ _ := rfl

/-- A part with one flow in it. -/
theorem partsWorld_reported {part file : Path} (hfound : partsWorld.pathExists part = true)
    (hchosen : FlowValidationOptions.default.chosen partsWorld part = [⟨file, true⟩])
    (hfile : file ∈ [.ofString "all/a/demo.ygtc", .ofString "all/b/demo.yaml"])
    (hext : file.hasExtension ["json", "JSON"] = false) :
    FlowValidationOptions.default.validateFlowFolder partsWorld flowParsers part =
      .ok ⟨part, [forwardFlow]⟩ := by
  have hread : partsWorld.readToString file = .ok flowText := if_pos hfile
  rw [validateFlowFolder_eq_ok, hchosen]
  refine ⟨hfound, List.cons_ne_nil _ _, .cons ⟨⟨flowText, hread, ?_⟩, ?_, ?_⟩ .nil, rfl⟩
  · simp [parseFlowDocument, hext, flowParsers]
  · decide
  · simp [FlowValidationOptions.default]

end Sample

theorem folder_parts_sample :
    ∃ report, FlowValidationOptions.default.validateFlowFolder Sample.partsWorld
        Sample.flowParsers (.ofString "all") = .ok report ∧
      report.flows.Perm [Sample.forwardFlow, Sample.forwardFlow] := by
  have hholding : holding Sample.partsWorld .default
      [.ofString "all/a", .ofString "all/b", .ofString "all/c"] =
        [.ofString "all/a", .ofString "all/b"] := by
    decide
  have hreports : List.Forall₂ (fun part report =>
      FlowValidationOptions.default.validateFlowFolder Sample.partsWorld Sample.flowParsers part =
        .ok report) [.ofString "all/a", .ofString "all/b"]
      [⟨.ofString "all/a", [Sample.forwardFlow]⟩, ⟨.ofString "all/b", [Sample.forwardFlow]⟩] := by
    refine .cons ?_ (.cons ?_ .nil)
    · exact @Sample.partsWorld_reported _ (.ofString "all/a/demo.ygtc") (by decide) (by decide)
        (by decide) (by decide)
    · exact @Sample.partsWorld_reported _ (.ofString "all/b/demo.yaml") (by decide) (by decide)
        (by decide) (by decide)
  obtain ⟨hverdict, hdocuments⟩ :=
    @folder_parts _ _ Sample.flowParsers .default _ _ Sample.partsWorld_comprises
  rw [hholding] at hverdict hdocuments
  have hparts := exists_forall₂_iff.mp ⟨_, hreports⟩
  obtain ⟨report, hreport⟩ := hverdict.mpr ⟨List.cons_ne_nil _ _, hparts⟩
  exact ⟨report, hreport, hdocuments report _ hreport hreports⟩

end GreenticConformance.FlowSuite
