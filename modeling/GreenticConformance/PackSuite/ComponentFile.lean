import GreenticConformance.Host.Components
import GreenticConformance.PackSuite.Verify

/-!
# A pack through a component file

A pack may be named by its directory or by a component file in it. Both ways select
the same manifest, and the same checks are made on it, except for one: the layout is
looked for under the path that was given, and under a file there is nothing.

## Main definitions

- `FileSystem` — how a file system answers about paths
- `ComponentFile` — a component file that names no manifest
- `SamePack` — the two ways select the same manifest and give the same report

## Main results

- `sameManifest` — they select the same manifest
- `samePack_iff` — the packs for which they agree
-/

namespace GreenticConformance.PackSuite

open Checks Host Path

/-! ## File systems -/

/-- How paths are resolved: a directory is no file, nothing is below a file, and only the
components of a path matter. -/
structure FileSystem (world : World) : Prop where
  isDir_exists : ∀ p, world.isDir p = true → world.pathExists p = true
  isFile_exists : ∀ p, world.isFile p = true → world.pathExists p = true
  isDir_notFile : ∀ p, world.isDir p = true → world.isFile p = false
  notBelowFile : ∀ p name, world.isFile p = true → IsName name →
    world.pathExists (p.join ⟨name⟩) = false
  exists_join : ∀ p p' name, Same p p' → IsName name →
    world.pathExists (p.join ⟨name⟩) = world.pathExists (p'.join ⟨name⟩)
  read_join : ∀ p p' name, Same p p' → IsName name →
    world.readToString (p.join ⟨name⟩) = world.readToString (p'.join ⟨name⟩)

/-- `name` is a file in the directory, neither a manifest by its extension nor with a
neighbour that is one. -/
structure ComponentFile (world : World) (dir : Path) (name : OsStr) : Prop where
  isDir : world.isDir dir = true
  isName : IsName name
  isFile : world.isFile (dir.join ⟨name⟩) = true
  noManifest : (dir.join ⟨name⟩).hasExtension ["json", "yaml", "yml"] = false
  noNeighbour : ∀ extension ∈ ["json", "yaml", "yml"],
    world.pathExists (dir.join ⟨siblingName name extension⟩) = false

/-- Two results are errors both, or related values. -/
inductive SameOutcome {ε α : Type} (R : α → α → Prop) : Except ε α → Except ε α → Prop
  | ok {a b : α} (h : R a b) : SameOutcome R (.ok a) (.ok b)
  | error (e e' : ε) : SameOutcome R (.error e) (.error e')

theorem SameOutcome.of_forall {ε α : Type} {R : α → α → Prop} {r r' : Except ε α}
    (h : ∀ a, r = .ok a → ∃ b, r' = .ok b ∧ R a b) (h' : ∀ b, r' = .ok b → ∃ a, r = .ok a) :
    SameOutcome R r r' := by
  cases r with
  | ok a =>
    obtain ⟨b, rfl, hab⟩ := h a rfl
    exact .ok hab
  | error e =>
    cases r' with
    | ok b =>
      obtain ⟨a, ha⟩ := h' b rfl
      cases ha
    | error e' => exact .error e e'

/-- What one result accepts, the other accepts with a related value. -/
theorem SameOutcome.ok_right {ε α : Type} {R : α → α → Prop} {r r' : Except ε α} {a : α}
    (h : SameOutcome R r r') (ha : r = .ok a) : ∃ b, r' = .ok b := by
  cases h with
  | ok _ => exact ⟨_, rfl⟩
  | error => cases ha

/-! ## The selected manifest -/

section Selected

variable {world : World} {o : PackSuiteOptions} {dir dir' p p' : Path} {name : OsStr}

/-- The manifest that the options, the environment or the directory name, in this
order. -/
def selected (world : World) (o : PackSuiteOptions) (dir : Path) : Option Path :=
  match o.manifestOverride with
  | some overridePath => if world.pathExists overridePath then some overridePath else none
  | none =>
    (((world.envVar "GREENTIC_PACK_MANIFEST").map Path.ofString).filter world.pathExists).or
      ((manifestNames.map fun name => dir.join (.ofString name)).find? world.pathExists)

/-- A directory selects the manifest in it. -/
theorem resolve_dir_eq_ok (hfile : world.isFile dir = false) :
    resolvePackManifest world dir o = .ok p ↔ selected world o dir = some p := by
  unfold resolvePackManifest selected
  cases o.manifestOverride with
  | some overridePath => by_cases h : world.pathExists overridePath = true <;> simp [h]
  | none =>
    simp only [hfile, Bool.false_eq_true, if_false, Option.none_or]
    cases (((world.envVar "GREENTIC_PACK_MANIFEST").map Path.ofString).filter world.pathExists).or
      ((manifestNames.map fun name => dir.join (.ofString name)).find? world.pathExists) with
    | none => simp
    | some found => simp

theorem isName_sibling (hn : IsName name) {extension : String}
    (h : extension ∈ ["json", "yaml", "yml"]) : IsName (siblingName name extension) := by
  have hplain : ∀ extension ∈ ["json", "yaml", "yml"],
      separator ∉ OsStr.ofString extension ∧ 2 ≤ (OsStr.ofString extension).length := by decide
  exact hn.sibling (hplain extension h).1 (hplain extension h).2

/-- A component file has no manifest beside it. -/
theorem ComponentFile.manifestOfFile_eq (h : ComponentFile world dir name) :
    manifestOfFile world (dir.join ⟨name⟩) = none := by
  rw [manifestOfFile, if_neg (by simp [h.noManifest]), List.find?_eq_none]
  intro neighbour hneighbour
  obtain ⟨extension, hext, rfl⟩ := List.mem_map.mp hneighbour
  have hne : extension ≠ "" := by
    rintro rfl
    exact absurd hext (by decide)
  rw [withExtension_join dir h.isName hne (isName_sibling h.isName hext),
    h.noNeighbour extension hext]
  exact Bool.false_ne_true

/-- A component file selects the manifest in its directory. -/
theorem ComponentFile.resolve_eq_ok (h : ComponentFile world dir name) :
    resolvePackManifest world (dir.join ⟨name⟩) o = .ok p ↔
      selected world o ⟨trimEnd dir.text⟩ = some p := by
  unfold resolvePackManifest selected
  cases o.manifestOverride with
  | some overridePath => by_cases h : world.pathExists overridePath = true <;> simp [h]
  | none =>
    simp only [h.isFile, if_true, h.manifestOfFile_eq, parent_join dir h.isName, Option.none_or,
      Option.getD_some]
    cases (((world.envVar "GREENTIC_PACK_MANIFEST").map Path.ofString).filter world.pathExists).or
      ((manifestNames.map fun name => Path.join ⟨trimEnd dir.text⟩ (.ofString name)).find?
        world.pathExists) with
    | none => simp
    | some found => simp

/-- The same place: given as such, or one name in either directory. -/
inductive Twin (dir dir' : Path) : Path → Path → Prop
  | given (p : Path) : Twin dir dir' p p
  | found {name : OsStr} (h : IsName name) : Twin dir dir' (dir.join ⟨name⟩) (dir'.join ⟨name⟩)

theorem Twin.same (h : Twin dir dir' p p') (hdir : Same dir dir') : Same p p' := by
  cases h with
  | given => rfl
  | found hn => exact hdir.join hn

theorem isName_manifestNames : ∀ name ∈ manifestNames, IsName (OsStr.ofString name) := by
  decide

theorem find_twin (hfs : FileSystem world) (hdir : Same dir dir') {names : List String}
    (hnames : ∀ name ∈ names, IsName (OsStr.ofString name)) :
    Option.Rel (Twin dir dir')
      ((names.map fun name => dir.join (.ofString name)).find? world.pathExists)
      ((names.map fun name => dir'.join (.ofString name)).find? world.pathExists) := by
  induction names with
  | nil => exact .none
  | cons name names ih =>
    rw [List.forall_mem_cons] at hnames
    rw [List.map_cons, List.map_cons, List.find?_cons, List.find?_cons]
    have hsame := hfs.exists_join dir dir' _ hdir hnames.1
    change world.pathExists (dir.join (.ofString name)) =
      world.pathExists (dir'.join (.ofString name)) at hsame
    rw [hsame]
    cases world.pathExists (dir'.join (.ofString name)) with
    | true => exact .some (.found hnames.1)
    | false => exact ih hnames.2

/-- The same directories select the same manifest. -/
theorem selected_twin (hfs : FileSystem world) (hdir : Same dir dir') :
    Option.Rel (Twin dir dir') (selected world o dir) (selected world o dir') := by
  unfold selected
  cases o.manifestOverride with
  | some overridePath =>
    dsimp only
    split
    · exact .some (.given overridePath)
    · exact .none
  | none =>
    dsimp only
    cases ((world.envVar "GREENTIC_PACK_MANIFEST").map Path.ofString).filter world.pathExists with
    | some envPath => exact .some (.given envPath)
    | none => exact find_twin hfs hdir isName_manifestNames

theorem selected_of_twin (hfs : FileSystem world) (hdir : Same dir dir')
    (h : selected world o dir = some p) : ∃ p', selected world o dir' = some p' ∧
      Twin dir dir' p p' := by
  have hrel := selected_twin (o := o) hfs hdir
  rw [h] at hrel
  generalize selected world o dir' = found at hrel ⊢
  cases hrel with
  | some htwin => exact ⟨_, rfl, htwin⟩

end Selected

/-! ## Verification -/

section Verified

variable {world : World} {parsers : Parsers PackManifest} {o : PackSuiteOptions}
  {dir dir' p p' : Path} {name : OsStr} {report : PackReport}

/-- The manifest at `p` passes every check, and the report says so. -/
structure Passes (world : World) (parsers : Parsers PackManifest) (o : PackSuiteOptions)
    (p : Path) (report : PackReport) : Prop where
  manifestPath : report.manifestPath = p
  read : ∃ data, world.readToString p = .ok data ∧
    parseManifest parsers p data = .ok report.manifest
  schema : detectPackSchemaVersion report.manifest = .ok report.schemaVersion
  valid : validateManifest world report.manifest (p.parent.getD (.ofString ".")) o.requireFlows
    o.requireSignature o.requireArtifactsExist o.requireSupplyChain = .ok report.warnings
  runtimeFlows : report.runtimeFlows = none

/-- The pack in the directory passes every check but the one of its layout. -/
def PackPasses (world : World) (parsers : Parsers PackManifest) (o : PackSuiteOptions)
    (dir : Path) : Prop :=
  ∃ p report, selected world o dir = some p ∧ Passes world parsers o p report

/-- The reports agree; they may spell the path of the manifest differently. -/
structure SameReport (report report' : PackReport) : Prop where
  manifestPath : Same report.manifestPath report'.manifestPath
  manifest : report.manifest = report'.manifest
  schemaVersion : report.schemaVersion = report'.schemaVersion
  runtimeFlows : report.runtimeFlows = report'.runtimeFlows
  warnings : report.warnings = report'.warnings

theorem verify_eq_ok (hadapter : o.runtimeAdapter = none) :
    o.verifyPackExports world parsers p = .ok report ↔
      world.pathExists p = true ∧ validatePackLayout world p = .ok () ∧
      ∃ manifestPath, resolvePackManifest world p o = .ok manifestPath ∧
        Passes world parsers o manifestPath report := by
  simp only [PackSuiteOptions.verifyPackExports, interrogate, hadapter, bind_eq_ok, exists_unit,
    failIf_eq_ok, withContext_eq_ok, withContextOf_eq_ok, pure_eq_ok, Bool.not_eq_false]
  refine and_congr_right fun _ => and_congr_right fun _ => exists_congr fun manifestPath =>
    and_congr_right fun _ => ?_
  constructor
  · rintro ⟨data, hread, manifest, hparse, version, hschema, warnings, hvalid, _, hflows, rfl⟩
    exact ⟨rfl, ⟨data, hread, hparse⟩, hschema, hvalid, (Except.ok.inj hflows).symm⟩
  · intro h
    obtain ⟨data, hread, hparse⟩ := h.read
    refine ⟨data, hread, report.manifest, hparse, report.schemaVersion, h.schema,
      report.warnings, h.valid, none, rfl, ?_⟩
    exact PackReport.ext h.manifestPath.symm rfl rfl h.runtimeFlows.symm rfl

/-- Only the extension of the path counts. -/
theorem parseManifest_eq_ok {data : String} {manifest : PackManifest} :
    parseManifest parsers p data = .ok manifest ↔
      (if p.hasExtension ["yaml", "yml"] then parsers.yaml data else parsers.json data) =
        .ok manifest := by
  unfold parseManifest
  split <;> exact withContextOf_eq_ok

/-- The checks do not tell a path without what trails it from the path itself. -/
theorem Passes.twin (hfs : FileSystem world) (hdir : Same dir dir')
    (htrim : trimEnd dir.text = trimEnd dir'.text) (htwin : Twin dir dir' p p')
    (h : Passes world parsers o p report) :
    ∃ report', SameReport report report' ∧ Passes world parsers o p' report' := by
  have hpath : Same p p' := htwin.same hdir
  refine ⟨{ report with manifestPath := p' }, ⟨h.manifestPath ▸ hpath, rfl, rfl, rfl, rfl⟩, ?_⟩
  cases htwin with
  | given => exact ⟨rfl, h.read, h.schema, h.valid, h.runtimeFlows⟩
  | found hn =>
    obtain ⟨data, hread, hparse⟩ := h.read
    have hvalid := h.valid
    rw [parent_join dir hn, htrim, ← parent_join dir' hn] at hvalid
    refine ⟨rfl, ⟨data, ?_, ?_⟩, h.schema, hvalid, h.runtimeFlows⟩
    · rw [← hfs.read_join dir dir' _ hdir hn, hread]
    · rw [parseManifest_eq_ok] at hparse ⊢
      rw [hasExtension_join dir' dir hn, hparse]

/-- Nothing is below a component file, so no layout is seen there. -/
theorem ComponentFile.layout_ok (h : ComponentFile world dir name) (hfs : FileSystem world) :
    validatePackLayout world (dir.join ⟨name⟩) = .ok () := by
  have hnames : ∀ folder ∈ ["flows", "components", "assets", "schemas", "docs"],
      IsName (OsStr.ofString folder) := by decide
  rw [validatePackLayout, forM_eq_ok]
  intro folder hfolder
  have hnone : world.pathExists ((dir.join ⟨name⟩).join (.ofString folder)) = false :=
    hfs.notBelowFile _ _ h.isFile (hnames folder hfolder)
  rw [failIf_eq_ok, hnone]
  exact fun hboth => Bool.false_ne_true hboth.1

/-! ## Both ways -/

variable (world parsers o dir name) in
/-- Through the component file and through the directory the same manifest is selected,
and the same report is given. -/
structure SamePack : Prop where
  manifest : SameOutcome Same (resolvePackManifest world (dir.join ⟨name⟩) o)
    (resolvePackManifest world dir o)
  report : SameOutcome SameReport (o.verifyPackExports world parsers (dir.join ⟨name⟩))
    (o.verifyPackExports world parsers dir)

theorem same_trimEnd (dir : Path) : Same ⟨trimEnd dir.text⟩ dir := components_trimEnd dir.text

/-- **One manifest**: a component file selects the manifest that its directory
selects. -/
theorem sameManifest (hfs : FileSystem world) (h : ComponentFile world dir name) :
    SameOutcome Same (resolvePackManifest world (dir.join ⟨name⟩) o)
      (resolvePackManifest world dir o) := by
  have hsame := same_trimEnd dir
  refine .of_forall (fun p hp => ?_) fun p hp => ?_
  · rw [h.resolve_eq_ok] at hp
    obtain ⟨p', hp', htwin⟩ := selected_of_twin hfs hsame hp
    exact ⟨p', (resolve_dir_eq_ok (hfs.isDir_notFile _ h.isDir)).mpr hp', htwin.same hsame⟩
  · rw [resolve_dir_eq_ok (hfs.isDir_notFile _ h.isDir)] at hp
    obtain ⟨p', hp', -⟩ := selected_of_twin hfs hsame.symm hp
    exact ⟨p', h.resolve_eq_ok.mpr hp'⟩

theorem verify_dir_eq_ok (hfs : FileSystem world) (hadapter : o.runtimeAdapter = none)
    (h : ComponentFile world dir name) :
    o.verifyPackExports world parsers dir = .ok report ↔
      validatePackLayout world dir = .ok () ∧
        ∃ p, selected world o dir = some p ∧ Passes world parsers o p report := by
  rw [verify_eq_ok hadapter, and_iff_right (hfs.isDir_exists _ h.isDir)]
  simp only [resolve_dir_eq_ok (hfs.isDir_notFile _ h.isDir)]

theorem verify_component_eq_ok (hfs : FileSystem world) (hadapter : o.runtimeAdapter = none)
    (h : ComponentFile world dir name) :
    o.verifyPackExports world parsers (dir.join ⟨name⟩) = .ok report ↔
      ∃ p, selected world o ⟨trimEnd dir.text⟩ = some p ∧ Passes world parsers o p report := by
  rw [verify_eq_ok hadapter, and_iff_right (hfs.isFile_exists _ h.isFile),
    and_iff_right (h.layout_ok hfs)]
  simp only [h.resolve_eq_ok]

/-- A report of either path is one of the other. -/
theorem exists_passes_of_same (hfs : FileSystem world) (hdir : Same dir dir')
    (htrim : trimEnd dir.text = trimEnd dir'.text)
    (h : ∃ p, selected world o dir = some p ∧ Passes world parsers o p report) :
    ∃ report', SameReport report report' ∧
      ∃ p, selected world o dir' = some p ∧ Passes world parsers o p report' := by
  obtain ⟨p, hp, hpasses⟩ := h
  obtain ⟨p', hp', htwin⟩ := selected_of_twin hfs hdir hp
  obtain ⟨report', hreport, hpasses'⟩ := hpasses.twin hfs hdir htrim htwin
  exact ⟨report', hreport, p', hp', hpasses'⟩

/-- **A pack through a component file** is checked as through its directory exactly when
the layout of the directory is as it should be, or another check fails anyway. -/
theorem samePack_iff (hfs : FileSystem world) (hadapter : o.runtimeAdapter = none)
    (h : ComponentFile world dir name) :
    SamePack world parsers o dir name ↔
      validatePackLayout world dir = .ok () ∨ ¬ PackPasses world parsers o dir := by
  have hsame := same_trimEnd dir
  have htrim : trimEnd (trimEnd dir.text) = trimEnd dir.text := trimEnd_trimEnd dir.text
  constructor
  · intro hboth
    by_cases hpasses : PackPasses world parsers o dir
    · obtain ⟨p, report, hp, hreport⟩ := hpasses
      obtain ⟨report', -, hcomponent⟩ :=
        exists_passes_of_same hfs hsame.symm htrim.symm ⟨p, hp, hreport⟩
      -- the component file is accepted, so the directory is
      obtain ⟨_, hdir⟩ := hboth.report.ok_right
        ((verify_component_eq_ok hfs hadapter h).mpr hcomponent)
      exact .inl ((verify_dir_eq_ok hfs hadapter h).mp hdir).1
    · exact .inr hpasses
  · intro hcondition
    refine ⟨sameManifest hfs h, .of_forall (fun report hreport => ?_) fun report hreport => ?_⟩
    · rw [verify_component_eq_ok hfs hadapter h] at hreport
      obtain ⟨report', hagree, p, hp, hpasses⟩ := exists_passes_of_same hfs hsame htrim hreport
      have hlayout := hcondition.resolve_right (not_not_intro ⟨p, report', hp, hpasses⟩)
      exact ⟨report', (verify_dir_eq_ok hfs hadapter h).mpr ⟨hlayout, p, hp, hpasses⟩, hagree⟩
    · rw [verify_dir_eq_ok hfs hadapter h] at hreport
      obtain ⟨report', -, hcomponent⟩ :=
        exists_passes_of_same hfs hsame.symm htrim.symm hreport.2
      exact ⟨report', (verify_component_eq_ok hfs hadapter h).mpr hcomponent⟩

end Verified

/-! ### A directory with and without a stray file -/

namespace Sample

section Tree

variable (dirs files : List (List Component))

/-- A file system of directories and files, known by their components; a file named
`pack.json` holds the sample manifest. -/
def tree : World where
  pathExists p := p.components ∈ dirs ++ files
  isDir p := p.components ∈ dirs
  isFile p := p.components ∈ files
  readToString p :=
    if p.components ∈ files ∧ p.components.getLast? = some (.normal (OsStr.ofString "pack.json"))
    then .ok manifestText
    else .error "no such file"
  metadata _ := .error "no such file"
  walkDir _ := []
  envVar _ := none
  currentDir := .error "no such directory"
  hashOrder _ := []

variable {dirs files}

theorem fileSystem_tree (hdisjoint : ∀ d ∈ dirs, d ∉ files)
    (hleaf : ∀ t ∈ dirs ++ files, t.dropLast ∉ files) : FileSystem (tree dirs files) where
  isDir_exists p h := by
    simp only [tree, decide_eq_true_eq] at h ⊢
    exact List.mem_append_left _ h
  isFile_exists p h := by
    simp only [tree, decide_eq_true_eq] at h ⊢
    exact List.mem_append_right _ h
  isDir_notFile p h := by
    simp only [tree, decide_eq_true_eq, decide_eq_false_iff_not] at h ⊢
    exact hdisjoint _ h
  notBelowFile p name h hn := by
    simp only [tree, decide_eq_true_eq, decide_eq_false_iff_not, components_join p hn] at h ⊢
    intro hmem
    apply hleaf _ hmem
    rwa [List.dropLast_concat]
  exists_join p p' name h hn := by
    have hjoin : (p.join ⟨name⟩).components = (p'.join ⟨name⟩).components := h.join hn
    simp only [tree, hjoin]
  read_join p p' name h hn := by
    have hjoin : (p.join ⟨name⟩).components = (p'.join ⟨name⟩).components := h.join hn
    simp only [tree, hjoin]

end Tree

def named (names : List String) : List Component := names.map fun name => .normal (.ofString name)

/-- `pack` holds a manifest and a component. -/
def packTree : World :=
  tree [named ["pack"]] [named ["pack", "pack.json"], named ["pack", "component.wasm"]]

/-- The same with a file where a directory of flows belongs. -/
def strayTree : World :=
  tree [named ["pack"]]
    [named ["pack", "pack.json"], named ["pack", "component.wasm"], named ["pack", "flows"]]

def lenient : PackSuiteOptions := PackSuiteOptions.default.withFlags ∅

theorem componentFile_packTree :
    ComponentFile packTree (.ofString "pack") (.ofString "component.wasm") := by
  refine ⟨by decide, by decide, by decide, by decide, by decide⟩

theorem componentFile_strayTree :
    ComponentFile strayTree (.ofString "pack") (.ofString "component.wasm") := by
  refine ⟨by decide, by decide, by decide, by decide, by decide⟩

end Sample

open Sample in
theorem samePack_packTree :
    SamePack packTree parsers lenient (.ofString "pack") (.ofString "component.wasm") :=
  (samePack_iff (fileSystem_tree (by decide) (by decide)) rfl componentFile_packTree).mpr
    (.inl rfl)

open Sample in
/-- A stray file in the directory is seen through the directory only. -/
theorem not_samePack_strayTree : FileSystem strayTree ∧ lenient.runtimeAdapter.isNone = true ∧
    ComponentFile strayTree (.ofString "pack") (.ofString "component.wasm") ∧
    ¬ SamePack strayTree parsers lenient (.ofString "pack") (.ofString "component.wasm") := by
  refine ⟨fileSystem_tree (by decide) (by decide), rfl, componentFile_strayTree, fun h => ?_⟩
  have hcomponent : Accepts strayTree parsers lenient (.ofString "pack/component.wasm") := by
    decide
  have hdir : ¬ Accepts strayTree parsers lenient (.ofString "pack") := by decide
  obtain ⟨report, hreport⟩ := hcomponent
  exact hdir (h.report.ok_right hreport)

end GreenticConformance.PackSuite
