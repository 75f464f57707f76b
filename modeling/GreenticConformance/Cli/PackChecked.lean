import GreenticConformance.Checks.Guards
import GreenticConformance.Cli.Pack

/-!
# What a checked pack looks like

The structural checks push issues from nested loops and keep on going. Here the
faults are read back from the issues: which packs have none.

## Main definitions

- `PackV1` — what `pack_v1_basic` stands for

## Main results

- `performStructuralChecks_eq_nil` — no issue is pushed exactly for such a pack
- `checkPack_packV1` — the report says so, and `pack_v1_full` says what was verified
-/

namespace GreenticConformance.Cli

open Checks Host

/-! ## Well-formed packs -/

/-- A file is named and listed in the SBOM. -/
def PackLoad.Lists (pack : PackLoad) (file : String) : Prop :=
  isBlank file = false ∧ ∃ entry ∈ pack.sbom, entry.path = file

/-- A pack of which the structural checks have nothing to say. -/
structure PackV1 (pack : PackLoad) (allowUnsigned : Bool) : Prop where
  packId : isBlank pack.manifest.packMeta.packId = false
  name : isBlank pack.manifest.packMeta.name = false
  createdAtUtc : isBlank pack.manifest.packMeta.createdAtUtc = false
  entryFlows : pack.manifest.packMeta.entryFlows ≠ []
  entryFlow : ∀ entry ∈ pack.manifest.packMeta.entryFlows,
    ∃ flow ∈ pack.manifest.flows, flow.id = entry
  flowIds : (pack.manifest.flows.map FlowEntry.id).Nodup
  components : pack.manifest.components.Pairwise fun a b =>
    ¬ (a.name = b.name ∧ a.version = b.version)
  flowFiles : ∀ flow ∈ pack.manifest.flows,
    pack.Lists flow.entry ∧ pack.Lists flow.fileYaml ∧ pack.Lists flow.fileJson
  componentFiles : ∀ component ∈ pack.manifest.components,
    pack.Lists component.fileWasm ∧
    (∀ file, component.schemaFile = some file → pack.Lists file) ∧
    (∀ file, component.manifestFile = some file → pack.Lists file)
  signature : pack.report.signatureOk = true ∨ allowUnsigned = true

/-! ## The key of a component -/

/-- The text after the last separator can be read back. -/
theorem rtakeWhile_separator {α : Type} [DecidableEq α] {a u : List α} {c : α} (hu : c ∉ u) :
    (a ++ c :: u).rtakeWhile (· ≠ c) = u := by
  have hall : ∀ x ∈ u.reverse, decide (x ≠ c) = true := by
    intro x hx
    rw [List.mem_reverse] at hx
    exact decide_eq_true fun hxc => hu (hxc ▸ hx)
  rw [List.rtakeWhile, List.reverse_append, List.reverse_cons, List.append_assoc,
    List.takeWhile_append_of_pos hall]
  simp

/-- With versions that contain no separator, a key determines name and version. -/
theorem ComponentEntry.key_inj {a b : ComponentEntry} (ha : '@' ∉ a.version.toList)
    (hb : '@' ∉ b.version.toList) : a.key = b.key ↔ a.name = b.name ∧ a.version = b.version := by
  have htext (c : ComponentEntry) : c.key.toList = c.name.toList ++ '@' :: c.version.toList := by
    simp [key, ToString.toString]
  constructor
  · intro h
    have hlist := congrArg String.toList h
    rw [htext, htext] at hlist
    have hversion : a.version.toList = b.version.toList := by
      rw [← rtakeWhile_separator (a := a.name.toList) ha, hlist, rtakeWhile_separator hb]
    rw [hversion] at hlist
    have hname : a.name.toList = b.name.toList := List.append_cancel_right hlist
    exact ⟨String.toList_inj.mp hname, String.toList_inj.mp hversion⟩
  · intro h
    obtain ⟨hname, hversion⟩ := h
    rw [key, key, hname, hversion]

/-- No two keys are equal exactly if no two components share name and version. -/
theorem nodup_keys {components : List ComponentEntry}
    (h : ∀ component ∈ components, '@' ∉ component.version.toList) :
    (components.map ComponentEntry.key).Nodup ↔
      components.Pairwise fun a b => ¬ (a.name = b.name ∧ a.version = b.version) := by
  rw [List.Nodup, List.pairwise_map]
  apply List.Pairwise.iff_of_mem
  intro a b ha hb
  exact not_congr (ComponentEntry.key_inj (h a ha) (h b hb))

/-! ## What each loop leaves unsaid -/

@[simp] theorem issueIf_eq_nil {c : Bool} {msg : String} : issueIf c msg = [] ↔ c = false := by
  cases c <;> simp [issueIf]

theorem validateMeta_eq_nil {m : PackMeta} :
    validateMeta m = [] ↔ isBlank m.packId = false ∧ isBlank m.name = false ∧
      m.entryFlows ≠ [] ∧ isBlank m.createdAtUtc = false := by
  simp [validateMeta]

section Loops

variable {sbomPaths : Finset String}

/-- A file passes `check_file_present`. -/
def Present (sbomPaths : Finset String) (file : String) : Prop :=
  isBlank file = false ∧ file ∈ sbomPaths

theorem checkFilePresent_eq_nil {kind path : String} :
    checkFilePresent sbomPaths kind path = [] ↔ Present sbomPaths path := by
  by_cases h : isBlank path
  · simp [checkFilePresent, Present, h]
  · simp [checkFilePresent, Present, h]

theorem checkOptionalFile_eq_nil {kind : String} {path : Option String} :
    checkOptionalFile sbomPaths kind path = [] ↔
      ∀ file, path = some file → Present sbomPaths file := by
  cases path with
  | none => simp [checkOptionalFile]
  | some file => simp [checkOptionalFile, checkFilePresent_eq_nil]

theorem entryIssues_eq_nil {flowIds : Finset String} {entryFlows : List String} :
    entryIssues flowIds entryFlows = [] ↔ ∀ entry ∈ entryFlows, entry ∈ flowIds := by
  simp [entryIssues]

theorem flowIssues_eq_nil {flowIds : Finset String} {flows : List FlowEntry} :
    flowIssues sbomPaths flowIds flows = [] ↔
      (∀ flow ∈ flows, Present sbomPaths flow.entry ∧ Present sbomPaths flow.fileYaml ∧
        Present sbomPaths flow.fileJson) ∧ FreshKeys FlowEntry.id ↑flowIds flows := by
  induction flows generalizing flowIds with
  | nil => simp [flowIssues]
  | cons flow flows ih =>
    simp only [flowIssues, List.append_eq_nil_iff, issueIf_eq_nil, decide_eq_false_iff_not,
      checkFilePresent_eq_nil, ih, List.forall_mem_cons, freshKeys_cons, Finset.coe_insert,
      Finset.mem_coe]
    constructor
    · intro h
      obtain ⟨⟨⟨⟨hid, hentry⟩, hyaml⟩, hjson⟩, hflows, hfresh⟩ := h
      exact ⟨⟨⟨hentry, hyaml, hjson⟩, hflows⟩, hid, hfresh⟩
    · intro h
      obtain ⟨⟨⟨hentry, hyaml, hjson⟩, hflows⟩, hid, hfresh⟩ := h
      exact ⟨⟨⟨⟨hid, hentry⟩, hyaml⟩, hjson⟩, hflows, hfresh⟩

theorem componentIssues_eq_nil {componentKeys : List (String × ComponentEntry)}
    {components : List ComponentEntry} :
    componentIssues sbomPaths componentKeys components = [] ↔
      (∀ component ∈ components, Present sbomPaths component.fileWasm ∧
        (∀ file, component.schemaFile = some file → Present sbomPaths file) ∧
        ∀ file, component.manifestFile = some file → Present sbomPaths file) ∧
      FreshKeys ComponentEntry.key {key | componentKeys.lookup key ≠ none} components := by
  induction components generalizing componentKeys with
  | nil => simp [componentIssues]
  | cons component components ih =>
    -- an entry hides the earlier entries of its key and no others
    have hkeys : {key | ((component.key, component) :: componentKeys).lookup key ≠ none} =
        insert component.key {key | componentKeys.lookup key ≠ none} := by
      ext key
      simp only [Set.mem_ofPred_eq, Set.mem_insert_iff, List.lookup_cons]
      by_cases hkey : key = component.key
      · simp [hkey]
      · simp only [beq_eq_false_iff_ne.mpr hkey, hkey, false_or]
    simp only [componentIssues, List.append_eq_nil_iff, checkFilePresent_eq_nil,
      checkOptionalFile_eq_nil, ih, hkeys, freshKeys_cons, List.forall_mem_cons,
      Set.mem_ofPred_eq, not_not]
    cases hlookup : componentKeys.lookup component.key with
    | none => tauto
    | some prev => simp

end Loops

/-! ## The checked pack -/

section Pack

variable {pack : PackLoad} {allowUnsigned : Bool}

/-- Being present is being listed. -/
theorem present_iff {file : String} :
    Present (pack.sbom.map SbomEntry.path).toFinset file ↔ pack.Lists file := by
  simp [Present, PackLoad.Lists]

/-- Nothing is pushed exactly for a pack without faults. -/
theorem performStructuralChecks_eq_nil
    (hversion : ∀ component ∈ pack.manifest.components, '@' ∉ component.version.toList) :
    (performStructuralChecks pack allowUnsigned).issues = [] ↔ PackV1 pack allowUnsigned := by
  have hsignature : (!pack.report.signatureOk && !allowUnsigned) = false ↔
      pack.report.signatureOk = true ∨ allowUnsigned = true := by
    cases pack.report.signatureOk <;> simp
  have hkeys : FreshKeys ComponentEntry.key
        {key | ([] : List (String × ComponentEntry)).lookup key ≠ none}
        pack.manifest.components ↔
      pack.manifest.components.Pairwise fun a b => ¬ (a.name = b.name ∧ a.version = b.version) := by
    rw [← nodup_keys hversion]
    simp [FreshKeys]
  simp only [performStructuralChecks, List.append_eq_nil_iff, validateMeta_eq_nil,
    flowIssues_eq_nil, entryIssues_eq_nil, componentIssues_eq_nil, issueIf_eq_nil, hsignature,
    hkeys, Finset.coe_empty, freshKeys_empty, present_iff, List.mem_toFinset, List.mem_map]
  constructor
  · intro h
    obtain ⟨⟨⟨⟨⟨hid, hname, hentries, hcreated⟩, hflows, hids⟩, hentry⟩, hfiles, hcomponents⟩,
      hsigned⟩ := h
    exact ⟨hid, hname, hcreated, hentries, hentry, hids, hcomponents, hflows, hfiles, hsigned⟩
  · intro h
    exact ⟨⟨⟨⟨⟨h.packId, h.name, h.entryFlows, h.createdAtUtc⟩, h.flowFiles, h.flowIds⟩,
      h.entryFlow⟩, h.componentFiles, h.components⟩, h.signature⟩

end Pack

/-- What `check_pack` reports of a pack that was opened: the basic verdict is about
the pack's structure, and the full one also about what was verified. -/
theorem checkPack_packV1 (openPack : Path → SigningPolicy → Except String PackLoad) (path : Path)
    (allowDevSignatures allowUnsigned : Bool) {pack : PackLoad}
    (hopen : openPack path (if allowUnsigned || allowDevSignatures then .devOk else .strict) =
      .ok pack)
    (hversion : ∀ component ∈ pack.manifest.components, '@' ∉ component.version.toList) :
    ∃ report, checkPack openPack path allowDevSignatures allowUnsigned = .ok report ∧
      (report.packV1Basic = true ↔ PackV1 pack allowUnsigned) ∧
      (report.packV1Full = true →
        pack.report.signatureOk = true ∧ pack.report.sbomOk = true) := by
  have hpolicy : openPack path (signingPolicy allowDevSignatures allowUnsigned) = .ok pack := hopen
  refine ⟨_, by simp only [checkPack, hpolicy]; rfl, ?_, ?_⟩
  · dsimp only
    rw [List.isEmpty_iff, performStructuralChecks_eq_nil hversion]
  · intro hfull
    dsimp only at hfull
    simp only [Bool.and_eq_true] at hfull
    exact ⟨hfull.1.2, hfull.2⟩

/-- A pack with one flow and two versions of one component, signed with a development key. -/
def samplePack : PackLoad where
  manifest :=
    { packMeta := ⟨"demo", "Demo", ["main"], "2025-01-01T00:00:00Z"⟩
      flows := [⟨"main", "flows/main", "flows/main.yaml", "flows/main.json"⟩]
      components :=
        [⟨"echo", "1.0.0", "echo.wasm", some "echo.json", none⟩,
          ⟨"echo", "1.1.0", "echo.wasm", none, none⟩] }
  report := { signatureOk := false, sbomOk := true, warnings := [] }
  sbom := [⟨"flows/main"⟩, ⟨"flows/main.yaml"⟩, ⟨"flows/main.json"⟩, ⟨"echo.wasm"⟩, ⟨"echo.json"⟩]

/-- Opening a pack, as a loader that refuses what is not signed by a trusted key. -/
def sampleOpen (_ : Path) : SigningPolicy → Except String PackLoad
  | .devOk => .ok samplePack
  | .strict => .error "untrusted signature"

theorem checkPack_packV1_sample :
    ∃ report, checkPack sampleOpen (Path.ofString "demo.gtpack") false true = .ok report ∧
      (report.packV1Basic = true ↔ PackV1 samplePack true) ∧
      (report.packV1Full = true →
        samplePack.report.signatureOk = true ∧ samplePack.report.sbomOk = true) :=
  checkPack_packV1 sampleOpen (Path.ofString "demo.gtpack") false true rfl (by decide)

end GreenticConformance.Cli
