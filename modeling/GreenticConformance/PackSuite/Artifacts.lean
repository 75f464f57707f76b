import GreenticConformance.Host.Lexical
import GreenticConformance.PackSuite.Verify

/-!
# Where referenced artifacts live

Under `require_artifacts_exist` every path of a manifest is joined to the directory of
the manifest and has to exist. Nothing else is asked of it, so only a path that
descends by itself is known to lead into the pack.

## Main results

- `requireArtifacts_eq_ok` — what the flag adds to verification
-/

namespace GreenticConformance.PackSuite

open Checks Host Paths

/-- The paths that a manifest names: of its flows, its flow files and its components. -/
def references (manifest : PackManifest) : List String :=
  manifest.flows.filterMap PackExport.path ++ manifest.flowFiles ++ manifest.components

/-- The directory that these paths are resolved from. -/
def PackReport.manifestDir (report : PackReport) : Path :=
  report.manifestPath.parent.getD (.ofString ".")

section Artifacts

variable {world : World} {parsers : Parsers PackManifest} {o : PackSuiteOptions}
  {componentPath dir : Path} {report : PackReport}

/-- The reference leads strictly below the directory, lexically. -/
def LivesInside (dir : Path) (reference : String) : Prop :=
  dir.normalize.StrictlyBelow (dir.join (.ofString reference)).normalize

/-- The reference leads to something, and into the directory if it descends. -/
structure Placed (world : World) (dir : Path) (reference : String) : Prop where
  pathExists : PathOk world dir reference
  inside : (Path.ofString reference).Descends → LivesInside dir reference

/-- A reference that leads to something is placed: joining does the rest. -/
theorem placed_iff {reference : String} :
    Placed world dir reference ↔ PathOk world dir reference := by
  constructor
  · intro h
    exact h.pathExists
  · intro h
    exact ⟨h, fun hdescends => hdescends.strictlyBelow dir⟩

theorem artifactsExist_iff {manifest : PackManifest} : ArtifactsExist world manifest dir ↔
    ∀ reference ∈ references manifest, Placed world dir reference := by
  simp only [references, placed_iff, List.mem_append, List.mem_filterMap]
  constructor
  · rintro h reference ((⟨e, he, hpath⟩ | hflow) | hcomponent)
    · exact h.exports e he reference hpath
    · exact h.flowFiles reference hflow
    · exact h.components reference hcomponent
  · intro h
    refine ⟨?_, ?_, ?_⟩
    · intro e he path hpath
      exact h path (.inl (.inl ⟨e, he, hpath⟩))
    · intro path hpath
      exact h path (.inl (.inr hpath))
    · intro path hpath
      exact h path (.inr hpath)

/-- The flag as one of the five. -/
theorem exists_artifactFlags (o : PackSuiteOptions) : ∃ on : Finset Flag,
    o.withFlags on = { o with requireArtifactsExist := false } ∧
    o.withFlags (insert .requireArtifactsExist on) = o.requireArtifacts := by
  obtain ⟨on, hon⟩ := exists_withFlags { o with requireArtifactsExist := false }
  have hbase : o.withFlags on = { o with requireArtifactsExist := false } := hon
  refine ⟨on, hbase, ?_⟩
  have hinsert : o.withFlags (insert .requireArtifactsExist on) =
      (o.withFlags on).requireArtifacts := by
    simp [PackSuiteOptions.withFlags, PackSuiteOptions.requireArtifacts]
  rw [hinsert, hbase]
  rfl

/-- **Referenced artifacts**: verification with the flag accepts what it accepts
without, provided that every reference, resolved from the directory of the manifest,
leads to something; a reference that descends then leads into that directory. -/
theorem requireArtifacts_eq_ok :
    o.requireArtifacts.verifyPackExports world parsers componentPath = .ok report ↔
      { o with requireArtifactsExist := false }.verifyPackExports world parsers componentPath =
        .ok report ∧
      ∀ reference ∈ references report.manifest, Placed world report.manifestDir reference := by
  obtain ⟨on, hwithout, hwith⟩ := exists_artifactFlags o
  rw [← hwithout, ← hwith, verifyPackExports_eq_ok, verifyPackExports_eq_ok, ← artifactsExist_iff]
  constructor
  · rintro ⟨hreport, hflags⟩
    refine ⟨⟨hreport, fun f hf => hflags f (Finset.mem_insert_of_mem hf)⟩, ?_⟩
    exact hflags .requireArtifactsExist (Finset.mem_insert_self _ _)
  · rintro ⟨⟨hreport, hflags⟩, hartifacts⟩
    refine ⟨hreport, fun f hf => ?_⟩
    rcases Finset.mem_insert.mp hf with rfl | hf
    · exact hartifacts
    · exact hflags f hf

end Artifacts

namespace Sample

/-- A manifest that refers to its own directory, to a neighbour of it and to a file
elsewhere. -/
def outward : PackManifest :=
  { manifest with
    flows := [⟨"main", some "", none, none⟩]
    flowFiles := ["../neighbour.yaml"]
    components := ["/etc/passwd"] }

/-- A world in which all three exist. -/
def outwardWorld : World :=
  { world with
    pathExists := fun p => (["pack", "pack/pack.json", "pack/", "pack/../neighbour.yaml",
      "/etc/passwd"].map OsStr.ofString).contains p.text }

def outwardParsers : Parsers PackManifest where
  yaml _ := .ok outward
  json _ := .ok outward

def outwardReport : PackReport where
  manifestPath := .ofString "pack/pack.json"
  manifest := outward
  schemaVersion := .v1
  runtimeFlows := none
  warnings := missingSupplyChain outward

end Sample

/-- A pack is accepted of whose references none leads into it. -/
theorem not_livesInside_outward :
    PackSuiteOptions.default.allowUnsigned.requireArtifacts.verifyPackExports Sample.outwardWorld
      Sample.outwardParsers (.ofString "pack") = .ok Sample.outwardReport ∧
    references Sample.outwardReport.manifest = ["", "../neighbour.yaml", "/etc/passwd"] ∧
    ∀ reference ∈ references Sample.outwardReport.manifest,
      ¬ LivesInside Sample.outwardReport.manifestDir reference := by
  have hlonger : ∀ reference ∈ references Sample.outwardReport.manifest,
      ¬ ((Sample.outwardReport.manifestDir.join (.ofString reference)).normalize.rooted =
          Sample.outwardReport.manifestDir.normalize.rooted ∧
        Sample.outwardReport.manifestDir.normalize.names.length <
          (Sample.outwardReport.manifestDir.join
            (.ofString reference)).normalize.names.length) := by
    decide
  refine ⟨by rfl, by rfl, ?_⟩
  intro reference hreference hinside
  exact hlonger reference hreference hinside.longer

end GreenticConformance.PackSuite
