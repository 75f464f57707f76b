import GreenticConformance.FlowSuite.FolderChecked
import GreenticConformance.Host.Codecs

/-!
# Flow documents as values

How the documents of `flow_suite.rs` are written and read. The kind of a node is read under
`type` as well, the reference to a schema is written as `$schema`, and a route is read from
its name, or from an object that holds null under it.

## Main definitions

- `routeKindCodec`, `nodeRouteCodec`, `flowNodeCodec`, `flowDocumentCodec`

## Main results

- `flowDocument_robust` — the documents that are read back
- `folder_rewritten` — a folder with the reported documents is reported with them
-/

namespace GreenticConformance.FlowSuite

open Checks Host Serde FlowValidationOptions

/-! ## Routes -/

/-- The name of a variant, in snake case. -/
def RouteKind.name : RouteKind → String
  | .followGraph => "follow_graph"
  | .toNode => "to_node"
  | .toNodes => "to_nodes"
  | .replyToOrigin => "reply_to_origin"
  | .endFlow => "end_flow"

def RouteKind.ofName : String → Option RouteKind
  | "follow_graph" => some .followGraph
  | "to_node" => some .toNode
  | "to_nodes" => some .toNodes
  | "reply_to_origin" => some .replyToOrigin
  | "end_flow" => some .endFlow
  | _ => none

def routeKindCodec : Codec Json RouteKind where
  write kind := .string kind.name
  read
    | .string name => RouteKind.ofName name
    | .object [(name, .null)] => RouteKind.ofName name
    | _ => none

def NodeRoute.members (routing : NodeRoute) : List (String × Json) :=
  [("route", routeKindCodec.write routing.route),
    ("to", (optionCodec (listCodec stringCodec)).write routing.targets)]

def nodeRouteReader : Reader Json NodeRoute :=
  .field (required "route" routeKindCodec []) fun route =>
  .field (optional "to" (listCodec stringCodec)) fun targets =>
  .done { route, targets }

def nodeRouteCodec : Codec Json NodeRoute := structCodec NodeRoute.members nodeRouteReader

/-! ## Nodes -/

def FlowNode.members (node : FlowNode) : List (String × Json) :=
  [("id", stringCodec.write node.id),
    ("kind", stringCodec.write node.kind),
    ("route", (optionCodec nodeRouteCodec).write node.route),
    ("description", (optionCodec stringCodec).write node.description),
    ("metadata", (optionCodec valueCodec).write node.metadata)]

def flowNodeReader : Reader Json FlowNode :=
  .field (required "id" stringCodec []) fun id =>
  .field (required "kind" stringCodec ["type"]) fun kind =>
  .field (optional "route" nodeRouteCodec) fun route =>
  .field (optional "description" stringCodec) fun description =>
  .field (optional "metadata" valueCodec) fun metadata =>
  .done { id, kind, route, description, metadata }

def flowNodeCodec : Codec Json FlowNode := structCodec FlowNode.members flowNodeReader

/-! ## Documents -/

def FlowDocument.members (flow : FlowDocument) : List (String × Json) :=
  [("id", stringCodec.write flow.id),
    ("type", (optionCodec stringCodec).write flow.type),
    ("name", (optionCodec stringCodec).write flow.name),
    ("summary", (optionCodec stringCodec).write flow.summary),
    ("schema_version", (optionCodec stringCodec).write flow.schemaVersion),
    ("$schema", (optionCodec stringCodec).write flow.schemaRef),
    ("schema", (optionCodec valueCodec).write flow.schema),
    ("nodes", (listCodec flowNodeCodec).write flow.nodes)]

def flowDocumentReader : Reader Json FlowDocument :=
  .field (required "id" stringCodec []) fun id =>
  .field (optional "type" stringCodec) fun type =>
  .field (optional "name" stringCodec) fun name =>
  .field (optional "summary" stringCodec) fun summary =>
  .field (optional "schema_version" stringCodec) fun schemaVersion =>
  .field (optional "$schema" stringCodec) fun schemaRef =>
  .field (optional "schema" valueCodec) fun schema =>
  .field (required "nodes" (listCodec flowNodeCodec) []) fun nodes =>
  .done { id, type, name, summary, schemaVersion, schemaRef, schema, nodes }

def flowDocumentCodec : Codec Json FlowDocument :=
  structCodec FlowDocument.members flowDocumentReader

/-! ## Reading back -/

theorem ofName_name (kind : RouteKind) : RouteKind.ofName kind.name = some kind := by
  cases kind <;> rfl

theorem routeKindCodec_stable : routeKindCodec.Stable := fun _ kind _ => ofName_name kind

theorem nodeRoute_agrees : Agrees NodeRoute.members [["route"], ["to"]] nodeRouteReader [] :=
  .field (required_good routeKindCodec_stable) fun _ =>
  .field (optional_good (listCodec_stable stringCodec_stable) listCodec_shows) fun _ =>
  .done rfl

theorem nodeRouteCodec_stable : nodeRouteCodec.Stable :=
  structCodec_stable nodeRoute_agrees (by decide)

theorem nodeRouteCodec_roundTrips (routing : NodeRoute) : nodeRouteCodec.RoundTrips routing := by
  have htargets : (optionCodec (listCodec stringCodec)).RoundTrips routing.targets := by
    rw [optionCodec_roundTrips]
    intro targets _
    exact ⟨Json.noConfusion, strings_roundTrips targets⟩
  refine (structCodec_roundTrips nodeRoute_agrees (by decide)).mpr ?_
  simp only [nodeRouteReader, exists_written_field, exists_written_done]
  exact ⟨routing.route, ofName_name routing.route, routing.targets, htargets, rfl⟩

/-- The names of the fields of a node. -/
def nodeNames : List (List String) :=
  [["id"], ["kind", "type"], ["route"], ["description"], ["metadata"]]

theorem nodeNames_apart : Apart nodeNames := by decide

theorem flowNode_agrees : Agrees FlowNode.members nodeNames flowNodeReader [] :=
  .field (required_good stringCodec_stable) fun _ =>
  .field (required_good stringCodec_stable) fun _ =>
  .field (optional_good nodeRouteCodec_stable structCodec_shows) fun _ =>
  .field (optional_good stringCodec_stable stringCodec_shows) fun _ =>
  .field (optional_good valueCodec_stable valueCodec_shows) fun _ =>
  .done rfl

theorem flowNodeCodec_stable : flowNodeCodec.Stable :=
  structCodec_stable flowNode_agrees nodeNames_apart

theorem flowNodeCodec_roundTrips {node : FlowNode} :
    flowNodeCodec.RoundTrips node ↔ node.metadata ≠ some .null := by
  rw [← optionalValue_roundTrips]
  refine (structCodec_roundTrips flowNode_agrees nodeNames_apart).trans ?_
  simp only [flowNodeReader, exists_written_field, exists_written_done]
  constructor
  · rintro ⟨id, _, kind, _, route, _, description, _, metadata, hmetadata, rfl⟩
    exact hmetadata
  · intro hmetadata
    have hroute : (optionCodec nodeRouteCodec).RoundTrips node.route := by
      rw [optionCodec_roundTrips]
      exact fun routing _ => ⟨Json.noConfusion, nodeRouteCodec_roundTrips routing⟩
    exact ⟨node.id, rfl, node.kind, rfl, node.route, hroute, node.description,
      optionalString_roundTrips _, node.metadata, hmetadata, rfl⟩

/-- The names of the fields of a document. -/
def documentNames : List (List String) :=
  [["id"], ["type"], ["name"], ["summary"], ["schema_version"], ["$schema"], ["schema"], ["nodes"]]

theorem documentNames_apart : Apart documentNames := by decide

theorem flowDocument_agrees : Agrees FlowDocument.members documentNames flowDocumentReader [] :=
  .field (required_good stringCodec_stable) fun _ =>
  .field (optional_good stringCodec_stable stringCodec_shows) fun _ =>
  .field (optional_good stringCodec_stable stringCodec_shows) fun _ =>
  .field (optional_good stringCodec_stable stringCodec_shows) fun _ =>
  .field (optional_good stringCodec_stable stringCodec_shows) fun _ =>
  .field (optional_good stringCodec_stable stringCodec_shows) fun _ =>
  .field (optional_good valueCodec_stable valueCodec_shows) fun _ =>
  .field (required_good (listCodec_stable flowNodeCodec_stable)) fun _ =>
  .done rfl

/-- No optional value of the document is there and null. -/
structure FlowDocument.Settled (flow : FlowDocument) : Prop where
  schema : flow.schema ≠ some .null
  metadata : ∀ node ∈ flow.nodes, node.metadata ≠ some .null

theorem flowDocumentCodec_roundTrips {flow : FlowDocument} :
    flowDocumentCodec.RoundTrips flow ↔ flow.Settled := by
  have hnodes : (listCodec flowNodeCodec).RoundTrips flow.nodes ↔
      ∀ node ∈ flow.nodes, node.metadata ≠ some .null := by
    simp only [listCodec_roundTrips, flowNodeCodec_roundTrips]
  refine (structCodec_roundTrips flowDocument_agrees documentNames_apart).trans ?_
  simp only [flowDocumentReader, exists_written_field, exists_written_done]
  constructor
  · rintro ⟨id, _, type, _, name, _, summary, _, schemaVersion, _, schemaRef, _, schema, hschema,
      nodes, hback, rfl⟩
    exact ⟨optionalValue_roundTrips.mp hschema, hnodes.mp hback⟩
  · intro hsettled
    have hschema := optionalValue_roundTrips.mpr hsettled.schema
    have hback := hnodes.mpr hsettled.metadata
    exact ⟨flow.id, rfl, flow.type, optionalString_roundTrips _, flow.name,
      optionalString_roundTrips _, flow.summary, optionalString_roundTrips _, flow.schemaVersion,
      optionalString_roundTrips _, flow.schemaRef, optionalString_roundTrips _, flow.schema,
      hschema, flow.nodes, hback, rfl⟩

/-- **Flow documents as values**: a document, and each of its nodes, is read back from every
form of it if no optional value is there and null, and those are the documents that can be
read at all. -/
theorem flowDocument_robust (flow : FlowDocument) :
    (Robust flowDocumentCodec FlowDocument.members documentNames flow ↔ flow.Settled) ∧
    (flow.Settled → ∀ node ∈ flow.nodes,
      Robust flowNodeCodec FlowNode.members nodeNames node) ∧
    ((∃ v, flowDocumentCodec.read v = some flow) ↔ flow.Settled) := by
  obtain ⟨hrobust, hread⟩ :=
    structCodec_robust_iff (a := flow) flowDocument_agrees documentNames_apart
  refine ⟨?_, ?_, ?_⟩
  · exact hrobust.trans flowDocumentCodec_roundTrips
  · intro hsettled node hnode
    have hback := flowNodeCodec_roundTrips.mpr (hsettled.metadata node hnode)
    exact (structCodec_robust_iff flowNode_agrees nodeNames_apart).1.mpr hback
  · exact hread.trans flowDocumentCodec_roundTrips

/-! ## Rewritten folders -/

section Folders

variable {world world' : World} {parsers : Parsers FlowDocument} {serde : SerdeJson}
variable {o : FlowValidationOptions} {path path' : Path} {report : FlowValidationReport}

/-- The text of a document, as JSON. -/
def FlowDocument.text (serde : SerdeJson) (flow : FlowDocument) : String :=
  serde.toString (flowDocumentCodec.write flow)

/-- The file is a JSON file with the document. -/
structure Holds (world : World) (serde : SerdeJson) (entry : DirEntry) (flow : FlowDocument) :
    Prop where
  json : entry.path.hasExtension ["json", "JSON"] = true
  text : world.readToString entry.path = .ok (flow.text serde)

/-- The checks of the metadata leave one reason why a document is not read back. -/
theorem settled_of_valid {flow : FlowDocument} {requireSchema : Bool}
    (hvalid : validateFlow flow requireSchema = .ok ()) (hschema : flow.schema ≠ some .null) :
    flow.Settled := by
  refine ⟨hschema, fun node hnode hnull => ?_⟩
  have hok := (validateFlow_eq_ok.mp hvalid).nodes node hnode
  obtain ⟨members, hobject⟩ := (hok.metadata .null hnull).object
  cases hobject

theorem parseFlowDocument_text {entry : DirEntry} {flow : FlowDocument}
    (hholds : Holds world serde entry flow) (hsettled : flow.Settled)
    (hparses : ParsesText flowDocumentCodec parsers serde (flowDocumentCodec.write flow)) :
    parseFlowDocument parsers entry.path (flow.text serde) = .ok flow := by
  have hback := flowDocumentCodec_roundTrips.mpr hsettled
  rw [parseFlowDocument, if_pos hholds.json]
  exact withContextOf_eq_ok.mpr (hparses flow hback)

/-- **Rewritten folders**: when the documents of a report are written as JSON files of some
folder, this folder is reported with the same documents. -/
theorem folder_rewritten (hreport : o.validateFlowFolder world parsers path = .ok report)
    (hschema : ∀ flow ∈ report.flows, flow.schema ≠ some .null)
    (hparses : ∀ flow ∈ report.flows,
      ParsesText flowDocumentCodec parsers serde (flowDocumentCodec.write flow))
    (hexists : world'.pathExists path' = true)
    (hfiles : List.Forall₂ (Holds world' serde) (o.chosen world' path') report.flows) :
    o.validateFlowFolder world' parsers path' = .ok { root := path', flows := report.flows } := by
  obtain ⟨_, hnonempty, hchecked, _⟩ := validateFlowFolder_eq_ok.mp hreport
  have hlength : (o.chosen world' path').length = (o.chosen world path).length :=
    hfiles.length_eq.trans hchecked.length_eq.symm
  refine validateFlowFolder_eq_ok.mpr ⟨hexists, ?_, ?_, rfl⟩
  · rw [ne_eq, ← List.length_eq_zero_iff, hlength, List.length_eq_zero_iff]
    exact hnonempty
  · rw [List.forall₂_iff_get] at hfiles hchecked ⊢
    refine ⟨hfiles.1, fun i hi hi' => ?_⟩
    have hmem : report.flows.get ⟨i, hi'⟩ ∈ report.flows := List.get_mem _ _
    have hholds := hfiles.2 i hi hi'
    have haccepted := hchecked.2 i (hlength ▸ hi) hi'
    have hsettled := settled_of_valid haccepted.valid (hschema _ hmem)
    exact ⟨⟨_, hholds.text, parseFlowDocument_text hholds hsettled (hparses _ hmem)⟩,
      haccepted.valid, haccepted.custom⟩

namespace Sample

/-- The flow of the sample, as JSON. -/
def forwardText : String :=
  "\x7b\"id\":\"demo.flow\",\"type\":\"messaging\",\"name\":null,\"summary\":null," ++
  "\"schema_version\":null,\"$schema\":null,\"schema\":null,\"nodes\":[" ++
  "\x7b\"id\":\"start\",\"kind\":\"message.receive\"," ++
  "\"route\":\x7b\"route\":\"to_nodes\",\"to\":[\"end\"]\x7d," ++
  "\"description\":null,\"metadata\":null\x7d," ++
  "\x7b\"id\":\"end\",\"kind\":\"message.send\",\"route\":null," ++
  "\"description\":null,\"metadata\":null\x7d]\x7d"

def forwardSerde : SerdeJson where
  fromStr _ := .error "expected value at line 1 column 1"
  stringsFromStr _ := .error "expected value at line 1 column 1"
  toString _ := forwardText
  toStringPretty _ := .ok forwardText

def forwardParsers : Parsers FlowDocument where
  yaml := flowParsers.yaml
  json text :=
    if text = forwardText then .ok forwardFlow else .error "expected value at line 1 column 1"

/-- The directory `copy` with one JSON file in it. -/
def copyWorld : World where
  pathExists p := p ∈ [.ofString "copy", .ofString "copy/demo.json"]
  isDir p := p = .ofString "copy"
  isFile p := p = .ofString "copy/demo.json"
  readToString p :=
    if p = .ofString "copy/demo.json" then .ok forwardText else .error "no such file"
  metadata _ := .error "no such file"
  walkDir p :=
    if p = .ofString "copy" then
      [.ok ⟨.ofString "copy", false⟩, .ok ⟨.ofString "copy/demo.json", true⟩]
    else []
  envVar _ := none
  currentDir := .ok (.ofString "/work")
  hashOrder _ := []

theorem forwardFlow_reported :
    FlowValidationOptions.default.validateFlowFolder (flowWorld []) forwardParsers
        (.ofString "flows") =
      .ok ⟨.ofString "flows", [forwardFlow]⟩ := by
  have hchosen : FlowValidationOptions.default.chosen (flowWorld []) (.ofString "flows") =
      [⟨.ofString "flows/demo.ygtc", true⟩] := by
    decide
  rw [validateFlowFolder_eq_ok, hchosen]
  refine ⟨by decide, List.cons_ne_nil _ _, .cons ⟨⟨flowText, ?_, ?_⟩, ?_, ?_⟩ .nil, rfl⟩
  · simp [flowWorld]
  · have hext : (Path.ofString "flows/demo.ygtc").hasExtension ["json", "JSON"] = false := by
      decide
    simp [parseFlowDocument, hext, forwardParsers, flowParsers]
  · decide
  · simp [FlowValidationOptions.default]

theorem forwardFlow_parses :
    ParsesText flowDocumentCodec forwardParsers forwardSerde
      (flowDocumentCodec.write forwardFlow) := by
  intro flow hread
  have hvalid : validateFlow forwardFlow false = .ok () := by decide
  have hsettled : forwardFlow.Settled := settled_of_valid hvalid nofun
  have hback := flowDocumentCodec_roundTrips.mpr hsettled
  rw [Codec.RoundTrips, hread] at hback
  obtain rfl := Option.some.inj hback
  simp only [forwardSerde, forwardParsers, if_true]

end Sample

theorem folder_rewritten_copy :
    FlowValidationOptions.default.validateFlowFolder Sample.copyWorld Sample.forwardParsers
        (.ofString "copy") =
      .ok ⟨.ofString "copy", [Sample.forwardFlow]⟩ := by
  have hchosen : FlowValidationOptions.default.chosen Sample.copyWorld (.ofString "copy") =
      [⟨.ofString "copy/demo.json", true⟩] := by
    decide
  have hholds : Holds Sample.copyWorld Sample.forwardSerde ⟨.ofString "copy/demo.json", true⟩
      Sample.forwardFlow :=
    ⟨by decide, by simp [Sample.copyWorld, FlowDocument.text, Sample.forwardSerde]⟩
  have hfiles : List.Forall₂ (Holds Sample.copyWorld Sample.forwardSerde)
      (FlowValidationOptions.default.chosen Sample.copyWorld (.ofString "copy"))
      [Sample.forwardFlow] := by
    rw [hchosen]
    exact .cons hholds .nil
  refine folder_rewritten Sample.forwardFlow_reported ?_ ?_ (by decide) hfiles
  · simp [Sample.forwardFlow, Sample.messagingFlow]
  · simpa using Sample.forwardFlow_parses

end Folders

end GreenticConformance.FlowSuite
