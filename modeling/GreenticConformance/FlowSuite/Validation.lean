import GreenticConformance.Host.Error
import GreenticConformance.Host.Json
import GreenticConformance.Host.Text

/-!
# Flow validation

The flow documents of `flow_suite.rs` and `validate_flow`, one definition a
function. The body of the node loop is cut in two: what comes before the
duplicate check and what comes after it.

## Main definitions

- `FlowDocument` — the document
- `validateFlow` — its checks
-/

namespace GreenticConformance.FlowSuite

open Checks Host

/-! ## Documents -/

inductive RouteKind where
  | followGraph
  | toNode
  | toNodes
  | replyToOrigin
  | endFlow
  deriving DecidableEq

/-- Routing targets of a node. The field `to` of the source is `targets`. -/
structure NodeRoute where
  route : RouteKind
  targets : Option (List String)
  deriving DecidableEq

structure FlowNode where
  id : String
  kind : String
  route : Option NodeRoute
  description : Option String
  metadata : Option Json

structure FlowDocument where
  id : String
  type : Option String
  name : Option String
  summary : Option String
  schemaVersion : Option String
  schemaRef : Option String
  schema : Option Json
  nodes : List FlowNode

inductive FlowType where
  | messaging
  | events
  | worker
  | digitalWorker
  | unknown
  deriving DecidableEq

inductive FlowSchemaVersion where
  | v1
  deriving DecidableEq

/-- `detect_flow_schema_version`. Without a marker, v1 is assumed. -/
def detectFlowSchemaVersion (flow : FlowDocument) : Except Error FlowSchemaVersion :=
  let hint := flow.schemaVersion.or flow.schemaRef
  match hint.map fun raw => toAsciiLowercase (trim raw) with
  | none => .ok .v1
  | some value =>
    if value = "1" ∨ value = "v1" ∨ value = "flow.v1" then
      .ok .v1
    else
      .error (anyhow s!"unknown flow schema version '{value}'")

/-- The type of a flow, as it is compared. -/
def typeName (flow : FlowDocument) : Option String :=
  flow.type.map fun v => toAsciiLowercase (trim v)

def detectFlowType (flow : FlowDocument) : FlowType :=
  if typeName flow = some "messaging" then .messaging
  else if typeName flow = some "events" then .events
  else if typeName flow = some "worker" then .worker
  else if typeName flow = some "digital_worker" ∨ typeName flow = some "digital-worker" then
    .digitalWorker
  else .unknown

/-! ## Checks of a node -/

section Validate

variable (flow : FlowDocument) (node : FlowNode)

/-- The node hands its work to a worker. -/
def isHandoff : Bool := node.kind = "worker.handoff" ∨ node.kind = "worker.invoke"

/-- The metadata name a worker. -/
def hasWorkerId : Bool :=
  ((node.metadata.bind fun m => m.get "worker_id").bind Json.asStr).any fun s => !isBlank s

/-- The ids of the flow's nodes, `id_set`. -/
def idSet : Finset String := (flow.nodes.map FlowNode.id).toFinset

def routesToMissing (target : String) : Error :=
  anyhow s!"flow '{flow.id}' node '{node.id}' routes to missing node '{target}'"

def validateRouting (routing : NodeRoute) : Except Error Unit :=
  match routing.route with
  | .followGraph | .replyToOrigin | .endFlow => .ok ()
  | .toNode => do
    -- only the first target is looked at
    let target ← okOr (routing.targets.bind List.head?)
      (anyhow s!"flow '{flow.id}' node '{node.id}' route 'to_node' missing target")
    failIf (target ∉ idSet flow) (routesToMissing flow node target)
  | .toNodes => do
    let targets ← okOr routing.targets
      (anyhow s!"flow '{flow.id}' node '{node.id}' route 'to_nodes' missing targets")
    -- every target is looked at, but there may be none
    targets.forM fun target => failIf (target ∉ idSet flow) (routesToMissing flow node target)

def ensureField (obj : List (String × Json)) (field : String) : Except Error Unit := do
  let _ ← okOr (((obj.lookup field).bind Json.asStr).filter fun v => !isBlank v)
    (anyhow s!"flow '{flow.id}' node '{node.id}' mcp node must declare {field}")

def validateMcpMetadata (metadata : Json) : Except Error Unit := do
  let obj ← okOr metadata.asObject
    (anyhow s!"flow '{flow.id}' node '{node.id}' mcp metadata must be object")
  ensureField flow node obj "tool"
  ensureField flow node obj "action"

/-- The checks of the node loop before a duplicate id is looked for. -/
def validateNodeNames : Except Error Unit := do
  failIf (isBlank node.id) (anyhow s!"flow '{flow.id}' contains a node with an empty id")
  failIf (isBlank node.kind)
    (anyhow s!"flow '{flow.id}' node '{node.id}' must declare a type/kind")

/-- The check of the metadata, if there are any. -/
def validateMetadata : Except Error Unit :=
  match node.metadata with
  | some metadata => do
    failIf (metadata.isObject = false)
      (anyhow s!"flow '{flow.id}' node '{node.id}' metadata must be a JSON object")
    checkIf (startsWith node.kind "mcp.") (validateMcpMetadata flow node metadata)
  -- a node of kind `mcp.` is not looked at here either
  | none => .ok ()

/-- The check of the route, if there is one. -/
def validateRoute : Except Error Unit :=
  match node.route with
  | some route => validateRouting flow node route
  | none => .ok ()

/-! ## Checks of a flow -/

/-- The check that each type of flow makes of its nodes. -/
def validateFlowType : Except Error Unit :=
  match detectFlowType flow with
  | .unknown => .ok ()
  | .messaging =>
    flow.nodes.forM fun node =>
      failIf (startsWith node.kind "event.")
        (anyhow s!"flow '{flow.id}' is messaging but contains event node '{node.id}'")
  | .events =>
    flow.nodes.forM fun node =>
      failIf (startsWith node.kind "event." = false)
        (anyhow s!"flow '{flow.id}' is events but contains non-event node '{node.id}'")
  | .worker =>
    failIf (flow.nodes.any isHandoff = false)
      (anyhow s!"flow '{flow.id}' is worker but missing worker handoff node")
  | .digitalWorker => do
    failIf (flow.nodes.any isHandoff = false)
      (anyhow s!"flow '{flow.id}' is digital worker but missing worker handoff/invoke node")
    failIf (flow.nodes.any hasWorkerId = false)
      (anyhow s!"flow '{flow.id}' is digital worker but missing worker_id metadata")

/-- The loop over the nodes. -/
def validateNodes : Except Error Unit :=
  forDistinct FlowNode.id
    (fun node => anyhow s!"flow '{flow.id}' contains duplicate node id '{node.id}'")
    (validateNodeNames flow)
    (fun node => do
      validateMetadata flow node
      validateRoute flow node)
    ∅ flow.nodes

def validateFlow (requireSchema : Bool) : Except Error Unit := do
  let _ ← detectFlowSchemaVersion flow
  failIf (isBlank flow.id) (anyhow "flow id must not be empty")
  failIf (requireSchema ∧ flow.schema.isNone) (anyhow s!"flow '{flow.id}' must declare a schema")
  failIf flow.nodes.isEmpty (anyhow s!"flow '{flow.id}' must declare at least one node")
  validateNodes flow
  validateFlowType flow

end Validate

end GreenticConformance.FlowSuite
