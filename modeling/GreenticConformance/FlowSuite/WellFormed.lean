import GreenticConformance.FlowSuite.Validation

/-!
# Well-formed flows

What `validate_flow` accepts, said without an order: each condition is about the
nodes as a set, so a node may route to a later one. Two conditions are weaker than
the messages of the checks suggest. A node that routes to one target is checked at
the first entry of its list only, and a list of targets may be empty; a node of
kind `mcp.` is checked only if it has metadata at all.

## Main definitions

- `WellFormed` — what is accepted
- `NoDangling`, `McpDeclared` — what one would expect of routes and of `mcp.` nodes

## Main results

- `validateFlow_accepts_iff` — acceptance is well-formedness, in any order of the nodes
- `no_dangling_iff` — which accepted flows have no dangling route
- `mcp_declared_iff` — which accepted flows declare all their `mcp.` nodes
-/

namespace GreenticConformance.FlowSuite

open Checks Host

/-! ## Conditions on a node -/

/-- The object has a member that is a string and not blank. -/
def Declares (metadata : Json) (field : String) : Prop :=
  ∃ s, metadata.get field = some (.string s) ∧ isBlank s = false

/-- Metadata are an object, which on an `mcp.` node declares its tool and action. -/
structure MetadataOk (node : FlowNode) (metadata : Json) : Prop where
  object : ∃ members, metadata = .object members
  tool : startsWith node.kind "mcp." = true → Declares metadata "tool"
  action : startsWith node.kind "mcp." = true → Declares metadata "action"

/-- Some node of the flow has this id. -/
def HasNode (flow : FlowDocument) (id : String) : Prop :=
  ∃ node ∈ flow.nodes, node.id = id

/-- The targets of a route that are looked at are nodes of the flow. -/
def RouteOk (flow : FlowDocument) (route : NodeRoute) : Prop :=
  match route.route with
  | .followGraph | .replyToOrigin | .endFlow => True
  | .toNode => ∃ target rest, route.targets = some (target :: rest) ∧ HasNode flow target
  | .toNodes => ∃ targets, route.targets = some targets ∧ ∀ target ∈ targets, HasNode flow target

/-- What every node has to satisfy by itself. -/
structure NodeOk (flow : FlowDocument) (node : FlowNode) : Prop where
  id : isBlank node.id = false
  kind : isBlank node.kind = false
  metadata : ∀ metadata, node.metadata = some metadata → MetadataOk node metadata
  route : ∀ route, node.route = some route → RouteOk flow route

/-! ## Conditions on a flow -/

/-- Some node hands its work to a worker. -/
def HandsOff (flow : FlowDocument) : Prop :=
  ∃ node ∈ flow.nodes, node.kind = "worker.handoff" ∨ node.kind = "worker.invoke"

/-- Some node names its worker. -/
def NamesWorker (flow : FlowDocument) : Prop :=
  ∃ node ∈ flow.nodes, ∃ metadata, node.metadata = some metadata ∧ Declares metadata "worker_id"

/-- The type of the flow is one of these, trimmed and in lower case. -/
def HasType (flow : FlowDocument) (names : List String) : Prop :=
  ∃ value, flow.type = some value ∧ toAsciiLowercase (trim value) ∈ names

/-- What the type of a flow asks of its nodes. Other types ask for nothing. -/
structure TypeOk (flow : FlowDocument) : Prop where
  messaging : HasType flow ["messaging"] →
    ∀ node ∈ flow.nodes, startsWith node.kind "event." = false
  events : HasType flow ["events"] →
    ∀ node ∈ flow.nodes, startsWith node.kind "event." = true
  worker : HasType flow ["worker"] → HandsOff flow
  digitalWorker : HasType flow ["digital_worker", "digital-worker"] →
    HandsOff flow ∧ NamesWorker flow

structure WellFormed (flow : FlowDocument) (requireSchema : Bool) : Prop where
  version : ∀ hint, flow.schemaVersion.or flow.schemaRef = some hint →
    toAsciiLowercase (trim hint) ∈ ["1", "v1", "flow.v1"]
  id : isBlank flow.id = false
  schema : requireSchema = true → flow.schema ≠ none
  nonempty : flow.nodes ≠ []
  nodes : ∀ node ∈ flow.nodes, NodeOk flow node
  distinct : (flow.nodes.map FlowNode.id).Nodup
  type : TypeOk flow

/-! ## Each check accepts its condition -/

variable {flow : FlowDocument} {node : FlowNode} {requireSchema : Bool}

theorem asStr_eq_some {v : Json} {s : String} : v.asStr = some s ↔ v = .string s := by
  cases v <;> simp [Json.asStr]

theorem ensureField_eq_ok {members : List (String × Json)} {field : String} :
    ensureField flow node members field = .ok () ↔ Declares (.object members) field := by
  simp only [ensureField, bind_eq_ok, okOr_eq_ok, pure_eq_ok, and_true, Option.filter_eq_some_iff,
    Option.bind_eq_some_iff, asStr_eq_some, Bool.not_eq_eq_eq_not, Bool.not_true, Declares,
    Json.get, Json.asObject, Option.bind_some]
  constructor
  · intro h
    obtain ⟨s, ⟨v, hlookup, rfl⟩, hblank⟩ := h
    exact ⟨s, hlookup, hblank⟩
  · intro h
    obtain ⟨s, hlookup, hblank⟩ := h
    exact ⟨s, ⟨_, hlookup, rfl⟩, hblank⟩

theorem validateMetadata_eq_ok : validateMetadata flow node = .ok () ↔
    ∀ metadata, node.metadata = some metadata → MetadataOk node metadata := by
  unfold validateMetadata
  cases node.metadata with
  | none => simp
  | some metadata =>
    simp only [bind_eq_ok, exists_unit, failIf_eq_ok, checkIf_eq_ok, Bool.not_eq_false,
      Json.isObject_iff, validateMcpMetadata, okOr_eq_ok, Option.some.injEq, forall_eq']
    constructor
    · intro h
      obtain ⟨⟨members, rfl⟩, hmcp⟩ := h
      have hfields (hkind : startsWith node.kind "mcp." = true) :
          Declares (.object members) "tool" ∧ Declares (.object members) "action" := by
        obtain ⟨obj, hobj, htool, haction⟩ := hmcp hkind
        cases hobj
        exact ⟨ensureField_eq_ok.mp htool, ensureField_eq_ok.mp haction⟩
      exact ⟨⟨members, rfl⟩, fun hkind => (hfields hkind).1, fun hkind => (hfields hkind).2⟩
    · intro h
      obtain ⟨members, rfl⟩ := h.object
      refine ⟨⟨members, rfl⟩, fun hkind => ⟨members, rfl, ?_, ?_⟩⟩
      · exact ensureField_eq_ok.mpr (h.tool hkind)
      · exact ensureField_eq_ok.mpr (h.action hkind)

theorem mem_idSet {id : String} : id ∈ idSet flow ↔ HasNode flow id := by
  simp [idSet, HasNode]

theorem validateRouting_eq_ok {route : NodeRoute} :
    validateRouting flow node route = .ok () ↔ RouteOk flow route := by
  obtain ⟨kind, targets⟩ := route
  cases kind with
  | followGraph => exact iff_of_true rfl trivial
  | replyToOrigin => exact iff_of_true rfl trivial
  | endFlow => exact iff_of_true rfl trivial
  | toNode =>
    simp only [validateRouting, RouteOk, bind_eq_ok, okOr_eq_ok, failIf_eq_ok, not_not, mem_idSet,
      Option.bind_eq_some_iff, List.head?_eq_some_iff]
    constructor
    · intro h
      obtain ⟨target, ⟨_, htargets, rest, rfl⟩, hnode⟩ := h
      exact ⟨target, rest, htargets, hnode⟩
    · intro h
      obtain ⟨target, rest, htargets, hnode⟩ := h
      exact ⟨target, ⟨_, htargets, rest, rfl⟩, hnode⟩
  | toNodes =>
    simp only [validateRouting, RouteOk, bind_eq_ok, okOr_eq_ok, forM_eq_ok, failIf_eq_ok, not_not,
      mem_idSet]

theorem validateRoute_eq_ok : validateRoute flow node = .ok () ↔
    ∀ route, node.route = some route → RouteOk flow route := by
  unfold validateRoute
  cases node.route with
  | none => simp
  | some route => simp [validateRouting_eq_ok]

theorem validateNodes_eq_ok : validateNodes flow = .ok () ↔
    (∀ node ∈ flow.nodes, NodeOk flow node) ∧ (flow.nodes.map FlowNode.id).Nodup := by
  simp only [validateNodes, validateNodeNames, forDistinct_eq_ok, bind_eq_ok, exists_unit,
    failIf_eq_ok, validateMetadata_eq_ok, validateRoute_eq_ok, Bool.not_eq_true,
    Finset.notMem_empty, not_false_eq_true, and_true]
  constructor
  · intro h
    refine ⟨fun node hnode => ?_, h.2⟩
    obtain ⟨⟨hid, hkind⟩, hmetadata, hroute⟩ := h.1 node hnode
    exact ⟨hid, hkind, hmetadata, hroute⟩
  · intro h
    refine ⟨fun node hnode => ?_, h.2⟩
    have hok := h.1 node hnode
    exact ⟨⟨hok.id, hok.kind⟩, hok.metadata, hok.route⟩

theorem detectFlowSchemaVersion_eq_ok :
    (∃ version, detectFlowSchemaVersion flow = .ok version) ↔
      ∀ hint, flow.schemaVersion.or flow.schemaRef = some hint →
        toAsciiLowercase (trim hint) ∈ ["1", "v1", "flow.v1"] := by
  unfold detectFlowSchemaVersion
  cases flow.schemaVersion.or flow.schemaRef with
  | none => exact iff_of_true ⟨.v1, rfl⟩ (by simp)
  | some hint =>
    simp only [Option.map_some, Option.some.injEq, forall_eq', List.mem_cons, List.not_mem_nil,
      or_false]
    by_cases h : toAsciiLowercase (trim hint) = "1" ∨ toAsciiLowercase (trim hint) = "v1" ∨
        toAsciiLowercase (trim hint) = "flow.v1"
    · rw [if_pos h]
      exact iff_of_true ⟨.v1, rfl⟩ h
    · rw [if_neg h]
      exact iff_of_false (by simp) h

theorem any_isHandoff : flow.nodes.any isHandoff = true ↔ HandsOff flow := by
  simp [isHandoff, HandsOff]

theorem hasWorkerId_iff : hasWorkerId node = true ↔
    ∃ metadata, node.metadata = some metadata ∧ Declares metadata "worker_id" := by
  simp only [hasWorkerId, Option.any_eq_true, Option.bind_eq_some_iff, asStr_eq_some, Declares,
    Bool.not_eq_eq_eq_not, Bool.not_true]
  constructor
  · intro h
    obtain ⟨s, ⟨_, ⟨metadata, hmetadata, hget⟩, rfl⟩, hblank⟩ := h
    exact ⟨metadata, hmetadata, s, hget, hblank⟩
  · intro h
    obtain ⟨metadata, hmetadata, s, hget, hblank⟩ := h
    exact ⟨s, ⟨_, ⟨metadata, hmetadata, hget⟩, rfl⟩, hblank⟩

theorem any_hasWorkerId : flow.nodes.any hasWorkerId = true ↔ NamesWorker flow := by
  simp only [List.any_eq_true, hasWorkerId_iff, NamesWorker]

@[simp] theorem hasType_singleton {name : String} :
    HasType flow [name] ↔ typeName flow = some name := by
  simp [HasType, typeName]

@[simp] theorem hasType_pair {name name' : String} :
    HasType flow [name, name'] ↔ typeName flow = some name ∨ typeName flow = some name' := by
  simp [HasType, typeName, and_or_left, exists_or]

theorem validateFlowType_eq_ok : validateFlowType flow = .ok () ↔ TypeOk flow := by
  unfold validateFlowType detectFlowType
  by_cases hmessaging : typeName flow = some "messaging"
  · simp only [if_pos hmessaging, forM_eq_ok, failIf_eq_ok, Bool.not_eq_true]
    constructor
    · intro h
      exact ⟨fun _ => h, by simp [hmessaging], by simp [hmessaging], by simp [hmessaging]⟩
    · intro h
      exact h.messaging (hasType_singleton.mpr hmessaging)
  by_cases hevents : typeName flow = some "events"
  · simp only [if_neg hmessaging, if_pos hevents, forM_eq_ok, failIf_eq_ok, Bool.not_eq_false]
    constructor
    · intro h
      exact ⟨by simp [hevents], fun _ => h, by simp [hevents], by simp [hevents]⟩
    · intro h
      exact h.events (hasType_singleton.mpr hevents)
  by_cases hworker : typeName flow = some "worker"
  · simp only [if_neg hmessaging, if_neg hevents, if_pos hworker, failIf_eq_ok, Bool.not_eq_false,
      any_isHandoff]
    constructor
    · intro h
      exact ⟨by simp [hworker], by simp [hworker], fun _ => h, by simp [hworker]⟩
    · intro h
      exact h.worker (hasType_singleton.mpr hworker)
  by_cases hdigital : typeName flow = some "digital_worker" ∨ typeName flow = some "digital-worker"
  · simp only [if_neg hmessaging, if_neg hevents, if_neg hworker, if_pos hdigital, bind_eq_ok,
      exists_unit, failIf_eq_ok, Bool.not_eq_false, any_isHandoff, any_hasWorkerId]
    constructor
    · intro h
      exact ⟨by simp [hmessaging], by simp [hevents], by simp [hworker], fun _ => h⟩
    · intro h
      exact h.digitalWorker (hasType_pair.mpr hdigital)
  · simp only [if_neg hmessaging, if_neg hevents, if_neg hworker, if_neg hdigital, true_iff]
    exact ⟨by simp [hmessaging], by simp [hevents], by simp [hworker],
      fun hd => absurd (hasType_pair.mp hd) hdigital⟩

/-! ## Acceptance -/

theorem validateFlow_eq_ok :
    validateFlow flow requireSchema = .ok () ↔ WellFormed flow requireSchema := by
  have hversion {p : Prop} :
      (∃ version, detectFlowSchemaVersion flow = .ok version ∧ p) ↔
        (∃ version, detectFlowSchemaVersion flow = .ok version) ∧ p :=
    exists_and_right
  have hschema : ¬ (requireSchema = true ∧ flow.schema.isNone = true) ↔
      (requireSchema = true → flow.schema ≠ none) := by
    rw [not_and, Option.isNone_iff_eq_none]
  have hnodes : ¬ flow.nodes.isEmpty = true ↔ flow.nodes ≠ [] := by
    rw [List.isEmpty_iff]
  simp only [validateFlow, bind_eq_ok, exists_unit, failIf_eq_ok, hversion,
    detectFlowSchemaVersion_eq_ok, validateNodes_eq_ok, validateFlowType_eq_ok, hschema, hnodes,
    Bool.not_eq_true]
  constructor
  · intro h
    obtain ⟨hhint, hid, hschema, hnonempty, ⟨hok, hdistinct⟩, htype⟩ := h
    exact ⟨hhint, hid, hschema, hnonempty, hok, hdistinct, htype⟩
  · intro h
    exact ⟨h.version, h.id, h.schema, h.nonempty, ⟨h.nodes, h.distinct⟩, h.type⟩

section Perm

variable {nodes : List FlowNode}

theorem HasNode.perm (h : nodes.Perm flow.nodes) {id : String} :
    HasNode { flow with nodes := nodes } id ↔ HasNode flow id := by
  simp only [HasNode, h.mem_iff]

theorem RouteOk.perm (h : nodes.Perm flow.nodes) {route : NodeRoute} :
    RouteOk { flow with nodes := nodes } route ↔ RouteOk flow route := by
  unfold RouteOk
  cases route.route <;> simp only [HasNode.perm h]

theorem NodeOk.perm (h : nodes.Perm flow.nodes) (hok : NodeOk flow node) :
    NodeOk { flow with nodes := nodes } node :=
  ⟨hok.id, hok.kind, hok.metadata,
    fun route hroute => (RouteOk.perm h).mpr (hok.route route hroute)⟩

theorem TypeOk.perm (h : nodes.Perm flow.nodes) (hok : TypeOk flow) :
    TypeOk { flow with nodes := nodes } where
  messaging hm node hnode := hok.messaging hm node (h.mem_iff.mp hnode)
  events he node hnode := hok.events he node (h.mem_iff.mp hnode)
  worker hw := by
    obtain ⟨node, hnode, hkind⟩ := hok.worker hw
    exact ⟨node, h.mem_iff.mpr hnode, hkind⟩
  digitalWorker hd := by
    obtain ⟨⟨node, hnode, hkind⟩, ⟨named, hnamed, hworker⟩⟩ := hok.digitalWorker hd
    exact ⟨⟨node, h.mem_iff.mpr hnode, hkind⟩, ⟨named, h.mem_iff.mpr hnamed, hworker⟩⟩

/-- The order of the nodes does not matter. -/
theorem WellFormed.perm (h : nodes.Perm flow.nodes) (hflow : WellFormed flow requireSchema) :
    WellFormed { flow with nodes := nodes } requireSchema where
  version := hflow.version
  id := hflow.id
  schema := hflow.schema
  nonempty hnil := hflow.nonempty (List.nil_perm.mp (hnil ▸ h))
  nodes node hnode := (hflow.nodes node (h.mem_iff.mp hnode)).perm h
  distinct := (h.map FlowNode.id).nodup_iff.mpr hflow.distinct
  type := hflow.type.perm h

end Perm

/-- **Accepted flows** are the well-formed ones, in whatever order their nodes
stand. -/
theorem validateFlow_accepts_iff (flow : FlowDocument) (requireSchema : Bool) :
    (validateFlow flow requireSchema = .ok () ↔ WellFormed flow requireSchema) ∧
    ∀ nodes : List FlowNode, nodes.Perm flow.nodes →
      (validateFlow { flow with nodes := nodes } requireSchema = .ok () ↔
        validateFlow flow requireSchema = .ok ()) := by
  refine ⟨validateFlow_eq_ok, fun nodes hperm => ?_⟩
  rw [validateFlow_eq_ok, validateFlow_eq_ok]
  constructor
  · intro h
    exact @WellFormed.perm { flow with nodes := nodes } requireSchema flow.nodes hperm.symm h
  · intro h
    exact h.perm hperm

/-! ## Routes -/

/-- Every route to nodes names some, all of them nodes of the flow. -/
def NoDangling (flow : FlowDocument) : Prop :=
  ∀ node ∈ flow.nodes, ∀ route, node.route = some route →
    route.route = .toNode ∨ route.route = .toNodes →
      ∃ targets, route.targets = some targets ∧ targets ≠ [] ∧
        ∀ target ∈ targets, HasNode flow target

/-- What the check of a route leaves out: the targets after the first one of a
`to_node` route, and whether a `to_nodes` route has a target at all. -/
structure UncheckedTargetsOk (flow : FlowDocument) (route : NodeRoute) : Prop where
  toNode : route.route = .toNode → ∀ target rest, route.targets = some (target :: rest) →
    ∀ other ∈ rest, HasNode flow other
  toNodes : route.route = .toNodes → route.targets ≠ some []

/-- A checked route has no dangling target when what the check leaves out is in
order. -/
theorem RouteOk.names_iff {route : NodeRoute} (hok : RouteOk flow route) :
    (route.route = .toNode ∨ route.route = .toNodes →
      ∃ targets, route.targets = some targets ∧ targets ≠ [] ∧
        ∀ target ∈ targets, HasNode flow target) ↔ UncheckedTargetsOk flow route := by
  constructor
  · intro h
    constructor
    · intro hkind target rest htargets other hother
      obtain ⟨targets, hsome, _, hall⟩ := h (.inl hkind)
      rw [htargets] at hsome
      cases hsome
      exact hall other (List.mem_cons_of_mem _ hother)
    · intro hkind hnil
      obtain ⟨targets, hsome, hne, _⟩ := h (.inr hkind)
      rw [hnil] at hsome
      cases hsome
      exact hne rfl
  · intro h hkind
    unfold RouteOk at hok
    rcases hkind with hkind | hkind
    · rw [hkind] at hok
      obtain ⟨target, rest, htargets, hnode⟩ := hok
      refine ⟨_, htargets, List.cons_ne_nil _ _, ?_⟩
      rw [List.forall_mem_cons]
      exact ⟨hnode, h.toNode hkind target rest htargets⟩
    · rw [hkind] at hok
      obtain ⟨targets, htargets, hall⟩ := hok
      refine ⟨targets, htargets, ?_, hall⟩
      intro hnil
      rw [hnil] at htargets
      exact h.toNodes hkind htargets

/-- **Dangling routes**: an accepted flow has none exactly when the targets that
are not checked are in order. -/
theorem no_dangling_iff (flow : FlowDocument) (requireSchema : Bool)
    (h : validateFlow flow requireSchema = .ok ()) :
    NoDangling flow ↔ ∀ node ∈ flow.nodes, ∀ route, node.route = some route →
      UncheckedTargetsOk flow route := by
  have hflow := validateFlow_eq_ok.mp h
  constructor
  · intro hno node hnode route hroute
    have hok := (hflow.nodes node hnode).route route hroute
    exact hok.names_iff.mp (hno node hnode route hroute)
  · intro hunchecked node hnode route hroute
    have hok := (hflow.nodes node hnode).route route hroute
    exact hok.names_iff.mpr (hunchecked node hnode route hroute)

namespace Sample

/-- A node that says nothing but its id, kind and route. -/
def plainNode (id kind : String) (route : Option NodeRoute) : FlowNode where
  id := id
  kind := kind
  route := route
  description := none
  metadata := none

/-- A flow of type `messaging`. -/
def messagingFlow (nodes : List FlowNode) : FlowDocument where
  id := "demo.flow"
  type := some "messaging"
  name := none
  summary := none
  schemaVersion := none
  schemaRef := none
  schema := none
  nodes := nodes

/-- The first node routes to the node after it. -/
def forwardFlow : FlowDocument :=
  messagingFlow [plainNode "start" "message.receive" (some ⟨.toNodes, some ["end"]⟩),
    plainNode "end" "message.send" none]

/-- The second target of the route is no node. -/
def secondTargetFlow : FlowDocument :=
  messagingFlow [plainNode "start" "message.receive" (some ⟨.toNode, some ["end", "missing-node"]⟩),
    plainNode "end" "message.send" none]

/-- The route has no target. -/
def noTargetFlow : FlowDocument :=
  messagingFlow [plainNode "start" "message.receive" (some ⟨.toNodes, some []⟩)]

end Sample

theorem no_dangling_forward : NoDangling Sample.forwardFlow := by
  refine (no_dangling_iff Sample.forwardFlow false (by decide)).mpr ?_
  intro node hnode route hroute
  simp only [Sample.forwardFlow, Sample.messagingFlow, List.mem_cons, List.not_mem_nil,
    or_false] at hnode
  rcases hnode with rfl | rfl
  · cases hroute
    exact ⟨nofun, fun _ => by simp⟩
  · cases hroute

/-- A `to_node` route may go on to name a missing node, and a `to_nodes` route may
name none. -/
theorem dangling_accepted :
    (validateFlow Sample.secondTargetFlow false = .ok () ∧ ¬ NoDangling Sample.secondTargetFlow) ∧
    validateFlow Sample.noTargetFlow false = .ok () ∧ ¬ NoDangling Sample.noTargetFlow := by
  refine ⟨⟨by decide, fun h => ?_⟩, by decide, fun h => ?_⟩
  · obtain ⟨targets, hsome, _, hall⟩ := h _ (List.mem_cons_self ..) _ rfl (.inl rfl)
    cases hsome
    obtain ⟨node, hnode, hid⟩ := hall "missing-node" (by simp)
    simp only [Sample.secondTargetFlow, Sample.messagingFlow, List.mem_cons, List.not_mem_nil,
      or_false] at hnode
    rcases hnode with rfl | rfl <;> exact absurd hid (by decide)
  · obtain ⟨targets, hsome, hne, _⟩ := h _ (List.mem_cons_self ..) _ rfl (.inr rfl)
    cases hsome
    exact hne rfl

/-! ## Nodes of kind `mcp.` -/

/-- Every `mcp.` node has metadata that declare its tool and action. -/
def McpDeclared (flow : FlowDocument) : Prop :=
  ∀ node ∈ flow.nodes, startsWith node.kind "mcp." = true →
    ∃ metadata, node.metadata = some metadata ∧ Declares metadata "tool" ∧
      Declares metadata "action"

/-- **Declared nodes**: an accepted flow declares all its `mcp.` nodes exactly when
all of them have metadata. -/
theorem mcp_declared_iff (flow : FlowDocument) (requireSchema : Bool)
    (h : validateFlow flow requireSchema = .ok ()) :
    McpDeclared flow ↔
      ∀ node ∈ flow.nodes, startsWith node.kind "mcp." = true → node.metadata ≠ none := by
  have hflow := validateFlow_eq_ok.mp h
  constructor
  · intro hmcp node hnode hkind hnone
    obtain ⟨metadata, hsome, _⟩ := hmcp node hnode hkind
    rw [hnone] at hsome
    cases hsome
  · intro hpresent node hnode hkind
    obtain ⟨metadata, hmetadata⟩ := Option.ne_none_iff_exists'.mp (hpresent node hnode hkind)
    have hok := (hflow.nodes node hnode).metadata metadata hmetadata
    exact ⟨metadata, hmetadata, hok.tool hkind, hok.action hkind⟩

namespace Sample

/-- A flow of one `mcp.` node. -/
def mcpFlow (metadata : Option Json) : FlowDocument :=
  messagingFlow [{ plainNode "exec" "mcp.exec" none with metadata := metadata }]

end Sample

theorem mcp_declared_tool : McpDeclared (Sample.mcpFlow
    (some (.object [("tool", .string "search"), ("action", .string "run")]))) := by
  refine (mcp_declared_iff _ false (by decide)).mpr ?_
  intro node hnode _
  rw [List.mem_singleton.mp hnode]
  exact Option.some_ne_none _

/-- An `mcp.` node without metadata is accepted. -/
theorem undeclared_mcp_accepted :
    validateFlow (Sample.mcpFlow none) false = .ok () ∧ ¬ McpDeclared (Sample.mcpFlow none) := by
  refine ⟨by decide, fun h => ?_⟩
  obtain ⟨metadata, hsome, _⟩ := h _ (List.mem_singleton_self _) (by decide)
  cases hsome

end GreenticConformance.FlowSuite
