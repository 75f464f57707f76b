import GreenticConformance.Checks.Firsts
import GreenticConformance.Host.Codecs
import GreenticConformance.Host.Error
import GreenticConformance.Host.Text

/-!
# Event flows

`events_suite.rs`: providers of events, flows that name them, how both are written and
read, and their checks. Of the providers a check of a flow sees the set of their names.

## Main definitions

- `EventProvider`, `EventFlow`, with `members` and a codec each
- `validateEventFlow`, `validateProvider`, `validateSubscriptionLifecycle`

## Main results

- `eventFlow_robust`, `eventProvider_robust` — both are read back from every form of them
- `eventFlow_checked` — what a flow is accepted or refused for
-/

namespace GreenticConformance.EventsSuite

open Checks Host Serde

/-! ## Documents -/

structure EventProvider where
  name : String
  kind : String
  topics : List String
  metadata : Json

structure EventFlowNode where
  id : String
  kind : String
  provider : Option String
  topic : Option String

structure EventFlow where
  id : String
  nodes : List EventFlowNode

structure SubscriptionLifecycle where
  add : String
  update : String
  delete : String

def EventProvider.members (provider : EventProvider) : List (String × Json) :=
  [("name", stringCodec.write provider.name), ("kind", stringCodec.write provider.kind),
    ("topics", (listCodec stringCodec).write provider.topics),
    ("metadata", valueCodec.write provider.metadata)]

def eventProviderReader : Reader Json EventProvider :=
  .field (required "name" stringCodec []) fun name =>
  .field (required "kind" stringCodec []) fun kind =>
  .field (defaulted "topics" (listCodec stringCodec) []) fun topics =>
  .field (defaulted "metadata" valueCodec .null) fun metadata =>
  .done { name, kind, topics, metadata }

def eventProviderCodec : Codec Json EventProvider :=
  structCodec EventProvider.members eventProviderReader

def EventFlowNode.members (node : EventFlowNode) : List (String × Json) :=
  [("id", stringCodec.write node.id), ("kind", stringCodec.write node.kind),
    ("provider", (optionCodec stringCodec).write node.provider),
    ("topic", (optionCodec stringCodec).write node.topic)]

def eventFlowNodeReader : Reader Json EventFlowNode :=
  .field (required "id" stringCodec []) fun id =>
  .field (required "kind" stringCodec ["type"]) fun kind =>
  .field (optional "provider" stringCodec) fun provider =>
  .field (optional "topic" stringCodec) fun topic =>
  .done { id, kind, provider, topic }

def eventFlowNodeCodec : Codec Json EventFlowNode :=
  structCodec EventFlowNode.members eventFlowNodeReader

def EventFlow.members (flow : EventFlow) : List (String × Json) :=
  [("id", stringCodec.write flow.id), ("nodes", (listCodec eventFlowNodeCodec).write flow.nodes)]

def eventFlowReader : Reader Json EventFlow :=
  .field (required "id" stringCodec []) fun id =>
  .field (required "nodes" (listCodec eventFlowNodeCodec) []) fun nodes =>
  .done { id, nodes }

def eventFlowCodec : Codec Json EventFlow := structCodec EventFlow.members eventFlowReader

/-! ## Checks -/

section Checks

variable (flow : EventFlow) (providerSet : Finset String)

/-- The body of the loop over the nodes. -/
def validateNode (node : EventFlowNode) : Except Error Unit := do
  failIf (isBlank node.id) (anyhow s!"event flow '{flow.id}' contains node with empty id")
  failIf (startsWith node.kind "event." = false)
    (anyhow s!"event flow '{flow.id}' node '{node.id}' must be event.* kind")
  let providerName ← okOr node.provider
    (anyhow s!"event flow '{flow.id}' node '{node.id}' missing provider reference")
  failIf (providerName ∉ providerSet) (anyhow <|
    s!"event flow '{flow.id}' node '{node.id}' references unknown provider '{providerName}'")
  failIf (isBlank (node.topic.getD ""))
    (anyhow s!"event flow '{flow.id}' node '{node.id}' must declare topic/stream")

def validateEventFlow (providers : List EventProvider) : Except Error Unit := do
  failIf (isBlank flow.id) (anyhow "event flow id must not be empty")
  failIf flow.nodes.isEmpty (anyhow s!"event flow '{flow.id}' must have at least one node")
  flow.nodes.forM (validateNode flow (providers.map EventProvider.name).toFinset)

end Checks

def validateSubscriptionLifecycle (lifecycle : SubscriptionLifecycle) : Except Error Unit := do
  failIf (isBlank lifecycle.add)
    (anyhow "subscription lifecycle missing add_subscription handler")
  failIf (isBlank lifecycle.update)
    (anyhow "subscription lifecycle missing update_subscription handler")
  failIf (isBlank lifecycle.delete)
    (anyhow "subscription lifecycle missing delete_subscription handler")

def validateProvider (provider : EventProvider) : Except Error Unit := do
  failIf (isBlank provider.name) (anyhow "provider name must not be empty")
  failIf (isBlank provider.kind) (anyhow "provider kind must not be empty")

/-! ## Reading back -/

theorem topics_good : (defaulted "topics" (listCodec stringCodec) []).Good :=
  defaulted_good (listCodec_stable stringCodec_stable) rfl

theorem metadata_good : (defaulted "metadata" valueCodec .null).Good :=
  defaulted_good valueCodec_stable rfl

theorem eventProvider_agrees : Agrees EventProvider.members
    [["name"], ["kind"], ["topics"], ["metadata"]] eventProviderReader [] :=
  .field (required_good stringCodec_stable) fun _ =>
  .field (required_good stringCodec_stable) fun _ =>
  .field topics_good fun _ =>
  .field metadata_good fun _ =>
  .done rfl

theorem eventProvider_robust (provider : EventProvider) :
    Robust eventProviderCodec EventProvider.members
      [["name"], ["kind"], ["topics"], ["metadata"]] provider := by
  refine (structCodec_robust_iff eventProvider_agrees (by decide)).1.mpr ?_
  refine (structCodec_roundTrips eventProvider_agrees (by decide)).mpr ?_
  simp only [eventProviderReader, exists_written_field, exists_written_done]
  exact ⟨provider.name, rfl, provider.kind, rfl, provider.topics, strings_roundTrips _,
    provider.metadata, rfl, rfl⟩

theorem eventFlowNode_agrees : Agrees EventFlowNode.members
    [["id"], ["kind", "type"], ["provider"], ["topic"]] eventFlowNodeReader [] :=
  .field (required_good stringCodec_stable) fun _ =>
  .field (required_good stringCodec_stable) fun _ =>
  .field (optional_good stringCodec_stable stringCodec_shows) fun _ =>
  .field (optional_good stringCodec_stable stringCodec_shows) fun _ =>
  .done rfl

theorem eventFlowNodeCodec_roundTrips (node : EventFlowNode) :
    eventFlowNodeCodec.RoundTrips node := by
  refine (structCodec_roundTrips eventFlowNode_agrees (by decide)).mpr ?_
  simp only [eventFlowNodeReader, exists_written_field, exists_written_done]
  exact ⟨node.id, rfl, node.kind, rfl, node.provider, optionalString_roundTrips _, node.topic,
    optionalString_roundTrips _, rfl⟩

theorem eventFlow_agrees : Agrees EventFlow.members [["id"], ["nodes"]] eventFlowReader [] :=
  .field (required_good stringCodec_stable) fun _ =>
  .field (required_good (listCodec_stable fun _ node _ => eventFlowNodeCodec_roundTrips node))
    fun _ =>
  .done rfl

theorem eventFlow_robust (flow : EventFlow) :
    Robust eventFlowCodec EventFlow.members [["id"], ["nodes"]] flow := by
  have hnodes : (listCodec eventFlowNodeCodec).RoundTrips flow.nodes :=
    listCodec_roundTrips.mpr fun node _ => eventFlowNodeCodec_roundTrips node
  refine (structCodec_robust_iff eventFlow_agrees (by decide)).1.mpr ?_
  refine (structCodec_roundTrips eventFlow_agrees (by decide)).mpr ?_
  simp only [eventFlowReader, exists_written_field, exists_written_done]
  exact ⟨flow.id, rfl, flow.nodes, hnodes, rfl⟩

/-! ## What a flow is accepted for -/

/-- What every node has to satisfy by itself. -/
structure NodeOk (providerSet : Finset String) (node : EventFlowNode) : Prop where
  id : isBlank node.id = false
  kind : startsWith node.kind "event." = true
  provider : ∃ name ∈ providerSet, node.provider = some name
  topic : ∃ topic, node.topic = some topic ∧ isBlank topic = false

structure FlowOk (flow : EventFlow) (providers : List EventProvider) : Prop where
  id : isBlank flow.id = false
  nonempty : flow.nodes ≠ []
  nodes : ∀ node ∈ flow.nodes, NodeOk (providers.map EventProvider.name).toFinset node

variable {flow : EventFlow} {providers providers' : List EventProvider}
variable {providerSet : Finset String} {node : EventFlowNode} {e : Error}

theorem validateNode_eq_ok : validateNode flow providerSet node = .ok () ↔
    NodeOk providerSet node := by
  have htopic : isBlank (node.topic.getD "") = false ↔
      ∃ topic, node.topic = some topic ∧ isBlank topic = false := by
    cases node.topic with
    | none => exact iff_of_false (by decide) nofun
    | some topic => simp
  simp only [validateNode, bind_eq_ok, exists_unit, failIf_eq_ok, okOr_eq_ok, Bool.not_eq_true,
    Bool.not_eq_false, not_not, htopic]
  constructor
  · rintro ⟨hid, hkind, name, hname, hmem, htopic⟩
    exact ⟨hid, hkind, ⟨name, hmem, hname⟩, htopic⟩
  · rintro ⟨hid, hkind, ⟨name, hmem, hname⟩, htopic⟩
    exact ⟨hid, hkind, name, hname, hmem, htopic⟩

theorem validateEventFlow_eq_ok :
    validateEventFlow flow providers = .ok () ↔ FlowOk flow providers := by
  simp only [validateEventFlow, bind_eq_ok, exists_unit, failIf_eq_ok, forM_eq_ok,
    validateNode_eq_ok, Bool.not_eq_true, List.isEmpty_eq_false_iff]
  constructor
  · rintro ⟨hid, hnonempty, hnodes⟩
    exact ⟨hid, hnonempty, hnodes⟩
  · rintro ⟨hid, hnonempty, hnodes⟩
    exact ⟨hid, hnonempty, hnodes⟩

/-- The flow is refused with this error: it has no id or no nodes, or the error is that of
the first node that is not in order. -/
def RefusedWith (flow : EventFlow) (providers : List EventProvider) (e : Error) : Prop :=
  isBlank flow.id = true ∧ anyhow "event flow id must not be empty" = e ∨
  isBlank flow.id = false ∧ flow.nodes = [] ∧
    anyhow s!"event flow '{flow.id}' must have at least one node" = e ∨
  isBlank flow.id = false ∧
    FirstFailure (validateNode flow (providers.map EventProvider.name).toFinset) flow.nodes e

theorem validateEventFlow_eq_error :
    validateEventFlow flow providers = .error e ↔ RefusedWith flow providers e := by
  simp only [validateEventFlow, bind_eq_error, exists_unit, failIf_eq_error, failIf_eq_ok,
    forM_eq_error, Bool.not_eq_true, List.isEmpty_iff, RefusedWith]
  constructor
  · rintro (hblank | ⟨hid, hempty | ⟨-, hfirst⟩⟩)
    · exact .inl hblank
    · exact .inr (.inl ⟨hid, hempty⟩)
    · exact .inr (.inr ⟨hid, hfirst⟩)
  · rintro (hblank | ⟨hid, hempty⟩ | ⟨hid, hfirst⟩)
    · exact .inl hblank
    · exact .inr ⟨hid, .inl hempty⟩
    · refine .inr ⟨hid, .inr ⟨?_, hfirst⟩⟩
      intro hempty
      rw [hempty] at hfirst
      exact firstFailure_nil hfirst

/-- With nodes in it, a flow is checked like its nodes one after the other. -/
theorem validateEventFlow_eq_forM (h : flow.nodes ≠ []) :
    validateEventFlow flow providers =
      (failIf (isBlank flow.id) (anyhow "event flow id must not be empty") >>= fun _ =>
        flow.nodes.forM (validateNode flow (providers.map EventProvider.name).toFinset)) := by
  have hnonempty : ¬ flow.nodes.isEmpty = true := by rwa [List.isEmpty_iff]
  have hpass : failIf (flow.nodes.isEmpty = true)
      (anyhow s!"event flow '{flow.id}' must have at least one node") = .ok () :=
    failIf_eq_ok.mpr hnonempty
  rw [validateEventFlow, hpass]
  rfl

/-- **Event flows**: a flow is accepted if its id and nodes are in order, and refused with
the first failure. Nothing but the names of the providers is looked at, and the nodes can be
checked in parts. -/
theorem eventFlow_checked (flow : EventFlow) (providers : List EventProvider) :
    (validateEventFlow flow providers = .ok () ↔ FlowOk flow providers) ∧
    (∀ e, validateEventFlow flow providers = .error e ↔ RefusedWith flow providers e) ∧
    (∀ providers', (∀ name, name ∈ providers.map EventProvider.name ↔
        name ∈ providers'.map EventProvider.name) →
      validateEventFlow flow providers' = validateEventFlow flow providers) ∧
    ∀ first rest, first ≠ [] → rest ≠ [] → flow.nodes = first ++ rest →
      validateEventFlow flow providers =
        (validateEventFlow { flow with nodes := first } providers >>= fun _ =>
          validateEventFlow { flow with nodes := rest } providers) := by
  refine ⟨validateEventFlow_eq_ok, fun _ => validateEventFlow_eq_error, ?_, ?_⟩
  · intro providers' hnames
    have hset : (providers'.map EventProvider.name).toFinset =
        (providers.map EventProvider.name).toFinset := by
      ext name
      rw [List.mem_toFinset, List.mem_toFinset]
      exact (hnames name).symm
    rw [validateEventFlow, validateEventFlow, hset]
  · intro first rest hfirst hrest hnodes
    have hflow : flow.nodes ≠ [] := by simp [hnodes, hfirst]
    rw [validateEventFlow_eq_forM hflow, validateEventFlow_eq_forM hfirst,
      validateEventFlow_eq_forM hrest, hnodes]
    by_cases hblank : isBlank flow.id = true
    · simp only [failIf, hblank, if_true, error_bind]
    · simp only [failIf, hblank]
      exact List.forM_append

end GreenticConformance.EventsSuite
