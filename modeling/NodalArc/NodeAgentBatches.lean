import NodalArc.Actuation

/-! The batch plans of the Scheduler's commands: which interface entries a LinkDown, a LinkUp, a
delay change or an inventory sends for a pair, and to which agent. -/

namespace NodalArc.NodeAgentBatches

open OrderedDict
open GroundPolicy
open LinkRecord
open ContactDrain
open DispatchPlanner
open Actuation

/-- What the resolved session fixes for the Scheduler. -/
structure SchedulerConfig where
  mbbDispatch : Bool
  gsCapacities : Capacities
  satCapacities : Capacities
  gsHandoverModes : Dict NodeId HandoverMode
  /-- The long-delay pairs, each with the resolver's bound on its one-way delay. -/
  longDelayBoundsS : Dict Pair ℚ
  /-- The interfaces of the fixed links. -/
  interfaceMap : Dict Pair (String × String)
  /-- The terminals whose rates the session names. -/
  interfaceRates : List Terminal
  agentAddr : NodeId → AgentAddr
  linkLocality : NodeId → NodeId → Locality
  maxLatencyAgeS : ℚ

/-- What the Scheduler reads from outside during a run: the reply to each request, each reading of
its monotonic clock, and whether a pair's delays can be compensated with the measured substrate. -/
structure Surroundings where
  agents : Nat → Request → Reply
  clock : Nat → ℚ
  compensable : Pair → ℚ × ℚ → Bool

variable (config : SchedulerConfig)

def SchedulerConfig.locality (pair : Pair) : Locality := config.linkLocality pair.1 pair.2

/-- One end a command acts on: the agent it goes to, the end and the end it faces. -/
structure PlannedEnd where
  agent : AgentAddr
  own : Terminal
  peer : Terminal

def requiredGroundEndpoints (pair : Pair) (info : LinkInfo) :
    Except SchedulerError GroundEndpoints :=
  match groundEndpoints pair info config.gsCapacities with
  | some endpoints => .ok endpoints
  | none => .error (.groundLinkWithoutStation pair)

/-- The ends of a link in the order its commands name them.  A local ground link between pods of
one server has one entry, at the station's end and sent to the satellite's agent. -/
def linkEnds (pair : Pair) (info : LinkInfo) : Except SchedulerError (List PlannedEnd) :=
  let endA := (pair.1, info.interfaceA)
  let endB := (pair.2, info.interfaceB)
  match info.linkType with
  | .isl => .ok [⟨config.agentAddr pair.1, endA, endB⟩, ⟨config.agentAddr pair.2, endB, endA⟩]
  | .ground => do
      let ⟨gsId, satId, gsIface, satIface⟩ ← requiredGroundEndpoints config pair info
      let gs := (gsId, gsIface)
      let sat := (satId, satIface)
      if info.contact ≠ none then
        return [⟨config.agentAddr gsId, gs, sat⟩, ⟨config.agentAddr satId, sat, gs⟩]
      else if config.locality pair = .sameNode then
        return [⟨config.agentAddr satId, gs, sat⟩]
      else
        return [⟨config.agentAddr satId, sat, gs⟩, ⟨config.agentAddr gsId, gs, sat⟩]

def PlannedEnd.entry (planned : PlannedEnd) (pair : Pair) (info : LinkInfo)
    (contactId : Option Contact) : AgentAddr × Entry :=
  (planned.agent,
    { pair
      nodeId := planned.own.1
      interface := planned.own.2
      peerNodeId := planned.peer.1
      peerInterface := planned.peer.2
      linkType := info.linkType
      locality := config.locality pair
      contactId })

/-- The ends a stage names, by pair; a pair without an entry names none. -/
abbrev NamedEnds := Dict Pair (List NodeId)

/-- The contact a LinkDown entry names: none on a local link; the given one where a restarted
Scheduler found the end carrying another, else the one the record says the end carries. -/
def downContactId (contactIds : Dict Terminal Contact) (info : ActiveLinkInfo)
    (terminal : Terminal) : Option Contact :=
  match info.contact with
  | none => none
  | some _ =>
      match contactIds.get? terminal with
      | some contact => some contact
      | none => info.endContact? terminal.1

def checkDownStage (stage : Stage) (ends : NamedEnds) (pair : Pair) (info : ActiveLinkInfo) :
    Except SchedulerError Unit :=
  if info.contact = none then
    if stage ≠ .close then .error (.localLinkHasNoAdmissionStage pair)
    else if pair ∈ ends then .error (.localLinkClosesBothEnds pair)
    else .ok ()
  else if stage = .close ∧ pair ∉ ends then .error (.closeNamesNoEnd pair)
  else .ok ()

def linkDownEntries (stage : Stage) (ends : NamedEnds) (contactIds : Dict Terminal Contact)
    (pair : Pair) (info : ActiveLinkInfo) : Except SchedulerError BatchPlan := do
  checkDownStage stage ends pair info
  let planned ← linkEnds config pair info.toLinkInfo
  let selected := match ends.get? pair with
    | none => planned
    | some closing => planned.filter fun e => e.own.1 ∈ closing
  return selected.map fun e =>
    e.entry config pair info.toLinkInfo (downContactId contactIds info e.own)

/-- Missing actual links are ignored because there is nothing to remove. -/
def buildLinkDownBatchPlan (stage : Stage) (ends : NamedEnds)
    (contactIds : Dict Terminal Contact) (links : Dict Pair ActiveLinkInfo) (pairs : List Pair) :
    Except SchedulerError BatchPlan := do
  let plans ← pairs.mapM fun pair =>
    match links.get? pair with
    | none => .ok []
    | some info => linkDownEntries config stage ends contactIds pair info
  return plans.flatten

def requireRates (pair : Pair) (info : LinkInfo) : Except SchedulerError Unit :=
  forM (endTerminals pair info) fun terminal =>
    if terminal ∈ config.interfaceRates then .ok ()
    else .error (.missingTerminalRates terminal)

def requireCompensation (surroundings : Surroundings) (pair : Pair) (info : LinkInfo) :
    Except SchedulerError Unit :=
  if surroundings.compensable pair (info.latencyAToBMs, info.latencyBToAMs) then .ok ()
  else .error (.unrepresentableLatency pair)

def linkUpEntries (surroundings : Surroundings) (stage : Stage) (pair : Pair) (info : LinkInfo) :
    Except SchedulerError BatchPlan := do
  if info.contact = none ∧ stage ≠ .open then throw (.localLinkHasNoPrepare pair)
  requireCompensation surroundings pair info
  let planned ← linkEnds config pair info
  requireRates config pair info
  return planned.map fun e => e.entry config pair info info.contact

def buildLinkUpBatchPlan (surroundings : Surroundings) (stage : Stage)
    (desired : Dict Pair LinkInfo) (pairs : List Pair) : Except SchedulerError BatchPlan := do
  let plans ← pairs.mapM fun pair =>
    match desired.get? pair with
    | none => .error (.missingDesiredPair pair)
    | some info => linkUpEntries config surroundings stage pair info
  return plans.flatten

/-- The entries of the given pairs in a plan: the OPEN of contacts both of whose ends PREPARE
proved goes to the prepared entries. -/
def restageLinkUpPlan (plan : BatchPlan) (pairs : List Pair) : BatchPlan :=
  plan.filter fun planned => (planned.1, planned.2.terminal) ∈ pairs.flatMap (expectedAcks plan)

/-- Refuse actuation based on stale or missing geometry. -/
def validateAuthorityFreshness (simTime : ℚ) (pair : Pair) (info : LinkInfo) :
    Except SchedulerError Unit :=
  match info.authoritySimTime, info.authoritySource with
  | some authority, some _ =>
      if simTime - authority < -(1 / 1000000000) then .error (.futureGeometry pair)
      else if 1 / 1000000000 < simTime - authority - config.maxLatencyAgeS then
        .error (.staleGeometry pair)
      else .ok ()
  | _, _ => .error (.untraceableGeometry pair)

/-- The ends of a delay change: a ground link names the satellite's end first. -/
def latencyEnds (pair : Pair) (info : LinkInfo) : Except SchedulerError (List PlannedEnd) :=
  match info.linkType with
  | .isl => linkEnds config pair info
  | .ground => do
      let ⟨gsId, satId, gsIface, satIface⟩ ← requiredGroundEndpoints config pair info
      let gs := (gsId, gsIface)
      let sat := (satId, satIface)
      let gsAgent := if config.locality pair = .sameNode then config.agentAddr satId
        else config.agentAddr gsId
      return [⟨config.agentAddr satId, sat, gs⟩, ⟨gsAgent, gs, sat⟩]

def latencyEntries (surroundings : Surroundings) (simTime : ℚ) (pair : Pair) (info : LinkInfo) :
    Except SchedulerError BatchPlan := do
  validateAuthorityFreshness config simTime pair info
  requireCompensation surroundings pair info
  let planned ← latencyEnds config pair info
  requireRates config pair info
  return planned.map fun e => e.entry config pair info info.contact

/-- Inventory entries proving the named ends of a long-delay contact. -/
def longDelayInventoryEntries (pair : Pair) (info : ActiveLinkInfo) (nodeIds : List NodeId) :
    Except SchedulerError BatchPlan := do
  let endA := (pair.1, info.interfaceA)
  let endB := (pair.2, info.interfaceB)
  let _ ← info.endContactId pair.1
  if info.linkType = .ground then let _ ← requiredGroundEndpoints config pair info.toLinkInfo
  let named := [⟨config.agentAddr pair.1, endA, endB⟩, ⟨config.agentAddr pair.2, endB, endA⟩].filter
    fun e : PlannedEnd => e.own.1 ∈ nodeIds
  if named ≠ [] then requireRates config pair info.toLinkInfo
  return named.map fun e =>
    (e.entry config pair info.toLinkInfo (info.endContact? e.own.1)).map id (Entry.expecting true)

end NodalArc.NodeAgentBatches
