import NodalArc.NodeAgentBatches

/-! The Scheduler's state and its side effects: commands to the Node Agents, readings of the
monotonic clock and published link events, each kept in a log, newest first.  A command in the log
remembers its replies and the link records and counters the Scheduler held when it was sent. -/

namespace NodalArc.DispatchActuator

open OrderedDict
open GroundPolicy
open LinkRecord
open ContactDrain
open DispatchPlanner
open Actuation
open NodeAgentBatches
open StatefulProgram
open StatefulProgram.Program

inductive ActuationState
  | clean
  | actuationBlocked
  | kernelDirty
deriving DecidableEq, Repr

/-- What the Scheduler believes about a station's kernel state. -/
structure GroundActuationState where
  state : ActuationState := .clean
  activeInterventionId : Option String := none
deriving DecidableEq

structure SentCommand where
  operation : Operation
  stage : Option Stage
  requested : List Pair
  linkType : Pair → Option LinkType
  plan : BatchPlan
  exchanges : List Exchange
  /-- Why the ends a CLOSE names end; empty for every other command. -/
  causes : List (Pair × EndCloseCause)
  heldActual : Dict Pair ActiveLinkInfo
  heldOverlapping : Dict (Pair × Contact) ActiveLinkInfo
  heldGsCount : NodeId → Nat
  heldSatCount : NodeId → Nat

inductive Event
  | clockRead (nowMono : ℚ)
  | command (sent : SentCommand)
  | linkUp (pair : Pair) (contact : Option Contact)
  | linkDown (pair : Pair) (contact : Option Contact) (reason : String)
      (losses : List LinkEndLoss)
  | latencyUpdate (pair : Pair)

/-- The Scheduler's link state.  `stageLosses` is what each link object accumulated, by object and
end; `requests` and `readings` count the requests sent and the clock readings taken so far. -/
structure Scheduler where
  actualLinks : Dict Pair ActiveLinkInfo
  overlapping : Dict (Pair × Contact) ActiveLinkInfo
  gsActiveCount : NodeId → Nat
  satActiveCount : NodeId → Nat
  gsActuation : NodeId → GroundActuationState
  lastSnapshotEpochId : Nat
  stageLosses : Nat → Dict NodeId StageLoss
  requests : Nat
  readings : Nat
  log : List Event

abbrev SchedulerM := Program SchedulerError Scheduler

def publish (event : Event) : SchedulerM Unit :=
  modify fun s => { s with log := event :: s.log }

variable (config : SchedulerConfig) (surroundings : Surroundings)

def monotonic : SchedulerM ℚ := do
  let s ← get
  let now := surroundings.clock s.readings
  set { s with readings := s.readings + 1, log := .clockRead now :: s.log }
  return now

def sortedSet (pairs : List Pair) : List Pair := sortedPairs pairs.dedup

/-- What a command asks for besides its entries: the pairs it is judged on, their link types, and
why the ends it closes end. -/
structure CommandFrame where
  operation : Operation
  stage : Option Stage
  requested : List Pair
  linkType : Pair → Option LinkType
  causes : List (Pair × EndCloseCause)

/-- The replies to a command whose first request is number `first`. -/
def exchangesOf (first : Nat) (frame : CommandFrame) (plan : BatchPlan) : List Exchange :=
  (planRequests frame.operation frame.stage plan).zipIdx.map fun request =>
    { request := request.1, reply := surroundings.agents (first + request.2) request.1 }

def stationOf (linkType : Pair → Option LinkType) (pair : Pair) : Option NodeId :=
  if linkType pair = some .ground then gsIdForPair pair config.gsCapacities else none

def commandResult (frame : CommandFrame) (plan : BatchPlan) (exchanges : List Exchange) :
    ActuationResult :=
  buildActuationResult frame.operation frame.requested plan frame.linkType
    (stationOf config frame.linkType) (agentResults plan exchanges)

def sendCommand (frame : CommandFrame) (plan : BatchPlan) : SchedulerM ActuationResult := do
  let s ← get
  let exchanges := exchangesOf surroundings s.requests frame plan
  set { s with
    requests := s.requests + exchanges.length
    log := .command {
      operation := frame.operation, stage := frame.stage, requested := frame.requested
      linkType := frame.linkType, plan, exchanges, causes := frame.causes
      heldActual := s.actualLinks, heldOverlapping := s.overlapping
      heldGsCount := s.gsActiveCount, heldSatCount := s.satActiveCount } :: s.log }
  return commandResult config frame plan exchanges

/-! ### Losses -/

/-- What a long-delay end reported at OPEN or STOP.  Each stage reports only its own counts. -/
def stageLoss (stage : Stage) (terminal : Terminal) (counts : EndLossCounts) :
    Except SchedulerError StageLoss :=
  match stage with
  | .open =>
      if counts.queueDropped = 0 ∧ counts.discardedAtClose = 0 ∧
          counts.untransmittedAtStop = 0 ∧ counts.transmitDropped = 0 then
        .ok { refusedBeforeOpen := counts.admissionTaken }
      else .error (.unexpectedStageCounts terminal)
  | .stopAdmission =>
      if counts.admissionTaken = 0 ∧ counts.queueDropped = 0 ∧ counts.discardedAtClose = 0 then
        .ok { untransmittedAtStop := counts.untransmittedAtStop
              transmitDropped := counts.transmitDropped }
      else .error (.unexpectedStageCounts terminal)
  | .prepare | .close => .error (.unexpectedStageCounts terminal)

/-- What the ends of a pair reported in a result, in the order of the ends' names. -/
def pairLosses (result : ActuationResult) (pair : Pair) (info : LinkInfo) :
    List (Terminal × EndLossCounts) :=
  (result.endLosses.entries.insertionSort fun x y => pairLe x.1 y.1).filter fun reported =>
    reported.1 ∈ endTerminals pair info

def Scheduler.stageLossOf (s : Scheduler) (info : LinkInfo) (nodeId : NodeId) : StageLoss :=
  (s.stageLosses info.objectId).getD nodeId {}

def Scheduler.addStageLoss (s : Scheduler) (info : LinkInfo) (nodeId : NodeId)
    (reported : StageLoss) : Scheduler :=
  let accumulated := (s.stageLosses info.objectId).insert nodeId
    ((s.stageLossOf info nodeId).plus reported)
  { s with stageLosses := Function.update s.stageLosses info.objectId accumulated }

/-- Keep what each end of a pair reported at its contact's OPEN or STOP on the contact's record. -/
def recordStageLosses (result : ActuationResult) (pair : Pair) (info : LinkInfo)
    (stage : Stage) : SchedulerM Unit :=
  forM (pairLosses result pair info) fun reported => do
    let loss ← lift (stageLoss stage reported.1 reported.2)
    modify fun s => s.addStageLoss info reported.1.1 loss

/-- The loss of an end that closed or reopened: its counts and what it reported at the contact's
OPEN and STOP. -/
def endLossRecord (stage : StageLoss) (cause : EndCloseCause)
    (reported : Terminal × EndLossCounts) : LinkEndLoss where
  nodeId := reported.1.1
  interface := reported.1.2
  cause := cause
  refusedBeforeOpen := stage.refusedBeforeOpen
  untransmittedAtStop := stage.untransmittedAtStop + reported.2.untransmittedAtStop
  admissionTaken := reported.2.admissionTaken
  transmitDropped := stage.transmitDropped + reported.2.transmitDropped
  queueDropped := reported.2.queueDropped
  discardedAtClose := reported.2.discardedAtClose
  discardedExact := reported.2.discardedExact

def Scheduler.endLossRecords (s : Scheduler) (result : ActuationResult) (pair : Pair)
    (info : LinkInfo) (cause : EndCloseCause) : List LinkEndLoss :=
  (pairLosses result pair info).map fun reported =>
    endLossRecord (s.stageLossOf info reported.1.1) cause reported

/-- The loss of each end that reported at OPEN or STOP but neither closed nor reported again when
its next contact was prepared. -/
def Scheduler.stageOnlyRecords (s : Scheduler) (pair : Pair) (info : LinkInfo)
    (reported : List NodeId) (cause : EndCloseCause) : List LinkEndLoss :=
  (((s.stageLosses info.objectId).entries.insertionSort fun x y => x.1 ≤ y.1).filter
      fun stage => stage.1 ∉ reported).map fun stage =>
    { nodeId := stage.1
      interface := if stage.1 = pair.1 then info.interfaceA else info.interfaceB
      cause
      refusedBeforeOpen := stage.2.refusedBeforeOpen
      untransmittedAtStop := stage.2.untransmittedAtStop
      admissionTaken := 0
      transmitDropped := stage.2.transmitDropped
      queueDropped := 0
      discardedAtClose := 0
      discardedExact := true }

/-! ### Commands -/

def linkTypesOf (links : Dict Pair ActiveLinkInfo) (pair : Pair) : Option LinkType :=
  (links.get? pair).map fun info => info.linkType

def desiredLinkTypes (desired : Dict Pair LinkInfo) (pair : Pair) : Option LinkType :=
  (desired.get? pair).map LinkInfo.linkType

def lookupDesired (desired : Dict Pair LinkInfo) (pair : Pair) :
    Except SchedulerError LinkInfo :=
  match desired.get? pair with
  | some info => .ok info
  | none => .error (.missingDesiredPair pair)

/-- Which entries of a BatchLinkDown a stage sends, and why the ends it closes end. -/
structure DownStage where
  stage : Stage
  ends : NamedEnds
  contactIds : Dict Terminal Contact
  causes : List (Pair × EndCloseCause)
  downReasons : Dict Pair String

def downFrame (links : Dict Pair ActiveLinkInfo) (pairs : List Pair) (down : DownStage) :
    CommandFrame where
  operation := .batchLinkDown
  stage := some down.stage
  requested := sortedSet pairs
  linkType := linkTypesOf links
  causes := down.causes

/-- Send one stage of a BatchLinkDown.  A local link closes at once and its LinkDown is published
here; a long-delay contact's LinkDown is published when its last end closes. -/
def sendBatchDown (links : Dict Pair ActiveLinkInfo) (pairs : List Pair) (down : DownStage) :
    SchedulerM ActuationResult := do
  let plan ← lift (buildLinkDownBatchPlan config down.stage down.ends down.contactIds links
    (sortedSet pairs))
  let result ← sendCommand config surroundings (downFrame links pairs down) plan
  forM (sortedSet result.succeededPairs) fun pair =>
    match links.get? pair with
    | none => pure ()
    | some info => «when» (info.contact = none) do
        let s ← get
        publish (.linkDown pair none (down.downReasons.getD pair "vis_lost")
          (s.endLossRecords result pair info.toLinkInfo
            (if pair ∈ down.downReasons then .scenario else .endOfContact)))
  return result

def publishLinkUps (desired : Dict Pair LinkInfo) (result : ActuationResult) : SchedulerM Unit :=
  forM (sortedSet result.succeededPairs) fun pair => do
    let info ← lift (lookupDesired desired pair)
    require (info.rangeKm ≠ none) (.missingRange pair)
    publish (.linkUp pair info.contact)

def upFrame (desired : Dict Pair LinkInfo) (stage : Stage) (pairs : List Pair) :
    CommandFrame where
  operation := .batchLinkUp
  stage := some stage
  requested := sortedSet pairs
  linkType := desiredLinkTypes desired
  causes := []

/-- Open local links in one stage and publish LinkUp for each one proven. -/
def sendBatchUp (simTime : ℚ) (desired : Dict Pair LinkInfo) (pairs : List Pair) :
    SchedulerM ActuationResult := do
  forM (sortedSet pairs) fun pair => do
    let info ← lift (lookupDesired desired pair)
    lift (validateAuthorityFreshness config simTime pair info)
  let plan ← lift (buildLinkUpBatchPlan config surroundings .open desired (sortedSet pairs))
  let result ← sendCommand config surroundings (upFrame desired .open pairs) plan
  publishLinkUps desired result
  return result

/-- PREPARE long-delay contacts at both ends.  The plan returned is the one OPEN admits. -/
def prepareLongDelayContacts (simTime : ℚ) (desired : Dict Pair LinkInfo) (pairs : List Pair) :
    SchedulerM (BatchPlan × ActuationResult) := do
  forM (sortedSet pairs) fun pair => do
    let info ← lift (lookupDesired desired pair)
    require (info.contact ≠ none) (.noDesiredContact pair)
    lift (validateAuthorityFreshness config simTime pair info)
  let plan ← lift (buildLinkUpBatchPlan config surroundings .prepare desired (sortedSet pairs))
  let result ← sendCommand config surroundings (upFrame desired .prepare pairs) plan
  return (plan, result)

/-- OPEN contacts both of whose ends PREPARE proved, with the prepared entries. -/
def openPreparedContacts (desired : Dict Pair LinkInfo) (plan : BatchPlan) (pairs : List Pair) :
    SchedulerM ActuationResult := do
  let result ← sendCommand config surroundings (upFrame desired .open pairs)
    (restageLinkUpPlan plan (sortedSet pairs))
  publishLinkUps desired result
  return result

def latencyFrame (desired : Dict Pair LinkInfo) (pairs : List Pair) : CommandFrame where
  operation := .setLatency
  stage := none
  requested := sortedSet pairs
  linkType := desiredLinkTypes desired
  causes := []

def buildLatencyBatchPlan (simTime : ℚ) (desired : Dict Pair LinkInfo) (pairs : List Pair) :
    Except SchedulerError BatchPlan := do
  let plans ← pairs.mapM fun pair => do
    let info ← lookupDesired desired pair
    latencyEntries config surroundings simTime pair info
  return plans.flatten

/-- Apply delay changes to links that are up.  The record becomes the desired one. -/
def sendAuthoritativeLatencyUpdates (simTime : ℚ) (desired : Dict Pair LinkInfo)
    (pairs : List Pair) : SchedulerM ActuationResult := do
  let plan ← lift (buildLatencyBatchPlan config surroundings simTime desired (sortedSet pairs))
  let result ← sendCommand config surroundings (latencyFrame desired pairs) plan
  forM (sortedSet result.succeededPairs) fun pair => do
    let info ← lift (lookupDesired desired pair)
    require (info.rangeKm ≠ none) (.missingRange pair)
    publish (.latencyUpdate pair)
  forM result.succeededPairs fun pair => do
    let info ← lift (lookupDesired desired pair)
    modify fun s => { s with actualLinks := s.actualLinks.insert pair info.activate }
  return result

def inventoryFrame (links : Dict Pair ActiveLinkInfo) (ends : List (Pair × List NodeId)) :
    CommandFrame where
  operation := .kernelInventory
  stage := none
  requested := ends.map Prod.fst
  linkType := linkTypesOf links
  causes := []

def buildInventoryPlan (links : Dict Pair ActiveLinkInfo) (ends : List (Pair × List NodeId)) :
    Except SchedulerError BatchPlan := do
  let plans ← ends.mapM fun named =>
    match links.get? named.1 with
    | none => .error (.keyError named.1.1)
    | some info => longDelayInventoryEntries config named.1 info named.2
  return inAgentOrder plans.flatten

/-- Read-only proof of long-delay contact ends in the stage the Scheduler holds them in. -/
def verifyLongDelayEnds (links : Dict Pair ActiveLinkInfo) (ends : List (Pair × List NodeId)) :
    SchedulerM ActuationResult := do
  let plan ← lift (buildInventoryPlan config links ends)
  sendCommand config surroundings (inventoryFrame links ends) plan

end NodalArc.DispatchActuator
