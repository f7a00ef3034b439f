import NodalArc.SchedulerRuns

/-! What the Scheduler remembers of a ground station it no longer trusts, and the two ways back to
clean: a read-only proof of the station's kernel, and an operator's repair. -/

namespace NodalArc.GroundRecovery

open OrderedDict
open GroundPolicy
open LinkRecord
open ContactDrain
open DispatchPlanner
open Actuation
open NodeAgentBatches
open DispatchActuator
open Reconcile
open StatefulProgram
open StatefulProgram.Program

variable {actual stale : Dict Pair ActiveLinkInfo} {desired : Dict Pair LinkInfo}
  {pairs : List Pair} {gsId : NodeId}

/-- The desired links as the Decision Engine holds them at one moment: all of them, and those no
override withholds. -/
structure DesiredView where
  desiredLinks : Dict Pair LinkInfo
  effective : Dict Pair LinkInfo

/-- The Scheduler with its memory of untrusted stations: the links that may still be in a kernel,
and for each station those of them it did not want when it was last marked. -/
structure Recovery where
  scheduler : Scheduler
  staleLinkInfos : Dict Pair ActiveLinkInfo
  stalePairs : NodeId → List Pair
  stale_ground : ∀ pair info, staleLinkInfos.get? pair = some info → info.linkType = .ground

abbrev RecoveryM := Program SchedulerError Recovery

def onScheduler {α : Type} (m : SchedulerM α) : RecoveryM α :=
  zoom Recovery.scheduler (fun s r => { r with scheduler := s }) m

@[simp] theorem wp_onScheduler {α : Type} {m : SchedulerM α} {r : Recovery}
    {Q : α → Recovery → Prop} {E : SchedulerError → Recovery → Prop} :
    wp (onScheduler m) r Q E ↔ wp m r.scheduler (fun a s => Q a { r with scheduler := s })
      (fun e s => E e { r with scheduler := s }) := wp_zoom

def setState (gsId : NodeId) (state : GroundActuationState) (r : Recovery) : Recovery :=
  { r with scheduler :=
      { r.scheduler with gsActuation := Function.update r.scheduler.gsActuation gsId state } }

variable (config : SchedulerConfig) (surroundings : Surroundings)

/-! ### The links of a station -/

def OfStation (gsId : NodeId) (pair : Pair) (linkType : LinkType) : Prop :=
  linkType = .ground ∧ gsIdForPair pair config.gsCapacities = some gsId

instance (gsId : NodeId) (pair : Pair) (linkType : LinkType) :
    Decidable (OfStation config gsId pair linkType) := inferInstanceAs (Decidable (_ ∧ _))

def actualGroundPairsForGs (actual : Dict Pair ActiveLinkInfo) (gsId : NodeId) :
    Dict Pair ActiveLinkInfo :=
  actual.filter fun pair info => OfStation config gsId pair info.linkType

def desiredGroundPairsForGs (effective : Dict Pair LinkInfo) (gsId : NodeId) :
    Dict Pair LinkInfo :=
  effective.filter fun pair info => OfStation config gsId pair info.linkType

/-- The link a pair is remembered by: the one held up, else the desired one. -/
def foundInfo? (actual : Dict Pair ActiveLinkInfo) (desired : Dict Pair LinkInfo) (gsId : NodeId)
    (pair : Pair) : Option ActiveLinkInfo :=
  ((actual.get? pair).or ((desired.get? pair).map LinkInfo.activate)).filter fun info =>
    OfStation config gsId pair info.linkType

def recordStaleInfosForGs (actual : Dict Pair ActiveLinkInfo) (desired : Dict Pair LinkInfo)
    (gsId : NodeId) (pairs : List Pair) (stale : Dict Pair ActiveLinkInfo) :
    Dict Pair ActiveLinkInfo :=
  stale.update (.ofList (pairs.filterMap fun pair =>
    (foundInfo? config actual desired gsId pair).map fun info => (pair, info)))

theorem get?_recordStaleInfosForGs {pair : Pair} :
    (recordStaleInfosForGs config actual desired gsId pairs stale).get? pair =
      (if pair ∈ pairs then foundInfo? config actual desired gsId pair else none).or
        (stale.get? pair) := by
  rw [recordStaleInfosForGs, Dict.get?_update, Dict.get?_ofList_filterMap]
  split_ifs <;> rfl

theorem ground_of_recorded
    (hstale : ∀ pair info, stale.get? pair = some info → info.linkType = .ground) (pair : Pair)
    (info : ActiveLinkInfo)
    (h : (recordStaleInfosForGs config actual desired gsId pairs stale).get? pair = some info) :
    info.linkType = .ground := by
  rw [get?_recordStaleInfosForGs, Option.or_eq_some_iff] at h
  rcases h with h | ⟨-, h⟩
  · split_ifs at h
    exact (of_decide_eq_true (Option.filter_eq_some_iff.mp h).2).1
  · exact hstale pair info h

def kernelExpectedDownForGs (actual stale : Dict Pair ActiveLinkInfo) (gsId : NodeId)
    (expectedUp : List Pair) : Dict Pair ActiveLinkInfo :=
  ((actualGroundPairsForGs config actual gsId).filter fun pair _ => pair ∉ expectedUp).update
    (stale.filter fun pair _ =>
      pair ∉ expectedUp ∧ gsIdForPair pair config.gsCapacities = some gsId)

/-! ### Marking a station -/

/-- What is remembered when a station is taken out of clean. -/
def rememberNonclean (actual : Dict Pair ActiveLinkInfo) (view : DesiredView) (gsId : NodeId)
    (affected : List Pair) (r : Recovery) : Recovery :=
  let stale := recordStaleInfosForGs config actual view.desiredLinks gsId
    (affected ++ (actualGroundPairsForGs config actual gsId).keys) r.staleLinkInfos
  { r with
    staleLinkInfos := stale
    stalePairs := Function.update r.stalePairs gsId (kernelExpectedDownForGs config actual stale
      gsId (desiredGroundPairsForGs config view.effective gsId).keys).keys
    stale_ground := ground_of_recorded config r.stale_ground }

def setGsNonclean (view : DesiredView) (gsId : NodeId) (state : ActuationState)
    (interventionId : Option String) (affected : List Pair) : RecoveryM Unit :=
  modify fun r => setState gsId { state, activeInterventionId := interventionId }
    (rememberNonclean config r.scheduler.actualLinks view gsId affected r)

def markGsClean (gsId : NodeId) : RecoveryM Unit :=
  modify fun r => setState gsId {} { r with
    staleLinkInfos := r.staleLinkInfos.filter fun pair _ =>
      gsIdForPair pair config.gsCapacities ≠ some gsId
    stalePairs := Function.update r.stalePairs gsId []
    stale_ground := fun pair info h =>
      r.stale_ground pair info (Dict.get?_filter_eq_some_iff.mp h).1 }

def failedStations (result : ActuationResult) : List NodeId :=
  ((result.pairResults.filter fun r => ¬ r.Success ∧ r.linkType = some .ground).filterMap
    PairActuationResult.gsId).dedup

/-- Handle the result of a repair's command.  The desired links are read at each station in turn,
as they are then. -/
def handleRepairResult (views : NodeId → DesiredView) (interventionId : Option String)
    (result : ActuationResult) : RecoveryM Unit := do
  onScheduler (handleActuationResult result interventionId)
  modify fun r => (failedStations result).foldl (fun r gsId =>
    rememberNonclean config r.scheduler.actualLinks (views gsId) gsId
      ((failuresOfStation result gsId).map PairActuationResult.pair) r) r

/-! ### The proof of a station's kernel -/

/-- The proof of a local pass at both its ends; a pass expected up names its terminals' rates. -/
def groundInventoryEntries (expectedAdminUp : Bool) (pair : Pair) (info : ActiveLinkInfo) :
    Except SchedulerError BatchPlan := do
  let layout : LinkInfo := { info.toLinkInfo with contact := none }
  let planned ← linkEnds config pair layout
  if expectedAdminUp then requireRates config pair layout
  return planned.map fun e =>
    (e.entry config pair layout none).map id (Entry.expecting expectedAdminUp)

/-- The requests that prove a station: those of local passes, and those of long-delay ends. -/
structure GroundInventory where
  localPlan : BatchPlan
  longDelayPlan : BatchPlan

def groundInventoryRequests (gsId : NodeId) (expectedUp expectedDown : Dict Pair ActiveLinkInfo) :
    Except SchedulerError GroundInventory := do
  let ups ← (actualGroundPairsForGs config expectedUp gsId).entries.mapM fun held =>
    if held.2.contact ≠ none then do
      let plan ← longDelayInventoryEntries config held.1 held.2 (remainingEnds held.1 held.2)
      return ({ localPlan := [], longDelayPlan := plan } : GroundInventory)
    else do
      let plan ← groundInventoryEntries config true held.1 held.2
      return { localPlan := plan, longDelayPlan := [] }
  let downs ← (actualGroundPairsForGs config expectedDown gsId).entries.mapM fun held =>
    groundInventoryEntries config false held.1 held.2
  return {
    localPlan := inAgentOrder (ups.flatMap GroundInventory.localPlan ++ downs.flatten)
    longDelayPlan := inAgentOrder (ups.flatMap GroundInventory.longDelayPlan) }

def groundInventoryFrame (requested : List Pair) : CommandFrame where
  operation := .kernelInventory
  stage := none
  requested := requested
  linkType := fun _ => some .ground
  causes := []

/-- An inventory's entries of either class, in the log. -/
def inventorySent (s : Scheduler) (plan : BatchPlan) (exchanges : List Exchange) : Event :=
  .command {
    operation := .kernelInventory, stage := none
    requested := plan.map fun planned => planned.2.pair
    linkType := fun pair => if pair ∈ plan.map fun planned => planned.2.pair then some .ground else none
    plan, exchanges, causes := []
    heldActual := s.actualLinks, heldOverlapping := s.overlapping
    heldGsCount := s.gsActiveCount, heldSatCount := s.satActiveCount }

/-- What the pairs of a proof are judged on: a pair no entry proves is of no station. -/
def inventoryResult (gsId : NodeId) (requested : List Pair) (plan : BatchPlan)
    (results : List AgentCommandResult) : ActuationResult :=
  let planned := fun pair => pair ∈ plan.map fun planned => planned.2.pair
  buildActuationResult .kernelInventory requested plan
    (fun pair => if planned pair then some .ground else none)
    (fun pair => if planned pair then some gsId else none) results

/-- Read-only proof of a station's kernel.  An agent answers for its local passes and for its
long-delay ends on their own. -/
def sendKernelInventory (gsId : NodeId) (expectedUp expectedDown : Dict Pair ActiveLinkInfo) :
    SchedulerM ActuationResult := do
  let inventory ← lift (groundInventoryRequests config gsId expectedUp expectedDown)
  let requested := sortedSet (expectedUp.keys ++ expectedDown.keys)
  let frame := groundInventoryFrame requested
  let s ← get
  let locals := exchangesOf surroundings s.requests frame inventory.localPlan
  let longDelay := exchangesOf surroundings (s.requests + locals.length) frame
    inventory.longDelayPlan
  set { s with
    requests := s.requests + locals.length + longDelay.length
    log := inventorySent s inventory.longDelayPlan longDelay ::
      inventorySent s inventory.localPlan locals :: s.log }
  return inventoryResult gsId requested (inventory.localPlan ++ inventory.longDelayPlan)
    (agentResults inventory.localPlan locals ++ agentResults inventory.longDelayPlan longDelay)

/-- Every failure is an agent that could not be reached: nothing was observed. -/
def TransportOnlyFailure (result : ActuationResult) : Prop :=
  (∃ r ∈ result.agentResults, r.failureClass ≠ .none) ∧
    ∀ r ∈ result.agentResults, r.failureClass ≠ .none → r.failureClass = .agentUnreachable

instance (result : ActuationResult) : Decidable (TransportOnlyFailure result) :=
  inferInstanceAs (Decidable (_ ∧ _))

/-- Prove a station's kernel against what the Scheduler holds up and what it remembers, and trust
the station again if every proof matches. -/
def verifyGsAgainstCurrentAuthority (gsId : NodeId) : RecoveryM Unit := do
  let r ← get
  let expectedUp := actualGroundPairsForGs config r.scheduler.actualLinks gsId
  let expectedDown := kernelExpectedDownForGs config r.scheduler.actualLinks r.staleLinkInfos gsId
    expectedUp.keys
  if expectedUp.entries = [] ∧ expectedDown.entries = [] then markGsClean config gsId
  else do
    let result ← onScheduler
      (sendKernelInventory config surroundings gsId expectedUp expectedDown)
    if TransportOnlyFailure result then
      modify (setState gsId { r.scheduler.gsActuation gsId with activeInterventionId := none })
    else if ¬ result.HasFailures then markGsClean config gsId
    else modify (setState gsId { state := .kernelDirty, activeInterventionId := none })

/-! ### The operator's repair -/

/-- One repair: the station as it was when the repair was asked for, the desired links when it
starts and later, after each number of requests, and the sim time it runs at. -/
structure RepairOrder where
  gsId : NodeId
  interventionId : String
  state : ActuationState
  stalePairs : List Pair
  start : DesiredView
  later : Nat → NodeId → DesiredView
  simTime : ℚ

def RepairOrder.authority (order : RepairOrder) : Dict Pair LinkInfo :=
  desiredGroundPairsForGs config order.start.effective order.gsId

/-- Everything to tear down: the station's links, and the remembered ones it was marked with. -/
def RepairOrder.teardown (order : RepairOrder) (r : Recovery) : Dict Pair ActiveLinkInfo :=
  (Dict.ofList (order.stalePairs.filterMap fun pair =>
    ((r.staleLinkInfos.get? pair).filter fun _ =>
      gsIdForPair pair config.gsCapacities = some order.gsId).map fun info => (pair, info))).update
    (actualGroundPairsForGs config r.scheduler.actualLinks order.gsId)

def RepairOrder.viewsNow (order : RepairOrder) (r : Recovery) : NodeId → DesiredView :=
  order.later r.scheduler.requests

/-- A repair's own proof failed: the station is dirty and the repair gives up. -/
def RepairOrder.requireProof (order : RepairOrder) (result : ActuationResult) :
    RecoveryM Unit :=
  «when» result.HasFailures do
    let r ← get
    setGsNonclean config (order.viewsNow r order.gsId) order.gsId .kernelDirty
      (some order.interventionId) result.failedPairs
    throw .repairProofFailed

def repairDown (pairs : List Pair) : DownStage where
  stage := .close
  ends := ∅
  contactIds := ∅
  causes := []
  downReasons := .ofList (pairs.map fun pair => (pair, "operator_repair"))

/-- LinkDown everything at once, and prove it down. -/
def repairTeardown (order : RepairOrder) (teardown : Dict Pair ActiveLinkInfo) :
    RecoveryM Unit := do
  let r ← get
  let down ← onScheduler (sendBatchDown config surroundings r.scheduler.actualLinks teardown.keys
    (repairDown teardown.keys))
  let r ← get
  handleRepairResult config (order.viewsNow r) (some order.interventionId) down
  onScheduler (forM (sortedSet down.succeededPairs) fun pair => modify (removeActual config pair))
  require (∀ pair ∈ teardown.keys, pair ∈ down.succeededPairs) .repairTeardownFailed
  let proven ← onScheduler (sendKernelInventory config surroundings order.gsId ∅ teardown)
  order.requireProof config proven

def repairRewire (order : RepairOrder) (authority : Dict Pair LinkInfo) : RecoveryM Unit := do
  let up ← onScheduler (sendBatchUp config surroundings order.simTime authority authority.keys)
  let r ← get
  handleRepairResult config (order.viewsNow r) (some order.interventionId) up
  onScheduler (forM (sortedSet up.succeededPairs) fun pair => do
    let info ← lift (lookupDesired authority pair)
    modify (addActual config pair info))
  require (∀ pair ∈ authority.keys, pair ∈ up.succeededPairs) .repairRewireFailed

def repairProof (order : RepairOrder) (authority : Dict Pair LinkInfo) : RecoveryM Unit := do
  let r ← get
  let finalDown := kernelExpectedDownForGs config r.scheduler.actualLinks r.staleLinkInfos
    order.gsId authority.keys
  «when» (authority.entries ≠ [] ∨ finalDown.entries ≠ []) do
    let proven ← onScheduler (sendKernelInventory config surroundings order.gsId
      (authority.mapValues fun _ info => info.activate) finalDown)
    order.requireProof config proven

/-- Reconcile the station to what is desired of it, once. -/
def repairStation (order : RepairOrder) : RecoveryM Unit := do
  modify (setState order.gsId
    { state := order.state, activeInterventionId := some order.interventionId })
  let r ← get
  let authority := order.authority config
  let teardown := order.teardown config r
  «when» (teardown.entries ≠ []) (repairTeardown config surroundings order teardown)
  «when» (authority.entries ≠ []) (repairRewire config surroundings order authority)
  repairProof config surroundings order authority
  markGsClean config order.gsId

/-- A repair that raises leaves its station dirty. -/
def runOperatorRepairLocked (order : RepairOrder) (r : Recovery) : Recovery :=
  match (repairStation config surroundings order).exec r with
  | (.ok (), t) => t
  | (.error _, t) =>
      setState order.gsId { state := .kernelDirty, activeInterventionId := none } t

end NodalArc.GroundRecovery
