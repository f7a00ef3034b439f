import NodalArc.GroundPolicy
import NodalArc.StatefulProgram

/-! The ground-link allocation engine: one tick turns visibility decisions and the previous tick's
associations, teardowns and receive windows into the authoritative terminal allocation.

The function of the source is one body with local mutable collections and closures over them.
Here the collections are the fields of `Allocation`, the inputs that do not change during the tick
are the fields of `AllocationContext`, and each closure keeps its name. -/

namespace NodalArc.GroundAllocator

open OrderedDict
open StatefulProgram
open GroundPolicy

abbrev Indices := Int × Int

structure MbbTeardown where
  startStep : Int
  successorPair : Pair
deriving DecidableEq, Repr

inductive ReleaseCause
  | bbmGap
  | incumbentLost
  | teardownCompleted
  | successorAborted
  | failedSuccessor
  | satCapacity
deriving DecidableEq, Repr

/-- A terminal still receiving from a peer the allocator released. -/
structure ReceiveWindow where
  untilUnix : ℚ
  oldPair : Pair
  releasedBy : ReleaseCause
deriving DecidableEq

inductive EventCategory
  | mbbOverlapStarted
  | teardownCompleted
  | successorAborted
  | failedSuccessor
  | failedAcquire
  | incumbentLost
  | bbmGap
  | retargetedBeforeLastArrival
deriving DecidableEq, Repr

/-- The policy an event is attributed to: its kind and name in one value. -/
inductive EventPolicy
  | handoverMode (mode : HandoverMode)
  | successorAbortPolicy (policy : SuccessorAbortPolicy)
deriving DecidableEq, Repr

structure Retarget where
  terminalNodeId : NodeId
  terminalIndex : Int
  remainingArrivalMs : ℚ
  releasedBy : ReleaseCause
deriving DecidableEq

structure AllocationEvent where
  category : EventCategory
  pair : Pair
  tenantId : String
  referenceBody : SurfaceBody
  successorPair : Option Pair
  challengerPair : Option Pair
  policy : Option EventPolicy
  retarget : Option Retarget
deriving DecidableEq

/-- What the published authority said about a pair before the tick. -/
structure PairAuthority where
  pair : Pair
  scheduled : Bool
  pendingTeardown : Bool
  visible : Bool
  terminalIndices : Option Indices
deriving DecidableEq

structure LifecycleEvent where
  category : EventCategory
  oldPair : Pair
  successorPair : Pair
  gsId : NodeId
  oldAuthority : PairAuthority
  successorAuthority : PairAuthority
deriving DecidableEq

/-- The resource a capacity rejection names. -/
inductive CapacityConstraint
  | stationTerminals (gsId : NodeId)
  | satelliteTerminals (satId : NodeId) (referenceBody : SurfaceBody)
deriving DecidableEq, Repr

structure Rejected where
  reason : UnscheduledReason
  incumbentPair : Option Pair
  capacityConstraint : Option CapacityConstraint
deriving DecidableEq, Repr

structure UnscheduledPair where
  pair : Pair
  tenantId : String
  referenceBody : SurfaceBody
  rejection : Rejected
deriving DecidableEq, Repr

/-- One constructor for each `raise` of the source, and one for a subscript of a mapping with an
absent key. -/
inductive AllocationError
  | policy (error : PolicyError)
  | missingKey (mapping key : String)
  | negativeStep
  | bbmAcquireTimeoutUnsupported (ticks : Int)
  | emptyRankingOrder
  | rankingOrderMustEndWithLexPair
  | rankingOrderNeedsDecisionComponent
  | duplicateRankingComponent
  | emptyStationPool (gsId : NodeId)
  | duplicateStationIndex (gsId : NodeId)
  | negativeStationIndex (gsId : NodeId) (invalid : List Int)
  | stationMapMismatch (label : String) (missing extra : List NodeId)
  | negativeOverlapTicks (gsId : NodeId)
  | negativeReserve (gsId : NodeId)
  | multiOverlapUnsupported (gsId : NodeId)
  | mbbNeedsOverlapAndReserve (gsId : NodeId)
  | mbbNeedsSpareTerminal (gsId : NodeId) (capacity : Nat) (reserve : Int)
  | bbmMustNotReserve (gsId : NodeId)
  | missingTenant (gsIds : List NodeId)
  | missingReferenceBody (gsIds : List NodeId)
  | missingHandoverPolicy (gsIds : List NodeId)
  | missingMinElevation (gsIds : List NodeId)
  | missingSatellitePools (satIds : List NodeId)
  | negativeSatelliteTerminals (satId : NodeId)
  | noTargetBodyPools (satId : NodeId)
  | duplicateSatelliteIndex (satId : NodeId) (referenceBody : SurfaceBody)
  | negativeSatelliteIndex (satId : NodeId) (referenceBody : SurfaceBody) (invalid : List Int)
  | satelliteCapacityMismatch (satId : NodeId) (total : Int)
  | missingSelectionPolicy (gsId : NodeId)
  | missingServicePriority (gsId : NodeId)
  | invisibleSatellite (gsId satId : NodeId)
  | duplicateCandidate (pair : Pair)
  | twoGroundStations (pair : Pair)
  | noGroundStation (pair : Pair)
  | missingStationPool (gsId : NodeId)
  | missingSatellitePool (satId : NodeId)
  | stationIndexNotAllowed (pair : Pair) (index : Int)
  | duplicateStationOccupancy (gsId : NodeId) (index : Int)
  | satelliteIndexNotAllowed (pair : Pair) (index : Int)
  | duplicateSatelliteOccupancy (satId : NodeId) (index : Int)
  | missingDelays (pair : Pair)
  | unrecordedRelease (nodeId : NodeId) (index : Int) (holder : Pair)
  | negativeRemainingArrival (pair : Pair)
  | incumbentWithoutCandidate (pair : Pair)
  | teardownNotAssociated (pair : Pair)
  | teardownInFuture (pair : Pair)
  | teardownSucceedsItself (pair : Pair)
  | teardownAtBbmStation (pair : Pair) (gsId : NodeId)
  | couldNotAllocate (pair : Pair)
  | didNotConverge
  | unscheduledWithoutCandidate (pair : Pair)
  | unattributedRejection (pair : Pair)
deriving DecidableEq

/-- The configuration of the ground segment, the same in every tick. -/
structure GroundConfig where
  groundStationIds : List NodeId
  gsTerminalIndices : Dict NodeId (List Int)
  gsSelectionPolicies : Dict NodeId SelectionPolicySpec
  gsMinElevations : Dict NodeId ℚ
  gsHandoverPolicies : Dict NodeId HandoverPolicySpec
  gsHandoverModes : Dict NodeId HandoverMode
  gsMbbOverlapTicks : Dict NodeId Int
  gsMbbReserve : Dict NodeId Int
  gsServicePriorities : Dict NodeId Int
  gsTenantIds : Dict NodeId String
  gsReferenceBodies : Dict NodeId SurfaceBody
  satGroundTerminals : Dict NodeId Int
  satGroundTerminalIndicesByBody : Dict NodeId (Dict SurfaceBody (List Int))
  rankingOrder : List RankingComponent
  successorAbortPolicy : SuccessorAbortPolicy
  bbmAcquireTimeoutTicks : Int
  ignoredCapacityFields : List String

/-- What one tick adds: its number, the visible satellites of each station, the simulated time and
the delays of each candidate pair. -/
structure GroundTick where
  step : Int
  visiblePerStation : Dict NodeId (List GroundVisibility)
  simTimeUnix : ℚ
  pairDelaysMs : Dict Pair (ℚ × ℚ)

/-- The authority state a tick hands to the next one. -/
structure GroundAuthority where
  associations : Dict Pair Indices
  pendingTeardowns : Dict Pair MbbTeardown
  receiveWindows : Dict (NodeId × Int) ReceiveWindow

def GroundAuthority.initial : GroundAuthority := ⟨∅, ∅, ∅⟩

def lookupKey {K V : Type} [DecidableEq K] (mapping : String) (render : K → String)
    (d : Dict K V) (k : K) : Except AllocationError V :=
  match d.get? k with
  | some v => .ok v
  | none => .error (.missingKey mapping (render k))

def lookupNode {V : Type} (mapping : String) (d : Dict NodeId V) (k : NodeId) :
    Except AllocationError V := lookupKey mapping id d k

def liftPolicy {α : Type} : Except PolicyError α → Except AllocationError α
  | .ok a => .ok a
  | .error e => .error (.policy e)

def ensure (c : Prop) [Decidable c] (e : AllocationError) : Except AllocationError Unit :=
  if c then .ok () else .error e

/-- Keep the elements that pass a test which may raise. -/
def keepWhere {α : Type} (test : α → Except AllocationError Bool) :
    List α → Except AllocationError (List α)
  | [] => .ok []
  | a :: rest => do
      let keep ← test a
      let kept ← keepWhere test rest
      .ok (if keep then a :: kept else kept)

def normalizedPair (gsId satId : NodeId) : Pair := (min gsId satId, max gsId satId)

/-- The ground station and the satellite of a normalized pair. -/
def groundAndSatelliteIds (pair : Pair) (groundStationIds : List NodeId) :
    Except AllocationError (NodeId × NodeId) :=
  if pair.1 ∈ groundStationIds ∧ pair.2 ∈ groundStationIds then
    .error (.twoGroundStations pair)
  else if pair.1 ∈ groundStationIds then .ok (pair.1, pair.2)
  else if pair.2 ∈ groundStationIds then .ok (pair.2, pair.1)
  else .error (.noGroundStation pair)

def validateRankingOrder (order : List RankingComponent) : Except AllocationError Unit := do
  ensure (order ≠ []) .emptyRankingOrder
  ensure (order.getLast? = some .lexPair) .rankingOrderMustEndWithLexPair
  ensure (order.length ≠ 1) .rankingOrderNeedsDecisionComponent
  ensure order.Nodup .duplicateRankingComponent

/-! ### Ranking -/

inductive RankValue
  | number (value : ℚ)
  | pair (value : Pair)
deriving DecidableEq

/-- Order of two components of a rank key.  Keys built from one ranking order have components of
the same kind at the same place. -/
def RankValue.lt : RankValue → RankValue → Bool
  | .number a, .number b => a < b
  | .pair p, .pair q => decide (pairLe p q) && decide (p ≠ q)
  | _, _ => false

def rankKeyLt : List RankValue → List RankValue → Bool
  | [], [] => false
  | [], _ :: _ => true
  | _ :: _, [] => false
  | a :: as, b :: bs => if a = b then rankKeyLt as bs else a.lt b

structure Candidate where
  pair : Pair
  gsId : NodeId
  satId : NodeId
  visibility : GroundVisibility
  selectionScore : ℚ
  servicePriority : Int
  perGsRank : Int
  satelliteGroundTerminalCapacity : Nat
  rankKey : List RankValue
deriving DecidableEq

def candidateRankKey (candidate : Candidate) (rankingOrder : List RankingComponent) :
    List RankValue :=
  rankingOrder.map fun
    | .servicePriority => .number candidate.servicePriority
    | .selectionScore => .number (-candidate.selectionScore)
    | .perGsRank => .number candidate.perGsRank
    | .satelliteGroundTerminalCapacity => .number candidate.satelliteGroundTerminalCapacity
    | .lexPair => .pair candidate.pair

def stationRankLe (c d : Candidate) : Prop :=
  d.selectionScore < c.selectionScore ∨
    (c.selectionScore = d.selectionScore ∧ pairLe c.pair d.pair)

instance : DecidableRel stationRankLe := fun _ _ =>
  inferInstanceAs (Decidable (_ ∨ (_ ∧ _)))

def globalRankLe (c d : Candidate) : Prop := rankKeyLt d.rankKey c.rankKey = false

instance : DecidableRel globalRankLe := fun _ _ => inferInstanceAs (Decidable (_ = _))

/-- The first candidate with the greatest rank key, the one ranked worst. -/
def worstRanked : List Candidate → Option Candidate
  | [] => none
  | c :: cs => some (cs.foldl (fun best d => if rankKeyLt best.rankKey d.rankKey then d else best) c)

/-! ### Checks of the configuration and of the tick -/

def sortedItems {V : Type} (d : Dict NodeId V) : List (NodeId × V) :=
  d.entries.insertionSort fun a b => a.1 ≤ b.1

def normalizeGroundTerminalPools (config : GroundConfig) :
    Except AllocationError (Dict NodeId (List Int)) := do
  forM (sortedItems config.gsTerminalIndices) fun (gsId, pool) => do
    ensure (pool ≠ []) (.emptyStationPool gsId)
    ensure pool.Nodup (.duplicateStationIndex gsId)
    ensure (∀ index ∈ pool, 0 ≤ index) (.negativeStationIndex gsId (pool.filter (· < 0)))
  .ok config.gsTerminalIndices

def normalizeSatelliteTerminalPools (config : GroundConfig) :
    Except AllocationError (Dict NodeId (Dict SurfaceBody (List Int))) := do
  let byBody := config.satGroundTerminalIndicesByBody
  let missing := config.satGroundTerminals.keys.filter (· ∉ byBody)
  ensure (missing = []) (.missingSatellitePools (sortedNodes missing))
  forM (sortedItems config.satGroundTerminals) fun (satId, total) => do
    let bodyMap := byBody.getD satId ∅
    ensure (0 ≤ total) (.negativeSatelliteTerminals satId)
    ensure (¬ (0 < total ∧ bodyMap.entries = [])) (.noTargetBodyPools satId)
    forM (bodyMap.entries.insertionSort fun a b => a.1.alphabetical ≤ b.1.alphabetical)
      fun (body, pool) => do
        ensure pool.Nodup (.duplicateSatelliteIndex satId body)
        ensure (∀ index ∈ pool, 0 ≤ index)
          (.negativeSatelliteIndex satId body (pool.filter (· < 0)))
    ensure ((bodyMap.values.flatten.dedup.length : Int) = total)
      (.satelliteCapacityMismatch satId total)
  .ok (config.satGroundTerminals.mapValues fun satId _ => byBody.getD satId ∅)

def GroundConfig.knownGs (config : GroundConfig) : List NodeId :=
  sortedNodes (config.groundStationIds ++ config.gsTerminalIndices.keys)

def checkStationMap {V : Type} (config : GroundConfig) (label : String) (mapping : Dict NodeId V) :
    Except AllocationError Unit :=
  let missing := config.knownGs.filter (· ∉ mapping)
  let extra := sortedNodes (mapping.keys.filter (· ∉ config.knownGs))
  ensure (missing = [] ∧ extra = []) (.stationMapMismatch label missing extra)

def checkHandoverMode (config : GroundConfig) (gsId : NodeId) : Except AllocationError Unit := do
  let mode ← lookupNode "gs_handover_modes" config.gsHandoverModes gsId
  let overlapTicks ← lookupNode "gs_mbb_overlap_ticks" config.gsMbbOverlapTicks gsId
  let reserve ← lookupNode "gs_mbb_reserve" config.gsMbbReserve gsId
  ensure (0 ≤ overlapTicks) (.negativeOverlapTicks gsId)
  ensure (0 ≤ reserve) (.negativeReserve gsId)
  ensure (reserve ≤ 1) (.multiOverlapUnsupported gsId)
  match mode with
  | .mbb => do
      ensure (0 < overlapTicks ∧ 0 < reserve) (.mbbNeedsOverlapAndReserve gsId)
      let pool ← lookupNode "gs_terminal_counts" config.gsTerminalIndices gsId
      ensure (reserve < pool.length) (.mbbNeedsSpareTerminal gsId pool.length reserve)
  | .bbm => ensure (reserve = 0 ∧ overlapTicks = 0) (.bbmMustNotReserve gsId)

def missingStations {V : Type} (tick : GroundTick) (mapping : Dict NodeId V) : List NodeId :=
  sortedNodes (tick.visiblePerStation.keys.filter (· ∉ mapping))

def checkVisibleStations (config : GroundConfig) (tick : GroundTick) :
    Except AllocationError Unit := do
  let withoutTenant := missingStations tick config.gsTenantIds
  ensure (withoutTenant = []) (.missingTenant withoutTenant)
  let withoutBody := missingStations tick config.gsReferenceBodies
  ensure (withoutBody = []) (.missingReferenceBody withoutBody)
  let withoutHandover := missingStations tick config.gsHandoverPolicies
  ensure (withoutHandover = []) (.missingHandoverPolicy withoutHandover)
  let withoutElevation := missingStations tick config.gsMinElevations
  ensure (withoutElevation = []) (.missingMinElevation withoutElevation)

/-- The checks of the source that precede the satellite pools, in its order. -/
def checkInputs (config : GroundConfig) (tick : GroundTick) : Except AllocationError Unit := do
  ensure (0 ≤ tick.step) .negativeStep
  ensure (config.bbmAcquireTimeoutTicks = 1)
    (.bbmAcquireTimeoutUnsupported config.bbmAcquireTimeoutTicks)
  validateRankingOrder config.rankingOrder
  let _ ← normalizeGroundTerminalPools config
  checkStationMap config "handover mode" config.gsHandoverModes
  checkStationMap config "MBB overlap ticks" config.gsMbbOverlapTicks
  checkStationMap config "MBB reserve" config.gsMbbReserve
  forM config.knownGs (checkHandoverMode config)
  checkVisibleStations config tick

/-! ### Candidates -/

abbrev SatellitePools := Dict NodeId (Dict SurfaceBody (List Int))

def satellitePool (pools : SatellitePools) (satId : NodeId) (body : SurfaceBody) : List Int :=
  (pools.getD satId ∅).getD body []

/-- Score one visible satellite of a station; the accumulator holds the station's candidates and
the visible pairs of the whole tick. -/
def addCandidate (config : GroundConfig) (pools : SatellitePools) (gsId : NodeId)
    (acc : List Candidate × List Pair) (gv : GroundVisibility) :
    Except AllocationError (List Candidate × List Pair) := do
  ensure (gv.visible = true) (.invisibleSatellite gsId gv.satId)
  let pair := normalizedPair gsId gv.satId
  ensure (pair ∉ acc.2) (.duplicateCandidate pair)
  let policy ← lookupNode "gs_selection_policies" config.gsSelectionPolicies gsId
  let score ← liftPolicy (scoreCandidate policy gv gsId gv.satId)
  let body ← lookupNode "gs_reference_bodies" config.gsReferenceBodies gsId
  let priority ← lookupNode "gs_service_priorities" config.gsServicePriorities gsId
  let candidate : Candidate :=
    { pair
      gsId
      satId := gv.satId
      visibility := gv
      selectionScore := score
      servicePriority := priority
      perGsRank := -1
      satelliteGroundTerminalCapacity := (satellitePool pools gv.satId body).length
      rankKey := [] }
  .ok (acc.1 ++ [candidate], acc.2 ++ [pair])

def rankStation (config : GroundConfig) (station : List Candidate) : List Candidate :=
  (station.insertionSort stationRankLe).mapIdx fun idx candidate =>
    let ranked := { candidate with perGsRank := idx }
    { ranked with rankKey := candidateRankKey ranked config.rankingOrder }

/-- Candidates of one station appended to those of the stations before it. -/
def addStation (config : GroundConfig) (pools : SatellitePools)
    (acc : List Candidate × List Pair) (station : NodeId × List GroundVisibility) :
    Except AllocationError (List Candidate × List Pair) := do
  ensure (station.1 ∈ config.gsSelectionPolicies) (.missingSelectionPolicy station.1)
  ensure (station.1 ∈ config.gsServicePriorities) (.missingServicePriority station.1)
  let (candidates, visible) ←
    station.2.foldlM (addCandidate config pools station.1) ([], acc.2)
  .ok (acc.1 ++ rankStation config candidates, visible)

structure Candidates where
  ranked : List Candidate
  byPair : Dict Pair Candidate
  visibleSet : List Pair

def buildCandidates (config : GroundConfig) (tick : GroundTick) (pools : SatellitePools) :
    Except AllocationError Candidates := do
  let (candidates, visibleSet) ←
    (sortedItems tick.visiblePerStation).foldlM (addStation config pools) ([], [])
  .ok { ranked := candidates.insertionSort globalRankLe
        byPair := Dict.ofList (candidates.map fun candidate => (candidate.pair, candidate))
        visibleSet }

/-! ### The working state of one tick -/

structure AllocationContext where
  config : GroundConfig
  tick : GroundTick
  prior : GroundAuthority
  gsTerminalPools : Dict NodeId (List Int)
  satTerminalPools : SatellitePools
  candidates : List Candidate
  candidateByPair : Dict Pair Candidate
  visibleSet : List Pair
  priorHolder : Dict (NodeId × Int) Pair

/-- The terminal bookkeeping of a tick: occupied indices, the associations with their indexes by
station and by satellite, and the teardowns in flight. -/
structure TerminalBook where
  gsOccupied : NodeId → Finset Int
  satOccupied : NodeId → Finset Int
  newAssociations : Dict Pair Indices
  assocByGs : NodeId → List Pair
  assocBySat : NodeId → List Pair
  newPendingTeardowns : Dict Pair MbbTeardown

structure Allocation extends TerminalBook where
  releaseCause : Dict Pair ReleaseCause
  rejected : Dict Pair Rejected
  allocationEvents : List AllocationEvent
  lifecycleEvents : List LifecycleEvent
  dropCurrentPairs : List Pair
  progress : Bool

def Allocation.initial : Allocation where
  gsOccupied := fun _ => ∅
  satOccupied := fun _ => ∅
  newAssociations := ∅
  assocByGs := fun _ => []
  assocBySat := fun _ => []
  newPendingTeardowns := ∅
  releaseCause := ∅
  rejected := ∅
  allocationEvents := []
  lifecycleEvents := []
  dropCurrentPairs := []
  progress := false

abbrev AllocationProgram := Program AllocationError Allocation

namespace TerminalBook

/-- Take two terminal indices for a pair: the effect that `add_existing` and `allocate_new`
share. -/
def occupy (b : TerminalBook) (pair : Pair) (gsId satId : NodeId) (indices : Indices) :
    TerminalBook :=
  { b with
    gsOccupied := Function.update b.gsOccupied gsId (insert indices.1 (b.gsOccupied gsId))
    satOccupied := Function.update b.satOccupied satId (insert indices.2 (b.satOccupied satId))
    newAssociations := b.newAssociations.insert pair indices
    assocByGs := Function.update b.assocByGs gsId
      (if pair ∈ b.assocByGs gsId then b.assocByGs gsId else b.assocByGs gsId ++ [pair])
    assocBySat := Function.update b.assocBySat satId
      (if pair ∈ b.assocBySat satId then b.assocBySat satId else b.assocBySat satId ++ [pair]) }

def vacate (b : TerminalBook) (pair : Pair) (gsId satId : NodeId) (indices : Indices) :
    TerminalBook where
  gsOccupied := Function.update b.gsOccupied gsId ((b.gsOccupied gsId).erase indices.1)
  satOccupied := Function.update b.satOccupied satId ((b.satOccupied satId).erase indices.2)
  newAssociations := b.newAssociations.erase pair
  assocByGs := Function.update b.assocByGs gsId ((b.assocByGs gsId).filter (· ≠ pair))
  assocBySat := Function.update b.assocBySat satId ((b.assocBySat satId).filter (· ≠ pair))
  newPendingTeardowns := b.newPendingTeardowns.erase pair

def setTeardown (b : TerminalBook) (pair : Pair) (teardown : MbbTeardown) : TerminalBook :=
  { b with newPendingTeardowns := b.newPendingTeardowns.insert pair teardown }

def steadyPairsForGs (b : TerminalBook) (gsId : NodeId) : List Pair :=
  (b.assocByGs gsId).filter (· ∉ b.newPendingTeardowns)

def protectedMbbPairs (b : TerminalBook) : List Pair :=
  b.newPendingTeardowns.keys ++ b.newPendingTeardowns.values.map MbbTeardown.successorPair

end TerminalBook

namespace Allocation

def released (s : Allocation) (pair : Pair) (cause : ReleaseCause) : Allocation :=
  if pair ∈ s.releaseCause then s
  else { s with releaseCause := s.releaseCause.insert pair cause }

def recordRejection (s : Allocation) (pair : Pair) (rejection : Rejected) : Allocation :=
  { s with rejected := s.rejected.insert pair rejection }

def dropPair (s : Allocation) (pair : Pair) : Allocation :=
  { s with dropCurrentPairs := pair :: s.dropCurrentPairs }

def emit (s : Allocation) (event : AllocationEvent) : Allocation :=
  { s with allocationEvents := s.allocationEvents ++ [event] }

def lockedRejectionReasons : List UnscheduledReason :=
  [.replacedBySuccessor, .successorAborted, .failedSuccessor, .failedAcquire]

def rejectionLocked (s : Allocation) (pair : Pair) : Bool :=
  match s.rejected.get? pair with
  | some rejection => rejection.reason ∈ lockedRejectionReasons
  | none => false

end Allocation

namespace AllocationContext

variable (ctx : AllocationContext)

def idsOf (pair : Pair) : Except AllocationError (NodeId × NodeId) :=
  groundAndSatelliteIds pair ctx.config.groundStationIds

def handoverModeFor (gsId : NodeId) : Except AllocationError HandoverMode :=
  lookupNode "gs_handover_modes" ctx.config.gsHandoverModes gsId

def mbbOverlapTicksFor (gsId : NodeId) : Except AllocationError Int := do
  match ← ctx.handoverModeFor gsId with
  | .mbb => lookupNode "gs_mbb_overlap_ticks" ctx.config.gsMbbOverlapTicks gsId
  | .bbm => .ok 0

def mbbReserveFor (gsId : NodeId) : Except AllocationError Int := do
  match ← ctx.handoverModeFor gsId with
  | .mbb => lookupNode "gs_mbb_reserve" ctx.config.gsMbbReserve gsId
  | .bbm => .ok 0

def terminalCount (gsId : NodeId) : Except AllocationError Nat := do
  let pool ← lookupNode "gs_terminal_counts" ctx.gsTerminalPools gsId
  .ok pool.length

def steadyLimit (gsId : NodeId) : Except AllocationError Int := do
  let tc ← ctx.terminalCount gsId
  let reserve ← ctx.mbbReserveFor gsId
  .ok (tc - reserve)

def referenceBody (gsId : NodeId) : Except AllocationError SurfaceBody :=
  lookupNode "gs_reference_bodies" ctx.config.gsReferenceBodies gsId

def satTerminalPool (candidate : Candidate) : Except AllocationError (List Int) := do
  let body ← ctx.referenceBody candidate.gsId
  .ok (satellitePool ctx.satTerminalPools candidate.satId body)

def satCapacityConstraint (candidate : Candidate) : Except AllocationError CapacityConstraint := do
  let body ← ctx.referenceBody candidate.gsId
  .ok (.satelliteTerminals candidate.satId body)

def visibleIncumbentForPair (pair : Pair) : Except AllocationError Candidate :=
  match ctx.candidateByPair.get? pair with
  | some candidate => .ok candidate
  | none => .error (.incumbentWithoutCandidate pair)

def makeEvent (category : EventCategory) (pair : Pair) (gsId : NodeId)
    (successorPair challengerPair : Option Pair) (policy : Option EventPolicy)
    (retarget : Option Retarget) : Except AllocationError AllocationEvent := do
  let tenantId ← lookupNode "gs_tenant_ids" ctx.config.gsTenantIds gsId
  let referenceBody ← ctx.referenceBody gsId
  match retarget with
  | some r => ensure (0 ≤ r.remainingArrivalMs) (.negativeRemainingArrival pair)
  | none => .ok ()
  .ok { category, pair, tenantId, referenceBody, successorPair, challengerPair, policy, retarget }

def lightTimeIntoMs (pair : Pair) (nodeId : NodeId) : Except AllocationError ℚ :=
  match ctx.tick.pairDelaysMs.get? pair with
  | some (aToB, bToA) => .ok (if nodeId = pair.2 then aToB else bToA)
  | none => .error (.missingDelays pair)

def carriedWindow (nodeId : NodeId) (index : Int) : Option ReceiveWindow :=
  (ctx.prior.receiveWindows.get? (nodeId, index)).filter fun window =>
    ctx.tick.simTimeUnix < window.untilUnix

/-- The reception still arriving on a terminal: from a release earlier this tick, or a window
carried from an earlier tick that has not ended. -/
def windowFor (s : Allocation) (nodeId : NodeId) (index : Int) :
    Except AllocationError (Option ReceiveWindow) :=
  match (ctx.priorHolder.get? (nodeId, index)).filter (· ∉ s.newAssociations) with
  | some holder =>
      match s.releaseCause.get? holder with
      | none => .error (.unrecordedRelease nodeId index holder)
      | some cause => do
          let lightTime ← ctx.lightTimeIntoMs holder nodeId
          .ok (some ⟨ctx.tick.simTimeUnix + lightTime / 1000, holder, cause⟩)
  | none => .ok (ctx.carriedWindow nodeId index)

/-- The first index of a pool that is neither occupied nor still receiving. -/
def firstQuiet (s : Allocation) (nodeId : NodeId) (occupied : Finset Int) :
    List Int → Except AllocationError (Option Int)
  | [] => .ok none
  | idx :: rest =>
      if idx ∈ occupied then firstQuiet s nodeId occupied rest
      else do
        match ← ctx.windowFor s nodeId idx with
        | none => .ok (some idx)
        | some _ => firstQuiet s nodeId occupied rest

/-- A free index of a pool, preferring a quiet one. -/
def firstFree (s : Allocation) (nodeId : NodeId) (occupied : Finset Int) (pool : List Int) :
    Except AllocationError (Option Int) := do
  match ← ctx.firstQuiet s nodeId occupied pool with
  | some idx => .ok (some idx)
  | none => .ok (pool.find? (· ∉ occupied))

def nextSatTerminalIndex (s : Allocation) (candidate : Candidate) :
    Except AllocationError (Option Int) := do
  let pool ← ctx.satTerminalPool candidate
  ctx.firstFree s candidate.satId (s.satOccupied candidate.satId) pool

def worstSteadyIncumbent (s : Allocation) (gsId : NodeId) :
    Except AllocationError (Option Candidate) := do
  let incumbents ← (s.steadyPairsForGs gsId).mapM ctx.visibleIncumbentForPair
  .ok (worstRanked incumbents)

/-- The first of the sorted pairs that belongs to a station. -/
def firstPairOf (gsId : NodeId) : List Pair → Except AllocationError (Option Pair)
  | [] => .ok none
  | pair :: rest => do
      let (pairGs, _) ← ctx.idsOf pair
      if pairGs = gsId then .ok (some pair) else firstPairOf gsId rest

def protectedMbbPairForGs (s : Allocation) (gsId : NodeId) :
    Except AllocationError (Option Pair) :=
  ctx.firstPairOf gsId (sortedPairs s.protectedMbbPairs.dedup)

def samePartition (candidate : Candidate) (pair : Pair) : Except AllocationError Bool := do
  let (pairGs, _) ← ctx.idsOf pair
  let pairTenant ← lookupNode "gs_tenant_ids" ctx.config.gsTenantIds pairGs
  let tenant ← lookupNode "gs_tenant_ids" ctx.config.gsTenantIds candidate.gsId
  let pairBody ← ctx.referenceBody pairGs
  let body ← ctx.referenceBody candidate.gsId
  .ok (pairTenant = tenant && pairBody = body)

def satOccupantsForCandidate (s : Allocation) (candidate : Candidate) :
    Except AllocationError (List Candidate) := do
  let targetPool ← ctx.satTerminalPool candidate
  let inPool ← keepWhere (fun pair => do
    let indices ← lookupKey "new_associations" (fun pair => pair.1 ++ ", " ++ pair.2)
      s.newAssociations pair
    .ok (indices.2 ∈ targetPool)) (sortedPairs (s.assocBySat candidate.satId))
  inPool.mapM ctx.visibleIncumbentForPair

def satCapacityBlocker (s : Allocation) (candidate : Candidate) :
    Except AllocationError (Option Pair) := do
  let occupants ← ctx.satOccupantsForCandidate s candidate
  .ok ((worstRanked occupants).map Candidate.pair)

def displaceableSatIncumbent (s : Allocation) (candidate : Candidate) :
    Except AllocationError (Option Candidate) := do
  let occupants ← ctx.satOccupantsForCandidate s candidate
  let incumbents ← keepWhere (fun incumbent =>
    if incumbent.pair ∈ s.protectedMbbPairs then .ok false
    else do
      let same ← ctx.samePartition candidate incumbent.pair
      .ok (same && rankKeyLt candidate.rankKey incumbent.rankKey)) occupants
  .ok (worstRanked incumbents)

end AllocationContext

/-! ### The transitions of one tick -/

section Transitions

open Program

variable (ctx : AllocationContext)

def addExisting (pair : Pair) (indices : Indices) : AllocationProgram Unit := do
  let (gsId, satId) ← lift (ctx.idsOf pair)
  let gsPool ← lift (match ctx.gsTerminalPools.get? gsId with
    | some pool => .ok pool
    | none => .error (.missingStationPool gsId))
  let satPools ← lift (match ctx.satTerminalPools.get? satId with
    | some pools => .ok pools
    | none => .error (.missingSatellitePool satId))
  let s ← get
  require (indices.1 ∈ gsPool) (.stationIndexNotAllowed pair indices.1)
  require (indices.1 ∉ s.gsOccupied gsId) (.duplicateStationOccupancy gsId indices.1)
  let body ← lift (ctx.referenceBody gsId)
  require (indices.2 ∈ satPools.getD body []) (.satelliteIndexNotAllowed pair indices.2)
  require (indices.2 ∉ s.satOccupied satId) (.duplicateSatelliteOccupancy satId indices.2)
  set { s with toTerminalBook := s.occupy pair gsId satId indices }

def removeAssociation (pair : Pair) : AllocationProgram Unit := do
  let s ← get
  let indices ← lift (lookupKey "new_associations" (fun pair => pair.1 ++ ", " ++ pair.2)
    s.newAssociations pair)
  let (gsId, satId) ← lift (ctx.idsOf pair)
  set { s with toTerminalBook := s.vacate pair gsId satId indices }

def retargetPolicy : ReleaseCause → Option EventPolicy
  | .bbmGap => some (.handoverMode .bbm)
  | .teardownCompleted => some (.handoverMode .mbb)
  | _ => none

/-- Report a terminal given a new peer while its old peer's signals still arrive. -/
def retargeted (nodeId : NodeId) (index : Int) (candidate : Candidate) :
    AllocationProgram Unit := do
  let s ← get
  match (← lift (ctx.windowFor s nodeId index)).filter (·.oldPair ≠ candidate.pair) with
  | none => pure ()
  | some window => do
      let remainingMs := (window.untilUnix - ctx.tick.simTimeUnix) * 1000
      let event ← lift (ctx.makeEvent .retargetedBeforeLastArrival window.oldPair candidate.gsId
        (some candidate.pair) none (retargetPolicy window.releasedBy)
        (some ⟨nodeId, index, remainingMs, window.releasedBy⟩))
      set (s.emit event)

def allocateNew (candidate : Candidate) : AllocationProgram Bool := do
  let s ← get
  let gsPool ← lift (lookupNode "gs_terminal_pools" ctx.gsTerminalPools candidate.gsId)
  let gsIdx ← lift (ctx.firstFree s candidate.gsId (s.gsOccupied candidate.gsId) gsPool)
  let satIdx ← lift (ctx.nextSatTerminalIndex s candidate)
  match gsIdx, satIdx with
  | some gsIdx, some satIdx => do
      retargeted ctx candidate.gsId gsIdx candidate
      retargeted ctx candidate.satId satIdx candidate
      modify fun s =>
        { s with
          toTerminalBook :=
            s.occupy candidate.pair candidate.gsId candidate.satId (gsIdx, satIdx)
          rejected := s.rejected.erase candidate.pair }
      pure true
  | _, _ => pure false

def emitBbmGap (incumbent challenger : Candidate) : AllocationProgram Unit := do
  let event ← lift (ctx.makeEvent .bbmGap incumbent.pair challenger.gsId (some challenger.pair)
    (some challenger.pair) (some (.handoverMode .bbm)) none)
  modify (·.emit event)

def emitIncumbentLost (pair : Pair) : AllocationProgram Unit := do
  modify (·.released pair .incumbentLost)
  let (gsId, _) ← lift (ctx.idsOf pair)
  let event ← lift (ctx.makeEvent .incumbentLost pair gsId none none none none)
  modify (·.emit event)

def authorityBefore (pair : Pair) : PairAuthority where
  pair := pair
  scheduled := decide (pair ∈ ctx.prior.associations)
  pendingTeardown := decide (pair ∈ ctx.prior.pendingTeardowns)
  visible := decide (pair ∈ ctx.visibleSet)
  terminalIndices := ctx.prior.associations.get? pair

def emitMbbLifecycleTerminal (category : EventCategory) (oldPair successorPair : Pair)
    (gsId : NodeId) : AllocationProgram Unit :=
  modify fun s =>
    { s with
      lifecycleEvents := s.lifecycleEvents ++
        [{ category, oldPair, successorPair, gsId
           oldAuthority := authorityBefore ctx oldPair
           successorAuthority := authorityBefore ctx successorPair }] }

/-- The successor of a teardown did not survive: its category as event, rejection and cause. -/
structure AbortCategory where
  event : EventCategory
  reason : UnscheduledReason
  cause : ReleaseCause

def abortCategory (successorCurrent : Bool) : AbortCategory :=
  if successorCurrent then ⟨.successorAborted, .successorAborted, .successorAborted⟩
  else ⟨.failedSuccessor, .failedSuccessor, .failedSuccessor⟩

def abortTeardown (pair successor : Pair) (gsId : NodeId) (indices : Indices)
    (successorCurrent : Bool) : AllocationProgram Unit := do
  let category := abortCategory successorCurrent
  let policy := ctx.config.successorAbortPolicy
  let aborted ← lift (ctx.makeEvent category.event pair gsId (some successor) none
    (some (.successorAbortPolicy policy)) none)
  modify (·.emit aborted)
  emitMbbLifecycleTerminal ctx category.event pair successor gsId
  «when» (pair ∉ ctx.visibleSet) (emitIncumbentLost ctx pair)
  «when» (successorCurrent ∧ successor ∉ ctx.visibleSet) (emitIncumbentLost ctx successor)
  «when» (successor ∈ ctx.visibleSet ∧ ¬ successorCurrent) (do
    let (successorGs, _) ← lift (ctx.idsOf successor)
    let failed ← lift (ctx.makeEvent .failedAcquire successor successorGs (some successor) none
      (some (.successorAbortPolicy policy)) none)
    modify (·.emit failed))
  modify fun s => (((s.dropPair pair).dropPair successor).released pair category.cause).released
    successor category.cause
  «when» (successor ∈ ctx.visibleSet)
    (modify (·.recordRejection successor ⟨.failedAcquire, some pair, none⟩))
  if pair ∈ ctx.visibleSet then
    match policy with
    | .softRetain => addExisting ctx pair indices
    | .hardRelease => modify (·.recordRejection pair ⟨category.reason, some successor, none⟩)
  else pure ()

def completeTeardown (pair successor : Pair) (gsId : NodeId) : AllocationProgram Unit := do
  modify fun s => (s.dropPair pair).released pair .teardownCompleted
  let event ← lift (ctx.makeEvent .teardownCompleted pair gsId (some successor) none
    (some (.handoverMode .mbb)) none)
  modify (·.emit event)
  emitMbbLifecycleTerminal ctx .teardownCompleted pair successor gsId
  if pair ∈ ctx.visibleSet then
    modify (·.recordRejection pair ⟨.replacedBySuccessor, some successor, none⟩)
  else emitIncumbentLost ctx pair

/-- Prior-state recovery of one pending teardown. -/
def recoverTeardown (pair : Pair) : AllocationProgram Unit := do
  let indices ← lift (match ctx.prior.associations.get? pair with
    | some indices => .ok indices
    | none => .error (.teardownNotAssociated pair))
  let teardown ← lift (lookupKey "pending_teardowns" (fun pair => pair.1 ++ ", " ++ pair.2)
    ctx.prior.pendingTeardowns pair)
  require (teardown.startStep ≤ ctx.tick.step) (.teardownInFuture pair)
  let (gsId, _) ← lift (ctx.idsOf pair)
  let successor := teardown.successorPair
  require (successor ≠ pair) (.teardownSucceedsItself pair)
  let successorCurrent := decide (successor ∈ ctx.prior.associations ∧
    successor ∉ ctx.prior.pendingTeardowns)
  let mode ← lift (ctx.handoverModeFor gsId)
  require (mode = .mbb) (.teardownAtBbmStation pair gsId)
  let overlapTicks ← lift (ctx.mbbOverlapTicksFor gsId)
  if successor ∉ ctx.visibleSet ∨ successorCurrent = false then
    abortTeardown ctx pair successor gsId indices successorCurrent
  else if overlapTicks ≤ ctx.tick.step - teardown.startStep ∨ pair ∉ ctx.visibleSet then
    completeTeardown ctx pair successor gsId
  else do
    addExisting ctx pair indices
    modify fun s => { s with toTerminalBook := s.setTeardown pair teardown }

/-- Steady-state continuity: a visible current link that is not in teardown survives. -/
def keepSteady (entry : Pair × Indices) : AllocationProgram Unit := do
  let s ← get
  if entry.1 ∈ ctx.prior.pendingTeardowns ∨ entry.1 ∈ s.dropCurrentPairs then pure ()
  else if entry.1 ∉ ctx.visibleSet then emitIncumbentLost ctx entry.1
  else addExisting ctx entry.1 entry.2

/-- Outcome of arbitration at one end of a candidate: reject it, or go on after displacing an
incumbent if one is named. -/
inductive Arbitration
  | reject (rejection : Rejected)
  | proceed (displacement : Option Candidate)

def arbitrateSatellite (s : Allocation) (candidate : Candidate) :
    Except AllocationError Arbitration := do
  match ← ctx.nextSatTerminalIndex s candidate with
  | some _ => .ok (.proceed none)
  | none => do
      match ← ctx.displaceableSatIncumbent s candidate with
      | some incumbent => .ok (.proceed (some incumbent))
      | none => do
          let blocker ← ctx.satCapacityBlocker s candidate
          let constraint ← ctx.satCapacityConstraint candidate
          .ok (.reject ⟨.satCapacity, blocker, some constraint⟩)

def arbitrateHandover (candidate incumbent : Candidate) (physicalRoom : Bool) :
    Except AllocationError Arbitration := do
  let policy ← lookupNode "gs_handover_policies" ctx.config.gsHandoverPolicies candidate.gsId
  let minElevation ← lookupNode "gs_min_elevations" ctx.config.gsMinElevations candidate.gsId
  let decision ← liftPolicy (evaluateHandover policy incumbent.selectionScore
    candidate.selectionScore incumbent.visibility minElevation)
  match decision with
  | .hold reason => .ok (.reject ⟨reason, some incumbent.pair, none⟩)
  | .displace => do
      let mode ← ctx.handoverModeFor candidate.gsId
      if mode = .mbb ∧ physicalRoom = false then
        .ok (.reject ⟨.bbmNoSpare, some incumbent.pair,
          some (.stationTerminals candidate.gsId)⟩)
      else .ok (.proceed (some incumbent))

def arbitrateStation (s : Allocation) (candidate : Candidate) (tc : Nat) :
    Except AllocationError Arbitration := do
  let limit ← ctx.steadyLimit candidate.gsId
  let physicalRoom := decide ((s.gsOccupied candidate.gsId).card < tc)
  if ((s.steadyPairsForGs candidate.gsId).length : Int) < limit then
    if physicalRoom then .ok (.proceed none)
    else .ok (.reject ⟨.gsCapacity, none, some (.stationTerminals candidate.gsId)⟩)
  else do
    match ← ctx.worstSteadyIncumbent s candidate.gsId with
    | none => .ok (.reject ⟨.gsCapacity, none, some (.stationTerminals candidate.gsId)⟩)
    | some incumbent => arbitrateHandover ctx candidate incumbent physicalRoom

/-- Break-before-make: the station's incumbent is released before the acquire. -/
def releaseIncumbent (candidate incumbent : Candidate) : AllocationProgram Unit := do
  modify (·.released incumbent.pair .bbmGap)
  removeAssociation ctx incumbent.pair
  «when» (incumbent.pair ∈ ctx.visibleSet)
    (modify (·.recordRejection incumbent.pair ⟨.replacedBySuccessor, some candidate.pair, none⟩))
  emitBbmGap ctx incumbent candidate

def displaceOnSatellite (candidate incumbent : Candidate) : AllocationProgram Unit := do
  modify (·.released incumbent.pair .satCapacity)
  removeAssociation ctx incumbent.pair
  let constraint ← lift (ctx.satCapacityConstraint candidate)
  modify (·.recordRejection incumbent.pair ⟨.satCapacity, some candidate.pair, some constraint⟩)

/-- Make-before-break: the incumbent stays as a pending teardown next to its successor. -/
def startOverlap (candidate incumbent : Candidate) : AllocationProgram Unit := do
  modify fun s =>
    { s with toTerminalBook := s.setTeardown incumbent.pair ⟨ctx.tick.step, candidate.pair⟩ }
  let event ← lift (ctx.makeEvent .mbbOverlapStarted incumbent.pair candidate.gsId
    (some candidate.pair) (some candidate.pair) (some (.handoverMode .mbb)) none)
  modify (·.emit event)

def forDisplaced (displacement : Option Candidate) (run : Candidate → AllocationProgram Unit) :
    AllocationProgram Unit :=
  match displacement with
  | some incumbent => run incumbent
  | none => pure ()

def acquire (candidate : Candidate) (gsDisplacement satDisplacement : Option Candidate) :
    AllocationProgram Unit := do
  let mode ← lift (ctx.handoverModeFor candidate.gsId)
  forDisplaced gsDisplacement fun incumbent =>
    «when» (mode = .bbm) (releaseIncumbent ctx candidate incumbent)
  forDisplaced satDisplacement (displaceOnSatellite ctx candidate)
  let allocated ← allocateNew ctx candidate
  require (allocated = true) (.couldNotAllocate candidate.pair)
  modify fun s => { s with progress := true }
  forDisplaced gsDisplacement fun incumbent =>
    «when» (mode = .mbb) (startOverlap ctx candidate incumbent)

/-- Arbitrate a candidate whose station has no overlap in flight. -/
def arbitrate (candidate : Candidate) (tc : Nat) : AllocationProgram Unit := do
  let s ← get
  match ← lift (arbitrateSatellite ctx s candidate) with
  | .reject rejection => set (s.recordRejection candidate.pair rejection)
  | .proceed satDisplacement => do
      match ← lift (arbitrateStation ctx s candidate tc) with
      | .reject rejection => set (s.recordRejection candidate.pair rejection)
      | .proceed gsDisplacement => acquire ctx candidate gsDisplacement satDisplacement

def considerCandidate (candidate : Candidate) : AllocationProgram Unit := do
  let s ← get
  if candidate.pair ∈ s.newAssociations ∨ s.rejectionLocked candidate.pair then pure ()
  else do
    let tc ← lift (ctx.terminalCount candidate.gsId)
    match ← lift (ctx.protectedMbbPairForGs s candidate.gsId) with
    | some protectedPair =>
        set (s.recordRejection candidate.pair
          ⟨.mbbOverlapLocked, some protectedPair, some (.stationTerminals candidate.gsId)⟩)
    | none => arbitrate ctx candidate tc

/-- Passes over the candidates until one makes no progress; the bound is the fail-safe cap of the
source. -/
def candidatePasses : Nat → AllocationProgram Unit
  | 0 => throw .didNotConverge
  | passes + 1 => do
      modify fun s => { s with progress := false }
      forM ctx.candidates (considerCandidate ctx)
      let s ← get
      if s.progress then candidatePasses passes else pure ()

def maxCandidatePasses : Nat :=
  max 1 (ctx.candidates.length + ctx.prior.associations.keys.length +
    ctx.prior.pendingTeardowns.keys.length + 1)

def allocationBody : AllocationProgram Unit := do
  forM (sortedPairs ctx.prior.pendingTeardowns.keys) (recoverTeardown ctx)
  forM (ctx.prior.associations.entries.insertionSort fun a b => pairLe a.1 b.1) (keepSteady ctx)
  candidatePasses ctx (maxCandidatePasses ctx)

end Transitions

/-! ### Attribution, receive windows and the result -/

section Result

variable (ctx : AllocationContext)

/-- The reason of a visible pair that the passes left without a recorded rejection. -/
def attributeRejection (s : Allocation) (pair : Pair) (gsId : NodeId) :
    Except AllocationError Rejected := do
  let candidate ← (match ctx.candidateByPair.get? pair with
    | some candidate => .ok candidate
    | none => .error (.unscheduledWithoutCandidate pair))
  match ← ctx.nextSatTerminalIndex s candidate with
  | none => do
      let blocker ← ctx.satCapacityBlocker s candidate
      let constraint ← ctx.satCapacityConstraint candidate
      .ok ⟨.satCapacity, blocker, some constraint⟩
  | some _ => do
      let limit ← ctx.steadyLimit gsId
      let tc ← ctx.terminalCount gsId
      if limit ≤ ((s.steadyPairsForGs gsId).length : Int) ∨ tc ≤ (s.gsOccupied gsId).card then do
        let incumbent ← ctx.worstSteadyIncumbent s gsId
        .ok ⟨.gsCapacity, incumbent.map Candidate.pair, some (.stationTerminals gsId)⟩
      else .error (.unattributedRejection pair)

def unscheduledPair (s : Allocation) (pair : Pair) : Except AllocationError UnscheduledPair := do
  let (gsId, _) ← ctx.idsOf pair
  let rejection ← (match s.rejected.get? pair with
    | some rejection => .ok rejection
    | none => attributeRejection ctx s pair gsId)
  let tenantId ← lookupNode "gs_tenant_ids" ctx.config.gsTenantIds gsId
  let referenceBody ← ctx.referenceBody gsId
  .ok { pair, tenantId, referenceBody, rejection }

def heldTerminals (s : Allocation) : Except AllocationError (List (NodeId × Int)) := do
  let ends ← s.newAssociations.entries.mapM fun (pair, indices) => do
    let (gsId, satId) ← ctx.idsOf pair
    .ok [(gsId, indices.1), (satId, indices.2)]
  .ok ends.flatten

/-- Open a window for a terminal this tick's releases left, unless a new link took it. -/
def openWindow (s : Allocation) (held : List (NodeId × Int))
    (windows : Dict (NodeId × Int) ReceiveWindow) (entry : (NodeId × Int) × Pair) :
    Except AllocationError (Dict (NodeId × Int) ReceiveWindow) :=
  if entry.2 ∈ s.newAssociations ∨ entry.1 ∈ held then .ok windows
  else do
    match ← ctx.windowFor s entry.1.1 entry.1.2 with
    | some window => .ok (windows.insert entry.1 window)
    | none => .ok windows

def openWindows (s : Allocation) :
    Except AllocationError (Dict (NodeId × Int) ReceiveWindow) := do
  let held ← heldTerminals ctx s
  let carried := ctx.prior.receiveWindows.filter fun key window =>
    ctx.tick.simTimeUnix < window.untilUnix && decide (key ∉ held)
  ctx.priorHolder.entries.foldlM (openWindow ctx s held) carried

end Result

/-- The policy surface applied to one tick, published for audit. -/
structure GroundPolicyAudit where
  selectionPolicies : List (NodeId × SelectionPolicySpec)
  handoverPolicies : List (NodeId × HandoverPolicySpec)
  rankingOrder : List RankingComponent
  handoverMode : Option HandoverMode
  handoverModes : List (NodeId × HandoverMode)
  successorAbortPolicy : SuccessorAbortPolicy
  mbbOverlapTicks : Int
  mbbOverlapTicksByGs : List (NodeId × Int)
  mbbReserve : Int
  mbbReserveByGs : List (NodeId × Int)
  bbmAcquireTimeoutTicks : Int
  ignoredCapacityFields : List String

/-- The summary mode is absent when the stations use different modes (or there is none). -/
def policyAudit (config : GroundConfig) : GroundPolicyAudit where
  selectionPolicies := sortedItems config.gsSelectionPolicies
  handoverPolicies := sortedItems config.gsHandoverPolicies
  rankingOrder := config.rankingOrder
  handoverMode :=
    match config.gsHandoverModes.values.dedup with
    | [mode] => some mode
    | _ => none
  handoverModes := sortedItems config.gsHandoverModes
  successorAbortPolicy := config.successorAbortPolicy
  mbbOverlapTicks := config.gsMbbOverlapTicks.values.max?.getD 0
  mbbOverlapTicksByGs := sortedItems config.gsMbbOverlapTicks
  mbbReserve := config.gsMbbReserve.values.max?.getD 0
  mbbReserveByGs := sortedItems config.gsMbbReserve
  bbmAcquireTimeoutTicks := config.bbmAcquireTimeoutTicks
  ignoredCapacityFields := config.ignoredCapacityFields.insertionSort (· ≤ ·)

/-- The result of one tick.  Its scheduled pairs are the keys of the associations. -/
structure GroundAllocationResult where
  authority : GroundAuthority
  unscheduledPairs : List UnscheduledPair
  policyAudit : GroundPolicyAudit
  allocationEvents : List AllocationEvent
  lifecycleEvents : List LifecycleEvent

def holdPrior (config : GroundConfig) (holders : Dict (NodeId × Int) Pair)
    (entry : Pair × Indices) : Except AllocationError (Dict (NodeId × Int) Pair) := do
  let (gsId, satId) ← groundAndSatelliteIds entry.1 config.groundStationIds
  .ok ((holders.insert (gsId, entry.2.1) entry.1).insert (satId, entry.2.2) entry.1)

def prepareContext (config : GroundConfig) (tick : GroundTick) (prior : GroundAuthority) :
    Except AllocationError AllocationContext := do
  checkInputs config tick
  let satTerminalPools ← normalizeSatelliteTerminalPools config
  let candidates ← buildCandidates config tick satTerminalPools
  let priorHolder ← prior.associations.entries.foldlM (holdPrior config) ∅
  .ok { config, tick, prior
        gsTerminalPools := config.gsTerminalIndices
        satTerminalPools
        candidates := candidates.ranked
        candidateByPair := candidates.byPair
        visibleSet := candidates.visibleSet
        priorHolder }

def finishTick (ctx : AllocationContext) (s : Allocation) :
    Except AllocationError GroundAllocationResult := do
  let unscheduledPairs ←
    (sortedPairs (ctx.visibleSet.filter (· ∉ s.newAssociations))).mapM (unscheduledPair ctx s)
  let receiveWindows ← openWindows ctx s
  .ok { authority := ⟨s.newAssociations, s.newPendingTeardowns, receiveWindows⟩
        unscheduledPairs
        policyAudit := policyAudit ctx.config
        allocationEvents := s.allocationEvents
        lifecycleEvents := s.lifecycleEvents }

def allocateGroundLinks (config : GroundConfig) (tick : GroundTick) (prior : GroundAuthority) :
    Except AllocationError GroundAllocationResult := do
  let ctx ← prepareContext config tick prior
  match (allocationBody ctx).exec Allocation.initial with
  | (.error e, _) => .error e
  | (.ok _, s) => finishTick ctx s

end NodalArc.GroundAllocator
