import NodalArc.ContactDrain

/-! Pure dispatch planning: the difference between actual and desired links, the ground endpoints
of a pair, the releases that collide with an acquire, and the make-before-break segments. -/

namespace NodalArc.DispatchPlanner

open OrderedDict
open GroundPolicy
open LinkRecord
open ContactDrain

/-- Set-level difference between actual and desired link state. -/
structure ReconcileDiff where
  toRemove : List Pair
  toAdd : List Pair
  toUpdateLatency : List Pair

def diffLinkState (actual : Dict Pair ActiveLinkInfo) (desired : Dict Pair LinkInfo) :
    ReconcileDiff where
  toRemove := actual.keys.filter (· ∉ desired)
  toAdd := desired.keys.filter (· ∉ actual)
  toUpdateLatency := actual.keys.filter fun pair =>
    match actual.get? pair, desired.get? pair with
    | some held, some wanted => geometryChanged held.toLinkInfo wanted
    | _, _ => false

abbrev Capacities := Dict NodeId Nat

/-- The station of a pair; the first endpoint is selected when both are stations. -/
def gsIdForPair (pair : Pair) (gsCapacities : Capacities) : Option NodeId :=
  if pair.1 ∈ gsCapacities then some pair.1
  else if pair.2 ∈ gsCapacities then some pair.2
  else none

def satIdForGsPair (pair : Pair) (gsCapacities : Capacities) : Option NodeId :=
  if pair.1 ∈ gsCapacities then some pair.2
  else if pair.2 ∈ gsCapacities then some pair.1
  else none

/-- The station, the satellite and their interfaces for one ground pair. -/
structure GroundEndpoints where
  gsId : NodeId
  satId : NodeId
  gsIface : String
  satIface : String

def groundEndpoints (pair : Pair) (info : LinkInfo) (gsCapacities : Capacities) :
    Option GroundEndpoints :=
  if pair.1 ∈ gsCapacities then some ⟨pair.1, pair.2, info.interfaceA, info.interfaceB⟩
  else if pair.2 ∈ gsCapacities then some ⟨pair.2, pair.1, info.interfaceB, info.interfaceA⟩
  else none

def wantedTerminals (desired : Dict Pair LinkInfo) (pair : Pair) : List Terminal :=
  match desired.get? pair with
  | some info => endTerminals pair info
  | none => []

theorem mem_wantedTerminals_iff {desired : Dict Pair LinkInfo} {pair : Pair} {terminal : Terminal} :
    terminal ∈ wantedTerminals desired pair ↔
      ∃ want, desired.get? pair = some want ∧ terminal ∈ endTerminals pair want := by
  unfold wantedTerminals
  cases desired.get? pair <;> simp

def heldTerminals (actual : Dict Pair ActiveLinkInfo) (pair : Pair) : List Terminal :=
  match actual.get? pair with
  | some info => endTerminals pair info.toLinkInfo
  | none => []

/-- Release pairs whose kernel interface is reused by a same-pass acquire.  One kernel interface
cannot carry the old and the new link at once, so these are dispatched before the acquires. -/
def interfaceCollidingDowns (toRemove toAdd : List Pair) (actual : Dict Pair ActiveLinkInfo)
    (desired : Dict Pair LinkInfo) : List Pair :=
  toRemove.filter fun pair => ∃ terminal ∈ heldTerminals actual pair,
    terminal ∈ toAdd.flatMap (wantedTerminals desired)

/-- Ground and inter-satellite classification and segment mode for one reconcile pass. -/
structure MbbClassification where
  islDowns : List Pair
  islUps : List Pair
  gsDowns : NodeId → List Pair
  gsUps : NodeId → List Pair
  mbbSegments : List NodeId
  bbmSegments : List NodeId

/-- The capacities and the active counts the classification reads. -/
structure Occupancy where
  gsCapacities : Capacities
  gsActiveCount : NodeId → Nat
  satCapacities : Capacities
  satActiveCount : NodeId → Nat

def Occupancy.gsSpare (occupancy : Occupancy) (gsId : NodeId) : Int :=
  (occupancy.gsCapacities.getD gsId 0 : Nat) - (occupancy.gsActiveCount gsId : Nat)

def Occupancy.satSpare (occupancy : Occupancy) (satId : NodeId) : Except SchedulerError Int :=
  match occupancy.satCapacities.get? satId with
  | some capacity => .ok ((capacity : Int) - occupancy.satActiveCount satId)
  | none => .error (.keyError satId)

def segmentSatellite (occupancy : Occupancy) (gsId : NodeId) (pair : Pair) :
    Except SchedulerError NodeId :=
  match satIdForGsPair pair occupancy.gsCapacities with
  | some satId => .ok satId
  | none => .error (.nonGroundPairInSegment gsId pair)

/-- Every satellite a station acquires has a spare terminal.  The scan stops at the first that
has none. -/
def allSatsOk (occupancy : Occupancy) (gsId : NodeId) : List Pair → Except SchedulerError Bool
  | [] => .ok true
  | pair :: rest => do
      let satId ← segmentSatellite occupancy gsId pair
      let spare ← occupancy.satSpare satId
      if spare ≤ 0 then return false else allSatsOk occupancy gsId rest

/-- A station's segment makes before it breaks when no pair of it is forced, it acquires, and the
station and every satellite it acquires have room for the acquires beside the releases. -/
def segmentMode (occupancy : Occupancy) (forcedBbmPairs downs ups : List Pair) (gsId : NodeId) :
    Except SchedulerError HandoverMode :=
  if ∃ pair ∈ downs ++ ups, pair ∈ forcedBbmPairs then .ok .bbm
  else if ups = [] then .ok .bbm
  else do
    let satsOk ← allSatsOk occupancy gsId ups
    if (ups.length : Int) ≤ occupancy.gsSpare gsId ∧ satsOk = true then return .mbb
    else return .bbm

def pairsOfStation (gsCapacities : Capacities) (pairs : List Pair) (gsId : NodeId) : List Pair :=
  pairs.filter fun pair => gsIdForPair pair gsCapacities = some gsId

def pairsWithoutStation (gsCapacities : Capacities) (pairs : List Pair) : List Pair :=
  pairs.filter fun pair => gsIdForPair pair gsCapacities = none

def classifyMbbChanges (toRemove toAdd : List Pair) (occupancy : Occupancy)
    (forcedBbmPairs : List Pair) : Except SchedulerError MbbClassification := do
  let caps := occupancy.gsCapacities
  let dirtyGs := sortedNodes ((toRemove ++ toAdd).filterMap fun pair => gsIdForPair pair caps)
  let modes ← dirtyGs.mapM fun gsId => do
    let mode ← segmentMode occupancy forcedBbmPairs (pairsOfStation caps toRemove gsId)
      (pairsOfStation caps toAdd gsId) gsId
    return (gsId, mode)
  return {
    islDowns := pairsWithoutStation caps toRemove
    islUps := pairsWithoutStation caps toAdd
    gsDowns := pairsOfStation caps toRemove
    gsUps := pairsOfStation caps toAdd
    mbbSegments := (modes.filter fun m => m.2 = .mbb).map Prod.fst
    bbmSegments := (modes.filter fun m => m.2 = .bbm).map Prod.fst }

end NodalArc.DispatchPlanner
