import NodalArc.DispatchActuator

/-! One reconcile pass of the Scheduler: the single path from desired link state to the Node
Agents.  Long-delay contacts move one step each (forced closes, stops, relocations, due closes,
opens, delay changes); every other link is released and acquired, make-before-break where the
dispatch mode and the capacities allow it. -/

namespace NodalArc.Reconcile

open OrderedDict
open GroundPolicy
open LinkRecord
open ContactDrain
open DispatchPlanner
open Actuation
open NodeAgentBatches
open DispatchActuator
open StatefulProgram.Program

/-- What one pass reconciles toward: the desired links less the overrides, why the overridden
links go, and what the due read-only proofs concluded about each station. -/
structure DispatchIntent where
  desired : Dict Pair LinkInfo
  downReasons : Dict Pair String
  forcedBbmPairs : List Pair
  simTime : ℚ
  verified : NodeId → GroundActuationState

variable (config : SchedulerConfig) (surroundings : Surroundings)

/-! ### Records and counters -/

/-- A pair's current contact, or an earlier contact of the pair still draining on its own
terminals. -/
inductive RecordKey
  | current (pair : Pair)
  | overlap (pair : Pair) (contact : Contact)
deriving DecidableEq

def RecordKey.pair : RecordKey → Pair
  | .current pair => pair
  | .overlap pair _ => pair

def setRecord (key : RecordKey) (info : ActiveLinkInfo) (s : Scheduler) : Scheduler :=
  match key with
  | .current pair => { s with actualLinks := s.actualLinks.insert pair info }
  | .overlap pair contact => { s with overlapping := s.overlapping.insert (pair, contact) info }

def dropRecord (key : RecordKey) (s : Scheduler) : Scheduler :=
  match key with
  | .current pair => { s with actualLinks := s.actualLinks.erase pair }
  | .overlap pair contact => { s with overlapping := s.overlapping.erase (pair, contact) }

/-- Change the active counts of both ends of a ground link. -/
def countEnd (change : Nat → Nat) (s : Scheduler) (nodeId : NodeId) : Scheduler :=
  if nodeId ∈ config.gsCapacities then
    { s with gsActiveCount :=
        Function.update s.gsActiveCount nodeId (change (s.gsActiveCount nodeId)) }
  else if nodeId ∈ config.satCapacities then
    { s with satActiveCount :=
        Function.update s.satActiveCount nodeId (change (s.satActiveCount nodeId)) }
  else s

def countLink (change : Nat → Nat) (pair : Pair) (info : LinkInfo) (s : Scheduler) : Scheduler :=
  if info.linkType = .ground then
    countEnd config change (countEnd config change s pair.1) pair.2
  else s

def incrementActiveCounts (pair : Pair) (info : LinkInfo) : Scheduler → Scheduler :=
  countLink config (· + 1) pair info

def decrementActiveCounts (pair : Pair) (info : LinkInfo) : Scheduler → Scheduler :=
  countLink config (· - 1) pair info

def rebaselineActiveCounts (s : Scheduler) : Scheduler :=
  (s.actualLinks.entries ++ s.overlapping.entries.map fun held => (held.1.1, held.2)).foldl
    (fun s held => incrementActiveCounts config held.1 held.2.toLinkInfo s)
    { s with gsActiveCount := fun _ => 0, satActiveCount := fun _ => 0 }

/-- A LinkDown was acknowledged: the record goes and its terminals are free. -/
def removeActual (pair : Pair) (s : Scheduler) : Scheduler :=
  match s.actualLinks.get? pair with
  | none => s
  | some info => decrementActiveCounts config pair info.toLinkInfo
      { s with actualLinks := s.actualLinks.erase pair }

def addActual (pair : Pair) (info : LinkInfo) (s : Scheduler) : Scheduler :=
  incrementActiveCounts config pair info
    { s with actualLinks := s.actualLinks.insert pair info.activate }

/-! ### Suppression and results -/

def GroundActuationState.blocksUp (state : GroundActuationState) : Prop := state.state ≠ .clean

def GroundActuationState.blocksDown (state : GroundActuationState) : Prop :=
  state.activeInterventionId ≠ none ∨ state.state = .kernelDirty

instance (state : GroundActuationState) : Decidable (GroundActuationState.blocksUp state) :=
  inferInstanceAs (Decidable (_ ≠ _))

instance (state : GroundActuationState) : Decidable (GroundActuationState.blocksDown state) :=
  inferInstanceAs (Decidable (_ ∨ _))

def filterBlockedGroundMutations (s : Scheduler) (pairs : List Pair) : List Pair :=
  pairs.filter fun pair =>
    match gsIdForPair pair config.gsCapacities with
    | none => true
    | some gsId => ¬ GroundActuationState.blocksUp (s.gsActuation gsId)

/-- A blocked station may still use cleanup downs; a dirty one or one under repair may not. -/
def filterGroundDownMutations (s : Scheduler) (pairs : List Pair) : List Pair :=
  pairs.filter fun pair =>
    match gsIdForPair pair config.gsCapacities with
    | none => true
    | some gsId => ¬ GroundActuationState.blocksDown (s.gsActuation gsId)

/-- The failed pairs no station can absorb. -/
def fatalPairs (result : ActuationResult) : List Pair :=
  (result.pairResults.filter fun r => ¬ r.Success ∧
    (r.failureClass = .fence ∨ r.failureClass = .islFailure ∨ r.linkType ≠ some .ground)).map
    PairActuationResult.pair

def failuresOfStation (result : ActuationResult) (gsId : NodeId) : List PairActuationResult :=
  result.pairResults.filter fun r =>
    ¬ r.Success ∧ r.linkType = some .ground ∧ r.gsId = some gsId

def stationStateAfter (result : ActuationResult) (interventionId : Option String) (gsId : NodeId)
    (before : GroundActuationState) : GroundActuationState :=
  let failures := failuresOfStation result gsId
  if failures = [] then before
  else if ∃ r ∈ failures, r.failureClass = .groundKernelDirty ∨ r.failureClass = .groundUnknown
  then { state := .kernelDirty, activeInterventionId := interventionId }
  else { state := .actuationBlocked, activeInterventionId := interventionId }

/-- A fence or a failure outside the ground segment stops the dispatcher; a ground failure takes
its station out of clean. -/
def handleActuationResult (result : ActuationResult) (interventionId : Option String) :
    SchedulerM Unit :=
  «when» result.HasFailures do
    require (result.writerFenced = false) .fencedWriter
    require (result.fenceFailure = false ∧ fatalPairs result = []) .actuationHalted
    modify fun s =>
      let after := fun gsId => stationStateAfter result interventionId gsId (s.gsActuation gsId)
      { s with gsActuation := after }

/-! ### Long-delay contacts -/

def sortedActual (s : Scheduler) : List (Pair × ActiveLinkInfo) :=
  s.actualLinks.entries.insertionSort fun x y => pairLe x.1 y.1

def overlapLe (x y : (Pair × Contact) × ActiveLinkInfo) : Prop :=
  (x.1.1 ≠ y.1.1 ∧ pairLe x.1.1 y.1.1) ∨ (x.1.1 = y.1.1 ∧ x.1.2.Earlier y.1.2)

instance : DecidableRel overlapLe := fun x y =>
  inferInstanceAs (Decidable ((x.1.1 ≠ y.1.1 ∧ pairLe x.1.1 y.1.1) ∨
    (x.1.1 = y.1.1 ∧ x.1.2.Earlier y.1.2)))

def sortedOverlapping (s : Scheduler) : List ((Pair × Contact) × ActiveLinkInfo) :=
  s.overlapping.entries.insertionSort overlapLe

/-- A record some of whose ends are to close, and why. -/
structure CloseRecord where
  key : RecordKey
  info : ActiveLinkInfo
  ends : List NodeId
  cause : EndCloseCause

def addToRounds (record : CloseRecord) : List (List CloseRecord) → List (List CloseRecord)
  | [] => [[record]]
  | round :: later =>
      if record.key.pair ∈ round.map (fun r => r.key.pair) then
        round :: addToRounds record later
      else (round ++ [record]) :: later

/-- Records of one pair close in separate commands, as each names its own contact: the first
record of every pair in the first round, the second in the second. -/
def closeRounds (records : List CloseRecord) : List (List CloseRecord) :=
  records.foldl (fun rounds record => addToRounds record rounds) []

/-- Every end of a long-delay contact closed: its record goes, its terminals are free, and its
LinkDown, with what each end lost, is published. -/
def tearDownLongDelayRecord (key : RecordKey) (info : ActiveLinkInfo) (reason : String)
    (losses : List LinkEndLoss) : SchedulerM Unit := do
  modify fun s => decrementActiveCounts config key.pair info.toLinkInfo (dropRecord key s)
  publish (.linkDown key.pair info.contact reason losses)

def closeReason (downReasons : Dict Pair String) (pair : Pair) (cause : EndCloseCause)
    (ended : String) : String :=
  match cause with
  | .seek => "seek"
  | .scenario => downReasons.getD pair ended
  | _ => ended

/-- Some ends left a draining record: the record keeps the others, or is torn down. -/
def settleEnds (key : RecordKey) (info : ActiveLinkInfo) (drain : Drain) (gone : List NodeId)
    (lost : List LinkEndLoss) (reason : String) : SchedulerM Unit :=
  let left := drain.ends.filter fun e => e.nodeId ∉ gone
  if h : left ≠ [] then
    let shrunk := { drain with ends := left, closed := drain.closed ++ lost, ends_ne_nil := h }
    modify (setRecord key { info with drain := some shrunk })
  else tearDownLongDelayRecord config key info reason (drain.closed ++ lost)

def settleClosed (downReasons : Dict Pair String) (closed : ActuationResult)
    (record : CloseRecord) : SchedulerM Unit := do
  let s ← get
  let pair := record.key.pair
  let lost := s.endLossRecords closed pair record.info.toLinkInfo record.cause
  match record.info.drain with
  | none =>
      tearDownLongDelayRecord config record.key record.info
        (closeReason downReasons pair record.cause "vis_lost") lost
  | some drain =>
      settleEnds config record.key record.info drain record.ends lost
        (closeReason downReasons pair record.cause drain.reason)

def roundLinks (batch : List CloseRecord) : Dict Pair ActiveLinkInfo :=
  .ofList (batch.map fun r => (r.key.pair, r.info))

def roundEnds (batch : List CloseRecord) : List (Pair × List NodeId) :=
  batch.map fun r => (r.key.pair, r.ends)

def sortedRoundEnds (batch : List CloseRecord) : List (Pair × List NodeId) :=
  (roundEnds batch).insertionSort fun x y => pairLe x.1 y.1

/-- The Node Agents prove each end to close in the stage the Scheduler holds it in. -/
def proveRound (batch : List CloseRecord) : SchedulerM Unit := do
  let proven ← verifyLongDelayEnds config surroundings (roundLinks batch) (sortedRoundEnds batch)
  handleActuationResult proven none

def closeStage (batch : List CloseRecord) : DownStage where
  stage := .close
  ends := .ofList (roundEnds batch)
  contactIds := ∅
  causes := batch.map fun r => (r.key.pair, r.cause)
  downReasons := ∅

def sendClose (batch : List CloseRecord) : SchedulerM ActuationResult := do
  let closed ← sendBatchDown config surroundings (roundLinks batch)
    (batch.map fun r => r.key.pair) (closeStage batch)
  handleActuationResult closed none
  return closed

def settleRound (downReasons : Dict Pair String) (closed : ActuationResult)
    (batch : List CloseRecord) : SchedulerM Unit :=
  forM batch fun record =>
    «when» (record.key.pair ∈ closed.succeededPairs) (settleClosed config downReasons closed record)

/-- CLOSE one round of records, proving their ends first if asked to. -/
def closeRound (downReasons : Dict Pair String) (prove : Bool) (batch : List CloseRecord) :
    SchedulerM Unit := do
  «when» (prove = true) (proveRound config surroundings batch)
  let closed ← sendClose config surroundings batch
  settleRound config downReasons closed batch

def closeLongDelayEnds (downReasons : Dict Pair String) (prove : Bool)
    (records : List CloseRecord) : SchedulerM Unit :=
  forM (closeRounds records) (closeRound config surroundings downReasons prove)

def stopStage : DownStage where
  stage := .stopAdmission
  ends := ∅
  contactIds := ∅
  causes := []
  downReasons := ∅

def sendStop (pairs : List Pair) : SchedulerM ActuationResult := do
  let s ← get
  let stopped ← sendBatchDown config surroundings s.actualLinks pairs stopStage
  handleActuationResult stopped none
  return stopped

def heldLink (pair : Pair) : SchedulerM ActiveLinkInfo := do
  let s ← get
  match s.actualLinks.get? pair with
  | some info => return info
  | none => throw (.keyError pair.1)

/-- The current contacts that end at once, as records to close. -/
def forcedCurrent (s : Scheduler) (forced : List (Pair × ForcedCause)) : List CloseRecord :=
  forced.filterMap fun d => (s.actualLinks.get? d.1).map fun info =>
    { key := .current d.1, info, ends := remainingEnds d.1 info, cause := d.2.closeCause }

/-- Why an earlier contact still draining ends at once, if it does. -/
def forcedOverlapCause (epochId : Nat) (downReasons : Dict Pair String) (pair : Pair)
    (info : ActiveLinkInfo) : Option ForcedCause :=
  match info.contact with
  | none => none
  | some contact =>
      if contact.epochId < epochId then some .seek
      else if pair ∈ downReasons then some .scenario
      else none

/-- The earlier contacts still draining that end at once, as records to close. -/
def forcedOverlap (s : Scheduler) (downReasons : Dict Pair String) : List CloseRecord :=
  (sortedOverlapping s).filterMap fun held =>
    (forcedOverlapCause s.lastSnapshotEpochId downReasons held.1.1 held.2).map fun cause =>
      { key := .overlap held.1.1 held.1.2, info := held.2
        ends := remainingEnds held.1.1 held.2, cause := cause.closeCause }

/-- Stop both transmitters of open contacts that end at once and keep what they report losing. -/
def stopForced (openForced : List CloseRecord) : SchedulerM Unit := do
  let stopped ← sendStop config surroundings (openForced.map fun r => r.key.pair)
  forM (sortedSet stopped.succeededPairs) fun pair => do
    let info ← heldLink pair
    recordStageLosses stopped pair info.toLinkInfo .stopAdmission

/-- A seek or a scenario command ends contacts at once.  Both transmitters stop first, so nothing
enters a queue between its count and its reset; then every end still open or draining closes. -/
def forceContacts (plan : LongDelayPlan) (downReasons : Dict Pair String) : SchedulerM Unit := do
  let s ← get
  «when» (plan.forced ≠ [] ∨ forcedOverlap s downReasons ≠ []) do
    let openForced := (forcedCurrent s plan.forced).filter fun r => r.info.drain = none
    «when» (openForced ≠ []) (stopForced config surroundings openForced)
    closeLongDelayEnds config surroundings downReasons false
      (forcedCurrent s plan.forced ++ forcedOverlap s downReasons)

/-- Both transmitters of a contact proved admission stopped: it drains. -/
def settleStopped (stopped : ActuationResult) (stoppedMono : ℚ) (pair : Pair) :
    SchedulerM Unit := do
  let info ← heldLink pair
  require (info.contact ≠ none) (.stoppedLinkWithoutContact pair)
  recordStageLosses stopped pair info.toLinkInfo .stopAdmission
  let drain ← lift (startDrain pair info stoppedMono "vis_lost")
  modify (setRecord (.current pair) { info with drain := some drain })

/-- A contact that ended, or one whose pair's next pass moved to other terminals: both
transmitters stop admitting and the contact drains.  The deadlines count from the reading taken
after the acknowledgements. -/
def stopContacts (plan : LongDelayPlan) : SchedulerM Unit :=
  «when» (plan.stop ≠ []) do
    let stopped ← sendStop config surroundings plan.stop
    let stoppedMono ← monotonic surroundings
    forM (sortedSet stopped.succeededPairs) (settleStopped stopped stoppedMono)

/-- The pair's draining contact keeps its own terminals; the new pass opens beside it. -/
def relocateContact (pair : Pair) (s : Scheduler) : Scheduler :=
  match s.actualLinks.get? pair with
  | none => s
  | some held =>
      match held.drain, held.contact with
      | some _, some contact =>
          dropRecord (.current pair) (setRecord (.overlap pair contact) held s)
      | _, _ => s

def relocateContacts (plan : LongDelayPlan) : SchedulerM Unit :=
  forM (sortedSet plan.relocate) fun pair => modify (relocateContact pair)

/-- The due ends of current contacts that did not move away, as records to close. -/
def dueCurrent (s : Scheduler) (plan : LongDelayPlan) (due : List (Pair × List NodeId)) :
    List CloseRecord :=
  (due.filter fun d => d.1 ∉ plan.relocate).filterMap fun d =>
    (s.actualLinks.get? d.1).map fun info =>
      { key := .current d.1, info, ends := d.2, cause := .drainDeadline }

def dueOverlap (s : Scheduler) (nowMono : ℚ) : List CloseRecord :=
  ((sortedOverlapping s).map fun held =>
    ({ key := .overlap held.1.1 held.1.2, info := held.2, ends := dueNodes nowMono held.2
       cause := .drainDeadline } : CloseRecord)).filter fun r => r.ends ≠ []

/-- Ends whose last packet has arrived are proven still draining, then closed. -/
def closeDueEnds (plan : LongDelayPlan) (due : List (Pair × List NodeId))
    (downReasons : Dict Pair String) : SchedulerM Unit := do
  let nowMono ← monotonic surroundings
  let s ← get
  closeLongDelayEnds config surroundings downReasons true
    (dueCurrent s plan due ++ dueOverlap s nowMono)

/-- The terminals the opening contacts use, each with its pair. -/
def wantedByOpening (desired : Dict Pair LinkInfo) (opening : List Pair) : Dict Terminal Pair :=
  .ofList ((sortedSet opening).flatMap fun pair =>
    (wantedTerminals desired pair).map fun terminal => (terminal, pair))

def takenFrom (wanted : Dict Terminal Pair) (pair : Pair) (terminal : Terminal) : Bool :=
  match wanted.get? terminal with
  | none => false
  | some taker => taker ≠ pair

/-- The ends of one record to close before the contacts open: its draining ends on a terminal
another pair takes.  A terminal still open for another contact is a broken allocation. -/
def retargetRecord (wanted : Dict Terminal Pair) (key : RecordKey) (info : ActiveLinkInfo) :
    Except SchedulerError (List CloseRecord) :=
  match info.drain with
  | none =>
      if (endTerminals key.pair info.toLinkInfo).any (takenFrom wanted key.pair) then
        .error (.terminalsWantedByOpening key.pair)
      else .ok []
  | some drain =>
      let ends := (drain.ends.filter fun e => takenFrom wanted key.pair e.terminal).map
        DrainingEnd.nodeId
      if ends = [] then .ok [] else .ok [{ key, info, ends, cause := .retargeted }]

/-- Every record with its key: the current contacts first, then the earlier ones. -/
def keyedRecords (s : Scheduler) : List (RecordKey × ActiveLinkInfo) :=
  (sortedActual s).map (fun held => (.current held.1, held.2)) ++
    (sortedOverlapping s).map fun held => (.overlap held.1.1 held.1.2, held.2)

/-- Before contacts open, close every draining end of another pair on a terminal they use. -/
def retargetTerminals (opening : List Pair) (desired : Dict Pair LinkInfo)
    (downReasons : Dict Pair String) : SchedulerM Unit := do
  let s ← get
  let retargets ← lift ((keyedRecords s).mapM fun held =>
    retargetRecord (wantedByOpening desired opening) held.1 held.2)
  closeLongDelayEnds config surroundings downReasons false retargets.flatten

/-- An earlier contact of a pair still draining on a terminal its new contact uses: the new
contact's PREPARE reopened that end's queue in place, so the end leaves the earlier drain. -/
def reopenOverlappingEnds (pair : Pair) (new : LinkInfo) (prepared : ActuationResult) :
    SchedulerM Unit := do
  let s ← get
  forM ((sortedOverlapping s).filter fun held => held.1.1 = pair) fun held =>
    match held.2.drain with
    | none => pure ()
    | some drain => do
        let ends := endsOn held.2 (endTerminals pair new)
        «when» (ends ≠ []) do
          let s ← get
          let reopened := (s.endLossRecords prepared pair held.2.toLinkInfo .reopened).filter
            fun loss => loss.nodeId ∈ ends
          settleEnds config (.overlap held.1.1 held.1.2) held.2 drain ends reopened drain.reason

def Scheduler.endedLosses (s : Scheduler) (prepared : ActuationResult) (pair : Pair)
    (old : ActiveLinkInfo) : List LinkEndLoss :=
  let closedBefore := match old.drain with
    | none => []
    | some drain => drain.closed
  let reopened := s.endLossRecords prepared pair old.toLinkInfo .reopened
  closedBefore ++ (reopened ++ s.stageOnlyRecords pair old.toLinkInfo
    ((closedBefore ++ reopened).map LinkEndLoss.nodeId) .reopened)

/-- The contact a prepared pair held before: it is recorded ended before the new one's LinkUp. -/
def endReopenedContact (prepared : ActuationResult) (pair : Pair) (old : ActiveLinkInfo) :
    SchedulerM Unit := do
  let s ← get
  let losses := Scheduler.endedLosses s prepared pair old
  modify fun s => decrementActiveCounts config pair old.toLinkInfo (dropRecord (.current pair) s)
  publish (.linkDown pair old.contact
    (match old.drain with
      | none => "vis_lost"
      | some drain => drain.reason) losses)

/-- PREPARE proved both ends of a pair's new contact. -/
def settlePrepared (desired : Dict Pair LinkInfo) (ended : Dict Pair ActiveLinkInfo)
    (prepared : ActuationResult) (pair : Pair) : SchedulerM Unit := do
  let info ← lift (lookupDesired desired pair)
  reopenOverlappingEnds config pair info prepared
  match ended.get? pair with
  | none => pure ()
  | some old => endReopenedContact config prepared pair old

/-- OPEN was acknowledged at both ends of a contact. -/
def settleOpened (desired : Dict Pair LinkInfo) (opened : ActuationResult) (pair : Pair) :
    SchedulerM Unit := do
  let info ← lift (lookupDesired desired pair)
  recordStageLosses opened pair info .open
  modify (addActual config pair info)

/-- Contacts open in two stages.  PREPARE builds each end with admission stopped; OPEN admits at
both ends only once both proved PREPARE. -/
def openContacts (intent : DispatchIntent) (opening : List Pair) : SchedulerM Unit :=
  «when» (opening ≠ []) do
    retargetTerminals config surroundings opening intent.desired intent.downReasons
    let s ← get
    let ended := s.actualLinks.filter fun pair _ => pair ∈ opening
    let (plan, prepared) ← prepareLongDelayContacts config surroundings intent.simTime
      intent.desired opening
    handleActuationResult prepared none
    forM (sortedSet prepared.succeededPairs) (settlePrepared config intent.desired ended prepared)
    -- the barrier: OPEN goes only to contacts whose two ends both proved PREPARE
    «when» (prepared.succeededPairs ≠ []) do
      let opened ← openPreparedContacts config surroundings intent.desired plan
        prepared.succeededPairs
      handleActuationResult opened none
      forM (sortedSet opened.succeededPairs) (settleOpened config intent.desired opened)

def updateLatencies (intent : DispatchIntent) (pairs : List Pair) : SchedulerM Unit :=
  «when» (pairs ≠ []) do
    let changed ← sendAuthoritativeLatencyUpdates config surroundings intent.simTime
      intent.desired pairs
    handleActuationResult changed none

def reconcileLongDelay (intent : DispatchIntent) (plan : LongDelayPlan)
    (due : List (Pair × List NodeId)) : SchedulerM Unit := do
  forceContacts config surroundings plan intent.downReasons
  stopContacts config surroundings plan
  relocateContacts plan
  closeDueEnds config surroundings plan due intent.downReasons
  openContacts config surroundings intent plan.opening
  updateLatencies config surroundings intent plan.latency

/-! ### Local links -/

def releaseDown (downReasons : Dict Pair String) : DownStage where
  stage := .close
  ends := ∅
  contactIds := ∅
  causes := []
  downReasons := downReasons

/-- LinkDown local links and drop the records of those acknowledged. -/
def releaseLinks (downReasons : Dict Pair String) (pairs : List Pair) :
    SchedulerM ActuationResult := do
  let s ← get
  let result ← sendBatchDown config surroundings s.actualLinks pairs (releaseDown downReasons)
  handleActuationResult result none
  forM (sortedSet result.succeededPairs) fun pair => modify (removeActual config pair)
  return result

def acquireLinks (intent : DispatchIntent) (pairs : List Pair) : SchedulerM ActuationResult := do
  let result ← sendBatchUp config surroundings intent.simTime intent.desired pairs
  handleActuationResult result none
  forM (sortedSet result.succeededPairs) fun pair => do
    let info ← lift (lookupDesired intent.desired pair)
    modify (addActual config pair info)
  return result

/-- All downs, then all ups. -/
def reconcileBbm (intent : DispatchIntent) (toRemove toAdd : List Pair) : SchedulerM Unit := do
  «when» (toRemove ≠ []) do
    let _ ← releaseLinks config surroundings intent.downReasons toRemove
  «when» (toAdd ≠ []) do
    let _ ← acquireLinks config surroundings intent toAdd

/-- The changed pairs whose station is configured to break before it makes. -/
def policyForcedPairs (pairs : List Pair) : Except SchedulerError (List Pair) := do
  let forced ← pairs.mapM fun pair =>
    match gsIdForPair pair config.gsCapacities with
    | none => .ok []
    | some gsId =>
        match config.gsHandoverModes.get? gsId with
        | none => .error (.missingHandoverMode gsId)
        | some .bbm => .ok [pair]
        | some .mbb => .ok []
  return forced.flatten

def Scheduler.occupancy (s : Scheduler) : Occupancy where
  gsCapacities := config.gsCapacities
  gsActiveCount := s.gsActiveCount
  satCapacities := config.satCapacities
  satActiveCount := s.satActiveCount

/-- The pairs forced to break before make: by the caller, by their station's configuration, or
because a same-pass acquire reuses their interface. -/
def forcedBbm (s : Scheduler) (intent : DispatchIntent) (toRemove toAdd : List Pair) :
    Except SchedulerError (List Pair) := do
  let policy ← policyForcedPairs config (toRemove ++ toAdd)
  return intent.forcedBbmPairs ++ policy ++
    interfaceCollidingDowns toRemove toAdd s.actualLinks intent.desired

/-- Release what must go before the acquires.  The stations one of whose releases failed are
returned. -/
def releaseStage (intent : DispatchIntent) (downs : List Pair) : SchedulerM (List NodeId) :=
  if downs ≠ [] then do
    let result ← releaseLinks config surroundings intent.downReasons downs
    return (downs.filter (· ∉ result.succeededPairs)).filterMap fun pair =>
      gsIdForPair pair config.gsCapacities
  else return []

/-- Whether the station and the satellite of an acquire both have a terminal to spare. -/
def spareForAcquire (s : Scheduler) (gsId : NodeId) (pair : Pair) :
    Except SchedulerError Bool := do
  let satId ← segmentSatellite (Scheduler.occupancy config s) gsId pair
  let satSpare ← (Scheduler.occupancy config s).satSpare satId
  return decide (0 < (Scheduler.occupancy config s).gsSpare gsId ∧ 0 < satSpare)

/-- The acquires of one break-before-make station with room for them. -/
def greedyAcquires (s : Scheduler) (classification : MbbClassification) (gsId : NodeId) :
    Except SchedulerError (List Pair) := do
  let acquires ← (sortedSet (classification.gsUps gsId)).mapM fun pair => do
    let spare ← spareForAcquire config s gsId pair
    return if spare then [pair] else []
  return acquires.flatten

def acquireUps (s : Scheduler) (classification : MbbClassification) (failedGs : List NodeId) :
    Except SchedulerError (List Pair) := do
  let greedy ← (classification.bbmSegments.filter (· ∉ failedGs)).mapM
    (greedyAcquires config s classification)
  return classification.islUps ++ classification.mbbSegments.flatMap classification.gsUps ++
    greedy.flatten

def acquireStage (intent : DispatchIntent) (ups : List Pair) : SchedulerM (List Pair) :=
  if ups ≠ [] then do
    let result ← acquireLinks config surroundings intent ups
    return result.succeededPairs
  else return []

/-- The releases of make-before-break segments whose replacement came up. -/
def finalReleaseDowns (classification : MbbClassification) (added : List Pair) : List Pair :=
  (classification.mbbSegments.filter fun gsId =>
    ∃ pair ∈ classification.gsUps gsId, pair ∈ added).flatMap classification.gsDowns

/-- Staged capacity-aware dispatch: releases that free capacity, all acquires, then the releases
of make-before-break segments. -/
def reconcileMbb (intent : DispatchIntent) (toRemove toAdd : List Pair) : SchedulerM Unit := do
  let s ← get
  let forced ← lift (forcedBbm config s intent toRemove toAdd)
  let classification ← lift (classifyMbbChanges toRemove toAdd (Scheduler.occupancy config s)
    forced)
  let failedGs ← releaseStage config surroundings intent
    (classification.islDowns ++ classification.bbmSegments.flatMap classification.gsDowns)
  let s ← get
  let ups ← lift (acquireUps config s classification failedGs)
  let added ← acquireStage config surroundings intent ups
  let _ ← releaseStage config surroundings intent (finalReleaseDowns classification added)

/-! ### The pass -/

/-- The provenance of a record follows every accepted desired state, unless that is older. -/
def refreshAuthority (desired : Dict Pair LinkInfo) (pair : Pair) (held : ActiveLinkInfo) :
    ActiveLinkInfo :=
  match desired.get? pair with
  | none => held
  | some wanted =>
      match wanted.authoritySimTime with
      | none => held
      | some wantedTime =>
          if ∃ heldTime ∈ held.authoritySimTime, wantedTime < heldTime then held
          else { held with
            authoritySimTime := wanted.authoritySimTime
            authoritySource := wanted.authoritySource
            authoritySequence := wanted.authoritySequence }

def SchedulerConfig.longDelay (pair : Pair) : Bool := pair ∈ config.longDelayBoundsS

/-- What the pass decided before it sends anything. -/
structure PassPlan where
  longDelay : LongDelayPlan
  due : List (Pair × List NodeId)
  toRemove : List Pair
  toAdd : List Pair
  toUpdateLatency : List Pair

/-- Plan the pass.  A long-delay ground pass opens to a station only while its kernel state is
dispatchable, as every ground LinkUp does; stops and closes still run. -/
def planPass (intent : DispatchIntent) : SchedulerM PassPlan := do
  let s ← get
  let plan ← lift (planLongDelayContacts
    (s.actualLinks.filter fun pair _ => SchedulerConfig.longDelay config pair)
    (intent.desired.filter fun pair _ => SchedulerConfig.longDelay config pair)
    s.lastSnapshotEpochId intent.downReasons)
  let plan := { plan with opening := filterBlockedGroundMutations config s plan.opening }
  let nowMono ← monotonic surroundings
  let due := (dueEnds (sortedActual s) nowMono).filter fun d =>
    d.1 ∉ plan.forced.map Prod.fst ∧ d.1 ∉ plan.opening
  let diff := diffLinkState
    (s.actualLinks.filter fun pair _ => !SchedulerConfig.longDelay config pair)
    (intent.desired.filter fun pair _ => !SchedulerConfig.longDelay config pair)
  return {
    longDelay := plan
    due
    toRemove := filterGroundDownMutations config s diff.toRemove
    toAdd := filterBlockedGroundMutations config s diff.toAdd
    toUpdateLatency := filterBlockedGroundMutations config s diff.toUpdateLatency }

def PassPlan.LongDelayIdle (pass : PassPlan) : Prop := pass.due = [] ∧ pass.longDelay.IsEmpty

instance (pass : PassPlan) : Decidable pass.LongDelayIdle := inferInstanceAs (Decidable (_ ∧ _))

def reconcileLocal (intent : DispatchIntent) (pass : PassPlan) : SchedulerM Unit :=
  if config.mbbDispatch then
    reconcileMbb config surroundings intent pass.toRemove pass.toAdd
  else reconcileBbm config surroundings intent pass.toRemove pass.toAdd

/-- Send what the pass decided.  A pass with nothing to do sends nothing. -/
def dispatchPass (intent : DispatchIntent) (pass : PassPlan) : SchedulerM Unit :=
  «when» (¬ (pass.toRemove = [] ∧ pass.toAdd = [] ∧ pass.toUpdateLatency = [] ∧
      pass.LongDelayIdle)) do
    «when» (¬ pass.LongDelayIdle)
      (reconcileLongDelay config surroundings intent pass.longDelay pass.due)
    reconcileLocal config surroundings intent pass
    updateLatencies config surroundings intent pass.toUpdateLatency

def reconcileLinks (intent : DispatchIntent) : SchedulerM Unit := do
  modify fun s => { s with gsActuation := intent.verified }
  let pass ← planPass config surroundings intent
  modify fun s => { s with
    actualLinks := s.actualLinks.mapValues (refreshAuthority intent.desired) }
  dispatchPass config surroundings intent pass

end NodalArc.Reconcile

namespace NodalArc.NodeAgentBatches

export Reconcile (SchedulerConfig.longDelay)

end NodalArc.NodeAgentBatches
