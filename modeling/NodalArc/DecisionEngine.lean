import NodalArc.Reconcile

/-! The Scheduler's decision engine: the handlers of the orbital engine's messages and of scenario
commands.  They keep the desired links, batch visibility events by simulation time, hold dispatch
back while a seek replaces the epoch, and queue intents for the dispatch worker. -/

namespace NodalArc.DecisionEngine

open OrderedDict
open GroundPolicy
open LinkRecord
open NodeAgentBatches
open StatefulProgram
open StatefulProgram.Program

/-! ### Messages -/

inductive SchedulingState
  | active
  | teardown
deriving DecidableEq, Repr

/-- A change of a pair's visibility or allocation.  The smaller node id comes first.  `publishedIn`
is the epoch the orbital engine was in: it is not on the wire and no handler reads it. -/
structure VisibilityEvent where
  publishedIn : Nat
  simTime : ℚ
  nodeA : NodeId
  nodeB : NodeId
  visible : Bool
  scheduled : Bool
  rangeKm : ℚ
  latencyAToBMs : Option ℚ
  latencyBToAMs : Option ℚ
  linkType : LinkType
  gsTerminalIndex : Option Nat
  satTerminalIndex : Option Nat
  schedulingState : SchedulingState
  contactOpenedAt : Option Int
deriving DecidableEq

def VisibilityEvent.pair (vis : VisibilityEvent) : Pair := (vis.nodeA, vis.nodeB)

inductive CarrierState
  | up
  | lowerLayerDown
  | down
deriving DecidableEq, Repr

structure LinkState where
  nodeA : NodeId
  nodeB : NodeId
  adminUp : Bool
  carrier : CarrierState
  rangeKm : Option ℚ
  latencyAToBMs : Option ℚ
  latencyBToAMs : Option ℚ
  linkType : LinkType
  gsTerminalIndex : Option Nat
  satTerminalIndex : Option Nat
  schedulingState : SchedulingState
  contactOpenedAt : Option Int
  simTime : ℚ
deriving DecidableEq

def LinkState.pair (link : LinkState) : Pair := (link.nodeA, link.nodeB)

/-- The complete link state at one simulation time. -/
structure LinkStateSnapshot where
  simTime : ℚ
  snapshotSeq : Nat
  links : List LinkState
  epochId : Nat
deriving DecidableEq

inductive PlaybackMode
  | seeking
  | playing
  | paused
deriving DecidableEq, Repr

inductive ScenarioCommand
  | injectLinkDown (nodeA nodeB : NodeId) (reason : String)
  | injectSatelliteLoss (node : NodeId)
  | releaseLinkOverride (nodeA nodeB : NodeId)
  | restoreSatellite (node : NodeId)
  | clearAllOverrides
deriving DecidableEq

inductive Message
  | visibility (vis : VisibilityEvent)
  | clockTick (epochId : Option Nat) (simTime : Option ℚ)
  | sessionEphemeris (epochId : Nat)
  | playbackState (mode : PlaybackMode) (epochId : Nat)
  | linkStateSnapshot (snapshot : LinkStateSnapshot)
deriving DecidableEq

/-- Where an OME statement about a link came from. -/
inductive AuthoritySource
  | visibilityEvent
  | linkStateSnapshot
deriving DecidableEq, Repr

/-- What a handler raises.  An authority violation, a due drain before any clock tick and a seek
that times out stop the dispatcher. -/
inductive EngineError
  | missingRange (source : AuthoritySource) (pair : Pair)
  | negativeRange (source : AuthoritySource) (pair : Pair) (rangeKm : ℚ)
  | missingLatencyAToB (source : AuthoritySource) (pair : Pair)
  | missingLatencyBToA (source : AuthoritySource) (pair : Pair)
  | negativeLatency (source : AuthoritySource) (pair : Pair) (latencyAToBMs latencyBToAMs : ℚ)
  | missingTerminalIndices (gsTerminalIndex satTerminalIndex : Option Nat)
  | noGroundEndpoint (pair : Pair)
  | twoGroundEndpoints (pair : Pair)
  | unmappedLink (source : AuthoritySource) (pair : Pair)
  | namesNoContact (source : AuthoritySource) (pair : Pair)
  | contactOnLocalLink (source : AuthoritySource) (pair : Pair)
  | linkTimeDiffers (linkSimTime snapshotSimTime : ℚ)
  | simTimeRegressed (last current : ℚ)
  | clockTickWithoutEpochId
  | clockTickWithoutSimTime
  | authoritySubsetViolation (violations : List Pair)
  | scenarioBeforeSimTime
  | drainDueBeforeClockTick
  | seekTimedOut (epochId : Nat)
deriving DecidableEq

/-! ### Desired links -/

variable (config : SchedulerConfig)

/-- Range and each direction's one-way delay, as the orbital engine states them. -/
def requireOmeGeometry (source : AuthoritySource) (pair : Pair)
    (rangeKm latencyAToBMs latencyBToAMs : Option ℚ) : Except EngineError (ℚ × ℚ × ℚ) :=
  match rangeKm with
  | none => .error (.missingRange source pair)
  | some range =>
      if range < 0 then .error (.negativeRange source pair range)
      else
        match latencyAToBMs, latencyBToAMs with
        | none, _ => .error (.missingLatencyAToB source pair)
        | some _, none => .error (.missingLatencyBToA source pair)
        | some aToB, some bToA =>
            if aToB < 0 ∨ bToA < 0 then .error (.negativeLatency source pair aToB bToA)
            else .ok (range, aToB, bToA)

/-- The contact of an up link: one on every fixed long-delay link and on no other. -/
def contactOf (source : AuthoritySource) (pair : Pair) (openedAt : Option Int) (epochId : Nat) :
    Except EngineError (Option Contact) :=
  if pair ∈ config.longDelayBoundsS then
    match openedAt with
    | none => .error (.namesNoContact source pair)
    | some openedAt => .ok (some { epochId, openedAt })
  else
    match openedAt with
    | none => .ok none
    | some _ => .error (.contactOnLocalLink source pair)

/-- The allocated terminals of a ground link; exactly one end is a configured station. -/
def groundInterfaces (pair : Pair) (gsTerminalIndex satTerminalIndex : Option Nat) :
    Except EngineError (String × String) :=
  match gsTerminalIndex, satTerminalIndex with
  | some gsIndex, some satIndex =>
      let gsIface := "term" ++ toString gsIndex
      let satIface := "gnd" ++ toString satIndex
      if pair.1 ∈ config.gsCapacities then
        if pair.2 ∈ config.gsCapacities then .error (.twoGroundEndpoints pair)
        else .ok (gsIface, satIface)
      else if pair.2 ∈ config.gsCapacities then .ok (satIface, gsIface)
      else .error (.noGroundEndpoint pair)
  | _, _ => .error (.missingTerminalIndices gsTerminalIndex satTerminalIndex)

/-- The interfaces of a link: the allocated terminals of a ground link, the configured ones of any
other. -/
def interfacesOf (source : AuthoritySource) (pair : Pair) (linkType : LinkType)
    (gsTerminalIndex satTerminalIndex : Option Nat) : Except EngineError (String × String) :=
  match linkType with
  | .ground => groundInterfaces config pair gsTerminalIndex satTerminalIndex
  | .isl =>
      match config.interfaceMap.get? pair with
      | some interfaces => .ok interfaces
      | none => .error (.unmappedLink source pair)

def desiredLinkFromVisibility (objectId epochId : Nat) (vis : VisibilityEvent) :
    Except EngineError LinkInfo := do
  let (range, aToB, bToA) ← requireOmeGeometry .visibilityEvent vis.pair (some vis.rangeKm)
    vis.latencyAToBMs vis.latencyBToAMs
  let interfaces ← interfacesOf config .visibilityEvent vis.pair vis.linkType vis.gsTerminalIndex
    vis.satTerminalIndex
  let contact ← contactOf config .visibilityEvent vis.pair vis.contactOpenedAt epochId
  return {
    objectId
    interfaceA := interfaces.1
    interfaceB := interfaces.2
    latencyAToBMs := aToB
    latencyBToAMs := bToA
    linkType := vis.linkType
    rangeKm := some range
    authoritySimTime := some vis.simTime
    authoritySource := some "visibility_event"
    authoritySequence := none
    contact }

/-- The desired link of a snapshot entry whose carrier is up. -/
def desiredLinkFromSnapshotLink (objectId : Nat) (snapshot : LinkStateSnapshot) (link : LinkState) :
    Except EngineError (Option LinkInfo) :=
  if link.adminUp = false ∨ link.carrier ≠ .up then .ok none
  else if link.simTime ≠ snapshot.simTime then
    .error (.linkTimeDiffers link.simTime snapshot.simTime)
  else do
    let (range, aToB, bToA) ← requireOmeGeometry .linkStateSnapshot link.pair link.rangeKm
      link.latencyAToBMs link.latencyBToAMs
    let interfaces ← interfacesOf config .linkStateSnapshot link.pair link.linkType
      link.gsTerminalIndex link.satTerminalIndex
    let contact ← contactOf config .linkStateSnapshot link.pair link.contactOpenedAt
      snapshot.epochId
    return some {
      objectId
      interfaceA := interfaces.1
      interfaceB := interfaces.2
      latencyAToBMs := aToB
      latencyBToAMs := bToA
      linkType := link.linkType
      rangeKm := some range
      authoritySimTime := some snapshot.simTime
      authoritySource := some "link_state_snapshot"
      authoritySequence := some snapshot.snapshotSeq
      contact }

/-! ### Seek synchronisation -/

/-- Whether a new epoch has everything dispatch needs before it resumes. -/
structure EpochSyncState where
  suspended : Bool := false
  expectedEpochId : Nat := 0
  playbackPlayingReceived : Bool := false
  ephemerisMet : Bool := false
  snapshotMet : Bool := false
  bufferedSnapshot : Option LinkStateSnapshot := none
  stale : Bool := false
deriving DecidableEq

namespace EpochSyncState

def beginSeek (sync : EpochSyncState) (epochId : Nat) : EpochSyncState :=
  if epochId ≤ sync.expectedEpochId then sync
  else { suspended := true, expectedEpochId := epochId }

def markEphemeris (sync : EpochSyncState) (epochId : Nat) : EpochSyncState :=
  if epochId ≠ sync.expectedEpochId then sync else { sync with ephemerisMet := true }

def markPlaying (sync : EpochSyncState) (epochId : Nat) : EpochSyncState :=
  if epochId ≠ sync.expectedEpochId then sync else { sync with playbackPlayingReceived := true }

/-- Buffer a snapshot of the expected epoch while suspended. -/
def bufferSnapshot (sync : EpochSyncState) (snapshot : LinkStateSnapshot) : EpochSyncState :=
  if snapshot.epochId ≠ sync.expectedEpochId then sync
  else { sync with bufferedSnapshot := some snapshot, snapshotMet := true }

def ReadyForClockResume (sync : EpochSyncState) : Prop :=
  sync.playbackPlayingReceived = true ∧ sync.ephemerisMet = true ∧ sync.snapshotMet = true

instance (sync : EpochSyncState) : Decidable sync.ReadyForClockResume :=
  inferInstanceAs (Decidable (_ ∧ _ ∧ _))

def resume (sync : EpochSyncState) : EpochSyncState :=
  { sync with suspended := false, stale := false, bufferedSnapshot := none }

def markWatchdogTimeout (sync : EpochSyncState) (epochId : Nat) : EpochSyncState :=
  if sync.suspended = true ∧ sync.expectedEpochId = epochId then { sync with stale := true }
  else sync

@[simp] theorem markEphemeris_frame (sync : EpochSyncState) (epochId : Nat) :
    (sync.markEphemeris epochId).suspended = sync.suspended ∧
    (sync.markEphemeris epochId).expectedEpochId = sync.expectedEpochId ∧
    (sync.markEphemeris epochId).bufferedSnapshot = sync.bufferedSnapshot := by
  unfold markEphemeris
  split <;> simp

@[simp] theorem markPlaying_frame (sync : EpochSyncState) (epochId : Nat) :
    (sync.markPlaying epochId).suspended = sync.suspended ∧
    (sync.markPlaying epochId).expectedEpochId = sync.expectedEpochId ∧
    (sync.markPlaying epochId).bufferedSnapshot = sync.bufferedSnapshot := by
  unfold markPlaying
  split <;> simp

@[simp] theorem bufferSnapshot_expectedEpochId (sync : EpochSyncState)
    (snapshot : LinkStateSnapshot) :
    (sync.bufferSnapshot snapshot).expectedEpochId = sync.expectedEpochId := by
  unfold bufferSnapshot
  split <;> rfl

end EpochSyncState

/-! ### The engine's state -/

/-- What the orbital engine last stated about a pair. -/
structure OmeState where
  visible : Bool
  scheduled : Bool
  schedulingState : SchedulingState
deriving DecidableEq

def VisibilityEvent.omeState (vis : VisibilityEvent) : OmeState where
  visible := vis.visible
  scheduled := vis.scheduled
  schedulingState := vis.schedulingState

def LinkState.omeState (link : LinkState) : OmeState where
  visible := link.carrier ≠ .down
  scheduled := link.carrier = .up
  schedulingState := link.schedulingState

/-- What the Scheduler holds of the orbital engine's statements. -/
structure Authority where
  desiredLinks : Dict Pair LinkInfo
  omeView : Dict Pair OmeState
  teardownPairs : List Pair
  lastSnapshotSeq : Nat
  lastSnapshotSimTime : Option ℚ
  lastSnapshotEpochId : Nat
  pendingFoldDiagnostics : List Pair
  /-- The next fresh link object. -/
  objects : Nat

/-- What changes the authority: a seek, a snapshot, a batch of events. -/
inductive Change
  | cleared (epochId : Nat)
  | replaced (snapshot : LinkStateSnapshot)
  | folded (batch : List VisibilityEvent)
deriving DecidableEq

inductive IntentSource
  | omeEvent
  | snapshot
  | scenario
  | resume
  | drain
deriving DecidableEq, Repr

structure QueuedIntent where
  desired : Dict Pair LinkInfo
  downReasons : Dict Pair String
  forcedBbmPairs : List Pair
  simTime : ℚ
  source : IntentSource
  rebaselineCounts : Bool
deriving DecidableEq

/-- The decision engine.  `changes` is the history of its authority, which no handler reads. -/
structure Engine where
  authority : Authority
  pendingVisibilityEvents : List VisibilityEvent
  lastVisibilitySimTime : Option ℚ
  currentSimTime : Option ℚ
  epochSync : EpochSyncState
  overridePairs : Dict Pair String
  overrideNodes : Dict NodeId String
  dispatchQueue : List QueuedIntent
  changes : List Change

abbrev AuthorityM := Program EngineError Authority

abbrev EngineM := Program EngineError Engine

def freshAuthority : Authority where
  desiredLinks := ∅
  omeView := ∅
  teardownPairs := []
  lastSnapshotSeq := 0
  lastSnapshotSimTime := none
  lastSnapshotEpochId := 0
  pendingFoldDiagnostics := []
  objects := 0

def freshEngine : Engine where
  authority := freshAuthority
  pendingVisibilityEvents := []
  lastVisibilitySimTime := none
  currentSimTime := none
  epochSync := {}
  overridePairs := ∅
  overrideNodes := ∅
  dispatchQueue := []
  changes := []

/-! ### Changes of the authority -/

def setTeardown (pair : Pair) (state : SchedulingState) (s : Authority) : Authority :=
  { s with teardownPairs :=
      if state = .teardown then s.teardownPairs.insert pair else s.teardownPairs.erase pair }

/-- One visibility event folded into the desired links.  An event the last snapshot already covers
is ignored, and a pair already desired keeps its link. -/
def applyEventToDesired (vis : VisibilityEvent) : AuthorityM Unit := do
  let s ← get
  «when» (∀ t ∈ s.lastSnapshotSimTime, t < vis.simTime) do
    modify fun s => { s with omeView := s.omeView.insert vis.pair vis.omeState }
    if vis.visible = true ∧ vis.scheduled = true then
      modify (setTeardown vis.pair vis.schedulingState)
      «when» (vis.pair ∉ s.desiredLinks) do
        let info ← lift (desiredLinkFromVisibility config s.objects s.lastSnapshotEpochId vis)
        modify fun s => { s with
          desiredLinks := s.desiredLinks.insert vis.pair info, objects := s.objects + 1 }
    else
      «when» (vis.visible = true ∧ vis.linkType = .ground ∧ vis.pair ∈ s.teardownPairs) do
        modify fun s => { s with
          pendingFoldDiagnostics := s.pendingFoldDiagnostics ++ [vis.pair] }
      modify fun s => { s with
        desiredLinks := s.desiredLinks.erase vis.pair
        teardownPairs := s.teardownPairs.erase vis.pair }

def applyEventsToDesired (events : List VisibilityEvent) : AuthorityM Unit :=
  forM events (applyEventToDesired config)

/-- One entry of a snapshot: the desired links and the orbital engine's view so far. -/
def readLink (snapshot : LinkStateSnapshot) (built : Dict Pair LinkInfo × Dict Pair OmeState)
    (link : LinkState) : AuthorityM (Dict Pair LinkInfo × Dict Pair OmeState) := do
  let s ← get
  let view := built.2.insert link.pair link.omeState
  match ← lift (desiredLinkFromSnapshotLink config s.objects snapshot link) with
  | none => return (built.1, view)
  | some info =>
      modify fun s => setTeardown link.pair link.schedulingState { s with objects := s.objects + 1 }
      return (built.1.insert link.pair info, view)

/-- A snapshot replaces the desired links and the view.  An entry that cannot be built leaves the
old links under the new sequence number. -/
def replaceDesired (snapshot : LinkStateSnapshot) : AuthorityM Unit := do
  modify fun s => { s with
    lastSnapshotSeq := snapshot.snapshotSeq
    lastSnapshotSimTime := some snapshot.simTime
    lastSnapshotEpochId := snapshot.epochId
    teardownPairs := [] }
  let built ← snapshot.links.foldlM (readLink config snapshot) (∅, ∅)
  modify fun s => { s with desiredLinks := built.1, omeView := built.2 }

def clearAuthority (epochId : Nat) (s : Authority) : Authority :=
  { s with
    desiredLinks := ∅
    omeView := ∅
    teardownPairs := []
    lastSnapshotSimTime := none
    lastSnapshotEpochId := epochId }

/-- The desired pairs the orbital engine has not stated visible and scheduled. -/
def authoritySubsetViolation (s : Authority) : List Pair :=
  s.desiredLinks.keys.filter fun pair =>
    match s.omeView.get? pair with
    | none => true
    | some stated => ¬ (stated.visible = true ∧ stated.scheduled = true)

def assertAuthoritySubsetFailLoud : AuthorityM Unit := do
  let s ← get
  require (authoritySubsetViolation s = [])
    (.authoritySubsetViolation (authoritySubsetViolation s))

def publishFoldDiagnostics : AuthorityM Unit :=
  modify fun s => { s with pendingFoldDiagnostics := [] }

/-- What a change does up to the intent it queues. -/
def Change.apply : Change → AuthorityM Unit
  | .cleared epochId => modify (clearAuthority epochId)
  | .replaced snapshot => do
      replaceDesired config snapshot
      assertAuthoritySubsetFailLoud
  | .folded batch => do
      applyEventsToDesired config batch
      assertAuthoritySubsetFailLoud
      publishFoldDiagnostics

def onAuthority {α : Type} (m : AuthorityM α) : EngineM α := do
  let s ← get
  let outcome := m.exec s.authority
  set { s with authority := outcome.2 }
  lift outcome.1

def change (c : Change) : EngineM Unit := do
  modify fun s => { s with changes := s.changes ++ [c] }
  onAuthority (c.apply config)

/-! ### Intents -/

def effectiveDesiredLinks (s : Engine) : Dict Pair LinkInfo :=
  s.authority.desiredLinks.filter fun pair _ =>
    pair ∉ s.overridePairs ∧ pair.1 ∉ s.overrideNodes ∧ pair.2 ∉ s.overrideNodes

/-- Why an overridden pair goes: the pair's own reason, else its first end's, else its second
end's.  An empty reason counts as none. -/
def overrideReason (s : Engine) (pair : Pair) : Option String :=
  [s.overridePairs.get? pair, s.overrideNodes.get? pair.1, s.overrideNodes.get? pair.2].findSome?
    (·.filter (· ≠ ""))

/-- An intent from the desired links and the overrides.  `actual` are the pairs the Scheduler holds
up. -/
def buildDispatchIntent (actual : List Pair) (s : Engine) (simTime : ℚ) (source : IntentSource)
    (rebaselineCounts : Bool) : QueuedIntent :=
  let effective := effectiveDesiredLinks s
  let candidates := (s.authority.desiredLinks.keys ++ actual).dedup.filter (· ∉ effective)
  let overridden := candidates.filterMap fun pair => (overrideReason s pair).map (pair, ·)
  { desired := effective
    downReasons := .ofList overridden
    forcedBbmPairs := overridden.map Prod.fst
    simTime
    source
    rebaselineCounts }

def enqueueIntent (actual : List Pair) (simTime : ℚ) (source : IntentSource)
    (rebaselineCounts : Bool) : EngineM Unit :=
  modify fun s => { s with dispatchQueue :=
    s.dispatchQueue ++ [buildDispatchIntent actual s simTime source rebaselineCounts] }

def flushPending (actual : List Pair) (batchTime : ℚ) : EngineM Unit := do
  let s ← get
  change config (.folded s.pendingVisibilityEvents)
  enqueueIntent actual batchTime .omeEvent false
  modify fun s => { s with pendingVisibilityEvents := [] }

/-! ### Handlers -/

/-- Enter seek suspension and clear what cannot cross the epoch. -/
def beginSeekEpoch (epochId : Nat) : EngineM Unit := do
  let s ← get
  «when» (s.epochSync.expectedEpochId < epochId) do
    modify fun s => { s with
      epochSync := s.epochSync.beginSeek epochId
      pendingVisibilityEvents := []
      lastVisibilitySimTime := none
      dispatchQueue := [] }
    change config (.cleared epochId)

variable (epsilonMs : ℚ) (actual : List Pair)

/-- A visibility event.  The batch of an earlier time is flushed before the event joins its own. -/
def handleVisibilityEvent (vis : VisibilityEvent) : EngineM Unit := do
  let s ← get
  «when» (s.epochSync.suspended = false) do
    match s.lastVisibilitySimTime with
    | none => pure ()
    | some last =>
        require (last ≤ vis.simTime) (.simTimeRegressed last vis.simTime)
        match s.pendingVisibilityEvents with
        | [] => pure ()
        | first :: _ =>
            «when» (vis.simTime ≠ last ∧ epsilonMs < (vis.simTime - last) * 1000)
              (flushPending config actual first.simTime)
    modify fun s => { s with
      pendingVisibilityEvents := s.pendingVisibilityEvents ++ [vis]
      lastVisibilitySimTime := some vis.simTime }

/-- Apply a snapshot newer than the last one and queue the intent that rebaselines the counters. -/
def applySnapshot (snapshot : LinkStateSnapshot) (simTime : ℚ) (source : IntentSource) :
    EngineM Unit := do
  let s ← get
  «when» (s.authority.lastSnapshotSeq < snapshot.snapshotSeq) do
    change config (.replaced snapshot)
    enqueueIntent actual simTime source true

/-- Resume on a clock tick of the expected epoch once playback, ephemeris and snapshot arrived. -/
def tryResumeOnClockTick (simTime : Option ℚ) : EngineM Unit := do
  let s ← get
  «when» s.epochSync.ReadyForClockResume do
    modify fun s => { s with epochSync := s.epochSync.resume }
    match simTime with
    | none => throw .clockTickWithoutSimTime
    | some tick =>
        modify fun s => { s with currentSimTime := some tick }
        match s.epochSync.bufferedSnapshot with
        | none => pure ()
        | some snapshot => applySnapshot config actual snapshot tick .resume

/-- A clock tick outside a seek.  Only a batch older than the tick is flushed: events at the tick's
own time may still be on their way. -/
def advanceClock (simTime : Option ℚ) : EngineM Unit := do
  match simTime with
  | none => throw .clockTickWithoutSimTime
  | some tick =>
      modify fun s => { s with currentSimTime := some tick }
      let s ← get
      match s.pendingVisibilityEvents with
      | [] => pure ()
      | first :: _ =>
          «when» (first.simTime < tick) do
            flushPending config actual first.simTime
            modify fun s => { s with lastVisibilitySimTime := some tick }

def handleClockTickPayload (epochId : Option Nat) (simTime : Option ℚ) : EngineM Unit :=
  match epochId with
  | none => throw .clockTickWithoutEpochId
  | some epochId => do
      let s ← get
      if s.epochSync.suspended = true then
        «when» (epochId = s.epochSync.expectedEpochId) (tryResumeOnClockTick config actual simTime)
      else advanceClock config actual simTime

def handleSessionEphemeris (epochId : Nat) : EngineM Unit :=
  modify fun s => { s with epochSync := s.epochSync.markEphemeris epochId }

def handlePlaybackState (mode : PlaybackMode) (epochId : Nat) : EngineM Unit :=
  match mode with
  | .seeking => beginSeekEpoch config epochId
  | .playing => modify fun s => { s with epochSync := s.epochSync.markPlaying epochId }
  | .paused => pure ()

/-- A snapshot: buffered while suspended, applied at once otherwise. -/
def handleLinkStateSnapshot (snapshot : LinkStateSnapshot) : EngineM Unit := do
  let s ← get
  if s.epochSync.suspended = true then
    modify fun s => { s with epochSync := s.epochSync.bufferSnapshot snapshot }
  else applySnapshot config actual snapshot snapshot.simTime .snapshot

def handleMessage : Message → EngineM Unit
  | .visibility vis => handleVisibilityEvent config epsilonMs actual vis
  | .clockTick epochId simTime => handleClockTickPayload config actual epochId simTime
  | .sessionEphemeris epochId => handleSessionEphemeris epochId
  | .playbackState mode epochId => handlePlaybackState config mode epochId
  | .linkStateSnapshot snapshot => handleLinkStateSnapshot config actual snapshot

/-- The watchdog of a seek: a Scheduler still suspended stops. -/
def epochWatchdog (epochId : Nat) : EngineM Unit := do
  let s ← get
  «when» (s.epochSync.suspended = true ∧ s.epochSync.expectedEpochId = epochId) do
    modify fun s => { s with epochSync := s.epochSync.markWatchdogTimeout epochId }
    throw (.seekTimedOut epochId)

/-! ### Scenario commands and drain wake-ups -/

inductive ScenarioReply
  | unknownNodes (nodes : List NodeId)
  | acceptedOnResume
  | accepted
deriving DecidableEq

def ScenarioCommand.nodes : ScenarioCommand → List NodeId
  | .injectLinkDown nodeA nodeB _ => [nodeA, nodeB]
  | .injectSatelliteLoss node => [node]
  | .releaseLinkOverride nodeA nodeB => [nodeA, nodeB]
  | .restoreSatellite node => [node]
  | .clearAllOverrides => []

def scenarioKnownNodeIds (s : Engine) : List NodeId :=
  config.gsCapacities.keys ++ config.satCapacities.keys ++
    (config.interfaceMap.keys ++ s.authority.desiredLinks.keys ++ actual ++ s.authority.omeView.keys).flatMap
      fun pair => [pair.1, pair.2]

def unknownScenarioNodeIds (s : Engine) (command : ScenarioCommand) : List NodeId :=
  sortedNodes (command.nodes.filter (· ∉ scenarioKnownNodeIds config actual s))

def orderedPair (nodeA nodeB : NodeId) : Pair :=
  if nodeA ≤ nodeB then (nodeA, nodeB) else (nodeB, nodeA)

def ScenarioCommand.override (s : Engine) : ScenarioCommand → Engine
  | .injectLinkDown nodeA nodeB reason =>
      { s with overridePairs := s.overridePairs.insert (orderedPair nodeA nodeB) reason }
  | .injectSatelliteLoss node =>
      { s with overrideNodes := s.overrideNodes.insert node "satellite_loss" }
  | .releaseLinkOverride nodeA nodeB =>
      { s with overridePairs := s.overridePairs.erase (orderedPair nodeA nodeB) }
  | .restoreSatellite node => { s with overrideNodes := s.overrideNodes.erase node }
  | .clearAllOverrides => { s with overridePairs := ∅, overrideNodes := ∅ }

/-- A scenario command changes the overrides and, unless a seek is under way, queues an intent. -/
def onScenarioCommand (command : ScenarioCommand) : EngineM ScenarioReply := do
  let s ← get
  if unknownScenarioNodeIds config actual s command ≠ [] then
    return .unknownNodes (unknownScenarioNodeIds config actual s command)
  else if s.epochSync.suspended = true then
    modify command.override
    return .acceptedOnResume
  else
    match s.currentSimTime with
    | none => throw .scenarioBeforeSimTime
    | some simTime =>
        modify command.override
        enqueueIntent actual simTime .scenario false
        return .accepted

/-- The wake-up for a draining end that is due: it queues an intent from the desired links, or
stops the dispatcher when no clock tick has arrived yet. -/
def wakeForDrain : EngineM Unit := do
  let s ← get
  match s.currentSimTime with
  | none => throw .drainDueBeforeClockTick
  | some simTime => enqueueIntent actual simTime .drain false

end NodalArc.DecisionEngine
