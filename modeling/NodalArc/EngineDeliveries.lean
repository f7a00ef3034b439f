import NodalArc.DecisionEngine

/-! What handling a message does to the decision engine: every handler leaves the authority alone or
applies one change to it, and the history records the change. -/

namespace NodalArc.EngineDeliveries

open OrderedDict
open GroundPolicy
open LinkRecord
open NodeAgentBatches
open DecisionEngine
open StatefulProgram
open StatefulProgram.Program

/-- A message and the pairs the Scheduler holds up when it arrives. -/
structure Delivery where
  message : Message
  actual : List Pair

/-- Messages handled one after another; a handler that raises ends its own message only. -/
def deliverAll (config : SchedulerConfig) (epsilonMs : ℚ) (s : Engine)
    (deliveries : List Delivery) : Engine :=
  runAll (fun d => handleMessage config epsilonMs d.actual d.message) s deliveries

/-- Messages handled one after another, none of which may raise. -/
def handleAll (config : SchedulerConfig) (epsilonMs : ℚ) (s : Engine)
    (deliveries : List Delivery) : Except EngineError Engine :=
  runUntilRaise (fun d => handleMessage config epsilonMs d.actual d.message) s deliveries

def messages (deliveries : List Delivery) : List Message := deliveries.map Delivery.message

variable (config : SchedulerConfig) {epsilonMs : ℚ} {actual : List Pair} {s : Engine}
  {a : Authority} {c : Change}

/-! ### Changes -/

def Change.outcome (c : Change) (a : Authority) : Except EngineError Unit :=
  ((c.apply config).exec a).1

def Change.after (c : Change) (a : Authority) : Authority := ((c.apply config).exec a).2

def replay (a : Authority) (changes : List Change) : Authority :=
  changes.foldl (fun a c => Change.after config c a) a

theorem replay_concat (a : Authority) (changes : List Change) (c : Change) :
    replay config a (changes ++ [c]) = Change.after config c (replay config a changes) := by
  simp [replay]

def changed (c : Change) (s : Engine) : Engine :=
  { s with authority := Change.after config c s.authority, changes := s.changes ++ [c] }

@[simp] theorem changed_authority : (changed config c s).authority =
    Change.after config c s.authority := rfl

@[simp] theorem changed_changes : (changed config c s).changes = s.changes ++ [c] := rfl

@[simp] theorem changed_epochSync : (changed config c s).epochSync = s.epochSync := rfl

@[simp] theorem changed_pendingVisibilityEvents :
    (changed config c s).pendingVisibilityEvents = s.pendingVisibilityEvents := rfl

@[simp] theorem changed_lastVisibilitySimTime :
    (changed config c s).lastVisibilitySimTime = s.lastVisibilitySimTime := rfl

variable {config}

def SameSnapshot (a t : Authority) : Prop :=
  t.lastSnapshotSeq = a.lastSnapshotSeq ∧ t.lastSnapshotSimTime = a.lastSnapshotSimTime ∧
    t.lastSnapshotEpochId = a.lastSnapshotEpochId

instance : Std.Refl SameSnapshot := ⟨fun _ => ⟨rfl, rfl, rfl⟩⟩

instance : IsTrans Authority SameSnapshot :=
  ⟨fun _ _ _ h h' => ⟨h'.1.trans h.1, h'.2.1.trans h.2.1, h'.2.2.trans h.2.2⟩⟩

theorem sameSnapshot_applyEventToDesired (vis : VisibilityEvent) :
    Within SameSnapshot (applyEventToDesired config vis) := by
  refine within_bind within_get fun a => within_when fun _ => within_bind ?_ fun _ => ?_
  · exact within_modify fun _ => ⟨rfl, rfl, rfl⟩
  · split
    · refine within_bind (within_modify fun _ => ⟨rfl, rfl, rfl⟩) fun _ => within_when fun _ => ?_
      exact within_bind within_lift fun _ => within_modify fun _ => ⟨rfl, rfl, rfl⟩
    · refine within_bind (within_when fun _ => within_modify fun _ => ⟨rfl, rfl, rfl⟩) fun _ => ?_
      exact within_modify fun _ => ⟨rfl, rfl, rfl⟩

theorem sameSnapshot_readLink (snapshot : LinkStateSnapshot)
    (built : Dict Pair LinkInfo × Dict Pair OmeState) (link : LinkState) :
    Within SameSnapshot (readLink config snapshot built link) := by
  refine within_bind within_get fun a => within_bind within_lift fun info => ?_
  cases info with
  | none => exact within_pure
  | some info => exact within_bind (within_modify fun _ => ⟨rfl, rfl, rfl⟩) fun _ => within_pure

theorem sameSnapshot_assert : Within SameSnapshot assertAuthoritySubsetFailLoud :=
  within_bind within_get fun _ => within_require

theorem sameSnapshot_folded (batch : List VisibilityEvent) (a : Authority) :
    SameSnapshot a (Change.after config (.folded batch) a) := by
  have h : Within SameSnapshot ((Change.folded batch).apply config) := by
    refine within_bind (within_forM fun vis _ => sameSnapshot_applyEventToDesired vis) fun _ => ?_
    exact within_bind sameSnapshot_assert fun _ => within_modify fun _ => ⟨rfl, rfl, rfl⟩
  exact wp_exec (h a)

theorem after_replaced_lastSnapshotSeq (snapshot : LinkStateSnapshot) (a : Authority) :
    (Change.after config (.replaced snapshot) a).lastSnapshotSeq = snapshot.snapshotSeq := by
  have hread : Within SameSnapshot
      (snapshot.links.foldlM (readLink config snapshot) ((∅, ∅) : _ × _)) :=
    within_foldlM fun built link _ => sameSnapshot_readLink snapshot built link
  refine wp_exec (P := fun t : Authority => t.lastSnapshotSeq = snapshot.snapshotSeq) ?_
  simp only [Change.apply, replaceDesired, wp_bind, wp_modify]
  refine hread.wp _ (fun built t ht => ?_) fun e t ht => ht.1
  exact (sameSnapshot_assert.wp _ (fun _ u hu => hu.1.trans ht.1) fun _ u hu => hu.1.trans ht.1)

theorem wp_onAuthority {α : Type} {m : AuthorityM α} {Q : α → Engine → Prop}
    {E : EngineError → Engine → Prop} : wp (onAuthority m) s Q E ↔
      wp m s.authority (fun x a => Q x { s with authority := a })
        (fun e a => E e { s with authority := a }) := by
  simp only [onAuthority, wp_bind, wp_get, wp_set, wp_lift]
  unfold wp
  rcases m.exec s.authority with ⟨_ | _, _⟩ <;> simp

section Specs

variable {Q : Unit → Engine → Prop} {E : EngineError → Engine → Prop}

theorem wp_change : wp (change config c) s Q E ↔
    (Change.outcome config c s.authority = .ok () → Q () (changed config c s)) ∧
    (∀ e, Change.outcome config c s.authority = .error e → E e (changed config c s)) := by
  simp only [change, wp_bind, wp_modify, wp_onAuthority]
  unfold wp Change.outcome changed Change.after
  rcases (c.apply config).exec s.authority with ⟨_ | _, _⟩ <;> simp

theorem wp_flushPending {batchTime : ℚ} : wp (flushPending config actual batchTime) s Q E ↔
    let t := changed config (.folded s.pendingVisibilityEvents) s
    let outcome := Change.outcome config (.folded s.pendingVisibilityEvents) s.authority
    (outcome = .ok () → Q () { t with
      dispatchQueue := t.dispatchQueue ++ [buildDispatchIntent actual t batchTime .omeEvent false]
      pendingVisibilityEvents := [] }) ∧
    (∀ e, outcome = .error e → E e t) := by
  simp only [flushPending, enqueueIntent, wp_bind, wp_get, wp_change, wp_modify]

theorem wp_applySnapshot {snapshot : LinkStateSnapshot} {simTime : ℚ} {source : IntentSource} :
    wp (applySnapshot config actual snapshot simTime source) s Q E ↔
    let t := changed config (.replaced snapshot) s
    let outcome := Change.outcome config (.replaced snapshot) s.authority
    (s.authority.lastSnapshotSeq < snapshot.snapshotSeq →
      (outcome = .ok () → Q () { t with dispatchQueue :=
        t.dispatchQueue ++ [buildDispatchIntent actual t simTime source true] }) ∧
      (∀ e, outcome = .error e → E e t)) ∧
    (¬ s.authority.lastSnapshotSeq < snapshot.snapshotSeq → Q () s) := by
  simp only [applySnapshot, enqueueIntent, wp_bind, wp_get, wp_when, wp_change, wp_modify]

def appended (vis : VisibilityEvent) (s : Engine) : Engine :=
  { s with
    pendingVisibilityEvents := s.pendingVisibilityEvents ++ [vis]
    lastVisibilitySimTime := some vis.simTime }

/-- An event is refused when time ran backwards, joins the pending batch when it is of the batch's
time, and starts a batch of its own, after the pending one was flushed, when it is later. -/
theorem wp_handleVisibilityEvent {vis : VisibilityEvent}
    (hsuspended : s.epochSync.suspended = true → Q () s)
    (hregressed : s.epochSync.suspended = false → ∀ last, s.lastVisibilitySimTime = some last →
      vis.simTime < last → E (.simTimeRegressed last vis.simTime) s)
    (hjoined : s.epochSync.suspended = false →
      (∀ last, s.lastVisibilitySimTime = some last → last ≤ vis.simTime ∧
        (s.pendingVisibilityEvents = [] ∨ vis.simTime = last ∨
          (vis.simTime - last) * 1000 ≤ epsilonMs)) → Q () (appended vis s))
    (hflushed : s.epochSync.suspended = false → ∀ last first rest,
      s.lastVisibilitySimTime = some last → s.pendingVisibilityEvents = first :: rest →
      last < vis.simTime → epsilonMs < (vis.simTime - last) * 1000 →
      wp (flushPending config actual first.simTime) s (fun _ t => Q () (appended vis t)) E) :
    wp (handleVisibilityEvent config epsilonMs actual vis) s Q E := by
  simp only [handleVisibilityEvent, wp_bind, wp_get, wp_when]
  refine ⟨fun hrunning => ?_, fun h => hsuspended (by simpa using h)⟩
  cases hlast : s.lastVisibilitySimTime with
  | none => exact hjoined hrunning (by simp [hlast])
  | some last =>
    simp only [wp_bind, wp_require]
    refine ⟨fun hle => ?_, fun hlt => hregressed hrunning last hlast (not_le.mp hlt)⟩
    cases hpending : s.pendingVisibilityEvents with
    | nil =>
      refine hjoined hrunning ?_
      rintro _ hlast'
      obtain rfl := Option.some.inj (hlast.symm.trans hlast')
      exact ⟨hle, .inl hpending⟩
    | cons first rest =>
      rw [wp_bind, wp_when]
      refine ⟨fun hlater => ?_, fun hnear => hjoined hrunning ?_⟩
      · exact hflushed hrunning last first rest hlast hpending
          (lt_of_le_of_ne hle (Ne.symm hlater.1)) hlater.2
      · rintro _ hlast'
        obtain rfl := Option.some.inj (hlast.symm.trans hlast')
        refine ⟨hle, .inr ?_⟩
        by_cases heq : vis.simTime = last
        · exact .inl heq
        · exact .inr (not_lt.mp fun hlt => hnear ⟨heq, hlt⟩)

theorem wp_advanceClock {tick : ℚ}
    (hkept : (∀ first ∈ s.pendingVisibilityEvents.head?, tick ≤ first.simTime) →
      Q () { s with currentSimTime := some tick })
    (hflushed : ∀ first rest, s.pendingVisibilityEvents = first :: rest → first.simTime < tick →
      wp (flushPending config actual first.simTime) { s with currentSimTime := some tick }
        (fun _ t => Q () { t with lastVisibilitySimTime := some tick }) E) :
    wp (advanceClock config actual (some tick)) s Q E := by
  simp only [advanceClock, wp_bind, wp_modify, wp_get]
  split
  next hpending => exact hkept (by simp [hpending])
  next first rest hpending =>
    rw [wp_when, wp_bind]
    exact ⟨hflushed first rest hpending, fun hlater => hkept (by simpa [hpending] using hlater)⟩

/-- A seek to a later epoch: the authority is cleared and nothing is pending or queued. -/
def sought (config : SchedulerConfig) (epochId : Nat) (s : Engine) : Engine :=
  changed config (.cleared epochId) { s with
    epochSync := { suspended := true, expectedEpochId := epochId }
    pendingVisibilityEvents := []
    lastVisibilitySimTime := none
    dispatchQueue := [] }

theorem wp_beginSeekEpoch {epochId : Nat}
    (hlater : s.epochSync.expectedEpochId < epochId → Q () (sought config epochId s))
    (hignored : ¬ s.epochSync.expectedEpochId < epochId → Q () s) :
    wp (beginSeekEpoch config epochId) s Q E := by
  simp only [beginSeekEpoch, wp_bind, wp_get, wp_when, wp_modify, wp_change]
  refine ⟨fun h => ⟨fun _ => ?_, fun e he => ?_⟩, hignored⟩
  · have hbegun : s.epochSync.beginSeek epochId =
        { suspended := true, expectedEpochId := epochId } := by
      simp [EpochSyncState.beginSeek, Nat.not_le.mpr h]
    rw [hbegun]
    exact hlater h
  · have hok : Change.outcome config (.cleared epochId) s.authority = .ok () := rfl
    cases hok.symm.trans he

end Specs

/-- What a message makes of the seek synchronisation, other than a new seek. -/
inductive Synced (sync : EpochSyncState) : Message → EpochSyncState → Prop
  | ephemeris {e : Nat} : Synced sync (.sessionEphemeris e) (sync.markEphemeris e)
  | playing {e : Nat} : Synced sync (.playbackState .playing e) (sync.markPlaying e)
  | buffered {snapshot : LinkStateSnapshot} (h : sync.suspended = true) :
      Synced sync (.linkStateSnapshot snapshot) (sync.bufferSnapshot snapshot)
  | resumed {e : Option Nat} {simTime : Option ℚ} (h : sync.suspended = true) :
      Synced sync (.clockTick e simTime) sync.resume

/-- The change a message leads to in the state `t` its handler has reached. -/
inductive Applies (sync : EpochSyncState) (m : Message) (t : Engine) : Change → IntentSource → Prop
  | folded : Applies sync m t (.folded t.pendingVisibilityEvents) .omeEvent
  | replaced {snapshot : LinkStateSnapshot} {source : IntentSource}
      (hrunning : t.epochSync.suspended = false) (h : m = .linkStateSnapshot snapshot ∨
        sync.bufferedSnapshot = some snapshot ∧ sync.suspended = true) :
      Applies sync m t (.replaced snapshot) source

/-- A property that every move a handler makes keeps holds after the handler. -/
theorem handleMessage_invariant {m : Message} (I : Engine → Prop) (h : I s)
    (hclock : ∀ t last tick, I t →
      I { t with lastVisibilitySimTime := last, currentSimTime := tick })
    (hevent : ∀ vis t, m = .visibility vis → I t → I (appended vis t))
    (hsync : ∀ sync, Synced s.epochSync m sync → I { s with epochSync := sync })
    (hchange : ∀ t c source, Applies s.epochSync m t c source → I t →
      (∀ e, Change.outcome config c t.authority = .error e → I (changed config c t)) ∧
      ∀ simTime rebaseline, ∀ pending ⊆ t.pendingVisibilityEvents, I { changed config c t with
        pendingVisibilityEvents := pending
        dispatchQueue := t.dispatchQueue ++
          [buildDispatchIntent actual (changed config c t) simTime source rebaseline] })
    (hseek : ∀ e, m = .playbackState .seeking e → s.epochSync.expectedEpochId < e →
      I (sought config e s)) :
    wp (handleMessage config epsilonMs actual m) s (fun _ => I) fun _ => I := by
  have hflush : ∀ t batchTime, I t →
      wp (flushPending config actual batchTime) t (fun _ => I) fun _ => I := by
    intro t batchTime ht
    obtain ⟨hraised, hqueued⟩ := hchange t _ _ .folded ht
    rw [wp_flushPending]
    exact ⟨fun _ => hqueued _ _ _ (List.nil_subset _), hraised⟩
  have hsnapshot : ∀ t snapshot simTime source, I t →
      Applies s.epochSync m t (.replaced snapshot) source →
      wp (applySnapshot config actual snapshot simTime source) t (fun _ => I) fun _ => I := by
    intro t snapshot simTime source ht happlies
    obtain ⟨hraised, hqueued⟩ := hchange t _ _ happlies ht
    rw [wp_applySnapshot]
    exact ⟨fun _ => ⟨fun _ => hqueued _ _ _ (List.Subset.refl _), hraised⟩, fun _ => ht⟩
  cases m with
  | visibility vis =>
    refine wp_handleVisibilityEvent (fun _ => h) (fun _ _ _ _ => h)
      (fun _ _ => hevent vis s rfl h) ?_
    intro _ _ _ _ _ _ _ _
    exact wp_imp (hflush s _ h) fun _ t => hevent vis t rfl
  | clockTick e simTime =>
    cases e with
    | none => exact h
    | some e =>
      simp only [handleMessage, handleClockTickPayload, tryResumeOnClockTick, wp_bind, wp_get,
        wp_ite, wp_when, wp_modify]
      refine ⟨fun hsuspended => ⟨fun _ => ⟨fun _ => ?_, fun _ => h⟩, fun _ => h⟩, fun _ => ?_⟩
      · have hresumed := hsync _ (.resumed hsuspended)
        cases simTime with
        | none => exact hresumed
        | some tick =>
          have hticked := hclock _ s.lastVisibilitySimTime (some tick) hresumed
          simp only [wp_bind, wp_modify]
          cases hbuffered : s.epochSync.bufferedSnapshot with
          | none => exact hticked
          | some snapshot =>
            exact hsnapshot _ _ _ _ hticked (.replaced rfl (.inr ⟨hbuffered, hsuspended⟩))
      · cases simTime with
        | none => exact h
        | some tick =>
          have hticked := hclock s s.lastVisibilitySimTime (some tick) h
          refine wp_advanceClock (fun _ => hticked) fun _ _ _ _ => ?_
          exact wp_imp (hflush _ _ hticked) fun _ t => hclock t (some tick) t.currentSimTime
  | sessionEphemeris e => exact hsync _ .ephemeris
  | playbackState mode e =>
    cases mode with
    | seeking => exact wp_beginSeekEpoch (hseek e rfl) fun _ => h
    | playing => exact hsync _ .playing
    | paused => exact h
  | linkStateSnapshot snapshot =>
    simp only [handleMessage, handleLinkStateSnapshot, wp_bind, wp_get, wp_ite, wp_modify]
    exact ⟨fun hsuspended => hsync _ (.buffered hsuspended),
      fun hrunning => hsnapshot s _ _ _ h (.replaced (by simpa using hrunning) (.inl rfl))⟩

end NodalArc.EngineDeliveries
