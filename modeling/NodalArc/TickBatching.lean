import NodalArc.StatedLinks

/-! Batching of visibility events by simulation time.  The events of one tick are folded into the
desired links together, so that no intent carries half of a handover. -/

namespace NodalArc.TickBatching

open GroundPolicy
open NodeAgentBatches
open DecisionEngine
open EngineDeliveries
open StatedLinks
open StatefulProgram
open StatefulProgram.Program

variable {done rest : List Message} {m : Message}

variable {config : SchedulerConfig} {epsilonMs : ℚ} {actual : List Pair} {s t : Engine}
  {events : List VisibilityEvent} {batches : List (List VisibilityEvent)} {vis : VisibilityEvent}

def eventsOf (messages : List Message) : List VisibilityEvent :=
  messages.filterMap fun
    | .visibility vis => some vis
    | _ => none

def messageTime : Message → Option ℚ
  | .visibility vis => some vis.simTime
  | .clockTick _ simTime => simTime
  | _ => none

/-- Events with events and ticks with ticks, each subject in the order of its times. -/
def InTimeOrder : Message → Message → Prop
  | .visibility vis, .visibility vis' => vis.simTime ≤ vis'.simTime
  | .clockTick _ (some tick), .clockTick _ (some tick') => tick < tick'
  | _, _ => True

def EventNotOvertaken : Message → Message → Prop
  | .clockTick _ (some tick), .visibility vis => tick ≤ vis.simTime
  | _, _ => True

/-- Events and clock ticks of one epoch, from a Scheduler with nothing pending. -/
structure TickDelivery (config : SchedulerConfig) (epsilonMs : ℚ) (s : Engine)
    (messages : List Message) : Prop where
  running : s.epochSync.suspended = false
  idle : s.pendingVisibilityEvents = []
  backed : Backed s.authority
  kinds : ∀ m ∈ messages, (∃ vis, m = .visibility vis) ∨
    ∃ epochId tick, m = .clockTick (some epochId) (some tick)
  inOrder : messages.Pairwise InTimeOrder
  spaced : ∀ m ∈ messages, ∀ m' ∈ messages, ∀ x ∈ messageTime m, ∀ y ∈ messageTime m',
    x < y → epsilonMs < (y - x) * 1000
  started : ∀ last ∈ s.lastVisibilitySimTime, ∀ vis ∈ eventsOf messages, last ≤ vis.simTime
  foldable : FoldableAll config s.authority.lastSnapshotEpochId (stated s.authority)
    ((eventsOf messages).filter (Newer s.authority))

/-- Groups of one key each, in increasing order of their keys. -/
def GroupedBy {α : Type} (key : α → ℚ) (groups : List (List α)) : Prop :=
  (∀ group ∈ groups, ∀ x ∈ group, ∀ y ∈ group, key x = key y) ∧
    groups.Pairwise fun group later => ∀ x ∈ group, ∀ y ∈ later, key x < key y

theorem groupedBy_concat {α : Type} {key : α → ℚ} {groups : List (List α)} {last : List α} :
    GroupedBy key (groups ++ [last]) ↔ GroupedBy key groups ∧
      (∀ x ∈ last, ∀ y ∈ last, key x = key y) ∧
      ∀ group ∈ groups, ∀ x ∈ group, ∀ y ∈ last, key x < key y := by
  simp only [GroupedBy, List.forall_mem_append, List.forall_mem_singleton, List.pairwise_append,
    List.pairwise_singleton, true_and]
  tauto

/-- The batches folded since `s`: every event is in one of them or still pending, in order, the
events of one time together, and each intent was built on whole batches. -/
structure Batched (config : SchedulerConfig) (s : Engine) (events : List VisibilityEvent)
    (batches : List (List VisibilityEvent)) (t : Engine) : Prop where
  events : batches.flatten ++ t.pendingVisibilityEvents = events
  grouped : GroupedBy VisibilityEvent.simTime (batches ++ [t.pendingVisibilityEvents])
  changes : t.changes = s.changes ++ batches.map .folded
  authority : t.authority = replay config s.authority (batches.map .folded)
  intents : ∃ intents, t.dispatchQueue = s.dispatchQueue ++ intents ∧ ∀ intent ∈ intents,
    ∃ count, intent.desired = effectiveDesiredLinks { s with
      authority := replay config s.authority ((batches.take count).map .folded) }

structure Batching (config : SchedulerConfig) (s : Engine) (events : List VisibilityEvent)
    (batches : List (List VisibilityEvent)) (t : Engine) : Prop extends
    Batched config s events batches t where
  running : t.epochSync.suspended = false
  overridePairs : t.overridePairs = s.overridePairs
  overrideNodes : t.overrideNodes = s.overrideNodes
  folded : ∀ batch ∈ batches, ∀ vis ∈ batch, ∃ last,
    t.lastVisibilitySimTime = some last ∧ vis.simTime < last
  pending : ∀ vis ∈ t.pendingVisibilityEvents, t.lastVisibilitySimTime = some vis.simTime

theorem Batching.join (h : Batching config s events batches t)
    (hlast : ∀ last, t.lastVisibilitySimTime = some last → last ≤ vis.simTime)
    (hsame : t.pendingVisibilityEvents = [] ∨ t.lastVisibilitySimTime = some vis.simTime) :
    Batching config s (events ++ [vis]) batches (appended vis t) := by
  -- an event that joins a batch has the batch's time
  have htime : ∀ v ∈ t.pendingVisibilityEvents, v.simTime = vis.simTime := by
    intro v hv
    rcases hsame with hnil | hsame
    · simp [hnil] at hv
    · exact Option.some.inj ((h.pending v hv).symm.trans hsame)
  have hearlier : ∀ batch ∈ batches, ∀ v ∈ batch, v.simTime < vis.simTime := by
    intro batch hbatch v hv
    obtain ⟨last, hlast', hlt⟩ := h.folded batch hbatch v hv
    exact lt_of_lt_of_le hlt (hlast last hlast')
  refine { h with events := ?_, grouped := ?_, folded := ?_, pending := ?_ }
  · simp [appended, ← h.events]
  · have hgroups := (groupedBy_concat.mp h.grouped).1
    refine groupedBy_concat.mpr ⟨hgroups, ?_, ?_⟩
    · have hall : ∀ v ∈ (appended vis t).pendingVisibilityEvents, v.simTime = vis.simTime := by
        intro v hv
        rcases List.mem_append.mp hv with hv | hv
        · exact htime v hv
        · rw [List.mem_singleton.mp hv]
      exact fun x hx y hy => (hall x hx).trans (hall y hy).symm
    · intro batch hbatch x hx y hy
      rcases List.mem_append.mp hy with hy | hy
      · exact htime y hy ▸ hearlier batch hbatch x hx
      · rw [List.mem_singleton.mp hy]
        exact hearlier batch hbatch x hx
  · intro batch hbatch v hv
    exact ⟨vis.simTime, rfl, hearlier batch hbatch v hv⟩
  · intro v hv
    rcases List.mem_append.mp hv with hv | hv
    · rw [htime v hv]
      rfl
    · obtain rfl : v = vis := by simpa using hv
      rfl

/-- Where folding the pending batch leaves the engine, with the last time set as the caller does. -/
def flushed (config : SchedulerConfig) (actual : List Pair) (batchTime last : ℚ) (t : Engine) :
    Engine :=
  let u := changed config (.folded t.pendingVisibilityEvents) t
  { u with
    dispatchQueue := u.dispatchQueue ++ [buildDispatchIntent actual u batchTime .omeEvent false]
    pendingVisibilityEvents := []
    lastVisibilitySimTime := some last }

theorem Batching.flushed {batchTime last : ℚ} (h : Batching config s events batches t)
    (hlast : ∀ earlier, t.lastVisibilitySimTime = some earlier → earlier < last) :
    Batching config s events (batches ++ [t.pendingVisibilityEvents])
      (flushed config actual batchTime last t) where
  running := h.running
  overridePairs := h.overridePairs
  overrideNodes := h.overrideNodes
  events := by simpa [TickBatching.flushed] using h.events
  grouped := groupedBy_concat.mpr ⟨h.grouped, by simp [TickBatching.flushed],
    by simp [TickBatching.flushed]⟩
  changes := by simp [TickBatching.flushed, h.changes]
  authority := by
    rw [List.map_append, List.map_singleton, replay_concat, ← h.authority]
    rfl
  folded batch hbatch vis hvis := by
    refine ⟨last, rfl, ?_⟩
    rcases List.mem_append.mp hbatch with hbatch | hbatch
    · obtain ⟨earlier, hearlier, hlt⟩ := h.folded batch hbatch vis hvis
      exact hlt.trans (hlast earlier hearlier)
    · rw [List.mem_singleton.mp hbatch] at hvis
      exact hlast _ (h.pending vis hvis)
  pending vis hvis := nomatch hvis
  intents := by
    obtain ⟨intents, hqueue, hintents⟩ := h.intents
    refine ⟨intents ++ [buildDispatchIntent actual
      (changed config (.folded t.pendingVisibilityEvents) t) batchTime .omeEvent false], ?_, ?_⟩
    · simp [TickBatching.flushed, changed, hqueue]
    · intro intent hintent
      rcases List.mem_append.mp hintent with hintent | hintent
      · -- an earlier intent was built on batches that are still the first ones
        obtain ⟨count, hcount⟩ := hintents intent hintent
        refine ⟨min count batches.length, ?_⟩
        rw [List.take_append_of_le_length (min_le_right _ _), ← List.take_take, List.take_length]
        exact hcount
      · obtain rfl := List.mem_singleton.mp hintent
        refine ⟨batches.length + 1, ?_⟩
        rw [List.take_of_length_le (by simp), List.map_append, List.map_singleton, replay_concat,
          ← h.authority]
        simp [buildDispatchIntent, effectiveDesiredLinks, changed, h.overridePairs, h.overrideNodes]

theorem Batching.outcome_ok (h : Batching config s events batches t) (hbacked : Backed s.authority)
    (hfold : FoldableAll config s.authority.lastSnapshotEpochId (stated s.authority)
      (events.filter (Newer s.authority))) :
    Change.outcome config (.folded t.pendingVisibilityEvents) t.authority = .ok () := by
  rw [← h.events, List.filter_append, foldableAll_append] at hfold
  obtain ⟨hstated, hbacked'⟩ := replay_folded hfold.1 hbacked
  have hsame : SameSnapshot s.authority (replay config s.authority (batches.map .folded)) :=
    sameSnapshot_replay batches s.authority
  rw [← h.authority] at hstated hbacked' hsame
  refine (outcome_of_wp (wp_folded ?_ hbacked')).1
  have hfilter : t.pendingVisibilityEvents.filter (Newer t.authority) =
      t.pendingVisibilityEvents.filter (Newer s.authority) :=
    List.filter_congr fun v _ => by simpa using newer_iff_of_sameSnapshot hsame v
  rw [hfilter, hsame.2.2, hstated]
  exact hfold.2

def LastSeen (s : Engine) (done : List Message) (t : Engine) : Prop :=
  ∀ last, t.lastVisibilitySimTime = some last →
    s.lastVisibilitySimTime = some last ∨ ∃ m ∈ done, messageTime m = some last

def Stands (config : SchedulerConfig) (s : Engine) (done : List Message) (t : Engine) : Prop :=
  (∃ batches, Batching config s (eventsOf done) batches t) ∧ LastSeen s done t

theorem LastSeen.of_time {last : ℚ} (hm : messageTime m = some last)
    (ht : t.lastVisibilitySimTime = some last) : LastSeen s (done ++ [m]) t := by
  intro last' hlast'
  obtain rfl := Option.some.inj (ht.symm.trans hlast')
  exact .inr ⟨m, by simp, hm⟩

theorem LastSeen.mono {u : Engine} (h : LastSeen s done t)
    (hu : u.lastVisibilitySimTime = t.lastVisibilitySimTime) : LastSeen s (done ++ [m]) u := by
  intro last hlast
  rcases h last (hu ▸ hlast) with hstart | ⟨m', hm', htime⟩
  · exact .inl hstart
  · exact .inr ⟨m', by simp [hm'], htime⟩

variable (h : Batching config s events batches t)
  (houtcome : Change.outcome config (.folded t.pendingVisibilityEvents) t.authority = .ok ())

include h houtcome

theorem Batching.wp_handleVisibilityEvent
    (hlast : ∀ last, t.lastVisibilitySimTime = some last → last ≤ vis.simTime)
    (hspaced : ∀ v ∈ t.pendingVisibilityEvents, v.simTime < vis.simTime →
      epsilonMs < (vis.simTime - v.simTime) * 1000) :
    wp (handleVisibilityEvent config epsilonMs actual vis) t
      (fun _ u => (∃ batches, Batching config s (events ++ [vis]) batches u) ∧
        u.lastVisibilitySimTime = some vis.simTime) (fun _ _ => False) := by
  refine EngineDeliveries.wp_handleVisibilityEvent ?_ ?_ ?_ ?_
  · intro hsuspended
    exact absurd (h.running.symm.trans hsuspended) (by simp)
  · intro _ last hlast' hregressed
    exact absurd (hlast last hlast') (not_le.mpr hregressed)
  · intro _ hnear
    refine ⟨⟨batches, h.join hlast ?_⟩, rfl⟩
    cases hpending : t.pendingVisibilityEvents with
    | nil => exact .inl rfl
    | cons first rest =>
      -- the batch is not empty, so its time is the last one and spacing leaves equality
      right
      have hmem : first ∈ t.pendingVisibilityEvents := by simp [hpending]
      have hfirst := h.pending first hmem
      rw [hfirst]
      rcases (hlast _ hfirst).lt_or_eq with hlt | heq
      · rcases (hnear _ hfirst).2 with hnil | heq | hclose
        · simp [hpending] at hnil
        · rw [heq]
        · exact absurd (hspaced first hmem hlt) (not_lt.mpr hclose)
      · rw [heq]
  · intro _ last first rest hlast' hpending hlt hlater
    rw [wp_flushPending]
    refine ⟨fun _ => ?_, fun e he => ?_⟩
    · have hflushed : Batching config s events (batches ++ [t.pendingVisibilityEvents])
          (TickBatching.flushed config actual first.simTime vis.simTime t) := by
        refine h.flushed ?_
        intro earlier hearlier
        obtain rfl := Option.some.inj (hlast'.symm.trans hearlier)
        exact hlt
      refine ⟨⟨_, hflushed.join ?_ (.inl rfl)⟩, rfl⟩
      intro last hlast
      exact (Option.some.inj hlast).ge
    · rw [houtcome] at he
      cases he

theorem Batching.wp_handleClockTick {epochId : Nat} {tick : ℚ} :
    wp (handleClockTickPayload config actual (some epochId) (some tick)) t
      (fun _ u => (∃ batches, Batching config s events batches u) ∧
        (u.lastVisibilitySimTime = t.lastVisibilitySimTime ∨ u.lastVisibilitySimTime = some tick))
      (fun _ _ => False) := by
  have htick : Batching config s events batches { t with currentSimTime := some tick } :=
    ⟨⟨h.events, h.grouped, h.changes, h.authority, h.intents⟩, h.running, h.overridePairs,
      h.overrideNodes, h.folded, h.pending⟩
  simp only [handleClockTickPayload, wp_bind, wp_get, wp_ite]
  refine ⟨fun hsuspended => absurd (h.running.symm.trans hsuspended) (by simp), fun _ => ?_⟩
  refine wp_advanceClock (fun _ => ⟨⟨batches, htick⟩, .inl rfl⟩) ?_
  intro first rest hpending hlater
  rw [wp_flushPending]
  refine ⟨fun _ => ⟨⟨_, htick.flushed ?_⟩, .inr rfl⟩, fun e he => ?_⟩
  · intro earlier hearlier
    have hfirst := h.pending first (by simp [hpending])
    obtain rfl := Option.some.inj (hfirst.symm.trans hearlier)
    exact hlater
  · rw [show Change.outcome config _ _ = _ from houtcome] at he
    cases he

omit h houtcome

theorem eventsOf_append (xs ys : List Message) : eventsOf (xs ++ ys) = eventsOf xs ++ eventsOf ys :=
  List.filterMap_append

theorem mem_eventsOf_iff {messages : List Message} : vis ∈ eventsOf messages ↔
    .visibility vis ∈ messages := by
  rw [eventsOf, List.mem_filterMap]
  constructor
  · rintro ⟨m, hm, hvis⟩
    cases m with
    | visibility vis' =>
      obtain rfl : vis' = vis := by simpa using hvis
      exact hm
    | _ => cases hvis
  · exact fun hm => ⟨_, hm, rfl⟩

theorem LastSeen.le_next (hstarted : ∀ last ∈ s.lastVisibilitySimTime, last ≤ vis.simTime)
    (hinOrder : (done ++ .visibility vis :: rest).Pairwise InTimeOrder)
    (horder : (done ++ .visibility vis :: rest).Pairwise EventNotOvertaken)
    (h : LastSeen s done t) {last : ℚ} (hlast : t.lastVisibilitySimTime = some last) :
    last ≤ vis.simTime := by
  rcases h last hlast with hstart | ⟨m, hm, htime⟩
  · exact hstarted last hstart
  · have hevents := (List.pairwise_append.mp hinOrder).2.2 m hm _ List.mem_cons_self
    have hticks := (List.pairwise_append.mp horder).2.2 m hm _ List.mem_cons_self
    cases m with
    | visibility vis' =>
      obtain rfl := Option.some.inj htime
      exact hevents
    | clockTick e simTime =>
      obtain rfl : simTime = some last := htime
      exact hticks
    | sessionEphemeris e => cases htime
    | playbackState mode e => cases htime
    | linkStateSnapshot snapshot => cases htime

theorem Stands.wp_handleMessage (hdelivery : TickDelivery config epsilonMs s (done ++ m :: rest))
    (horder : (done ++ m :: rest).Pairwise EventNotOvertaken) (h : Stands config s done t) :
    wp (handleMessage config epsilonMs actual m) t (fun _ => Stands config s (done ++ [m]))
      (fun _ _ => False) := by
  obtain ⟨⟨batches, hbatching⟩, hseen⟩ := h
  have houtcome : Change.outcome config (.folded t.pendingVisibilityEvents) t.authority =
      .ok () := by
    refine hbatching.outcome_ok hdelivery.backed ?_
    have hfold := hdelivery.foldable
    rw [eventsOf_append, List.filter_append, foldableAll_append] at hfold
    exact hfold.1
  rcases hdelivery.kinds m (by simp) with ⟨vis, rfl⟩ | ⟨epochId, tick, rfl⟩
  · have hstarted : ∀ last ∈ s.lastVisibilitySimTime, last ≤ vis.simTime := fun last hlast =>
      hdelivery.started last hlast vis (mem_eventsOf_iff.mpr (by simp))
    refine wp_imp (hbatching.wp_handleVisibilityEvent houtcome
      (fun last hlast => hseen.le_next hstarted hdelivery.inOrder horder hlast) ?_) ?_
    · intro v hv hlt
      have hdone : v ∈ eventsOf done := by
        rw [← hbatching.events]
        exact List.mem_append_right _ hv
      exact hdelivery.spaced (.visibility v) (by simp [mem_eventsOf_iff.mp hdone])
        (.visibility vis) (by simp) _ rfl _ rfl hlt
    · rintro _ u ⟨⟨batches', hbatching'⟩, hlast⟩
      refine ⟨⟨batches', ?_⟩, .of_time rfl hlast⟩
      rw [eventsOf_append]
      exact hbatching'
  · refine wp_imp (hbatching.wp_handleClockTick houtcome) ?_
    rintro _ u ⟨⟨batches', hbatching'⟩, hlast⟩
    refine ⟨⟨batches', ?_⟩, ?_⟩
    · rw [eventsOf_append]
      simpa [eventsOf] using hbatching'
    · rcases hlast with hkept | htick
      · exact hseen.mono hkept
      · exact .of_time rfl htick

/-- When no event follows a clock tick of a later time, no handler raises, and the events are
folded once each, in order, those of one time in one batch. -/
theorem handleAll_batched {deliveries : List Delivery}
    (hdelivery : TickDelivery config epsilonMs s (messages deliveries))
    (horder : (messages deliveries).Pairwise EventNotOvertaken) :
    ∃ t batches, handleAll config epsilonMs s deliveries = .ok t ∧
      Batched config s (eventsOf (messages deliveries)) batches t := by
  have hstart : Stands config s (messages []) s := by
    refine ⟨⟨[], ?_⟩, fun last hlast => .inl hlast⟩
    exact {
      running := hdelivery.running
      overridePairs := rfl
      overrideNodes := rfl
      events := hdelivery.idle
      grouped := by simp [GroupedBy, hdelivery.idle]
      changes := by simp
      authority := rfl
      folded := by simp
      pending := by simp [hdelivery.idle]
      intents := ⟨[], by simp, by simp⟩ }
  have hrun : ∃ t, handleAll config epsilonMs s deliveries = .ok t ∧
      Stands config s (messages deliveries) t := by
    refine runUntilRaise_invariant (fun done => Stands config s (messages done)) ?_ hstart
    intro pre d post u hsplit _ hu
    have hmessages : messages deliveries = messages pre ++ d.message :: messages post := by
      simp [messages, hsplit]
    have hnext : messages (pre ++ [d]) = messages pre ++ [d.message] := by simp [messages]
    rw [hmessages] at hdelivery horder
    rw [hnext]
    exact hu.wp_handleMessage hdelivery horder
  obtain ⟨t, hrun, ⟨batches, hbatching⟩, -⟩ := hrun
  exact ⟨t, batches, hrun, hbatching.toBatched⟩

/-- Two events of one time and a later clock tick, the tick last or between the events. -/
def handover (tickBetween : Bool) : List Delivery :=
  (if tickBetween then
    [Message.visibility (linkEvent 0 true), .clockTick (some 0) (some 1),
      .visibility (linkEvent 0 false)]
  else
    [Message.visibility (linkEvent 0 true), .visibility (linkEvent 0 false),
      .clockTick (some 0) (some 1)]).map fun message => { message, actual := [] }

theorem tickDelivery_handover (tickBetween : Bool) :
    TickDelivery twoSatellites 100 freshEngine (messages (handover tickBetween)) := by
  have hevents : eventsOf (messages (handover tickBetween)) =
      [linkEvent 0 true, linkEvent 0 false] := by cases tickBetween <;> rfl
  have htimes : ∀ m ∈ messages (handover tickBetween), ∀ x ∈ messageTime m, x = 0 ∨ x = 1 := by
    cases tickBetween <;> simp [messages, handover, messageTime, linkEvent]
  exact {
    running := rfl
    idle := rfl
    backed := backed_freshAuthority
    kinds := by cases tickBetween <;> simp [messages, handover]
    inOrder := by cases tickBetween <;> simp [messages, handover, InTimeOrder, linkEvent]
    spaced := by
      intro m hm m' hm' x hx y hy hlt
      rcases htimes m hm x hx with rfl | rfl <;> rcases htimes m' hm' y hy with rfl | rfl <;>
        revert hlt <;> decide +kernel
    started := by simp [freshEngine]
    foldable := by
      rw [hevents]
      exact ⟨foldable_linkEvent _ _ _, foldable_linkEvent _ _ _, trivial⟩ }

/-- A clock tick that overtakes an event of the tick before makes that event regress. -/
theorem overtaken_event_regresses :
    TickDelivery twoSatellites 100 freshEngine (messages (handover true)) ∧
    (handleAll twoSatellites 100 freshEngine (handover true)).map Engine.changes =
      .error (.simTimeRegressed 1 0) := by
  exact ⟨tickDelivery_handover true, by decide +kernel⟩

theorem ordered_handover_batched :
    (messages (handover false)).Pairwise EventNotOvertaken ∧
    ∃ t batches, handleAll twoSatellites 100 freshEngine (handover false) = .ok t ∧
      Batched twoSatellites freshEngine (eventsOf (messages (handover false))) batches t := by
  have horder : (messages (handover false)).Pairwise EventNotOvertaken := by
    simp [messages, handover, EventNotOvertaken, linkEvent]
  exact ⟨horder, handleAll_batched (tickDelivery_handover false) horder⟩

end NodalArc.TickBatching
