import NodalArc.BatchEntries
import NodalArc.HeldRecords

/-! Rules for the programs that send commands: the state a command leaves, and the events it may
publish. -/

namespace NodalArc.CommandRules

open OrderedDict
open GroundPolicy
open LinkRecord
open Actuation
open NodeAgentBatches
open DispatchActuator
open CommandVerdict
open Reconcile
open HeldRecords
open BatchEntries
open StatefulProgram
open StatefulProgram.Program

variable {result : ActuationResult} {Q : ActuationResult → Scheduler → Prop} {plan : BatchPlan}
    {frame : CommandFrame} {links : Dict Pair ActiveLinkInfo} {desired : Dict Pair LinkInfo}
    {down : DownStage} {info : LinkInfo} {events : List Event} {pairs : List Pair}
    {interventionId : Option String} {pair : Pair} {key : RecordKey} {t : Scheduler}
    {E : SchedulerError → Scheduler → Prop} {stage : Stage}

variable {config : SchedulerConfig} {env : Surroundings} {s : Scheduler}

/-- A command sent in a state, as the log keeps it. -/
def sentIn (surroundings : Surroundings) (frame : CommandFrame) (plan : BatchPlan)
    (s : Scheduler) : SentCommand where
  operation := frame.operation
  stage := frame.stage
  requested := frame.requested
  linkType := frame.linkType
  plan := plan
  exchanges := exchangesOf surroundings s.requests frame plan
  causes := frame.causes
  heldActual := s.actualLinks
  heldOverlapping := s.overlapping
  heldGsCount := s.gsActiveCount
  heldSatCount := s.satActiveCount

def afterCommand (surroundings : Surroundings) (frame : CommandFrame) (plan : BatchPlan)
    (s : Scheduler) : Scheduler :=
  let sent := sentIn surroundings frame plan s
  { s with requests := s.requests + sent.exchanges.length, log := .command sent :: s.log }

/-- What the Scheduler concludes from a command sent in a state. -/
def resultIn (config : SchedulerConfig) (surroundings : Surroundings) (frame : CommandFrame)
    (plan : BatchPlan) (s : Scheduler) : ActuationResult :=
  commandResult config frame plan (exchangesOf surroundings s.requests frame plan)

@[simp] theorem wp_sendCommand : wp (sendCommand config env frame plan) s Q E ↔
      Q (resultIn config env frame plan s) (afterCommand env frame plan s) :=
  Iff.rfl

def AcksPair (sent : SentCommand) (pair : Pair) : Prop :=
  ∀ planned ∈ sent.plan, planned.2.pair = pair →
    AckedIn sent.exchanges (planned.1, planned.2.terminal)

theorem acksPair_of_succeeded (h : pair ∈ (resultIn config env frame plan s).succeededPairs) :
    AcksPair (sentIn env frame plan s) pair := fun _ hplanned hpair =>
  (mem_succeededPairs_iff.mp h).2.2 _ (mem_expectedAcks_iff.mpr ⟨_, hplanned, hpair, rfl⟩)

def lastCommand? : List Event → Option SentCommand
  | [] => none
  | .command sent :: _ => some sent
  | .clockRead _ :: log | .linkUp _ _ :: log | .linkDown _ _ _ _ :: log |
    .latencyUpdate _ :: log => lastCommand? log

theorem lastCommand?_append {log : List Event} (h : ∀ sent, .command sent ∉ events) :
    lastCommand? (events ++ log) = lastCommand? log := by
  induction events with
  | nil => rfl
  | cons event events ih =>
    have hrest := ih fun sent hmem => h sent (List.mem_cons_of_mem _ hmem)
    cases event with
    | command sent => exact absurd List.mem_cons_self (h sent)
    | _ => exact hrest

def afterReading (surroundings : Surroundings) (s : Scheduler) : Scheduler :=
  { s with
    readings := s.readings + 1, log := .clockRead (surroundings.clock s.readings) :: s.log }

@[simp] theorem wp_monotonic {Q : ℚ → Scheduler → Prop} : wp (monotonic env) s Q E ↔
      Q (env.clock s.readings) (afterReading env s) := Iff.rfl

def afterEvents (events : List Event) (s : Scheduler) : Scheduler :=
  { s with log := events ++ s.log }

@[simp] theorem wp_publish {event : Event} {Q : Unit → Scheduler → Prop} :
    wp (publish event) s Q E ↔ Q () (afterEvents [event] s) := Iff.rfl

theorem afterEvents_append {events' : List Event} :
    afterEvents events' (afterEvents events s) = afterEvents (events' ++ events) s := by
  simp [afterEvents]

@[simp] theorem record?_afterCommand :
    record? (afterCommand env frame plan s) key = record? s key := by
  cases key <;> rfl

@[simp] theorem record?_afterReading : record? (afterReading env s) key = record? s key := by
  cases key <;> rfl

@[simp] theorem record?_afterEvents : record? (afterEvents events s) key = record? s key := by
  cases key <;> rfl

def NoneCleared (before after : NodeId → GroundActuationState) : Prop :=
  ∀ gsId, (before gsId).state ≠ .clean → (after gsId).state ≠ .clean

theorem noneCleared_stationStateAfter {before : NodeId → GroundActuationState}
    : NoneCleared before fun gsId =>
      stationStateAfter result interventionId gsId (before gsId) := by
  intro gsId hbefore
  dsimp only
  unfold stationStateAfter
  dsimp only
  split_ifs
  · exact hbefore
  · exact ActuationState.noConfusion
  · exact ActuationState.noConfusion

theorem absorbed_of_fatalPairs (h : fatalPairs result = []) : Absorbed result := by
  intro r hr hfailed
  by_contra htype
  have hmem : r.pair ∈ fatalPairs result := List.mem_map_of_mem
    (List.mem_filter.mpr ⟨hr, decide_eq_true ⟨hfailed, .inr (.inr htype)⟩⟩)
  rw [h] at hmem
  cases hmem

/-- A result either stops the dispatcher or only changes what it believes about stations, none of
them for the better. -/
theorem wp_handleActuationResult_absorbed {Q : Unit → Scheduler → Prop}
    (hQ : Absorbed result → ∀ gsActuation, NoneCleared s.gsActuation gsActuation → Q () { s with
      gsActuation }) (hE : ∀ e, E e s) : wp (handleActuationResult result interventionId) s Q E := by
  simp only [handleActuationResult, wp_when, wp_bind, wp_require, wp_modify]
  refine ⟨fun _ => ⟨fun _ => ⟨fun hfatal => ?_, fun _ => hE _⟩, fun _ => hE _⟩, fun hclean => ?_⟩
  · exact hQ (absorbed_of_fatalPairs hfatal.2) _ noneCleared_stationStateAfter
  · refine hQ (fun r hr hfailed => absurd (hasFailures_of_failed hr hfailed) hclean) s.gsActuation ?_
    exact fun _ h => h

theorem wp_handleActuationResult {Q : Unit → Scheduler → Prop}
    (hQ : ∀ gsActuation, NoneCleared s.gsActuation gsActuation → Q () { s with gsActuation })
    (hE : ∀ e, E e s) : wp (handleActuationResult result interventionId) s Q E :=
  wp_handleActuationResult_absorbed (fun _ => hQ) hE

theorem wp_recordStageLosses {Q : Unit → Scheduler → Prop}
    (hQ : ∀ stageLosses, Q () { s with stageLosses })
    (hE : ∀ e stageLosses, E e { s with stageLosses }) :
    wp (recordStageLosses result pair info stage) s Q E := by
  refine wp_imp (wp_forM_invariant (fun t => ∃ stageLosses, t = { s with stageLosses }) ?_
    ⟨s.stageLosses, rfl⟩) ?_
  · rintro reported - t ⟨stageLosses, rfl⟩
    simp only [wp_bind, wp_lift, wp_modify]
    exact ⟨fun _ _ => ⟨_, rfl⟩, fun e _ => hE e stageLosses⟩
  · rintro _ t ⟨stageLosses, rfl⟩
    exact hQ stageLosses

theorem mem_sortedSet : pair ∈ sortedSet pairs ↔ pair ∈ pairs := by
  rw [sortedSet, sortedPairs, List.mem_insertionSort, List.mem_dedup]

theorem sortedSet_nodup (pairs : List Pair) : (sortedSet pairs).Nodup :=
  (List.perm_insertionSort _ _).nodup_iff.mpr (List.nodup_dedup pairs)

/-- The LinkDown of one of the given local links. -/
def LocalDown (links : Dict Pair ActiveLinkInfo) (pairs : List Pair) (event : Event) : Prop :=
  ∃ pair ∈ pairs, ∃ info reason losses, links.get? pair = some info ∧ info.contact = none ∧
    event = .linkDown pair none reason losses

theorem command_notMem_localDowns (h : ∀ event ∈ events, LocalDown links pairs event)
    (sent : SentCommand) : .command sent ∉ events := by
  intro hmem
  obtain ⟨_, -, _, _, _, -, -, heq⟩ := h _ hmem
  cases heq

theorem wp_sendBatchDown
    (hE : ∀ e, buildLinkDownBatchPlan config down.stage down.ends down.contactIds links (sortedSet
      pairs) = .error e → E e s)
    (hQ : ∀ plan events, buildLinkDownBatchPlan config down.stage down.ends down.contactIds links
      (sortedSet pairs) = .ok plan → (∀ event ∈ events, LocalDown links pairs event) → Q (resultIn
      config env (downFrame links pairs down) plan s) (afterEvents events (afterCommand
      env (downFrame links pairs down) plan s))) :
    wp (sendBatchDown config env links pairs down) s Q E := by
  simp only [sendBatchDown, wp_bind, wp_lift, wp_sendCommand, wp_pure]
  refine ⟨fun plan hplan => ?_, hE⟩
  let sent := afterCommand env (downFrame links pairs down) plan s
  refine wp_imp (wp_forM_invariant (fun t => ∃ events,
    (∀ event ∈ events, LocalDown links pairs event) ∧ t = afterEvents events sent) ?_
    ⟨[], by simp, rfl⟩) ?_
  · rintro pair hpair t ⟨events, hevents, rfl⟩
    have hasked : pair ∈ pairs :=
      mem_sortedSet.mp (succeededPairs_subset (mem_sortedSet.mp hpair))
    cases hlink : links.get? pair with
    | none => exact ⟨events, hevents, rfl⟩
    | some info =>
      simp only [wp_when, wp_bind, wp_get, wp_publish, afterEvents_append]
      refine ⟨fun hnone => ⟨_, ?_, rfl⟩, fun _ => ⟨events, hevents, rfl⟩⟩
      exact List.forall_mem_cons.mpr
        ⟨⟨pair, hasked, info, _, _, hlink, hnone, rfl⟩, hevents⟩
  · rintro _ t ⟨events, hevents, rfl⟩
    exact hQ plan events hplan hevents

theorem lookupDesired_eq_ok_iff :
    lookupDesired desired pair = .ok info ↔ desired.get? pair = some info := by
  unfold lookupDesired
  cases desired.get? pair <;> simp

def linkUpOf (desired : Dict Pair LinkInfo) (pair : Pair) : Event :=
  .linkUp pair ((desired.get? pair).bind LinkInfo.contact)

theorem command_notMem_linkUps (sent : SentCommand) :
    .command sent ∉ pairs.map (linkUpOf desired) := by
  intro hmem
  obtain ⟨_, -, heq⟩ := List.mem_map.mp hmem
  cases heq

theorem wp_publishLinkUps {Q : Unit → Scheduler → Prop}
    (hE : ∀ e published, published <+: sortedSet result.succeededPairs →
      (∃ pair ∈ result.succeededPairs, ∀ info, desired.get? pair = some info → info.rangeKm = none) →
      E e (afterEvents (published.reverse.map (linkUpOf desired)) s))
    (hQ : Q () (afterEvents ((sortedSet result.succeededPairs).reverse.map (linkUpOf desired)) s)) :
    wp (publishLinkUps desired result) s Q E := by
  refine wp_imp (wp_forM (fun published t =>
    t = afterEvents (published.reverse.map (linkUpOf desired)) s) ?_ rfl) ?_
  · rintro published pair post t hsplit rfl
    have hpair : pair ∈ result.succeededPairs :=
      mem_sortedSet.mp (hsplit ▸ List.mem_append_right _ List.mem_cons_self)
    have hstops (e : SchedulerError)
        (hnone : ∀ info, desired.get? pair = some info → info.rangeKm = none) :=
      hE e published ⟨_, hsplit.symm⟩ ⟨pair, hpair, hnone⟩
    simp only [wp_bind, wp_lift, wp_require, wp_publish, lookupDesired_eq_ok_iff]
    refine ⟨fun info hinfo => ⟨fun _ => ?_, fun hnone => hstops _ ?_⟩, fun e he => hstops e ?_⟩
    · rw [afterEvents_append]
      simp [linkUpOf, hinfo]
    · rintro _ hinfo'
      exact Option.some.inj (hinfo.symm.trans hinfo') ▸ not_not.mp hnone
    · rintro info hinfo
      cases (lookupDesired_eq_ok_iff.mpr hinfo).symm.trans he
  · rintro _ t rfl
    exact hQ

/-- Every pair of a LinkUp is desired and its geometry is fresh. -/
def FreshlyDesired (config : SchedulerConfig) (simTime : ℚ) (desired : Dict Pair LinkInfo)
    (pairs : List Pair) : Prop :=
  ∀ pair ∈ pairs, ∃ info, desired.get? pair = some info ∧
    validateAuthorityFreshness config simTime pair info = .ok ()

theorem wp_sendBatchUp {simTime : ℚ} (hE : ∀ e, E e s)
    (h : ∀ plan, buildLinkUpBatchPlan config env .open desired (sortedSet pairs) = .ok
      plan → FreshlyDesired config simTime desired pairs → wp (publishLinkUps desired (resultIn
      config env (upFrame desired .open pairs) plan s)) (afterCommand env
      (upFrame desired .open pairs) plan s) (fun _ => Q (resultIn config env (upFrame
      desired .open pairs) plan s)) E) :
    wp (sendBatchUp config env simTime desired pairs) s Q E := by
  simp only [sendBatchUp, wp_bind, wp_lift, wp_sendCommand, wp_pure]
  refine wp_imp (wp_forM (fun visited t => t = s ∧ FreshlyDesired config simTime desired visited)
    ?_ ⟨rfl, by simp [FreshlyDesired]⟩) ?_
  · rintro visited pair post t - ⟨rfl, hvisited⟩
    simp only [wp_bind, wp_lift, lookupDesired_eq_ok_iff]
    refine ⟨fun info hinfo => ⟨fun _ hfresh => ⟨trivial, ?_⟩, fun e _ => hE e⟩, fun e _ => hE e⟩
    exact List.forall_mem_append.mpr
      ⟨hvisited, List.forall_mem_singleton.mpr ⟨info, hinfo, hfresh⟩⟩
  · rintro _ t ⟨rfl, hfresh⟩
    refine ⟨fun plan hplan => h plan hplan ?_, fun e _ => hE e⟩
    exact fun pair hpair => hfresh pair (mem_sortedSet.mpr hpair)

theorem wp_prepareLongDelayContacts {simTime : ℚ}
    {Q : BatchPlan × ActuationResult → Scheduler → Prop} (hE : ∀ e, E e s)
    (h : ∀ plan, buildLinkUpBatchPlan config env .prepare desired (sortedSet pairs) = .ok
      plan → (∀ pair ∈ pairs, ∃ info, desired.get? pair = some info ∧ info.contact ≠ none) → Q
      (plan, resultIn config env (upFrame desired .prepare pairs) plan s) (afterCommand
      env (upFrame desired .prepare pairs) plan s)) :
    wp (prepareLongDelayContacts config env simTime desired pairs) s Q E := by
  simp only [prepareLongDelayContacts, wp_bind, wp_lift, wp_sendCommand, wp_pure]
  refine wp_imp (wp_forM (fun visited t => t = s ∧ ∀ pair ∈ visited, ∃ info,
    desired.get? pair = some info ∧ info.contact ≠ none) ?_ ⟨rfl, by simp⟩) ?_
  · rintro visited pair post t - ⟨rfl, hvisited⟩
    simp only [wp_bind, wp_lift, wp_require, lookupDesired_eq_ok_iff]
    refine ⟨fun info hinfo => ⟨fun hcontact => ⟨fun _ _ => ⟨trivial, ?_⟩, fun e _ => hE e⟩,
      fun _ => hE _⟩, fun e _ => hE e⟩
    exact List.forall_mem_append.mpr
      ⟨hvisited, List.forall_mem_singleton.mpr ⟨info, hinfo, hcontact⟩⟩
  · rintro _ t ⟨rfl, hdesired⟩
    refine ⟨fun plan hplan => h plan hplan ?_, fun e _ => hE e⟩
    exact fun pair hpair => hdesired pair (mem_sortedSet.mpr hpair)

theorem wp_openPreparedContacts : wp (openPreparedContacts config env desired plan pairs) s Q E ↔
      wp (publishLinkUps desired (resultIn config env (upFrame desired .open pairs)
          (restageLinkUpPlan plan (sortedSet pairs)) s))
        (afterCommand env (upFrame desired .open pairs)
          (restageLinkUpPlan plan (sortedSet pairs)) s)
        (fun _ => Q (resultIn config env (upFrame desired .open pairs)
          (restageLinkUpPlan plan (sortedSet pairs)) s)) E := by
  simp only [openPreparedContacts, wp_bind, wp_sendCommand, wp_pure]

/-- A state that differs in its current links alone, and there only in holding the desired link
for the given pairs. -/
def HoldsDesiredFor (desired : Dict Pair LinkInfo) (pairs : List Pair) (s t : Scheduler) : Prop :=
  ∃ links, t = { s with actualLinks := links } ∧ ∀ pair, links.get? pair =
    if pair ∈ pairs then (desired.get? pair).map LinkInfo.activate else s.actualLinks.get? pair

theorem HoldsDesiredFor.log (h : HoldsDesiredFor desired pairs s t) : t.log = s.log := by
  obtain ⟨_, rfl, -⟩ := h
  rfl

theorem HoldsDesiredFor.current (h : HoldsDesiredFor desired pairs s t) (pair : Pair)
    : HeldRecords.record? t (.current pair) =
      if pair ∈ pairs then (desired.get? pair).map LinkInfo.activate
      else HeldRecords.record? s (.current pair) := by
  obtain ⟨links, rfl, hlinks⟩ := h
  exact hlinks pair

theorem HoldsDesiredFor.record? (h : HoldsDesiredFor desired pairs s t) (key : RecordKey) :
    record? t key = record? s key ∨ ∃ pair ∈ pairs, key = .current pair ∧
      record? t key = (desired.get? pair).map LinkInfo.activate := by
  obtain ⟨links, rfl, hlinks⟩ := h
  cases key with
  | overlap pair contact => exact .inl rfl
  | current pair =>
    have hpair := hlinks pair
    by_cases hmem : pair ∈ pairs
    · rw [if_pos hmem] at hpair
      exact .inr ⟨pair, hmem, rfl, hpair⟩
    · rw [if_neg hmem] at hpair
      exact .inl hpair

def IsLatencyUpdate (event : Event) : Prop := ∃ pair, event = .latencyUpdate pair

theorem command_notMem_latencyUpdates (h : ∀ event ∈ events, IsLatencyUpdate event)
    (sent : SentCommand) : .command sent ∉ events := by
  intro hmem
  obtain ⟨_, heq⟩ := h _ hmem
  cases heq

theorem wp_sendAuthoritativeLatencyUpdates {simTime : ℚ} (hE : ∀ e, E e s)
    (h : ∀ plan events, buildLatencyBatchPlan config env simTime desired
          (sortedSet pairs) = .ok plan → (∀ event ∈ events, IsLatencyUpdate event) →
      let result := resultIn config env (latencyFrame desired pairs) plan s
      let sent := afterEvents events (afterCommand env (latencyFrame desired pairs) plan s)
      (∀ e, E e sent) ∧ ∀ t, HoldsDesiredFor desired result.succeededPairs sent t → Q result t) :
    wp (sendAuthoritativeLatencyUpdates config env simTime desired pairs) s Q E := by
  simp only [sendAuthoritativeLatencyUpdates, wp_bind, wp_lift, wp_sendCommand, wp_pure]
  refine ⟨fun plan hplan => ?_, fun e _ => hE e⟩
  let result := resultIn config env (latencyFrame desired pairs) plan s
  let sent := afterCommand env (latencyFrame desired pairs) plan s
  refine wp_imp (wp_forM (fun visited t => (∀ pair ∈ visited, pair ∈ desired) ∧
    ∃ events, (∀ event ∈ events, IsLatencyUpdate event) ∧ t = afterEvents events sent) ?_
    ⟨by simp, [], by simp, rfl⟩) ?_
  · rintro visited pair post t - ⟨hvisited, events, hevents, rfl⟩
    have hraise := (h plan events hplan hevents).1
    simp only [wp_bind, wp_lift, wp_require, wp_publish, lookupDesired_eq_ok_iff,
      afterEvents_append]
    refine ⟨fun info hinfo => ⟨fun _ => ⟨?_, _, ?_, rfl⟩, fun _ => hraise _⟩, fun e _ => hraise e⟩
    · exact List.forall_mem_append.mpr
        ⟨hvisited, List.forall_mem_singleton.mpr (Dict.mem_of_get? hinfo)⟩
    · exact List.forall_mem_cons.mpr ⟨⟨pair, rfl⟩, hevents⟩
  · rintro _ t ⟨hdesired, events, hevents, rfl⟩
    have hdesired' : ∀ pair ∈ result.succeededPairs, pair ∈ desired :=
      fun pair hpair => hdesired pair (mem_sortedSet.mpr hpair)
    refine wp_imp (wp_forM (fun visited t =>
      HoldsDesiredFor desired visited (afterEvents events sent) t) ?_
      ⟨_, rfl, fun _ => (if_neg List.not_mem_nil).symm⟩) ?_
    · rintro visited pair post t hsplit ⟨links, rfl, hlinks⟩
      obtain ⟨info, hinfo⟩ := Dict.mem_iff.mp (hdesired' pair (by simp [result, hsplit]))
      simp only [wp_bind, wp_lift, wp_modify, lookupDesired_eq_ok_iff, hinfo, Option.some.injEq,
        forall_eq']
      refine ⟨?_, fun e he => by simp [lookupDesired, hinfo] at he⟩
      refine ⟨_, rfl, fun pair' => ?_⟩
      rw [Dict.get?_insert, hlinks pair']
      by_cases hpair : pair' = pair
      · simp [hpair, hinfo]
      · simp [hpair]
    · intro _ t ht
      exact (h plan events hplan hevents).2 t ht

theorem localDowns_eq_nil
    (hcontact : ∀ pair ∈ pairs, ∀ info, links.get? pair = some info → info.contact ≠ none)
    (h : ∀ event ∈ events, LocalDown links pairs event) : events = [] := by
  refine List.eq_nil_iff_forall_not_mem.mpr fun event hevent => ?_
  obtain ⟨pair, hpair, info, _, _, hinfo, hnone, -⟩ := h event hevent
  exact hcontact pair hpair info hinfo hnone

def stopPlan (config : SchedulerConfig) (links : Dict Pair ActiveLinkInfo) (pairs : List Pair) :
    Except SchedulerError BatchPlan :=
  buildLinkDownBatchPlan config .stopAdmission ∅ ∅ links (sortedSet pairs)

theorem wp_sendStop (hE : ∀ e, E e s)
    (h : ∀ plan, stopPlan config s.actualLinks pairs = .ok plan →
      let frame := downFrame s.actualLinks pairs stopStage
      let sent := afterCommand env frame plan s
      (∀ e, E e sent) ∧
        ∀ gsActuation, NoneCleared s.gsActuation gsActuation →
          Q (resultIn config env frame plan s) { sent with gsActuation }) :
    wp (sendStop config env pairs) s Q E := by
  rw [sendStop, wp_bind, wp_get, wp_bind]
  refine wp_sendBatchDown (fun e _ => hE e) fun plan events hplan hevents => ?_
  obtain rfl : events = [] := by
    refine localDowns_eq_nil (fun pair hpair info hinfo hnone => ?_) hevents
    -- a local link has no admission to stop
    have hcheck := (built_of_linkDown hplan (mem_sortedSet.mpr hpair) hinfo).1
    simp [checkDownStage, hnone, stopStage] at hcheck
  rw [wp_bind]
  exact wp_handleActuationResult (h plan hplan).2 (h plan hplan).1

theorem subset_of_sendStop : wp (sendStop config env pairs) s
      (fun stopped _ => ∀ pair ∈ stopped.succeededPairs, pair ∈ pairs) (fun _ _ => True) :=
  wp_sendStop (fun _ => trivial) fun _ _ =>
    ⟨fun _ => trivial, fun _ _ _ hpair => mem_sortedSet.mp (succeededPairs_subset hpair)⟩

/-! ### Programs that leave the records as they are -/

def SameRecords (s t : Scheduler) : Prop :=
  ∀ key, HeldRecords.record? t key = HeldRecords.record? s key

instance : Std.Refl SameRecords := ⟨fun _ _ => rfl⟩

instance : IsTrans Scheduler SameRecords := ⟨fun _ _ _ hst htu key => (htu key).trans (hst key)⟩

def OutsideKept (pairs : List Pair) (s t : Scheduler) : Prop :=
  ∀ key, key.pair ∉ pairs → HeldRecords.record? t key = HeldRecords.record? s key

instance {pairs : List Pair} : Std.Refl (OutsideKept pairs) := ⟨fun _ _ _ => rfl⟩

instance {pairs : List Pair} : IsTrans Scheduler (OutsideKept pairs) :=
  ⟨fun _ _ _ hst htu key hkey => (htu key hkey).trans (hst key hkey)⟩

theorem sameRecords_handleActuationResult {id : Option String} :
    Within SameRecords (handleActuationResult result id) := fun _ =>
  wp_handleActuationResult (fun _ _ _ => record?_congr rfl rfl) fun _ _ => rfl

theorem sameRecords_recordStageLosses
    : Within SameRecords (recordStageLosses result pair info stage) := fun _ =>
  wp_recordStageLosses (fun _ _ => record?_congr rfl rfl) fun _ _ _ => record?_congr rfl rfl

theorem sameRecords_sendBatchDown :
    Within SameRecords (sendBatchDown config env links pairs down) := fun _ =>
  wp_sendBatchDown (fun _ _ _ => rfl) fun _ _ _ _ _ => record?_congr rfl rfl

theorem within_heldLink {R : Scheduler → Scheduler → Prop} [Std.Refl R] :
    Within R (heldLink pair) := by
  intro s
  rw [heldLink, wp_bind, wp_get]
  cases s.actualLinks.get? pair with
  | none => exact within_throw s
  | some info => exact within_pure s

theorem sameRecords_sendStop : Within SameRecords (sendStop config env pairs) :=
  within_bind within_get fun _ => within_bind sameRecords_sendBatchDown fun _ =>
    within_bind sameRecords_handleActuationResult fun _ => within_pure

theorem sameRecords_stopForced {openForced : List CloseRecord} :
    Within SameRecords (stopForced config env openForced) :=
  within_bind sameRecords_sendStop fun _ => within_forM fun _ _ =>
    within_bind within_heldLink fun _ => sameRecords_recordStageLosses

end NodalArc.CommandRules
