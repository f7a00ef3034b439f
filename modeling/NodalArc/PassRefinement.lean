import NodalArc.PassEffects
import NodalArc.SchedulerRuns

/-! Every stage of a pass, and the pass itself, is a sequence of the effects of a pass. -/

namespace NodalArc.PassRefinement

open OrderedDict
open GroundPolicy
open LinkRecord
open ContactDrain
open DispatchPlanner
open Actuation
open NodeAgentBatches
open DispatchActuator
open CommandVerdict
open Reconcile
open HeldRecords
open CommandRules
open CloseRounds
open ContactPlan
open PlannedCloses
open ContactOpening
open PassPlanning
open LocalLinks
open PassEffects
open SchedulerRuns
open StatefulProgram
open StatefulProgram.Program

variable {info : ActiveLinkInfo} {result stopped : ActuationResult} {downs pairs : List Pair}
  {plan : LongDelayPlan} {key : RecordKey}

variable {config : SchedulerConfig} {env : Surroundings} {intent : DispatchIntent}
    {pass : PassPlan} {phase : Phase} {s t u : Scheduler} {downReasons : Dict Pair String}
    {prove : Bool} {batch records : List CloseRecord} {E : SchedulerError → Scheduler → Prop}

/-! ### Parts shared by stages -/

theorem reaches_handleActuationResult {id : Option String} :
    Within (Reaches config env intent pass phase) (handleActuationResult result id) :=
  fun s => wp_handleActuationResult (fun g hg => (Effect.station s g hg).reaches) fun _ => .refl

theorem reaches_recordStageLosses {pair : Pair} {info : LinkInfo} {stage : Stage}
    : Within (Reaches config env intent pass .contacts)
      (recordStageLosses result pair info stage) := fun s =>
  wp_recordStageLosses (fun losses => (Effect.losses s losses).reaches)
    fun _ losses => (Effect.losses s losses).reaches

theorem reaches_updateLatencies : Within (Reaches config env intent pass phase)
      (updateLatencies config env intent (phase.retimes pass)) := by
  refine within_when fun _ => within_bind (fun s => ?_) fun _ => reaches_handleActuationResult
  refine wp_sendAuthoritativeLatencyUpdates (fun _ => .refl) fun plan events hplan hevents => ?_
  have hsent : Reaches config env intent pass phase s (afterEvents events
      (afterCommand env (latencyFrame intent.desired (phase.retimes pass)) plan s)) :=
    (Effect.latencySent s plan hplan).reaches.then (.latencyUpdates _ events hevents)
  refine ⟨fun _ => hsent, fun t ht => hsent.then (.retimed _ t _ (fun pair hpair => ?_) ht)⟩
  exact mem_sortedSet.mp (succeededPairs_subset hpair)

/-! ### Closing ends -/

theorem wp_settleEnds_effect {drain : Drain} {gone : List NodeId} {lost : List LinkEndLoss}
    {reason : String} (hheld : record? s key = some info) (hdrain : info.drain = some drain)
    (hgone : EndsLeft config env intent pass s key info gone) :
    wp (settleEnds config key info drain gone lost reason) s
      (fun _ t => Effect config env intent pass .contacts s t ∧
        lastCommand? t.log = lastCommand? s.log) E := by
  refine wp_settleEnds (fun left hreason _ hleft => ⟨?_, by rw [log_setRecord]⟩) fun hall =>
    ⟨?_, by rw [log_tornDown, lastCommand?]⟩
  · exact .shrunk s key info drain left gone hheld hdrain hreason hleft hgone
  · refine .tornDown s key info gone reason _ hheld (fun drain' hdrain' => ?_) hgone
    rwa [← Option.some.inj (hdrain.symm.trans hdrain')]

theorem wp_settleClosed_effect {closed : ActuationResult} {r : CloseRecord}
    (hheld : record? s r.key = some r.info)
    (hgone : EndsLeft config env intent pass s r.key r.info r.ends) :
    wp (settleClosed config downReasons closed r) s
      (fun _ t => Effect config env intent pass .contacts s t ∧
        lastCommand? t.log = lastCommand? s.log) E := by
  simp only [settleClosed, wp_bind, wp_get]
  cases hdrain : r.info.drain with
  | none =>
    rw [wp_tearDownLongDelayRecord]
    refine ⟨.tornDown s r.key r.info r.ends _ _ hheld (fun drain h => ?_) hgone, ?_⟩
    · cases hdrain.symm.trans h
    · rw [log_tornDown, lastCommand?]
  | some drain => exact wp_settleEnds_effect hheld hdrain hgone

theorem wp_closeProven_reaches (hround : ReadyRound intent pass batch s)
    (hproved : ∀ r ∈ batch, r.cause = .drainDeadline → ∃ sent, lastCommand? s.log = some sent ∧
      ProofSent config batch sent) : wp (sendClose config env batch >>= fun closed =>
        settleRound config downReasons closed batch) s
      (fun _ => Reaches config env intent pass .contacts s)
      (fun _ => Reaches config env intent pass .contacts s) := by
  rw [wp_bind]
  refine wp_sendClose hround.pairs (fun _ => .refl) fun plan hplan => ?_
  have hsent : Reaches config env intent pass .contacts s
      (afterCommand env (closeFrame batch) plan s) :=
    (Effect.closeSent s batch plan hround hproved hplan).reaches
  refine ⟨fun _ => hsent, fun _ g hg => ?_⟩
  let sent := sentIn env (closeFrame batch) plan s
  refine wp_imp (wp_settleRound (fun _ u => Reaches config env intent pass .contacts s u ∧
    lastCommand? u.log = some sent) hround.pairs
    (fun r hr => (record?_congr rfl rfl).trans (hround.current r hr)) ?_ (fun _ _ _ _ _ _ h _ => h)
    ⟨hsent.then (.station _ g hg), rfl⟩) fun _ _ h => h.1
  rintro _ r u hr - hheld ⟨hu, hlast⟩ hclosed
  have hgone : EndsLeft config env intent pass u r.key r.info r.ends :=
    .closed batch r sent hr rfl rfl hround.pairs ((hround.grounds r hr).mono hu.log_suffix) hlast
      ⟨rfl, rfl, hplan⟩ (acksPair_of_succeeded hclosed)
  refine wp_imp (wp_settleClosed_effect hheld hgone) ?_
  rintro _ v ⟨hv, hkept⟩
  exact ⟨hu.then hv, hkept.trans hlast⟩

theorem wp_closeRound_reaches (hround : ReadyRound intent pass batch s)
    (hprove : ∀ r ∈ batch, r.cause = .drainDeadline → prove = true) :
    wp (closeRound config env downReasons prove batch) s
      (fun _ => Reaches config env intent pass .contacts s)
      (fun _ => Reaches config env intent pass .contacts s) := by
  rw [closeRound, wp_bind, wp_when]
  refine ⟨fun _ => wp_proveRound (fun _ => .refl) fun plan hplan => ?_, fun hnot => ?_⟩
  · have hsent : Reaches config env intent pass .contacts s
        (afterCommand env (proofFrame batch) plan s) :=
      (Effect.proofSent s batch plan hround hplan).reaches
    refine ⟨fun _ => hsent, fun g hg => ?_⟩
    have hproved := hsent.then (.station _ g hg)
    have hready : ReadyRound intent pass batch
        { afterCommand env (proofFrame batch) plan s with gsActuation := g } :=
      hround.after hproved.log_suffix fun _ => record?_congr rfl rfl
    refine wp_mono (wp_closeProven_reaches hready fun _ _ _ => ⟨_, rfl, rfl, hplan⟩)
      (fun _ _ h => hproved.trans h) fun _ _ h => hproved.trans h
  · exact wp_closeProven_reaches hround fun r hr hdue => absurd (hprove r hr hdue) hnot

theorem wp_closeLongDelayEnds_reaches (hkeys : (records.map CloseRecord.key).Nodup)
    (hcurrent : ∀ r ∈ records, record? s r.key = some r.info)
    (hgrounds : ∀ r ∈ records, CloseGrounds intent pass s r)
    (hprove : ∀ r ∈ records, r.cause = .drainDeadline → prove = true) :
    wp (closeLongDelayEnds config env downReasons prove records) s
      (fun _ => Reaches config env intent pass .contacts s)
      (fun _ => Reaches config env intent pass .contacts s) := by
  refine wp_imp (wp_closeLongDelayEnds
    (fun _ => Reaches config env intent pass .contacts s) hcurrent hkeys ?_ .refl) ?_
  · intro _ batch t hbatch hpairs hheld ht
    have hready : ReadyRound intent pass batch t :=
      ⟨hpairs, hheld, fun r hr => (hgrounds r (hbatch r hr).1).mono ht.log_suffix⟩
    exact wp_mono (wp_closeRound_reaches hready fun r hr => hprove r (hbatch r hr).1)
      (fun _ _ h => ht.trans h) fun _ _ h => ht.trans h
  · rintro _ t ⟨_, -, ht⟩
    exact ht

/-! ### Stages of the long-delay step -/

/-- What a dispatch relies on in the plan and the state it starts in. -/
structure Dispatchable (config : SchedulerConfig) (intent : DispatchIntent) (pass : PassPlan)
    (s : Scheduler) : Prop where
  forced_nodup : (pass.longDelay.forced.map Prod.fst).Nodup
  forced : ∀ d ∈ pass.longDelay.forced, config.longDelay d.1 = true
  stopped : ∀ pair ∈ pass.longDelay.stop, pair ∉ pass.longDelay.forced.map Prod.fst ∧
    config.longDelay pair = true ∧
    ∃ info, record? s (.current pair) = some info ∧ info.drain = none
  relocated : ∀ pair ∈ pass.longDelay.relocate, pair ∉ pass.longDelay.forced.map Prod.fst ∧
    config.longDelay pair = true ∧ ∀ held want,
      record? s (.current pair) = some held → intent.desired.get? pair = some want →
        held.contact ≠ want.contact
  opened : ∀ pair ∈ pass.longDelay.opening, config.longDelay pair = true
  retimed : ∀ pair ∈ pass.longDelay.latency, config.longDelay pair = true
  added : ∀ pair ∈ pass.toAdd, config.longDelay pair = false ∧
    record? s (.current pair) = none
  due_nodup : (pass.due.map Prod.fst).Nodup
  due : ∀ d ∈ pass.due, d.1 ∉ pass.longDelay.forced.map Prod.fst ∧ d.2 ≠ [] ∧
    ∃ now info, .clockRead now ∈ s.log ∧ record? s (.current d.1) = some info ∧
      d.2 = dueNodes now info

theorem wp_stopForced_reaches {openForced : List CloseRecord}
    (hopen : ∀ r ∈ openForced, config.longDelay r.key.pair = true ∧
      ∃ info, record? s (.current r.key.pair) = some info ∧ info.drain = none)
    (hforced : ∀ r ∈ openForced, r.key.pair ∈ pass.longDelay.forced.map Prod.fst) :
    wp (stopForced config env openForced) s (fun _ => Reaches config env intent pass .contacts s)
      (fun _ => Reaches config env intent pass .contacts s) := by
  rw [stopForced, wp_bind]
  refine wp_sendStop (fun _ => .refl) fun plan hplan => ?_
  have hsent : Reaches config env intent pass .contacts s (afterCommand env
      (downFrame s.actualLinks (openForced.map fun r => r.key.pair) stopStage) plan s) := by
    refine (Effect.stopSent s _ plan (fun pair hpair => ?_) (fun pair hpair => ?_) hplan).reaches
    · obtain ⟨r, hr, rfl⟩ := List.mem_map.mp hpair
      exact hopen r hr
    · obtain ⟨r, hr, rfl⟩ := List.mem_map.mp hpair
      exact .inr (hforced r hr)
  refine ⟨fun _ => hsent, fun g hg => ?_⟩
  have hrest : Within (Reaches config env intent pass .contacts) (forM (sortedSet
      (resultIn config env (downFrame s.actualLinks
        (openForced.map fun r => r.key.pair) stopStage) plan s).succeededPairs) fun pair => do
      let info ← heldLink pair
      recordStageLosses (resultIn config env (downFrame s.actualLinks
        (openForced.map fun r => r.key.pair) stopStage) plan s) pair info.toLinkInfo
        .stopAdmission) :=
    within_forM fun _ _ => within_bind within_heldLink fun _ => reaches_recordStageLosses
  exact hrest.wp _ (fun _ _ h => (hsent.then (.station _ g hg)).trans h)
    fun _ _ h => (hsent.then (.station _ g hg)).trans h

theorem wp_forceContacts_reaches (h : Dispatchable config intent pass s) :
    wp (forceContacts config env pass.longDelay downReasons) s
      (fun _ => Reaches config env intent pass .contacts s)
      (fun _ => Reaches config env intent pass .contacts s) := by
  rw [forceContacts, wp_bind, wp_get, wp_when]
  refine ⟨fun _ => ?_, fun _ => .refl⟩
  have hopen : ∀ r ∈ (forcedCurrent s pass.longDelay.forced).filter (fun r => r.info.drain = none),
      config.longDelay r.key.pair = true ∧
        ∃ info, record? s (.current r.key.pair) = some info ∧ info.drain = none := by
    intro r hr
    obtain ⟨hr, hdrain⟩ := List.mem_filter.mp hr
    obtain ⟨d, hd, hkey, hinfo, -⟩ := mem_forcedCurrent_iff.mp hr
    rw [hkey] at hinfo ⊢
    exact ⟨h.forced d hd, r.info, hinfo, of_decide_eq_true hdrain⟩
  have hforced : ∀ r ∈ (forcedCurrent s pass.longDelay.forced).filter
      (fun r => r.info.drain = none), r.key.pair ∈ pass.longDelay.forced.map Prod.fst := by
    intro r hr
    obtain ⟨d, hd, hkey, -⟩ := mem_forcedCurrent_iff.mp (List.mem_filter.mp hr).1
    rw [hkey]
    exact List.mem_map_of_mem hd
  have hstop : wp («when» ((forcedCurrent s pass.longDelay.forced).filter
        (fun r => r.info.drain = none) ≠ []) (stopForced config env
          ((forcedCurrent s pass.longDelay.forced).filter fun r => r.info.drain = none))) s
      (fun _ t => Reaches config env intent pass .contacts s t ∧ SameRecords s t)
      (fun _ t => Reaches config env intent pass .contacts s t ∧ SameRecords s t) := by
    rw [wp_when]
    exact ⟨fun _ => wp_and (wp_stopForced_reaches hopen hforced) (sameRecords_stopForced s),
      fun _ => ⟨.refl, fun _ => rfl⟩⟩
  rw [wp_bind]
  refine wp_mono hstop ?_ fun _ _ h => h.1
  -- the STOP changed no record, so the records to close are still held
  rintro _ t ⟨ht, hsame⟩
  refine wp_mono (wp_closeLongDelayEnds_reaches (forced_nodup h.forced_nodup)
    (fun r hr => (hsame r.key).trans (forced_current hr)) (fun r hr => ?_) fun r hr hdue => ?_)
    (fun _ _ h => ht.trans h) fun _ _ h => ht.trans h
  · rcases List.mem_append.mp hr with hr | hr
    · obtain ⟨d, hd, hkey, -, hends, hcause⟩ := mem_forcedCurrent_iff.mp hr
      refine .forced d.2 hcause (by rw [hends, hkey]; rfl) fun pair hpair => ?_
      rw [← RecordKey.current.inj (hkey.symm.trans hpair)]
      exact List.mem_map_of_mem hd
    · obtain ⟨pair, contact, cause, hkey, -, -, hends, hcause⟩ := mem_forcedOverlap_iff.mp hr
      refine .forced cause hcause (by rw [hends, hkey]; rfl) fun pair' hpair => ?_
      cases hkey.symm.trans hpair
  · have hforced : ∃ cause : ForcedCause, r.cause = cause.closeCause := by
      rcases List.mem_append.mp hr with hr | hr
      · obtain ⟨d, -, -, -, -, hcause⟩ := mem_forcedCurrent_iff.mp hr
        exact ⟨d.2, hcause⟩
      · obtain ⟨_, _, cause, -, -, -, -, hcause⟩ := mem_forcedOverlap_iff.mp hr
        exact ⟨cause, hcause⟩
    obtain ⟨cause, hcause⟩ := hforced
    rw [hdue] at hcause
    cases cause <;> cases hcause

def UnforcedKept (plan : LongDelayPlan) (s t : Scheduler) : Prop :=
  ∀ pair, pair ∉ plan.forced.map Prod.fst → record? t (.current pair) = record? s (.current pair)

theorem unforcedKept_forceContacts :
    Within (UnforcedKept plan) (forceContacts config env plan downReasons) := by
  intro s
  rw [forceContacts, wp_bind, wp_get, wp_when]
  refine ⟨fun _ => ?_, fun _ _ _ => rfl⟩
  have hunforced : ∀ pair, pair ∉ plan.forced.map Prod.fst → RecordKey.current pair ∉
      (forcedCurrent s plan.forced ++ forcedOverlap s downReasons).map CloseRecord.key := by
    intro pair hpair hmem
    obtain ⟨r, hr, hkey⟩ := List.mem_map.mp hmem
    rcases List.mem_append.mp hr with hr | hr
    · obtain ⟨d, hd, hcurrent, -⟩ := mem_forcedCurrent_iff.mp hr
      obtain rfl := RecordKey.current.inj (hkey.symm.trans hcurrent)
      exact hpair (List.mem_map_of_mem hd)
    · obtain ⟨_, _, _, hoverlap, -⟩ := mem_forcedOverlap_iff.mp hr
      cases hkey.symm.trans hoverlap
  rw [wp_bind]
  refine wp_mono (within_when (R := SameRecords) (fun _ => sameRecords_stopForced) s) ?_
    fun _ _ hsame pair _ => hsame (.current pair)
  intro _ t hsame
  exact wp_mono (othersKept_closeLongDelayEnds t)
    (fun _ _ hkept pair hpair => (hkept _ (hunforced pair hpair)).trans (hsame _))
    fun _ _ hkept pair hpair => (hkept _ (hunforced pair hpair)).trans (hsame _)

/-- The contacts to stop are open long-delay contacts. -/
def StopsOpen (config : SchedulerConfig) (plan : LongDelayPlan) (s : Scheduler) : Prop :=
  ∀ pair ∈ plan.stop, config.longDelay pair = true ∧
    ∃ info, record? s (.current pair) = some info ∧ info.drain = none

theorem wp_settleStopped_reaches {now : ℚ} {pair : Pair} {sent : SentCommand}
    {earlier : List Event} (hpair : pair ∈ pass.longDelay.stop)
    (hlong : config.longDelay pair = true)
    (hopen : ∀ info, record? s (.current pair) = some info → info.drain = none ∧
      sent.heldActual.get? pair = some info)
    (hlog : s.log = .clockRead now :: .command sent :: earlier)
    (hsent : StopSent config pass.longDelay.stop sent) (hacks : AcksPair sent pair) :
    wp (settleStopped stopped now pair) s
      (fun _ t => Reaches config env intent pass .contacts s t ∧ t.log = s.log)
      (fun _ t => Reaches config env intent pass .contacts s t) := by
  rw [settleStopped, heldLink, wp_bind, wp_bind, wp_get]
  cases hheld : s.actualLinks.get? pair with
  | none => exact .refl
  | some info =>
    simp only [wp_pure, wp_bind, wp_require]
    refine ⟨fun _ => wp_recordStageLosses (fun losses => ?_)
      fun _ losses => (Effect.losses s losses).reaches, fun _ => .refl⟩
    have hlost : Reaches config env intent pass .contacts s
        { s with stageLosses := losses } := (Effect.losses s losses).reaches
    rw [wp_lift]
    refine ⟨fun drain hstart => ⟨hlost.then ?_, log_setRecord⟩, fun _ _ => hlost⟩
    exact .drained _ pair info now drain sent earlier hpair hlong hheld (hopen info hheld).1 hlog
      hsent (hopen info hheld).2 hacks hstart

theorem wp_stopContacts_reaches (hopen : StopsOpen config pass.longDelay s) :
    wp (stopContacts config env pass.longDelay) s
      (fun _ => Reaches config env intent pass .contacts s)
      (fun _ => Reaches config env intent pass .contacts s) := by
  rw [stopContacts, wp_when]
  refine ⟨fun _ => ?_, fun _ => .refl⟩
  rw [wp_bind]
  refine wp_sendStop (fun _ => .refl) fun plan hplan => ?_
  have hsent : Reaches config env intent pass .contacts s (afterCommand env
      (downFrame s.actualLinks pass.longDelay.stop stopStage) plan s) :=
    (Effect.stopSent s _ plan hopen (fun _ hpair => .inl hpair) hplan).reaches
  refine ⟨fun _ => hsent, fun g hg => ?_⟩
  rw [wp_bind, wp_monotonic]
  have hread := (hsent.then (.station _ g hg)).then (.reading _)
  let sent := sentIn env (downFrame s.actualLinks pass.longDelay.stop stopStage) plan s
  refine wp_imp (wp_forM_pairs (fun _ u => Reaches config env intent pass .contacts s u ∧
    u.log = .clockRead (env.clock s.readings) :: .command sent :: s.log)
    (sortedSet_nodup _) (fun _ _ => otherPairsKept_settleStopped) ?_ ⟨hread, rfl⟩) fun _ _ h => h.1
  rintro _ pair u hpair - hrest ⟨hu, hlog⟩
  have hstopped := mem_sortedSet.mp hpair
  have hstop : pair ∈ pass.longDelay.stop := mem_sortedSet.mp (succeededPairs_subset hstopped)
  obtain ⟨hlong, info, hinfo, hdrain⟩ := hopen pair hstop
  have hheld : record? u (.current pair) = some info :=
    (hrest (.current pair) rfl).trans ((record?_congr rfl rfl).trans hinfo)
  have hsame : ∀ info', record? u (.current pair) = some info' →
      info'.drain = none ∧ sent.heldActual.get? pair = some info' := by
    intro info' hinfo'
    obtain rfl := Option.some.inj (hheld.symm.trans hinfo')
    exact ⟨hdrain, hinfo⟩
  refine wp_mono (wp_settleStopped_reaches hstop hlong hsame hlog ⟨rfl, rfl, hplan⟩
    (acksPair_of_succeeded hstopped)) ?_ fun _ _ h => hu.trans h
  rintro _ v ⟨hv, hvlog⟩
  exact ⟨hu.trans hv, hvlog.trans hlog⟩

theorem outsideKept_stopContacts :
    Within (OutsideKept plan.stop) (stopContacts config env plan) := by
  refine within_when fun _ s => ?_
  rw [wp_bind]
  refine wp_mono (wp_and (sameRecords_sendStop s) subset_of_sendStop) ?_
    fun _ _ h key _ => h.1 key
  rintro stopped t ⟨hsame, hsub⟩
  rw [wp_bind, wp_monotonic]
  have hloop : Within (OutsideKept plan.stop) (forM (sortedSet stopped.succeededPairs)
      (settleStopped stopped (env.clock t.readings))) := by
    refine within_forM fun pair hpair u => ?_
    have hstop := hsub pair (mem_sortedSet.mp hpair)
    exact wp_mono (otherPairsKept_settleStopped u)
      (fun _ _ h key hkey => h key fun heq => hkey (heq ▸ hstop))
      fun _ _ h key hkey => h key fun heq => hkey (heq ▸ hstop)
  have hread : OutsideKept plan.stop s (afterReading env t) := fun key _ =>
    record?_afterReading.trans (hsame key)
  exact hloop.wp _ (fun _ _ h => IsTrans.trans _ _ _ hread h)
    fun _ _ h => IsTrans.trans _ _ _ hread h

def ContactsKept (s t : Scheduler) : Prop :=
  ∀ pair info, record? t (.current pair) = some info →
    ∃ held, record? s (.current pair) = some held ∧ info.contact = held.contact

instance : Std.Refl ContactsKept := ⟨fun _ _ info hinfo => ⟨info, hinfo, rfl⟩⟩

instance : IsTrans Scheduler ContactsKept where
  trans _ _ _ hst htu pair info hinfo := by
    obtain ⟨held, hheld, hsame⟩ := htu pair info hinfo
    obtain ⟨first, hfirst, hsame'⟩ := hst pair held hheld
    exact ⟨first, hfirst, hsame.trans hsame'⟩

theorem contactsKept_of_sameRecords (h : SameRecords s t) : ContactsKept s t :=
  fun pair info hinfo => ⟨info, (h (.current pair)).symm.trans hinfo, rfl⟩

theorem contactsKept_settleStopped {stoppedMono : ℚ} {pair : Pair} :
    Within ContactsKept (settleStopped stopped stoppedMono pair) := by
  intro s
  rw [settleStopped, heldLink, wp_bind, wp_bind, wp_get]
  cases hheld : s.actualLinks.get? pair with
  | none => exact contactsKept_of_sameRecords fun _ => rfl
  | some held =>
    simp only [wp_pure, wp_bind, wp_require]
    refine ⟨fun _ => wp_recordStageLosses (fun losses => ?_) fun _ losses =>
      contactsKept_of_sameRecords fun _ => record?_losses,
      fun _ => contactsKept_of_sameRecords fun _ => rfl⟩
    simp only [wp_lift, wp_modify]
    refine ⟨fun drain _ pair' info hinfo => ?_, fun _ _ =>
      contactsKept_of_sameRecords fun _ => record?_losses⟩
    rw [record?_setRecord, record?_losses] at hinfo
    split at hinfo
    · rename_i heq
      obtain rfl := RecordKey.current.inj heq
      exact ⟨held, hheld, by rw [← Option.some.inj hinfo]⟩
    · exact ⟨info, hinfo, rfl⟩

theorem contactsKept_stopContacts : Within ContactsKept (stopContacts config env plan) := by
  refine within_when fun _ => within_bind (fun s => ?_) fun stopped => within_bind (fun s => ?_)
    fun _ => within_forM fun _ _ => contactsKept_settleStopped
  · exact wp_mono (sameRecords_sendStop s) (fun _ _ h => contactsKept_of_sameRecords h)
      fun _ _ h => contactsKept_of_sameRecords h
  · rw [wp_monotonic]
    exact contactsKept_of_sameRecords fun _ => record?_afterReading

theorem record?_relocateContact {pair : Pair} (h : key.pair ≠ pair) :
    record? (relocateContact pair s) key = record? s key := by
  rcases relocateContact_eq pair s with heq | ⟨_, _, _, -, -, -, heq⟩
  · rw [heq]
  · rw [heq, record?_dropRecord, if_neg, record?_setRecord, if_neg]
    all_goals
      rintro rfl
      exact h rfl

theorem outsideKept_relocateContacts :
    Within (OutsideKept plan.relocate) (relocateContacts plan) :=
  within_forM fun _ hpair => within_modify fun _ _ hkey => record?_relocateContact fun heq =>
    hkey (heq ▸ mem_sortedSet.mp hpair)

theorem wp_relocateContacts_reaches (h : ∀ pair ∈ pass.longDelay.relocate,
    config.longDelay pair = true ∧ ∀ held want,
      record? s (.current pair) = some held → intent.desired.get? pair = some want →
        held.contact ≠ want.contact) : wp (relocateContacts pass.longDelay) s
      (fun _ => Reaches config env intent pass .contacts s)
      (fun _ => Reaches config env intent pass .contacts s) := by
  refine wp_forM_pairs (fun _ => Reaches config env intent pass .contacts s)
    (sortedSet_nodup _) (fun pair _ => within_modify fun _ _ hkey => record?_relocateContact hkey)
    (fun _ pair t hpair _ hsame ht => ?_) .refl
  have hmoves := mem_sortedSet.mp hpair
  refine ht.then (.relocated t pair hmoves (h pair hmoves).1 fun held want hheld => ?_)
  rw [hsame (.current pair) rfl] at hheld
  exact (h pair hmoves).2 held want hheld

/-- The due ends of current contacts that did not move are due at a reading. -/
def DueNow (pass : PassPlan) (s : Scheduler) : Prop :=
  ∀ d ∈ pass.due, d.1 ∉ pass.longDelay.relocate → d.2 ≠ [] ∧ ∃ now, .clockRead now ∈ s.log ∧
    ∀ info, record? s (.current d.1) = some info → d.2 = dueNodes now info

theorem wp_closeDueEnds_reaches (hnodup : (pass.due.map Prod.fst).Nodup) (hdue : DueNow pass s) :
    wp (closeDueEnds config env pass.longDelay pass.due downReasons) s
      (fun _ => Reaches config env intent pass .contacts s)
      (fun _ => Reaches config env intent pass .contacts s) := by
  rw [closeDueEnds, wp_bind, wp_monotonic, wp_bind, wp_get]
  have hread : Reaches config env intent pass .contacts s (afterReading env s) :=
    (Effect.reading s).reaches
  refine wp_mono (wp_closeLongDelayEnds_reaches (due_nodup hnodup) (fun _ hr => due_current hr)
    (fun r hr => ?_) fun _ _ _ => rfl) (fun _ _ h => hread.trans h) fun _ _ h => hread.trans h
  rcases List.mem_append.mp hr with hr | hr
  · obtain ⟨d, hd, hstays, hkey, hinfo, hends, hcause⟩ := mem_dueCurrent_iff.mp hr
    obtain ⟨hsome, now, hnow, hnodes⟩ := hdue d hd hstays
    rw [record?_afterReading, hkey] at hinfo
    refine .due now (List.mem_cons_of_mem _ hnow) hcause (hends.trans (hnodes r.info hinfo))
      (hends ▸ hsome) fun pair hpair => ?_
    rw [← RecordKey.current.inj (hkey.symm.trans hpair)]
    exact List.mem_map_of_mem hd
  · obtain ⟨hsome, _, _, hkey, -, hends, hcause⟩ := mem_dueOverlap_iff.mp hr
    refine .due _ List.mem_cons_self hcause hends hsome fun pair' hpair => ?_
    cases hkey.symm.trans hpair

/-! ### Opening contacts -/

theorem wp_retargetTerminals_reaches :
    wp (retargetTerminals config env pass.longDelay.opening intent.desired downReasons) s
      (fun _ t => Reaches config env intent pass .contacts s t ∧ Retargeted env intent pass t)
      (fun _ => Reaches config env intent pass .contacts s) := by
  rw [retargetTerminals, wp_bind, wp_get, wp_bind, wp_lift]
  refine ⟨fun retargets hretargets => ?_, fun _ _ => .refl⟩
  have hcurrent : ∀ r ∈ retargets.flatten, record? s r.key = some r.info := fun r hr =>
    ((mem_retargets_iff hretargets).mp hr).1
  have hreaches : wp (closeLongDelayEnds config env downReasons false retargets.flatten) s
      (fun _ => Reaches config env intent pass .contacts s)
      (fun _ => Reaches config env intent pass .contacts s) := by
    refine wp_closeLongDelayEnds_reaches (retargets_nodup hretargets) hcurrent (fun r hr => ?_) ?_
    · obtain ⟨-, hcause, drain, hdrain, hends, -⟩ := (mem_retargets_iff hretargets).mp hr
      exact .retargeted drain hcause hdrain hends
    · intro r hr hdue
      cases hdue.symm.trans ((mem_retargets_iff hretargets).mp hr).2.1
  refine wp_mono (wp_and (wp_and hreaches (wp_closeLongDelayEnds_outcome hcurrent
    (retargets_nodup hretargets))) (othersKept_closeLongDelayEnds s)) ?_ fun _ _ h => h.1.1
  rintro _ t ⟨⟨ht, houtcome⟩, hothers⟩
  refine ⟨ht, fun key info hinfo => ?_⟩
  by_cases hclosed : key ∈ retargets.flatten.map CloseRecord.key
  · obtain ⟨r, hr, rfl⟩ := List.mem_map.mp hclosed
    obtain ⟨-, hcause, drain, hdrain, hends, -⟩ := (mem_retargets_iff hretargets).mp hr
    rcases houtcome r hr with hsettled | ⟨hkept, hrefused⟩
    · -- the ends on taken terminals left the record
      rw [Settled, hdrain, hinfo] at hsettled
      rcases hsettled with ⟨-, hnone⟩ | ⟨left, -, hleft, heq⟩
      · cases hnone
      · obtain rfl := Option.some.inj heq
        refine ⟨fun hopen => (by cases hopen), fun drain' hdrain' htaken => absurd ?_ htaken⟩
        obtain rfl := Option.some.inj hdrain'
        refine List.map_eq_nil_iff.mpr (List.filter_eq_nil_iff.mpr fun e he htaken => ?_)
        rw [hleft, List.mem_filter] at he
        refine of_decide_eq_true he.2 (hends ▸ List.mem_map_of_mem ?_)
        exact List.mem_filter.mpr ⟨he.1, htaken⟩
    · obtain rfl := Option.some.inj (hkept.symm.trans hinfo)
      refine ⟨fun hopen => (by cases hopen.symm.trans hdrain), fun drain' hdrain' _ => ?_⟩
      obtain rfl := Option.some.inj (hdrain.symm.trans hdrain')
      rw [← hends, ← hcause]
      exact hrefused
  · -- a record the scan passed over holds no taken terminal
    rw [hothers key hclosed] at hinfo
    refine ⟨fun hopen => free_of_retargets hretargets hinfo hopen, fun drain hdrain htaken => ?_⟩
    let r : CloseRecord :=
      { key, info
        ends := takenEnds (wantedByOpening intent.desired pass.longDelay.opening) key.pair drain
        cause := .retargeted }
    have hr : r ∈ retargets.flatten :=
      (mem_retargets_iff hretargets).mpr ⟨hinfo, rfl, drain, hdrain, rfl, htaken⟩
    exact absurd (List.mem_map_of_mem hr) hclosed

section Prepared

variable {pair : Pair} {want : LinkInfo} {prepared : ActuationResult} {sent : SentCommand}
    {ended : Dict Pair ActiveLinkInfo} (hopening : pair ∈ pass.longDelay.opening)
    (hsent : PrepareSent config env intent pass sent) (hacks : AcksPair sent pair)
    (hlast : lastCommand? s.log = some sent)

include hopening hsent hacks hlast

theorem wp_reopenOverlappingEnds_reaches (hwant : intent.desired.get? pair = some want) :
    wp (reopenOverlappingEnds config pair want prepared) s
      (fun _ t => Reaches config env intent pass .contacts s t ∧ lastCommand? t.log = some sent)
      (fun _ => Reaches config env intent pass .contacts s) := by
  refine wp_reopenOverlappingEnds (fun _ u =>
    Reaches config env intent pass .contacts s u ∧ lastCommand? u.log = some sent)
    ?_ (fun _ _ _ _ _ _ h => h) ⟨.refl, hlast⟩
  rintro _ contact held drain u hheld hdrain - ⟨hu, hulast⟩
  have hgone : EndsLeft config env intent pass u (.overlap pair contact) held
      (endsOn held (endTerminals pair want)) :=
    .reopened pair contact want rfl ⟨hopening, sent, hulast, hsent, hacks⟩ hwant
  refine wp_imp (wp_settleEnds_effect hheld hdrain hgone) ?_
  rintro _ v ⟨hv, hkept⟩
  exact ⟨hu.then hv, hkept.trans hulast⟩

theorem wp_settlePrepared_reaches (hended : ended.get? pair = record? s (.current pair)) :
    wp (settlePrepared config intent.desired ended prepared pair) s
      (fun _ t => Reaches config env intent pass .contacts s t ∧
        lastCommand? t.log = some sent ∧ record? t (.current pair) = none)
      (fun _ => Reaches config env intent pass .contacts s) := by
  rw [settlePrepared, wp_bind, wp_lift]
  refine ⟨fun want hwant => ?_, fun _ _ => .refl⟩
  rw [wp_bind]
  refine wp_mono (wp_and (wp_reopenOverlappingEnds_reaches hopening hsent hacks hlast
    (lookupDesired_eq_ok_iff.mp hwant)) (currentKept_reopenOverlappingEnds s)) ?_ fun _ _ h => h.1
  rintro _ t ⟨⟨ht, htlast⟩, hcurrent⟩
  rw [← hcurrent pair] at hended
  cases hold : ended.get? pair with
  | none => exact ⟨ht, htlast, hended.symm.trans hold⟩
  | some old =>
    rw [wp_endReopenedContact]
    refine ⟨ht.then (.ended t pair old _ _ (hended.symm.trans hold)
      ⟨hopening, sent, htlast, hsent, hacks⟩), ?_, by simp⟩
    rw [log_tornDown, lastCommand?]
    exact htlast

end Prepared

theorem wp_settleOpened_reaches {pair : Pair} {opened : ActuationResult} {sent : SentCommand}
    (hpair : pair ∈ pairs) (hlast : lastCommand? s.log = some sent)
    (hsent : OpenSent config env intent pass pairs sent) (hacks : AcksPair sent pair)
    (hup : linkUpOf intent.desired pair ∈ s.log) (hclear : record? s (.current pair) = none) :
    wp (settleOpened config intent.desired opened pair) s
      (fun _ t => Reaches config env intent pass .contacts s t ∧ t.log = s.log)
      (fun _ => Reaches config env intent pass .contacts s) := by
  rw [settleOpened, wp_bind, wp_lift]
  refine ⟨fun info hinfo => ?_, fun _ _ => .refl⟩
  rw [wp_bind]
  refine wp_recordStageLosses (fun losses => ?_) fun _ losses => (Effect.losses s losses).reaches
  have hlost : Reaches config env intent pass .contacts s
      { s with stageLosses := losses } := (Effect.losses s losses).reaches
  exact ⟨hlost.then (.opened _ pair info pairs sent (lookupDesired_eq_ok_iff.mp hinfo) hpair hlast
    hsent hacks hup hclear), log_addActual⟩

theorem wp_openPrepared_reaches {plan : BatchPlan}
    (hplan : preparePlan config env intent pass = .ok plan)
    (hprepared : ∀ pair ∈ pairs, Prepared config env intent pass s pair)
    (hclear : ∀ pair ∈ pairs, record? s (.current pair) = none) : wp (do
        let opened ← openPreparedContacts config env intent.desired plan pairs
        handleActuationResult opened none
        forM (sortedSet opened.succeededPairs) (settleOpened config intent.desired opened)) s
      (fun _ => Reaches config env intent pass .contacts s)
      (fun _ => Reaches config env intent pass .contacts s) := by
  let frame := upFrame intent.desired .open pairs
  let restaged := restageLinkUpPlan plan (sortedSet pairs)
  let sent := sentIn env frame restaged s
  have hopenSent : OpenSent config env intent pass pairs sent :=
    ⟨fun pair hpair => (hprepared pair hpair).1, rfl, rfl, plan, hplan, rfl⟩
  have hopen : Reaches config env intent pass .contacts s
      (afterCommand env frame restaged s) :=
    (Effect.openSent s pairs plan hprepared hclear hplan).reaches
  have hacks : ∀ pair ∈ sortedSet (resultIn config env frame restaged s).succeededPairs,
      pair ∈ pairs ∧ AcksPair sent pair := fun pair hpair =>
    ⟨mem_sortedSet.mp (succeededPairs_subset (mem_sortedSet.mp hpair)),
      acksPair_of_succeeded (mem_sortedSet.mp hpair)⟩
  have hups : ∀ published : List Pair, published <+: sortedSet
      (resultIn config env frame restaged s).succeededPairs →
      Reaches config env intent pass .contacts s
        (afterEvents (published.reverse.map (linkUpOf intent.desired))
          (afterCommand env frame restaged s)) := by
    intro published hstart
    refine hopen.then (.linkUps _ pairs published.reverse sent s.log rfl hopenSent ?_ ?_)
    · exact List.nodup_reverse.mpr ((sortedSet_nodup _).sublist hstart.sublist)
    · exact fun pair hpair => hacks pair (hstart.subset (List.mem_reverse.mp hpair))
  rw [wp_bind]
  rw [wp_openPreparedContacts]
  refine wp_publishLinkUps (fun _ published h _ => hups published h) ?_
  have hpublished := hups _ (List.prefix_refl _)
  rw [wp_bind]
  refine wp_handleActuationResult (fun g hg => ?_) fun _ => hpublished
  refine wp_imp (wp_forM_pairs (fun _ u => Reaches config env intent pass .contacts s u ∧
    u.log = (afterEvents ((sortedSet (resultIn config env frame restaged
      s).succeededPairs).reverse.map (linkUpOf intent.desired))
        (afterCommand env frame restaged s)).log)
    (sortedSet_nodup _) (fun _ _ => otherPairsKept_settleOpened) ?_
    ⟨hpublished.then (.station _ g hg), rfl⟩) fun _ _ h => h.1
  rintro _ pair u hpair - hrest ⟨hu, hlog⟩
  have hlast : lastCommand? u.log = some sent := by
    rw [hlog]
    exact lastCommand?_append command_notMem_linkUps
  have hup : linkUpOf intent.desired pair ∈ u.log := by
    rw [hlog]
    exact List.mem_append_left _ (List.mem_map_of_mem (List.mem_reverse.mpr hpair))
  have hnone : record? u (.current pair) = none := by
    rw [hrest (.current pair) rfl, record?_station, record?_afterEvents, record?_afterCommand]
    exact hclear pair (hacks pair hpair).1
  refine wp_mono (wp_settleOpened_reaches (hacks pair hpair).1 hlast hopenSent (hacks pair hpair).2
    hup hnone) ?_ fun _ _ h => hu.trans h
  rintro _ v ⟨hv, hvlog⟩
  exact ⟨hu.trans hv, hvlog.trans hlog⟩

theorem reaches_openContacts : Within (Reaches config env intent pass .contacts)
    (openContacts config env intent pass.longDelay.opening) := by
  refine within_when fun _ s => ?_
  rw [wp_bind]
  refine wp_imp wp_retargetTerminals_reaches ?_
  rintro _ t ⟨ht, hfree⟩
  rw [wp_bind, wp_get, wp_bind]
  refine wp_prepareLongDelayContacts (fun _ => ht) fun plan hplan _ => ?_
  let sent := sentIn env (upFrame intent.desired .prepare pass.longDelay.opening) plan t
  have hprepare : Reaches config env intent pass .contacts s
      (afterCommand env (upFrame intent.desired .prepare pass.longDelay.opening) plan t) :=
    ht.then (.prepareSent t plan hfree hplan)
  have hprepareSent : PrepareSent config env intent pass sent := ⟨rfl, rfl, hplan⟩
  rw [wp_bind]
  refine wp_handleActuationResult (fun g hg => ?_) fun _ => hprepare
  have hopening : ∀ pair ∈ (resultIn config env
      (upFrame intent.desired .prepare pass.longDelay.opening) plan t).succeededPairs,
      pair ∈ pass.longDelay.opening := fun pair hpair =>
    mem_sortedSet.mp (succeededPairs_subset hpair)
  rw [wp_bind]
  refine wp_imp (wp_forM_pairs (fun done u => Reaches config env intent pass .contacts s u ∧
    lastCommand? u.log = some sent ∧ ∀ pair ∈ done, record? u (.current pair) = none)
    (sortedSet_nodup _) (fun _ _ => otherPairsKept_settlePrepared) ?_
    ⟨hprepare.then (.station _ g hg), rfl, fun _ h => nomatch h⟩) ?_
  · rintro done pair u hpair hfresh hrest ⟨hu, hlast, hdone⟩
    have hprepared := mem_sortedSet.mp hpair
    have hended : (t.actualLinks.filter fun pair _ => pair ∈ pass.longDelay.opening).get? pair =
        record? u (.current pair) := by
      rw [hrest (.current pair) rfl, record?_station, record?_afterCommand]
      exact get?_filter_key (decide_eq_true (hopening pair hprepared))
    refine wp_mono (wp_and (wp_settlePrepared_reaches (hopening pair hprepared) hprepareSent
      (acksPair_of_succeeded hprepared) hlast hended) (otherPairsKept_settlePrepared u)) ?_
      fun _ _ h => hu.trans h.1
    rintro _ v ⟨⟨hv, hvlast, hnone⟩, hothers⟩
    refine ⟨hu.trans hv, hvlast, List.forall_mem_append.mpr ⟨fun q hq => ?_,
      List.forall_mem_singleton.mpr hnone⟩⟩
    rw [hothers (.current q) fun heq : q = pair => hfresh (heq ▸ hq)]
    exact hdone q hq
  · rintro _ u ⟨hu, hlast, hclear⟩
    rw [wp_when]
    refine ⟨fun _ => ?_, fun _ => hu⟩
    have hprepared : ∀ pair ∈ (resultIn config env
        (upFrame intent.desired .prepare pass.longDelay.opening) plan t).succeededPairs,
        Prepared config env intent pass u pair := fun pair hpair =>
      ⟨hopening pair hpair, sent, hlast, hprepareSent, acksPair_of_succeeded hpair⟩
    have hopened := wp_openPrepared_reaches hplan hprepared fun pair hpair =>
      hclear pair (mem_sortedSet.mpr hpair)
    exact wp_mono hopened (fun _ _ h => hu.trans h) fun _ _ h => hu.trans h

/-- The due ends of a planned pass are still due after the contacts that ended at once closed, the
stopped ones stopped and the relocated ones moved. -/
theorem dueNow_of_kept {v : Scheduler} (h : Dispatchable config intent pass s)
    (hlog : s.log <:+ v.log) (hforced : UnforcedKept pass.longDelay s t)
    (hstopped : OutsideKept pass.longDelay.stop t u)
    (hrelocated : OutsideKept pass.longDelay.relocate u v) : DueNow pass v := by
  intro d hd hstays
  obtain ⟨hunforced, hsome, now, info, hread, hinfo, hdue⟩ := h.due d hd
  refine ⟨hsome, now, hlog.subset hread, fun info' hinfo' => ?_⟩
  -- a draining contact is not stopped again
  have hunstopped : d.1 ∉ pass.longDelay.stop := by
    intro hstop
    obtain ⟨-, -, held, hheld, hopen⟩ := h.stopped d.1 hstop
    obtain rfl := Option.some.inj (hinfo.symm.trans hheld)
    rw [dueNodes, hopen] at hdue
    exact hsome hdue
  rw [hrelocated (.current d.1) hstays, hstopped (.current d.1) hunstopped, hforced d.1 hunforced,
    hinfo] at hinfo'
  rw [← Option.some.inj hinfo']
  exact hdue

theorem wp_reconcileLongDelay_reaches (h : Dispatchable config intent pass s) :
    wp (reconcileLongDelay config env intent pass.longDelay pass.due) s
      (fun _ => Reaches config env intent pass .contacts s)
      (fun _ => Reaches config env intent pass .contacts s) := by
  rw [reconcileLongDelay, wp_bind]
  refine wp_mono (wp_and (wp_forceContacts_reaches h) (unforcedKept_forceContacts s)) ?_
    fun _ _ h => h.1
  rintro _ t ⟨ht, hforced⟩
  have hopen : StopsOpen config pass.longDelay t := by
    intro pair hpair
    obtain ⟨hunforced, hlong, info, hinfo, hdrain⟩ := h.stopped pair hpair
    exact ⟨hlong, info, (hforced pair hunforced).trans hinfo, hdrain⟩
  rw [wp_bind]
  refine wp_mono (wp_and (wp_and (wp_stopContacts_reaches hopen) (outsideKept_stopContacts t))
    (contactsKept_stopContacts t)) ?_ fun _ _ h => ht.trans h.1.1
  rintro _ u ⟨⟨hu, hstopped⟩, hcontacts⟩
  rw [wp_bind]
  have hmoves : ∀ pair ∈ pass.longDelay.relocate, config.longDelay pair = true ∧
      ∀ held want, record? u (.current pair) = some held →
        intent.desired.get? pair = some want → held.contact ≠ want.contact := by
    intro pair hpair
    obtain ⟨hunforced, hlong, hmoved⟩ := h.relocated pair hpair
    refine ⟨hlong, fun held want hheld hwant => ?_⟩
    obtain ⟨before, hbefore, hsame⟩ := hcontacts pair held hheld
    rw [hforced pair hunforced] at hbefore
    exact hsame ▸ hmoved before want hbefore hwant
  refine wp_mono (wp_and (wp_relocateContacts_reaches hmoves) (outsideKept_relocateContacts u)) ?_
    fun _ _ h => (ht.trans hu).trans h.1
  rintro _ v ⟨hv, hrelocated⟩
  have hreached := (ht.trans hu).trans hv
  rw [wp_bind]
  refine wp_mono (wp_closeDueEnds_reaches h.due_nodup
    (dueNow_of_kept h hreached.log_suffix hforced hstopped hrelocated)) ?_
    fun _ _ h => hreached.trans h
  intro _ w hw
  have hlast : Within (Reaches config env intent pass .contacts) (do
      openContacts config env intent pass.longDelay.opening
      updateLatencies config env intent pass.longDelay.latency) :=
    within_bind reaches_openContacts fun _ => reaches_updateLatencies
  exact hlast.wp w (fun _ _ h => (hreached.trans hw).trans h) fun _ _ h => (hreached.trans hw).trans h

/-! ### Local links -/

theorem reaches_releaseLinks (hpairs : ∀ pair ∈ pairs, pair ∈ pass.toRemove) :
    Within (Reaches config env intent pass .locals)
      (releaseLinks config env intent.downReasons pairs) := by
  intro s
  refine wp_releaseLinks (fun _ => .refl) fun plan events hplan hevents => ?_
  have hsent : Reaches config env intent pass .locals s (afterEvents events
      (afterCommand env (releaseFrame s pairs intent.downReasons) plan s)) :=
    (Effect.releaseSent s pairs plan events hpairs hplan hevents).reaches
  refine ⟨fun _ => hsent, fun _ g hg => (hsent.then (.station _ g hg)).then (.removed _ _
    (sentIn env (releaseFrame s pairs intent.downReasons) plan s) (fun pair hpair => ?_) ?_)⟩
  · have hreleased := mem_sortedSet.mp hpair
    exact ⟨hpairs pair (mem_sortedSet.mp (succeededPairs_subset hreleased)),
      acksPair_of_succeeded hreleased⟩
  · exact lastCommand?_append (command_notMem_localDowns hevents)

/-- Records added one after the other, none of them there before. -/
theorem reaches_addAll (sent : SentCommand) (hnodup : pairs.Nodup)
    (hlast : lastCommand? s.log = some sent)
    (hadds : ∀ pair ∈ pairs, pair ∈ intent.desired ∧ record? s (.current pair) = none ∧
      ∀ u info, intent.desired.get? pair = some info → lastCommand? u.log = some sent →
        record? u (.current pair) = none →
        Effect config env intent pass .locals u (addActual config pair info u)) :
    Reaches config env intent pass .locals s (addAll config intent.desired pairs s) := by
  induction pairs generalizing s with
  | nil => exact .refl
  | cons pair pairs ih =>
    obtain ⟨hnew, hnodup⟩ := List.nodup_cons.mp hnodup
    obtain ⟨⟨hdesired, hnone, hadd⟩, hrest⟩ := List.forall_mem_cons.mp hadds
    obtain ⟨want, hwant⟩ := Dict.mem_iff.mp hdesired
    rw [addAll_cons hwant]
    refine (hadd s want hwant hlast hnone).reaches.trans (ih hnodup (by rwa [log_addActual]) ?_)
    intro other hother
    obtain ⟨hdesired, hnone, hadd⟩ := hrest other hother
    refine ⟨hdesired, ?_, hadd⟩
    rwa [record?_addActual, if_neg]
    rintro heq
    exact hnew (RecordKey.current.inj heq ▸ hother)

theorem wp_acquireLinks_reaches (hpairs : ∀ pair ∈ pairs, pair ∈ pass.toAdd)
    (hfreed : Freed config env intent pass pairs s) (hclear : Gone pairs s) :
    wp (acquireLinks config env intent pairs) s
      (fun _ => Reaches config env intent pass .locals s)
      (fun _ => Reaches config env intent pass .locals s) := by
  refine wp_acquireLinks (fun _ => .refl) fun plan hplan hasked => ?_
  have hups : ∀ published : List Pair, published <+: sortedSet (resultIn config env
      (upFrame intent.desired .open pairs) plan s).succeededPairs →
      Reaches config env intent pass .locals s
        (afterEvents (published.reverse.map (linkUpOf intent.desired))
          (afterCommand env (upFrame intent.desired .open pairs) plan s)) :=
    fun published hstart => (Effect.acquireSent s pairs plan hpairs hfreed hplan).reaches.then
      (.localUps _ published.reverse fun pair hpair =>
        hpairs pair (hasked pair (hstart.subset (List.mem_reverse.mp hpair))).1)
  refine ⟨fun _ published h => hups published h, fun g hg => ?_⟩
  refine ((hups _ (List.prefix_refl _)).then (.station _ g hg)).trans
    (reaches_addAll (sentIn env (upFrame intent.desired .open pairs) plan s)
      (sortedSet_nodup _) ?_ fun pair hpair => ?_)
  · exact lastCommand?_append command_notMem_linkUps
  · obtain ⟨hmem, hdesired⟩ := hasked pair hpair
    refine ⟨hdesired, ?_, fun u info hwant hlast hnone => .added u pair info pairs _ hwant hmem
      (hpairs pair hmem) hlast ⟨rfl, rfl, hplan⟩ (acksPair_of_succeeded (mem_sortedSet.mp hpair))
      hnone⟩
    rw [record?_station, record?_afterEvents, record?_afterCommand]
    exact hclear pair hmem

/-- Why a local link is released before the acquires: every release is, its ends are no station, an
acquire takes one of its terminals, or its station breaks before it makes. -/
inductive BreaksFirst (config : SchedulerConfig) (intent : DispatchIntent) (acquires : Pair → Prop)
    (pair : Pair) (info : ActiveLinkInfo) : Prop
  | always (hmode : config.mbbDispatch = false)
  | fixed (hstation : gsIdForPair pair config.gsCapacities = none)
  | taken (wanting : Pair) (hwanting : acquires wanting)
      (hshares : ∃ terminal ∈ wantedTerminals intent.desired wanting,
        terminal ∈ endTerminals pair info.toLinkInfo)
  | asked (hforced : pair ∈ intent.forcedBbmPairs)
  | policy (gsId : NodeId) (hstation : gsIdForPair pair config.gsCapacities = some gsId)
      (hmode : config.gsHandoverModes.get? gsId = some .bbm)
  | idle (gsId : NodeId) (hstation : gsIdForPair pair config.gsCapacities = some gsId)
      (hnone : ∀ other, acquires other → gsIdForPair other config.gsCapacities ≠ some gsId)

/-- No link that is released first with an acknowledged command is still recorded. -/
def Broken (config : SchedulerConfig) (surroundings : Surroundings) (intent : DispatchIntent)
    (pass : PassPlan) (s : Scheduler) : Prop :=
  ∀ other ∈ pass.toRemove, ∀ info, record? s (.current other) = some info →
    BreaksFirst config intent (· ∈ pass.toAdd) other info →
    ¬ (info.linkType = .ground → Acknowledges surroundings .batchLinkDown .close other)

/-- What a pass made sure of before it sends its acquires. -/
structure AcquireReady (config : SchedulerConfig) (surroundings : Surroundings)
    (intent : DispatchIntent) (pass : PassPlan) (pairs : List Pair) (s : Scheduler) : Prop where
  toAdd : ∀ pair ∈ pairs, pair ∈ pass.toAdd
  clear : Gone pairs s
  broken : Broken config surroundings intent pass s
  own : ∀ pair ∈ pairs, ∀ other ∈ pass.toRemove, ∀ info, record? s (.current other) = some info →
    BreaksFirst config intent (· ∈ pass.toAdd) other info → ¬ HeldBack config pair other
  spare : config.mbbDispatch = true → ∀ pair ∈ pairs, ∀ gsId,
    gsIdForPair pair config.gsCapacities = some gsId → HasSpare config s gsId pair

theorem AcquireReady.freed (h : AcquireReady config env intent pass pairs s) :
    Freed config env intent pass pairs s := by
  intro pair hpair other hother info hinfo hshares
  have hbreaks : BreaksFirst config intent (· ∈ pass.toAdd) other info :=
    .taken pair (h.toAdd pair hpair) hshares
  rintro (hacked | hback)
  · exact h.broken other hother info hinfo hbreaks hacked
  · exact h.own pair hpair other hother info hinfo hbreaks hback

theorem wp_releaseLinks_broken
    (hfirst : ∀ other ∈ pass.toRemove, ∀ info, record? s (.current other) = some info →
      BreaksFirst config intent (· ∈ pass.toAdd) other info → other ∈ downs) :
    wp (releaseLinks config env intent.downReasons downs) s
      (fun _ => Broken config env intent pass) (fun _ _ => True) := by
  let freed : Pair → Prop := fun other => other ∈ downs ∧ ∀ info,
    record? s (.current other) = some info → info.linkType = .ground →
      Acknowledges env .batchLinkDown .close other
  have hgone : wp (releaseLinks config env intent.downReasons downs) s
      (fun _ t => ∀ pair, freed pair → record? t (.current pair) = none) (fun _ _ => True) :=
    wp_releaseLinks_gone freed (fun _ h => h.1) fun _ h => h.2
  refine wp_mono (wp_and hgone (noNewRecords_releaseLinks s)) ?_ fun _ _ _ => trivial
  rintro _ t ⟨hgone, hold⟩ other hother info hinfo hbreaks hacked
  have hbefore := hold _ _ hinfo
  have hnone := hgone other ⟨hfirst other hother info hbefore hbreaks, ?_⟩
  · rw [hnone] at hinfo
    cases hinfo
  · intro info' hinfo'
    obtain rfl := Option.some.inj (hbefore.symm.trans hinfo')
    exact hacked

/-- What the releases that come first leave for the acquires. -/
structure ReleasedFirst (config : SchedulerConfig) (surroundings : Surroundings)
    (intent : DispatchIntent) (pass : PassPlan) (s t : Scheduler) : Prop where
  old : NoNewRecords s t
  broken : Broken config surroundings intent pass t
  fewer : FewerCounts s t

theorem wp_releaseLinks_first
    (hfirst : ∀ other ∈ pass.toRemove, ∀ info, record? s (.current other) = some info →
      BreaksFirst config intent (· ∈ pass.toAdd) other info → other ∈ downs) :
    wp (releaseLinks config env intent.downReasons downs) s
      (fun _ => ReleasedFirst config env intent pass s) (fun _ _ => True) :=
  wp_mono (wp_and (wp_releaseLinks_broken hfirst)
      (wp_and (noNewRecords_releaseLinks s) (fewerCounts_releaseLinks s)))
    (fun _ _ h => ⟨h.2.1, h.1, h.2.2⟩) fun _ _ _ => trivial

theorem mem_policyForcedPairs {policy : List Pair} {pair : Pair} {gsId : NodeId}
    (h : policyForcedPairs config pairs = .ok policy) (hpair : pair ∈ pairs)
    (hstation : gsIdForPair pair config.gsCapacities = some gsId)
    (hmode : config.gsHandoverModes.get? gsId = some .bbm) : pair ∈ policy := by
  obtain ⟨lists, hlists, h⟩ := bind_eq_ok_iff.mp h
  obtain ⟨list, hlist, hforced⟩ := exists_ok_of_mapM hlists hpair
  rw [← Except.ok.inj h]
  refine List.mem_flatten.mpr ⟨list, hlist, ?_⟩
  rw [hstation] at hforced
  dsimp only at hforced
  rw [hmode] at hforced
  rw [← Except.ok.inj hforced]
  exact List.mem_singleton_self pair

section Classified

variable {forced : List Pair} {c : MbbClassification} {pair : Pair}
    (hclass : classifyMbbChanges pass.toRemove pass.toAdd (Scheduler.occupancy config s) forced =
      .ok c)

include hclass

theorem mem_toRemove_of_preRelease (hpair : pair ∈ c.islDowns ++ c.bbmSegments.flatMap c.gsDowns) :
    pair ∈ pass.toRemove := by
  obtain ⟨hislDowns, -, hgsDowns, -⟩ := classifyMbbChanges_eq_ok hclass
  rcases List.mem_append.mp hpair with hisl | hgs
  · rw [hislDowns] at hisl
    exact (List.mem_filter.mp hisl).1
  · obtain ⟨gsId, -, hdown⟩ := List.mem_flatMap.mp hgs
    rw [hgsDowns] at hdown
    exact (List.mem_filter.mp hdown).1

theorem mem_toRemove_of_finalRelease {added : List Pair} (hpair : pair ∈ finalReleaseDowns c added) :
    pair ∈ pass.toRemove := by
  obtain ⟨-, -, hgsDowns, -⟩ := classifyMbbChanges_eq_ok hclass
  obtain ⟨gsId, -, hdown⟩ := List.mem_flatMap.mp hpair
  rw [hgsDowns] at hdown
  exact (List.mem_filter.mp hdown).1

theorem mem_preRelease_of_breaksFirst
    (hforced : forcedBbm config s intent pass.toRemove pass.toAdd = .ok forced)
    (hdispatch : config.mbbDispatch = true) (hpair : pair ∈ pass.toRemove)
    (hinfo : record? s (.current pair) = some info)
    (hbreaks : BreaksFirst config intent (· ∈ pass.toAdd) pair info) :
    pair ∈ c.islDowns ++ c.bbmSegments.flatMap c.gsDowns := by
  obtain ⟨policy, hpolicy, hforced⟩ := bind_eq_ok_iff.mp hforced
  have hforced := Except.ok.inj hforced
  cases hbreaks with
  | always hmode => exact absurd (hdispatch.symm.trans hmode) nofun
  | fixed hstation =>
    obtain ⟨hislDowns, -⟩ := classifyMbbChanges_eq_ok hclass
    rw [hislDowns]
    exact List.mem_append_left _ (List.mem_filter.mpr ⟨hpair, decide_eq_true hstation⟩)
  | taken wanting hwanting hshares =>
    refine mem_preRelease_of_forced hclass hpair ?_
    rw [← hforced]
    refine List.mem_append_right _ (List.mem_filter.mpr ⟨hpair, decide_eq_true ?_⟩)
    obtain ⟨terminal, hwanted, hheld⟩ := hshares
    refine ⟨terminal, ?_, List.mem_flatMap.mpr ⟨wanting, hwanting, hwanted⟩⟩
    rw [heldTerminals, show s.actualLinks.get? pair = some info from hinfo]
    exact hheld
  | asked hasked =>
    refine mem_preRelease_of_forced hclass hpair ?_
    rw [← hforced]
    exact List.mem_append_left _ (List.mem_append_left _ hasked)
  | policy gsId hstation hmode =>
    refine mem_preRelease_of_forced hclass hpair ?_
    rw [← hforced]
    exact List.mem_append_left _ (List.mem_append_right _ (mem_policyForcedPairs hpolicy
      (List.mem_append_left _ hpair) hstation hmode))
  | idle gsId hstation hnone => exact mem_preRelease_of_idle hclass hpair hstation hnone

theorem not_failed_of_preRelease {acquired : List Pair} {failedGs : List NodeId}
    {t : Scheduler} {other : Pair} {gsId : NodeId}
    (hups : acquireUps config t c failedGs = .ok acquired) (hpair : pair ∈ acquired)
    (hother : other ∈ c.islDowns ++ c.bbmSegments.flatMap c.gsDowns)
    (hstation : gsIdForPair pair config.gsCapacities = some gsId)
    (hsame : gsIdForPair other config.gsCapacities = some gsId) : gsId ∉ failedGs := by
  obtain ⟨hislDowns, -, hgsDowns, -⟩ := classifyMbbChanges_eq_ok hclass
  rcases List.mem_append.mp hother with hisl | hgs
  · rw [hislDowns] at hisl
    cases (of_decide_eq_true (List.mem_filter.mp hisl).2).symm.trans hsame
  · obtain ⟨station, hbbm, hdown⟩ := List.mem_flatMap.mp hgs
    rw [hgsDowns] at hdown
    obtain rfl := Option.some.inj ((of_decide_eq_true (List.mem_filter.mp hdown).2).symm.trans
      hsame)
    exact not_failed_of_acquireUps hclass hups hpair hstation hbbm

end Classified

/-! A dispatch of local links is made of releases and of acquires whose terminals were freed.  What
each of these keeps, the dispatch keeps, in both modes. -/

section Stages

variable {I : Scheduler → Prop} {E : SchedulerError → Scheduler → Prop}
    (hrelease : ∀ s pairs, (∀ pair ∈ pairs, pair ∈ pass.toRemove) → I s →
      wp (releaseLinks config env intent.downReasons pairs) s (fun _ => I) E)
    (hacquire : ∀ s pairs, AcquireReady config env intent pass pairs s → I s →
      wp (acquireLinks config env intent pairs) s (fun _ => I) E)

include hrelease

theorem wp_releaseStage_kept (hpairs : ∀ pair ∈ pairs, pair ∈ pass.toRemove) (h : I s)
    : wp (releaseStage config env intent pairs) s (fun _ => I) E := by
  rw [releaseStage, wp_ite]
  refine ⟨fun _ => ?_, fun _ => h⟩
  rw [wp_bind]
  exact hrelease s pairs hpairs h

include hacquire

theorem wp_reconcileBbm_kept (hdispatch : config.mbbDispatch = false) (hclear : Gone pass.toAdd s)
    (h : I s) :
    wp (reconcileBbm config env intent pass.toRemove pass.toAdd) s (fun _ => I) E := by
  rw [reconcileBbm, wp_bind]
  refine wp_imp (Q := fun _ t => I t ∧ ReleasedFirst config env intent pass s t) ?_ ?_
  · rw [wp_when]
    refine ⟨fun _ => ?_, fun hempty => ⟨h, Std.Refl.refl s, fun other hother => ?_,
      Std.Refl.refl s⟩⟩
    · rw [wp_bind]
      exact wp_mono (wp_and (hrelease s _ (fun _ hpair => hpair) h)
        (wp_releaseLinks_first fun _ hother _ _ _ => hother)) (fun _ _ h => h)
        fun _ _ h => h.1
    · exact absurd (not_ne_iff.mp hempty) (List.ne_nil_of_mem hother)
  · rintro _ t ⟨ht, hfirst⟩
    rw [wp_when]
    refine ⟨fun _ => ?_, fun _ => ht⟩
    rw [wp_bind]
    exact hacquire t _ ⟨fun _ hpair => hpair, hclear.of_noNewRecords hfirst.old, hfirst.broken,
      fun _ _ _ _ _ _ _ hback => (by cases hdispatch.symm.trans hback.1),
      fun hmode => by cases hdispatch.symm.trans hmode⟩ ht

theorem wp_reconcileMbb_kept (hdispatch : config.mbbDispatch = true) (hclear : Gone pass.toAdd s)
    (hraise : ∀ e t, I t → E e t) (h : I s) :
    wp (reconcileMbb config env intent pass.toRemove pass.toAdd) s (fun _ => I) E := by
  rw [reconcileMbb, wp_bind, wp_get, wp_bind, wp_lift]
  refine ⟨fun forced hforced => ?_, fun e _ => hraise e s h⟩
  rw [wp_bind, wp_lift]
  refine ⟨fun c hclass => ?_, fun e _ => hraise e s h⟩
  have hdowns : ∀ other ∈ pass.toRemove, ∀ info, record? s (.current other) = some info →
      BreaksFirst config intent (· ∈ pass.toAdd) other info →
      other ∈ c.islDowns ++ c.bbmSegments.flatMap c.gsDowns :=
    fun other hother info hinfo hbreaks =>
      mem_preRelease_of_breaksFirst hclass hforced hdispatch hother hinfo hbreaks
  rw [wp_bind]
  refine wp_imp (Q := fun failedGs t => I t ∧ ReleasedFirst config env intent pass s t ∧
    ∀ other ∈ c.islDowns ++ c.bbmSegments.flatMap c.gsDowns, ∀ gsId,
      gsIdForPair other config.gsCapacities = some gsId → gsId ∉ failedGs →
      record? t (.current other) = none) ?_ ?_
  · rw [releaseStage, wp_ite]
    refine ⟨fun _ => ?_, fun hempty => ⟨h, ⟨Std.Refl.refl s, fun other hother info hinfo hbreaks =>
      ?_, Std.Refl.refl s⟩, fun other hother => ?_⟩⟩
    · rw [wp_bind]
      refine wp_mono (wp_and (hrelease s _ (fun _ hpair => mem_toRemove_of_preRelease hclass hpair) h)
        (wp_and (wp_releaseLinks_first hdowns) wp_releaseLinks_succeeded)) ?_ fun _ _ h => h.1
      rintro result t ⟨ht, hfirst, hsucceeded⟩
      refine ⟨ht, hfirst, fun other hother gsId hstation hfailed => hsucceeded other ?_⟩
      by_contra hnot
      exact hfailed (List.mem_filterMap.mpr
        ⟨other, List.mem_filter.mpr ⟨hother, decide_eq_true hnot⟩, hstation⟩)
    · exact absurd (not_ne_iff.mp hempty)
        (List.ne_nil_of_mem (hdowns other hother info hinfo hbreaks))
    · exact absurd (not_ne_iff.mp hempty) (List.ne_nil_of_mem hother)
  · rintro failedGs t ⟨ht, hfirst, hsucceeded⟩
    rw [wp_bind, wp_get, wp_bind, wp_lift]
    refine ⟨fun ups hups => ?_, fun e _ => hraise e t ht⟩
    have hsub : ∀ pair ∈ ups, pair ∈ pass.toAdd := fun pair hpair =>
      mem_toAdd_of_mem_acquireUps hclass hups hpair
    have hstage : wp (acquireStage config env intent ups) t (fun _ => I) E := by
      rw [acquireStage, wp_ite]
      refine ⟨fun _ => ?_, fun _ => ht⟩
      rw [wp_bind]
      refine hacquire t ups ⟨hsub, fun pair hpair =>
        hclear.of_noNewRecords hfirst.old pair (hsub pair hpair), hfirst.broken, ?_,
        fun _ pair hpair gsId hstation =>
          hasSpare_of_acquireUps hclass hups hfirst.fewer hpair hstation⟩ ht
      rintro pair hpair other hother info hinfo hbreaks ⟨-, gsId, hstation, hsame⟩
      have hdown := hdowns other hother info (hfirst.old _ info hinfo) hbreaks
      cases (hsucceeded other hdown gsId hsame
        (not_failed_of_preRelease hclass hups hpair hdown hstation hsame)).symm.trans hinfo
    rw [wp_bind]
    refine wp_imp hstage fun added u hu => ?_
    rw [wp_bind]
    exact wp_releaseStage_kept hrelease
      (fun pair hpair => mem_toRemove_of_finalRelease hclass hpair) hu

theorem wp_reconcileLocal_kept (hclear : Gone pass.toAdd s) (hraise : ∀ e t, I t → E e t)
    (h : I s) : wp (reconcileLocal config env intent pass) s (fun _ => I) E := by
  unfold reconcileLocal
  split
  next hdispatch => exact wp_reconcileMbb_kept hrelease hacquire hdispatch hclear hraise h
  next hdispatch =>
    exact wp_reconcileBbm_kept hrelease hacquire (Bool.not_eq_true _ ▸ hdispatch) hclear h

end Stages

theorem wp_reconcileLocal_reaches (hclear : Gone pass.toAdd s) :
    wp (reconcileLocal config env intent pass) s
      (fun _ => Reaches config env intent pass .locals s)
      (fun _ => Reaches config env intent pass .locals s) := by
  refine wp_reconcileLocal_kept (fun t pairs hpairs ht => ?_)
    (fun t pairs hready ht => ?_) hclear (fun _ _ h => h) .refl
  · exact (reaches_releaseLinks hpairs).wp t (fun _ _ h => ht.trans h) fun _ _ h => ht.trans h
  · exact wp_mono (wp_acquireLinks_reaches hready.toAdd hready.freed hready.clear)
      (fun _ _ h => ht.trans h) fun _ _ h => ht.trans h

/-! ### The pass -/

/-- A state reached by effects on the contacts, then effects on the local links. -/
def PassReaches (config : SchedulerConfig) (surroundings : Surroundings) (intent : DispatchIntent)
    (pass : PassPlan) (s u : Scheduler) : Prop :=
  ∃ t, Reaches config surroundings intent pass .contacts s t ∧
    Reaches config surroundings intent pass .locals t u

theorem PassReaches.invariant {I : Scheduler → Prop}
    (hI : ∀ phase s t, Effect config env intent pass phase s t → I s → I t)
    (h : PassReaches config env intent pass s t) (hs : I s) : I t := by
  obtain ⟨u, hcontacts, hlocals⟩ := h
  exact hlocals.invariant (hI .locals) (hcontacts.invariant (hI .contacts) hs)

theorem Reaches.gone (h : Dispatchable config intent pass s)
    (hreaches : Reaches config env intent pass .contacts s t) : Gone pass.toAdd t := by
  refine hreaches.invariant (I := Gone pass.toAdd) (fun u v heffect hu pair hpair => ?_)
    fun pair hpair => (h.added pair hpair).2
  by_contra hsome
  obtain ⟨info, hinfo⟩ := Option.ne_none_iff_exists'.mp hsome
  have hlocal := (h.added pair hpair).1
  cases heffect.came hinfo with
  | kept held hheld => cases (hu pair hpair).symm.trans hheld
  | desired other want hkey _ hother =>
    obtain rfl := RecordKey.current.inj hkey
    rcases hother rfl with hopening | hretimed
    · cases hlocal.symm.trans (h.opened pair hopening)
    · cases hlocal.symm.trans (h.retimed pair hretimed)
  | aside _ _ hkey => cases hkey

theorem wp_dispatchPass_reaches (h : Dispatchable config intent pass s) :
    wp (dispatchPass config env intent pass) s (fun _ => PassReaches config env intent pass s)
      (fun _ => PassReaches config env intent pass s) := by
  rw [dispatchPass, wp_when]
  refine ⟨fun _ => ?_, fun _ => ⟨s, .refl, .refl⟩⟩
  have hupdates : Within (Reaches config env intent pass .locals)
      (updateLatencies config env intent pass.toUpdateLatency) := reaches_updateLatencies
  have hcontacts : wp («when» (¬ pass.LongDelayIdle)
      (reconcileLongDelay config env intent pass.longDelay pass.due)) s
      (fun _ => Reaches config env intent pass .contacts s)
      (fun _ => Reaches config env intent pass .contacts s) := by
    rw [wp_when]
    exact ⟨fun _ => wp_reconcileLongDelay_reaches h, fun _ => .refl⟩
  rw [wp_bind]
  refine wp_mono hcontacts (fun _ t ht => ?_) fun _ t ht => ⟨t, ht, .refl⟩
  rw [wp_bind]
  refine wp_mono (wp_reconcileLocal_reaches (Reaches.gone h ht)) (fun _ u hu => ?_)
    fun _ u hu => ⟨t, ht, hu⟩
  exact hupdates.wp u (fun _ v hv => ⟨t, ht, hu.trans hv⟩) fun _ v hv => ⟨t, ht, hu.trans hv⟩

theorem exists_record?_plannedState (env : Surroundings) (intent : DispatchIntent)
    (h : record? s (.current pair) = some info) : ∃ simTime source sequence,
      record? (plannedState env intent s) (.current pair) = some { info with
        authoritySimTime := simTime, authoritySource := source, authoritySequence := sequence } :=
  exists_record?_refreshed (record?_afterReading.trans h)

theorem dispatchable_passOf (hplan : planned config intent s = .ok plan) :
    Dispatchable config intent (passOf config intent s plan (env.clock s.readings))
      (plannedState env intent s) := by
  obtain ⟨decisions, hdecisions, rfl⟩ := exists_decisions hplan
  refine ⟨hdecisions.forced_nodup, fun d hd => longDelay_of_mem_forced hdecisions hd,
    fun pair hpair => ?_, fun pair hpair => ?_, fun pair hpair => ?_, fun pair hpair => ?_,
    fun pair hpair => ?_, due_passOf_nodup, fun d hd => ?_⟩
  · obtain ⟨hlong, hunforced, info, hinfo, hdrain⟩ := open_of_mem_stop hdecisions hpair
    obtain ⟨_, _, _, hrefreshed⟩ := exists_record?_plannedState env intent hinfo
    exact ⟨hunforced, hlong, _, hrefreshed, hdrain⟩
  · obtain ⟨hlong, hunforced, held, want, hheld, hwant, hmoved⟩ := moved_of_mem_relocate hdecisions hpair
    refine ⟨hunforced, hlong, fun held' want' hheld' hwant' => ?_⟩
    obtain ⟨before, hbefore, _, _, _, rfl⟩ := record?_refreshed hheld'
    rw [record?_afterReading, verifiedState, record?_station, hheld] at hbefore
    obtain rfl := Option.some.inj hbefore
    rw [← Option.some.inj (hwant.symm.trans hwant')]
    exact hmoved
  · have hopens := (mem_filterBlocked_iff.mp hpair).1
    rw [opening_ofDecisions] at hopens
    exact longDelay_of_mem_decidedPairs hdecisions hopens
  · change pair ∈ (LongDelayPlan.ofDecisions decisions).latency at hpair
    rw [latency_ofDecisions] at hpair
    exact longDelay_of_mem_decidedPairs hdecisions hpair
  · obtain ⟨-, hlocal, habsent⟩ := mem_toAdd_iff.mp (mem_filterBlocked_iff.mp hpair).1
    refine ⟨hlocal, ?_⟩
    by_contra hsome
    obtain ⟨info, hinfo⟩ := Option.ne_none_iff_exists'.mp hsome
    obtain ⟨before, hbefore, -⟩ := record?_refreshed hinfo
    exact habsent (Dict.mem_of_get? hbefore)
  · obtain ⟨hunforced, -, hsome, info, hinfo, hdue⟩ := due_passOf hd
    obtain ⟨_, _, _, hrefreshed⟩ := exists_record?_plannedState env intent hinfo
    exact ⟨hunforced, hsome, _, _, List.mem_cons_self, hrefreshed, hdue⟩

/-- What a turn can leave: the state it found its stations in when it cannot be planned, and
otherwise a state the effects of the planned pass reach. -/
theorem wp_runTurn_reaches {turn : Turn} {I : Scheduler → Prop}
    (hverified : I (verifiedState turn.intent (turn.begin config s)))
    (hreached : ∀ plan t, planned config turn.intent (turn.begin config s) = .ok plan →
      PassReaches config turn.surroundings turn.intent (passOf config turn.intent
        (turn.begin config s) plan (turn.surroundings.clock (turn.begin config s).readings))
        (plannedState turn.surroundings turn.intent (turn.begin config s)) t → I t) :
    wp (runTurn config turn) s (fun _ => I) (fun _ => I) := by
  rw [runTurn, wp_bind, wp_modify]
  refine wp_reconcileLinks.mpr ⟨fun plan hplan => ?_, fun _ _ => hverified⟩
  exact wp_mono (wp_dispatchPass_reaches (dispatchable_passOf hplan))
    (fun _ t ht => hreached plan t hplan ht) fun _ t ht => hreached plan t hplan ht

end NodalArc.PassRefinement
