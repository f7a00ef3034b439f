import NodalArc.ContactOpening
import NodalArc.LocalLinks
import NodalArc.PassPlanning

/-! What a reconcile pass can do, one elementary effect at a time, each with what has been checked
or acknowledged when it happens.  A pass is a sequence of these effects, whether it returns or
raises, so invariants of a pass are proved effect by effect. -/

namespace NodalArc.PassEffects

open OrderedDict
open GroundPolicy
open LinkRecord
open ContactDrain
open DispatchPlanner
open Actuation
open NodeAgentBatches
open DispatchActuator
open CommandVerdict
open Reconcile
open HeldRecords
open CommandRules
open CloseRounds
open PlannedCloses
open LocalLinks

variable (config : SchedulerConfig) (surroundings : Surroundings) (intent : DispatchIntent)
    (pass : PassPlan)

/-! ### Commands in the log -/

structure StopSent (pairs : List Pair) (sent : SentCommand) : Prop where
  operation : sent.operation = .batchLinkDown
  stage : sent.stage = some .stopAdmission
  plan : stopPlan config sent.heldActual pairs = .ok sent.plan

structure ProofSent (batch : List CloseRecord) (sent : SentCommand) : Prop where
  operation : sent.operation = .kernelInventory
  plan : buildInventoryPlan config (roundLinks batch) (sortedRoundEnds batch) = .ok sent.plan

structure CloseSent (batch : List CloseRecord) (sent : SentCommand) : Prop where
  operation : sent.operation = .batchLinkDown
  stage : sent.stage = some .close
  plan : closePlan config batch = .ok sent.plan

def preparePlan : Except SchedulerError BatchPlan :=
  buildLinkUpBatchPlan config surroundings .prepare intent.desired
    (sortedSet pass.longDelay.opening)

structure PrepareSent (sent : SentCommand) : Prop where
  operation : sent.operation = .batchLinkUp
  stage : sent.stage = some .prepare
  plan : preparePlan config surroundings intent pass = .ok sent.plan

structure OpenSent (pairs : List Pair) (sent : SentCommand) : Prop where
  opening : ∀ pair ∈ pairs, pair ∈ pass.longDelay.opening
  operation : sent.operation = .batchLinkUp
  stage : sent.stage = some .open
  plan : ∃ prepared, preparePlan config surroundings intent pass = .ok prepared ∧
    sent.plan = restageLinkUpPlan prepared (sortedSet pairs)

structure AcquireSent (pairs : List Pair) (sent : SentCommand) : Prop where
  operation : sent.operation = .batchLinkUp
  stage : sent.stage = some .open
  plan : buildLinkUpBatchPlan config surroundings .open intent.desired (sortedSet pairs) =
    .ok sent.plan

/-! ### What effects rest on -/

/-- Why ends of a record close: the contact ends at once, the ends' last packets have arrived, or
another pair's contact opens on their terminals. -/
inductive CloseGrounds (s : Scheduler) (r : CloseRecord) : Prop
  | forced (cause : ForcedCause) (hcause : r.cause = cause.closeCause)
      (hends : r.ends = remainingEnds r.key.pair r.info)
      (hplanned : ∀ pair, r.key = .current pair → pair ∈ pass.longDelay.forced.map Prod.fst)
  | due (now : ℚ) (hread : .clockRead now ∈ s.log) (hcause : r.cause = .drainDeadline)
      (hends : r.ends = dueNodes now r.info) (hsome : r.ends ≠ [])
      (hplanned : ∀ pair, r.key = .current pair → pair ∈ pass.due.map Prod.fst)
  | retargeted (drain : Drain) (hcause : r.cause = .retargeted) (hdrain : r.info.drain = some drain)
      (hends : r.ends = takenEnds (wantedByOpening intent.desired pass.longDelay.opening)
        r.key.pair drain)

/-- The records of a round are held, and their ends close for a reason. -/
structure ReadyRound (batch : List CloseRecord) (s : Scheduler) : Prop where
  pairs : DistinctPairs batch
  current : ∀ r ∈ batch, record? s r.key = some r.info
  grounds : ∀ r ∈ batch, CloseGrounds intent pass s r

def Prepared (s : Scheduler) (pair : Pair) : Prop :=
  pair ∈ pass.longDelay.opening ∧ ∃ sent, lastCommand? s.log = some sent ∧
    PrepareSent config surroundings intent pass sent ∧ AcksPair sent pair

/-- Ends that left a record: the last command was a CLOSE that named them, or a PREPARE of the
pair's next contact on their terminals, and it was acknowledged. -/
inductive EndsLeft (s : Scheduler) (key : RecordKey) (info : ActiveLinkInfo) : List NodeId → Prop
  | closed (batch : List CloseRecord) (r : CloseRecord) (sent : SentCommand) (hr : r ∈ batch)
      (hkey : r.key = key) (hinfo : r.info = info) (hpairs : DistinctPairs batch)
      (hgrounds : CloseGrounds intent pass s r) (hlast : lastCommand? s.log = some sent)
      (hsent : CloseSent config batch sent) (hacks : AcksPair sent key.pair) :
      EndsLeft s key info r.ends
  | reopened (pair : Pair) (contact : Contact) (want : LinkInfo) (hkey : key = .overlap pair contact)
      (hprepared : Prepared config surroundings intent pass s pair)
      (hwant : intent.desired.get? pair = some want) :
      EndsLeft s key info (endsOn info (endTerminals pair want))

/-- The terminals of the opening contacts are free of other pairs' records, unless the close of a
draining end was refused. -/
def Retargeted (s : Scheduler) : Prop :=
  let wanted := wantedByOpening intent.desired pass.longDelay.opening
  ∀ key info, record? s key = some info →
    (info.drain = none → ∀ terminal ∈ endTerminals key.pair info.toLinkInfo,
      takenFrom wanted key.pair terminal = false) ∧
    ∀ drain, info.drain = some drain → takenEnds wanted key.pair drain ≠ [] →
      ¬ ClosesSurely surroundings
        { key, info, ends := takenEnds wanted key.pair drain, cause := .retargeted }

/-- The acquire of a pair waits for the release of another: staged dispatch holds the acquires of a
station back when one of its releases fails. -/
def HeldBack (pair other : Pair) : Prop :=
  config.mbbDispatch = true ∧ ∃ gsId, gsIdForPair pair config.gsCapacities = some gsId ∧
    gsIdForPair other config.gsCapacities = some gsId

/-- No local link the pass releases with an acknowledged command, or at the station of one of the
given pairs, still holds a terminal that the pairs want. -/
def Freed (pairs : List Pair) (s : Scheduler) : Prop :=
  ∀ pair ∈ pairs, ∀ other ∈ pass.toRemove, ∀ info, record? s (.current other) = some info →
    (∃ terminal ∈ wantedTerminals intent.desired pair,
      terminal ∈ endTerminals other info.toLinkInfo) →
    ¬ ((info.linkType = .ground → Acknowledges surroundings .batchLinkDown .close other) ∨
      HeldBack config pair other)

/-! ### The effects -/

/-- A pass moves its long-delay contacts, then its local links. -/
inductive Phase
  | contacts
  | locals

def Phase.retimes (pass : PassPlan) : Phase → List Pair
  | .contacts => pass.longDelay.latency
  | .locals => pass.toUpdateLatency

/-- The elementary effects of a pass. -/
inductive Effect : Phase → Scheduler → Scheduler → Prop
  | station {phase : Phase} (s : Scheduler) (gsActuation : NodeId → GroundActuationState)
      (hnone : NoneCleared s.gsActuation gsActuation) : Effect phase s { s with gsActuation }
  | losses (s : Scheduler) (stageLosses : Nat → Dict NodeId StageLoss) :
      Effect .contacts s { s with stageLosses }
  | reading (s : Scheduler) : Effect .contacts s (afterReading surroundings s)
  | stopSent (s : Scheduler) (pairs : List Pair) (plan : BatchPlan)
      (hopen : ∀ pair ∈ pairs, config.longDelay pair = true ∧
        ∃ info, record? s (.current pair) = some info ∧ info.drain = none)
      (hplanned : ∀ pair ∈ pairs,
        pair ∈ pass.longDelay.stop ∨ pair ∈ pass.longDelay.forced.map Prod.fst)
      (hplan : stopPlan config s.actualLinks pairs = .ok plan) :
      Effect .contacts s
        (afterCommand surroundings (downFrame s.actualLinks pairs stopStage) plan s)
  | drained (s : Scheduler) (pair : Pair) (info : ActiveLinkInfo) (now : ℚ) (drain : Drain)
      (sent : SentCommand) (earlier : List Event)
      (hpair : pair ∈ pass.longDelay.stop) (hlong : config.longDelay pair = true)
      (hheld : record? s (.current pair) = some info) (hopen : info.drain = none)
      (hlog : s.log = .clockRead now :: .command sent :: earlier)
      (hsent : StopSent config pass.longDelay.stop sent)
      (hsame : sent.heldActual.get? pair = some info) (hacks : AcksPair sent pair)
      (hstart : startDrain pair info now "vis_lost" = .ok drain) :
      Effect .contacts s (setRecord (.current pair) { info with drain := some drain } s)
  | relocated (s : Scheduler) (pair : Pair) (hpair : pair ∈ pass.longDelay.relocate)
      (hlong : config.longDelay pair = true)
      (hmoved : ∀ held want, record? s (.current pair) = some held →
        intent.desired.get? pair = some want → held.contact ≠ want.contact) :
      Effect .contacts s (relocateContact pair s)
  | proofSent (s : Scheduler) (batch : List CloseRecord) (plan : BatchPlan)
      (hround : ReadyRound intent pass batch s)
      (hplan : buildInventoryPlan config (roundLinks batch) (sortedRoundEnds batch) = .ok plan) :
      Effect .contacts s (afterCommand surroundings (proofFrame batch) plan s)
  | closeSent (s : Scheduler) (batch : List CloseRecord) (plan : BatchPlan)
      (hround : ReadyRound intent pass batch s)
      (hproved : ∀ r ∈ batch, r.cause = .drainDeadline → ∃ sent, lastCommand? s.log = some sent ∧
        ProofSent config batch sent)
      (hplan : closePlan config batch = .ok plan) :
      Effect .contacts s (afterCommand surroundings (closeFrame batch) plan s)
  | shrunk (s : Scheduler) (key : RecordKey) (info : ActiveLinkInfo) (drain left : Drain)
      (gone : List NodeId) (hheld : record? s key = some info) (hdrain : info.drain = some drain)
      (hreason : left.reason = drain.reason)
      (hleft : left.ends = drain.ends.filter fun e => e.nodeId ∉ gone)
      (hgone : EndsLeft config surroundings intent pass s key info gone) :
      Effect .contacts s (setRecord key { info with drain := some left } s)
  | tornDown (s : Scheduler) (key : RecordKey) (info : ActiveLinkInfo) (gone : List NodeId)
      (reason : String) (losses : List LinkEndLoss) (hheld : record? s key = some info)
      (hall : ∀ drain, info.drain = some drain → drain.ends.filter (fun e => e.nodeId ∉ gone) = [])
      (hgone : EndsLeft config surroundings intent pass s key info gone) :
      Effect .contacts s (tornDown config key info reason losses s)
  | ended (s : Scheduler) (pair : Pair) (old : ActiveLinkInfo) (reason : String)
      (losses : List LinkEndLoss) (hheld : record? s (.current pair) = some old)
      (hprepared : Prepared config surroundings intent pass s pair) :
      Effect .contacts s (CloseRounds.tornDown config (.current pair) old reason losses s)
  | prepareSent (s : Scheduler) (plan : BatchPlan) (hfree : Retargeted surroundings intent pass s)
      (hplan : preparePlan config surroundings intent pass = .ok plan) :
      Effect .contacts s
        (afterCommand surroundings (upFrame intent.desired .prepare pass.longDelay.opening) plan s)
  | openSent (s : Scheduler) (pairs : List Pair) (plan : BatchPlan)
      (hprepared : ∀ pair ∈ pairs, Prepared config surroundings intent pass s pair)
      (hclear : ∀ pair ∈ pairs, record? s (.current pair) = none)
      (hplan : preparePlan config surroundings intent pass = .ok plan) :
      Effect .contacts s (afterCommand surroundings (upFrame intent.desired .open pairs)
        (restageLinkUpPlan plan (sortedSet pairs)) s)
  | linkUps (s : Scheduler) (pairs published : List Pair) (sent : SentCommand)
      (earlier : List Event) (hlog : s.log = .command sent :: earlier)
      (hsent : OpenSent config surroundings intent pass pairs sent) (hnodup : published.Nodup)
      (hacks : ∀ pair ∈ published, pair ∈ pairs ∧ AcksPair sent pair) :
      Effect .contacts s (afterEvents (published.map (linkUpOf intent.desired)) s)
  | opened (s : Scheduler) (pair : Pair) (info : LinkInfo) (pairs : List Pair) (sent : SentCommand)
      (hwant : intent.desired.get? pair = some info) (hpair : pair ∈ pairs)
      (hlast : lastCommand? s.log = some sent)
      (hsent : OpenSent config surroundings intent pass pairs sent) (hacks : AcksPair sent pair)
      (hup : linkUpOf intent.desired pair ∈ s.log)
      (hclear : record? s (.current pair) = none) :
      Effect .contacts s (addActual config pair info s)
  | latencySent {phase : Phase} (s : Scheduler) (plan : BatchPlan)
      (hplan : buildLatencyBatchPlan config surroundings intent.simTime intent.desired
        (sortedSet (phase.retimes pass)) = .ok plan) :
      Effect phase s (afterCommand surroundings
        (latencyFrame intent.desired (phase.retimes pass)) plan s)
  | latencyUpdates {phase : Phase} (s : Scheduler) (events : List Event)
      (hevents : ∀ event ∈ events, IsLatencyUpdate event) :
      Effect phase s (afterEvents events s)
  | retimed {phase : Phase} (s t : Scheduler) (pairs : List Pair)
      (hpairs : ∀ pair ∈ pairs, pair ∈ phase.retimes pass)
      (hretimed : HoldsDesiredFor intent.desired pairs s t) : Effect phase s t
  | releaseSent (s : Scheduler) (pairs : List Pair) (plan : BatchPlan) (events : List Event)
      (hpairs : ∀ pair ∈ pairs, pair ∈ pass.toRemove)
      (hplan : buildLinkDownBatchPlan config .close ∅ ∅ s.actualLinks (sortedSet pairs) = .ok plan)
      (hevents : ∀ event ∈ events, LocalDown s.actualLinks pairs event) :
      Effect .locals s (afterEvents events
        (afterCommand surroundings (releaseFrame s pairs intent.downReasons) plan s))
  | removed (s : Scheduler) (pairs : List Pair) (sent : SentCommand)
      (hpairs : ∀ pair ∈ pairs, pair ∈ pass.toRemove ∧ AcksPair sent pair)
      (hlast : lastCommand? s.log = some sent) :
      Effect .locals s (removeAll config pairs s)
  | acquireSent (s : Scheduler) (pairs : List Pair) (plan : BatchPlan)
      (hpairs : ∀ pair ∈ pairs, pair ∈ pass.toAdd)
      (hfreed : Freed config surroundings intent pass pairs s)
      (hplan : buildLinkUpBatchPlan config surroundings .open intent.desired (sortedSet pairs) =
        .ok plan) :
      Effect .locals s (afterCommand surroundings (upFrame intent.desired .open pairs) plan s)
  | localUps (s : Scheduler) (published : List Pair)
      (hpairs : ∀ pair ∈ published, pair ∈ pass.toAdd) :
      Effect .locals s (afterEvents (published.map (linkUpOf intent.desired)) s)
  | added (s : Scheduler) (pair : Pair) (info : LinkInfo) (pairs : List Pair) (sent : SentCommand)
      (hwant : intent.desired.get? pair = some info) (hpair : pair ∈ pairs)
      (hadd : pair ∈ pass.toAdd) (hlast : lastCommand? s.log = some sent)
      (hsent : AcquireSent config surroundings intent pairs sent) (hacks : AcksPair sent pair)
      (hclear : record? s (.current pair) = none) :
      Effect .locals s (addActual config pair info s)

def Reaches (phase : Phase) : Scheduler → Scheduler → Prop :=
  Relation.ReflTransGen (Effect config surroundings intent pass phase)

variable {config surroundings intent pass} {phase : Phase} {s t : Scheduler}

instance : Std.Refl (Reaches config surroundings intent pass phase) := ⟨fun _ => .refl⟩

instance : IsTrans Scheduler (Reaches config surroundings intent pass phase) :=
  ⟨fun _ _ _ => Relation.ReflTransGen.trans⟩

theorem Effect.reaches (h : Effect config surroundings intent pass phase s t) :
    Reaches config surroundings intent pass phase s t := Relation.ReflTransGen.single h

theorem Reaches.trans {u : Scheduler} (h : Reaches config surroundings intent pass phase s t)
    (h' : Reaches config surroundings intent pass phase t u) :
    Reaches config surroundings intent pass phase s u := Relation.ReflTransGen.trans h h'

theorem Reaches.then {u : Scheduler} (h : Reaches config surroundings intent pass phase s t)
    (hstep : Effect config surroundings intent pass phase t u) :
    Reaches config surroundings intent pass phase s u := Relation.ReflTransGen.tail h hstep

theorem Reaches.invariant {I : Scheduler → Prop}
    (hI : ∀ s t, Effect config surroundings intent pass phase s t → I s → I t)
    (h : Reaches config surroundings intent pass phase s t) (hs : I s) : I t := by
  induction h with
  | refl => exact hs
  | tail _ hstep ih => exact hI _ _ hstep ih

/-! ### Where records come from -/

/-- A record an effect leaves under its key: the same, stopped, or rid of some of its ends. -/
inductive Drains (config : SchedulerConfig) (key : RecordKey) (held : ActiveLinkInfo) :
    ActiveLinkInfo → Prop
  | same : Drains config key held held
  | stopped (now : ℚ) (reason : String) (drain : Drain) (hlong : config.longDelay key.pair = true)
      (hopen : held.drain = none) (hstart : startDrain key.pair held now reason = .ok drain) :
      Drains config key held { held with drain := some drain }
  | shrunk (drain left : Drain) (gone : List NodeId) (hdrain : held.drain = some drain)
      (hleft : left.ends = drain.ends.filter fun e => e.nodeId ∉ gone) :
      Drains config key held { held with drain := some left }

/-- Where a record comes from after an effect: it was there; it is a desired link brought up or
retimed; or it moved aside for the pair's next contact. -/
inductive Came (config : SchedulerConfig) (intent : DispatchIntent) (pass : PassPlan) (phase : Phase)
    (s t : Scheduler) (key : RecordKey) (info : ActiveLinkInfo) : Prop
  | kept (held : ActiveLinkInfo) (hheld : record? s key = some held)
      (hdrains : Drains config key held info)
  | desired (pair : Pair) (want : LinkInfo) (hkey : key = .current pair)
      (hwant : intent.desired.get? pair = some want)
      (hpair : phase = .contacts → pair ∈ pass.longDelay.opening ∨ pair ∈ pass.longDelay.latency)
      (hinfo : info = want.activate)
  | aside (pair : Pair) (contact : Contact) (hkey : key = .overlap pair contact)
      (hpair : pair ∈ pass.longDelay.relocate) (hlong : config.longDelay pair = true)
      (hheld : record? s (.current pair) = some info) (hdrain : info.drain ≠ none)
      (hname : info.contact = some contact)
      (hmoved : ∀ want, intent.desired.get? pair = some want → info.contact ≠ want.contact)
      (hgone : record? t (.current pair) = none)

section Records

variable {key : RecordKey} {held info : ActiveLinkInfo}

theorem Drains.linkType (h : Drains config key held info) : info.linkType = held.linkType := by
  cases h <;> rfl

theorem Drains.contact (h : Drains config key held info) : info.contact = held.contact := by
  cases h <;> rfl

theorem Drains.eq_of_local (h : Drains config key held info)
    (hlocal : config.longDelay key.pair = false) (hopen : held.drain = none) : info = held := by
  cases h with
  | same => rfl
  | stopped _ _ _ hlong => cases hlocal.symm.trans hlong
  | shrunk _ _ _ hdrain => cases hopen.symm.trans hdrain

theorem Effect.came (h : Effect config surroundings intent pass phase s t)
    (hinfo : record? t key = some info) : Came config intent pass phase s t key info := by
  have hsame (h : record? s key = some info) : Came config intent pass phase s t key info :=
    .kept info h .same
  cases h with
  | drained _ pair held now drain sent earlier _ hlong hheld hopen _ _ _ _ hstart =>
    rw [record?_setRecord] at hinfo
    split at hinfo
    next hkey =>
      subst hkey
      obtain rfl := Option.some.inj hinfo
      exact .kept held hheld (.stopped now _ drain hlong hopen hstart)
    next => exact hsame hinfo
  | shrunk _ key' held drain left gone hheld hdrain _ hleft =>
    rw [record?_setRecord] at hinfo
    split at hinfo
    next hkey =>
      subst hkey
      obtain rfl := Option.some.inj hinfo
      exact .kept held hheld (.shrunk drain left gone hdrain hleft)
    next => exact hsame hinfo
  | relocated _ pair hpair hlong hmoved =>
    rcases relocateContact_eq pair s with heq | ⟨held, drain, contact, hheld, hdrain, hname, heq⟩
    · exact hsame (heq ▸ hinfo)
    · have hgone : record? (relocateContact pair s) (.current pair) = none := by
        rw [heq, record?_dropRecord, if_pos rfl]
      rw [heq, record?_dropRecord, record?_setRecord] at hinfo
      split at hinfo
      · cases hinfo
      · split at hinfo
        next hkey =>
          obtain rfl := Option.some.inj hinfo
          exact .aside pair contact hkey hpair hlong hheld (hdrain ▸ Option.some_ne_none drain) hname
            (fun want => hmoved held want hheld) hgone
        next => exact hsame hinfo
  | tornDown | ended =>
    rw [record?_tornDown] at hinfo
    split at hinfo
    · cases hinfo
    · exact hsame hinfo
  | opened _ pair want pairs sent hwant hpair _ hsent =>
    rw [record?_addActual] at hinfo
    split at hinfo
    next hkey =>
      exact .desired pair want hkey hwant (fun _ => .inl (hsent.opening pair hpair))
        (Option.some.inj hinfo).symm
    next => exact hsame hinfo
  | added _ pair want pairs sent hwant =>
    rw [record?_addActual] at hinfo
    split at hinfo
    next hkey => exact .desired pair want hkey hwant nofun (Option.some.inj hinfo).symm
    next => exact hsame hinfo
  | retimed _ _ pairs hpairs hretimed =>
    rcases hretimed.record? key with heq | ⟨pair, hpair, hkey, hwant⟩
    · exact hsame (heq ▸ hinfo)
    · obtain ⟨want, hget, hwant⟩ := Option.map_eq_some_iff.mp (hwant.symm.trans hinfo)
      refine .desired pair want hkey hget ?_ hwant.symm
      rintro rfl
      exact .inr (hpairs pair hpair)
  | removed => exact hsame (noNewRecords_removeAll key info hinfo)
  | _ => exact hsame ((record?_congr rfl rfl).symm.trans hinfo)

end Records

/-! ### The log grows -/

theorem Effect.log_suffix (h : Effect config surroundings intent pass phase s t) :
    s.log <:+ t.log := by
  cases h with
  | retimed s t pairs hpairs hretimed =>
    obtain ⟨links, rfl, -⟩ := hretimed
    exact List.suffix_refl _
  | reading | stopSent | proofSent | closeSent | prepareSent | openSent | latencySent | acquireSent =>
    exact List.suffix_cons _ _
  | linkUps | latencyUpdates | localUps => exact List.suffix_append _ _
  | releaseSent => exact (List.suffix_cons _ _).trans (List.suffix_append _ _)
  | tornDown | ended =>
    rw [log_tornDown]
    exact List.suffix_cons _ _
  | _ => simp

theorem Reaches.log_suffix (h : Reaches config surroundings intent pass phase s t) :
    s.log <:+ t.log := by
  induction h with
  | refl => exact List.suffix_refl _
  | tail _ hstep ih => exact ih.trans hstep.log_suffix

/-! ### Stations are never cleared -/

theorem Effect.noneCleared (h : Effect config surroundings intent pass phase s t) :
    NoneCleared s.gsActuation t.gsActuation := by
  cases h with
  | station _ _ hnone => exact hnone
  | retimed _ _ _ _ hretimed =>
    obtain ⟨links, rfl, -⟩ := hretimed
    exact fun _ hbefore => hbefore
  | drained | shrunk =>
    rw [gsActuation_setRecord]
    exact fun _ hbefore => hbefore
  | relocated =>
    rw [gsActuation_relocateContact]
    exact fun _ hbefore => hbefore
  | tornDown | ended =>
    rw [gsActuation_tornDown]
    exact fun _ hbefore => hbefore
  | opened | added =>
    rw [gsActuation_addActual]
    exact fun _ hbefore => hbefore
  | removed =>
    rw [gsActuation_removeAll]
    exact fun _ hbefore => hbefore
  | _ => exact fun _ hbefore => hbefore

theorem CloseGrounds.mono {r : CloseRecord} (h : CloseGrounds intent pass s r)
    (hlog : s.log <:+ t.log) : CloseGrounds intent pass t r := by
  cases h with
  | forced cause hcause hends hplanned => exact .forced cause hcause hends hplanned
  | due now hread hcause hends hsome hplanned =>
    exact .due now (hlog.subset hread) hcause hends hsome hplanned
  | retargeted drain hcause hdrain hends => exact .retargeted drain hcause hdrain hends

theorem ReadyRound.after {batch : List CloseRecord} (h : ReadyRound intent pass batch s)
    (hlog : s.log <:+ t.log) (hsame : SameRecords s t) : ReadyRound intent pass batch t where
  pairs := h.pairs
  current := fun r hr => (hsame r.key).trans (h.current r hr)
  grounds := fun r hr => (h.grounds r hr).mono hlog

end NodalArc.PassEffects
