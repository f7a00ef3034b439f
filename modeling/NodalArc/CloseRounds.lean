import NodalArc.CommandRules

/-! Closing the ends of long-delay records.  Records close in rounds, one record of each pair to a
round; a round changes the records it closes and no other, so each round meets its records as they
were when the close was planned. -/

namespace NodalArc.CloseRounds

open OrderedDict
open GroundPolicy
open LinkRecord
open ContactDrain
open Actuation
open NodeAgentBatches
open DispatchActuator
open CommandVerdict
open Reconcile
open HeldRecords
open CommandRules
open BatchEntries
open StatefulProgram
open StatefulProgram.Program

variable {info : ActiveLinkInfo} {closed : ActuationResult} {losses : List LinkEndLoss}
    {key : RecordKey} {E : SchedulerError → Scheduler → Prop} {reason : String}
    {Q : Unit → Scheduler → Prop}

variable {config : SchedulerConfig} {env : Surroundings} {s t : Scheduler}
    {downReasons : Dict Pair String} {prove : Bool} {batch records : List CloseRecord}
    {record : CloseRecord} {rounds : List (List CloseRecord)}

/-! ### Rounds -/

theorem addToRounds_perm (record : CloseRecord) (rounds : List (List CloseRecord)) :
    (addToRounds record rounds).flatten.Perm (record :: rounds.flatten) := by
  induction rounds with
  | nil => exact List.Perm.refl _
  | cons round later ih =>
    unfold addToRounds
    split
    · rw [List.flatten_cons, List.flatten_cons]
      exact (ih.append_left round).trans List.perm_middle
    · simp only [List.flatten_cons, List.append_assoc]
      exact List.perm_middle

theorem closeRounds_perm (records : List CloseRecord) :
    (closeRounds records).flatten.Perm records := by
  suffices hgen : ∀ rounds : List (List CloseRecord),
      (records.foldl (fun rounds record => addToRounds record rounds) rounds).flatten.Perm
        (rounds.flatten ++ records) by
    simpa [closeRounds] using hgen []
  induction records with
  | nil => simp
  | cons record records ih =>
    intro rounds
    rw [List.foldl_cons]
    refine (ih _).trans ?_
    exact ((addToRounds_perm record rounds).append_right records).trans List.perm_middle.symm

def DistinctPairs (batch : List CloseRecord) : Prop := (batch.map fun r => r.key.pair).Nodup

theorem distinctPairs_addToRounds (h : ∀ round ∈ rounds, DistinctPairs round) :
    ∀ round ∈ addToRounds record rounds, DistinctPairs round := by
  induction rounds with
  | nil => simp [addToRounds, DistinctPairs]
  | cons round later ih =>
    rw [List.forall_mem_cons] at h
    unfold addToRounds
    split
    · exact List.forall_mem_cons.mpr ⟨h.1, ih h.2⟩
    · rename_i hfresh
      refine List.forall_mem_cons.mpr ⟨?_, h.2⟩
      rw [DistinctPairs, List.map_append, List.map_singleton]
      refine List.nodup_append.mpr ⟨h.1, List.nodup_singleton _, ?_⟩
      rintro a ha b hb rfl
      exact hfresh (List.mem_singleton.mp hb ▸ ha)

theorem distinctPairs_closeRounds (h : batch ∈ closeRounds records) : DistinctPairs batch := by
  suffices hgen : ∀ rounds : List (List CloseRecord), (∀ round ∈ rounds, DistinctPairs round) →
      ∀ round ∈ records.foldl (fun rounds record => addToRounds record rounds) rounds,
        DistinctPairs round from hgen [] (by simp) batch h
  clear h
  induction records with
  | nil => exact fun rounds h => h
  | cons record records ih =>
    intro rounds hrounds
    exact ih _ (distinctPairs_addToRounds hrounds)

/-! ### One round -/

def proofFrame (batch : List CloseRecord) : CommandFrame :=
  inventoryFrame (roundLinks batch) (sortedRoundEnds batch)

theorem wp_proveRound (hE : ∀ e, E e s)
    (h : ∀ plan, buildInventoryPlan config (roundLinks batch) (sortedRoundEnds batch) = .ok plan →
      let proven := afterCommand env (proofFrame batch) plan s
      (∀ e, E e proven) ∧ ∀ gsActuation, NoneCleared s.gsActuation gsActuation →
        Q () { proven with gsActuation }) :
    wp (proveRound config env batch) s Q E := by
  simp only [proveRound, verifyLongDelayEnds, wp_bind, wp_lift, wp_sendCommand]
  refine ⟨fun plan hplan => ?_, fun e _ => hE e⟩
  exact wp_handleActuationResult (h plan hplan).2 (h plan hplan).1

theorem sameRecords_proveRound : Within SameRecords (proveRound config env batch) :=
  fun _ => wp_proveRound (fun _ _ => rfl) fun _ _ =>
    ⟨fun _ _ => record?_congr rfl rfl, fun _ _ _ => record?_congr rfl rfl⟩

def closeFrame (batch : List CloseRecord) : CommandFrame :=
  downFrame (roundLinks batch) (batch.map fun r => r.key.pair) (closeStage batch)

def closePlan (config : SchedulerConfig) (batch : List CloseRecord) :
    Except SchedulerError BatchPlan :=
  buildLinkDownBatchPlan config .close (.ofList (roundEnds batch)) ∅ (roundLinks batch)
    (sortedSet (batch.map fun r => r.key.pair))

variable (hpairs : DistinctPairs batch)

include hpairs

theorem get?_roundLinks {r : CloseRecord} (hr : r ∈ batch) :
    (roundLinks batch).get? r.key.pair = some r.info := by
  refine Dict.get?_ofList_of_nodup ?_ (List.mem_map.mpr ⟨r, hr, rfl⟩)
  rw [List.map_map]
  exact hpairs

theorem get?_roundEnds {r : CloseRecord} (hr : r ∈ batch) :
    (Dict.ofList (roundEnds batch)).get? r.key.pair = some r.ends := by
  refine Dict.get?_ofList_of_nodup ?_ (List.mem_map.mpr ⟨r, hr, rfl⟩)
  rw [roundEnds, List.map_map]
  exact hpairs

theorem contact_of_closePlan {r : CloseRecord} {plan : BatchPlan}
    (hplan : closePlan config batch = .ok plan) (hr : r ∈ batch) : r.info.contact ≠ none := by
  intro hnone
  obtain ⟨hcheck, -⟩ := built_of_linkDown hplan
    (mem_sortedSet.mpr (List.mem_map_of_mem hr)) (get?_roundLinks hpairs hr)
  have hmem : r.key.pair ∈ Dict.ofList (roundEnds batch) :=
    Dict.mem_of_get? (get?_roundEnds hpairs hr)
  simp [checkDownStage, hnone, hmem] at hcheck

theorem wp_sendClose {Q : ActuationResult → Scheduler → Prop} (hE : ∀ e, E e s)
    (h : ∀ plan, closePlan config batch = .ok plan →
      let sent := afterCommand env (closeFrame batch) plan s
      let closed := resultIn config env (closeFrame batch) plan s
      (∀ e, E e sent) ∧ (Absorbed closed → ∀ gsActuation, NoneCleared s.gsActuation gsActuation →
        Q closed { sent with gsActuation })) :
    wp (sendClose config env batch) s Q E := by
  rw [sendClose, wp_bind]
  refine wp_sendBatchDown (fun e _ => hE e) fun plan events hplan hevents => ?_
  obtain rfl : events = [] := by
    refine localDowns_eq_nil (fun pair hpair info hinfo hnone => ?_) hevents
    obtain ⟨r, hr, rfl⟩ := List.mem_map.mp hpair
    obtain rfl := Option.some.inj ((get?_roundLinks hpairs hr).symm.trans hinfo)
    exact contact_of_closePlan hpairs hplan hr hnone
  rw [wp_bind]
  exact wp_handleActuationResult_absorbed (h plan hplan).2 (h plan hplan).1

omit hpairs

/-- The state after a record was torn down and its LinkDown published. -/
def tornDown (config : SchedulerConfig) (key : RecordKey) (info : ActiveLinkInfo)
    (reason : String) (losses : List LinkEndLoss) (s : Scheduler) : Scheduler :=
  afterEvents [.linkDown key.pair info.contact reason losses]
    (decrementActiveCounts config key.pair info.toLinkInfo (dropRecord key s))

@[simp] theorem wp_tearDownLongDelayRecord :
    wp (tearDownLongDelayRecord config key info reason losses) s Q E ↔
      Q () (tornDown config key info reason losses s) := Iff.rfl

@[simp] theorem record?_tornDown {key' : RecordKey}
    : record? (tornDown config key info reason losses s) key' =
      if key' = key then none else record? s key' := by
  simp [tornDown, decrementActiveCounts]

@[simp] theorem log_tornDown : (tornDown config key info reason losses s).log =
      .linkDown key.pair info.contact reason losses :: s.log := by
  simp [tornDown, afterEvents, decrementActiveCounts]

@[simp] theorem gsActuation_tornDown :
    (tornDown config key info reason losses s).gsActuation = s.gsActuation := by
  simp [tornDown, afterEvents, decrementActiveCounts]

@[simp] theorem stageLosses_tornDown :
    (tornDown config key info reason losses s).stageLosses = s.stageLosses := by
  simp [tornDown, afterEvents, decrementActiveCounts]

theorem wp_settleEnds {drain : Drain} {gone : List NodeId} {lost : List LinkEndLoss}
    (hkeep : ∀ left : Drain, left.reason = drain.reason → left.closed = drain.closed ++ lost →
      left.ends = drain.ends.filter (fun e => e.nodeId ∉ gone) → Q () (setRecord key { info with
      drain := some left } s))
    (hgone : drain.ends.filter (fun e => e.nodeId ∉ gone) = [] → Q () (tornDown config key info
      reason (drain.closed ++ lost) s)) :
    wp (settleEnds config key info drain gone lost reason) s Q E := by
  unfold settleEnds
  dsimp only
  split
  · rename_i hleft
    exact hkeep ⟨drain.reason, _, drain.closed ++ lost, hleft⟩ rfl rfl rfl
  · rename_i hleft
    exact hgone (not_ne_iff.mp hleft)

/-- What is left of a record some of whose ends left it. -/
def Settled (info : ActiveLinkInfo) (gone : List NodeId) (now : Option ActiveLinkInfo) : Prop :=
  match info.drain with
  | none => now = none
  | some drain =>
      drain.ends.filter (fun e => e.nodeId ∉ gone) = [] ∧ now = none ∨
        ∃ left : Drain, left.reason = drain.reason ∧
          left.ends = drain.ends.filter (fun e => e.nodeId ∉ gone) ∧
          now = some { info with drain := some left }

/-- How a settled record changes the state: its own entry, and one LinkDown if it went. -/
structure SettledIn (record : CloseRecord) (s t : Scheduler) : Prop where
  others : ∀ key, key ≠ record.key → record? t key = record? s key
  settled : Settled record.info record.ends (record? t record.key)
  stageLosses : t.stageLosses = s.stageLosses
  log : t.log = s.log ∨ record? t record.key = none ∧
    ∃ reason losses, t.log = .linkDown record.key.pair record.info.contact reason losses :: s.log

theorem wp_settleClosed (h : ∀ t, SettledIn record s t → Q () t) :
    wp (settleClosed config downReasons closed record) s Q E := by
  simp only [settleClosed, wp_bind, wp_get]
  cases hdrain : record.info.drain with
  | none =>
    rw [wp_tearDownLongDelayRecord]
    refine h _ ⟨fun key hkey => by simp [hkey], by simp [Settled, hdrain], by simp, ?_⟩
    exact .inr ⟨by simp, _, _, log_tornDown⟩
  | some drain =>
    refine wp_settleEnds (fun left hreason _ hends => ?_) fun hends => ?_
    · refine h _ ⟨fun key hkey => by simp [hkey], ?_, by simp, .inl (by simp)⟩
      simp only [Settled, hdrain, record?_setRecord, if_pos]
      exact .inr ⟨left, hreason, hends, rfl⟩
    · refine h _ ⟨fun key hkey => by simp [hkey], ?_, by simp, .inr ⟨by simp, _, _, log_tornDown⟩⟩
      simp only [Settled, hdrain, record?_tornDown, if_pos]
      exact .inl ⟨hends, trivial⟩

theorem DistinctPairs.keys (h : DistinctPairs batch) : (batch.map CloseRecord.key).Nodup := by
  rw [DistinctPairs] at h
  refine List.Nodup.of_map RecordKey.pair ?_
  rwa [List.map_map]

def OtherKeysKept (key : RecordKey) (s t : Scheduler) : Prop :=
  ∀ key', key' ≠ key → record? t key' = record? s key'

instance {key : RecordKey} : Std.Refl (OtherKeysKept key) := ⟨fun _ _ _ => rfl⟩

instance {key : RecordKey} : IsTrans Scheduler (OtherKeysKept key) :=
  ⟨fun _ _ _ hst htu key' hkey => (htu key' hkey).trans (hst key' hkey)⟩

/-- The rule for a loop over records under distinct keys whose body changes its own record only:
each record is current when its turn comes. -/
theorem wp_forM_records {α : Type} {xs : List α} (key : α → RecordKey) (info : α → ActiveLinkInfo)
    {body : α → SchedulerM Unit} (I : List α → Scheduler → Prop) (hnodup : (xs.map key).Nodup)
    (hcurrent : ∀ x ∈ xs, record? s (key x) = some (info x))
    (hframe : ∀ x ∈ xs, Within (OtherKeysKept (key x)) (body x))
    (hstep : ∀ done x t, x ∈ xs → key x ∉ done.map key → record? t (key x) = some (info x) → I
      done t → wp (body x) t (fun _ => I (done ++ [x])) E) (hs : I [] s)
    : wp (forM xs body) s (fun _ => I xs) E := by
  refine wp_imp (wp_forM (fun done t => I done t ∧
    ∀ x ∈ xs, key x ∉ done.map key → record? t (key x) = some (info x)) ?_
    ⟨hs, fun x hx _ => hcurrent x hx⟩) fun _ t ht => ht.1
  rintro done x post t hsplit ⟨hI, hrest⟩
  have hx : x ∈ xs := by simp [hsplit]
  have hfresh : key x ∉ done.map key := by
    rw [hsplit, List.map_append, List.map_cons] at hnodup
    exact fun hmem => (List.nodup_append.mp hnodup).2.2 _ hmem _ List.mem_cons_self rfl
  refine wp_mono (wp_and (hstep done x t hx hfresh (hrest x hx hfresh) hI) (hframe x hx t)) ?_
    fun _ _ h => h.1
  rintro _ u ⟨hI', hothers⟩
  refine ⟨hI', fun y hy hdone => ?_⟩
  simp only [List.map_append, List.map_singleton, List.mem_append, List.mem_singleton,
    not_or] at hdone
  rw [hothers (key y) hdone.2]
  exact hrest y hy hdone.1

theorem wp_settleRound (I : List CloseRecord → Scheduler → Prop) (hpairs : DistinctPairs batch)
    (hcurrent : ∀ r ∈ batch, record? s r.key = some r.info)
    (hsettle : ∀ done r t, r ∈ batch → r.key ∉ done.map CloseRecord.key → record? t r.key = some
      r.info → I done t → r.key.pair ∈ closed.succeededPairs → wp (settleClosed config downReasons
      closed r) t (fun _ => I (done ++ [r])) E)
    (hskip : ∀ done r t, r ∈ batch → r.key ∉ done.map CloseRecord.key → record? t r.key = some
      r.info → I done t → r.key.pair ∉ closed.succeededPairs → I (done ++ [r]) t) (hs : I [] s) :
    wp (settleRound config downReasons closed batch) s (fun _ => I batch) E := by
  refine wp_forM_records CloseRecord.key CloseRecord.info I hpairs.keys hcurrent (fun r _ => ?_) ?_ hs
  · exact within_when fun _ s => wp_settleClosed fun t ht => ht.others
  · intro done r t hr hfresh hheld hI
    rw [wp_when]
    exact ⟨hsettle done r t hr hfresh hheld hI, hskip done r t hr hfresh hheld hI⟩

theorem sameRecords_sendClose : Within SameRecords (sendClose config env batch) :=
  within_bind sameRecords_sendBatchDown fun _ =>
    within_bind sameRecords_handleActuationResult fun _ => within_pure

/-! ### All rounds -/

def OthersKept (batch : List CloseRecord) (s t : Scheduler) : Prop :=
  ∀ key, key ∉ batch.map CloseRecord.key → record? t key = record? s key

instance : Std.Refl (OthersKept batch) := ⟨fun _ _ _ => rfl⟩

instance : IsTrans Scheduler (OthersKept batch) :=
  ⟨fun _ _ _ hst htu key hkey => (htu key hkey).trans (hst key hkey)⟩

theorem othersKept_closeRound :
    Within (OthersKept batch) (closeRound config env downReasons prove batch) := by
  refine within_bind (within_when fun _ s => ?_) fun _ => within_bind (fun s => ?_) fun closed =>
    within_forM fun record hrecord => within_when fun _ s => ?_
  · exact sameRecords_proveRound.wp s (fun _ _ h key _ => h key) fun _ _ h key _ => h key
  · exact sameRecords_sendClose.wp s (fun _ _ h key _ => h key) fun _ _ h key _ => h key
  · refine wp_settleClosed fun t ht key hkey => ht.others key ?_
    rintro rfl
    exact hkey (List.mem_map_of_mem hrecord)

/-- The rule for closing records: the records are current when the close is planned, so they are
current when their round comes. -/
theorem wp_closeLongDelayEnds (I : List CloseRecord → Scheduler → Prop)
    (hcurrent : ∀ r ∈ records, record? s r.key = some r.info)
    (hkeys : (records.map CloseRecord.key).Nodup)
    (hround : ∀ done batch t, (∀ r ∈ batch, r ∈ records ∧ r.key ∉ done.map CloseRecord.key) →
      DistinctPairs batch → (∀ r ∈ batch, record? t r.key = some r.info) → I done t → wp
      (closeRound config env downReasons prove batch) t (fun _ => I (done ++ batch)) E)
    (hs : I [] s) : wp (closeLongDelayEnds config env downReasons prove records) s
      (fun _ t => ∃ done, done.Perm records ∧ I done t) E := by
  have hperm := closeRounds_perm records
  have hnodup : ((closeRounds records).flatten.map CloseRecord.key).Nodup :=
    (hperm.map _).nodup_iff.mpr hkeys
  refine wp_imp (wp_forM (fun done t => I done.flatten t ∧
    ∀ r ∈ records, r.key ∉ done.flatten.map CloseRecord.key → record? t r.key = some r.info)
    ?_ ⟨hs, fun r hr _ => hcurrent r hr⟩) ?_
  · rintro done batch post t hsplit ⟨hI, hrest⟩
    have hmem : batch ∈ closeRounds records := by simp [hsplit]
    have hsub : ∀ r ∈ batch, r ∈ records ∧ r.key ∉ done.flatten.map CloseRecord.key := by
      refine fun r hr => ⟨hperm.subset (List.mem_flatten.mpr ⟨batch, hmem, hr⟩), fun hdone => ?_⟩
      -- keys differ over all rounds, so a record of this round was not in an earlier one
      rw [hsplit, List.flatten_append, List.flatten_cons, List.map_append] at hnodup
      exact (List.nodup_append.mp hnodup).2.2 _ hdone _
        (List.mem_map_of_mem (List.mem_append_left _ hr)) rfl
    have hbatch : ∀ r ∈ batch, record? t r.key = some r.info := fun r hr =>
      hrest r (hsub r hr).1 (hsub r hr).2
    refine wp_mono (wp_and (hround done.flatten batch t hsub (distinctPairs_closeRounds hmem)
      hbatch hI) (othersKept_closeRound t)) ?_ fun e u h => h.1
    rintro _ u ⟨hI', hothers⟩
    refine ⟨by simpa using hI', fun r hr hdone => ?_⟩
    simp only [List.flatten_append, List.flatten_singleton, List.map_append, List.mem_append,
      not_or] at hdone
    rw [hothers r.key hdone.2]
    exact hrest r hr hdone.1
  · rintro _ t ⟨hI, -⟩
    exact ⟨_, hperm, hI⟩

theorem othersKept_closeLongDelayEnds : Within (OthersKept records)
      (closeLongDelayEnds config env downReasons prove records) := by
  refine within_forM fun batch hbatch s => ?_
  refine wp_mono (othersKept_closeRound s) (fun _ t ht key hkey => ht key ?_)
    fun _ t ht key hkey => ht key ?_
  all_goals
    intro hmem
    obtain ⟨r, hr, rfl⟩ := List.mem_map.mp hmem
    have hin : r ∈ records := (closeRounds_perm records).subset
      (List.mem_flatten.mpr ⟨batch, hbatch, hr⟩)
    exact hkey (List.mem_map_of_mem hin)

/-! ### Acknowledged closes -/

section Acknowledged

variable {r : CloseRecord} {plan : BatchPlan}

theorem mem_closePlan_iff (hpairs : DistinctPairs batch) (hplan : closePlan config batch = .ok plan)
    {planned : AgentAddr × Entry} :
    planned ∈ plan ↔ ∃ r ∈ batch, ∃ ends, linkEnds config r.key.pair r.info.toLinkInfo = .ok ends ∧
      ∃ e ∈ ends, e.own.1 ∈ r.ends ∧ planned =
        e.entry config r.key.pair r.info.toLinkInfo (r.info.endContact? e.own.1) := by
  have hcontact : ∀ r ∈ batch, ∀ terminal, downContactId ∅ r.info terminal =
      r.info.endContact? terminal.1 := by
    intro r hr terminal
    obtain ⟨contact, hcontact⟩ :=
      Option.ne_none_iff_exists'.mp (contact_of_closePlan hpairs hplan hr)
    simp [downContactId, hcontact]
  rw [entry_of_linkDown hplan]
  constructor
  · rintro ⟨pair, hpair, held, ends, hheld, -, hends, e, he, rfl⟩
    obtain ⟨r, hr, rfl⟩ := List.mem_map.mp (mem_sortedSet.mp hpair)
    rw [get?_roundLinks hpairs hr] at hheld
    obtain rfl := Option.some.inj hheld
    rw [selectedEnds, get?_roundEnds hpairs hr, List.mem_filter] at he
    refine ⟨r, hr, ends, hends, e, he.1, of_decide_eq_true he.2, ?_⟩
    rw [hcontact r hr]
  · rintro ⟨r, hr, ends, hends, e, he, hnamed, rfl⟩
    have hmem := mem_sortedSet.mpr (List.mem_map_of_mem (f := fun r => r.key.pair) hr)
    have hheld := get?_roundLinks hpairs hr
    refine ⟨r.key.pair, hmem, r.info, ends, hheld, (built_of_linkDown hplan hmem hheld).1, hends,
      e, ?_, ?_⟩
    · rw [selectedEnds, get?_roundEnds hpairs hr]
      exact List.mem_filter.mpr ⟨he, decide_eq_true hnamed⟩
    · rw [hcontact r hr]

/-- What makes the CLOSE of a record succeed: its agents acknowledge it, if it is a ground link
(the failure of any other stops the dispatcher), and it names an end of the pair. -/
structure ClosesSurely (surroundings : Surroundings) (r : CloseRecord) : Prop where
  acknowledged : r.info.linkType = .ground →
    Acknowledges surroundings .batchLinkDown .close r.key.pair
  named : ∃ terminal ∈ endTerminals r.key.pair r.info.toLinkInfo, terminal.1 ∈ r.ends

theorem closed_of_closesSurely (hpairs : DistinctPairs batch)
    (hplan : closePlan config batch = .ok plan)
    (habsorbed : Absorbed (resultIn config env (closeFrame batch) plan s)) (hr : r ∈ batch)
    (hsure : ClosesSurely env r) :
    r.key.pair ∈ (resultIn config env (closeFrame batch) plan s).succeededPairs := by
  have hmem := mem_sortedSet.mpr (List.mem_map_of_mem (f := fun r => r.key.pair) hr)
  by_contra hfailed
  have htype := ground_of_failed habsorbed hmem hfailed
  change linkTypesOf (roundLinks batch) r.key.pair = some .ground at htype
  rw [linkTypesOf, get?_roundLinks hpairs hr, Option.map_some, Option.some.injEq] at htype
  refine hfailed (succeeded_of_acknowledges (hsure.acknowledged htype) rfl hmem ?_)
  obtain ⟨-, ends, hends⟩ := built_of_linkDown hplan hmem (get?_roundLinks hpairs hr)
  obtain ⟨terminal, hterminal, hnamed⟩ := hsure.named
  obtain ⟨e, he, rfl⟩ := exists_linkEnd_of_contact hends
    (contact_of_closePlan hpairs hplan hr) hterminal
  exact ⟨_, (mem_closePlan_iff hpairs hplan).mpr ⟨r, hr, ends, hends, e, he, hnamed, rfl⟩, rfl⟩

def Outcome (surroundings : Surroundings) (r : CloseRecord) (t : Scheduler) : Prop :=
  Settled r.info r.ends (record? t r.key) ∨
    record? t r.key = some r.info ∧ ¬ ClosesSurely surroundings r

theorem Outcome.congr {t u : Scheduler} (h : Outcome env r t)
    (hkey : record? u r.key = record? t r.key) : Outcome env r u := by
  rwa [Outcome, hkey]

theorem wp_closeRound_outcome (hpairs : DistinctPairs batch)
    (hcurrent : ∀ r ∈ batch, record? s r.key = some r.info) :
    wp (closeRound config env downReasons prove batch) s
      (fun _ t => ∀ r ∈ batch, Outcome env r t) (fun _ _ => True) := by
  rw [closeRound, wp_bind]
  refine wp_mono (within_when (R := SameRecords) (fun _ => sameRecords_proveRound) s) ?_
    fun _ _ _ => trivial
  intro _ t hsame
  rw [wp_bind]
  refine wp_sendClose hpairs (fun _ => trivial) fun plan hplan => ⟨fun _ => trivial, ?_⟩
  intro habsorbed g _
  refine wp_settleRound (fun done u => ∀ r ∈ done, Outcome env r u) hpairs
    (fun r hr => (record?_congr rfl rfl).trans ((hsame r.key).trans (hcurrent r hr))) ?_ ?_
    fun _ h => nomatch h
  · intro done r u _ hfresh _ hdone _
    refine wp_settleClosed fun v hv => List.forall_mem_append.mpr ⟨fun r' hr' => ?_,
      List.forall_mem_singleton.mpr (.inl hv.settled)⟩
    exact (hdone r' hr').congr (hv.others r'.key fun heq => hfresh (heq ▸ List.mem_map_of_mem hr'))
  · intro done r u hr _ hheld hdone hfailed
    refine List.forall_mem_append.mpr ⟨hdone, List.forall_mem_singleton.mpr (.inr ⟨hheld, ?_⟩)⟩
    exact fun hsure => hfailed (closed_of_closesSurely hpairs hplan habsorbed hr hsure)

theorem wp_closeLongDelayEnds_outcome (hcurrent : ∀ r ∈ records, record? s r.key = some r.info)
    (hkeys : (records.map CloseRecord.key).Nodup) :
    wp (closeLongDelayEnds config env downReasons prove records) s
      (fun _ t => ∀ r ∈ records, Outcome env r t) (fun _ _ => True) := by
  refine wp_imp (wp_closeLongDelayEnds (fun done t => ∀ r ∈ done, Outcome env r t)
    hcurrent hkeys ?_ fun _ h => nomatch h) ?_
  · intro done batch t hbatch hpairs hheld hdone
    refine wp_mono (wp_and (wp_closeRound_outcome hpairs hheld) (othersKept_closeRound t)) ?_
      fun _ _ _ => trivial
    rintro _ u ⟨houtcome, hothers⟩
    refine List.forall_mem_append.mpr ⟨fun r hr => ?_, houtcome⟩
    refine (hdone r hr).congr (hothers r.key fun hmem => ?_)
    obtain ⟨r', hr', heq⟩ := List.mem_map.mp hmem
    exact (hbatch r' hr').2 (heq ▸ List.mem_map_of_mem hr)
  · rintro _ t ⟨done, hperm, hdone⟩
    exact fun r hr => hdone r (hperm.mem_iff.mpr hr)

end Acknowledged

end NodalArc.CloseRounds
