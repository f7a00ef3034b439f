import NodalArc.InterfaceAgreement
import NodalArc.StationInventory
import NodalArc.StationTrust
import NodalArc.SucceedingCommands

/-! When an operator's repair can bring a station back to clean. -/

namespace NodalArc.OperatorRepair

open OrderedDict
open GroundPolicy
open LinkRecord
open ContactDrain
open DispatchPlanner
open Actuation
open NodeAgentBatches
open DispatchActuator
open CommandVerdict
open Reconcile
open HeldRecords
open BatchEntries
open CommandRules
open LocalLinks
open KernelState
open CleanFailures
open SucceedingCommands
open GroundRecovery
open StationInventory
open SchedulerRuns
open StationTrust
open StatefulProgram
open StatefulProgram.Program

variable {result : ActuationResult} {teardown : Dict Pair ActiveLinkInfo}
  {inventory : GroundInventory} {requested : List Pair} {s : Scheduler}

/-- What a LinkUp of a link asks besides the agents: fresh geometry, delays the substrate can
represent, known rates and a range. -/
def Actuable (config : SchedulerConfig) (surroundings : Surroundings) (simTime : ℚ)
    (desired : Dict Pair LinkInfo) : Prop :=
  ∀ pair want, desired.get? pair = some want →
    validateAuthorityFreshness config simTime pair want = .ok () ∧
    surroundings.compensable pair (want.latencyAToBMs, want.latencyBToAMs) = true ∧
    (∀ terminal ∈ endTerminals pair want, terminal ∈ config.interfaceRates) ∧
    want.rangeKm ≠ none

def HeldLocal (actual : Dict Pair ActiveLinkInfo) (pairs : List Pair) : Prop :=
  ∀ pair ∈ pairs, ∃ info, actual.get? pair = some info ∧ info.contact = none

/-- The station is clean, its links are the desired ones, and no interface of a link the repair tore
down carries anything but a link desired of the station. -/
structure Repaired (config : SchedulerConfig) (start : Kernel) (order : RepairOrder)
    (r t : Recovery) : Prop where
  clean : (t.scheduler.gsActuation order.gsId).state = .clean
  restored : ∀ pair, pair ∈ actualGroundPairsForGs config t.scheduler.actualLinks order.gsId ↔
    pair ∈ order.authority config
  unwired : ∀ pair info, pair ∈ order.teardown config r →
    (r.scheduler.actualLinks.get? pair).or ((order.teardown config r).get? pair) = some info →
    ∀ terminal ∈ endTerminals pair info.toLinkInfo, ∀ carried,
      kernelAfter start t.scheduler.log terminal = some carried →
        carried.pair ∈ order.authority config

structure Repairable (config : SchedulerConfig) (surroundings : Surroundings) (order : RepairOrder)
    (r : Recovery) : Prop where
  held : HeldLocal r.scheduler.actualLinks (order.teardown config r).keys
  actuable : Actuable config surroundings order.simTime (order.authority config)

variable {config : SchedulerConfig} {env : Surroundings} {order : RepairOrder}
    {r : Recovery} {pair : Pair} {info : ActiveLinkInfo} {actual : Dict Pair ActiveLinkInfo}
    {pairs : List Pair} {plan : BatchPlan}

/-! ### The links of the station -/

theorem station_of_teardown (h : (order.teardown config r).get? pair = some info) :
    OfStation config order.gsId pair info.linkType := by
  rw [RepairOrder.teardown, Dict.get?_update, Option.or_eq_some_iff] at h
  rcases h with h | ⟨-, h⟩
  · exact of_decide_eq_true (Dict.get?_filter_eq_some_iff.mp h).2
  · rw [Dict.get?_ofList_filterMap] at h
    split_ifs at h
    obtain ⟨hstale, hstation⟩ := Option.filter_eq_some_iff.mp h
    exact ⟨r.stale_ground pair info hstale, of_decide_eq_true hstation⟩

theorem mem_teardown_of_actual (h : r.scheduler.actualLinks.get? pair = some info)
    (hstation : OfStation config order.gsId pair info.linkType) :
    pair ∈ order.teardown config r := by
  have hheld : (actualGroundPairsForGs config r.scheduler.actualLinks order.gsId).get? pair =
      some info := Dict.get?_filter_eq_some_iff.mpr ⟨h, decide_eq_true hstation⟩
  refine Dict.mem_iff.mpr ⟨info, ?_⟩
  rw [RepairOrder.teardown, Dict.get?_update, hheld]
  rfl

theorem station_of_authority {want : LinkInfo}
    (h : (order.authority config).get? pair = some want) :
    OfStation config order.gsId pair want.linkType :=
  of_decide_eq_true (Dict.get?_filter_eq_some_iff.mp h).2

/-! ### Teardown -/

theorem checkDownStage_close_eq_ok_iff :
    checkDownStage .close ∅ pair info = .ok () ↔ info.contact = none := by
  unfold checkDownStage
  split_ifs with hcontact <;> simp_all

theorem exists_downPlan (hheld : HeldLocal actual pairs)
    (hstation : ∀ pair ∈ pairs, ∃ gsId, gsIdForPair pair config.gsCapacities = some gsId) :
    ∃ plan, buildLinkDownBatchPlan config .close ∅ ∅ actual pairs = .ok plan := by
  refine exists_bind_mapM_of_forall fun pair hpair => ?_
  obtain ⟨info, hinfo, hcontact⟩ := hheld pair hpair
  obtain ⟨gsId, hgs⟩ := hstation pair hpair
  obtain ⟨ends, hends⟩ : ∃ ends, linkEnds config pair info.toLinkInfo = .ok ends :=
    exists_linkEnds hgs
  rw [hinfo]
  exact ⟨_, bind_eq_ok_iff.mpr ⟨(), checkDownStage_close_eq_ok_iff.mpr hcontact,
    bind_eq_ok_iff.mpr ⟨ends, hends, rfl⟩⟩⟩

theorem planned_of_down (hplan : buildLinkDownBatchPlan config .close ∅ ∅ actual pairs = .ok plan)
    (hpair : pair ∈ pairs) (hinfo : actual.get? pair = some info) :
    ∃ ends, linkEnds config pair info.toLinkInfo = .ok ends ∧ ∀ e ∈ ends,
      e.entry config pair info.toLinkInfo (downContactId ∅ info e.own) ∈ plan := by
  obtain ⟨hcheck, ends, hends⟩ := built_of_linkDown hplan hpair hinfo
  refine ⟨ends, hends, fun e he => (entry_of_linkDown hplan).mpr ?_⟩
  exact ⟨pair, hpair, info, ends, hinfo, hcheck, hends, e, he, rfl⟩

theorem held_of_planned (hplan : buildLinkDownBatchPlan config .close ∅ ∅ actual pairs = .ok plan)
    (h : expectedAcks plan pair ≠ []) : ∃ info, actual.get? pair = some info := by
  obtain ⟨ack, hack⟩ := List.exists_mem_of_ne_nil _ h
  obtain ⟨planned, hplanned, hpair, -⟩ := mem_expectedAcks_iff.mp hack
  obtain ⟨_, -, info, _, hinfo, -, -, _, -, rfl⟩ := (entry_of_linkDown hplan).mp hplanned
  obtain rfl : _ = pair := hpair
  exact ⟨info, hinfo⟩

theorem wp_repairTeardown_held : wp (repairTeardown config env order teardown) r
      (fun _ _ => HeldLocal r.scheduler.actualLinks teardown.keys) (fun _ _ => True) := by
  rw [repairTeardown, wp_bind, wp_get, wp_bind, wp_onScheduler]
  refine wp_sendBatchDown (fun _ _ => trivial) fun plan events hplan _ => ?_
  rw [wp_bind, wp_get, wp_bind, handleRepairResult, wp_bind, wp_onScheduler]
  refine wp_handleActuationResult_absorbed (fun habsorbed gsActuation _ => ?_) fun _ => trivial
  have hheld : HeldLocal r.scheduler.actualLinks teardown.keys := by
    intro pair hpair
    have hmem := mem_sortedSet.mpr hpair
    cases hinfo : r.scheduler.actualLinks.get? pair with
    | none =>
      have htype := habsorbed _ (mem_pairResults_iff.mpr ⟨pair, hmem, rfl⟩) ?_
      · change linkTypesOf r.scheduler.actualLinks pair = some .ground at htype
        rw [linkTypesOf, hinfo] at htype
        cases htype
      · refine failed_iff.mpr (.inl ?_)
        by_contra hplanned
        obtain ⟨info, hsome⟩ := held_of_planned hplan hplanned
        rw [hinfo] at hsome
        cases hsome
    | some info =>
      obtain ⟨hcheck, -⟩ := built_of_linkDown hplan hmem hinfo
      exact ⟨info, rfl, checkDownStage_close_eq_ok_iff.mp hcheck⟩
  exact wp_of_forall (fun _ _ => wp_of_forall (fun _ _ => hheld) fun _ _ => trivial)
    fun _ _ => trivial

/-! ### Replies that are all successes -/

section Succeeding

variable {start : Kernel} (hagents : AllSucceed env)
include hagents

theorem inventory_quiet {gsId : NodeId}
    (hnamed : ∀ pair ∈ requested, ∃ terminal, Names inventory pair terminal) :
    ¬ (inventoryVerdict env s gsId requested inventory).HasFailures := by
  rintro (hfailed | ⟨r, hr, hclass⟩)
  · obtain ⟨pair, hpair⟩ := List.exists_mem_of_ne_nil _ hfailed
    obtain ⟨r, hr, rfl⟩ := List.mem_map.mp hpair
    obtain ⟨hr, hfailed⟩ := List.mem_filter.mp hr
    obtain ⟨pair, hrequested, rfl⟩ := List.mem_map.mp hr
    obtain ⟨_, planned, hplanned, hpair, -⟩ := hnamed pair hrequested
    refine of_decide_eq_true hfailed (success_inventory_iff.mpr ⟨?_, fun ack hack => ?_⟩)
    · exact expectedAcks_ne_nil ⟨planned, hplanned, hpair⟩
    · rw [expectedAcks_append, List.mem_append] at hack
      exact ackedIn_append.mpr (hack.imp hagents.ackedIn hagents.ackedIn)
  · rcases List.mem_append.mp hr with hr | hr
    · exact hclass (hagents.failureClass hr)
    · exact hclass (hagents.failureClass hr)

end Succeeding

theorem failedStations_eq_nil (h : ¬ result.HasFailures) : failedStations result = [] := by
  have hnone : (result.pairResults.filter fun r => ¬ r.Success ∧ r.linkType = some .ground) = [] :=
    List.filter_eq_nil_iff.mpr fun r hr hfailed =>
      h (hasFailures_of_failed hr (of_decide_eq_true hfailed).1)
  rw [failedStations, hnone]
  rfl

theorem wp_handleRepairResult_quiet {views : NodeId → DesiredView}
    {interventionId : Option String} {Q : Unit → Recovery → Prop}
    {E : SchedulerError → Recovery → Prop} (h : ¬ result.HasFailures) :
    wp (handleRepairResult config views interventionId result) r Q E ↔ Q () r := by
  rw [handleRepairResult, wp_bind, wp_onScheduler, wp_handleActuationResult_quiet h, wp_modify,
    failedStations_eq_nil h]
  rfl

@[simp] theorem kernelAfter_afterInventory {start : Kernel} :
    kernelAfter start (afterInventory env requested inventory s).log =
      kernelAfter start s.log := by
  rw [afterInventory, inventorySent, inventorySent, kernelAfter_command, kernelAfter_command,
    executed_of_quiet fun _ _ _ => rfl, executed_of_quiet fun _ _ _ => rfl]

/-- What a teardown leaves: the records are gone and their interfaces carry nothing. -/
structure TornDown (start : Kernel) (pairs : List Pair) (r t : Recovery) : Prop where
  actual : ∀ pair, t.scheduler.actualLinks.get? pair =
    if pair ∈ pairs then none else r.scheduler.actualLinks.get? pair
  stale : t.staleLinkInfos = r.staleLinkInfos
  unwired : ∀ pair ∈ pairs, ∀ info, r.scheduler.actualLinks.get? pair = some info →
    ∀ terminal ∈ endTerminals pair info.toLinkInfo,
      kernelAfter start t.scheduler.log terminal = none

theorem executed_down {down : DownStage} {terminal : Terminal} (hagents : AllSucceed env)
    (hstage : down.stage = .close)
    (hplan : buildLinkDownBatchPlan config .close ∅ ∅ actual (sortedSet pairs) = .ok plan)
    (hheld : HeldLocal actual pairs) (hpair : pair ∈ pairs) (hinfo : actual.get? pair = some info)
    (hterminal : terminal ∈ endTerminals pair info.toLinkInfo) {kernel : Kernel} :
    executed (sentIn env (downFrame actual pairs down) plan s) kernel terminal = none := by
  have hclose : ∀ planned ∈ plan, planned.2.contactId = none := by
    intro planned hplanned
    obtain ⟨other, hother, held, _, hheld', -, -, e, -, rfl⟩ := (entry_of_linkDown hplan).mp hplanned
    obtain ⟨link, hlink, hnone⟩ := hheld other (mem_sortedSet.mp hother)
    obtain rfl : held = link := Option.some.inj (hheld'.symm.trans hlink)
    change downContactId ∅ held e.own = none
    rw [downContactId, hnone]
  refine executed_eq_of_acted ?_ fun planned hplanned _ before => ?_
  · obtain ⟨ends, hends, hentries⟩ := planned_of_down hplan (mem_sortedSet.mpr hpair) hinfo
    obtain ⟨e, he, hon⟩ := exists_entry_on hends hterminal
    obtain ⟨_, hlink, hnone⟩ := hheld pair hpair
    obtain rfl := Option.some.inj (hinfo.symm.trans hlink)
    have hcontact : downContactId ∅ info e.own = info.contact := by
      rw [downContactId, hnone]
    refine ⟨_, hentries e he, hcontact ▸ hon, ?_⟩
    exact hagents.ackedIn (mem_expectedAcks_iff.mpr ⟨_, hentries e he, rfl, rfl⟩)
  · change carriedAfter .batchLinkDown (some down.stage) planned.2 before = none
    rw [carriedAfter, hstage, if_pos ⟨rfl, .inl (hclose planned hplanned)⟩]

theorem wp_repairTeardown {start : Kernel} (hagents : AllSucceed env)
    (hheld : HeldLocal r.scheduler.actualLinks teardown.keys)
    (hstation : ∀ pair info, teardown.get? pair = some info → OfStation config order.gsId pair
      info.linkType) : wp (repairTeardown config env order teardown) r
      (fun _ t => TornDown start teardown.keys r t) (fun _ _ => False) := by
  obtain ⟨plan, hplan⟩ : ∃ plan, buildLinkDownBatchPlan config .close ∅ ∅ r.scheduler.actualLinks
      (sortedSet teardown.keys) = .ok plan := by
    refine exists_downPlan (fun pair hpair => hheld pair (mem_sortedSet.mp hpair)) ?_
    intro pair hpair
    obtain ⟨info, hinfo⟩ := Dict.mem_iff.mp (mem_sortedSet.mp hpair)
    exact ⟨_, (hstation pair info hinfo).2⟩
  have hplanned : ∀ pair ∈ teardown.keys, expectedAcks plan pair ≠ [] := by
    intro pair hpair
    obtain ⟨info, hinfo, -⟩ := hheld pair hpair
    obtain ⟨ends, hends, hentries⟩ := planned_of_down hplan (mem_sortedSet.mpr hpair) hinfo
    obtain ⟨e, he⟩ := List.exists_mem_of_ne_nil _ (linkEnds_ne_nil hends)
    exact expectedAcks_ne_nil ⟨_, hentries e he, rfl⟩
  rw [repairTeardown, wp_bind, wp_get, wp_bind, wp_onScheduler]
  refine wp_sendBatchDown (fun e he => ?_) fun plan' events hplan' hevents => ?_
  · cases hplan.symm.trans he
  obtain rfl : plan = plan' := Except.ok.inj (hplan.symm.trans hplan')
  have hquiet : ¬ (resultIn config env (downFrame r.scheduler.actualLinks teardown.keys
      (repairDown teardown.keys)) plan r.scheduler).HasFailures := by
    rw [resultIn, hagents.hasFailures_iff]
    rintro ⟨pair, hpair, hnone⟩
    exact hplanned pair (mem_sortedSet.mp hpair) hnone
  rw [wp_bind, wp_get, wp_bind, wp_handleRepairResult_quiet hquiet, wp_bind, wp_onScheduler,
    wp_forM_modify, wp_bind, wp_require]
  have hall : ∀ pair ∈ teardown.keys, pair ∈ (resultIn config env
      (downFrame r.scheduler.actualLinks teardown.keys (repairDown teardown.keys)) plan
        r.scheduler).succeededPairs := fun pair hpair =>
    hagents.mem_succeededPairs_iff.mpr ⟨mem_sortedSet.mpr hpair, hplanned pair hpair⟩
  refine ⟨fun _ => ?_, fun hnot => hnot hall⟩
  rw [wp_bind, wp_onScheduler, wp_sendKernelInventory]
  refine ⟨fun inventory hinventory => ?_, fun e he => ?_⟩
  · rw [RepairOrder.requireProof, wp_when]
    refine ⟨fun hfailed => absurd hfailed (inventory_quiet hagents fun pair hpair => ?_),
      fun _ => ⟨fun pair => ?_, rfl, fun pair hpair info hinfo terminal hterminal => ?_⟩⟩
    · obtain ⟨info, hinfo⟩ := Dict.mem_iff.mp (mem_sortedSet.mp hpair)
      exact ⟨_, names_down hinventory hinfo (hstation pair info hinfo) List.mem_cons_self⟩
    · change record? (removeAll config _ _) (.current pair) = _
      rw [record?_removeAll, record?_afterEvents, record?_afterCommand]
      refine if_congr ?_ rfl rfl
      rw [List.mem_map_of_injective fun _ _ heq => RecordKey.current.inj heq, mem_sortedSet]
      exact ⟨fun h => mem_sortedSet.mp (succeededPairs_subset h), hall pair⟩
    · rw [kernelAfter_afterInventory]
      change kernelAfter start (removeAll config _ _).log terminal = none
      rw [log_removeAll]
      change kernelAfter start (events ++ .command _ :: r.scheduler.log) terminal = none
      rw [kernelAfter_append, kernelAfter_command]
      · exact executed_down hagents rfl hplan hheld hpair hinfo hterminal
      · exact command_notMem_localDowns hevents
  · obtain ⟨inventory, hinventory⟩ : ∃ inventory,
        groundInventoryRequests config order.gsId ∅ teardown = .ok inventory :=
      exists_groundInventoryRequests (fun _ _ h => nomatch h) fun _ _ h => nomatch h
    cases hinventory.symm.trans he

/-! ### Rewiring -/

section Rewire

variable {desired : Dict Pair LinkInfo} {want : LinkInfo} {gsId : NodeId}

/-- The LinkUp of a station's link can be built exactly when its delays can be represented and its
rates are known. -/
theorem exists_linkUpEntries_iff (hstation : gsIdForPair pair config.gsCapacities = some gsId) :
    (∃ plan, linkUpEntries config env .open pair want = .ok plan) ↔
      env.compensable pair (want.latencyAToBMs, want.latencyBToAMs) = true ∧
        ∀ terminal ∈ endTerminals pair want, terminal ∈ config.interfaceRates := by
  have hcompensation : requireCompensation env pair want = .ok () ↔
      env.compensable pair (want.latencyAToBMs, want.latencyBToAMs) = true := by
    unfold requireCompensation
    split_ifs with h <;> simp [h]
  have hstage : ¬ (want.contact = none ∧ Stage.open ≠ .open) := fun h => h.2 rfl
  obtain ⟨ends, hends⟩ : ∃ ends, linkEnds config pair want = .ok ends := exists_linkEnds hstation
  unfold linkUpEntries
  rw [if_neg hstage, ← hcompensation, ← requireRates_eq_ok_iff]
  constructor
  · rintro ⟨plan, h⟩
    obtain ⟨_, hcompensable, h⟩ := bind_eq_ok_iff.mp h
    obtain ⟨_, -, h⟩ := bind_eq_ok_iff.mp h
    obtain ⟨_, hrates, -⟩ := bind_eq_ok_iff.mp h
    exact ⟨hcompensable, hrates⟩
  · rintro ⟨hcompensable, hrates⟩
    exact ⟨_, bind_eq_ok_iff.mpr ⟨_, hcompensable, bind_eq_ok_iff.mpr ⟨ends, hends,
      bind_eq_ok_iff.mpr ⟨_, hrates, rfl⟩⟩⟩⟩

theorem exists_upPlan (h : ∀ pair ∈ pairs, ∃ want, desired.get? pair = some want ∧
      ∃ plan, linkUpEntries config env .open pair want = .ok plan) :
    ∃ plan, buildLinkUpBatchPlan config env .open desired pairs = .ok plan := by
  refine exists_bind_mapM_of_forall fun pair hpair => ?_
  obtain ⟨want, hwant, plan, hplan⟩ := h pair hpair
  rw [hwant]
  exact ⟨plan, hplan⟩

theorem linkUpEntries_of_plan
    (hplan : buildLinkUpBatchPlan config env .open desired pairs = .ok plan)
    (hpair : pair ∈ pairs) (hwant : desired.get? pair = some want) :
    ∃ entries, linkUpEntries config env .open pair want = .ok entries := by
  obtain ⟨plans, hplans, -⟩ := bind_eq_ok_iff.mp hplan
  obtain ⟨entries, -, hbuilt⟩ := exists_ok_of_mapM hplans hpair
  rw [hwant] at hbuilt
  exact ⟨entries, hbuilt⟩

theorem planned_of_up (hplan : buildLinkUpBatchPlan config env .open desired pairs = .ok plan)
    (hpair : pair ∈ pairs) : expectedAcks plan pair ≠ [] :=
  expectedAcks_ne_nil (exists_planned_of_linkUp hplan hpair)

theorem wp_publishLinkUps_range : wp (publishLinkUps desired result) s
      (fun _ _ => ∀ pair ∈ result.succeededPairs, ∃ info, desired.get? pair = some info ∧
        info.rangeKm ≠ none) (fun _ _ => True) := by
  refine wp_imp (wp_forM (fun published _ => ∀ pair ∈ published, ∃ info,
    desired.get? pair = some info ∧ info.rangeKm ≠ none) ?_ (by rintro _ ⟨⟩)) ?_
  · intro published pair post t _ hpublished
    simp only [wp_bind, wp_lift, wp_require, wp_publish, lookupDesired_eq_ok_iff]
    refine ⟨fun info hinfo => ⟨fun hrange => ?_, fun _ => trivial⟩, fun _ _ => trivial⟩
    exact List.forall_mem_append.mpr
      ⟨hpublished, List.forall_mem_singleton.mpr ⟨info, hinfo, hrange⟩⟩
  · exact fun _ _ h pair hpair => h pair (mem_sortedSet.mpr hpair)

theorem wp_repairRewire_actuable (hagents : AllSucceed env)
    (hstation : ∀ pair want, desired.get? pair = some want →
      OfStation config order.gsId pair want.linkType) :
    wp (repairRewire config env order desired) r
      (fun _ _ => Actuable config env order.simTime desired) (fun _ _ => True) := by
  rw [repairRewire, wp_bind, wp_onScheduler]
  refine wp_sendBatchUp (fun _ => trivial) fun plan hplan hfresh => ?_
  refine wp_mono wp_publishLinkUps_range (fun _ _ hrange => ?_) fun _ _ _ => trivial
  have hactuable : Actuable config env order.simTime desired := by
    intro pair want hwant
    have hpair : pair ∈ desired.keys := Dict.mem_of_get? hwant
    have hmem := mem_sortedSet.mpr hpair
    obtain ⟨_, hinfo, hvalid⟩ := hfresh pair hpair
    obtain rfl := Option.some.inj (hwant.symm.trans hinfo)
    obtain ⟨_, hinfo, hranged⟩ := hrange pair
      (hagents.mem_succeededPairs_iff.mpr ⟨hmem, planned_of_up hplan hmem⟩)
    obtain rfl := Option.some.inj (hwant.symm.trans hinfo)
    obtain ⟨hcompensable, hrates⟩ := (exists_linkUpEntries_iff (hstation pair want hwant).2).mp
      (linkUpEntries_of_plan hplan hmem hwant)
    exact ⟨hvalid, hcompensable, hrates, hranged⟩
  exact wp_of_forall (fun _ _ => hactuable) fun _ _ => trivial

/-- What a rewiring leaves: the links are recorded, and nothing else came onto an interface. -/
structure Rewired (start : Kernel) (desired : Dict Pair LinkInfo) (r t : Recovery) : Prop where
  actual : ∀ pair, t.scheduler.actualLinks.get? pair =
    ((desired.get? pair).map LinkInfo.activate).or (r.scheduler.actualLinks.get? pair)
  stale : t.staleLinkInfos = r.staleLinkInfos
  wired : ∀ terminal carried, kernelAfter start t.scheduler.log terminal = some carried →
    kernelAfter start r.scheduler.log terminal = some carried ∨ carried.pair ∈ desired

theorem wp_repairRewire {start : Kernel} (hagents : AllSucceed env)
    (hactuable : Actuable config env order.simTime desired)
    (hstation : ∀ pair want, desired.get? pair = some want →
      OfStation config order.gsId pair want.linkType) :
    wp (repairRewire config env order desired) r
      (fun _ t => Rewired start desired r t) (fun _ _ => False) := by
  have hwanted : ∀ pair ∈ desired.keys, ∃ want, desired.get? pair = some want := fun pair hpair =>
    Dict.mem_iff.mp hpair
  obtain ⟨plan, hplan⟩ : ∃ plan, buildLinkUpBatchPlan config env .open desired
      (sortedSet desired.keys) = .ok plan := by
    refine exists_upPlan fun pair hpair => ?_
    obtain ⟨want, hwant⟩ := hwanted pair (mem_sortedSet.mp hpair)
    obtain ⟨-, hcompensable, hrates, -⟩ := hactuable pair want hwant
    exact ⟨want, hwant,
      (exists_linkUpEntries_iff (hstation pair want hwant).2).mpr ⟨hcompensable, hrates⟩⟩
  rw [repairRewire, wp_bind, wp_onScheduler]
  refine wp_sendBatchUp_fresh (fun pair hpair => ?_) (fun pair hpair => ?_) hplan ?_
  · obtain ⟨want, hwant⟩ := hwanted pair hpair
    exact ⟨want, hwant, (hactuable pair want hwant).1⟩
  · obtain ⟨want, hwant⟩ := hwanted pair hpair
    exact ⟨want, hwant, (hactuable pair want hwant).2.2.2⟩
  have hquiet : ¬ (resultIn config env (upFrame desired .open desired.keys) plan
      r.scheduler).HasFailures := by
    rw [resultIn, hagents.hasFailures_iff]
    rintro ⟨pair, hpair, hnone⟩
    exact planned_of_up hplan hpair hnone
  have hall : ∀ pair, pair ∈ sortedSet (resultIn config env
      (upFrame desired .open desired.keys) plan r.scheduler).succeededPairs ↔ pair ∈ desired := by
    intro pair
    rw [mem_sortedSet, resultIn, hagents.mem_succeededPairs_iff]
    refine ⟨fun h => mem_sortedSet.mp h.1, fun h => ?_⟩
    exact ⟨mem_sortedSet.mpr h, planned_of_up hplan (mem_sortedSet.mpr h)⟩
  rw [wp_bind, wp_get, wp_bind, wp_handleRepairResult_quiet hquiet, wp_bind, wp_onScheduler]
  rw [wp_recordAll fun pair hpair => (hall pair).mp hpair, wp_require]
  refine ⟨fun _ => ⟨fun pair => ?_, rfl, fun terminal carried hcarried => ?_⟩, fun hnot => ?_⟩
  · change record? (addAll _ _ _ _) (.current pair) = _
    rw [record?_addAll fun pair hpair => (hall pair).mp hpair]
    cases hwant : desired.get? pair with
    | none =>
      exact if_neg fun h => Dict.get?_eq_none_iff.mp hwant ((hall pair).mp (by simpa using h))
    | some want =>
      rw [if_pos (List.mem_map_of_mem ((hall pair).mpr (Dict.mem_of_get? hwant))),
        RecordKey.pair, hwant]
      rfl
  · change kernelAfter start (addAll _ _ _ _).log terminal = some carried at hcarried
    rw [log_addAll] at hcarried
    change kernelAfter start (_ ++ .command _ :: r.scheduler.log) terminal = _ at hcarried
    rw [kernelAfter_append, kernelAfter_command] at hcarried
    · rcases carried_of_executed hcarried with hbefore | ⟨-, planned, hplanned, -, -, rfl⟩
      · exact .inl hbefore
      · exact .inr (mem_sortedSet.mp (wanted_of_linkUp hplan hplanned).1)
    · exact command_notMem_linkUps
  · exact hnot fun pair hpair => mem_sortedSet.mp ((hall pair).mpr hpair)

end Rewire

/-! ### The proof of the result -/

theorem station_of_expectedDown {gsId : NodeId} {expectedUp : List Pair}
    (h : (kernelExpectedDownForGs config r.scheduler.actualLinks r.staleLinkInfos gsId
      expectedUp).get? pair = some info) : OfStation config gsId pair info.linkType := by
  rw [kernelExpectedDownForGs, Dict.get?_update, Option.or_eq_some_iff] at h
  rcases h with h | ⟨-, h⟩
  · obtain ⟨hstale, hstation⟩ := Dict.get?_filter_eq_some_iff.mp h
    exact ⟨r.stale_ground pair info hstale, (of_decide_eq_true hstation).2⟩
  · obtain ⟨hheld, -⟩ := Dict.get?_filter_eq_some_iff.mp h
    exact of_decide_eq_true (Dict.get?_filter_eq_some_iff.mp hheld).2

theorem wp_repairProof (start : Kernel) {desired : Dict Pair LinkInfo} (hagents : AllSucceed env)
    (hactuable : Actuable config env order.simTime desired)
    (hstation : ∀ pair want, desired.get? pair = some want →
      OfStation config order.gsId pair want.linkType) :
    wp (repairProof config env order desired) r
      (fun _ t => t.scheduler.actualLinks = r.scheduler.actualLinks ∧
        kernelAfter start t.scheduler.log = kernelAfter start r.scheduler.log)
      (fun _ _ => False) := by
  have hup : ∀ pair info,
      (desired.mapValues fun _ (want : LinkInfo) => want.activate).get? pair = some info →
      ∃ want, desired.get? pair = some want ∧ info = want.activate := by
    intro pair info h
    rw [Dict.get?_mapValues] at h
    obtain ⟨want, hwant, rfl⟩ := Option.map_eq_some_iff.mp h
    exact ⟨want, hwant, rfl⟩
  rw [repairProof, wp_bind, wp_get, wp_when]
  refine ⟨fun _ => ?_, fun _ => ⟨rfl, rfl⟩⟩
  rw [wp_bind, wp_onScheduler, wp_sendKernelInventory]
  refine ⟨fun inventory hinventory => ?_, fun e he => ?_⟩
  · rw [RepairOrder.requireProof, wp_when]
    refine ⟨fun hfailed => absurd hfailed (inventory_quiet hagents fun pair hpair => ?_),
      fun _ => ⟨rfl, kernelAfter_afterInventory⟩⟩
    rcases List.mem_append.mp (mem_sortedSet.mp hpair) with hpair | hpair
    · obtain ⟨info, hinfo⟩ := Dict.mem_iff.mp hpair
      obtain ⟨want, hwant, rfl⟩ := hup pair info hinfo
      exact ⟨_, names_up hinventory hinfo (hstation pair want hwant) List.mem_cons_self
        fun _ => List.mem_cons_self⟩
    · obtain ⟨info, hinfo⟩ := Dict.mem_iff.mp hpair
      exact ⟨_, names_down hinventory hinfo (station_of_expectedDown hinfo) List.mem_cons_self⟩
  · obtain ⟨inventory, hinventory⟩ : ∃ inventory, groundInventoryRequests config order.gsId
        (desired.mapValues fun _ (want : LinkInfo) => want.activate)
        (kernelExpectedDownForGs config r.scheduler.actualLinks r.staleLinkInfos order.gsId
          desired.keys) = .ok inventory := by
      refine exists_groundInventoryRequests (fun pair info hinfo => ?_)
        fun pair info hinfo hcontact => ?_
      · obtain ⟨want, hwant, rfl⟩ := hup pair info hinfo
        exact (hactuable pair want hwant).2.2.1
      · obtain ⟨want, hwant, rfl⟩ := hup pair info hinfo
        obtain ⟨contact, hcontact⟩ := Option.ne_none_iff_exists'.mp hcontact
        rw [ActiveLinkInfo.endContact?, hcontact]
        exact Option.some_ne_none contact
    cases hinventory.symm.trans he

/-! ### The repair -/

theorem keys_eq_nil {V : Type} {d : Dict Pair V} (h : ¬ d.entries ≠ []) : d.keys = [] :=
  List.map_eq_nil_iff.mpr (not_ne_iff.mp h)

theorem wp_repairStation_repairable (hagents : AllSucceed env) :
    wp (repairStation config env order) r
      (fun _ _ => Repairable config env order r) (fun _ _ => True) := by
  rw [repairStation, wp_bind, wp_modify, wp_bind, wp_get, wp_bind]
  have hteardown : wp («when» ((order.teardown config r).entries ≠ [])
      (repairTeardown config env order (order.teardown config r)))
      (setState order.gsId
        { state := order.state, activeInterventionId := some order.interventionId } r)
      (fun _ _ => HeldLocal r.scheduler.actualLinks (order.teardown config r).keys)
      (fun _ _ => True) := by
    rw [wp_when]
    refine ⟨fun _ => wp_repairTeardown_held, fun hnone pair hpair => ?_⟩
    rw [keys_eq_nil hnone] at hpair
    cases hpair
  refine wp_mono hteardown (fun _ t hheld => ?_) fun _ _ _ => trivial
  have hrewire : wp («when» ((order.authority config).entries ≠ [])
      (repairRewire config env order (order.authority config))) t
      (fun _ _ => Actuable config env order.simTime (order.authority config))
      (fun _ _ => True) := by
    rw [wp_when]
    refine ⟨fun _ => wp_repairRewire_actuable hagents fun _ _ => station_of_authority,
      fun hnone pair want hwant => ?_⟩
    have hpair : pair ∈ (order.authority config).keys := Dict.mem_of_get? hwant
    rw [keys_eq_nil hnone] at hpair
    cases hpair
  rw [wp_bind]
  refine wp_mono hrewire (fun _ _ hactuable => ?_) fun _ _ _ => trivial
  exact wp_of_forall (fun _ _ => ⟨hheld, hactuable⟩) fun _ _ => trivial

theorem repaired_of_rewired {start : Kernel} {t₁ t₂ t₃ : Recovery}
    (hheld : HeldLocal r.scheduler.actualLinks (order.teardown config r).keys)
    (hdown : TornDown start (order.teardown config r).keys r t₁)
    (hup : Rewired start (order.authority config) t₁ t₂)
    (hactual : t₃.scheduler.actualLinks = t₂.scheduler.actualLinks)
    (hkernel : kernelAfter start t₃.scheduler.log = kernelAfter start t₂.scheduler.log)
    (hclean : (t₃.scheduler.gsActuation order.gsId).state = .clean) :
    Repaired config start order r t₃ where
  clean := hclean
  restored := by
    intro pair
    rw [Dict.mem_iff, actualGroundPairsForGs]
    simp only [Dict.get?_filter_eq_some_iff, decide_eq_true_eq, hactual, hup.actual,
      Option.or_eq_some_iff]
    constructor
    · rintro ⟨info, ⟨hwant⟩ | ⟨-, hkept⟩, hstation⟩
      · obtain ⟨want, hwant, -⟩ := Option.map_eq_some_iff.mp hwant
        exact Dict.mem_of_get? hwant
      · rw [hdown.actual] at hkept
        split_ifs at hkept with hgone
        exact absurd (mem_teardown_of_actual hkept hstation) hgone
    · intro hpair
      obtain ⟨want, hwant⟩ := Dict.mem_iff.mp hpair
      refine ⟨want.activate, .inl ?_, station_of_authority hwant⟩
      rw [hwant]
      rfl
  unwired := by
    intro pair info hpair hinfo terminal hterminal carried hcarried
    obtain ⟨held, hheld, -⟩ := hheld pair hpair
    rw [hheld] at hinfo
    obtain rfl := Option.some.inj hinfo
    rw [hkernel] at hcarried
    refine (hup.wired terminal carried hcarried).resolve_left fun hbefore => ?_
    rw [hdown.unwired pair hpair held hheld terminal hterminal] at hbefore
    cases hbefore

theorem wp_repairStation {start : Kernel} (hagents : AllSucceed env)
    (h : Repairable config env order r) : wp (repairStation config env order) r
      (fun _ t => Repaired config start order r t) (fun _ _ => False) := by
  obtain ⟨hheld, hactuable⟩ := h
  rw [repairStation, wp_bind, wp_modify, wp_bind, wp_get, wp_bind]
  have hteardown : wp («when» ((order.teardown config r).entries ≠ [])
      (repairTeardown config env order (order.teardown config r)))
      (setState order.gsId
        { state := order.state, activeInterventionId := some order.interventionId } r)
      (fun _ t => TornDown start (order.teardown config r).keys r t) (fun _ _ => False) := by
    rw [wp_when]
    refine ⟨fun _ => wp_mono (wp_repairTeardown hagents hheld fun _ _ => station_of_teardown)
      (fun _ t h => ⟨h.actual, h.stale, h.unwired⟩) fun _ _ h => h, fun hnone => ?_⟩
    rw [keys_eq_nil hnone]
    exact ⟨fun _ => rfl, rfl, nofun⟩
  refine wp_mono hteardown (fun _ t₁ hdown => ?_) fun _ _ h => h
  have hrewire : wp («when» ((order.authority config).entries ≠ [])
      (repairRewire config env order (order.authority config))) t₁
      (fun _ t => Rewired start (order.authority config) t₁ t) (fun _ _ => False) := by
    rw [wp_when]
    refine ⟨fun _ => wp_repairRewire hagents hactuable fun _ _ => station_of_authority,
      fun hnone => ⟨fun pair => ?_, rfl, fun _ _ hcarried => .inl hcarried⟩⟩
    have hempty : (order.authority config).get? pair = none :=
      Dict.get?_eq_none_iff.mpr fun hpair => by
        change pair ∈ (order.authority config).keys at hpair
        rw [keys_eq_nil hnone] at hpair
        cases hpair
    rw [hempty]
    rfl
  rw [wp_bind]
  refine wp_mono hrewire (fun _ t₂ hup => ?_) fun _ _ h => h
  rw [wp_bind]
  refine wp_mono (wp_repairProof start hagents hactuable fun _ _ => station_of_authority) ?_
    fun _ _ h => h
  rintro _ t₃ ⟨hactual, hkernel⟩
  refine repaired_of_rewired hheld hdown hup hactual hkernel ?_
  change ((Function.update t₃.scheduler.gsActuation order.gsId {}) order.gsId).state = .clean
  rw [Function.update_self]

theorem repaired_iff (config : SchedulerConfig) (surroundings : Surroundings) (order : RepairOrder)
    (r : Recovery) (start : Kernel) (hagents : AllSucceed surroundings) :
    Repaired config start order r (runOperatorRepairLocked config surroundings order r) ↔
      Repairable config surroundings order r := by
  unfold runOperatorRepairLocked
  constructor
  · intro hrepaired
    have hfinished : wp (repairStation config surroundings order) r
        (fun _ _ => Repairable config surroundings order r) (fun _ _ => True) :=
      wp_repairStation_repairable hagents
    rcases hexec : (repairStation config surroundings order).exec r with ⟨_ | _, t⟩
    · rw [hexec] at hrepaired
      have hdirty := hrepaired.clean
      change ((Function.update t.scheduler.gsActuation order.gsId _) order.gsId).state = _ at hdirty
      rw [Function.update_self] at hdirty
      cases hdirty
    · rw [wp_of_exec_ok hexec] at hfinished
      exact hfinished
  · intro hrepairable
    have hfinished : wp (repairStation config surroundings order) r
        (fun _ t => Repaired config start order r t) (fun _ _ => False) :=
      wp_repairStation hagents hrepairable
    rcases hexec : (repairStation config surroundings order).exec r with ⟨_ | _, t⟩
    · rw [wp_of_exec_error hexec] at hfinished
      exact hfinished.elim
    · rw [wp_of_exec_ok hexec] at hfinished
      exact hfinished

/-! ### A pair that is remembered but no longer up -/

def repairSession : SchedulerConfig := { passSession with mbbDispatch := false }

def rangedLink : LinkInfo :=
  { passLink with
    rangeKm := some 900, authoritySimTime := some 0, authoritySource := some "ome" }

/-- A pass toward a desired state that no message changes meanwhile. -/
def settledPass (desired : Dict Pair LinkInfo) (refuses : Request → Bool) : TrustStep :=
  .pass
    { epochId := 0
      rebaseline := false
      intent := {
        desired, downReasons := ∅, forcedBbmPairs := [], simTime := 0, verified := fun _ => {} }
      surroundings := surroundingsRefusing refuses }
    fun _ _ => ⟨desired, desired⟩

def onePass : Dict Pair LinkInfo := .ofList [(("gs1", "sat1"), rangedLink)]

def refusedRelease : List TrustStep :=
  [settledPass onePass fun _ => false, settledPass ∅ fun _ => true]

/-- A repair toward the given links, asked for as the station stands. -/
def repairOf (desired : Dict Pair LinkInfo) (l : Ledger) : RepairOrder where
  gsId := "gs1"
  interventionId := "repair"
  state := (l.recovery.scheduler.gsActuation "gs1").state
  stalePairs := l.recovery.stalePairs "gs1"
  start := ⟨desired, desired⟩
  later := fun _ _ => ⟨desired, desired⟩
  simTime := 0

theorem allSucceed_acknowledging : AllSucceed (surroundingsRefusing fun _ => false) := by
  intro n request
  change responseFailureClass _ _ = .none
  simp [responseFailureClass, shapeOk, ErrorCode.isFence, Function.comp_def,
    EntryResult.terminal, Entry.terminal]

/-- The release is repeated and acknowledged, the pair stays remembered: no repair succeeds. -/
theorem released_pair_defeats_repair :
    AllSucceed (surroundingsRefusing fun _ => false) ∧
      ∃ l, runUntilRaise (takeStep repairSession) freshLedger
          (refusedRelease ++ [settledPass ∅ fun _ => false]) = .ok l ∧
        ¬ Repaired repairSession (fun _ => none) (repairOf ∅ l) l.recovery
          (runOperatorRepairLocked repairSession (surroundingsRefusing fun _ => false) (repairOf ∅ l)
            l.recovery) := by
  have hdirty : (runUntilRaise (takeStep repairSession) freshLedger
      (refusedRelease ++ [settledPass ∅ fun _ => false])).toOption.map (fun l =>
        ((runOperatorRepairLocked repairSession (surroundingsRefusing fun _ => false) (repairOf ∅ l)
          l.recovery).scheduler.gsActuation (repairOf ∅ l).gsId).state) = some .kernelDirty := by
    decide +kernel
  refine ⟨allSucceed_acknowledging, ?_⟩
  cases hrun : runUntilRaise (takeStep repairSession) freshLedger
      (refusedRelease ++ [settledPass ∅ fun _ => false]) with
  | error e =>
    rw [hrun] at hdirty
    cases hdirty
  | ok l =>
    rw [hrun] at hdirty
    refine ⟨l, rfl, fun hrepaired => ?_⟩
    cases (Option.some.inj hdirty).symm.trans hrepaired.clean

/-- While the refused pass is still held, a repair tears it down and wires it anew. -/
theorem held_pair_is_repaired :
    let l := runAll (takeStep repairSession) freshLedger refusedRelease
    ((repairOf onePass l).teardown repairSession l.recovery).keys = [("gs1", "sat1")] ∧
      ((repairOf onePass l).authority repairSession).keys = [("gs1", "sat1")] ∧
      Repaired repairSession (fun _ => none) (repairOf onePass l) l.recovery
        (runOperatorRepairLocked repairSession (surroundingsRefusing fun _ => false)
          (repairOf onePass l) l.recovery) := by
  intro l
  have hteardown : ((repairOf onePass l).teardown repairSession l.recovery).keys =
      [("gs1", "sat1")] := by decide +kernel
  have hlocal : (l.recovery.scheduler.actualLinks.get? ("gs1", "sat1")).map
      (fun info => info.contact) = some none := by decide +kernel
  refine ⟨hteardown, by decide +kernel,
    (repaired_iff _ _ _ _ _ allSucceed_acknowledging).mpr ⟨?_, ?_⟩⟩
  · intro pair hpair
    rw [hteardown, List.mem_singleton] at hpair
    subst hpair
    obtain ⟨info, hinfo, hcontact⟩ := Option.map_eq_some_iff.mp hlocal
    exact ⟨info, hinfo, hcontact⟩
  · intro pair want hwant
    have hwanted := (Dict.get?_filter_eq_some_iff.mp hwant).1
    obtain ⟨rfl, rfl⟩ := Prod.mk.inj (List.mem_singleton.mp (Dict.mem_of_get?_ofList hwanted))
    exact ⟨by decide +kernel, rfl, by decide +kernel, Option.some_ne_none _⟩

end NodalArc.OperatorRepair
