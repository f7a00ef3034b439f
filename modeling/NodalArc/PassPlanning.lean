import NodalArc.CommandRules
import NodalArc.PlannedCloses

/-! The plan of a pass as a function of the state it starts in, and which pairs its lists name. -/

namespace NodalArc.PassPlanning

open OrderedDict
open GroundPolicy
open LinkRecord
open ContactDrain
open DispatchPlanner
open NodeAgentBatches
open DispatchActuator
open Reconcile
open HeldRecords
open CommandRules
open ContactPlan
open PlannedCloses
open StatefulProgram
open StatefulProgram.Program

variable {d : Dict Pair V} {pairs : List Pair} {p : Pair → Bool} {V : Type}

variable {config : SchedulerConfig} {env : Surroundings} {intent : DispatchIntent}
    {s : Scheduler} {plan : LongDelayPlan} {pair : Pair} {nowMono : ℚ}

def planned (config : SchedulerConfig) (intent : DispatchIntent) (s : Scheduler) :
    Except SchedulerError LongDelayPlan :=
  planLongDelayContacts
    (s.actualLinks.filter fun pair _ => config.longDelay pair)
    (intent.desired.filter fun pair _ => config.longDelay pair)
    s.lastSnapshotEpochId intent.downReasons

/-- The state a pass plans in: what the due proofs concluded is known. -/
def verifiedState (intent : DispatchIntent) (s : Scheduler) : Scheduler :=
  { s with gsActuation := intent.verified }

/-- The pairs a pass opens: those planned, their stations dispatchable. -/
def openingOf (config : SchedulerConfig) (intent : DispatchIntent) (s : Scheduler)
    (plan : LongDelayPlan) : List Pair :=
  filterBlockedGroundMutations config (verifiedState intent s) plan.opening

def localDiff (config : SchedulerConfig) (intent : DispatchIntent) (s : Scheduler) :
    ReconcileDiff :=
  diffLinkState (s.actualLinks.filter fun pair _ => !config.longDelay pair)
    (intent.desired.filter fun pair _ => !config.longDelay pair)

/-- The plan of a pass that starts in `s` and reads the clock at `nowMono`. -/
def passOf (config : SchedulerConfig) (intent : DispatchIntent) (s : Scheduler)
    (plan : LongDelayPlan) (nowMono : ℚ) : PassPlan where
  longDelay := { plan with opening := openingOf config intent s plan }
  due := (dueEnds (sortedActual s) nowMono).filter fun d =>
    d.1 ∉ plan.forced.map Prod.fst ∧ d.1 ∉ openingOf config intent s plan
  toRemove := filterGroundDownMutations config (verifiedState intent s)
    (localDiff config intent s).toRemove
  toAdd := filterBlockedGroundMutations config (verifiedState intent s)
    (localDiff config intent s).toAdd
  toUpdateLatency := filterBlockedGroundMutations config (verifiedState intent s)
    (localDiff config intent s).toUpdateLatency

def plannedState (surroundings : Surroundings) (intent : DispatchIntent) (s : Scheduler) :
    Scheduler :=
  refreshed intent.desired (afterReading surroundings (verifiedState intent s))

theorem wp_reconcileLinks {Q : Unit → Scheduler → Prop} {E : SchedulerError → Scheduler → Prop} :
    wp (reconcileLinks config env intent) s Q E ↔ (∀ plan, planned config intent s = .ok plan →
        wp (dispatchPass config env intent (passOf config intent s plan (env.clock s.readings)))
          (plannedState env intent s) Q E) ∧
      ∀ e, planned config intent s = .error e → E e (verifiedState intent s) := by
  simp only [reconcileLinks, planPass, wp_bind, wp_modify, wp_get, wp_lift, wp_monotonic, wp_pure]
  exact Iff.rfl

theorem due_passOf_nodup : ((passOf config intent s plan nowMono).due.map Prod.fst).Nodup := by
  have hkeys : ((dueEnds (sortedActual s) nowMono).map Prod.fst).Nodup := by
    refine (sortedActual_nodup (s := s)).sublist ?_
    refine (List.filter_sublist.map Prod.fst).trans ?_
    rw [List.map_map]
    exact List.Sublist.refl _
  exact hkeys.sublist (List.filter_sublist.map Prod.fst)

theorem get?_filter_key (h : p pair = true) :
    (d.filter fun pair _ => p pair).get? pair = d.get? pair := by
  ext v
  rw [Dict.get?_filter_eq_some_iff]
  exact ⟨fun hv => hv.1, fun hv => ⟨hv, h⟩⟩

theorem longDelay_of_candidate
    (h : pair ∈ s.actualLinks.filter (fun pair _ => config.longDelay pair) ∨
      pair ∈ intent.desired.filter fun pair _ => config.longDelay pair) :
    config.longDelay pair = true := by
  rcases h with hheld | hwanted
  · obtain ⟨info, hinfo⟩ := Dict.mem_iff.mp hheld
    exact (Dict.get?_filter_eq_some_iff.mp hinfo).2
  · obtain ⟨info, hinfo⟩ := Dict.mem_iff.mp hwanted
    exact (Dict.get?_filter_eq_some_iff.mp hinfo).2

theorem due_passOf {d : Pair × List NodeId} (hd : d ∈ (passOf config intent s plan nowMono).due) :
    d.1 ∉ plan.forced.map Prod.fst ∧ d.1 ∉ openingOf config intent s plan ∧ d.2 ≠ [] ∧
      ∃ info, record? s (.current d.1) = some info ∧ d.2 = dueNodes nowMono info := by
  obtain ⟨hdue, hfree⟩ := List.mem_filter.mp hd
  obtain ⟨hunforced, hunopened⟩ := of_decide_eq_true hfree
  obtain ⟨hmem, hsome⟩ := List.mem_filter.mp hdue
  obtain ⟨held, hheld, rfl⟩ := List.mem_map.mp hmem
  exact ⟨hunforced, hunopened, of_decide_eq_true hsome, held.2, mem_sortedActual_iff.mp hheld, rfl⟩

section Decisions

variable {decisions : List (Pair × PairPlan)} {select : PairPlan → Bool}
    (h : Decisions (s.actualLinks.filter fun pair _ => SchedulerConfig.longDelay config pair)
      (intent.desired.filter fun pair _ => SchedulerConfig.longDelay config pair)
      s.lastSnapshotEpochId intent.downReasons decisions)

include h

theorem longDelay_of_mem_decidedPairs (hpair : pair ∈ decidedPairs decisions select) :
    config.longDelay pair = true :=
  longDelay_of_candidate (h.mem_decidedPairs_iff.mp hpair).1

theorem longDelay_of_mem_forced {d : Pair × ForcedCause}
    (hd : d ∈ (LongDelayPlan.ofDecisions decisions).forced) : config.longDelay d.1 = true :=
  longDelay_of_candidate (h.mem_forced_iff.mp hd).1

theorem planPair_of_mem_decidedPairs (hpair : pair ∈ decidedPairs decisions select) :
    ∃ d, planPair s.lastSnapshotEpochId intent.downReasons pair (s.actualLinks.get? pair)
      (intent.desired.get? pair) = .ok d ∧ select d = true := by
  have hlong := longDelay_of_mem_decidedPairs h hpair
  obtain ⟨-, d, hd, hselect⟩ := h.mem_decidedPairs_iff.mp hpair
  rw [get?_filter_key hlong, get?_filter_key hlong] at hd
  exact ⟨d, hd, hselect⟩

theorem unforced_of_decision {d : PairPlan}
    (hd : planPair s.lastSnapshotEpochId intent.downReasons pair
      ((s.actualLinks.filter fun pair _ => config.longDelay pair).get? pair)
      ((intent.desired.filter fun pair _ => config.longDelay pair).get? pair) = .ok d)
    (hforced : d.forced? = none) :
    pair ∉ (LongDelayPlan.ofDecisions decisions).forced.map Prod.fst := by
  intro hmem
  obtain ⟨⟨_, cause⟩, hforce, rfl⟩ := List.mem_map.mp hmem
  obtain ⟨-, d', hd', hcause⟩ := h.mem_forced_iff.mp hforce
  obtain rfl : d = d' := Except.ok.inj (hd.symm.trans hd')
  rw [hforced] at hcause
  cases hcause

theorem open_of_mem_stop (hpair : pair ∈ (LongDelayPlan.ofDecisions decisions).stop) :
    config.longDelay pair = true ∧
      pair ∉ (LongDelayPlan.ofDecisions decisions).forced.map Prod.fst ∧
      ∃ info, record? s (.current pair) = some info ∧ info.drain = none := by
  rw [stop_ofDecisions] at hpair
  obtain ⟨-, d, hd, hstops⟩ := h.mem_decidedPairs_iff.mp hpair
  obtain ⟨hforced, info, hinfo, hdrain⟩ := open_of_stops hd hstops
  exact ⟨longDelay_of_mem_decidedPairs h hpair, unforced_of_decision h hd hforced, info,
    (Dict.get?_filter_eq_some_iff.mp hinfo).1, hdrain⟩

theorem moved_of_mem_relocate (hpair : pair ∈ (LongDelayPlan.ofDecisions decisions).relocate) :
    config.longDelay pair = true ∧
      pair ∉ (LongDelayPlan.ofDecisions decisions).forced.map Prod.fst ∧
      ∃ held want, record? s (.current pair) = some held ∧ intent.desired.get? pair = some want ∧
        held.contact ≠ want.contact := by
  rw [relocate_ofDecisions] at hpair
  obtain ⟨-, d, hd, hrelocates⟩ := h.mem_decidedPairs_iff.mp hpair
  obtain ⟨hforced, held, want, hheld, hwant, hmoved⟩ :=
    moved_of_relocates hd (of_decide_eq_true hrelocates)
  refine ⟨longDelay_of_mem_decidedPairs h hpair, unforced_of_decision h hd hforced, held, want,
    (Dict.get?_filter_eq_some_iff.mp hheld).1, (Dict.get?_filter_eq_some_iff.mp hwant).1, hmoved⟩

end Decisions

/-! ### Local pairs -/

theorem mem_filterBlocked_iff :
    pair ∈ filterBlockedGroundMutations config s pairs ↔ pair ∈ pairs ∧
      ∀ gsId, gsIdForPair pair config.gsCapacities = some gsId →
        ¬ GroundActuationState.blocksUp (s.gsActuation gsId) := by
  rw [filterBlockedGroundMutations, List.mem_filter]
  cases gsIdForPair pair config.gsCapacities <;> simp

theorem mem_filterDown_iff : pair ∈ filterGroundDownMutations config s pairs ↔ pair ∈ pairs ∧
      ∀ gsId, gsIdForPair pair config.gsCapacities = some gsId →
        ¬ GroundActuationState.blocksDown (s.gsActuation gsId) := by
  rw [filterGroundDownMutations, List.mem_filter]
  cases gsIdForPair pair config.gsCapacities <;> simp

theorem mem_filter_key_iff :
    pair ∈ d.filter (fun pair _ => p pair) ↔ pair ∈ d ∧ p pair = true := by
  simp only [Dict.mem_iff, Dict.get?_filter_eq_some_iff]
  constructor
  · rintro ⟨v, hv, hp⟩
    exact ⟨⟨v, hv⟩, hp⟩
  · rintro ⟨⟨v, hv⟩, hp⟩
    exact ⟨v, hv, hp⟩

theorem mem_toRemove_iff : pair ∈ (localDiff config intent s).toRemove ↔
    pair ∈ s.actualLinks ∧ config.longDelay pair = false ∧ pair ∉ intent.desired := by
  simp only [localDiff, diffLinkState, List.mem_filter, Dict.mem_keys_iff, mem_filter_key_iff,
    Bool.not_eq_true', decide_eq_true_eq]
  tauto

theorem mem_toAdd_iff : pair ∈ (localDiff config intent s).toAdd ↔
    pair ∈ intent.desired ∧ config.longDelay pair = false ∧ pair ∉ s.actualLinks := by
  simp only [localDiff, diffLinkState, List.mem_filter, Dict.mem_keys_iff, mem_filter_key_iff,
    Bool.not_eq_true', decide_eq_true_eq]
  tauto

theorem of_mem_toUpdateLatency (h : pair ∈ (localDiff config intent s).toUpdateLatency) :
    config.longDelay pair = false ∧ pair ∈ s.actualLinks ∧ pair ∈ intent.desired := by
  obtain ⟨hactual, hchanged⟩ := List.mem_filter.mp h
  obtain ⟨hactual, hlocal⟩ := mem_filter_key_iff.mp (Dict.mem_keys_iff.mp hactual)
  refine ⟨by simpa using hlocal, hactual, ?_⟩
  split at hchanged
  · rename_i _ want _ hwant
    exact Dict.mem_of_get? (Dict.get?_filter_eq_some_iff.mp hwant).1
  · cases hchanged

end NodalArc.PassPlanning
