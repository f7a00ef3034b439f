import NodalArc.CleanFailures
import NodalArc.LocalLinks

/-! Commands whose every reply is a success: the dispatcher goes on, and a pair fails only if
nothing was planned for it. -/

namespace NodalArc.SucceedingCommands

open OrderedDict
open GroundPolicy
open LinkRecord
open Actuation
open NodeAgentBatches
open DispatchActuator
open CommandVerdict
open Reconcile
open CommandRules
open CleanFailures
open StatefulProgram
open StatefulProgram.Program

variable {result : ActuationResult} {E : SchedulerError → Scheduler → Prop}
    {Q : Unit → Scheduler → Prop}

def AllSucceed (surroundings : Surroundings) : Prop :=
  ∀ n request, (⟨request, surroundings.agents n request⟩ : Exchange).classify.failureClass = .none

variable {config : SchedulerConfig} {env : Surroundings} {s : Scheduler} {first : Nat}
    {frame : CommandFrame} {plan : BatchPlan} {pair : Pair} {pairs : List Pair}
    {desired : Dict Pair LinkInfo} {exchange : Exchange}

theorem success_of_class_none (h : exchange.classify.failureClass = .none) :
    ¬ Unanswered exchange ∧ ¬ Fenced exchange ∧ ¬ Dirtied exchange ∧ ¬ Malformed exchange ∧
      ¬ Refused exchange := by
  rw [failureClass_classify] at h
  split_ifs at h with hsilent hfenced hdirty hmalformed hrefused
  exact ⟨hsilent, hfenced, hdirty, hmalformed, hrefused⟩

namespace AllSucceed

variable (h : AllSucceed env)

include h

theorem reply (hmem : exchange ∈ exchangesOf env first frame plan) :
    exchange.classify.failureClass = .none := by
  obtain ⟨-, n, hreply⟩ := request_of_exchange hmem
  have hok := h n exchange.request
  rw [← hreply] at hok
  exact hok

theorem not_saw {among : AgentAddr → Prop} {p : Exchange → Prop}
    (hp : ∀ exchange, exchange.classify.failureClass = .none → ¬ p exchange) :
    ¬ Saw (exchangesOf env first frame plan) among p := by
  rintro ⟨exchange, hmem, -, hsaw⟩
  exact hp exchange (h.reply hmem) hsaw

theorem ackedIn {ack : Ack} (hack : ack ∈ expectedAcks plan pair) :
    AckedIn (exchangesOf env first frame plan) ack := by
  refine ackedIn_of_success hack ?_ ?_ ?_ ?_
  · exact h.not_saw fun _ hok => (success_of_class_none hok).1
  · exact h.not_saw fun _ hok => (success_of_class_none hok).2.2.1
  · exact h.not_saw fun _ hok => (success_of_class_none hok).2.2.2.1
  · exact h.not_saw fun _ hok => (success_of_class_none hok).2.2.2.2

theorem failureClass {r : AgentCommandResult}
    (hr : r ∈ agentResults plan (exchangesOf env first frame plan)) : r.failureClass = .none := by
  obtain ⟨agent, -, rfl⟩ := List.mem_map.mp hr
  change (agentResult _ agent).failureClass = .none
  rw [failureClass_agentResult, if_neg, if_neg, if_neg, if_neg, if_neg]
  · exact h.not_saw fun _ hok => (success_of_class_none hok).2.2.2.2
  · exact h.not_saw fun _ hok => (success_of_class_none hok).1
  · exact h.not_saw fun _ hok => (success_of_class_none hok).2.2.2.1
  · exact h.not_saw fun _ hok => (success_of_class_none hok).2.2.1
  · exact h.not_saw fun _ hok => (success_of_class_none hok).2.1

theorem mem_succeededPairs_iff : pair ∈ (commandResult config frame plan
      (exchangesOf env first frame plan)).succeededPairs ↔
      pair ∈ frame.requested ∧ expectedAcks plan pair ≠ [] := by
  rw [CommandVerdict.mem_succeededPairs_iff]
  exact and_congr_right fun _ => and_iff_left fun _ hack => h.ackedIn hack

theorem hasFailures_iff :
    (commandResult config frame plan (exchangesOf env first frame plan)).HasFailures ↔
      ∃ pair ∈ frame.requested, expectedAcks plan pair = [] := by
  constructor
  · rintro (hfailed | ⟨r, hr, hclass⟩)
    · obtain ⟨pair, hpair⟩ := List.exists_mem_of_ne_nil _ hfailed
      obtain ⟨r, hr, rfl⟩ := List.mem_map.mp hpair
      obtain ⟨hr, hfailed⟩ := List.mem_filter.mp hr
      obtain ⟨pair, hrequested, rfl⟩ := mem_pairResults_iff.mp hr
      rcases failed_iff.mp (of_decide_eq_true hfailed) with hnone | ⟨ack, hack, hmissing⟩
      · exact ⟨pair, hrequested, hnone⟩
      · exact absurd (h.ackedIn hack) hmissing
    · exact absurd (h.failureClass hr) hclass
  · rintro ⟨pair, hpair, hnone⟩
    refine hasFailures_of_failed (mem_pairResults_iff.mpr ⟨pair, hpair, rfl⟩) ?_
    exact failed_iff.mpr (.inl hnone)

end AllSucceed

/-! ### Results without failures -/

theorem wp_handleActuationResult_quiet {interventionId : Option String} (h : ¬ result.HasFailures) :
    wp (handleActuationResult result interventionId) s Q E ↔ Q () s := by
  rw [handleActuationResult, wp_when]
  exact ⟨fun hQ => hQ.2 h, fun hQ => ⟨fun hfailed => absurd hfailed h, fun _ => hQ⟩⟩

theorem expectedAcks_ne_nil (h : ∃ planned ∈ plan, planned.2.pair = pair) :
    expectedAcks plan pair ≠ [] := by
  obtain ⟨planned, hplanned, hpair⟩ := h
  exact List.ne_nil_of_mem (mem_expectedAcks_iff.mpr ⟨planned, hplanned, hpair, rfl⟩)

/-! ### LinkUps -/

theorem wp_sendBatchUp_fresh {simTime : ℚ} {Q : ActuationResult → Scheduler → Prop}
    (hfresh : FreshlyDesired config simTime desired pairs)
    (hrange : ∀ pair ∈ pairs, ∃ info, desired.get? pair = some info ∧ info.rangeKm ≠ none)
    (hplan : buildLinkUpBatchPlan config env .open desired (sortedSet pairs) = .ok plan)
    (hQ : let result := resultIn config env (upFrame desired .open pairs) plan s
      Q result (afterEvents ((sortedSet result.succeededPairs).reverse.map (linkUpOf desired))
        (afterCommand env (upFrame desired .open pairs) plan s))) :
    wp (sendBatchUp config env simTime desired pairs) s Q E := by
  simp only [sendBatchUp, wp_bind, wp_lift, wp_sendCommand, wp_pure, hplan, Except.ok.injEq,
    reduceCtorEq, false_implies, implies_true, and_true, forall_eq']
  refine wp_imp (wp_forM_invariant (fun t => t = s) ?_ rfl) ?_
  · rintro pair hpair t rfl
    obtain ⟨info, hinfo, hok⟩ := hfresh pair (mem_sortedSet.mp hpair)
    have hlookup : lookupDesired desired pair = .ok info := lookupDesired_eq_ok_iff.mpr hinfo
    simp [wp_bind, wp_lift, hlookup, hok]
  · rintro _ t rfl
    refine wp_publishLinkUps (fun _ _ _ hunranged => ?_) hQ
    obtain ⟨pair, hpair, hnone⟩ := hunranged
    obtain ⟨info, hinfo, hranged⟩ := hrange pair (mem_sortedSet.mp (succeededPairs_subset hpair))
    exact absurd (hnone info hinfo) hranged

end NodalArc.SucceedingCommands
