import NodalArc.CommandRules
import NodalArc.SchedulerRuns

/-! What a failure class says about the replies it summarises.  A class is computed three times
over: for each agent from its chunks, for each pair from the agents its entries went to, and for
each station from its failed pairs. -/

namespace NodalArc.CleanFailures

open GroundPolicy
open LinkRecord
open Actuation
open NodeAgentBatches
open DispatchActuator
open CommandVerdict
open Reconcile
open SchedulerRuns
open StatefulProgram
open StatefulProgram.Program

variable {ack : Ack} {p : Exchange → Prop} {candidate : FailureClass}
  {before : GroundActuationState} {gsId : NodeId} {interventionId : Option String}
  {r : PairActuationResult}

/-! ### One reply -/

def Unanswered (exchange : Exchange) : Prop := exchange.reply = .unreachable

instance : DecidablePred Unanswered := fun exchange =>
  inferInstanceAs (Decidable (exchange.reply = _))

def Answered (p : Response → Prop) (exchange : Exchange) : Prop :=
  match exchange.reply with
  | .answered response => p response
  | .unreachable => False

instance (p : Response → Prop) [DecidablePred p] : DecidablePred (Answered p) := fun exchange => by
  unfold Answered
  exact match exchange.reply with
    | .answered response => inferInstanceAs (Decidable (p response))
    | .unreachable => inferInstanceAs (Decidable False)

def Fenced : Exchange → Prop := Answered fun response =>
  response.errorCode.isFence = true ∨ ∃ entry ∈ response.entries, entry.errorCode.isFence = true

instance : DecidablePred Fenced := inferInstanceAs (DecidablePred (Answered _))

def Dirtied : Exchange → Prop := Answered fun response =>
  response.dirtyKernel = true ∨ ∃ entry ∈ response.entries,
    entry.dirtyKernel = true ∨ entry.success = true ∧ entry.verified = false

instance : DecidablePred Dirtied := inferInstanceAs (DecidablePred (Answered _))

def Malformed (exchange : Exchange) : Prop :=
  Answered (fun response =>
    shapeOk (exchange.request.entries.map Entry.terminal) response = false) exchange

instance : DecidablePred Malformed := fun _ => inferInstanceAs (Decidable (Answered _ _))

def Refused : Exchange → Prop := Answered fun response => response.success = false

instance : DecidablePred Refused := inferInstanceAs (DecidablePred (Answered _))

theorem failureClass_classify (exchange : Exchange) : exchange.classify.failureClass =
      if Unanswered exchange then .agentUnreachable
      else if Fenced exchange then .fence
      else if Dirtied exchange then .groundKernelDirty
      else if Malformed exchange then .groundUnknown
      else if Refused exchange then .groundCleanFailure
      else .none := by
  obtain ⟨request, reply⟩ := exchange
  cases reply with
  | unreachable => rfl
  | answered response =>
    cases hsuccess : response.success <;>
      simp [Exchange.classify, classifyAgentResponse, responseFailureClass, Unanswered, Fenced,
        Dirtied, Malformed, Refused, Answered, hsuccess, or_assoc, exists_or, and_or_left]

theorem not_unanswered_of_answered {exchange : Exchange} {p : Response → Prop}
    (h : Answered p exchange) : ¬ Unanswered exchange := by
  intro hsilent
  unfold Answered at h
  rw [hsilent] at h
  exact h

section Classes

variable {exchange : Exchange}

theorem class_fence_iff : exchange.classify.failureClass = .fence ↔ Fenced exchange := by
  rw [failureClass_classify]
  constructor
  · intro h
    split_ifs at h with _ hfenced
    exact hfenced
  · intro hfenced
    rw [if_neg (not_unanswered_of_answered hfenced), if_pos hfenced]

theorem class_dirty_iff (hfenced : ¬ Fenced exchange) :
    exchange.classify.failureClass = .groundKernelDirty ↔ Dirtied exchange := by
  rw [failureClass_classify, if_neg hfenced]
  constructor
  · intro h
    split_ifs at h with _ hdirty
    exact hdirty
  · intro hdirty
    rw [if_neg (not_unanswered_of_answered hdirty), if_pos hdirty]

theorem class_unknown_iff (hfenced : ¬ Fenced exchange) (hdirty : ¬ Dirtied exchange) :
    exchange.classify.failureClass = .groundUnknown ↔ Malformed exchange := by
  rw [failureClass_classify, if_neg hfenced, if_neg hdirty]
  constructor
  · intro h
    split_ifs at h with _ hmalformed
    exact hmalformed
  · intro hmalformed
    rw [if_neg (not_unanswered_of_answered hmalformed), if_pos hmalformed]

theorem class_unreachable_iff :
    exchange.classify.failureClass = .agentUnreachable ↔ Unanswered exchange := by
  rw [failureClass_classify]
  constructor
  · intro h
    split_ifs at h with hsilent
    exact hsilent
  · exact fun hsilent => if_pos hsilent

theorem class_clean_iff (hfenced : ¬ Fenced exchange) (hdirty : ¬ Dirtied exchange)
    (hmalformed : ¬ Malformed exchange) (hanswered : ¬ Unanswered exchange) :
    exchange.classify.failureClass = .groundCleanFailure ↔ Refused exchange := by
  rw [failureClass_classify, if_neg hanswered, if_neg hfenced, if_neg hdirty, if_neg hmalformed]
  split_ifs with hrefused
  · exact iff_of_true rfl hrefused
  · exact iff_of_false nofun hrefused

theorem class_ne_isl : exchange.classify.failureClass ≠ .islFailure := by
  rw [failureClass_classify]
  split_ifs <;> exact nofun

end Classes

/-! ### One agent -/

theorem getD_find?_cons {α : Type} (p : α → Bool) (a : α) (as : List α) (default : α) :
    ((a :: as).find? p).getD default = if p a = true then a else (as.find? p).getD default := by
  cases h : p a with
  | true => rw [List.find?_cons_of_pos h]; rfl
  | false => rw [List.find?_cons_of_neg (by simp [h])]; rfl

def Saw (exchanges : List Exchange) (among : AgentAddr → Prop) (p : Exchange → Prop) : Prop :=
  ∃ exchange ∈ exchanges, among exchange.request.agent ∧ p exchange

instance (exchanges : List Exchange) (among : AgentAddr → Prop) (p : Exchange → Prop)
    [DecidablePred among] [DecidablePred p] : Decidable (Saw exchanges among p) :=
  inferInstanceAs (Decidable (∃ _ ∈ _, _))

def agentResult (exchanges : List Exchange) (agent : AgentAddr) : AgentCommandResult :=
  mergeAgentResults agent
    ((exchanges.filter fun exchange => exchange.request.agent = agent).map Exchange.classify)

theorem failureClass_merge (agent : AgentAddr) (results : List AgentCommandResult) :
    (mergeAgentResults agent results).failureClass = (failurePrecedence.find? fun candidate =>
        results.any fun result => result.failureClass = candidate).getD .none := by
  match results with
  | [] => rfl
  | [result] =>
    simp only [mergeAgentResults, List.any_cons, List.any_nil, Bool.or_false]
    cases result.failureClass <;> rfl
  | _ :: _ :: _ => rfl

variable {exchanges : List Exchange} {agent : AgentAddr} {among : AgentAddr → Prop}
    {exchange : Exchange}

theorem any_classify_iff : (((exchanges.filter fun exchange => exchange.request.agent = agent).map
      Exchange.classify).any fun result => result.failureClass = candidate) = true ↔
      Saw exchanges (· = agent) fun exchange => exchange.classify.failureClass = candidate := by
  simp [Saw]

theorem saw_congr {q : Exchange → Prop}
    (h : ∀ exchange ∈ exchanges, among exchange.request.agent → (p exchange ↔ q exchange)) :
    Saw exchanges among p ↔ Saw exchanges among q := by
  constructor
  · rintro ⟨exchange, hmem, hamong, hp⟩
    exact ⟨exchange, hmem, hamong, (h exchange hmem hamong).mp hp⟩
  · rintro ⟨exchange, hmem, hamong, hq⟩
    exact ⟨exchange, hmem, hamong, (h exchange hmem hamong).mpr hq⟩

theorem not_of_not_saw (h : ¬ Saw exchanges among p) :
    ∀ exchange ∈ exchanges, among exchange.request.agent → ¬ p exchange :=
  fun exchange hmem hamong hp => h ⟨exchange, hmem, hamong, hp⟩

theorem failureClass_agentResult (exchanges : List Exchange) (agent : AgentAddr) :
    (agentResult exchanges agent).failureClass =
      if Saw exchanges (· = agent) Fenced then .fence
      else if Saw exchanges (· = agent) Dirtied then .groundKernelDirty
      else if Saw exchanges (· = agent) Malformed then .groundUnknown
      else if Saw exchanges (· = agent) Unanswered then .agentUnreachable
      else if Saw exchanges (· = agent) Refused then .groundCleanFailure
      else .none := by
  -- down the precedence, once the classes before it are excluded, a class is reported exactly when
  -- a reply says so
  rw [agentResult, failureClass_merge]
  simp only [failurePrecedence, getD_find?_cons, any_classify_iff, List.find?_nil, Option.getD_none]
  refine ite_congr (propext (saw_congr fun _ _ _ => class_fence_iff)) (fun _ => rfl)
    fun hfenced => ?_
  have hfenced := not_of_not_saw hfenced
  refine ite_congr (propext (saw_congr fun e h h' => class_dirty_iff (hfenced e h h')))
    (fun _ => rfl) fun hdirty => ?_
  have hdirty := not_of_not_saw hdirty
  refine ite_congr (propext (saw_congr fun e h h' =>
    class_unknown_iff (hfenced e h h') (hdirty e h h'))) (fun _ => rfl) fun hmalformed => ?_
  have hmalformed := not_of_not_saw hmalformed
  refine ite_congr (propext (saw_congr fun _ _ _ => class_unreachable_iff)) (fun _ => rfl)
    fun hanswered => ?_
  have hanswered := not_of_not_saw hanswered
  refine ite_congr (propext (saw_congr fun e h h' => class_clean_iff (hfenced e h h')
    (hdirty e h h') (hmalformed e h h') (hanswered e h h'))) (fun _ => rfl) fun _ => ?_
  exact if_neg fun ⟨_, _, _, hisl⟩ => class_ne_isl hisl

/-! ### One pair -/

def SentTo (plan : BatchPlan) (pair : Pair) (agent : AgentAddr) : Prop :=
  ∃ planned ∈ plan, planned.2.pair = pair ∧ planned.1 = agent

instance (plan : BatchPlan) (pair : Pair) : DecidablePred (SentTo plan pair) := fun _ =>
  inferInstanceAs (Decidable (∃ _ ∈ _, _))

variable {plan : BatchPlan} {pair : Pair} {env : Surroundings} {first : Nat}
    {frame : CommandFrame}

theorem sentTo_of_expected (h : ack ∈ expectedAcks plan pair) : SentTo plan pair ack.1 := by
  obtain ⟨planned, hplanned, hpair, rfl⟩ := mem_expectedAcks_iff.mp h
  exact ⟨planned, hplanned, hpair, rfl⟩

theorem agentAddr_agentResult : (agentResult exchanges agent).agentAddr = agent := by
  have hsame : ∀ r ∈ (exchanges.filter fun e => e.request.agent = agent).map Exchange.classify,
      r.agentAddr = agent := by
    intro r hr
    obtain ⟨exchange, hexchange, rfl⟩ := List.mem_map.mp hr
    have hagent := of_decide_eq_true (List.mem_filter.mp hexchange).2
    unfold Exchange.classify
    cases exchange.reply with
    | answered response => exact hagent
    | unreachable => exact hagent
  unfold agentResult
  generalize (exchanges.filter fun e => e.request.agent = agent).map Exchange.classify = results
    at hsame
  match results with
  | [] => rfl
  | [result] => exact hsame result List.mem_cons_self
  | _ :: _ :: _ => rfl

theorem requested_classify :
    exchange.classify.requested = exchange.request.entries.map Entry.terminal := by
  unfold Exchange.classify
  cases exchange.reply <;> rfl

theorem mem_requested_agentResult {terminal : Terminal} :
    terminal ∈ (agentResult exchanges agent).requested ↔ Saw exchanges (· = agent) fun exchange =>
        terminal ∈ exchange.request.entries.map Entry.terminal := by
  have hmerge (results : List AgentCommandResult) :
      (mergeAgentResults agent results).requested =
        results.flatMap AgentCommandResult.requested :=
    match results with
    | [] => rfl
    | [result] => by simp [mergeAgentResults]
    | _ :: _ :: _ => rfl
  simp only [agentResult, hmerge, List.mem_flatMap, List.mem_map, List.mem_filter,
    decide_eq_true_eq]
  constructor
  · rintro ⟨_, ⟨exchange, ⟨hmem, hagent⟩, rfl⟩, hterminal⟩
    exact ⟨exchange, hmem, hagent, List.mem_map.mp (requested_classify ▸ hterminal)⟩
  · rintro ⟨exchange, hmem, hagent, hterminal⟩
    exact ⟨_, ⟨exchange, ⟨hmem, hagent⟩, rfl⟩, requested_classify ▸ List.mem_map.mpr hterminal⟩

theorem involves_iff : (agentResult (exchangesOf env first frame plan) agent).Involves
      (expectedAcks plan pair) ↔ SentTo plan pair agent := by
  constructor
  · rintro (⟨ack, hack, hexpected⟩ | ⟨terminal, -, hexpected⟩)
    · obtain ⟨result, hresult, hack⟩ := mem_successAcks_merge.mp hack
      obtain ⟨exchange, hexchange, rfl⟩ := List.mem_map.mp hresult
      have hagent := of_decide_eq_true (List.mem_filter.mp hexchange).2
      rw [← hagent, (mem_successAcks_classify.mp hack).1]
      exact sentTo_of_expected hexpected
    · rw [agentAddr_agentResult] at hexpected
      exact sentTo_of_expected hexpected
  · rintro ⟨⟨_, entry⟩, hplanned, hpair, rfl⟩
    obtain ⟨request, hrequest, hagent, hentry⟩ := exists_request_of_planned hplanned
    obtain ⟨n, hexchange⟩ := exchange_of_request hrequest
    refine .inr ⟨entry.terminal, mem_requested_agentResult.mpr ?_, ?_⟩
    · exact ⟨_, hexchange, hagent, List.mem_map_of_mem hentry⟩
    · rw [agentAddr_agentResult]
      exact mem_expectedAcks_iff.mpr ⟨_, hplanned, hpair, rfl⟩

theorem mem_planAgents_of_sentTo (h : SentTo plan pair agent) : agent ∈ planAgents plan := by
  obtain ⟨⟨_, entry⟩, hplanned, -, rfl⟩ := h
  exact mem_planAgents_iff.mpr ⟨entry, hplanned⟩

theorem mem_involved_iff {r : AgentCommandResult} :
    r ∈ (agentResults plan (exchangesOf env first frame plan)).filter
      (·.Involves (expectedAcks plan pair)) ↔ ∃ agent, SentTo plan pair agent ∧
        agentResult (exchangesOf env first frame plan) agent = r := by
  simp only [List.mem_filter, decide_eq_true_eq, agentResults, List.mem_map]
  constructor
  · rintro ⟨⟨agent, -, rfl⟩, hinvolves⟩
    exact ⟨agent, involves_iff.mp hinvolves, rfl⟩
  · rintro ⟨agent, hsent, rfl⟩
    exact ⟨⟨agent, mem_planAgents_of_sentTo hsent, rfl⟩, involves_iff.mpr hsent⟩

theorem any_involved_iff : (((agentResults plan (exchangesOf env first frame plan)).filter
      (·.Involves (expectedAcks plan pair))).any fun r => r.failureClass = candidate) = true ↔
      ∃ agent, SentTo plan pair agent ∧
        (agentResult (exchangesOf env first frame plan) agent).failureClass = candidate := by
  simp only [List.any_eq_true, mem_involved_iff, decide_eq_true_eq]
  constructor
  · rintro ⟨_, ⟨agent, hsent, rfl⟩, hclass⟩
    exact ⟨agent, hsent, hclass⟩
  · rintro ⟨agent, hsent, hclass⟩
    exact ⟨_, ⟨agent, hsent, rfl⟩, hclass⟩

theorem involved_eq_nil_iff : (agentResults plan (exchangesOf env first frame plan)).filter
      (·.Involves (expectedAcks plan pair)) = [] ↔ expectedAcks plan pair = [] := by
  constructor
  · intro hnone
    refine List.eq_nil_iff_forall_not_mem.mpr fun ack hack => ?_
    exact List.eq_nil_iff_forall_not_mem.mp hnone _
      (mem_involved_iff.mpr ⟨_, sentTo_of_expected hack, rfl⟩)
  · intro hnone
    rw [hnone]
    simp [AgentCommandResult.Involves]

theorem exists_saw_iff :
    (∃ agent, among agent ∧ Saw exchanges (· = agent) p) ↔ Saw exchanges among p := by
  constructor
  · rintro ⟨_, hamong, exchange, hmem, rfl, hp⟩
    exact ⟨exchange, hmem, hamong, hp⟩
  · rintro ⟨exchange, hmem, hamong, hp⟩
    exact ⟨_, hamong, exchange, hmem, rfl, hp⟩

theorem not_saw_of_among (h : ¬ Saw exchanges among p) (hamong : among agent)
    : ¬ Saw exchanges (· = agent) p :=
  fun hsaw => h (exists_saw_iff.mp ⟨agent, hamong, hsaw⟩)

/-- One of the agents of the pair answered all it was sent, and refused some of it. -/
def RefusedInFull (plan : BatchPlan) (exchanges : List Exchange) (pair : Pair) : Prop :=
  ∃ planned ∈ plan, planned.2.pair = pair ∧
    ¬ Saw exchanges (· = planned.1) Unanswered ∧ Saw exchanges (· = planned.1) Refused

instance (plan : BatchPlan) (exchanges : List Exchange) (pair : Pair) :
    Decidable (RefusedInFull plan exchanges pair) :=
  inferInstanceAs (Decidable (∃ _ ∈ _, _))

theorem pairFailureClass_eq {linkType : Option LinkType} (hlink : linkType ≠ some .isl) :
    pairFailureClass ((agentResults plan (exchangesOf env first frame plan)).filter
      (·.Involves (expectedAcks plan pair))) linkType =
      if Saw (exchangesOf env first frame plan) (SentTo plan pair) Fenced then .fence
      else if expectedAcks plan pair = [] then .groundUnknown
      else if Saw (exchangesOf env first frame plan) (SentTo plan pair) Dirtied then
        .groundKernelDirty
      else if Saw (exchangesOf env first frame plan) (SentTo plan pair) Malformed then
        .groundUnknown
      else if RefusedInFull plan (exchangesOf env first frame plan) pair then
        .groundCleanFailure
      else .none := by
  simp only [pairFailureClass, involved_eq_nil_iff, hlink, false_and, if_false]
  refine ite_congr (propext ?_) (fun _ => rfl) fun hfenced => ?_
  · rw [any_involved_iff, ← exists_saw_iff]
    refine exists_congr fun agent => and_congr_right fun _ => ?_
    rw [failureClass_agentResult]
    split_ifs with h <;> simp [h]
  refine ite_congr rfl (fun _ => rfl) fun _ => ?_
  refine ite_congr (propext ?_) (fun _ => rfl) fun hdirty => ?_
  · rw [any_involved_iff, ← exists_saw_iff]
    refine exists_congr fun agent => and_congr_right fun hsent => ?_
    rw [failureClass_agentResult, if_neg (not_saw_of_among hfenced hsent)]
    split_ifs with h <;> simp [h]
  refine ite_congr (propext ?_) (fun _ => rfl) fun hmalformed => ?_
  · rw [any_involved_iff, ← exists_saw_iff]
    refine exists_congr fun agent => and_congr_right fun hsent => ?_
    rw [failureClass_agentResult, if_neg (not_saw_of_among hfenced hsent),
      if_neg (not_saw_of_among hdirty hsent)]
    split_ifs with h <;> simp [h]
  refine ite_congr (propext (any_involved_iff.trans ?_)) (fun _ => rfl) fun _ => rfl
  constructor
  · rintro ⟨agent, ⟨planned, hplanned, hpair, rfl⟩, hclass⟩
    refine ⟨planned, hplanned, hpair, ?_⟩
    rw [failureClass_agentResult] at hclass
    split_ifs at hclass with _ _ _ hanswered hrefused
    exact ⟨hanswered, hrefused⟩
  · rintro ⟨planned, hplanned, hpair, hanswered, hrefused⟩
    have hsent : SentTo plan pair planned.1 := ⟨planned, hplanned, hpair, rfl⟩
    refine ⟨planned.1, hsent, ?_⟩
    rw [failureClass_agentResult, if_neg (not_saw_of_among hfenced hsent),
      if_neg (not_saw_of_among hdirty hsent), if_neg (not_saw_of_among hmalformed hsent),
      if_neg hanswered, if_pos hrefused]

/-! ### Failed pairs -/

def Failed (plan : BatchPlan) (exchanges : List Exchange) (pair : Pair) : Prop :=
  expectedAcks plan pair = [] ∨ ∃ ack ∈ expectedAcks plan pair, ¬ AckedIn exchanges ack

instance (plan : BatchPlan) (exchanges : List Exchange) (pair : Pair) :
    Decidable (Failed plan exchanges pair) :=
  inferInstanceAs (Decidable (_ ∨ ∃ _ ∈ _, _))

variable {config : SchedulerConfig}

theorem failed_iff {linkType : Pair → Option LinkType} {gsId : Pair → Option NodeId} :
    ¬ (pairActuationResult plan (agentResults plan (exchangesOf env first frame plan))
      linkType gsId pair).Success ↔ Failed plan (exchangesOf env first frame plan) pair := by
  simp only [PairActuationResult.Success, pairActuationResult, List.mem_filter, mem_successAcks_iff,
    decide_eq_true_eq, Failed]
  constructor
  · intro h
    by_contra hnot
    push Not at hnot
    exact h ⟨hnot.1, fun ack hack => ⟨hnot.2 ack hack, hack⟩⟩
  · rintro (hnone | ⟨ack, hack, hmissing⟩) ⟨hsome, hall⟩
    · exact hsome hnone
    · exact hmissing (hall ack hack).1

theorem acked_of_success {entry : Entry} (hanswered : ¬ Unanswered exchange)
    (hdirty : ¬ Dirtied exchange) (hmalformed : ¬ Malformed exchange) (hrefused : ¬ Refused exchange)
    (hentry : entry ∈ exchange.request.entries) :
    ∃ result ∈ exchange.reply.entries, result.acked = true ∧
      result.terminal = entry.terminal := by
  obtain ⟨request, reply⟩ := exchange
  cases reply with
  | unreachable => exact absurd rfl hanswered
  | answered response =>
    simp only [Malformed, Refused, Dirtied, Answered, Bool.not_eq_false, not_or, not_exists,
      not_and, Bool.not_eq_true] at hmalformed hrefused hdirty
    simp only [shapeOk, Bool.and_eq_true, decide_eq_true_eq, beq_iff_eq] at hmalformed
    obtain ⟨⟨hcovers, -⟩, hsuccess⟩ := hmalformed
    obtain ⟨result, hresult, hterminal⟩ :=
      List.mem_map.mp (hcovers _ (List.mem_map_of_mem hentry))
    have hok := List.all_eq_true.mp (hsuccess.symm.trans hrefused) result hresult
    obtain ⟨hclean, hverified⟩ := hdirty.2 result hresult
    refine ⟨result, hresult, ?_, hterminal⟩
    simp [EntryResult.acked, hok, hclean, hverified hok]

theorem ackedIn_of_success (hack : ack ∈ expectedAcks plan pair)
    (hanswered : ¬ Saw (exchangesOf env first frame plan) (· = ack.1) Unanswered)
    (hdirty : ¬ Saw (exchangesOf env first frame plan) (· = ack.1) Dirtied)
    (hmalformed : ¬ Saw (exchangesOf env first frame plan) (· = ack.1) Malformed)
    (hrefused : ¬ Saw (exchangesOf env first frame plan) (· = ack.1) Refused) :
    AckedIn (exchangesOf env first frame plan) ack := by
  obtain ⟨⟨agent, entry⟩, hplanned, hpair, rfl⟩ := mem_expectedAcks_iff.mp hack
  obtain ⟨request, hrequest, hagent, hentry⟩ :
      ∃ request ∈ planRequests frame.operation frame.stage plan, request.agent = agent ∧
        entry ∈ request.entries := exists_request_of_planned hplanned
  obtain ⟨n, hexchange⟩ : ∃ n, (⟨request, env.agents n request⟩ : Exchange) ∈
      exchangesOf env first frame plan := exchange_of_request hrequest
  refine ⟨_, hexchange, hagent, acked_of_success ?_ ?_ ?_ ?_ hentry⟩
  · exact not_of_not_saw hanswered _ hexchange hagent
  · exact not_of_not_saw hdirty _ hexchange hagent
  · exact not_of_not_saw hmalformed _ hexchange hagent
  · exact not_of_not_saw hrefused _ hexchange hagent

def Alarms (plan : BatchPlan) (exchanges : List Exchange) (pair : Pair) : Prop :=
  expectedAcks plan pair = [] ∨ Saw exchanges (SentTo plan pair) Dirtied ∨
    Saw exchanges (SentTo plan pair) Malformed

instance (plan : BatchPlan) (exchanges : List Exchange) (pair : Pair) :
    Decidable (Alarms plan exchanges pair) :=
  inferInstanceAs (Decidable (_ ∨ _ ∨ _))

def classOf (frame : CommandFrame) (plan : BatchPlan) (exchanges : List Exchange) (pair : Pair) :
    FailureClass :=
  pairFailureClass ((agentResults plan exchanges).filter (·.Involves (expectedAcks plan pair)))
    (frame.linkType pair)

theorem class_alarm_iff (hlink : frame.linkType pair ≠ some .isl)
    (hfenced : ¬ Saw (exchangesOf env first frame plan) (SentTo plan pair) Fenced) :
    classOf frame plan (exchangesOf env first frame plan) pair = .groundKernelDirty ∨
      classOf frame plan (exchangesOf env first frame plan) pair = .groundUnknown ↔
      Alarms plan (exchangesOf env first frame plan) pair := by
  rw [classOf, pairFailureClass_eq hlink, if_neg hfenced, Alarms]
  split_ifs with hnone hdirty hmalformed hrefused <;> simp [*]

/-- Only silence is passed over: a failed pair has no class exactly when one of its agents did not
answer and no other reply about it accounts for the failure. -/
theorem class_none_iff (hlink : frame.linkType pair ≠ some .isl)
    (hfailed : Failed plan (exchangesOf env first frame plan) pair) :
    classOf frame plan (exchangesOf env first frame plan) pair = .none ↔
      Saw (exchangesOf env first frame plan) (SentTo plan pair) Unanswered ∧
      ¬ (Saw (exchangesOf env first frame plan) (SentTo plan pair) Fenced ∨
        Alarms plan (exchangesOf env first frame plan) pair ∨
        RefusedInFull plan (exchangesOf env first frame plan) pair) := by
  rw [classOf, pairFailureClass_eq hlink]
  constructor
  · intro hclass
    split_ifs at hclass with hfenced hnone hdirty hmalformed hrefused
    refine ⟨?_, by simp [Alarms, *]⟩
    obtain ⟨ack, hack, hmissing⟩ := hfailed.resolve_left hnone
    have hsent := sentTo_of_expected hack
    by_contra hsilent
    have hanswered := not_saw_of_among hsilent hsent
    -- the agent of the missing acknowledgement answered in full, so it refused something
    refine hmissing (ackedIn_of_success hack hanswered (not_saw_of_among hdirty hsent)
      (not_saw_of_among hmalformed hsent) fun hsaw => hrefused ?_)
    obtain ⟨planned, hplanned, hpair, hagent⟩ := hsent
    exact ⟨planned, hplanned, hpair, hagent ▸ hanswered, hagent ▸ hsaw⟩
  · rintro ⟨-, hunheard⟩
    simp only [Alarms, not_or] at hunheard
    obtain ⟨hfenced, ⟨hnone, hdirty, hmalformed⟩, hrefused⟩ := hunheard
    rw [if_neg hfenced, if_neg hnone, if_neg hdirty, if_neg hmalformed, if_neg hrefused]

theorem class_ne_none_of_isl (hlink : frame.linkType pair = some .isl)
    (hfailed : Failed plan (exchangesOf env first frame plan) pair) :
    classOf frame plan (exchangesOf env first frame plan) pair ≠ .none := by
  intro hclass
  simp only [classOf, pairFailureClass, involved_eq_nil_iff, hlink, true_and, if_true] at hclass
  split_ifs at hclass with _ hany hnone
  obtain ⟨ack, hack, hmissing⟩ := hfailed.resolve_left hnone
  refine hany (List.any_eq_true.mpr
    ⟨_, mem_involved_iff.mpr ⟨_, sentTo_of_expected hack, rfl⟩, decide_eq_true fun hok => ?_⟩)
  rw [failureClass_agentResult] at hok
  split_ifs at hok with _ hdirty hmalformed hanswered hrefused
  exact hmissing (ackedIn_of_success hack hanswered hdirty hmalformed hrefused)

/-! ### Stations -/

/-- The result stops the dispatcher unless no reply is a fence and only ground links failed. -/
def Survived (frame : CommandFrame) (plan : BatchPlan) (exchanges : List Exchange) : Prop :=
  (∀ exchange ∈ exchanges, ¬ Fenced exchange) ∧
    ∀ pair ∈ frame.requested, Failed plan exchanges pair → frame.linkType pair = some .ground

instance (frame : CommandFrame) (plan : BatchPlan) (exchanges : List Exchange) :
    Decidable (Survived frame plan exchanges) :=
  inferInstanceAs (Decidable (_ ∧ _))

theorem fenceFailure_classify : exchange.classify.fenceFailure = true ↔ Fenced exchange := by
  rw [← class_fence_iff]
  unfold Exchange.classify
  cases exchange.reply <;> simp [classifyAgentResponse, classifyAgentException]

theorem fenced_of_writerFenced (h : exchange.classify.writerFenced = true) : Fenced exchange := by
  obtain ⟨request, reply⟩ := exchange
  cases reply with
  | unreachable => exact absurd h (by simp [Exchange.classify, classifyAgentException])
  | answered response =>
    simp only [Exchange.classify, classifyAgentResponse, Bool.or_eq_true, decide_eq_true_eq,
      List.any_eq_true] at h
    rcases h with hcode | ⟨entry, hentry, hcode⟩
    · exact .inl (by rw [hcode]; rfl)
    · exact .inr ⟨entry, hentry, by rw [hcode]; rfl⟩

theorem exists_flag {flag : AgentCommandResult → Bool}
    (hmerge : ∀ agent results, flag (mergeAgentResults agent results) = results.any flag) :
    (agentResults plan (exchangesOf env first frame plan)).any flag = true ↔
      ∃ exchange ∈ exchangesOf env first frame plan, flag exchange.classify = true := by
  simp only [agentResults, List.any_map, List.any_eq_true, Function.comp_apply, hmerge,
    List.mem_filter, decide_eq_true_eq]
  constructor
  · rintro ⟨agent, -, exchange, ⟨hmem, -⟩, hflag⟩
    exact ⟨exchange, hmem, hflag⟩
  · rintro ⟨exchange, hmem, hflag⟩
    exact ⟨_, (mem_planRequests_iff.mp (request_of_exchange hmem).1).2.2.2, exchange,
      ⟨hmem, rfl⟩, hflag⟩

theorem fenceFailure_merge (agent : AgentAddr) (results : List AgentCommandResult) :
    (mergeAgentResults agent results).fenceFailure =
      results.any AgentCommandResult.fenceFailure :=
  match results with
  | [] => rfl
  | [result] => by simp [mergeAgentResults]
  | _ :: _ :: _ => rfl

theorem writerFenced_merge (agent : AgentAddr) (results : List AgentCommandResult) :
    (mergeAgentResults agent results).writerFenced =
      results.any AgentCommandResult.writerFenced :=
  match results with
  | [] => rfl
  | [result] => by simp [mergeAgentResults]
  | _ :: _ :: _ => rfl

theorem fenceFailure_iff :
    (commandResult config frame plan (exchangesOf env first frame plan)).fenceFailure =
      true ↔ ∃ exchange ∈ exchangesOf env first frame plan, Fenced exchange :=
  (exists_flag fenceFailure_merge).trans
    (exists_congr fun _ => and_congr_right fun _ => fenceFailure_classify)

theorem fenced_of_result (h : (commandResult config frame plan
      (exchangesOf env first frame plan)).writerFenced = true) :
    ∃ exchange ∈ exchangesOf env first frame plan, Fenced exchange := by
  obtain ⟨exchange, hmem, hflag⟩ := (exists_flag writerFenced_merge).mp h
  exact ⟨exchange, hmem, fenced_of_writerFenced hflag⟩

theorem mem_pairResults_iff : r ∈ (commandResult config frame plan exchanges).pairResults ↔
      ∃ pair ∈ frame.requested, pairActuationResult plan (agentResults plan exchanges)
        frame.linkType (stationOf config frame.linkType) pair = r :=
  List.mem_map

theorem survived_iff :
    ((commandResult config frame plan (exchangesOf env first frame plan)).writerFenced = false ∧
      (commandResult config frame plan (exchangesOf env first frame plan)).fenceFailure = false ∧
      fatalPairs (commandResult config frame plan (exchangesOf env first frame plan)) = []) ↔
      Survived frame plan (exchangesOf env first frame plan) := by
  constructor
  · rintro ⟨-, hfence, hfatal⟩
    refine ⟨fun e he hfenced => ?_, fun pair hpair hfailed => ?_⟩
    · exact Bool.eq_false_iff.mp hfence (fenceFailure_iff.mpr ⟨e, he, hfenced⟩)
    · by_contra hlink
      refine List.eq_nil_iff_forall_not_mem.mp hfatal pair (List.mem_map.mpr ⟨_,
        List.mem_filter.mpr ⟨mem_pairResults_iff.mpr ⟨pair, hpair, rfl⟩, decide_eq_true ?_⟩, rfl⟩)
      exact ⟨failed_iff.mpr hfailed, .inr (.inr hlink)⟩
  · rintro ⟨hsafe, hground⟩
    refine ⟨Bool.eq_false_iff.mpr fun h => ?_, Bool.eq_false_iff.mpr fun h => ?_, ?_⟩
    · obtain ⟨e, he, hfenced⟩ := fenced_of_result h
      exact hsafe e he hfenced
    · obtain ⟨e, he, hfenced⟩ := fenceFailure_iff.mp h
      exact hsafe e he hfenced
    · refine List.eq_nil_iff_forall_not_mem.mpr fun pair hmem => ?_
      obtain ⟨r, hr, rfl⟩ := List.mem_map.mp hmem
      obtain ⟨hr, hfatal⟩ := List.mem_filter.mp hr
      obtain ⟨pair, hpair, rfl⟩ := mem_pairResults_iff.mp hr
      obtain ⟨hfailed, hclass⟩ := of_decide_eq_true hfatal
      have hlink := hground pair hpair (failed_iff.mp hfailed)
      have hunfenced : ¬ Saw (exchangesOf env first frame plan) (SentTo plan pair) Fenced :=
        fun ⟨e, he, _, hfenced⟩ => hsafe e he hfenced
      change classOf frame plan _ pair = _ ∨ classOf frame plan _ pair = _ ∨ _ at hclass
      rw [classOf, pairFailureClass_eq (by simp [hlink]), if_neg hunfenced] at hclass
      rcases hclass with hclass | hclass | hclass
      · split_ifs at hclass
      · split_ifs at hclass
      · exact hclass hlink

/-! ### Clean means untouched -/

/-- Every agent of the pair answered, no answer was dirty or of unknown outcome, and none of the
pair's interfaces was acknowledged as changed. -/
structure Untouched (plan : BatchPlan) (exchanges : List Exchange) (pair : Pair) : Prop where
  answered : ¬ Saw exchanges (SentTo plan pair) Unanswered
  clean : ¬ Saw exchanges (SentTo plan pair) Dirtied
  known : ¬ Saw exchanges (SentTo plan pair) Malformed
  unchanged : ∀ ack ∈ expectedAcks plan pair, ¬ AckedIn exchanges ack

/-- A command leaves a station blocked only over failed pairs it did not touch, and gives every
failed pair a class. -/
structure CleanMeansUntouched (config : SchedulerConfig) (frame : CommandFrame) (plan : BatchPlan)
    (exchanges : List Exchange) (interventionId : Option String) (s : Scheduler) : Prop where
  untouched : wp (handleActuationResult (commandResult config frame plan exchanges)
      interventionId) s
    (fun _ t => ∀ gsId, (t.gsActuation gsId).state = .actuationBlocked →
      ∀ r ∈ failuresOfStation (commandResult config frame plan exchanges) gsId,
        Untouched plan exchanges r.pair)
    (fun _ _ => True)
  classed : ∀ r ∈ (commandResult config frame plan exchanges).pairResults, ¬ r.Success →
    r.failureClass ≠ .none

def MaybeChanged (plan : BatchPlan) (exchanges : List Exchange) (pair : Pair) : Prop :=
  Saw exchanges (SentTo plan pair) Unanswered ∨
    ∃ ack ∈ expectedAcks plan pair, AckedIn exchanges ack

instance (plan : BatchPlan) (exchanges : List Exchange) (pair : Pair) :
    Decidable (MaybeChanged plan exchanges pair) :=
  inferInstanceAs (Decidable (_ ∨ ∃ _ ∈ _, _))

/-- The replies say enough.  A failed pair with a silent agent has some other reply that accounts
for the failure, and where a command that does not stop the dispatcher may have changed a failed
pair of a station, some failed pair of that station has a dirty or an unknown reply. -/
structure RepliesTell (config : SchedulerConfig) (frame : CommandFrame) (plan : BatchPlan)
    (exchanges : List Exchange) : Prop where
  heard : ∀ pair ∈ frame.requested, frame.linkType pair ≠ some .isl →
    Failed plan exchanges pair → Saw exchanges (SentTo plan pair) Unanswered →
      Saw exchanges (SentTo plan pair) Fenced ∨ Alarms plan exchanges pair ∨
        RefusedInFull plan exchanges pair
  alarmed : Survived frame plan exchanges → ∀ pair ∈ frame.requested,
    Failed plan exchanges pair → MaybeChanged plan exchanges pair →
      ∀ gsId, stationOf config frame.linkType pair = some gsId →
        ∃ other ∈ frame.requested, Failed plan exchanges other ∧
          stationOf config frame.linkType other = some gsId ∧ Alarms plan exchanges other

theorem ground_of_station (h : stationOf config frame.linkType pair = some gsId) :
    frame.linkType pair = some .ground := by
  unfold stationOf at h
  split_ifs at h with hlink
  exact hlink

theorem mem_failuresOfStation_iff : r ∈ failuresOfStation (commandResult config frame plan
      (exchangesOf env first frame plan)) gsId ↔
      ∃ pair ∈ frame.requested, Failed plan (exchangesOf env first frame plan) pair ∧
        stationOf config frame.linkType pair = some gsId ∧ pairActuationResult plan
          (agentResults plan (exchangesOf env first frame plan)) frame.linkType
          (stationOf config frame.linkType) pair = r := by
  simp only [failuresOfStation, List.mem_filter, mem_pairResults_iff, decide_eq_true_eq]
  constructor
  · rintro ⟨⟨pair, hpair, rfl⟩, hfailed, -, hstation⟩
    exact ⟨pair, hpair, failed_iff.mp hfailed, hstation, rfl⟩
  · rintro ⟨pair, hpair, hfailed, hstation, rfl⟩
    exact ⟨⟨pair, hpair, rfl⟩, failed_iff.mpr hfailed, ground_of_station hstation, hstation⟩

theorem blocked_iff {result : ActuationResult} (hr : r ∈ failuresOfStation result gsId) :
    (stationStateAfter result interventionId gsId before).state = .actuationBlocked ↔
      ¬ ∃ r ∈ failuresOfStation result gsId,
        r.failureClass = .groundKernelDirty ∨ r.failureClass = .groundUnknown := by
  rw [stationStateAfter, if_neg (List.ne_nil_of_mem hr)]
  split_ifs with halarm
  · exact iff_of_false nofun (not_not_intro halarm)
  · exact iff_of_true rfl halarm

/-- In a command that does not stop the dispatcher, a station is blocked exactly when none of its
failed pairs has a dirty or an unknown reply. -/
theorem blocked_iff_silent_alarms
    (hsurvived : Survived frame plan (exchangesOf env first frame plan))
    (hr : r ∈ failuresOfStation (commandResult config frame plan (exchangesOf env first
      frame plan)) gsId) : (stationStateAfter (commandResult config frame plan
      (exchangesOf env first frame plan)) interventionId gsId before).state = .actuationBlocked ↔
      ¬ ∃ other ∈ frame.requested, Failed plan (exchangesOf env first frame plan) other ∧
        stationOf config frame.linkType other = some gsId ∧
        Alarms plan (exchangesOf env first frame plan) other := by
  have halarm : ∀ other, stationOf config frame.linkType other = some gsId →
      (classOf frame plan (exchangesOf env first frame plan) other = .groundKernelDirty ∨
        classOf frame plan (exchangesOf env first frame plan) other = .groundUnknown ↔
        Alarms plan (exchangesOf env first frame plan) other) := by
    intro other hstation
    refine class_alarm_iff ?_ fun ⟨e, he, _, hfenced⟩ => hsurvived.1 e he hfenced
    rw [ground_of_station hstation]
    exact nofun
  rw [blocked_iff hr]
  refine not_congr ⟨?_, ?_⟩
  · rintro ⟨r, hr, hclass⟩
    obtain ⟨other, hother, hfailed, hstation, rfl⟩ := mem_failuresOfStation_iff.mp hr
    exact ⟨other, hother, hfailed, hstation, (halarm other hstation).mp hclass⟩
  · rintro ⟨other, hother, hfailed, hstation, halarms⟩
    exact ⟨_, mem_failuresOfStation_iff.mpr ⟨other, hother, hfailed, hstation, rfl⟩,
      (halarm other hstation).mpr halarms⟩

theorem untouched_iff (hquiet : ¬ Alarms plan exchanges pair) :
    Untouched plan exchanges pair ↔ ¬ MaybeChanged plan exchanges pair := by
  simp only [Alarms, not_or] at hquiet
  constructor
  · rintro huntouched (hsilent | ⟨ack, hack, hacked⟩)
    · exact huntouched.answered hsilent
    · exact huntouched.unchanged ack hack hacked
  · intro hunchanged
    exact ⟨fun h => hunchanged (.inl h), hquiet.2.1, hquiet.2.2,
      fun ack hack hacked => hunchanged (.inr ⟨ack, hack, hacked⟩)⟩

/-- A command means what its stations' states and its pairs' classes say exactly when its replies
say enough. -/
theorem clean_means_untouched_iff (config : SchedulerConfig) (surroundings : Surroundings)
    (first : Nat) (frame : CommandFrame) (plan : BatchPlan) (interventionId : Option String)
    (s : Scheduler) :
    CleanMeansUntouched config frame plan (exchangesOf surroundings first frame plan)
        interventionId s ↔
      RepliesTell config frame plan (exchangesOf surroundings first frame plan) := by
  constructor
  · rintro ⟨huntouched, hclassed⟩
    refine ⟨fun pair hpair hlink hfailed hsilent => ?_,
      fun hsurvived pair hpair hfailed hchanged gsId hstation => ?_⟩
    · by_contra hunheard
      exact hclassed _ (mem_pairResults_iff.mpr ⟨pair, hpair, rfl⟩) (failed_iff.mpr hfailed)
        ((class_none_iff hlink hfailed).mpr ⟨hsilent, hunheard⟩)
    · by_contra hquiet
      have hr := mem_failuresOfStation_iff.mpr ⟨pair, hpair, hfailed, hstation, rfl⟩
      have hfailures : (commandResult config frame plan
          (exchangesOf surroundings first frame plan)).HasFailures :=
        hasFailures_of_failed (mem_pairResults_iff.mpr ⟨pair, hpair, rfl⟩) (failed_iff.mpr hfailed)
      obtain ⟨hwriter, hfence, hfatal⟩ := survived_iff.mpr hsurvived
      simp only [handleActuationResult, wp_when, wp_bind, wp_require, wp_modify] at huntouched
      have hafter := ((huntouched.1 hfailures).1 hwriter).1 ⟨hfence, hfatal⟩ gsId
        ((blocked_iff_silent_alarms hsurvived hr).mpr hquiet) _ hr
      refine (untouched_iff fun halarms => hquiet ?_).mp hafter hchanged
      exact ⟨pair, hpair, hfailed, hstation, halarms⟩
  · rintro ⟨hheard, halarmed⟩
    refine ⟨?_, ?_⟩
    · simp only [handleActuationResult, wp_when, wp_bind, wp_require, wp_modify]
      refine ⟨fun _ => ⟨fun hwriter => ⟨fun hfatal gsId hblocked r hr => ?_, fun _ => trivial⟩,
        fun _ => trivial⟩, fun hclean gsId _ r hr => ?_⟩
      · have hsurvived := survived_iff.mp ⟨hwriter, hfatal⟩
        have hquiet := (blocked_iff_silent_alarms hsurvived hr).mp hblocked
        obtain ⟨pair, hpair, hfailed, hstation, rfl⟩ := mem_failuresOfStation_iff.mp hr
        refine (untouched_iff fun halarms => hquiet ?_).mpr fun hchanged => hquiet ?_
        · exact ⟨pair, hpair, hfailed, hstation, halarms⟩
        · exact halarmed hsurvived pair hpair hfailed hchanged gsId hstation
      · obtain ⟨hr, hfailed⟩ := List.mem_filter.mp hr
        exact absurd (hasFailures_of_failed hr (of_decide_eq_true hfailed).1) hclean
    · intro r hr hfailure hnone
      obtain ⟨pair, hpair, rfl⟩ := mem_pairResults_iff.mp hr
      have hfailed := failed_iff.mp hfailure
      by_cases hlink : frame.linkType pair = some .isl
      · exact class_ne_none_of_isl hlink hfailed hnone
      · obtain ⟨hsilent, hunheard⟩ := (class_none_iff hlink hfailed).mp hnone
        exact hunheard (hheard pair hpair hlink hfailed hsilent)

/-! ### A station and a satellite on two servers -/

def passSession : SchedulerConfig where
  mbbDispatch := true
  gsCapacities := .ofList [("gs1", 1)]
  satCapacities := .ofList [("sat1", 1)]
  gsHandoverModes := ∅
  longDelayBoundsS := ∅
  interfaceMap := ∅
  interfaceRates := [("gs1", "term0"), ("sat1", "gnd0")]
  agentAddr := fun node => node
  linkLocality := fun _ _ => .crossNode
  maxLatencyAgeS := 10

def passLink : LinkInfo where
  objectId := 0
  interfaceA := "term0"
  interfaceB := "gnd0"
  latencyAToBMs := 3
  latencyBToAMs := 3
  linkType := .ground
  rangeKm := none
  authoritySimTime := none
  authoritySource := none
  authoritySequence := none
  contact := none

def acquireFrame : CommandFrame where
  operation := .batchLinkUp
  stage := some .open
  requested := [("gs1", "sat1")]
  linkType := fun _ => some .ground
  causes := []

def acquirePlan (surroundings : Surroundings) : BatchPlan :=
  match buildLinkUpBatchPlan passSession surroundings .open
      (.ofList [(("gs1", "sat1"), passLink)]) [("gs1", "sat1")] with
  | .ok plan => plan
  | .error _ => []

/-- The satellite's agent does not answer; every other acknowledges what it is asked. -/
def satelliteSilent : Surroundings where
  agents := fun _ request =>
    if request.agent = "sat1" then .unreachable else uniformReply true request
  clock := fun reading => reading
  compensable := fun _ _ => true

/-- The station's end is up, whether the satellite's is nobody knows: the pair gets no class and the
station is blocked, not dirty. -/
theorem silent_satellite_blocks_station :
    ((acquirePlan satelliteSilent).map fun planned => (planned.1, planned.2.terminal)) =
        [("sat1", ("sat1", "gnd0")), ("gs1", ("gs1", "term0"))] ∧
      (((handleActuationResult (commandResult passSession acquireFrame
        (acquirePlan satelliteSilent) (exchangesOf satelliteSilent 0 acquireFrame
          (acquirePlan satelliteSilent))) none).exec freshScheduler).2.gsActuation "gs1").state =
        .actuationBlocked ∧
      ¬ CleanMeansUntouched passSession acquireFrame (acquirePlan satelliteSilent)
        (exchangesOf satelliteSilent 0 acquireFrame (acquirePlan satelliteSilent)) none
        freshScheduler := by
  refine ⟨by decide +kernel, by decide +kernel, fun hclean => ?_⟩
  have hunclassed : ∃ r ∈ (commandResult passSession acquireFrame (acquirePlan satelliteSilent)
      (exchangesOf satelliteSilent 0 acquireFrame (acquirePlan satelliteSilent))).pairResults,
      ¬ r.Success ∧ r.failureClass = .none := by decide +kernel
  obtain ⟨r, hr, hfailed, hnone⟩ := hunclassed
  exact hclean.classed r hr hfailed hnone

/-- Both agents refuse: the station is blocked and nothing was touched. -/
theorem refusals_leave_pair_untouched :
    CleanMeansUntouched passSession acquireFrame
      (acquirePlan (surroundingsRefusing fun _ => true))
      (exchangesOf (surroundingsRefusing fun _ => true) 0 acquireFrame
        (acquirePlan (surroundingsRefusing fun _ => true))) none freshScheduler := by
  refine (clean_means_untouched_iff _ _ _ _ _ _ _).mpr ⟨?_, ?_⟩
  · intro pair hpair _ _ hsilent
    obtain rfl := List.mem_singleton.mp hpair
    exact absurd hsilent (by decide +kernel)
  · intro _ pair hpair _ hchanged
    obtain rfl := List.mem_singleton.mp hpair
    exact absurd hchanged (by decide +kernel)

end NodalArc.CleanFailures
