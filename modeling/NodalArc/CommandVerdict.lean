import NodalArc.DispatchActuator

/-! What the verdict on a command says about its replies: a pair succeeds exactly when every entry
planned for it was acknowledged, whatever the chunks its entries were sent in. -/

namespace NodalArc.CommandVerdict

open GroundPolicy
open LinkRecord
open Actuation
open NodeAgentBatches
open DispatchActuator

variable {plan : BatchPlan} {agent : AgentAddr} {entry : Entry} {request : Request}
    {exchange : Exchange} {frame : CommandFrame} {env : Surroundings} {first : Nat}
    {operation : Operation} {stage : Option Stage} {terminal : Terminal} {pair : Pair}

/-! ### Requests -/

theorem mem_chunks_iff {entries : List Entry} :
    (∃ chunk ∈ chunks entries, entry ∈ chunk) ↔ entry ∈ entries := by
  constructor
  · rintro ⟨chunk, hchunk, hentry⟩
    obtain ⟨i, -, rfl⟩ := List.mem_map.mp hchunk
    exact List.mem_of_mem_drop (List.mem_of_mem_take hentry)
  · intro hentry
    obtain ⟨j, hj, rfl⟩ := List.mem_iff_getElem.mp hentry
    -- entry `j` is in chunk `j / 64`, at place `j % 64`
    have hdiv := Nat.div_add_mod j maxInterfacesPerCommand
    have hmod : j % maxInterfacesPerCommand < maxInterfacesPerCommand :=
      Nat.mod_lt _ (by decide)
    refine ⟨_, List.mem_map.mpr ⟨j / maxInterfacesPerCommand, ?_, rfl⟩, ?_⟩
    · refine List.mem_range.mpr ?_
      simp only [maxInterfacesPerCommand] at hdiv hmod ⊢
      omega
    · refine List.mem_take_iff_getElem.mpr ⟨j % maxInterfacesPerCommand, ?_, ?_⟩
      · rw [List.length_drop]
        omega
      · rw [List.getElem_drop]
        congr 1

theorem mem_planAgents_iff : agent ∈ planAgents plan ↔ ∃ entry, (agent, entry) ∈ plan := by
  simp [planAgents]

theorem mem_agentEntries_iff : entry ∈ agentEntries plan agent ↔ (agent, entry) ∈ plan := by
  simp [agentEntries]

theorem mem_planRequests_iff : request ∈ planRequests operation stage plan ↔
    request.operation = operation ∧ request.stage = stage ∧
      request.entries ∈ chunks (agentEntries plan request.agent) ∧
      request.agent ∈ planAgents plan := by
  simp only [planRequests, List.mem_flatMap, List.mem_map]
  constructor
  · rintro ⟨agent, hagent, entries, hentries, rfl⟩
    exact ⟨rfl, rfl, hentries, hagent⟩
  · rintro ⟨rfl, rfl, hentries, hagent⟩
    exact ⟨_, hagent, _, hentries, rfl⟩

theorem exists_request_of_planned (h : (agent, entry) ∈ plan) :
    ∃ request ∈ planRequests operation stage plan, request.agent = agent ∧
      entry ∈ request.entries := by
  obtain ⟨chunk, hchunk, hentry⟩ := mem_chunks_iff.mpr (mem_agentEntries_iff.mpr h)
  refine ⟨{ agent, operation, stage, entries := chunk }, mem_planRequests_iff.mpr ?_, rfl, hentry⟩
  exact ⟨rfl, rfl, hchunk, mem_planAgents_iff.mpr ⟨entry, h⟩⟩

theorem exchange_of_request (h : request ∈ planRequests frame.operation frame.stage plan) :
    ∃ n, (⟨request, env.agents n request⟩ : Exchange) ∈ exchangesOf env first frame plan := by
  obtain ⟨i, hi, rfl⟩ := List.mem_iff_getElem.mp h
  refine ⟨first + i, List.mem_map.mpr ⟨(_, i), ?_, rfl⟩⟩
  exact List.mem_zipIdx_iff_getElem?.mpr (List.getElem?_eq_getElem hi)

theorem request_of_exchange (h : exchange ∈ exchangesOf env first frame plan) :
    exchange.request ∈ planRequests frame.operation frame.stage plan ∧
      ∃ n, exchange.reply = env.agents n exchange.request := by
  obtain ⟨⟨request, i⟩, hmem, rfl⟩ := List.mem_map.mp h
  exact ⟨List.mem_of_getElem? (List.mem_zipIdx_iff_getElem?.mp hmem), _, rfl⟩

/-! ### Acknowledgements -/

def AckedIn (exchanges : List Exchange) (ack : Ack) : Prop :=
  ∃ exchange ∈ exchanges, exchange.request.agent = ack.1 ∧
    ∃ result ∈ exchange.reply.entries, result.acked = true ∧ result.terminal = ack.2

instance (exchanges : List Exchange) (ack : Ack) : Decidable (AckedIn exchanges ack) :=
  inferInstanceAs (Decidable (∃ _ ∈ _, _))

theorem mem_successAcks_classify {ack : Ack} :
    ack ∈ exchange.classify.successAcks ↔ exchange.request.agent = ack.1 ∧
      ∃ result ∈ exchange.reply.entries, result.acked = true ∧ result.terminal = ack.2 := by
  obtain ⟨addr, t⟩ := ack
  unfold Exchange.classify
  cases hreply : exchange.reply with
  | answered response =>
    simp only [classifyAgentResponse, Reply.entries, List.mem_map, List.mem_filter,
      Prod.mk.injEq]
    constructor
    · rintro ⟨result, ⟨hmem, hacked⟩, haddr, ht⟩
      exact ⟨haddr, result, hmem, hacked, ht⟩
    · rintro ⟨haddr, result, hmem, hacked, ht⟩
      exact ⟨result, ⟨hmem, hacked⟩, haddr, ht⟩
  | unreachable => simp [classifyAgentException, Reply.entries]

theorem mem_successAcks_merge {results : List AgentCommandResult} {ack : Ack} :
    ack ∈ (mergeAgentResults agent results).successAcks ↔
      ∃ result ∈ results, ack ∈ result.successAcks := by
  match results with
  | [] => simp [mergeAgentResults]
  | [result] => simp [mergeAgentResults]
  | _ :: _ :: _ => simp [mergeAgentResults]

theorem mem_successAcks_iff {ack : Ack} :
    ack ∈ (agentResults plan (exchangesOf env first frame plan)).flatMap
        AgentCommandResult.successAcks ↔ AckedIn (exchangesOf env first frame plan) ack := by
  simp only [agentResults, List.mem_flatMap, List.mem_map]
  constructor
  · rintro ⟨_, ⟨agent, -, rfl⟩, hack⟩
    obtain ⟨result, hresult, hack⟩ := mem_successAcks_merge.mp hack
    obtain ⟨exchange, hexchange, rfl⟩ := List.mem_map.mp hresult
    exact ⟨exchange, (List.mem_filter.mp hexchange).1, mem_successAcks_classify.mp hack⟩
  · rintro ⟨exchange, hexchange, hack⟩
    have hagent := (mem_planRequests_iff.mp (request_of_exchange hexchange).1).2.2.2
    refine ⟨_, ⟨exchange.request.agent, hagent, rfl⟩, mem_successAcks_merge.mpr ?_⟩
    exact ⟨_, List.mem_map.mpr ⟨exchange, by simp [hexchange], rfl⟩,
      mem_successAcks_classify.mpr hack⟩

variable {config : SchedulerConfig}

/-- A pair succeeds exactly when it is asked for, some entry was planned for it, and every entry
planned for it was acknowledged. -/
theorem mem_succeededPairs_iff : pair ∈ (commandResult config frame plan
        (exchangesOf env first frame plan)).succeededPairs ↔
      pair ∈ frame.requested ∧ expectedAcks plan pair ≠ [] ∧ ∀ ack ∈ expectedAcks plan pair,
          AckedIn (exchangesOf env first frame plan) ack := by
  simp only [ActuationResult.succeededPairs, commandResult, buildActuationResult, List.filter_map,
    List.map_map, List.mem_map, List.mem_filter, Function.comp_apply, decide_eq_true_eq]
  simp only [PairActuationResult.Success, pairActuationResult, List.mem_filter,
    mem_successAcks_iff, decide_eq_true_eq]
  constructor
  · rintro ⟨p, ⟨hp, hne, hall⟩, rfl⟩
    exact ⟨hp, hne, fun ack hack => (hall ack hack).1⟩
  · rintro ⟨hp, hne, hall⟩
    exact ⟨pair, ⟨hp, hne, fun ack hack => ⟨hall ack hack, hack⟩⟩, rfl⟩

theorem succeededPairs_subset (h : pair ∈ (commandResult config frame plan
    (exchangesOf env first frame plan)).succeededPairs) : pair ∈ frame.requested :=
  (mem_succeededPairs_iff.mp h).1

theorem mem_expectedAcks_iff {ack : Ack} : ack ∈ expectedAcks plan pair ↔
      ∃ planned ∈ plan, planned.2.pair = pair ∧ (planned.1, planned.2.terminal) = ack := by
  simp only [expectedAcks, List.mem_map, List.mem_filter, decide_eq_true_eq, and_assoc]

/-- Every entry a kind of request holds for a pair is acknowledged. -/
def Acknowledges (surroundings : Surroundings) (operation : Operation) (stage : Stage)
    (pair : Pair) : Prop :=
  ∀ n request, request.operation = operation → request.stage = some stage →
    ∀ entry ∈ request.entries, entry.pair = pair →
      ∃ result ∈ (surroundings.agents n request).entries,
        result.acked = true ∧ result.terminal = entry.terminal

theorem succeeded_of_acknowledges {stage : Stage}
    (hack : Acknowledges env frame.operation stage pair)
    (hstage : frame.stage = some stage) (hrequested : pair ∈ frame.requested)
    (hplanned : ∃ planned ∈ plan, planned.2.pair = pair) : pair ∈ (commandResult config frame plan
      (exchangesOf env first frame plan)).succeededPairs := by
  refine mem_succeededPairs_iff.mpr ⟨hrequested, ?_, fun ack hmem => ?_⟩
  · obtain ⟨planned, hmem, hpair⟩ := hplanned
    exact List.ne_nil_of_mem (mem_expectedAcks_iff.mpr ⟨planned, hmem, hpair, rfl⟩)
  · obtain ⟨⟨agent, entry⟩, hplan, hpair, rfl⟩ := mem_expectedAcks_iff.mp hmem
    obtain ⟨request, hrequest, hagent, hentry⟩ :
        ∃ request ∈ planRequests frame.operation frame.stage plan, request.agent = agent ∧
          entry ∈ request.entries := exists_request_of_planned hplan
    obtain ⟨n, hexchange⟩ : ∃ n, (⟨request, env.agents n request⟩ : Exchange) ∈
        exchangesOf env first frame plan := exchange_of_request hrequest
    obtain ⟨hoperation, hstage', -⟩ := mem_planRequests_iff.mp hrequest
    obtain ⟨result, hresult, hacked, hterminal⟩ :=
      hack n request hoperation (hstage'.trans hstage) entry hentry hpair
    exact ⟨_, hexchange, hagent, result, hresult, hacked, hterminal⟩

theorem hasFailures_of_failed {result : ActuationResult} {r : PairActuationResult}
    (hr : r ∈ result.pairResults) (hfailed : ¬ r.Success) : result.HasFailures := by
  have hmem : r.pair ∈ result.failedPairs :=
    List.mem_map_of_mem (List.mem_filter.mpr ⟨hr, decide_eq_true hfailed⟩)
  exact .inl (List.ne_nil_of_mem hmem)

def Absorbed (result : ActuationResult) : Prop :=
  ∀ r ∈ result.pairResults, ¬ r.Success → r.linkType = some .ground

theorem ground_of_failed {exchanges : List Exchange}
    (h : Absorbed (commandResult config frame plan exchanges)) (hrequested : pair ∈ frame.requested)
    (hfailed : pair ∉ (commandResult config frame plan exchanges).succeededPairs) :
    frame.linkType pair = some .ground := by
  refine h _ (List.mem_map_of_mem hrequested) fun hsuccess => hfailed ?_
  refine List.mem_map.mpr ⟨_, List.mem_filter.mpr ⟨List.mem_map_of_mem hrequested, ?_⟩, rfl⟩
  exact decide_eq_true hsuccess

end NodalArc.CommandVerdict
