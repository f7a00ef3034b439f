import NodalArc.CleanFailures
import NodalArc.GroundRecovery

/-! What the proof of a station's kernel covers: both ends of every local pass it names and every
end a long-delay pass still has. -/

namespace NodalArc.StationInventory

open OrderedDict
open GroundPolicy
open LinkRecord
open ContactDrain
open DispatchPlanner
open Actuation
open NodeAgentBatches
open DispatchActuator
open CommandVerdict
open BatchEntries
open GroundRecovery
open StatefulProgram
open StatefulProgram.Program

variable {up : Bool} {link : LinkInfo} {nodeIds : List NodeId}

variable {config : SchedulerConfig} {env : Surroundings} {gsId : NodeId} {pair : Pair}
    {info : ActiveLinkInfo} {plan : BatchPlan} {inventory : GroundInventory}
    {expectedUp expectedDown : Dict Pair ActiveLinkInfo} {terminal : Terminal}

/-! ### Entries -/

theorem exists_requiredGroundEndpoints (h : gsIdForPair pair config.gsCapacities = some gsId) :
    ∃ endpoints, requiredGroundEndpoints config pair link = .ok endpoints := by
  unfold gsIdForPair at h
  unfold requiredGroundEndpoints groundEndpoints
  split_ifs at h ⊢
  · exact ⟨_, rfl⟩
  · exact ⟨_, rfl⟩

theorem exists_linkEnds (h : gsIdForPair pair config.gsCapacities = some gsId) :
    ∃ ends, linkEnds config pair link = .ok ends := by
  obtain ⟨endpoints, hendpoints⟩ := exists_requiredGroundEndpoints h
  unfold linkEnds
  cases link.linkType with
  | isl => exact ⟨_, rfl⟩
  | ground =>
    dsimp only
    rw [hendpoints]
    change ∃ ends, (if link.contact ≠ none then _ else _) = _
    split_ifs <;> exact ⟨_, rfl⟩

theorem requireRates_eq_ok_iff : requireRates config pair link = .ok () ↔
      ∀ terminal ∈ endTerminals pair link, terminal ∈ config.interfaceRates := by
  rw [requireRates, forM_eq_ok_iff]
  refine forall_congr' fun terminal => forall_congr' fun _ => ?_
  split_ifs with h
  · exact iff_of_true rfl h
  · exact iff_of_false nofun h

theorem groundInventoryEntries_eq_ok (h : groundInventoryEntries config up pair info = .ok plan) :
    ∃ ends, linkEnds config pair { info.toLinkInfo with contact := none } = .ok ends ∧
      plan = ends.map fun e => (e.entry config pair { info.toLinkInfo with contact := none } none).map
        id (Entry.expecting up) := by
  obtain ⟨ends, hends, h⟩ := bind_eq_ok_iff.mp h
  refine ⟨ends, hends, ?_⟩
  split at h
  · obtain ⟨_, -, h⟩ := bind_eq_ok_iff.mp h
    exact (Except.ok.inj h).symm
  · exact (Except.ok.inj h).symm

theorem exists_groundInventoryEntries
    (hstation : gsIdForPair pair config.gsCapacities = some gsId)
    (hrates : up = true → ∀ terminal ∈ endTerminals pair info.toLinkInfo, terminal ∈
      config.interfaceRates) : ∃ plan, groundInventoryEntries config up pair info = .ok plan := by
  obtain ⟨ends, hends⟩ := exists_linkEnds hstation
  unfold groundInventoryEntries
  dsimp only
  rw [hends]
  cases up with
  | false => exact ⟨_, rfl⟩
  | true =>
    have hok : requireRates config pair { info.toLinkInfo with contact := none } = .ok () :=
      requireRates_eq_ok_iff.mpr (hrates rfl)
    change ∃ plan, (do requireRates config pair _; pure _ : Except SchedulerError BatchPlan) = _
    rw [hok]
    exact ⟨_, rfl⟩

theorem exists_entry_of_ground (h : groundInventoryEntries config up pair info = .ok plan)
    (hterminal : terminal ∈ endTerminals pair info.toLinkInfo) :
    ∃ planned ∈ plan, planned.2.pair = pair ∧ planned.2.expectedAdminUp = some up ∧
      terminal ∈ planned.2.ends := by
  obtain ⟨ends, hends, rfl⟩ := groundInventoryEntries_eq_ok h
  obtain ⟨e, he, hon⟩ := exists_entry_on hends hterminal
  exact ⟨_, List.mem_map_of_mem he, rfl, rfl, hon⟩

theorem longDelayInventoryEntries_eq_ok
    (h : longDelayInventoryEntries config pair info nodeIds = .ok plan) :
    plan = ([⟨config.agentAddr pair.1, (pair.1, info.interfaceA), (pair.2, info.interfaceB)⟩,
      ⟨config.agentAddr pair.2, (pair.2, info.interfaceB), (pair.1, info.interfaceA)⟩].filter
        fun e : PlannedEnd => e.own.1 ∈ nodeIds).map fun e =>
      (e.entry config pair info.toLinkInfo (info.endContact? e.own.1)).map id
        (Entry.expecting true) := by
  have htail {named : List PlannedEnd} {result : BatchPlan}
      (h : (do if named ≠ [] then requireRates config pair info.toLinkInfo
               return result : Except SchedulerError BatchPlan) = .ok plan) : plan = result := by
    dsimp only at h
    split at h
    · obtain ⟨_, -, h⟩ := bind_eq_ok_iff.mp h
      exact (Except.ok.inj h).symm
    · exact (Except.ok.inj h).symm
  obtain ⟨_, -, h⟩ := bind_eq_ok_iff.mp h
  split at h
  · obtain ⟨_, -, h⟩ := bind_eq_ok_iff.mp h
    exact htail h
  · exact htail h

theorem exists_entry_of_longDelay
    (h : longDelayInventoryEntries config pair info nodeIds = .ok plan)
    (hterminal : terminal ∈ endTerminals pair info.toLinkInfo) (hnode : terminal.1 ∈ nodeIds) :
    ∃ planned ∈ plan, planned.2.pair = pair ∧ planned.2.expectedAdminUp = some true ∧
      terminal ∈ planned.2.ends := by
  rw [longDelayInventoryEntries_eq_ok h]
  rcases List.mem_pair.mp hterminal with rfl | rfl
  · refine ⟨_, List.mem_map_of_mem (List.mem_filter.mpr
      ⟨List.mem_cons_self, decide_eq_true hnode⟩), rfl, rfl, ?_⟩
    rw [Prod.map_snd, Entry.ends_expecting]
    exact own_mem_ends
  · refine ⟨_, List.mem_map_of_mem (List.mem_filter.mpr
      ⟨List.mem_cons_of_mem _ List.mem_cons_self, decide_eq_true hnode⟩), rfl, rfl, ?_⟩
    rw [Prod.map_snd, Entry.ends_expecting]
    exact own_mem_ends

theorem exists_longDelayInventoryEntries
    (hstation : gsIdForPair pair config.gsCapacities = some gsId)
    (hcarried : info.endContact? pair.1 ≠ none)
    (hrates : ∀ terminal ∈ endTerminals pair info.toLinkInfo, terminal ∈ config.interfaceRates) :
    ∃ plan, longDelayInventoryEntries config pair info nodeIds = .ok plan := by
  obtain ⟨contact, hcontact⟩ := Option.ne_none_iff_exists'.mp hcarried
  obtain ⟨endpoints, hendpoints⟩ : ∃ endpoints,
      requiredGroundEndpoints config pair info.toLinkInfo = .ok endpoints :=
    exists_requiredGroundEndpoints hstation
  have hid : info.endContactId pair.1 = .ok contact := by
    rw [ActiveLinkInfo.endContactId, hcontact]
  have hok : requireRates config pair info.toLinkInfo = .ok () := requireRates_eq_ok_iff.mpr hrates
  unfold longDelayInventoryEntries
  simp only [hid, hendpoints, hok]
  split
  · split <;> exact ⟨_, rfl⟩
  · split <;> exact ⟨_, rfl⟩

/-! ### The requests of a station -/

theorem upInventory_cases {held : Pair × ActiveLinkInfo} (h : (if held.2.contact ≠ none then do
      let plan ← longDelayInventoryEntries config held.1 held.2 (remainingEnds held.1 held.2)
      return ({ localPlan := [], longDelayPlan := plan } : GroundInventory)
    else do
      let plan ← groundInventoryEntries config true held.1 held.2
      return { localPlan := plan, longDelayPlan := [] }) = .ok inventory) :
    (held.2.contact ≠ none ∧ longDelayInventoryEntries config held.1 held.2
      (remainingEnds held.1 held.2) = .ok inventory.longDelayPlan) ∨
    (held.2.contact = none ∧
      groundInventoryEntries config true held.1 held.2 = .ok inventory.localPlan) := by
  split at h
  · rename_i hcontact
    obtain ⟨plan, hplan, h⟩ := bind_eq_ok_iff.mp h
    rw [← Except.ok.inj h]
    exact .inl ⟨hcontact, hplan⟩
  · rename_i hcontact
    obtain ⟨plan, hplan, h⟩ := bind_eq_ok_iff.mp h
    rw [← Except.ok.inj h]
    exact .inr ⟨not_ne_iff.mp hcontact, hplan⟩

/-- The entries that prove a link of a station: up as the Scheduler holds it, or down. -/
def proofEntries (config : SchedulerConfig) (up : Bool) (pair : Pair) (info : ActiveLinkInfo) :
    Except SchedulerError BatchPlan :=
  if up = true ∧ info.contact ≠ none then
    longDelayInventoryEntries config pair info (remainingEnds pair info)
  else groundInventoryEntries config up pair info

theorem proofEntries_up (h : groundInventoryRequests config gsId expectedUp expectedDown =
      .ok inventory) (hup : expectedUp.get? pair = some info)
    (hstation : OfStation config gsId pair info.linkType) :
    ∃ plan, proofEntries config true pair info = .ok plan ∧
      ∀ planned ∈ plan, planned ∈ inventory.localPlan ++ inventory.longDelayPlan := by
  obtain ⟨ups, hups, h⟩ := bind_eq_ok_iff.mp h
  obtain ⟨downs, -, h⟩ := bind_eq_ok_iff.mp h
  rw [← Except.ok.inj h]
  have hmem : (pair, info) ∈ (actualGroundPairsForGs config expectedUp gsId).entries :=
    Dict.get?_eq_some_iff.mp (Dict.get?_filter_eq_some_iff.mpr ⟨hup, decide_eq_true hstation⟩)
  obtain ⟨own, hown, hbuilt⟩ := exists_ok_of_mapM hups hmem
  rcases upInventory_cases hbuilt with ⟨hcontact, hplan⟩ | ⟨hlocal, hplan⟩
  · refine ⟨_, (if_pos ⟨rfl, hcontact⟩).trans hplan, fun planned hplanned => ?_⟩
    exact List.mem_append_right _ (mem_inAgentOrder.mpr (List.mem_flatMap.mpr ⟨own, hown, hplanned⟩))
  · refine ⟨_, (if_neg fun hlong => hlong.2 hlocal).trans hplan, fun planned hplanned => ?_⟩
    exact List.mem_append_left _ (mem_inAgentOrder.mpr (List.mem_append_left _
      (List.mem_flatMap.mpr ⟨own, hown, hplanned⟩)))

theorem proofEntries_down (h : groundInventoryRequests config gsId expectedUp expectedDown =
      .ok inventory) (hdown : expectedDown.get? pair = some info)
    (hstation : OfStation config gsId pair info.linkType) :
    ∃ plan, proofEntries config false pair info = .ok plan ∧
      ∀ planned ∈ plan, planned ∈ inventory.localPlan ++ inventory.longDelayPlan := by
  obtain ⟨ups, -, h⟩ := bind_eq_ok_iff.mp h
  obtain ⟨downs, hdowns, h⟩ := bind_eq_ok_iff.mp h
  rw [← Except.ok.inj h]
  have hmem : (pair, info) ∈ (actualGroundPairsForGs config expectedDown gsId).entries :=
    Dict.get?_eq_some_iff.mp (Dict.get?_filter_eq_some_iff.mpr ⟨hdown, decide_eq_true hstation⟩)
  obtain ⟨own, hown, hbuilt⟩ := exists_ok_of_mapM hdowns hmem
  refine ⟨own, (if_neg fun hup => nomatch hup.1).trans hbuilt, fun planned hplanned => ?_⟩
  exact List.mem_append_left _ (mem_inAgentOrder.mpr (List.mem_append_right _
    (List.mem_flatten.mpr ⟨own, hown, hplanned⟩)))

theorem exists_entry_of_proof (h : proofEntries config up pair info = .ok plan)
    (hterminal : terminal ∈ endTerminals pair info.toLinkInfo)
    (hend : up = true → info.contact ≠ none → terminal.1 ∈ remainingEnds pair info) :
    ∃ planned ∈ plan, planned.2.pair = pair ∧ planned.2.expectedAdminUp = some up ∧
      terminal ∈ planned.2.ends := by
  unfold proofEntries at h
  split_ifs at h with hlong
  · rw [hlong.1]
    exact exists_entry_of_longDelay h hterminal (hend hlong.1 hlong.2)
  · exact exists_entry_of_ground h hterminal

def Names (inventory : GroundInventory) (pair : Pair) (terminal : Terminal) : Prop :=
  ∃ planned ∈ inventory.localPlan ++ inventory.longDelayPlan,
    planned.2.pair = pair ∧ terminal ∈ planned.2.ends

theorem names_up (h : groundInventoryRequests config gsId expectedUp expectedDown = .ok inventory)
    (hup : expectedUp.get? pair = some info) (hstation : OfStation config gsId pair info.linkType)
    (hterminal : terminal ∈ endTerminals pair info.toLinkInfo)
    (hend : info.contact ≠ none → terminal.1 ∈ remainingEnds pair info) :
    Names inventory pair terminal := by
  obtain ⟨plan, hplan, hmem⟩ := proofEntries_up h hup hstation
  obtain ⟨planned, hplanned, hpair, -, hon⟩ := exists_entry_of_proof hplan hterminal fun _ => hend
  exact ⟨planned, hmem planned hplanned, hpair, hon⟩

theorem names_down (h : groundInventoryRequests config gsId expectedUp expectedDown = .ok inventory)
    (hdown : expectedDown.get? pair = some info)
    (hstation : OfStation config gsId pair info.linkType)
    (hterminal : terminal ∈ endTerminals pair info.toLinkInfo) : Names inventory pair terminal := by
  obtain ⟨plan, hplan, hmem⟩ := proofEntries_down h hdown hstation
  obtain ⟨planned, hplanned, hpair, -, hon⟩ := exists_entry_of_proof hplan hterminal nofun
  exact ⟨planned, hmem planned hplanned, hpair, hon⟩

/-- A proof can be asked for when every pass expected up is on terminals with known rates and
carries a contact if it names one. -/
theorem exists_groundInventoryRequests
    (hrates : ∀ pair info, expectedUp.get? pair = some info → ∀ terminal ∈
      endTerminals pair info.toLinkInfo, terminal ∈ config.interfaceRates)
    (hcarried : ∀ pair info, expectedUp.get? pair = some info → info.contact ≠ none →
      info.endContact? pair.1 ≠ none) :
    ∃ inventory, groundInventoryRequests config gsId expectedUp expectedDown = .ok inventory := by
  obtain ⟨ups, hups⟩ : ∃ ups, (actualGroundPairsForGs config expectedUp gsId).entries.mapM
      (fun held => if held.2.contact ≠ none then do
        let plan ← longDelayInventoryEntries config held.1 held.2 (remainingEnds held.1 held.2)
        return ({ localPlan := [], longDelayPlan := plan } : GroundInventory)
      else do
        let plan ← groundInventoryEntries config true held.1 held.2
        return { localPlan := plan, longDelayPlan := [] }) = .ok ups := by
    refine exists_mapM_of_forall fun held hheld => ?_
    obtain ⟨hup, hstation⟩ := Dict.get?_filter_eq_some_iff.mp (Dict.get?_eq_some_iff.mpr hheld)
    have hstation := (of_decide_eq_true hstation).2
    split
    · rename_i hcontact
      obtain ⟨plan, hplan⟩ := exists_longDelayInventoryEntries hstation
        (hcarried _ _ hup hcontact) (hrates _ _ hup)
      rw [hplan]
      exact ⟨_, rfl⟩
    · obtain ⟨plan, hplan⟩ := exists_groundInventoryEntries hstation fun _ => hrates _ _ hup
      rw [hplan]
      exact ⟨_, rfl⟩
  obtain ⟨downs, hdowns⟩ : ∃ downs, (actualGroundPairsForGs config expectedDown gsId).entries.mapM
      (fun held => groundInventoryEntries config false held.1 held.2) = .ok downs := by
    refine exists_mapM_of_forall fun held hheld => ?_
    obtain ⟨-, hstation⟩ := Dict.get?_filter_eq_some_iff.mp (Dict.get?_eq_some_iff.mpr hheld)
    exact exists_groundInventoryEntries (of_decide_eq_true hstation).2 nofun
  refine ⟨_, bind_eq_ok_iff.mpr ⟨ups, hups, bind_eq_ok_iff.mpr ⟨downs, hdowns, rfl⟩⟩⟩

/-! ### The verdict -/

/-- The replies to a proof, those about local passes first. -/
def inventoryExchanges (surroundings : Surroundings) (first : Nat) (requested : List Pair)
    (inventory : GroundInventory) : List Exchange :=
  let frame := groundInventoryFrame requested
  let locals := exchangesOf surroundings first frame inventory.localPlan
  locals ++ exchangesOf surroundings (first + locals.length) frame inventory.longDelayPlan

def inventoryVerdict (surroundings : Surroundings) (s : Scheduler) (gsId : NodeId)
    (requested : List Pair) (inventory : GroundInventory) : ActuationResult :=
  let frame := groundInventoryFrame requested
  let locals := exchangesOf surroundings s.requests frame inventory.localPlan
  inventoryResult gsId requested (inventory.localPlan ++ inventory.longDelayPlan)
    (agentResults inventory.localPlan locals ++ agentResults inventory.longDelayPlan
      (exchangesOf surroundings (s.requests + locals.length) frame inventory.longDelayPlan))

/-- The state after a proof: only its requests and the log are new. -/
def afterInventory (surroundings : Surroundings) (requested : List Pair)
    (inventory : GroundInventory) (s : Scheduler) : Scheduler :=
  let frame := groundInventoryFrame requested
  let locals := exchangesOf surroundings s.requests frame inventory.localPlan
  let longDelay := exchangesOf surroundings (s.requests + locals.length) frame
    inventory.longDelayPlan
  { s with
    requests := s.requests + locals.length + longDelay.length
    log := inventorySent s inventory.longDelayPlan longDelay ::
      inventorySent s inventory.localPlan locals :: s.log }

theorem wp_sendKernelInventory {s : Scheduler} {Q : ActuationResult → Scheduler → Prop}
    {E : SchedulerError → Scheduler → Prop} :
    wp (sendKernelInventory config env gsId expectedUp expectedDown) s Q E ↔
      (∀ inventory, groundInventoryRequests config gsId expectedUp expectedDown = .ok inventory →
        Q (inventoryVerdict env s gsId (sortedSet (expectedUp.keys ++ expectedDown.keys))
            inventory) (afterInventory env (sortedSet (expectedUp.keys ++ expectedDown.keys))
            inventory s)) ∧
      ∀ e, groundInventoryRequests config gsId expectedUp expectedDown = .error e → E e s := by
  simp only [sendKernelInventory, wp_bind, wp_lift, wp_get, wp_set, wp_pure]
  rfl

theorem expectedAcks_append {plan plan' : BatchPlan} :
    expectedAcks (plan ++ plan') pair = expectedAcks plan pair ++ expectedAcks plan' pair := by
  simp [expectedAcks]

theorem ackedIn_append {exchanges exchanges' : List Exchange} {ack : Ack} :
    AckedIn (exchanges ++ exchanges') ack ↔ AckedIn exchanges ack ∨ AckedIn exchanges' ack := by
  simp only [AckedIn, List.mem_append, or_and_right, exists_or]

theorem success_inventory_iff {first : Nat} {requested : List Pair}
    {linkType : Pair → Option LinkType} {station : Pair → Option NodeId} :
    (pairActuationResult (inventory.localPlan ++ inventory.longDelayPlan)
      (agentResults inventory.localPlan
          (exchangesOf env first (groundInventoryFrame requested) inventory.localPlan) ++
        agentResults inventory.longDelayPlan (exchangesOf env
          (first + (exchangesOf env first (groundInventoryFrame requested)
            inventory.localPlan).length) (groundInventoryFrame requested) inventory.longDelayPlan))
      linkType station pair).Success ↔
      expectedAcks (inventory.localPlan ++ inventory.longDelayPlan) pair ≠ [] ∧
      ∀ ack ∈ expectedAcks (inventory.localPlan ++ inventory.longDelayPlan) pair,
        AckedIn (inventoryExchanges env first requested inventory) ack := by
  simp only [PairActuationResult.Success, pairActuationResult, List.flatMap_append,
    List.mem_filter, List.mem_append, mem_successAcks_iff, decide_eq_true_eq, inventoryExchanges,
    ackedIn_append]
  refine and_congr_right fun _ => forall_congr' fun ack => forall_congr' fun hack => ?_
  exact and_iff_left hack

end NodalArc.StationInventory
