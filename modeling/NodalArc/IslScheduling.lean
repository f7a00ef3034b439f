import NodalArc.OrderedDict
import NodalArc.StableSort

/-! Terminals for inter-satellite links: every node takes its best links first, and a link is
scheduled when both of its ends take it. -/

namespace NodalArc.IslScheduling

open OrderedDict
open StableSort

variable {terminalCount : Int}

inductive RejectReason
  | ok | terminalTypeMismatch | terminalRoleMismatch | losBlocked | rangeExceeded | fieldOfRegard
  | trackingExceeded | polarSeam
deriving DecidableEq, Repr

inductive UnscheduledReason
  | capacity
  | rejected (reason : RejectReason)
deriving DecidableEq, Repr

structure IslFeasibilityResult where
  feasible : Bool
  rangeKm : ℚ
  oneWayAToBMs : ℚ
  oneWayBToAMs : ℚ
  rejectReason : RejectReason
  terminalRoleA : Option String
  terminalRoleB : Option String
deriving DecidableEq, Repr

structure NeighborAssignment (Node : Type*) where
  peerNodeId : Node
  priority : Int

structure ScheduledLink (Node : Type*) where
  nodeA : Node
  nodeB : Node
  scheduled : Bool
  rangeKm : ℚ

structure ScheduledIsl (Node : Type*) where
  pair : Node × Node
  terminalRoleA : Option String
  terminalRoleB : Option String
  rangeKm : ℚ
  oneWayAToBMs : ℚ
  oneWayBToAMs : ℚ
  scheduled : Bool
  unscheduledReason : Option UnscheduledReason
deriving DecidableEq, Repr

/-- One feasible link of a node: its peer, the node's priority for it and its range. -/
structure FeasibleIsl (Node : Type*) where
  peer : Node
  priority : Int
  rangeKm : ℚ
deriving DecidableEq

variable {Node : Type*} [LinearOrder Node]

/-- Feasibility results, under the keys `evaluate_isl_feasibility` gives them: one key for two
nodes, the smaller one first. -/
structure Feasibility (Node : Type*) [LinearOrder Node] where
  results : Dict (Node × Node) IslFeasibilityResult
  ordered : ∀ pair ∈ results, pair.1 < pair.2

/-- `terminal_counts` has no entry for a node with a feasible link. -/
structure MissingCount (Node : Type*) where
  node : Node
deriving DecidableEq, Repr

section Program

variable (byNode : Dict Node (List (NeighborAssignment Node)))

def assignmentTo (node peer : Node) : Option (NeighborAssignment Node) :=
  ((byNode.get? node).getD []).find? fun assignment => assignment.peerNodeId = peer

def appendFeasible (node peer : Node) (rangeKm : ℚ) (isls : Dict Node (List (FeasibleIsl Node))) :
    Dict Node (List (FeasibleIsl Node)) :=
  match assignmentTo byNode node peer with
  | some assignment =>
      isls.insert node (isls.getD node [] ++ [⟨peer, assignment.priority, rangeKm⟩])
  | none => isls

def nodeFeasibleIsls (feasibility : List ((Node × Node) × IslFeasibilityResult)) :
    Dict Node (List (FeasibleIsl Node)) :=
  feasibility.foldl (fun isls entry =>
    if entry.2.feasible then
      appendFeasible byNode entry.1.2 entry.1.1 entry.2.rangeKm
        (appendFeasible byNode entry.1.1 entry.1.2 entry.2.rangeKm isls)
    else isls) ∅

def scheduleIslTerminals (nodeId : Node) (feasibleIsls : List (FeasibleIsl Node))
    (terminalCount : Int) : List (ScheduledLink Node) :=
  (sortOn FeasibleIsl.priority feasibleIsls).zipIdx.map fun (isl, i) =>
    ⟨nodeId, isl.peer, i < terminalCount, isl.rangeKm⟩

def allIslSchedules (terminalCounts : Dict Node Int) (isls : Dict Node (List (FeasibleIsl Node))) :
    Except (MissingCount Node) (Dict Node (List (ScheduledLink Node))) :=
  isls.entries.foldlM (fun schedules (nodeId, feasibleLinks) =>
    match terminalCounts.get? nodeId with
    | some terminalCount =>
        pure (schedules.insert nodeId (scheduleIslTerminals nodeId feasibleLinks terminalCount))
    | none => throw ⟨nodeId⟩) ∅

def scheduledPairs (schedules : Dict Node (List (ScheduledLink Node))) : List (Node × Node) :=
  schedules.values.flatten.filterMap fun link =>
    if link.scheduled then some (link.nodeA, link.nodeB) else none

def enforceSymmetricScheduling (schedules : Dict Node (List (ScheduledLink Node))) :
    Dict Node (List (ScheduledLink Node)) :=
  let toUnschedule := (scheduledPairs schedules).filter fun (a, b) => (b, a) ∉ scheduledPairs schedules
  if toUnschedule = [] then schedules
  else schedules.mapValues fun _ links => links.map fun link =>
    if (link.nodeA, link.nodeB) ∈ toUnschedule then { link with scheduled := false } else link

def linkPair (link : ScheduledLink Node) : Node × Node :=
  (min link.nodeA link.nodeB, max link.nodeA link.nodeB)

def joinEnd (scheduled : Dict (Node × Node) Bool) (link : ScheduledLink Node) : Dict (Node × Node) Bool :=
  match scheduled.get? (linkPair link) with
  | none => scheduled.insert (linkPair link) link.scheduled
  | some both => scheduled.insert (linkPair link) (both && link.scheduled)

def scheduledByPair (schedules : Dict Node (List (ScheduledLink Node))) : Dict (Node × Node) Bool :=
  schedules.values.flatten.foldl joinEnd ∅

def scheduledIsl (scheduled : Dict (Node × Node) Bool) (pair : Node × Node)
    (result : IslFeasibilityResult) : ScheduledIsl Node :=
  let isScheduled := if result.feasible then scheduled.getD pair false else false
  { pair
    terminalRoleA := result.terminalRoleA
    terminalRoleB := result.terminalRoleB
    rangeKm := result.rangeKm
    oneWayAToBMs := result.oneWayAToBMs
    oneWayBToAMs := result.oneWayBToAMs
    scheduled := isScheduled
    unscheduledReason :=
      if isScheduled then none
      else if result.feasible then some .capacity
      else some (.rejected result.rejectReason) }

def scheduleIslLinks (feasibility : Feasibility Node) (terminalCounts : Dict Node Int) :
    Except (MissingCount Node) (Dict (Node × Node) (ScheduledIsl Node)) := do
  let schedules ← allIslSchedules terminalCounts (nodeFeasibleIsls byNode feasibility.results.entries)
  pure (feasibility.results.mapValues (scheduledIsl (scheduledByPair (enforceSymmetricScheduling schedules))))

/-! ### What scheduling should do -/

/-- The end of a link at a node, if the link is feasible and the node is assigned to its peer. -/
def endAt (node : Node) (entry : (Node × Node) × IslFeasibilityResult) : Option (FeasibleIsl Node) :=
  if ¬ entry.2.feasible then none
  else if entry.1.1 = node then
    (assignmentTo byNode node entry.1.2).map fun a => ⟨entry.1.2, a.priority, entry.2.rangeKm⟩
  else if entry.1.2 = node then
    (assignmentTo byNode node entry.1.1).map fun a => ⟨entry.1.1, a.priority, entry.2.rangeKm⟩
  else none

def feasibleIsls (feasibility : Feasibility Node) (node : Node) : List (FeasibleIsl Node) :=
  feasibility.results.entries.filterMap (endAt byNode node)

/-- The link to the peer is among the first links of the node by priority, and by feasibility order
where priorities are equal. -/
def AmongFirst (feasibility : Feasibility Node) (node : Node) (terminalCount : Int) (peer : Node) : Prop :=
  ∃ isl ∈ feasibleIsls byNode feasibility node, isl.peer = peer ∧
    ((feasibleIsls byNode feasibility node).countP fun other =>
      Before FeasibleIsl.priority (feasibleIsls byNode feasibility node) other isl) < terminalCount

end Program

variable {byNode : Dict Node (List (NeighborAssignment Node))} {terminalCounts : Dict Node Int}
  {feasibility : Feasibility Node}

/-! ### The links of one node -/

theorem getD_appendFeasible {isls : Dict Node (List (FeasibleIsl Node))} {node peer other : Node} {range : ℚ} :
    (appendFeasible byNode node peer range isls).getD other [] = isls.getD other [] ++
      if node = other then
        ((assignmentTo byNode node peer).map fun a => (⟨peer, a.priority, range⟩ : FeasibleIsl Node)).toList
      else [] := by
  unfold appendFeasible
  cases assignmentTo byNode node peer with
  | none => simp
  | some assignment =>
    by_cases h : node = other
    · subst h
      simp [Dict.getD]
    · simp [Dict.getD, h, Ne.symm h]

theorem getD_nodeFeasibleIsls {entries : List ((Node × Node) × IslFeasibilityResult)}
    (h : ∀ entry ∈ entries, entry.1.1 < entry.1.2) (node : Node) :
    (nodeFeasibleIsls byNode entries).getD node [] = entries.filterMap (endAt byNode node) := by
  induction entries using List.reverseRecOn with
  | nil => rfl
  | append_singleton entries entry ih =>
    have ih := ih fun e he => h e (List.mem_append_left _ he)
    have hlt := h entry (List.mem_append_right _ List.mem_cons_self)
    rw [List.filterMap_append, ← ih, nodeFeasibleIsls, List.foldl_append, List.foldl_cons, List.foldl_nil,
      ← nodeFeasibleIsls]
    obtain ⟨⟨a, b⟩, result⟩ := entry
    cases hfeasible : result.feasible with
    | false => simp [endAt, hfeasible]
    | true =>
      simp only [if_true, getD_appendFeasible, List.append_assoc, List.filterMap_cons,
        List.filterMap_nil, endAt, hfeasible, not_true_eq_false, if_false]
      congr 1
      by_cases ha : a = node
      · subst ha
        have hb : b ≠ a := hlt.ne'
        cases assignmentTo byNode a b <;> simp [hb]
      · by_cases hb : b = node
        · subst hb
          cases assignmentTo byNode b a <;> simp [ha]
        · simp [ha, hb]

variable {node : Node} {link : ScheduledLink Node}
    {schedules : Dict Node (List (ScheduledLink Node))} {a b : Node} {pair : Node × Node}

theorem mem_nodeFeasibleIsls {entries : List ((Node × Node) × IslFeasibilityResult)}
    (h : node ∈ nodeFeasibleIsls byNode entries) :
    ∃ entry ∈ entries, entry.1.1 = node ∨ entry.1.2 = node := by
  induction entries using List.reverseRecOn with
  | nil => cases h
  | append_singleton entries entry ih =>
    rw [nodeFeasibleIsls, List.foldl_append, List.foldl_cons, List.foldl_nil, ← nodeFeasibleIsls] at h
    have happend : ∀ {isls : Dict Node (List (FeasibleIsl Node))} {a b : Node} {range : ℚ},
        node ∈ appendFeasible byNode a b range isls → node = a ∨ node ∈ isls := by
      intro isls a b range hmem
      unfold appendFeasible at hmem
      split at hmem
      · exact Dict.mem_insert.mp hmem
      · exact .inr hmem
    have hcases : (entry.1.1 = node ∨ entry.1.2 = node) ∨ node ∈ nodeFeasibleIsls byNode entries := by
      split at h
      · rcases happend h with rfl | h
        · exact .inl (.inr rfl)
        · exact (happend h).imp (fun heq => .inl heq.symm) id
      · exact .inr h
    rcases hcases with hend | hmem
    · exact ⟨entry, List.mem_append_right _ List.mem_cons_self, hend⟩
    · obtain ⟨found, hfound, hend⟩ := ih hmem
      exact ⟨found, List.mem_append_left _ hfound, hend⟩

theorem endAt_eq_some {entry : (Node × Node) × IslFeasibilityResult}
    {isl : FeasibleIsl Node} (h : endAt byNode node entry = some isl) :
    entry.2.feasible = true ∧ (entry.1 = (node, isl.peer) ∨ entry.1 = (isl.peer, node)) := by
  obtain ⟨⟨a, b⟩, result⟩ := entry
  simp only [endAt] at h
  split_ifs at h with hfeasible ha hb
  · obtain ⟨_, -, rfl⟩ := Option.map_eq_some_iff.mp h
    exact ⟨hfeasible, .inl (by rw [← ha])⟩
  · obtain ⟨_, -, rfl⟩ := Option.map_eq_some_iff.mp h
    exact ⟨hfeasible, .inr (by rw [← hb])⟩

theorem peers_nodup (node : Node) :
    ((feasibleIsls byNode feasibility node).map FeasibleIsl.peer).Nodup := by
  have hentries : ∀ entries : List ((Node × Node) × IslFeasibilityResult),
      (entries.map Prod.fst).Nodup → (∀ entry ∈ entries, entry.1.1 < entry.1.2) →
      ((entries.filterMap (endAt byNode node)).map FeasibleIsl.peer).Nodup := by
    intro entries hkeys hlt
    induction entries with
    | nil => exact List.nodup_nil
    | cons entry entries ih =>
      obtain ⟨hnew, hkeys⟩ := List.nodup_cons.mp hkeys
      have ih := ih hkeys fun e he => hlt e (List.mem_cons_of_mem _ he)
      rw [List.filterMap_cons]
      split
      · exact ih
      next isl hisl =>
        refine List.nodup_cons.mpr ⟨fun hmem => ?_, ih⟩
        obtain ⟨other, hother, hpeer⟩ := List.mem_map.mp hmem
        obtain ⟨found, hfound, hend⟩ := List.mem_filterMap.mp hother
        have hfirst := hlt entry List.mem_cons_self
        have hsecond := hlt found (List.mem_cons_of_mem _ hfound)
        -- two keys for one peer would be equal or ordered both ways
        refine hnew (List.mem_map.mpr ⟨found, hfound, ?_⟩)
        rcases (endAt_eq_some hisl).2 with he | he <;> rcases (endAt_eq_some hend).2 with hf | hf <;>
          rw [he] at hfirst ⊢ <;> rw [hf, hpeer] at hsecond ⊢ <;>
          first | rfl | exact absurd hfirst (lt_asymm hsecond)
  exact hentries _ feasibility.results.nodup fun entry hentry =>
    feasibility.ordered entry.1 (List.mem_map.mpr ⟨entry, hentry, rfl⟩)

omit [LinearOrder Node] in
theorem mem_scheduleIslTerminals {isls : List (FeasibleIsl Node)} :
    link ∈ scheduleIslTerminals node isls terminalCount ↔
      ∃ isl, ∃ i : Nat, (sortOn FeasibleIsl.priority isls)[i]? = some isl ∧
        ⟨node, isl.peer, i < terminalCount, isl.rangeKm⟩ = link := by
  simp [scheduleIslTerminals, List.mem_zipIdx_iff_getElem?]

theorem amongFirst_iff {node peer : Node} :
    AmongFirst byNode feasibility node terminalCount peer ↔
      ∃ isl ∈ (sortOn FeasibleIsl.priority (feasibleIsls byNode feasibility node)).take terminalCount.toNat,
        isl.peer = peer := by
  have hnodup : (feasibleIsls byNode feasibility node).Nodup := (peers_nodup node).of_map
  constructor
  · rintro ⟨isl, hisl, hpeer, hcount⟩
    exact ⟨isl, (mem_take_sortOn_iff hnodup hisl _).mpr (by omega), hpeer⟩
  · rintro ⟨isl, hisl, hpeer⟩
    have hmem := sortOn_perm.subset (List.mem_of_mem_take hisl)
    have hcount := (mem_take_sortOn_iff hnodup hmem _).mp hisl
    exact ⟨isl, hmem, hpeer, by omega⟩

section Links

variable (byNode terminalCounts feasibility)

def linksOf (node : Node) : List (ScheduledLink Node) :=
  scheduleIslTerminals node (feasibleIsls byNode feasibility node) (terminalCounts.getD node 0)

end Links

theorem taken_iff {node peer : Node} :
    (∃ link ∈ linksOf byNode terminalCounts feasibility node, link.nodeB = peer ∧ link.scheduled = true) ↔
      AmongFirst byNode feasibility node (terminalCounts.getD node 0) peer := by
  simp only [linksOf, mem_scheduleIslTerminals, amongFirst_iff, List.mem_take_iff_getElem]
  constructor
  · rintro ⟨_, ⟨isl, i, hi, rfl⟩, hpeer, hscheduled⟩
    obtain ⟨hlength, hisl⟩ := List.getElem?_eq_some_iff.mp hi
    have hi := of_decide_eq_true hscheduled
    exact ⟨isl, ⟨i, by omega, hisl⟩, hpeer⟩
  · rintro ⟨isl, ⟨i, hi, hisl⟩, hpeer⟩
    refine ⟨_, ⟨isl, i, List.getElem?_eq_some_iff.mpr ⟨by omega, hisl⟩, rfl⟩, hpeer, ?_⟩
    exact decide_eq_true (by omega)

theorem nodeA_linksOf
    (h : link ∈ linksOf byNode terminalCounts feasibility node) : link.nodeA = node := by
  obtain ⟨isl, i, -, rfl⟩ := mem_scheduleIslTerminals.mp h
  rfl

theorem linksOf_unique {link link' : ScheduledLink Node}
    (h : link ∈ linksOf byNode terminalCounts feasibility node)
    (h' : link' ∈ linksOf byNode terminalCounts feasibility node) (heq : link.nodeB = link'.nodeB) :
    link = link' := by
  have hpeers : (linksOf byNode terminalCounts feasibility node).map ScheduledLink.nodeB =
      (sortOn FeasibleIsl.priority (feasibleIsls byNode feasibility node)).map FeasibleIsl.peer := by
    rw [linksOf, scheduleIslTerminals, List.map_map]
    conv_rhs => rw [← List.zipIdx_map_fst 0 (sortOn _ _), List.map_map]
    rfl
  refine List.inj_on_of_nodup_map ?_ h h' heq
  rw [hpeers, (sortOn_perm.map _).nodup_iff]
  exact peers_nodup node

/-! ### The schedules of all nodes -/

theorem mem_flatten_values :
    link ∈ schedules.values.flatten ↔ ∃ node links, schedules.get? node = some links ∧ link ∈ links := by
  simp only [Dict.values, List.mem_flatten, List.mem_map, Dict.get?_eq_some_iff]
  constructor
  · rintro ⟨_, ⟨⟨node, links⟩, hentry, rfl⟩, hlink⟩
    exact ⟨node, links, hentry, hlink⟩
  · rintro ⟨node, links, hentry, hlink⟩
    exact ⟨links, ⟨(node, links), hentry, rfl⟩, hlink⟩

def Counted (terminalCounts : Dict Node Int) (feasibility : Feasibility Node) : Prop :=
  ∀ pair ∈ feasibility.results, pair.1 ∈ terminalCounts ∧ pair.2 ∈ terminalCounts

theorem foldlM_schedules {entries : List (Node × List (FeasibleIsl Node))}
    (h : ∀ entry ∈ entries, entry.1 ∈ terminalCounts) (schedules : Dict Node (List (ScheduledLink Node))) :
    entries.foldlM (fun schedules (nodeId, feasibleLinks) =>
      match terminalCounts.get? nodeId with
      | some terminalCount =>
        pure (schedules.insert nodeId (scheduleIslTerminals nodeId feasibleLinks terminalCount))
      | none => throw ⟨nodeId⟩) schedules = (.ok ((entries.map fun entry =>
      (entry.1, scheduleIslTerminals entry.1 entry.2 (terminalCounts.getD entry.1 0))).foldl
        (fun d entry => d.insert entry.1 entry.2) schedules) : Except (MissingCount Node) _) := by
  induction entries generalizing schedules with
  | nil => rfl
  | cons entry entries ih =>
    obtain ⟨count, hcount⟩ := Dict.mem_iff.mp (h entry List.mem_cons_self)
    rw [List.foldlM_cons, List.map_cons, List.foldl_cons, ← ih fun e he => h e (List.mem_cons_of_mem _ he)]
    simp only [hcount, Dict.getD, Option.getD_some]
    rfl

theorem allIslSchedules_ok (byNode : Dict Node (List (NeighborAssignment Node)))
    (h : Counted terminalCounts feasibility) :
    ∃ schedules, allIslSchedules terminalCounts (nodeFeasibleIsls byNode feasibility.results.entries) =
        .ok schedules ∧ ∀ link, link ∈ schedules.values.flatten ↔
        link ∈ linksOf byNode terminalCounts feasibility link.nodeA := by
  have hordered : ∀ entry ∈ feasibility.results.entries, entry.1.1 < entry.1.2 := fun entry hentry =>
    feasibility.ordered entry.1 (List.mem_map.mpr ⟨entry, hentry, rfl⟩)
  refine ⟨_, foldlM_schedules (fun entry hentry => ?_) ∅, fun link => ?_⟩
  · obtain ⟨result, hresult, hend⟩ := mem_nodeFeasibleIsls (List.mem_map.mpr ⟨entry, hentry, rfl⟩)
    have hcounts := h result.1 (List.mem_map.mpr ⟨result, hresult, rfl⟩)
    rcases hend with hend | hend
    · exact hend ▸ hcounts.1
    · exact hend ▸ hcounts.2
  have hget : ∀ node, Dict.get? (((nodeFeasibleIsls byNode feasibility.results.entries).entries.map fun entry =>
      (entry.1, scheduleIslTerminals entry.1 entry.2 (terminalCounts.getD entry.1 0))).foldl
        (fun d entry => d.insert entry.1 entry.2) ∅) node =
      ((nodeFeasibleIsls byNode feasibility.results.entries).get? node).map fun links =>
        scheduleIslTerminals node links (terminalCounts.getD node 0) := by
    intro node
    have hupdate := Dict.get?_update (d := (∅ : Dict Node (List (ScheduledLink Node)))) (k := node)
      (e := (nodeFeasibleIsls byNode feasibility.results.entries).mapValues fun node links =>
        scheduleIslTerminals node links (terminalCounts.getD node 0))
    rw [Dict.get?_mapValues, Dict.get?_empty, Option.or_none] at hupdate
    exact hupdate
  have hlinks : ∀ node, linksOf byNode terminalCounts feasibility node = scheduleIslTerminals node
      ((nodeFeasibleIsls byNode feasibility.results.entries).getD node []) (terminalCounts.getD node 0) := by
    intro node
    rw [getD_nodeFeasibleIsls hordered]
    rfl
  simp only [mem_flatten_values, hget, Option.map_eq_some_iff]
  constructor
  · rintro ⟨node, _, ⟨isls, hisls, rfl⟩, hlink⟩
    have hnode := (mem_scheduleIslTerminals.mp hlink).choose_spec.choose_spec.2
    have hnode : node = link.nodeA := by rw [← hnode]
    rw [← hnode, hlinks, Dict.getD, hisls]
    exact hlink
  · intro hlink
    rw [hlinks, Dict.getD] at hlink
    cases hisls : (nodeFeasibleIsls byNode feasibility.results.entries).get? link.nodeA with
    | none =>
      rw [hisls] at hlink
      cases hlink
    | some isls =>
      rw [hisls] at hlink
      exact ⟨link.nodeA, _, ⟨isls, hisls, rfl⟩, hlink⟩

omit [LinearOrder Node] in
theorem mem_scheduledPairs : (a, b) ∈ scheduledPairs schedules ↔
      ∃ link ∈ schedules.values.flatten, link.scheduled = true ∧ link.nodeA = a ∧ link.nodeB = b := by
  simp only [scheduledPairs, List.mem_filterMap, Option.ite_none_right_eq_some, Option.some.injEq,
    Prod.mk.injEq]

/-- A link stays scheduled when its other end schedules it too. -/
def symmetric (schedules : Dict Node (List (ScheduledLink Node))) (link : ScheduledLink Node) :
    ScheduledLink Node :=
  { link with scheduled := link.scheduled && decide ((link.nodeB, link.nodeA) ∈ scheduledPairs schedules) }

theorem enforced_links (schedules : Dict Node (List (ScheduledLink Node))) :
    (enforceSymmetricScheduling schedules).values.flatten =
      schedules.values.flatten.map (symmetric schedules) := by
  have hsymmetric : ∀ link ∈ schedules.values.flatten, symmetric schedules link =
      if (link.nodeA, link.nodeB) ∈ (scheduledPairs schedules).filter
        fun (a, b) => (b, a) ∉ scheduledPairs schedules then { link with scheduled := false } else link := by
    intro link hlink
    obtain ⟨a, b, scheduled, range⟩ := link
    cases scheduled with
    | false => split <;> rfl
    | true =>
      have hmem : (a, b) ∈ scheduledPairs schedules :=
        mem_scheduledPairs.mpr ⟨_, hlink, rfl, rfl, rfl⟩
      by_cases hback : (b, a) ∈ scheduledPairs schedules <;> simp [symmetric, hmem, hback]
  rw [List.map_congr_left hsymmetric, enforceSymmetricScheduling]
  split
  next hnone => simp only [hnone, List.not_mem_nil, if_false, List.map_id']
  · simp [Dict.values, Dict.mapValues, List.map_flatten, Function.comp_def]

theorem get?_joinEnds {links : List (ScheduledLink Node)} : (links.foldl joinEnd ∅).get? pair =
      if ∃ link ∈ links, linkPair link = pair then
        some (links.all fun link => linkPair link = pair → link.scheduled = true) else none := by
  induction links using List.reverseRecOn with
  | nil => rfl
  | append_singleton links link ih =>
    rw [List.foldl_append, List.foldl_cons, List.foldl_nil, joinEnd]
    by_cases hpair : linkPair link = pair
    · subst hpair
      rw [ih]
      by_cases hsome : ∃ link' ∈ links, linkPair link' = linkPair link
      · simp [hsome]
      · have hall : ∀ link' ∈ links, linkPair link' ≠ linkPair link := fun link' hlink' heq =>
          hsome ⟨link', hlink', heq⟩
        simpa [hsome] using fun _ link' hlink' => .inl (hall link' hlink')
    · have hother : ∀ v, ((links.foldl joinEnd ∅).insert (linkPair link) v).get? pair =
          (links.foldl joinEnd ∅).get? pair := fun v => by
        rw [Dict.get?_insert, if_neg (Ne.symm hpair)]
      split <;> rw [hother, ih] <;> simp [hpair, or_and_right, exists_or]

theorem scheduledByPair_iff : (scheduledByPair schedules).getD pair false = true ↔
      (∃ link ∈ schedules.values.flatten, linkPair link = pair) ∧
        ∀ link ∈ schedules.values.flatten, linkPair link = pair → link.scheduled = true := by
  rw [Dict.getD, scheduledByPair, get?_joinEnds]
  split_ifs with hsome
  · rw [Option.getD_some, List.all_eq_true]
    simp only [decide_eq_true_eq]
    exact (and_iff_right hsome).symm
  · exact ⟨fun h => (Bool.false_ne_true h).elim, fun h => absurd h.1 hsome⟩

/-! ### The scheduled links -/

theorem linkPair_eq_iff (h : a < b) :
    linkPair link = (a, b) ↔ link.nodeA = a ∧ link.nodeB = b ∨ link.nodeA = b ∧ link.nodeB = a := by
  rw [linkPair, Prod.mk.injEq]
  rcases le_total link.nodeA link.nodeB with hle | hle
  · rw [min_eq_left hle, max_eq_right hle]
    refine ⟨.inl, fun heq => heq.resolve_right ?_⟩
    rintro ⟨rfl, rfl⟩
    exact absurd h (not_lt.mpr hle)
  · rw [min_eq_right hle, max_eq_left hle, and_comm]
    refine ⟨.inr, fun heq => heq.resolve_left ?_⟩
    rintro ⟨rfl, rfl⟩
    exact absurd h (not_lt.mpr hle)

theorem scheduled_both_iff (hlinks : ∀ link, link ∈ schedules.values.flatten ↔
      link ∈ linksOf byNode terminalCounts feasibility link.nodeA) (hab : a < b) :
    (scheduledByPair (enforceSymmetricScheduling schedules)).getD (a, b) false = true ↔
      AmongFirst byNode feasibility a (terminalCounts.getD a 0) b ∧
        AmongFirst byNode feasibility b (terminalCounts.getD b 0) a := by
  have hpairs : ∀ x y, (x, y) ∈ scheduledPairs schedules ↔
      AmongFirst byNode feasibility x (terminalCounts.getD x 0) y := by
    intro x y
    rw [← taken_iff, mem_scheduledPairs]
    constructor
    · rintro ⟨link, hlink, hscheduled, rfl, rfl⟩
      exact ⟨link, (hlinks link).mp hlink, rfl, hscheduled⟩
    · rintro ⟨link, hlink, rfl, hscheduled⟩
      obtain rfl := nodeA_linksOf hlink
      exact ⟨link, (hlinks link).mpr hlink, hscheduled, rfl, rfl⟩
  rw [scheduledByPair_iff, enforced_links, ← hpairs, ← hpairs]
  simp only [List.mem_map, exists_exists_and_eq_and, forall_exists_index, and_imp,
    forall_apply_eq_imp_iff₂, linkPair_eq_iff hab, symmetric, Bool.and_eq_true, decide_eq_true_eq]
  constructor
  · rintro ⟨⟨link, hlink, hends⟩, hall⟩
    obtain ⟨hscheduled, hback⟩ := hall link hlink hends
    have hforth := mem_scheduledPairs.mpr ⟨link, hlink, hscheduled, rfl, rfl⟩
    rcases hends with ⟨rfl, rfl⟩ | ⟨rfl, rfl⟩
    · exact ⟨hforth, hback⟩
    · exact ⟨hback, hforth⟩
  · -- each end has one link of the pair, the one it takes
    rintro ⟨hforth, hback⟩
    have hone : ∀ {x y link}, (x, y) ∈ scheduledPairs schedules → link ∈ schedules.values.flatten →
        link.nodeA = x → link.nodeB = y → link.scheduled = true := by
      rintro _ _ link htaken hlink rfl rfl
      obtain ⟨taken, hmem, hscheduled, hnode, hpeer⟩ := mem_scheduledPairs.mp htaken
      rw [hlinks] at hmem hlink
      rw [hnode] at hmem
      rwa [linksOf_unique hlink hmem hpeer.symm]
    obtain ⟨taken, hmem, -, hnode, hpeer⟩ := mem_scheduledPairs.mp hforth
    refine ⟨⟨taken, hmem, .inl ⟨hnode, hpeer⟩⟩, fun link hlink hends => ?_⟩
    rcases hends with ⟨rfl, rfl⟩ | ⟨rfl, rfl⟩
    · exact ⟨hone hforth hlink rfl rfl, hback⟩
    · exact ⟨hone hback hlink rfl rfl, hforth⟩

theorem scheduledIsl_scheduled {scheduled : Dict (Node × Node) Bool}
    {result : IslFeasibilityResult} : (scheduledIsl scheduled pair result).scheduled = true ↔
      result.feasible = true ∧ scheduled.getD pair false = true := by
  rw [scheduledIsl]
  cases result.feasible <;> simp

def scheduledAt (links : Dict (Node × Node) (ScheduledIsl Node)) (node : Node) : List (Node × Node) :=
  (links.entries.filter fun entry => entry.2.scheduled ∧ (entry.1.1 = node ∨ entry.1.2 = node)).map Prod.fst

def otherEnd (node : Node) (pair : Node × Node) : Node := if pair.1 = node then pair.2 else pair.1

theorem scheduledAt_length_le {links : Dict (Node × Node) (ScheduledIsl Node)}
    (hordered : ∀ pair ∈ links, pair.1 < pair.2)
    (hlinks : ∀ pair ∈ scheduledAt links node, AmongFirst byNode feasibility node terminalCount
      (otherEnd node pair)) : ((scheduledAt links node).length : Int) ≤ max terminalCount 0 := by
  have hmem : ∀ pair ∈ scheduledAt links node, pair.1 < pair.2 ∧ (pair.1 = node ∨ pair.2 = node) := by
    intro pair hpair
    obtain ⟨entry, hentry, rfl⟩ := List.mem_map.mp hpair
    obtain ⟨hentry, hends⟩ := List.mem_filter.mp hentry
    exact ⟨hordered _ (List.mem_map.mpr ⟨entry, hentry, rfl⟩), (of_decide_eq_true hends).2⟩
  have hnodup : ((scheduledAt links node).map (otherEnd node)).Nodup := by
    refine List.Nodup.map_on ?_ (links.nodup.sublist (List.filter_sublist.map _))
    intro pair hpair pair' hpair' heq
    obtain ⟨hlt, hend⟩ := hmem pair hpair
    obtain ⟨hlt', hend'⟩ := hmem pair' hpair'
    obtain ⟨a, b⟩ := pair
    obtain ⟨a', b'⟩ := pair'
    simp only [otherEnd] at heq hlt hlt' hend hend'
    split_ifs at heq with ha ha' ha'
    · rw [ha, ha', heq]
    · rw [ha, heq] at hlt
      rw [hend'.resolve_left ha'] at hlt'
      exact absurd hlt (lt_asymm hlt')
    · rw [hend.resolve_left ha, heq] at hlt
      rw [ha'] at hlt'
      exact absurd hlt (lt_asymm hlt')
    · rw [heq, hend.resolve_left ha, hend'.resolve_left ha']
  have hsubset : (scheduledAt links node).map (otherEnd node) ⊆
      ((sortOn FeasibleIsl.priority (feasibleIsls byNode feasibility node)).take terminalCount.toNat).map
        FeasibleIsl.peer := by
    intro peer hpeer
    obtain ⟨pair, hpair, rfl⟩ := List.mem_map.mp hpeer
    exact List.mem_map.mpr (amongFirst_iff.mp (hlinks pair hpair))
  have hlength := (List.subperm_of_subset hnodup hsubset).length_le
  rw [List.length_map, List.length_map, List.length_take] at hlength
  omega

/-- A feasible link is scheduled exactly when it is among the first links of both of its ends, as many
as they have terminals. -/
theorem scheduled_iff_among_first (byNode : Dict Node (List (NeighborAssignment Node)))
    (h : Counted terminalCounts feasibility) :
    ∃ links, scheduleIslLinks byNode feasibility terminalCounts = .ok links ∧
      (∀ a b result, feasibility.results.get? (a, b) = some result →
        ∃ link, links.get? (a, b) = some link ∧
          (link.scheduled = true ↔ result.feasible = true ∧
            AmongFirst byNode feasibility a (terminalCounts.getD a 0) b ∧
            AmongFirst byNode feasibility b (terminalCounts.getD b 0) a) ∧
          (link.unscheduledReason = some .capacity ↔ result.feasible = true ∧ link.scheduled = false)) ∧
      ∀ node, ((scheduledAt links node).length : Int) ≤ max (terminalCounts.getD node 0) 0 := by
  obtain ⟨schedules, hschedules, hlinks⟩ := allIslSchedules_ok byNode h
  refine ⟨_, by rw [scheduleIslLinks, hschedules]; rfl, fun a b result hresult => ?_, fun node => ?_⟩
  · have hab := feasibility.ordered _ (Dict.mem_of_get? hresult)
    refine ⟨_, by rw [Dict.get?_mapValues, hresult]; rfl, ?_, ?_⟩
    · rw [scheduledIsl_scheduled, scheduled_both_iff hlinks hab]
    · simp only [scheduledIsl]
      cases result.feasible <;> simp
  · have hordered : ∀ pair ∈ feasibility.results.mapValues
        (scheduledIsl (scheduledByPair (enforceSymmetricScheduling schedules))), pair.1 < pair.2 := by
      intro pair hpair
      obtain ⟨_, hlink⟩ := Dict.mem_iff.mp hpair
      rw [Dict.get?_mapValues, Option.map_eq_some_iff] at hlink
      obtain ⟨result, hresult, -⟩ := hlink
      exact feasibility.ordered pair (Dict.mem_of_get? hresult)
    have hfirst : ∀ pair ∈ scheduledAt (feasibility.results.mapValues
        (scheduledIsl (scheduledByPair (enforceSymmetricScheduling schedules)))) node,
        AmongFirst byNode feasibility node (terminalCounts.getD node 0) (otherEnd node pair) := by
      intro pair hpair
      obtain ⟨⟨⟨a, b⟩, link⟩, hentry, rfl⟩ := List.mem_map.mp hpair
      obtain ⟨hentry, hends⟩ := List.mem_filter.mp hentry
      obtain ⟨hscheduled, hends⟩ := of_decide_eq_true hends
      have hlink := Dict.get?_eq_some_iff.mpr hentry
      rw [Dict.get?_mapValues, Option.map_eq_some_iff] at hlink
      obtain ⟨result, hresult, rfl⟩ := hlink
      have hab := feasibility.ordered _ (Dict.mem_of_get? hresult)
      have hboth := (scheduled_both_iff hlinks hab).mp (scheduledIsl_scheduled.mp hscheduled).2
      rcases hends with rfl | rfl
      · simpa [otherEnd] using hboth.1
      · simpa [otherEnd, hab.ne] using hboth.2
    exact scheduledAt_length_le hordered hfirst

/-- A node with one terminal and two feasible links. -/
def fork : Feasibility Nat where
  results := Dict.ofList [((0, 1), ⟨true, 4000, 13, 13, .ok, none, none⟩),
    ((0, 2), ⟨true, 4000, 13, 13, .ok, none, none⟩), ((1, 2), ⟨false, 9000, 30, 30, .losBlocked, none, none⟩)]
  ordered := by decide

def forkAssignments : Dict Nat (List (NeighborAssignment Nat)) :=
  Dict.ofList [(0, [⟨1, 1⟩, ⟨2, 2⟩]), (1, [⟨0, 1⟩, ⟨2, 2⟩]), (2, [⟨0, 1⟩, ⟨1, 2⟩])]

def oneTerminal : Dict Nat Int := Dict.ofList [(0, 1), (1, 1), (2, 1)]

theorem fork_scheduled :
    ∃ links, scheduleIslLinks forkAssignments fork oneTerminal = .ok links ∧
      (scheduledAt links 0).length ≤ 1 ∧ AmongFirst forkAssignments fork 0 1 1 := by
  obtain ⟨links, hlinks, hscheduled, hcount⟩ :=
    scheduled_iff_among_first forkAssignments (show Counted oneTerminal fork by unfold Counted; decide)
  obtain ⟨link, hlink, hiff, -⟩ := hscheduled 0 1 _ rfl
  refine ⟨links, hlinks, Int.ofNat_le.mp (hcount 0), ?_⟩
  have hvalue : (scheduleIslLinks forkAssignments fork oneTerminal).toOption.bind
      (fun links => (links.get? (0, 1)).map ScheduledIsl.scheduled) = some true := by decide
  rw [hlinks] at hvalue
  simp only [Except.toOption, Option.bind_some, hlink, Option.map_some, Option.some.injEq] at hvalue
  exact (hiff.mp hvalue).2.1

end NodalArc.IslScheduling
