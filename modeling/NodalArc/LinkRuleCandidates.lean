import NodalArc.OrderedDict
import NodalArc.StableSort
import NodalArc.StatefulProgram

/-! The candidate pairs that link rules declare: the pairs of nodes a rule joins, those of them its
topology keeps, and the one rule that owns a pair. -/

namespace NodalArc.LinkRuleCandidates

open OrderedDict
open StableSort
open StatefulProgram

inductive LinkLabel
  | access | isl | interBody
deriving DecidableEq, Repr

inductive MountRole
  | access | isl | crosslink | backbone
deriving DecidableEq, Repr

inductive TerminalMedium
  | rf | optical
deriving DecidableEq, Repr

inductive TopologyMode
  | visibleCandidates | nearestVisible | nearestN | explicitPairs
deriving DecidableEq, Repr

structure ExplicitPair (Id : Type) where
  a : Id
  b : Id
  a_ne_b : a ≠ b
deriving DecidableEq

inductive LinkTopology (Id : Type)
  | visibleCandidates
  | nearestVisible
  | nearestN (n : Nat) (pos : 0 < n)
  | explicitPairs (pairs : List (ExplicitPair Id))

def LinkTopology.mode {Id : Type} : LinkTopology Id → TopologyMode
  | visibleCandidates => .visibleCandidates
  | nearestVisible => .nearestVisible
  | nearestN .. => .nearestN
  | explicitPairs _ => .explicitPairs

structure ResolvedEndpoint (Id : Type) where
  segmentId : Id
  terminalRole : MountRole
  terminalMedium : Option TerminalMedium
  nodeIds : List Id
  nodup : nodeIds.Nodup

structure ResolvedLinkRule (Id : Type) where
  ruleId : Id
  kind : LinkLabel
  enabled : Bool
  left : ResolvedEndpoint Id
  right : ResolvedEndpoint Id
  topology : LinkTopology Id

structure ResolvedTerminalBlock (Id : Type) where
  terminalId : Id
  endpointRole : MountRole
  medium : TerminalMedium

structure ResolvedWanInterface (Id : Type) where
  name : String
  terminalId : Id

structure ResolvedNode (Id : Type) where
  nodeId : Id
  localNodeId : Id
  segmentId : Id
  groundStation : Bool
  referenceBody : Option Id
  terminalInventory : List (ResolvedTerminalBlock Id)
  wanInterfaces : List (ResolvedWanInterface Id)

/-- What the session's own validation guarantees of its nodes and rules. -/
structure ResolvedSession (Id : Type) where
  nodes : List (ResolvedNode Id)
  linkRules : List (ResolvedLinkRule Id)
  nodeIds_nodup : (nodes.map ResolvedNode.nodeId).Nodup
  ruleIds_nodup : (linkRules.map ResolvedLinkRule.ruleId).Nodup

structure DeclaredLinkCandidate (Id : Type) where
  pair : Id × Id
  ruleId : Id
  kind : LinkLabel
  terminalRoles : MountRole × MountRole
  terminalMedium : Option TerminalMedium
  topologyMode : TopologyMode
  priority : Nat
  endpointSegments : Id × Id
deriving DecidableEq

inductive CandidateError (Id : Type)
  | unresolvedPair (ruleId : Id) (item : ExplicitPair Id)
  | outsideSelectors (ruleId : Id) (item : ExplicitPair Id)
  | dynamicTopology (ruleId : Id)
  | noRanking (ruleId : Id)
  | unranked (ruleId : Id) (pair : Id × Id)
  | mixedMedia (ruleId : Id)
  | duplicatePair (ruleId : Id) (pair : Id × Id)
  | multipleRules (pair : Id × Id) (previousRule ruleId : Id)
deriving DecidableEq

variable {Id ρ : Type} [LinearOrder Id] [LinearOrder ρ]

def pairOf (a b : Id) : Id × Id := if a < b then (a, b) else (b, a)

def nodeById (s : ResolvedSession Id) (nodeId : Id) : Option (ResolvedNode Id) :=
  s.nodes.find? fun node => node.nodeId = nodeId

def localToRuntime (s : ResolvedSession Id) : Dict (Id × Id) Id :=
  Dict.ofList (s.nodes.map fun node => ((node.segmentId, node.localNodeId), node.nodeId))

/-- A node's place in tie-breaks. Every id a rule names is one of a node, so that the second case
is not met. -/
def rankKey (s : ResolvedSession Id) (nodeId : Id) : Id ×ₗ Id :=
  match nodeById s nodeId with
  | some node => toLex (node.segmentId, node.localNodeId)
  | none => toLex (nodeId, nodeId)

/-- One round of the loop of `_explicit_runtime_pairs`: the names are looked up the other way round
only when one of them is unknown the first way. -/
def explicitRuntimePair (rule : ResolvedLinkRule Id) (runtime : Dict (Id × Id) Id)
    (item : ExplicitPair Id) : Except (CandidateError Id) (Id × Id) :=
  match runtime.get? (rule.left.segmentId, item.a), runtime.get? (rule.right.segmentId, item.b) with
  | some a, some b =>
      if a ∈ rule.left.nodeIds ∧ b ∈ rule.right.nodeIds ∨
          a ∈ rule.right.nodeIds ∧ b ∈ rule.left.nodeIds then .ok (pairOf a b)
      else .error (.outsideSelectors rule.ruleId item)
  | _, _ =>
      match runtime.get? (rule.right.segmentId, item.a), runtime.get? (rule.left.segmentId, item.b) with
      | some a, some b =>
          if a ∈ rule.right.nodeIds ∧ b ∈ rule.left.nodeIds then .ok (pairOf a b)
          else .error (.outsideSelectors rule.ruleId item)
      | _, _ => .error (.unresolvedPair rule.ruleId item)

def explicitRuntimePairs (rule : ResolvedLinkRule Id) (runtime : Dict (Id × Id) Id)
    (pairs : List (ExplicitPair Id)) : Except (CandidateError Id) (List (Id × Id)) :=
  pairs.mapM (explicitRuntimePair rule runtime)

def crossProductPairs (rule : ResolvedLinkRule Id) : List (Id × Id) :=
  rule.left.nodeIds.flatMap fun a => (rule.right.nodeIds.filter (a ≠ ·)).map (pairOf a)

/-- One round of the greedy choice of `nearest_n`: a pair is kept when both of its nodes have
fewer than `n` kept pairs. -/
def keepNearest (n : Nat) (kept : List (Id × Id) × Dict Id Nat) (pair : Id × Id) :
    List (Id × Id) × Dict Id Nat :=
  if kept.2.getD pair.1 0 ≥ n ∨ kept.2.getD pair.2 0 ≥ n then kept
  else
    let degree := kept.2.insert pair.1 (kept.2.getD pair.1 0 + 1)
    (kept.1 ++ [pair], degree.insert pair.2 (degree.getD pair.2 0 + 1))

/-- The order in which `nearest_n` considers pairs: by rank, then by their nodes. -/
def nearestKey (s : ResolvedSession Id) (ranked : ρ × (Id × Id)) :
    ρ ×ₗ (Id ×ₗ Id) ×ₗ (Id ×ₗ Id) ×ₗ Id ×ₗ Id :=
  toLex (ranked.1, toLex (rankKey s ranked.2.1, toLex (rankKey s ranked.2.2, toLex ranked.2)))

def pairKey (s : ResolvedSession Id) (pair : Id × Id) : (Id ×ₗ Id) ×ₗ Id ×ₗ Id :=
  toLex (rankKey s pair.1, rankKey s pair.2)

def applyStaticTopology (s : ResolvedSession Id) (rule : ResolvedLinkRule Id)
    (pairs : List (Id × Id)) (pairRank : Option (Id × Id → Option ρ)) :
    Except (CandidateError Id) (List ((Id × Id) × Nat)) :=
  let unique := sortOn (pairKey s) pairs.dedup
  match rule.topology with
  | .visibleCandidates | .explicitPairs _ => .ok unique.zipIdx
  | .nearestVisible => .error (.dynamicTopology rule.ruleId)
  | .nearestN n _ =>
      match pairRank with
      | none => .error (.noRanking rule.ruleId)
      | some rank => do
          let ranked ← unique.mapM fun pair =>
            match rank pair with
            | some r => .ok (r, pair)
            | none => .error (.unranked rule.ruleId pair)
          let kept := (((sortOn (nearestKey s) ranked).map Prod.snd).foldl (keepNearest n) ([], ∅)).1
          return (sortOn (fun pair => toLex (pairKey s pair, toLex pair)) kept).zipIdx

def rawPairs (s : ResolvedSession Id) (rule : ResolvedLinkRule Id) :
    Except (CandidateError Id) (List (Id × Id)) :=
  match rule.topology with
  | .explicitPairs pairs => explicitRuntimePairs rule (localToRuntime s) pairs
  | _ => .ok (crossProductPairs rule)

/-- The pairs of one rule, with their priorities: none when it is not enabled. -/
def rulePairs (s : ResolvedSession Id) (pairRank : Option (Id × Id → Option ρ))
    (rule : ResolvedLinkRule Id) : Except (CandidateError Id) (List ((Id × Id) × Nat)) := do
  if !rule.enabled then return []
  if rule.left.terminalMedium.any fun medium => rule.right.terminalMedium.any (· ≠ medium) then
    throw (.mixedMedia rule.ruleId)
  applyStaticTopology s rule (← rawPairs s rule) pairRank

def candidateOf (rule : ResolvedLinkRule Id) (item : (Id × Id) × Nat) : DeclaredLinkCandidate Id where
  pair := item.1
  ruleId := rule.ruleId
  kind := rule.kind
  terminalRoles := (rule.left.terminalRole, rule.right.terminalRole)
  terminalMedium := rule.left.terminalMedium.or rule.right.terminalMedium
  topologyMode := rule.topology.mode
  priority := item.2
  endpointSegments := (rule.left.segmentId, rule.right.segmentId)

/-- The variables of the loop over the rules. -/
structure Generation (Id : Type) where
  candidates : List (DeclaredLinkCandidate Id) := []
  seenPairsByRule : List (Id × (Id × Id)) := []
  pairOwner : Dict (Id × Id) Id := ∅

def declarePair (rule : ResolvedLinkRule Id) (g : Generation Id) (item : (Id × Id) × Nat) :
    Except (CandidateError Id) (Generation Id) :=
  if (rule.ruleId, item.1) ∈ g.seenPairsByRule then .error (.duplicatePair rule.ruleId item.1)
  else match g.pairOwner.get? item.1 with
    | some previousRule => .error (.multipleRules item.1 previousRule rule.ruleId)
    | none => .ok
        { candidates := g.candidates ++ [candidateOf rule item]
          seenPairsByRule := (rule.ruleId, item.1) :: g.seenPairsByRule
          pairOwner := g.pairOwner.insert item.1 rule.ruleId }

def declareRule (s : ResolvedSession Id) (pairRank : Option (Id × Id → Option ρ)) (g : Generation Id)
    (rule : ResolvedLinkRule Id) : Except (CandidateError Id) (Generation Id) := do
  (← rulePairs s pairRank rule).foldlM (declarePair rule) g

def generateDeclaredLinkCandidates (s : ResolvedSession Id)
    (pairRank : Option (Id × Id → Option ρ)) :
    Except (CandidateError Id) (List (DeclaredLinkCandidate Id)) := do
  return (← s.linkRules.foldlM (declareRule s pairRank) {}).candidates

structure CandidateLimits where
  maxPairsPerRule : Nat
  maxPairsPerTick : Nat

variable {limits : CandidateLimits}

inductive LimitError (Id : Type)
  | limitsRequired
  | ruleBound (ruleId : Id) (bound : Nat)
  | aggregateBound (bound : Nat)
  | ruleCounts (oversized : List (Id × Nat))
  | totalCount (total : Nat)
deriving DecidableEq

/-- The most pairs a rule can declare; the check skips a rule that is not enabled and a topology
that the generation refuses. -/
def staticBound (rule : ResolvedLinkRule Id) : Nat :=
  if rule.enabled then
    match rule.topology with
    | .visibleCandidates => rule.left.nodeIds.length * rule.right.nodeIds.length
    | .nearestN n _ => max rule.left.nodeIds.length rule.right.nodeIds.length * n
    | .explicitPairs pairs => pairs.length
    | .nearestVisible => 0
  else 0

def addBound (limits : CandidateLimits) (aggregateBound : Nat) (rule : ResolvedLinkRule Id) :
    Except (LimitError Id) Nat :=
  if staticBound rule > limits.maxPairsPerRule then .error (.ruleBound rule.ruleId (staticBound rule))
  else .ok (aggregateBound + staticBound rule)

/-- `segments` is the number of segments of the session. -/
def enforceDeclaredCandidateBounds (limits : Option CandidateLimits) (segments : Nat)
    (rules : List (ResolvedLinkRule Id)) : Except (LimitError Id) Unit :=
  match limits with
  | none => if segments > 1 ∧ rules.length > 0 then .error .limitsRequired else .ok ()
  | some limits => do
      let aggregateBound ← rules.foldlM (addBound limits) 0
      if aggregateBound > limits.maxPairsPerTick then throw (.aggregateBound aggregateBound)

/-- The check after materialisation, on the rules of the produced candidates. -/
def enforceCandidateLimits (limits : Option CandidateLimits) (ruleIds : List Id) :
    Except (LimitError Id) Unit :=
  match limits with
  | none => .ok ()
  | some limits =>
      let oversized := (ruleIds.dedup.map fun ruleId => (ruleId, ruleIds.count ruleId)).filter
        fun counted => counted.2 > limits.maxPairsPerRule
      if oversized ≠ [] then .error (.ruleCounts oversized)
      else if ruleIds.length > limits.maxPairsPerTick then .error (.totalCount ruleIds.length)
      else .ok ()

section Greedy

def touches (nodeId : Id) (pair : Id × Id) : Bool := pair.1 = nodeId ∨ pair.2 = nodeId

/-- What the greedy choice has made of the pairs it has seen: a refused pair has a node whose `n`
kept pairs all came before it. -/
structure Greedy (n : Nat) (before : Id × Id → Id × Id → Prop) (seen : List (Id × Id))
    (kept : List (Id × Id) × Dict Id Nat) : Prop where
  degree : ∀ nodeId, kept.2.getD nodeId 0 = kept.1.countP (touches nodeId)
  capped : ∀ nodeId, kept.1.countP (touches nodeId) ≤ n
  kept_seen : kept.1 ⊆ seen
  refused : ∀ pair ∈ seen, pair ∉ kept.1 → ∃ nodeId, touches nodeId pair ∧
    kept.1.countP (touches nodeId) = n ∧ ∀ other ∈ kept.1, touches nodeId other → before other pair

variable {n : Nat} {before : Id × Id → Id × Id → Prop} {seen : List (Id × Id)}
  {kept : List (Id × Id) × Dict Id Nat}

theorem Greedy.step (h : Greedy n before seen kept) {pair : Id × Id} (hpair : pair.1 ≠ pair.2)
    (hlast : ∀ other ∈ seen, before other pair) :
    Greedy n before (seen ++ [pair]) (keepNearest n kept pair) := by
  have hafter : ∀ other ∈ kept.1, before other pair := fun other ho => hlast other (h.kept_seen ho)
  unfold keepNearest
  split
  case isTrue hfull =>
    refine ⟨h.degree, h.capped, fun p hp => List.mem_append_left _ (h.kept_seen hp), ?_⟩
    intro p hp hrefused
    rcases List.mem_append.mp hp with hp | hp
    · exact h.refused p hp hrefused
    · obtain rfl := List.mem_singleton.mp hp
      rw [h.degree, h.degree] at hfull
      rcases hfull with hfull | hfull
      · exact ⟨p.1, by simp [touches], (h.capped _).antisymm hfull, fun o ho _ => hafter o ho⟩
      · exact ⟨p.2, by simp [touches], (h.capped _).antisymm hfull, fun o ho _ => hafter o ho⟩
  case isFalse hfree =>
    rw [h.degree, h.degree] at hfree
    have hcount : ∀ nodeId, (kept.1 ++ [pair]).countP (touches nodeId) =
        kept.1.countP (touches nodeId) + if touches nodeId pair then 1 else 0 := by
      intro nodeId
      rw [List.countP_append, List.countP_singleton]
    refine ⟨fun nodeId => ?_, fun nodeId => ?_, ?_, ?_⟩
    · rw [hcount, ← h.degree]
      simp only [Dict.getD, Dict.get?_insert, touches]
      grind
    · rw [hcount]
      have := h.capped nodeId
      simp only [touches]
      grind
    · intro p hp
      rcases List.mem_append.mp hp with hp | hp
      · exact List.mem_append_left _ (h.kept_seen hp)
      · exact List.mem_append_right _ hp
    · intro p hp hrefused
      obtain ⟨hold, hnew⟩ := not_or.mp (mt List.mem_append.mpr hrefused)
      have hp := (List.mem_append.mp hp).resolve_right hnew
      obtain ⟨nodeId, htouch, hfull, hbefore⟩ := h.refused p hp hold
      -- a node with `n` kept pairs gets no other one
      have hother : ¬ touches nodeId pair := by
        simp only [touches, decide_eq_true_eq]
        rintro (rfl | rfl)
        · exact hfree (.inl hfull.ge)
        · exact hfree (.inr hfull.ge)
      refine ⟨nodeId, htouch, by rw [hcount, if_neg hother, Nat.add_zero, hfull], ?_⟩
      intro other ho hto
      rcases List.mem_append.mp ho with ho | ho
      · exact hbefore other ho hto
      · exact absurd (List.mem_singleton.mp ho ▸ hto) hother

theorem Greedy.foldl {todo : List (Id × Id)} (h : Greedy n before seen kept)
    (hpairs : ∀ pair ∈ todo, pair.1 ≠ pair.2) (hsorted : (seen ++ todo).Pairwise before) :
    Greedy n before (seen ++ todo) (todo.foldl (keepNearest n) kept) := by
  induction todo generalizing seen kept with
  | nil => simpa using h
  | cons pair todo ih =>
    have hlast : ∀ other ∈ seen, before other pair := fun other ho =>
      (List.pairwise_append.mp hsorted).2.2 other ho pair List.mem_cons_self
    have hstep := h.step (hpairs pair List.mem_cons_self) hlast
    rw [List.append_cons] at hsorted ⊢
    exact ih hstep (fun p hp => hpairs p (List.mem_cons_of_mem _ hp)) hsorted

theorem greedy_nil : Greedy n before [] ([], ∅) :=
  ⟨fun _ => rfl, fun _ => Nat.zero_le n, fun _ h => h, fun _ h => nomatch h⟩

end Greedy

section Pairs

variable {s : ResolvedSession Id} {rule : ResolvedLinkRule Id} {n : Nat} {pair : Id × Id}
  {pairs : List (Id × Id)} {items : List ((Id × Id) × Nat)} {pairRank : Option (Id × Id → Option ρ)}

theorem exists_of_mem_crossProductPairs (h : pair ∈ crossProductPairs rule) :
    ∃ a ∈ rule.left.nodeIds, ∃ b ∈ rule.right.nodeIds, a ≠ b ∧ pairOf a b = pair := by
  simpa [crossProductPairs, and_assoc] using h

theorem pairOf_fst_ne_snd {a b : Id} (h : a ≠ b) : (pairOf a b).1 ≠ (pairOf a b).2 := by
  unfold pairOf
  split
  · exact h
  · exact h.symm

theorem touches_pairOf {a b : Id} : touches a (pairOf a b) := by
  unfold pairOf touches
  split <;> simp

/-- One pair is considered no later than another: its rank is smaller, or it is the same and the
nodes decide. -/
def NoLater (s : ResolvedSession Id) (pairRank : Option (Id × Id → Option ρ)) (other pair : Id × Id) :
    Prop :=
  ∃ rank r r', pairRank = some rank ∧ rank other = some r ∧ rank pair = some r' ∧
    nearestKey s (r, other) ≤ nearestKey s (r', pair)

theorem greedy_of_applyStaticTopology {pos : 0 < n} (htopology : rule.topology = .nearestN n pos)
    (hpairs : ∀ pair ∈ pairs, pair.1 ≠ pair.2)
    (h : applyStaticTopology s rule pairs pairRank = .ok items) :
    ∃ seen kept, (∀ pair, pair ∈ seen ↔ pair ∈ pairs) ∧ kept.1.Perm (items.map Prod.fst) ∧
      Greedy n (NoLater s pairRank) seen kept := by
  simp only [applyStaticTopology, htopology] at h
  cases pairRank with
  | none => cases h
  | some rank =>
    obtain ⟨ranked, hranked, h⟩ := bind_eq_ok_iff.mp h
    cases h
    have hkeeps : ranked.map Prod.snd = (sortOn (pairKey s) pairs.dedup).map id :=
      map_eq_of_mapM hranked fun pair _ ranked h => by split at h <;> cases h; rfl
    have hrank : ∀ x ∈ ranked, rank x.2 = some x.1 := by
      intro x hx
      obtain ⟨pair, -, h⟩ := exists_of_mem_mapM hranked hx
      split at h <;> cases h
      assumption
    have hsub : ∀ x ∈ sortOn (nearestKey s) ranked, rank x.2 = some x.1 := fun x hx =>
      hrank x (sortOn_perm.mem_iff.mp hx)
    have hmem : ∀ pair, pair ∈ (sortOn (nearestKey s) ranked).map Prod.snd ↔ pair ∈ pairs := by
      intro pair
      rw [(sortOn_perm.map Prod.snd).mem_iff, hkeeps, List.map_id, sortOn_perm.mem_iff,
        List.mem_dedup]
    refine ⟨_, _, hmem, ?_, greedy_nil.foldl (fun pair hp => hpairs pair ((hmem pair).mp hp)) ?_⟩
    · rw [List.zipIdx_map_fst]
      exact sortOn_perm.symm
    · rw [List.nil_append, List.pairwise_map]
      refine pairwise_sortOn.imp_of_mem fun {x y} hx hy hle => ?_
      exact ⟨rank, x.1, y.1, rfl, hsub x hx, hsub y hy, hle⟩

theorem length_le_of_touches {nodeIds : List Id} (hcap : ∀ nodeId, pairs.countP (touches nodeId) ≤ n)
    (htouch : ∀ pair ∈ pairs, ∃ nodeId ∈ nodeIds, touches nodeId pair) :
    pairs.length ≤ nodeIds.length * n := by
  induction nodeIds generalizing pairs with
  | nil =>
    cases pairs with
    | nil => exact Nat.zero_le _
    | cons pair _ => obtain ⟨_, h, -⟩ := htouch pair List.mem_cons_self; cases h
  | cons nodeId nodeIds ih =>
    have hrest := @ih (pairs.filter fun pair => !touches nodeId pair)
      (fun other => (List.filter_sublist.countP_le).trans (hcap other))
      (fun pair hp => by
        obtain ⟨hp, hnot⟩ := List.mem_filter.mp hp
        obtain ⟨other, ho, ht⟩ := htouch pair hp
        refine ⟨other, (List.mem_cons.mp ho).resolve_left fun heq => ?_, ht⟩
        rw [heq] at ht
        simp [ht] at hnot)
    have hsplit := List.length_eq_countP_add_countP (touches nodeId) (l := pairs)
    have hcount := hcap nodeId
    rw [← List.countP_eq_length_filter] at hrest
    rw [List.length_cons, Nat.succ_mul]
    simp only [Bool.not_eq_true, Bool.decide_eq_false] at hsplit
    omega

theorem length_crossProductPairs_le :
    (crossProductPairs rule).length ≤ rule.left.nodeIds.length * rule.right.nodeIds.length := by
  rw [crossProductPairs, List.length_flatMap]
  have hrow : ∀ k ∈ rule.left.nodeIds.map fun a =>
      ((rule.right.nodeIds.filter (a ≠ ·)).map (pairOf a)).length, k ≤ rule.right.nodeIds.length := by
    simp only [List.mem_map, List.length_map]
    rintro _ ⟨a, -, rfl⟩
    exact List.length_filter_le _ _
  simpa using List.sum_le_card_nsmul _ _ hrow

theorem rulePairs_eq_ok (h : rulePairs s pairRank rule = .ok items) :
    rule.enabled = false ∧ items = [] ∨ rule.enabled = true ∧ ∃ pairs,
      rawPairs s rule = .ok pairs ∧ applyStaticTopology s rule pairs pairRank = .ok items := by
  unfold rulePairs at h
  cases henabled : rule.enabled with
  | false =>
    simp only [henabled] at h
    cases h
    exact .inl ⟨rfl, rfl⟩
  | true =>
    simp only [henabled, Bool.not_true, Bool.false_eq_true, if_false] at h
    split at h
    · cases h
    · obtain ⟨pairs, hraw, h⟩ := bind_eq_ok_iff.mp h
      exact .inr ⟨rfl, pairs, hraw, h⟩

theorem nearest_of_rulePairs {pos : 0 < n} (htopology : rule.topology = .nearestN n pos)
    (henabled : rule.enabled = true) (h : rulePairs s pairRank rule = .ok items) :
    ∃ seen kept, (∀ pair, pair ∈ seen ↔ pair ∈ crossProductPairs rule) ∧
      kept.1.Perm (items.map Prod.fst) ∧ Greedy n (NoLater s pairRank) seen kept := by
  obtain ⟨hdisabled, -⟩ | ⟨-, pairs, hraw, h⟩ := rulePairs_eq_ok h
  · rw [henabled] at hdisabled
    cases hdisabled
  · simp only [rawPairs, htopology] at hraw
    cases hraw
    refine greedy_of_applyStaticTopology htopology (fun pair hp => ?_) h
    obtain ⟨a, -, b, -, hne, rfl⟩ := exists_of_mem_crossProductPairs hp
    exact pairOf_fst_ne_snd hne

theorem length_rulePairs_le (h : rulePairs s pairRank rule = .ok items) :
    items.length ≤ staticBound rule := by
  obtain ⟨-, rfl⟩ | ⟨henabled, pairs, hraw, happly⟩ := rulePairs_eq_ok h
  · exact Nat.zero_le _
  have hunique : (sortOn (pairKey s) pairs.dedup).zipIdx.length ≤ pairs.length := by
    rw [List.length_zipIdx, sortOn_perm.length_eq]
    exact (List.dedup_sublist _).length_le
  rw [staticBound, if_pos henabled]
  cases htopology : rule.topology with
  | visibleCandidates =>
    simp only [applyStaticTopology, rawPairs, htopology] at happly hraw
    cases happly
    cases hraw
    exact hunique.trans length_crossProductPairs_le
  | nearestVisible =>
    simp only [applyStaticTopology, htopology] at happly
    cases happly
  | nearestN n pos =>
    obtain ⟨seen, kept, hseen, hkept, hgreedy⟩ := nearest_of_rulePairs htopology henabled h
    have hlength : kept.1.length ≤ rule.left.nodeIds.length * n := by
      refine length_le_of_touches hgreedy.capped fun pair hp => ?_
      have hp := (hseen pair).mp (hgreedy.kept_seen hp)
      obtain ⟨a, ha, b, -, -, rfl⟩ := exists_of_mem_crossProductPairs hp
      exact ⟨a, ha, touches_pairOf⟩
    calc items.length = kept.1.length := by rw [hkept.length_eq, List.length_map]
      _ ≤ rule.left.nodeIds.length * n := hlength
      _ ≤ _ := Nat.mul_le_mul_right n (le_max_left _ _)
  | explicitPairs authored =>
    simp only [applyStaticTopology, rawPairs, htopology] at happly hraw
    cases happly
    have hlength : (pairs.map fun _ => ()) = authored.map fun _ => () :=
      map_eq_of_mapM hraw fun _ _ _ _ => rfl
    have hlength := congrArg List.length hlength
    rw [List.length_map, List.length_map] at hlength
    exact hunique.trans hlength.le

end Pairs

/-- Every candidate's pair has an owner, and no pair is there twice. -/
structure Owned (g : Generation Id) : Prop where
  nodup : (g.candidates.map DeclaredLinkCandidate.pair).Nodup
  owner : ∀ candidate ∈ g.candidates, candidate.pair ∈ g.pairOwner

section Generation

variable {s : ResolvedSession Id} {pairRank : Option (Id × Id → Option ρ)} {g g' : Generation Id}
  {rule : ResolvedLinkRule Id} {rules : List (ResolvedLinkRule Id)} {items : List ((Id × Id) × Nat)}
  {candidates : List (DeclaredLinkCandidate Id)}

def declared (s : ResolvedSession Id) (pairRank : Option (Id × Id → Option ρ))
    (rule : ResolvedLinkRule Id) : List (DeclaredLinkCandidate Id) :=
  match rulePairs s pairRank rule with
  | .ok items => items.map (candidateOf rule)
  | .error _ => []

theorem declarePair_eq_ok {item : (Id × Id) × Nat} (h : declarePair rule g item = .ok g')
    (hg : Owned g) : Owned g' ∧ g'.candidates = g.candidates ++ [candidateOf rule item] := by
  unfold declarePair at h
  split at h
  · cases h
  split at h
  · cases h
  case h_2 hfree =>
    cases h
    refine ⟨⟨?_, ?_⟩, rfl⟩
    · rw [List.map_append, List.nodup_append]
      refine ⟨hg.nodup, List.nodup_singleton _, ?_⟩
      rintro pair hp _ hnew rfl
      obtain ⟨candidate, hc, rfl⟩ := List.mem_map.mp hp
      obtain heq : candidate.pair = item.1 := by simpa [candidateOf] using hnew
      exact Dict.get?_eq_none_iff.mp hfree (heq ▸ hg.owner candidate hc)
    · intro candidate hc
      rw [Dict.mem_insert]
      rcases List.mem_append.mp hc with hc | hc
      · exact .inr (hg.owner candidate hc)
      · exact .inl (by rw [List.mem_singleton.mp hc]; rfl)

theorem foldlM_declarePair (h : items.foldlM (declarePair rule) g = .ok g') (hg : Owned g) :
    Owned g' ∧ g'.candidates = g.candidates ++ items.map (candidateOf rule) := by
  induction items generalizing g with
  | nil =>
    obtain rfl : g = g' := by simpa [pure, Except.pure] using h
    exact ⟨hg, (List.append_nil _).symm⟩
  | cons item items ih =>
    rw [List.foldlM_cons] at h
    obtain ⟨g₁, hstep, h⟩ := bind_eq_ok_iff.mp h
    obtain ⟨hg₁, hfirst⟩ := declarePair_eq_ok hstep hg
    obtain ⟨hg', hrest⟩ := ih h hg₁
    exact ⟨hg', by rw [hrest, hfirst, List.map_cons, List.append_assoc, List.singleton_append]⟩

theorem foldlM_declareRule (h : rules.foldlM (declareRule s pairRank) g = .ok g') (hg : Owned g) :
    Owned g' ∧ g'.candidates = g.candidates ++ rules.flatMap (declared s pairRank) ∧
      ∀ rule ∈ rules, ∃ items, rulePairs s pairRank rule = .ok items := by
  induction rules generalizing g with
  | nil =>
    obtain rfl : g = g' := by simpa [pure, Except.pure] using h
    exact ⟨hg, (List.append_nil _).symm, List.forall_mem_nil _⟩
  | cons rule rules ih =>
    rw [List.foldlM_cons] at h
    obtain ⟨g₁, hstep, h⟩ := bind_eq_ok_iff.mp h
    obtain ⟨items, hitems, hstep⟩ := bind_eq_ok_iff.mp hstep
    obtain ⟨hg₁, hfirst⟩ := foldlM_declarePair hstep hg
    obtain ⟨hg', hrest, hrules⟩ := ih h hg₁
    refine ⟨hg', ?_, List.forall_mem_cons.mpr ⟨⟨items, hitems⟩, hrules⟩⟩
    rw [hrest, hfirst, List.flatMap_cons, declared, hitems, List.append_assoc]

def pairsOf (candidates : List (DeclaredLinkCandidate Id)) (ruleId : Id) : List (Id × Id) :=
  (candidates.filter (·.ruleId = ruleId)).map DeclaredLinkCandidate.pair

theorem ruleId_of_mem_declared {candidate : DeclaredLinkCandidate Id}
    (h : candidate ∈ declared s pairRank rule) : candidate.ruleId = rule.ruleId := by
  unfold declared at h
  split at h
  · obtain ⟨item, -, rfl⟩ := List.mem_map.mp h
    rfl
  · cases h

theorem filter_declared (hrules : (rules.map ResolvedLinkRule.ruleId).Nodup) (hrule : rule ∈ rules) :
    (rules.flatMap (declared s pairRank)).filter (·.ruleId = rule.ruleId) = declared s pairRank rule := by
  obtain ⟨before, after, rfl⟩ := List.append_of_mem hrule
  have hothers : ∀ others : List (ResolvedLinkRule Id), (∀ other ∈ others, other.ruleId ≠ rule.ruleId) →
      (others.flatMap (declared s pairRank)).filter (·.ruleId = rule.ruleId) = [] := by
    intro others hne
    refine List.filter_eq_nil_iff.mpr fun candidate hc => ?_
    obtain ⟨other, ho, hc⟩ := List.mem_flatMap.mp hc
    simpa [ruleId_of_mem_declared hc] using hne other ho
  have hown : (declared s pairRank rule).filter (·.ruleId = rule.ruleId) = declared s pairRank rule :=
    List.filter_eq_self.mpr fun candidate hc => by simpa using ruleId_of_mem_declared hc
  rw [List.map_append, List.map_cons, List.nodup_append] at hrules
  obtain ⟨-, hafter, hbefore⟩ := hrules
  rw [List.flatMap_append, List.flatMap_cons, List.filter_append, List.filter_append, hown,
    hothers before fun other ho =>
      hbefore _ (List.mem_map_of_mem ho) _ List.mem_cons_self,
    hothers after fun other ho heq =>
      (List.nodup_cons.mp hafter).1 (heq ▸ List.mem_map_of_mem ho), List.append_nil, List.nil_append]

theorem generate_eq_ok (h : generateDeclaredLinkCandidates s pairRank = .ok candidates) :
    (candidates.map DeclaredLinkCandidate.pair).Nodup ∧
      candidates = s.linkRules.flatMap (declared s pairRank) ∧
      ∀ rule ∈ s.linkRules, ∃ items, rulePairs s pairRank rule = .ok items := by
  obtain ⟨g, hg, h⟩ := bind_eq_ok_iff.mp h
  cases h
  obtain ⟨howned, hcandidates, hrules⟩ := foldlM_declareRule hg
    ⟨List.nodup_nil, List.forall_mem_nil _⟩
  exact ⟨howned.nodup, hcandidates, hrules⟩

theorem length_declared_le (h : ∃ items, rulePairs s pairRank rule = .ok items) :
    (declared s pairRank rule).length ≤ staticBound rule := by
  obtain ⟨items, h⟩ := h
  rw [declared, h, List.length_map]
  exact length_rulePairs_le h

omit [LinearOrder Id] in
theorem foldlM_addBound {start aggregate : Nat}
    (h : rules.foldlM (addBound limits) start = .ok aggregate) :
    (∀ rule ∈ rules, staticBound rule ≤ limits.maxPairsPerRule) ∧
      start + (rules.map staticBound).sum = aggregate := by
  induction rules generalizing start with
  | nil => exact ⟨List.forall_mem_nil _, by simpa [pure, Except.pure] using h⟩
  | cons rule rules ih =>
    rw [List.foldlM_cons] at h
    obtain ⟨next, hnext, h⟩ := bind_eq_ok_iff.mp h
    obtain ⟨hrules, hsum⟩ := ih h
    unfold addBound at hnext
    split at hnext <;> cases hnext
    rw [List.map_cons, List.sum_cons, ← Nat.add_assoc]
    exact ⟨List.forall_mem_cons.mpr ⟨not_lt.mp ‹_›, hrules⟩, hsum⟩

theorem within_limits {segments : Nat}
    (h : generateDeclaredLinkCandidates s pairRank = .ok candidates)
    (hbounds : enforceDeclaredCandidateBounds (some limits) segments s.linkRules = .ok ()) :
    (∀ ruleId, (pairsOf candidates ruleId).length ≤ limits.maxPairsPerRule) ∧
      candidates.length ≤ limits.maxPairsPerTick := by
  obtain ⟨-, hcandidates, hrules⟩ := generate_eq_ok h
  obtain ⟨aggregate, hfold, hbounds⟩ := bind_eq_ok_iff.mp hbounds
  obtain ⟨hrule, hsum⟩ := foldlM_addBound hfold
  constructor
  · intro ruleId
    rw [pairsOf, List.length_map]
    by_cases hknown : ∃ rule ∈ s.linkRules, rule.ruleId = ruleId
    · obtain ⟨rule, hmem, rfl⟩ := hknown
      rw [hcandidates, filter_declared s.ruleIds_nodup hmem]
      exact (length_declared_le (hrules rule hmem)).trans (hrule rule hmem)
    · have hnone : candidates.filter (·.ruleId = ruleId) = [] := by
        refine List.filter_eq_nil_iff.mpr fun candidate hc heq => ?_
        rw [hcandidates] at hc
        obtain ⟨rule, hmem, hc⟩ := List.mem_flatMap.mp hc
        exact hknown ⟨rule, hmem, (ruleId_of_mem_declared hc).symm.trans (of_decide_eq_true heq)⟩
      rw [hnone]
      exact Nat.zero_le _
  · have htotal : candidates.length ≤ (s.linkRules.map staticBound).sum := by
      rw [hcandidates, List.length_flatMap]
      exact List.sum_le_sum fun rule hmem => length_declared_le (hrules rule hmem)
    by_contra hlarge
    rw [if_pos (by omega)] at hbounds
    cases hbounds

theorem enforceCandidateLimits_eq_ok
    (hrule : ∀ ruleId, (pairsOf candidates ruleId).length ≤ limits.maxPairsPerRule)
    (htotal : candidates.length ≤ limits.maxPairsPerTick) :
    enforceCandidateLimits (some limits) (candidates.map DeclaredLinkCandidate.ruleId) = .ok () := by
  have hcount : ∀ ruleId, (candidates.map DeclaredLinkCandidate.ruleId).count ruleId =
      (pairsOf candidates ruleId).length := by
    intro ruleId
    rw [pairsOf, List.length_map, ← List.countP_eq_length_filter, List.count, List.countP_map]
    rfl
  simp only [enforceCandidateLimits]
  rw [if_neg, if_neg]
  · rw [List.length_map]
    exact not_lt.mpr htotal
  · rw [not_not, List.filter_eq_nil_iff]
    intro counted hc
    obtain ⟨ruleId, -, rfl⟩ := List.mem_map.mp hc
    simpa [hcount] using hrule ruleId

/-- Candidate generation: a `nearest_n` rule keeps at most `n` pairs of a node and leaves a pair
out only for `n` pairs of one of its nodes that come no later; no pair has two rules; and after the
check of the static bounds the check of the produced numbers passes. -/
theorem candidates_respect_rules {limits : Option CandidateLimits} {segments : Nat}
    (h : generateDeclaredLinkCandidates s pairRank = .ok candidates) :
    (∀ rule ∈ s.linkRules, rule.enabled = true → ∀ n pos, rule.topology = .nearestN n pos →
      (∀ nodeId, (pairsOf candidates rule.ruleId).countP (touches nodeId) ≤ n) ∧
      ∀ pair ∈ crossProductPairs rule, pair ∉ pairsOf candidates rule.ruleId →
        ∃ nodeId, touches nodeId pair ∧
          (pairsOf candidates rule.ruleId).countP (touches nodeId) = n ∧
          ∀ other ∈ pairsOf candidates rule.ruleId, touches nodeId other →
            NoLater s pairRank other pair) ∧
    (candidates.map DeclaredLinkCandidate.pair).Nodup ∧
    (enforceDeclaredCandidateBounds limits segments s.linkRules = .ok () →
      (∀ allowed, limits = some allowed →
        (∀ ruleId, (pairsOf candidates ruleId).length ≤ allowed.maxPairsPerRule) ∧
        candidates.length ≤ allowed.maxPairsPerTick) ∧
      enforceCandidateLimits limits (candidates.map DeclaredLinkCandidate.ruleId) = .ok ()) := by
  obtain ⟨hnodup, hcandidates, hrules⟩ := generate_eq_ok h
  refine ⟨fun rule hrule henabled n pos htopology => ?_, hnodup, fun hbounds => ?_⟩
  · obtain ⟨items, hitems⟩ := hrules rule hrule
    obtain ⟨seen, kept, hseen, hkept, hgreedy⟩ := nearest_of_rulePairs htopology henabled hitems
    have hpairs : kept.1.Perm (pairsOf candidates rule.ruleId) := by
      rw [pairsOf, hcandidates, filter_declared s.ruleIds_nodup hrule, declared, hitems]
      simpa [candidateOf, Function.comp_def] using hkept
    simp only [← hpairs.countP_eq, ← hpairs.mem_iff]
    refine ⟨hgreedy.capped, fun pair hp hrefused => ?_⟩
    exact hgreedy.refused pair ((hseen pair).mpr hp) hrefused
  · cases limits with
    | none => exact ⟨nofun, rfl⟩
    | some allowed =>
      obtain ⟨hrule, htotal⟩ := within_limits h hbounds
      refine ⟨?_, enforceCandidateLimits_eq_ok hrule htotal⟩
      rintro _ ⟨⟩
      exact ⟨hrule, htotal⟩

/-- Three nodes of one segment, each to have one link. -/
def triangle : ResolvedSession Nat where
  nodes := [⟨1, 1, 0, false, none, [], []⟩, ⟨2, 2, 0, false, none, [], []⟩,
    ⟨3, 3, 0, false, none, [], []⟩]
  linkRules := [⟨0, .isl, true, ⟨0, .isl, none, [1, 2, 3], by decide⟩,
    ⟨0, .isl, none, [1, 2, 3], by decide⟩, .nearestN 1 (by decide)⟩]
  nodeIds_nodup := by decide
  ruleIds_nodup := by decide

theorem triangle_keeps_nearest :
    let kept : List (DeclaredLinkCandidate Nat) :=
      [⟨(1, 2), 0, .isl, (.isl, .isl), none, .nearestN, 0, (0, 0)⟩]
    generateDeclaredLinkCandidates triangle (some fun pair => some (pair.1 + pair.2)) = .ok kept ∧
      (∃ nodeId, touches nodeId (1, 3) ∧ (pairsOf kept 0).countP (touches nodeId) = 1) ∧
      enforceCandidateLimits (some ⟨3, 3⟩) (kept.map DeclaredLinkCandidate.ruleId) = .ok () := by
  intro kept
  have hkept : generateDeclaredLinkCandidates triangle (some fun pair => some (pair.1 + pair.2)) =
    .ok kept := by decide +kernel
  have h := @candidates_respect_rules _ _ _ _ _ _ _ (some ⟨3, 3⟩) 1 hkept
  obtain ⟨nodeId, htouch, hfull, -⟩ :=
    (h.1 _ List.mem_cons_self rfl 1 _ rfl).2 (1, 3) (by decide) (by decide)
  exact ⟨hkept, ⟨nodeId, htouch, hfull⟩, (h.2.2 rfl).2⟩

end Generation

section Orientation

/-- The authored pair read with its first name in the segment of the first endpoint: both names
are known there and their nodes are selected. -/
def Orients (first second : ResolvedEndpoint Id) (runtime : Dict (Id × Id) Id) (item : ExplicitPair Id)
    (pair : Id × Id) : Prop :=
  ∃ a ∈ first.nodeIds, ∃ b ∈ second.nodeIds, runtime.get? (first.segmentId, item.a) = some a ∧
    runtime.get? (second.segmentId, item.b) = some b ∧ pair = pairOf a b

/-- The runtime pair is one of the two orientations, when there is one. -/
def AcceptsEitherWay (rule : ResolvedLinkRule Id) (runtime : Dict (Id × Id) Id)
    (item : ExplicitPair Id) : Prop :=
  (∀ pair, explicitRuntimePair rule runtime item = .ok pair →
    Orients rule.left rule.right runtime item pair ∨ Orients rule.right rule.left runtime item pair) ∧
  ((∃ pair, Orients rule.left rule.right runtime item pair ∨
      Orients rule.right rule.left runtime item pair) →
    ∃ pair, explicitRuntimePair rule runtime item = .ok pair)

/-- When both names are known as they are authored, their nodes are selected so, or the endpoints
share one segment, or the nodes and the reversed names are both not selected the other way. -/
def FirstReadingDecides (rule : ResolvedLinkRule Id) (runtime : Dict (Id × Id) Id)
    (item : ExplicitPair Id) : Prop :=
  ∀ a b, runtime.get? (rule.left.segmentId, item.a) = some a →
    runtime.get? (rule.right.segmentId, item.b) = some b →
    (a ∈ rule.left.nodeIds ∧ b ∈ rule.right.nodeIds) ∨ rule.left.segmentId = rule.right.segmentId ∨
    ¬ (a ∈ rule.right.nodeIds ∧ b ∈ rule.left.nodeIds) ∧
      ∀ pair, ¬ Orients rule.right rule.left runtime item pair

variable {s : ResolvedSession Id} {rule : ResolvedLinkRule Id} {runtime : Dict (Id × Id) Id}
  {item : ExplicitPair Id} {a b : Id} {pair : Id × Id}

theorem localToRuntime_injective {key key' : Id × Id} {nodeId : Id}
    (h : (localToRuntime s).get? key = some nodeId) (h' : (localToRuntime s).get? key' = some nodeId) :
    key = key' := by
  obtain ⟨node, hnode, heq⟩ := List.mem_map.mp (Dict.mem_of_get?_ofList h)
  obtain ⟨node', hnode', heq'⟩ := List.mem_map.mp (Dict.mem_of_get?_ofList h')
  obtain ⟨rfl, rfl⟩ := Prod.mk.inj heq
  obtain ⟨rfl, hid⟩ := Prod.mk.inj heq'
  rw [List.inj_on_of_nodup_map s.nodeIds_nodup hnode' hnode hid]

theorem pairOf_inj {a' b' : Id} (h : pairOf a b = pairOf a' b') :
    a = a' ∧ b = b' ∨ a = b' ∧ b = a' := by
  unfold pairOf at h
  split at h <;> split at h <;> cases h <;> simp

theorem explicitRuntimePair_of_known (ha : runtime.get? (rule.left.segmentId, item.a) = some a)
    (hb : runtime.get? (rule.right.segmentId, item.b) = some b) :
    explicitRuntimePair rule runtime item = .ok pair ↔ pair = pairOf a b ∧
      (a ∈ rule.left.nodeIds ∧ b ∈ rule.right.nodeIds ∨
        a ∈ rule.right.nodeIds ∧ b ∈ rule.left.nodeIds) := by
  simp only [explicitRuntimePair, ha, hb, eq_comm (a := pair)]
  split <;> simp_all

theorem explicitRuntimePair_of_unknown (h : ∀ a b, runtime.get? (rule.left.segmentId, item.a) = some a →
      runtime.get? (rule.right.segmentId, item.b) = some b → False) :
    explicitRuntimePair rule runtime item = .ok pair ↔
      Orients rule.right rule.left runtime item pair := by
  unfold explicitRuntimePair Orients
  split
  case h_1 a b ha hb => exact absurd hb (h a b ha)
  split
  case h_1 a b ha hb => simp only [ha, hb]; grind
  case h_2 hnone => simp; grind

/-- Both orientations of an authored pair are accepted exactly when its first reading does not
hide or distort the second. -/
theorem acceptsEitherWay_iff :
    AcceptsEitherWay rule (localToRuntime s) item ↔
      FirstReadingDecides rule (localToRuntime s) item := by
  by_cases hknown : ∃ a b, (localToRuntime s).get? (rule.left.segmentId, item.a) = some a ∧
      (localToRuntime s).get? (rule.right.segmentId, item.b) = some b
  case neg =>
    have hunknown : ∀ a b, _ → _ → False := fun a b ha hb => hknown ⟨a, b, ha, hb⟩
    simp only [AcceptsEitherWay, explicitRuntimePair_of_unknown hunknown]
    refine ⟨fun _ a b ha hb => (hunknown a b ha hb).elim, fun _ => ⟨fun pair => .inr, ?_⟩⟩
    rintro ⟨pair, ⟨a, -, b, -, ha, hb, -⟩ | horients⟩
    · exact (hunknown a b ha hb).elim
    · exact ⟨pair, horients⟩
  obtain ⟨a, b, ha, hb⟩ := hknown
  have hfirst : ∀ pair, Orients rule.left rule.right (localToRuntime s) item pair ↔
      pair = pairOf a b ∧ a ∈ rule.left.nodeIds ∧ b ∈ rule.right.nodeIds := by
    intro pair
    simp only [Orients, ha, hb, Option.some.injEq]
    grind
  -- distinct names have distinct nodes
  have hdistinct : Orients rule.right rule.left (localToRuntime s) item (pairOf a b) →
      rule.left.segmentId = rule.right.segmentId := by
    rintro ⟨a', -, b', -, ha', hb', heq⟩
    rcases pairOf_inj heq with ⟨rfl, -⟩ | ⟨-, rfl⟩
    · exact congrArg Prod.fst (localToRuntime_injective ha ha')
    · exact absurd (congrArg Prod.snd (localToRuntime_injective ha' hb)) item.a_ne_b
  have hsame : rule.left.segmentId = rule.right.segmentId → ∀ pair,
      (Orients rule.right rule.left (localToRuntime s) item pair ↔
        pair = pairOf a b ∧ a ∈ rule.right.nodeIds ∧ b ∈ rule.left.nodeIds) := by
    intro hsegment pair
    rw [hsegment] at ha
    rw [← hsegment] at hb
    simp only [Orients, ha, hb, Option.some.injEq]
    grind
  have hcondition : FirstReadingDecides rule (localToRuntime s) item ↔
      (a ∈ rule.left.nodeIds ∧ b ∈ rule.right.nodeIds) ∨
      rule.left.segmentId = rule.right.segmentId ∨
      ¬ (a ∈ rule.right.nodeIds ∧ b ∈ rule.left.nodeIds) ∧
        ∀ pair, ¬ Orients rule.right rule.left (localToRuntime s) item pair := by
    simp only [FirstReadingDecides, ha, hb, Option.some.injEq]
    grind
  simp only [AcceptsEitherWay, explicitRuntimePair_of_known ha hb, hfirst, hcondition]
  grind

/-- Two segments that share the local names 10 and 20; node 11 is 10 of segment 1. -/
def twins : ResolvedSession Nat where
  nodes := [⟨11, 10, 1, false, none, [], []⟩, ⟨12, 20, 1, false, none, [], []⟩,
    ⟨21, 10, 2, false, none, [], []⟩, ⟨22, 20, 2, false, none, [], []⟩]
  linkRules := []
  nodeIds_nodup := by decide
  ruleIds_nodup := by decide

/-- The rule joins 10 of segment 1 and 20 of segment 2; the pair names 20 first. -/
def twinRule : ResolvedLinkRule Nat where
  ruleId := 0
  kind := .isl
  enabled := true
  left := ⟨1, .isl, none, [11], by decide⟩
  right := ⟨2, .isl, none, [22], by decide⟩
  topology := .explicitPairs [⟨20, 10, by decide⟩]

theorem reversed_twins_refused :
    Orients twinRule.right twinRule.left (localToRuntime twins) ⟨20, 10, by decide⟩ (11, 22) ∧
      explicitRuntimePair twinRule (localToRuntime twins) ⟨20, 10, by decide⟩ =
        .error (.outsideSelectors 0 ⟨20, 10, by decide⟩) ∧
      ¬ AcceptsEitherWay twinRule (localToRuntime twins) ⟨20, 10, by decide⟩ := by
  have horients : Orients twinRule.right twinRule.left (localToRuntime twins)
      ⟨20, 10, by decide⟩ (11, 22) := ⟨22, by decide, 11, by decide, rfl, rfl, rfl⟩
  refine ⟨horients, rfl, fun h => ?_⟩
  obtain ⟨pair, hok⟩ := h.2 ⟨_, .inr horients⟩
  cases hok

end Orientation

end NodalArc.LinkRuleCandidates
