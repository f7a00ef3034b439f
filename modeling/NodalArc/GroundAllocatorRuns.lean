import NodalArc.GroundAllocatorRecovery

/-! The authority state of the ground allocator over whole runs: every result that a sequence of
ticks returns is exclusive in its terminals, within its pools and limits, and consistent in its
overlaps. -/

namespace NodalArc.GroundAllocatorRuns

open OrderedDict
open StatefulProgram
open GroundPolicy
open GroundAllocator
open GroundCandidates
open GroundAllocatorInvariant
open GroundAllocatorSteps
open GroundTransitions
open GroundAllocatorRecovery
open Program

variable {config : GroundConfig} {prior : GroundAuthority} {teardown : MbbTeardown} {p q : Pair}
    {pi qi : Indices}

def stationOf (config : GroundConfig) (pair : Pair) : Option NodeId :=
  match groundAndSatelliteIds pair config.groundStationIds with
  | .ok (gsId, _) => some gsId
  | .error _ => none

def stationPairs (config : GroundConfig) (authority : GroundAuthority) (gsId : NodeId) :
    List Pair :=
  authority.associations.keys.filter fun pair => stationOf config pair = some gsId

/-- An association with its ends and terminal indices. -/
structure Link (config : GroundConfig) (authority : GroundAuthority) (pair : Pair)
    (gsId satId : NodeId) (indices : Indices) : Prop where
  get : authority.associations.get? pair = some indices
  ids : groundAndSatelliteIds pair config.groundStationIds = .ok (gsId, satId)

structure AuthorityInvariant (config : GroundConfig) (authority : GroundAuthority) : Prop where
  identified : ∀ pair ∈ authority.associations,
    ∃ gsId satId indices, Link config authority pair gsId satId indices
  stationExclusive : ∀ p q g t t' pi qi, Link config authority p g t pi →
    Link config authority q g t' qi → pi.1 = qi.1 → p = q
  satelliteExclusive : ∀ p q g g' t pi qi, Link config authority p g t pi →
    Link config authority q g' t qi → pi.2 = qi.2 → p = q
  stationPool : ∀ p g t pi, Link config authority p g t pi →
    pi.1 ∈ config.gsTerminalIndices.getD g []
  satellitePool : ∀ p g t pi, Link config authority p g t pi →
    ∃ body, config.gsReferenceBodies.get? g = some body ∧
      pi.2 ∈ satellitePool config.satGroundTerminalIndicesByBody t body
  steadyWithinLimit : ∀ gsId,
    (((stationPairs config authority gsId).filter
      (· ∉ authority.pendingTeardowns)).length : Int) ≤ steadyLimit config gsId
  withinPool : ∀ gsId, (stationPairs config authority gsId).length ≤
    (config.gsTerminalIndices.getD gsId []).length
  oneTeardown : ∀ gsId, (authority.pendingTeardowns.keys.filter fun pair =>
    stationOf config pair = some gsId).length ≤ 1
  teardowns : ∀ pair teardown, authority.pendingTeardowns.get? pair = some teardown →
    pair ∈ authority.associations ∧ teardown.successorPair ∈ authority.associations ∧
      teardown.successorPair ∉ authority.pendingTeardowns ∧
      ∃ gsId, stationOf config pair = some gsId ∧
        stationOf config teardown.successorPair = some gsId ∧
        config.gsHandoverModes.get? gsId = some .mbb

/-- What a tick needs to know of the state it starts from. -/
structure PriorFacts (config : GroundConfig) (prior : GroundAuthority) : Prop where
  identified : ∀ pair ∈ prior.associations, ∃ gsId, stationOf config pair = some gsId
  teardowns : ∀ pair teardown, prior.pendingTeardowns.get? pair = some teardown →
    teardown.successorPair ∈ prior.associations ∧
      teardown.successorPair ∉ prior.pendingTeardowns ∧
      ∃ gsId, stationOf config pair = some gsId ∧
        stationOf config teardown.successorPair = some gsId ∧
        config.gsHandoverModes.get? gsId = some .mbb
  unique : ∀ p ∈ prior.pendingTeardowns, ∀ q ∈ prior.pendingTeardowns,
    stationOf config p = stationOf config q → p = q
  steady : ∀ gsId, (((stationPairs config prior gsId).filter
    (· ∉ prior.pendingTeardowns)).length : Int) ≤ steadyLimit config gsId

theorem stationOf_eq_some_iff {pair : Pair} {gsId : NodeId} : stationOf config pair = some gsId ↔
      ∃ satId, groundAndSatelliteIds pair config.groundStationIds = .ok (gsId, satId) := by
  unfold stationOf
  cases groundAndSatelliteIds pair config.groundStationIds with
  | error e => simp
  | ok ids => simp [Prod.ext_iff]

theorem priorFacts_of_authorityInvariant (h : AuthorityInvariant config prior)
    : PriorFacts config prior where
  identified := by
    intro pair hpair
    obtain ⟨gsId, satId, indices, hlink⟩ := h.identified pair hpair
    exact ⟨gsId, stationOf_eq_some_iff.mpr ⟨satId, hlink.ids⟩⟩
  teardowns := fun pair teardown hget => (h.teardowns pair teardown hget).2
  unique := by
    intro p hp q hq hstation
    obtain ⟨teardown, hget⟩ := Dict.mem_iff.mp hp
    obtain ⟨-, -, -, gsId, hgs, -⟩ := h.teardowns p teardown hget
    have hpmem : p ∈ prior.pendingTeardowns.keys.filter fun pair =>
        stationOf config pair = some gsId := List.mem_filter.mpr ⟨hp, by simpa using hgs⟩
    have hqmem : q ∈ prior.pendingTeardowns.keys.filter fun pair =>
        stationOf config pair = some gsId :=
      List.mem_filter.mpr ⟨hq, by simpa using hstation.symm.trans hgs⟩
    obtain ⟨only, honly⟩ := List.length_eq_one_iff.mp
      (le_antisymm (h.oneTeardown gsId) (List.length_pos_of_mem hpmem))
    rw [honly, List.mem_singleton] at hpmem hqmem
    exact hpmem.trans hqmem.symm
  steady := h.steadyWithinLimit

theorem mem_knownGs_of_checkStationMap {V : Type} {label : String} {mapping : Dict NodeId V}
    {u : Unit} (h : checkStationMap config label mapping = .ok u) {gsId : NodeId}
    (hmem : gsId ∈ mapping) : gsId ∈ config.knownGs := by
  rw [checkStationMap, ensure_eq_ok_iff] at h
  by_contra hnot
  have hextra : gsId ∈ sortedNodes (mapping.keys.filter (· ∉ config.knownGs)) := by
    refine (List.mem_insertionSort _).mpr (List.mem_dedup.mpr (List.mem_filter.mpr ⟨hmem, ?_⟩))
    simpa using hnot
  rw [h.2] at hextra
  cases hextra

theorem steadyLimit_nonneg {tick : GroundTick} (h : checkInputs config tick = .ok ())
    (gsId : NodeId) : 0 ≤ steadyLimit config gsId := by
  simp only [checkInputs, bind_eq_ok_iff] at h
  obtain ⟨-, -, -, -, -, -, -, -, ⟨⟩, hmodes, -, -, -, -, ⟨⟩, hstations, -⟩ := h
  unfold steadyLimit
  split
  · rename_i hmode
    have hknown := mem_knownGs_of_checkStationMap hmodes (Dict.mem_of_get? hmode)
    have hcheck := forM_eq_ok_iff.mp hstations gsId hknown
    simp only [checkHandoverMode, bind_eq_ok_iff, lookupNode_eq_ok_iff, ensure_eq_ok_iff] at hcheck
    obtain ⟨mode, hmode', overlapTicks, -, reserve, hreserve, -, -, -, -, -, -, hcheck⟩ := hcheck
    obtain rfl : mode = .mbb := Option.some.inj (hmode'.symm.trans hmode)
    simp only [bind_eq_ok_iff, lookupNode_eq_ok_iff, ensure_eq_ok_iff] at hcheck
    obtain ⟨-, -, pool, hpool, hspare⟩ := hcheck
    simp only [Dict.getD, hpool, hreserve, Option.getD_some]
    omega
  · omega

theorem priorFacts_initial {tick : GroundTick} (h : checkInputs config tick = .ok ())
    : PriorFacts config GroundAuthority.initial where
  identified := fun pair hpair => absurd hpair Dict.not_mem_empty
  teardowns := fun pair teardown hget => by cases hget
  unique := fun p hp => absurd hp Dict.not_mem_empty
  steady := fun gsId => by
    simpa [stationPairs, GroundAuthority.initial] using steadyLimit_nonneg h gsId

section Tick

variable {ctx : AllocationContext} {s r : Allocation} {c d : Candidate} {pair : Pair}
    {gsId : NodeId}

theorem station_eq_of_stationOf (hctx : ContextFacts ctx) (hc : c ∈ ctx.candidates)
    (h : stationOf ctx.config c.pair = some gsId) : c.gsId = gsId := by
  obtain ⟨satId, hids⟩ := stationOf_eq_some_iff.mp h
  exact (hctx.idsOf_eq hc hids).1.symm

/-- The state after recovery and continuity. -/
structure Carried (ctx : AllocationContext) (r s : Allocation) : Prop where
  recovery : Recovery ctx (sortedPairs ctx.prior.pendingTeardowns.keys) r
  continuity : Continuity ctx r
    (ctx.prior.associations.entries.insertionSort fun a b => pairLe a.1 b.1) s

/-- An association is carried over as a teardown of the previous tick, or as one of its visible
steady associations that recovery did not drop. -/
theorem Carried.associated_iff (h : Carried ctx r s) : pair ∈ s.newAssociations ↔
    pair ∈ r.newAssociations ∨ (pair ∈ ctx.prior.associations ∧
      pair ∉ ctx.prior.pendingTeardowns ∧ pair ∉ r.dropCurrentPairs ∧ pair ∈ ctx.visibleSet) := by
  rw [h.continuity.associated_iff]
  have hkeys : pair ∈ (ctx.prior.associations.entries.insertionSort
      fun a b => pairLe a.1 b.1).map Prod.fst ↔ pair ∈ ctx.prior.associations :=
    ((List.perm_insertionSort _ _).map Prod.fst).mem_iff
  rw [hkeys]

/-- The successor of a teardown that recovery kept is not dropped: the station has no other
teardown that could drop it. -/
theorem Carried.successor_not_dropped (hprior : PriorFacts ctx.config ctx.prior)
    (h : Carried ctx r s) (hget : r.newPendingTeardowns.get? pair = some teardown) :
    teardown.successorPair ∉ r.dropCurrentPairs := by
  intro hdrop
  obtain ⟨-, hpriorGet, -, hnotDrop, -⟩ := h.recovery.kept pair teardown hget
  obtain ⟨-, hsteady, gsId, hgs, hsuccGs, -⟩ := hprior.teardowns pair teardown hpriorGet
  obtain ⟨old, oldTeardown, -, holdGet, holdDrop, hor⟩ := h.recovery.dropped _ hdrop
  rcases hor with heq | heq
  · exact hsteady (heq ▸ Dict.mem_of_get? holdGet)
  · obtain ⟨-, -, oldGs, holdGs, holdSuccGs, -⟩ := hprior.teardowns old oldTeardown holdGet
    have hsame : stationOf ctx.config pair = stationOf ctx.config old := by
      rw [hgs, holdGs, ← hsuccGs, ← holdSuccGs, heq]
    have hold := hprior.unique pair (Dict.mem_of_get? hpriorGet) old (Dict.mem_of_get? holdGet)
      hsame
    exact hnotDrop (hold ▸ holdDrop)

theorem Carried.overlaps (hctx : ContextFacts ctx) (hprior : PriorFacts ctx.config ctx.prior)
    (h : Carried ctx r s) : Overlaps ctx s.toTerminalBook := by
  have hpending := h.continuity.pending_eq
  have hassociated : ∀ pair ∈ r.newPendingTeardowns, pair ∈ s.newAssociations := by
    intro pair hpair
    obtain ⟨teardown, hget⟩ := Dict.mem_iff.mp hpair
    exact h.associated_iff.mpr (Or.inl (h.recovery.kept pair teardown hget).2.2.1)
  have hpriorGet : ∀ pair teardown, r.newPendingTeardowns.get? pair = some teardown →
      ctx.prior.pendingTeardowns.get? pair = some teardown :=
    fun pair teardown hget => (h.recovery.kept pair teardown hget).2.1
  have hsuccessor : ∀ pair teardown, r.newPendingTeardowns.get? pair = some teardown →
      teardown.successorPair ∈ s.newAssociations ∧
        teardown.successorPair ∉ r.newPendingTeardowns := by
    intro pair teardown hget
    obtain ⟨hassoc, hsteady, -⟩ := hprior.teardowns pair teardown (hpriorGet pair teardown hget)
    refine ⟨h.associated_iff.mpr (Or.inr ⟨hassoc, hsteady, h.successor_not_dropped hprior hget,
      (h.recovery.kept pair teardown hget).2.2.2.2⟩), fun hin => ?_⟩
    obtain ⟨other, hother⟩ := Dict.mem_iff.mp hin
    exact hsteady (Dict.mem_of_get? (hpriorGet _ other hother))
  constructor
  case associated => rw [hpending]; exact hassociated
  case successor => rw [hpending]; exact hsuccessor
  case sameStation =>
    rw [hpending]
    intro pair teardown hget
    obtain ⟨-, -, gsId, hgs, hsuccGs, hmode⟩ :=
      hprior.teardowns pair teardown (hpriorGet pair teardown hget)
    obtain ⟨c, hc, hcpair⟩ := h.continuity.occupancy.candidate pair
      (hassociated pair (Dict.mem_of_get? hget))
    obtain ⟨d, hd, hdpair⟩ := h.continuity.occupancy.candidate _ (hsuccessor pair teardown hget).1
    have hcgs := station_eq_of_stationOf hctx hc (hcpair ▸ hgs)
    have hdgs := station_eq_of_stationOf hctx hd (hdpair ▸ hsuccGs)
    exact ⟨c, hc, d, hd, hcpair, hdpair, hcgs.trans hdgs.symm, hcgs ▸ hmode⟩
  case unique =>
    rw [hpending]
    intro c hc d hd hcin hdin hgs
    obtain ⟨ct, hct⟩ := Dict.mem_iff.mp hcin
    obtain ⟨dt, hdt⟩ := Dict.mem_iff.mp hdin
    have hcprior := hpriorGet _ _ hct
    have hdprior := hpriorGet _ _ hdt
    obtain ⟨-, -, g, hcg, -⟩ := hprior.teardowns _ _ hcprior
    obtain ⟨-, -, g', hdg, -⟩ := hprior.teardowns _ _ hdprior
    have hsame : stationOf ctx.config c.pair = stationOf ctx.config d.pair := by
      rw [hcg, hdg, ← station_eq_of_stationOf hctx hc hcg, ← station_eq_of_stationOf hctx hd hdg,
        hgs]
    exact hctx.candidate_unique c hc d hd (hprior.unique _ (Dict.mem_of_get? hcprior) _
      (Dict.mem_of_get? hdprior) hsame)

/-- The steady association of the previous tick that a carried steady association stands for: a
teardown that is associated again stands for its dropped successor. -/
def standsFor (prior : GroundAuthority) (pair : Pair) : Pair :=
  match prior.pendingTeardowns.get? pair with
  | some teardown => teardown.successorPair
  | none => pair

theorem standsFor_of_teardown (h : prior.pendingTeardowns.get? pair = some teardown) :
    standsFor prior pair = teardown.successorPair := by
  rw [standsFor, h]

theorem standsFor_of_none (h : prior.pendingTeardowns.get? pair = none)
    : standsFor prior pair = pair := by
  rw [standsFor, h]

variable (hctx : ContextFacts ctx) (hprior : PriorFacts ctx.config ctx.prior)

include hctx hprior

theorem Carried.steady_cases (h : Carried ctx r s) (hpair : pair ∈ s.steadyPairsForGs gsId) :
    (∃ teardown, ctx.prior.pendingTeardowns.get? pair = some teardown ∧
      teardown.successorPair ∈ r.dropCurrentPairs ∧ stationOf ctx.config pair = some gsId) ∨
    (ctx.prior.pendingTeardowns.get? pair = none ∧ pair ∉ r.dropCurrentPairs ∧
      pair ∈ ctx.prior.associations ∧ stationOf ctx.config pair = some gsId) := by
  obtain ⟨hlisted, hnotPending⟩ := mem_steadyPairsForGs_iff.mp hpair
  obtain ⟨hassoc, c, hc, rfl, rfl⟩ := (h.continuity.occupancy.gs.listed_iff _ _).mp hlisted
  rw [h.continuity.pending_eq] at hnotPending
  have hstation : ∀ g, stationOf ctx.config c.pair = some g →
      stationOf ctx.config c.pair = some c.gsId := fun g hg =>
    station_eq_of_stationOf hctx hc hg ▸ hg
  rcases h.associated_iff.mp hassoc with hassoc | ⟨hassoc, hsteady, hnotDrop, -⟩
  · obtain ⟨-, teardown, hget, hor⟩ := h.recovery.associated _ hassoc
    obtain ⟨-, -, g, hg, -⟩ := hprior.teardowns _ _ hget
    exact Or.inl ⟨teardown, hget, hor.resolve_left hnotPending, hstation g hg⟩
  · obtain ⟨g, hg⟩ := hprior.identified _ hassoc
    exact Or.inr ⟨Dict.get?_eq_none_iff.mpr hsteady, hnotDrop, hassoc, hstation g hg⟩

theorem Carried.standsFor_mem (h : Carried ctx r s) (hpair : pair ∈ s.steadyPairsForGs gsId) :
    standsFor ctx.prior pair ∈ (stationPairs ctx.config ctx.prior gsId).filter
      (· ∉ ctx.prior.pendingTeardowns) := by
  simp only [List.mem_filter, stationPairs, decide_eq_true_eq, Dict.mem_keys_iff]
  rcases h.steady_cases hctx hprior hpair with ⟨teardown, hget, -, hgs⟩ | ⟨hget, -, hassoc, hgs⟩
  · obtain ⟨hassoc, hsteady, g, hg, hsuccGs, -⟩ := hprior.teardowns _ _ hget
    rw [standsFor_of_teardown hget]
    exact ⟨⟨hassoc, hsuccGs.trans (hg.symm.trans hgs)⟩, hsteady⟩
  · rw [standsFor_of_none hget]
    exact ⟨⟨hassoc, hgs⟩, Dict.get?_eq_none_iff.mp hget⟩

theorem Carried.standsFor_inj
    (h : Carried ctx r s) (hp : p ∈ s.steadyPairsForGs gsId) (hq : q ∈ s.steadyPairsForGs gsId)
    (heq : standsFor ctx.prior p = standsFor ctx.prior q) : p = q := by
  rcases h.steady_cases hctx hprior hp with ⟨pt, hpget, hpdrop, hpgs⟩ | ⟨hpget, hpdrop, -, -⟩ <;>
    rcases h.steady_cases hctx hprior hq with ⟨qt, hqget, hqdrop, hqgs⟩ | ⟨hqget, hqdrop, -, -⟩
  · exact hprior.unique p (Dict.mem_of_get? hpget) q (Dict.mem_of_get? hqget)
      (hpgs.trans hqgs.symm)
  · rw [standsFor_of_teardown hpget, standsFor_of_none hqget] at heq
    exact absurd (heq ▸ hpdrop) hqdrop
  · rw [standsFor_of_none hpget, standsFor_of_teardown hqget] at heq
    exact absurd (heq ▸ hqdrop) hpdrop
  · rwa [standsFor_of_none hpget, standsFor_of_none hqget] at heq

theorem Carried.tickInvariant (h : Carried ctx r s) : TickInvariant ctx s.toTerminalBook where
  occupancy := h.continuity.occupancy
  overlaps := h.overlaps hctx hprior
  steady := fun gsId => by
    have hnodup := (h.continuity.occupancy.steady_nodup gsId).map_on
      fun p hp q hq heq => h.standsFor_inj hctx hprior hp hq heq
    have hsubset : (s.steadyPairsForGs gsId).map (standsFor ctx.prior) ⊆
        (stationPairs ctx.config ctx.prior gsId).filter (· ∉ ctx.prior.pendingTeardowns) := by
      intro p hp
      obtain ⟨q, hq, rfl⟩ := List.mem_map.mp hp
      exact h.standsFor_mem hctx hprior hq
    have hlen := (List.subperm_of_subset hnodup hsubset).length_le
    rw [List.length_map] at hlen
    have hlimit := hprior.steady gsId
    omega

theorem wp_carriedOver : wp (do
      forM (sortedPairs ctx.prior.pendingTeardowns.keys) (recoverTeardown ctx)
      forM (ctx.prior.associations.entries.insertionSort fun a b => pairLe a.1 b.1)
        (keepSteady ctx)) Allocation.initial
      (fun _ s => TickInvariant ctx s.toTerminalBook) Raises := by
  have hsteady : SuccessorsSteady ctx.prior := fun pair teardown hget =>
    ⟨(hprior.teardowns pair teardown hget).1, (hprior.teardowns pair teardown hget).2.1⟩
  rw [wp_bind]
  refine wp_imp (wp_recoverTeardowns hctx hsteady) fun _ r hr => ?_
  refine wp_imp (wp_forM (Continuity ctx r) ?_ ⟨hr.occupancy, rfl, rfl, by simp⟩)
    fun _ s hs => (Carried.mk hr hs).tickInvariant hctx hprior
  intro visited entry rest s hentries hs
  have hnodup : ((ctx.prior.associations.entries.insertionSort
      fun a b => pairLe a.1 b.1).map Prod.fst).Nodup :=
    ((List.perm_insertionSort _ _).map Prod.fst).nodup_iff.mpr ctx.prior.associations.nodup
  rw [hentries, List.map_append, List.map_cons] at hnodup
  refine wp_imp (wp_keepSteady_continued hctx) fun _ s' hs' => hs.continued hctx hr (fun hin => ?_) hs'
  exact (List.nodup_append.mp hnodup).2.2 entry.1 hin entry.1 List.mem_cons_self rfl

omit hctx hprior in
theorem wp_allocationBody_of {I : Allocation → Prop} {Q : Unit → Allocation → Prop}
    (hcarried : wp (do
      forM (sortedPairs ctx.prior.pendingTeardowns.keys) (recoverTeardown ctx)
      forM (ctx.prior.associations.entries.insertionSort fun a b => pairLe a.1 b.1)
        (keepSteady ctx)) Allocation.initial (fun _ => I) Raises)
    (hpasses : ∀ passes s, I s → wp (candidatePasses ctx passes) s Q Raises) :
    wp (allocationBody ctx) Allocation.initial Q Raises := by
  rw [wp_bind] at hcarried
  simp only [allocationBody, wp_bind]
  exact wp_imp hcarried fun _ t ht => wp_imp ht fun _ s hs => hpasses _ s hs

theorem wp_allocationBody : wp (allocationBody ctx) Allocation.initial
      (fun _ s => TickInvariant ctx s.toTerminalBook) Raises :=
  wp_allocationBody_of (wp_carriedOver hctx hprior) fun passes _ hs =>
    wp_imp (wp_candidatePasses hctx (fun _ => True) (fun _ h => h) (fun _ _ _ h => h) passes hs
      trivial) fun _ _ h => h.1

omit hctx hprior

/-! ### The result of a tick -/

/-- The bookkeeping seen through the published authority state. -/
structure Published (ctx : AllocationContext) (b : TerminalBook) (authority : GroundAuthority) :
    Prop where
  invariant : TickInvariant ctx b
  associations : authority.associations = b.newAssociations
  pendingTeardowns : authority.pendingTeardowns = b.newPendingTeardowns
  identified : ∀ pair ∈ b.newAssociations, ∃ ids, ctx.idsOf pair = .ok ids

variable {b : TerminalBook} {authority : GroundAuthority} {satId : NodeId} {indices : Indices}

theorem Published.candidate_of_link (hctx : ContextFacts ctx) (h : Published ctx b authority)
    (hlink : Link ctx.config authority pair gsId satId indices) :
    ∃ c, c.pair = pair ∧ c.gsId = gsId ∧ c.satId = satId ∧ Holds ctx b c indices := by
  have hget := hlink.get
  rw [h.associations] at hget
  obtain ⟨c, hc, rfl⟩ := h.invariant.occupancy.candidate pair (Dict.mem_of_get? hget)
  obtain ⟨hgs, hsat⟩ := hctx.idsOf_eq hc hlink.ids
  exact ⟨c, rfl, hgs.symm, hsat.symm, hc, hget⟩

theorem Published.link_of_mem (h : Published ctx b authority)
    (hpair : pair ∈ authority.associations) :
    ∃ gsId satId indices, Link ctx.config authority pair gsId satId indices := by
  obtain ⟨indices, hget⟩ := Dict.mem_iff.mp hpair
  rw [h.associations] at hpair
  obtain ⟨⟨gsId, satId⟩, hids⟩ := h.identified pair hpair
  exact ⟨gsId, satId, indices, hget, hids⟩

theorem link_of_mem_stationPairs (hpair : pair ∈ stationPairs config authority gsId) :
    ∃ satId indices, Link config authority pair gsId satId indices := by
  simp only [stationPairs, List.mem_filter, decide_eq_true_eq, Dict.mem_keys_iff] at hpair
  obtain ⟨satId, hids⟩ := stationOf_eq_some_iff.mp hpair.2
  obtain ⟨indices, hget⟩ := Dict.mem_iff.mp hpair.1
  exact ⟨satId, indices, hget, hids⟩

theorem stationPairs_nodup (config : GroundConfig) (authority : GroundAuthority)
    (gsId : NodeId) : (stationPairs config authority gsId).Nodup :=
  (Dict.keys_nodup _).filter _

variable (h : Published ctx b authority)

include hctx h

theorem Published.stationExclusive {t t' : NodeId} (hp : Link ctx.config authority p gsId t pi)
    (hq : Link ctx.config authority q gsId t' qi) (heq : pi.1 = qi.1) : p = q := by
  obtain ⟨c, rfl, hcgs, -, hc⟩ := h.candidate_of_link hctx hp
  obtain ⟨d, rfl, hdgs, -, hd⟩ := h.candidate_of_link hctx hq
  rw [h.invariant.occupancy.gs.exclusive c d pi qi hc hd (hcgs.trans hdgs.symm) heq]

theorem Published.satelliteExclusive {g g' : NodeId} (hp : Link ctx.config authority p g satId pi)
    (hq : Link ctx.config authority q g' satId qi) (heq : pi.2 = qi.2) : p = q := by
  obtain ⟨c, rfl, -, hcsat, hc⟩ := h.candidate_of_link hctx hp
  obtain ⟨d, rfl, -, hdsat, hd⟩ := h.candidate_of_link hctx hq
  rw [h.invariant.occupancy.sat.exclusive c d pi qi hc hd (hcsat.trans hdsat.symm) heq]

theorem Published.stationPool (hlink : Link ctx.config authority pair gsId satId indices) :
    indices.1 ∈ ctx.config.gsTerminalIndices.getD gsId [] := by
  obtain ⟨c, rfl, rfl, -, hc⟩ := h.candidate_of_link hctx hlink
  obtain ⟨pool, -, hpool, hmem, -⟩ := h.invariant.occupancy.placed c indices hc
  rw [hctx.gsPools] at hpool
  rw [Dict.getD, hpool]
  exact hmem

theorem Published.satellitePool (hlink : Link ctx.config authority pair gsId satId indices) :
    ∃ body, ctx.config.gsReferenceBodies.get? gsId = some body ∧
      indices.2 ∈ satellitePool ctx.config.satGroundTerminalIndicesByBody satId body := by
  obtain ⟨c, rfl, rfl, rfl, hc⟩ := h.candidate_of_link hctx hlink
  obtain ⟨-, body, -, -, hbody, hmem⟩ := h.invariant.occupancy.placed c indices hc
  have hne : GroundAllocator.satellitePool ctx.satTerminalPools c.satId body ≠ [] :=
    List.ne_nil_of_mem hmem
  rw [hctx.satPool_eq _ _ hne] at hmem
  exact ⟨body, hbody, hmem⟩

theorem Published.steadyWithinLimit
    (gsId : NodeId) : (((stationPairs ctx.config authority gsId).filter
      (· ∉ authority.pendingTeardowns)).length : Int) ≤ steadyLimit ctx.config gsId := by
  have hsubset : (stationPairs ctx.config authority gsId).filter
      (· ∉ authority.pendingTeardowns) ⊆ b.steadyPairsForGs gsId := by
    intro pair hpair
    obtain ⟨hpair, hsteady⟩ := List.mem_filter.mp hpair
    obtain ⟨satId, indices, hlink⟩ := link_of_mem_stationPairs hpair
    obtain ⟨c, rfl, hgs, -, hc⟩ := h.candidate_of_link hctx hlink
    refine mem_steadyPairsForGs_iff.mpr ⟨?_, by simpa [h.pendingTeardowns] using hsteady⟩
    exact (h.invariant.occupancy.gs.listed_iff _ _).mpr ⟨Dict.mem_of_get? hc.get, c, hc.mem, rfl, hgs⟩
  have hlen := (List.subperm_of_subset ((stationPairs_nodup ctx.config authority gsId).filter _)
    hsubset).length_le
  have hlimit := h.invariant.steady gsId
  omega

theorem Published.withinPool (gsId : NodeId) : (stationPairs ctx.config authority gsId).length ≤
      (ctx.config.gsTerminalIndices.getD gsId []).length := by
  let index : Pair → Int := fun pair => ((authority.associations.get? pair).getD (0, 0)).1
  have hindex : ∀ {pair gsId satId indices},
      Link ctx.config authority pair gsId satId indices → index pair = indices.1 := by
    intro pair gsId satId indices hlink
    simp [index, hlink.get]
  have hnodup : ((stationPairs ctx.config authority gsId).map index).Nodup := by
    refine (stationPairs_nodup ctx.config authority gsId).map_on fun p hp q hq heq => ?_
    obtain ⟨t, pi, hplink⟩ := link_of_mem_stationPairs hp
    obtain ⟨t', qi, hqlink⟩ := link_of_mem_stationPairs hq
    rw [hindex hplink, hindex hqlink] at heq
    exact h.stationExclusive hctx hplink hqlink heq
  have hsubset : (stationPairs ctx.config authority gsId).map index ⊆
      ctx.config.gsTerminalIndices.getD gsId [] := by
    intro i hi
    obtain ⟨p, hp, rfl⟩ := List.mem_map.mp hi
    obtain ⟨t, pi, hlink⟩ := link_of_mem_stationPairs hp
    rw [hindex hlink]
    exact h.stationPool hctx hlink
  have hlen := (List.subperm_of_subset hnodup hsubset).length_le
  rwa [List.length_map] at hlen

omit hctx h in
theorem length_le_one_of_nodup {α : Type} {l : List α} (hl : l.Nodup)
    (h : ∀ a ∈ l, ∀ b ∈ l, a = b) : l.length ≤ 1 := by
  match l with
  | [] => simp
  | [_] => simp
  | a :: b :: rest =>
    have hab := h a List.mem_cons_self b (List.mem_cons_of_mem _ List.mem_cons_self)
    simp [hab] at hl

theorem Published.teardowns (hget : authority.pendingTeardowns.get? pair = some teardown) :
    pair ∈ authority.associations ∧ teardown.successorPair ∈ authority.associations ∧
      teardown.successorPair ∉ authority.pendingTeardowns ∧
      ∃ gsId, stationOf ctx.config pair = some gsId ∧
        stationOf ctx.config teardown.successorPair = some gsId ∧
        ctx.config.gsHandoverModes.get? gsId = some .mbb := by
  have hstation : ∀ c ∈ ctx.candidates, c.pair ∈ authority.associations →
      stationOf ctx.config c.pair = some c.gsId := by
    intro c hc hin
    obtain ⟨gsId, satId, indices, hlink⟩ := h.link_of_mem hin
    rw [(hctx.idsOf_eq hc hlink.ids).1.symm]
    exact stationOf_eq_some_iff.mpr ⟨satId, hlink.ids⟩
  have hassociations := h.associations
  have hpending := h.pendingTeardowns
  rw [hpending] at hget
  have hold := h.invariant.overlaps.associated pair (Dict.mem_of_get? hget)
  obtain ⟨hnew, hsteady⟩ := h.invariant.overlaps.successor pair teardown hget
  obtain ⟨c, hc, d, hd, rfl, hdpair, hgs, hmode⟩ :=
    h.invariant.overlaps.sameStation pair teardown hget
  rw [← hassociations] at hold hnew
  rw [← hdpair] at hnew hsteady ⊢
  exact ⟨hold, hnew, hpending ▸ hsteady, c.gsId, hstation c hc hold,
    hgs ▸ hstation d hd hnew, hmode⟩

theorem Published.oneTeardown (gsId : NodeId) : (authority.pendingTeardowns.keys.filter fun pair =>
      stationOf ctx.config pair = some gsId).length ≤ 1 := by
  refine length_le_one_of_nodup ((Dict.keys_nodup _).filter _) fun p hp q hq => ?_
  simp only [List.mem_filter, decide_eq_true_eq, Dict.mem_keys_iff, h.pendingTeardowns] at hp hq
  obtain ⟨c, hc, rfl⟩ := h.invariant.occupancy.candidate p
    (h.invariant.overlaps.associated p hp.1)
  obtain ⟨d, hd, rfl⟩ := h.invariant.occupancy.candidate q
    (h.invariant.overlaps.associated q hq.1)
  have hcgs := station_eq_of_stationOf hctx hc hp.2
  have hdgs := station_eq_of_stationOf hctx hd hq.2
  rw [h.invariant.overlaps.unique c hc d hd hp.1 hq.1 (hcgs.trans hdgs.symm)]

theorem Published.authorityInvariant : AuthorityInvariant ctx.config authority where
  identified := fun _ hpair => h.link_of_mem hpair
  stationExclusive := fun _ _ _ _ _ _ _ hp hq heq => h.stationExclusive hctx hp hq heq
  satelliteExclusive := fun _ _ _ _ _ _ _ hp hq heq => h.satelliteExclusive hctx hp hq heq
  stationPool := fun _ _ _ _ hlink => h.stationPool hctx hlink
  satellitePool := fun _ _ _ _ hlink => h.satellitePool hctx hlink
  steadyWithinLimit := h.steadyWithinLimit hctx
  withinPool := h.withinPool hctx
  oneTeardown := h.oneTeardown hctx
  teardowns := fun _ _ hget => h.teardowns hctx hget

omit hctx h

theorem identified_of_openWindows {windows : Dict (NodeId × Int) ReceiveWindow}
    (h : openWindows ctx s = .ok windows) (hpair : pair ∈ s.newAssociations) :
    ∃ ids, ctx.idsOf pair = .ok ids := by
  simp only [openWindows, heldTerminals, bind_eq_ok_iff] at h
  obtain ⟨held, ⟨ends, hends, -⟩, -⟩ := h
  obtain ⟨indices, hget⟩ := Dict.mem_iff.mp hpair
  obtain ⟨y, -, hy⟩ := exists_ok_of_mapM hends (Dict.get?_eq_some_iff.mp hget)
  rw [bind_eq_ok_iff] at hy
  obtain ⟨ids, hids, -⟩ := hy
  exact ⟨ids, hids⟩

end Tick

theorem parts_of_prepareContext {tick : GroundTick} {ctx : AllocationContext}
    (h : prepareContext config tick prior = .ok ctx) :
    ctx.config = config ∧ ctx.tick = tick ∧ ctx.prior = prior ∧
      checkInputs config tick = .ok () := by
  simp only [prepareContext, bind_eq_ok_iff] at h
  obtain ⟨⟨⟩, hchecks, _, -, _, -, _, -, h⟩ := h
  obtain rfl := Except.ok.inj h
  exact ⟨rfl, rfl, rfl, hchecks⟩

theorem allocateGroundLinks_keeps {tick : GroundTick} {result : GroundAllocationResult}
    (hknown : StationsKnown config tick)
    (hprior : checkInputs config tick = .ok () → PriorFacts config prior)
    (h : allocateGroundLinks config tick prior = .ok result) :
    AuthorityInvariant config result.authority ∧
      ∀ pair ∈ result.authority.associations, VisibleIn tick pair := by
  simp only [allocateGroundLinks, bind_eq_ok_iff] at h
  obtain ⟨ctx, hprepare, h⟩ := h
  have hctx := contextFacts_of_prepareContext hknown hprepare
  obtain ⟨rfl, rfl, rfl, hchecks⟩ := parts_of_prepareContext hprepare
  have hbody := wp_allocationBody hctx (hprior hchecks)
  unfold wp at hbody
  split at h
  · cases h
  · rename_i s hexec
    rw [hexec] at hbody
    simp only [finishTick, bind_eq_ok_iff] at h
    obtain ⟨unscheduled, -, windows, hwindows, h⟩ := h
    obtain rfl := Except.ok.inj h
    have hpublished : Published ctx s.toTerminalBook
        ⟨s.newAssociations, s.newPendingTeardowns, windows⟩ :=
      ⟨hbody, rfl, rfl, fun _ hpair => identified_of_openWindows hwindows hpair⟩
    refine ⟨hpublished.authorityInvariant hctx, fun pair hpair => ?_⟩
    obtain ⟨c, hc, rfl⟩ := hbody.occupancy.candidate pair hpair
    exact (hctx.candidateOf c hc).visibleIn

/-- The results of a sequence of ticks with increasing steps, starting from no associations, no
teardowns and no receive windows; each tick starts from what the previous one returned. -/
inductive GroundRun (config : GroundConfig) : GroundTick → GroundAllocationResult → Prop
  | first {tick result} (known : StationsKnown config tick)
      (returned : allocateGroundLinks config tick GroundAuthority.initial = .ok result) :
      GroundRun config tick result
  | next {tick tick' result result'} (run : GroundRun config tick result)
      (later : tick.step < tick'.step) (known : StationsKnown config tick')
      (returned : allocateGroundLinks config tick' result.authority = .ok result') :
      GroundRun config tick' result'

theorem GroundRun.keeps {tick : GroundTick} {result : GroundAllocationResult}
    (h : GroundRun config tick result) : AuthorityInvariant config result.authority ∧
      ∀ pair ∈ result.authority.associations, VisibleIn tick pair := by
  induction h with
  | first known returned => exact allocateGroundLinks_keeps known priorFacts_initial returned
  | next run later known returned ih =>
    exact allocateGroundLinks_keeps known (fun _ => priorFacts_of_authorityInvariant ih.1)
      returned

/-- Every result of a run satisfies the authority invariant and associates visible pairs only. -/
theorem groundRun_authorityInvariant {config : GroundConfig} {tick : GroundTick}
    {result : GroundAllocationResult} (h : GroundRun config tick result) :
    AuthorityInvariant config result.authority ∧
      ∀ pair ∈ result.authority.associations, VisibleIn tick pair := h.keeps

/-- A make-before-break station on Earth and a break-before-make station on the Moon share the
single terminal of a relay. -/
def relayConfig : GroundConfig where
  groundStationIds := ["gs-earth", "gs-luna"]
  gsTerminalIndices := Dict.ofList [("gs-earth", [0, 1]), ("gs-luna", [0])]
  gsSelectionPolicies :=
    Dict.ofList [("gs-earth", .highestElevation), ("gs-luna", .highestElevation)]
  gsMinElevations := Dict.ofList [("gs-earth", 25), ("gs-luna", 25)]
  gsHandoverPolicies := Dict.ofList [("gs-earth", .none), ("gs-luna", .hysteresis ∅)]
  gsHandoverModes := Dict.ofList [("gs-earth", .mbb), ("gs-luna", .bbm)]
  gsMbbOverlapTicks := Dict.ofList [("gs-earth", 2), ("gs-luna", 0)]
  gsMbbReserve := Dict.ofList [("gs-earth", 1), ("gs-luna", 0)]
  gsServicePriorities := Dict.ofList [("gs-earth", 1), ("gs-luna", 10)]
  gsTenantIds := Dict.ofList [("gs-earth", "default"), ("gs-luna", "default")]
  gsReferenceBodies := Dict.ofList [("gs-earth", .earth), ("gs-luna", .luna)]
  satGroundTerminals := Dict.ofList [("sat-relay", 1), ("sat-next", 1)]
  satGroundTerminalIndicesByBody := Dict.ofList
    [("sat-relay", Dict.ofList [(.earth, [0]), (.luna, [0])]),
      ("sat-next", Dict.ofList [(.earth, [0])])]
  rankingOrder := [.servicePriority, .selectionScore, .lexPair]
  successorAbortPolicy := .softRetain
  bbmAcquireTimeoutTicks := 1
  ignoredCapacityFields := []

def relayTick : GroundTick where
  step := 0
  visiblePerStation := Dict.ofList [("gs-earth", [⟨"sat-relay", true, 40, none⟩])]
  simTimeUnix := 0
  pairDelaysMs := ∅

def handoverTick : GroundTick where
  step := 1
  visiblePerStation := Dict.ofList
    [("gs-earth", [⟨"sat-relay", true, 35, none⟩, ⟨"sat-next", true, 60, none⟩]),
      ("gs-luna", [⟨"sat-relay", true, 60, none⟩])]
  simTimeUnix := 1
  pairDelaysMs := ∅

theorem groundRun_authorityInvariant_handover : ∃ result,
    GroundRun relayConfig handoverTick result ∧
    result.authority.pendingTeardowns.keys = [("gs-earth", "sat-relay")] ∧
    AuthorityInvariant relayConfig result.authority ∧
    ∀ pair ∈ result.authority.associations, VisibleIn handoverTick pair := by
  have hreturned : (do
      let result ← allocateGroundLinks relayConfig relayTick GroundAuthority.initial
      let result' ← allocateGroundLinks relayConfig handoverTick result.authority
      Except.ok result'.authority.pendingTeardowns.keys) =
      .ok [("gs-earth", "sat-relay")] := by decide +kernel
  simp only [bind_eq_ok_iff] at hreturned
  obtain ⟨result, hfirst, result', hnext, hkeys⟩ := hreturned
  have hknown : StationsKnown relayConfig relayTick := by
    unfold StationsKnown
    decide +kernel
  have hknown' : StationsKnown relayConfig handoverTick := by
    unfold StationsKnown
    decide +kernel
  have hrun := GroundRun.next (.first hknown hfirst) (by decide) hknown' hnext
  exact ⟨result', hrun, Except.ok.inj hkeys, groundRun_authorityInvariant hrun⟩

end NodalArc.GroundAllocatorRuns
