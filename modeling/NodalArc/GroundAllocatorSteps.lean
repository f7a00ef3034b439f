import NodalArc.GroundAllocatorInvariant

/-! The transitions of one tick keep the allocator's invariants.  A tick that raises returns
nothing, so every postcondition here allows an exception. -/

namespace NodalArc.GroundAllocatorSteps

open OrderedDict
open StatefulProgram
open GroundPolicy
open GroundAllocator
open GroundCandidates
open GroundAllocatorInvariant
open Program

variable {occupied : Finset Int} {index : Int} {pool : List Int} {tc : Nat}
  {displacement satDisplacement : Option Candidate} {b b' : TerminalBook}

variable {ctx : AllocationContext} {s : Allocation} {c d incumbent : Candidate}
    {indices : Indices} {pair : Pair} {gsId nodeId : NodeId}

def Raises (_ : AllocationError) (_ : Allocation) : Prop := True

/-! ### Free terminal indices -/

theorem firstQuiet_eq_ok (h : ctx.firstQuiet s nodeId occupied pool = .ok (some index)) :
    index ∈ pool ∧ index ∉ occupied := by
  induction pool with
  | nil => simp [AllocationContext.firstQuiet] at h
  | cons first rest ih =>
    unfold AllocationContext.firstQuiet at h
    split at h
    · obtain ⟨hmem, hfree⟩ := ih h
      exact ⟨List.mem_cons_of_mem _ hmem, hfree⟩
    · rename_i hfirst
      rw [bind_eq_ok_iff] at h
      obtain ⟨window, -, h⟩ := h
      cases window with
      | none =>
        obtain rfl : first = index := by simpa using h
        exact ⟨List.mem_cons_self, hfirst⟩
      | some window =>
        obtain ⟨hmem, hfree⟩ := ih h
        exact ⟨List.mem_cons_of_mem _ hmem, hfree⟩

theorem firstFree_eq_ok (h : ctx.firstFree s nodeId occupied pool = .ok (some index)) :
    index ∈ pool ∧ index ∉ occupied := by
  simp only [AllocationContext.firstFree, bind_eq_ok_iff] at h
  obtain ⟨quiet, hquiet, h⟩ := h
  cases quiet with
  | some idx =>
    obtain rfl : idx = index := by simpa using h
    exact firstQuiet_eq_ok hquiet
  | none =>
    have hfind : pool.find? (· ∉ occupied) = some index := by simpa using h
    exact ⟨List.mem_of_find?_eq_some hfind, by simpa using List.find?_some hfind⟩

theorem occupied_of_firstFree (h : ctx.firstFree s nodeId occupied pool = .ok none) :
    ∀ index ∈ pool, index ∈ occupied := by
  simp only [AllocationContext.firstFree, bind_eq_ok_iff] at h
  obtain ⟨quiet, -, h⟩ := h
  cases quiet with
  | some index => simp at h
  | none =>
    have hfind : pool.find? (· ∉ occupied) = none := by simpa using h
    simpa using List.find?_eq_none.mp hfind

theorem nextSatTerminalIndex_eq_ok (h : ctx.nextSatTerminalIndex s c = .ok (some index)) :
    index ∉ s.satOccupied c.satId ∧ ∃ body, ctx.config.gsReferenceBodies.get? c.gsId = some body ∧
        index ∈ satellitePool ctx.satTerminalPools c.satId body := by
  simp only [AllocationContext.nextSatTerminalIndex, AllocationContext.satTerminalPool,
    AllocationContext.referenceBody, bind_eq_ok_iff, lookupNode_eq_ok_iff] at h
  obtain ⟨pool, ⟨body, hbody, hpool⟩, h⟩ := h
  obtain rfl := Except.ok.inj hpool
  obtain ⟨hmem, hfree⟩ := firstFree_eq_ok h
  exact ⟨hfree, body, hbody, hmem⟩

/-! ### Associations -/

/-- Terminal indices that are free at both ends of a candidate. -/
structure Fits (ctx : AllocationContext) (b : TerminalBook) (c : Candidate)
    (indices : Indices) : Prop where
  placed : Placed ctx c indices
  gsFree : indices.1 ∉ b.gsOccupied c.gsId
  satFree : indices.2 ∉ b.satOccupied c.satId

theorem wp_addExisting (hctx : ContextFacts ctx) (hc : c ∈ ctx.candidates) :
    wp (addExisting ctx c.pair indices) s (fun _ s' => Fits ctx s.toTerminalBook c indices ∧
        s' = { s with toTerminalBook := s.occupy c.pair c.gsId c.satId indices }) Raises := by
  simp only [addExisting, wp_bind, wp_lift, wp_get, wp_require, wp_set]
  refine ⟨?_, fun _ _ => trivial⟩
  rintro ⟨g, t⟩ hids
  obtain ⟨rfl, rfl⟩ := hctx.idsOf_eq hc hids
  refine ⟨fun pool hpool => ⟨fun pools hpools => ?_, fun _ _ => trivial⟩, fun _ _ => trivial⟩
  refine ⟨fun hidx => ⟨fun hfree => ?_, fun _ => trivial⟩, fun _ => trivial⟩
  refine ⟨fun body hbody => ⟨fun hsat => ⟨fun hsatFree => ?_, fun _ => trivial⟩,
    fun _ => trivial⟩, fun _ _ => trivial⟩
  refine ⟨⟨⟨pool, body, ?_, hidx, lookupNode_eq_ok_iff.mp hbody, ?_⟩, hfree, hsatFree⟩, rfl⟩
  · cases hget : ctx.gsTerminalPools.get? c.gsId with
    | none => simp [hget] at hpool
    | some pool' => simpa [hget] using hpool
  · cases hget : ctx.satTerminalPools.get? c.satId with
    | none => simp [hget] at hpools
    | some pools' =>
      obtain rfl : pools' = pools := by simpa [hget] using hpools
      simpa [satellitePool, Dict.getD, hget] using hsat

/-! ### Arbitration -/

theorem mem_of_worstRanked {l : List Candidate} (h : worstRanked l = some c) : c ∈ l := by
  cases l with
  | nil => simp [worstRanked] at h
  | cons first rest =>
    obtain rfl := Option.some.inj h
    suffices hgen : ∀ (rest : List Candidate) (best : Candidate),
        rest.foldl (fun best d => if rankKeyLt best.rankKey d.rankKey then d else best) best ∈
          best :: rest from hgen rest first
    intro rest
    induction rest with
    | nil => simp
    | cons d rest ih =>
      intro best
      rw [List.foldl_cons]
      split
      · exact List.mem_cons_of_mem _ (ih d)
      · rcases List.mem_cons.mp (ih best) with hbest | hrest
        · rw [hbest]
          exact List.mem_cons_self
        · exact List.mem_cons_of_mem _ (List.mem_cons_of_mem _ hrest)

theorem mem_of_keepWhere {α : Type} {test : α → Except AllocationError Bool} {l kept : List α}
    {a : α} (h : keepWhere test l = .ok kept) (ha : a ∈ kept) : a ∈ l ∧ test a = .ok true := by
  induction l generalizing kept with
  | nil =>
    obtain rfl : [] = kept := by simpa [keepWhere] using h
    simp at ha
  | cons x rest ih =>
    simp only [keepWhere, bind_eq_ok_iff] at h
    obtain ⟨keep, hkeep, kept', hkept', h⟩ := h
    obtain rfl := Except.ok.inj h
    cases keep with
    | false =>
      obtain ⟨hmem, htest⟩ := ih hkept' ha
      exact ⟨List.mem_cons_of_mem _ hmem, htest⟩
    | true =>
      rcases List.mem_cons.mp ha with rfl | ha
      · exact ⟨List.mem_cons_self, hkeep⟩
      · obtain ⟨hmem, htest⟩ := ih hkept' ha
        exact ⟨List.mem_cons_of_mem _ hmem, htest⟩

theorem visibleIncumbentForPair_eq_ok (hctx : ContextFacts ctx)
    (h : ctx.visibleIncumbentForPair pair = .ok c) : c ∈ ctx.candidates ∧ c.pair = pair := by
  unfold AllocationContext.visibleIncumbentForPair at h
  cases hget : ctx.candidateByPair.get? pair with
  | none => simp [hget] at h
  | some found =>
    obtain rfl : found = c := by simpa [hget] using h
    exact hctx.byPair pair found hget

theorem worstSteadyIncumbent_eq_ok (hctx : ContextFacts ctx)
    (h : ctx.worstSteadyIncumbent s gsId = .ok (some incumbent)) :
    incumbent ∈ ctx.candidates ∧ incumbent.pair ∈ s.steadyPairsForGs gsId := by
  simp only [AllocationContext.worstSteadyIncumbent, bind_eq_ok_iff] at h
  obtain ⟨incumbents, hincumbents, h⟩ := h
  have hmem := mem_of_worstRanked (Except.ok.inj h)
  obtain ⟨pair, hpair, hfound⟩ := exists_of_mem_mapM hincumbents hmem
  obtain ⟨hc, rfl⟩ := visibleIncumbentForPair_eq_ok hctx hfound
  exact ⟨hc, hpair⟩

theorem satOccupantsForCandidate_eq_ok (hctx : ContextFacts ctx) {occupants : List Candidate}
    (h : ctx.satOccupantsForCandidate s c = .ok occupants) (hd : d ∈ occupants) :
    d ∈ ctx.candidates ∧ d.pair ∈ s.assocBySat c.satId := by
  simp only [AllocationContext.satOccupantsForCandidate, bind_eq_ok_iff] at h
  obtain ⟨pool, -, inPool, hinPool, h⟩ := h
  obtain ⟨pair, hpair, hfound⟩ := exists_of_mem_mapM h hd
  obtain ⟨hdc, rfl⟩ := visibleIncumbentForPair_eq_ok hctx hfound
  exact ⟨hdc, (List.mem_insertionSort _).mp (mem_of_keepWhere hinPool hpair).1⟩

theorem displaceableSatIncumbent_eq_ok (hctx : ContextFacts ctx)
    (h : ctx.displaceableSatIncumbent s c = .ok (some d)) :
    d ∈ ctx.candidates ∧ d.pair ∈ s.assocBySat c.satId ∧ d.pair ∉ s.protectedMbbPairs := by
  simp only [AllocationContext.displaceableSatIncumbent, bind_eq_ok_iff] at h
  obtain ⟨occupants, hoccupants, incumbents, hincumbents, h⟩ := h
  have hmem := mem_of_worstRanked (Except.ok.inj h)
  obtain ⟨hoccupant, htest⟩ := mem_of_keepWhere hincumbents hmem
  obtain ⟨hd, hsat⟩ := satOccupantsForCandidate_eq_ok hctx hoccupants hoccupant
  refine ⟨hd, hsat, fun hprotected => ?_⟩
  simp [hprotected] at htest

theorem arbitrateHandover_eq_ok {physicalRoom : Bool}
    (h : arbitrateHandover ctx c incumbent physicalRoom = .ok (.proceed displacement)) :
    displacement = some incumbent := by
  simp only [arbitrateHandover, bind_eq_ok_iff] at h
  obtain ⟨-, -, -, -, decision, -, h⟩ := h
  cases decision with
  | hold reason => simp at h
  | displace =>
    simp only [bind_eq_ok_iff] at h
    obtain ⟨mode, -, h⟩ := h
    split at h
    · simp at h
    · simpa [eq_comm] using h

/-- A candidate proceeds without displacement only when its station has room, and otherwise
displaces a steady incumbent of its station. -/
theorem arbitrateStation_eq_ok (hctx : ContextFacts ctx)
    (h : arbitrateStation ctx s c tc = .ok (.proceed displacement)) : (displacement = none ∧
      ((s.steadyPairsForGs c.gsId).length : Int) < steadyLimit ctx.config c.gsId) ∨
    ∃ incumbent ∈ ctx.candidates, displacement = some incumbent ∧
      incumbent.pair ∈ s.steadyPairsForGs c.gsId := by
  simp only [arbitrateStation, bind_eq_ok_iff] at h
  obtain ⟨limit, hlimit, h⟩ := h
  obtain rfl := steadyLimit_eq_ok hctx hlimit
  split at h
  · rename_i hroom
    split at h
    · obtain rfl : none = displacement := by simpa using h
      exact Or.inl ⟨rfl, hroom⟩
    · simp at h
  · simp only [bind_eq_ok_iff] at h
    obtain ⟨found, hfound, h⟩ := h
    cases found with
    | none => simp at h
    | some incumbent =>
      obtain ⟨hmem, hsteady⟩ := worstSteadyIncumbent_eq_ok hctx hfound
      exact Or.inr ⟨incumbent, hmem, arbitrateHandover_eq_ok h, hsteady⟩

theorem firstPairOf_eq_none {pairs : List Pair} (h : ctx.firstPairOf gsId pairs = .ok none)
    (hpair : pair ∈ pairs) : ∃ g t, ctx.idsOf pair = .ok (g, t) ∧ g ≠ gsId := by
  induction pairs with
  | nil => simp at hpair
  | cons first rest ih =>
    simp only [AllocationContext.firstPairOf, bind_eq_ok_iff] at h
    obtain ⟨⟨g, t⟩, hids, h⟩ := h
    split at h
    · simp at h
    · rename_i hne
      rcases List.mem_cons.mp hpair with rfl | hpair
      · exact ⟨g, t, hids, hne⟩
      · exact ih h hpair

theorem not_protected_of_station (hctx : ContextFacts ctx)
    (h : ctx.protectedMbbPairForGs s gsId = .ok none) (hc : c ∈ ctx.candidates)
    (hgs : c.gsId = gsId) : c.pair ∉ s.protectedMbbPairs := by
  intro hprotected
  have hmem : c.pair ∈ sortedPairs s.protectedMbbPairs.dedup :=
    (List.mem_insertionSort _).mpr (List.mem_dedup.mpr hprotected)
  obtain ⟨g, t, hids, hne⟩ := firstPairOf_eq_none h hmem
  exact hne ((hctx.idsOf_eq hc hids).1.trans hgs)

/-! ### Acquisition -/

/-- Releasing an unprotected association keeps the invariant and removes just that pair. -/
structure Released (ctx : AllocationContext) (b : TerminalBook) (c : Candidate)
    (b' : TerminalBook) : Prop where
  invariant : TickInvariant ctx b'
  mem_iff : ∀ pair, pair ∈ b'.newAssociations ↔ pair ≠ c.pair ∧ pair ∈ b.newAssociations
  pending_iff : ∀ pair, pair ∈ b'.newPendingTeardowns ↔
    pair ≠ c.pair ∧ pair ∈ b.newPendingTeardowns
  protected_subset : ∀ pair ∈ b'.protectedMbbPairs, pair ∈ b.protectedMbbPairs
  steady_eq : ∀ gsId, b'.steadyPairsForGs gsId = (b.steadyPairsForGs gsId).filter (· ≠ c.pair)

theorem released_vacate (hctx : ContextFacts ctx) (h : TickInvariant ctx b)
    (hc : Holds ctx b c indices) (hfree : c.pair ∉ b.protectedMbbPairs) :
    Released ctx b c (b.vacate c.pair c.gsId c.satId indices) where
  invariant := h.vacate hctx hc hfree
  mem_iff := fun pair => Dict.mem_erase
  pending_iff := fun pair => Dict.mem_erase
  protected_subset := by
    intro pair hpair
    rw [mem_protectedMbbPairs_iff] at hpair ⊢
    rcases hpair with hpair | ⟨old, teardown, hget, hsucc⟩
    · exact Or.inl (Dict.mem_erase.mp hpair).2
    · refine Or.inr ⟨old, teardown, ?_, hsucc⟩
      simp only [TerminalBook.vacate, Dict.get?_erase] at hget
      split at hget
      · cases hget
      · exact hget
  steady_eq := fun gsId => steady_vacate hctx h.occupancy hc.mem

/-- A candidate that is not associated and whose station takes part in no overlap. -/
structure Contender (ctx : AllocationContext) (b : TerminalBook) (c : Candidate) : Prop where
  mem : c ∈ ctx.candidates
  new : c.pair ∉ b.newAssociations
  unlocked : ∀ e ∈ ctx.candidates, e.gsId = c.gsId → e.pair ∉ b.protectedMbbPairs

theorem Contender.released (h : Contender ctx b c) (hb' : Released ctx b d b')
    : Contender ctx b' c where
  mem := h.mem
  new := fun hin => h.new ((hb'.mem_iff c.pair).mp hin).2
  unlocked := fun e he heg hin => h.unlocked e he heg (hb'.protected_subset _ hin)

theorem Contender.not_pending (h : Contender ctx b c) (hd : d ∈ ctx.candidates)
    (hgs : d.gsId = c.gsId) : d.pair ∉ b.newPendingTeardowns :=
  fun hin => h.unlocked d hd hgs (mem_protectedMbbPairs_iff.mpr (Or.inl hin))

def Room (ctx : AllocationContext) (b : TerminalBook) (c : Candidate) : Prop :=
  ((b.steadyPairsForGs c.gsId).length : Int) < steadyLimit ctx.config c.gsId

theorem Room.released (h : Room ctx b c) (hb' : Released ctx b d b') : Room ctx b' c := by
  unfold Room at *
  rw [hb'.steady_eq]
  have := List.length_filter_le (fun p => decide (p ≠ d.pair)) (b.steadyPairsForGs c.gsId)
  omega

theorem room_of_released_steady (h : TickInvariant ctx b) (hb' : Released ctx b incumbent b')
    (hsteady : incumbent.pair ∈ b.steadyPairsForGs c.gsId) : Room ctx b' c := by
  have hlimit := h.steady c.gsId
  have hlen := length_filter_ne_of_mem (h.occupancy.steady_nodup c.gsId) hsteady
  unfold Room
  rw [hb'.steady_eq]
  omega

theorem station_eq_of_mem_byGs (hctx : ContextFacts ctx) (h : Occupancy ctx b)
    (hd : d ∈ ctx.candidates) (hin : d.pair ∈ b.assocByGs gsId) : d.gsId = gsId := by
  obtain ⟨-, e, he, hpair, hgs⟩ := (h.gs.listed_iff _ _).mp hin
  rw [hctx.candidate_unique d hd e he hpair.symm]
  exact hgs

/-- The pair displaced on the satellite is not one of the candidate's own station: it would be
the candidate's pair. -/
theorem station_ne_of_mem_bySat (hctx : ContextFacts ctx) (h : Occupancy ctx b)
    (hc : Contender ctx b c) (hd : d ∈ ctx.candidates) (hin : d.pair ∈ b.assocBySat c.satId)
    : d.gsId ≠ c.gsId := by
  intro hgs
  obtain ⟨hmem, e, he, hpair, hsat⟩ := (h.sat.listed_iff _ _).mp hin
  have hde : d = e := hctx.candidate_unique d hd e he hpair.symm
  have hpairs := hctx.pair_eq_of_ends hd hc.mem hgs (hde ▸ hsat)
  exact hc.new (hpairs ▸ hmem)

/-- What arbitration says about the incumbents to displace. -/
structure Displacements (ctx : AllocationContext) (b : TerminalBook) (c : Candidate)
    (gsDisplacement satDisplacement : Option Candidate) : Prop where
  room : gsDisplacement = none → Room ctx b c
  station : ∀ incumbent, gsDisplacement = some incumbent →
    incumbent ∈ ctx.candidates ∧ incumbent.pair ∈ b.steadyPairsForGs c.gsId
  satellite : ∀ d, satDisplacement = some d →
    d ∈ ctx.candidates ∧ d.pair ∈ b.assocBySat c.satId ∧ d.pair ∉ b.protectedMbbPairs

/-- The book without the pair that is displaced, if one is. -/
def Without (ctx : AllocationContext) (b : TerminalBook) : Option Candidate → TerminalBook → Prop
  | none, b' => b' = b
  | some d, b' => Released ctx b d b'

theorem Without.invariant (h : Without ctx b displacement b') (hb : TickInvariant ctx b) :
    TickInvariant ctx b' := by
  cases displacement with
  | none => exact h ▸ hb
  | some d => exact Released.invariant h

theorem Without.room (h : Without ctx b displacement b') (hroom : Room ctx b c) :
    Room ctx b' c := by
  cases displacement with
  | none => exact h ▸ hroom
  | some d => exact hroom.released h

theorem Without.steady (h : Without ctx b displacement b') (hpair : pair ∈ b.steadyPairsForGs gsId)
    (hne : ∀ d, displacement = some d → pair ≠ d.pair) : pair ∈ b'.steadyPairsForGs gsId := by
  cases displacement with
  | none => exact h ▸ hpair
  | some d =>
    rw [Released.steady_eq h]
    exact List.mem_filter.mpr ⟨hpair, decide_eq_true (hne d rfl)⟩

end NodalArc.GroundAllocatorSteps
