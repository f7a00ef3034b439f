import NodalArc.GroundTransitions

/-! Prior-state recovery and steady-state continuity bring the associations of the previous tick
into the new one, and establish the invariant of the candidate passes. -/

namespace NodalArc.GroundAllocatorRecovery

open OrderedDict
open StatefulProgram
open GroundPolicy
open GroundAllocator
open GroundCandidates
open GroundAllocatorInvariant
open GroundAllocatorSteps
open GroundTransitions
open Program

variable {visited : List Pair} {teardown : MbbTeardown}

variable {ctx : AllocationContext} {s s' : Allocation} {c d : Candidate} {indices : Indices}
    {pair : Pair} {gsId : NodeId}

/-- The invariant of the recovery loop, over the teardowns already visited: those kept stay
associated and their successors stay visible; every other visited teardown is dropped, and one
that is associated again has its successor dropped. -/
structure Recovery (ctx : AllocationContext) (visited : List Pair) (s : Allocation) : Prop where
  occupancy : Occupancy ctx s.toTerminalBook
  kept : ∀ pair teardown, s.newPendingTeardowns.get? pair = some teardown →
    pair ∈ visited ∧ ctx.prior.pendingTeardowns.get? pair = some teardown ∧
      pair ∈ s.newAssociations ∧ pair ∉ s.dropCurrentPairs ∧
      teardown.successorPair ∈ ctx.visibleSet
  associated : ∀ pair ∈ s.newAssociations, pair ∈ visited ∧
    ∃ teardown, ctx.prior.pendingTeardowns.get? pair = some teardown ∧
      (pair ∈ s.newPendingTeardowns ∨ teardown.successorPair ∈ s.dropCurrentPairs)
  dropped : ∀ pair ∈ s.dropCurrentPairs, ∃ old teardown, old ∈ visited ∧
    ctx.prior.pendingTeardowns.get? old = some teardown ∧ old ∈ s.dropCurrentPairs ∧
      (pair = old ∨ pair = teardown.successorPair)

/-- The successor of every teardown of the previous tick was one of its steady associations. -/
def SuccessorsSteady (prior : GroundAuthority) : Prop :=
  ∀ pair teardown, prior.pendingTeardowns.get? pair = some teardown →
    teardown.successorPair ∈ prior.associations ∧
      teardown.successorPair ∉ prior.pendingTeardowns

variable (hctx : ContextFacts ctx) (hprior : SuccessorsSteady ctx.prior)
  (h : Recovery ctx visited s) (hnew : pair ∉ visited)

include hctx hprior h hnew

theorem Recovery.ended {gone : List Pair}
    (hget : ctx.prior.pendingTeardowns.get? pair = some teardown)
    (hended : Ended ctx pair teardown gone s s') : Recovery ctx (visited ++ [pair]) s' := by
  have hnotIn : pair ∉ s.newAssociations := fun hin => hnew (h.associated _ hin).1
  have hpair : pair ∈ gone := by
    rcases hended.gone_eq with rfl | rfl <;> exact List.mem_cons_self
  have hpending : s'.newPendingTeardowns = s.newPendingTeardowns := by
    rcases hended.book with hbook | ⟨-, _, -, c, -, -, -, hbook⟩ <;> simp [hbook, TerminalBook.occupy]
  -- the old pair of an aborted overlap may be associated again
  have hassociated : ∀ p, p ∈ s'.newAssociations → p ∈ s.newAssociations ∨
      (p = pair ∧ teardown.successorPair ∈ gone) := by
    intro p hp
    rcases hended.book with hbook | ⟨hsuccessor, _, -, c, -, rfl, -, hbook⟩
    · exact .inl (hbook ▸ hp)
    · rw [hbook] at hp
      exact (Dict.mem_insert.mp hp).symm.imp_right fun heq => ⟨heq, hsuccessor⟩
  have hgrows : ∀ p ∈ s.newAssociations, p ∈ s'.newAssociations := by
    intro p hp
    rcases hended.book with hbook | ⟨-, _, -, c, -, -, -, hbook⟩
    · exact hbook ▸ hp
    · rw [hbook]
      exact Dict.mem_insert.mpr (.inr hp)
  constructor
  case occupancy =>
    rcases hended.book with hbook | ⟨-, _, -, c, hc, rfl, hfits, hbook⟩
    · exact hbook ▸ h.occupancy
    · rw [hbook]
      exact h.occupancy.occupy hctx hc hnotIn hfits.placed hfits.gsFree hfits.satFree
  case kept =>
    intro p t hp
    rw [hpending] at hp
    obtain ⟨hvisited, hgetp, hassoc, hnotdrop, hvisible⟩ := h.kept p t hp
    refine ⟨List.mem_append_left _ hvisited, hgetp, hgrows p hassoc, fun hin => ?_, hvisible⟩
    rcases hended.drop_iff.mp hin with hin | hin
    · rcases hended.mem_gone hin with rfl | rfl
      · exact hnew hvisited
      · exact (hprior pair teardown hget).2 (Dict.mem_of_get? hgetp)
    · exact hnotdrop hin
  case associated =>
    intro p hp
    rw [hpending]
    rcases hassociated p hp with hp | ⟨rfl, hsuccessor⟩
    · obtain ⟨hvisited, t, hgetp, hor⟩ := h.associated p hp
      exact ⟨List.mem_append_left _ hvisited, t, hgetp,
        hor.imp_right fun hdrop => hended.drop_iff.mpr (.inr hdrop)⟩
    · exact ⟨by simp, teardown, hget, .inr (hended.drop_iff.mpr (.inl hsuccessor))⟩
  case dropped =>
    intro p hp
    rcases hended.drop_iff.mp hp with hp | hp
    · exact ⟨pair, teardown, by simp, hget, hended.drops pair hpair, hended.mem_gone hp⟩
    · obtain ⟨old, t, hvisited, hgetp, holdDrop, hor⟩ := h.dropped p hp
      exact ⟨old, t, List.mem_append_left _ hvisited, hgetp, hended.drop_iff.mpr (.inr holdDrop), hor⟩

theorem Recovery.keep {b : TerminalBook}
    (hget : ctx.prior.pendingTeardowns.get? pair = some teardown)
    (hvisible : teardown.successorPair ∈ ctx.visibleSet)
    (hbook : Readded ctx pair indices s.toTerminalBook b) :
    Recovery ctx (visited ++ [pair]) { s with toTerminalBook := b.setTeardown pair teardown } := by
  obtain ⟨c, hc, rfl, hfits, rfl⟩ := hbook
  have hnotIn : c.pair ∉ s.newAssociations := fun hin => hnew (h.associated _ hin).1
  have hoccupancy := h.occupancy.occupy hctx hc hnotIn hfits.placed hfits.gsFree hfits.satFree
  have hnotDrop : c.pair ∉ s.dropCurrentPairs := by
    intro hin
    obtain ⟨old, t, hvisited, hgetOld, -, rfl | heq⟩ := h.dropped _ hin
    · exact hnew hvisited
    · exact (hprior old t hgetOld).2 (heq ▸ Dict.mem_of_get? hget)
  constructor
  case occupancy => exact hoccupancy.setTeardown
  case kept =>
    intro p t hp
    simp only [TerminalBook.setTeardown, TerminalBook.occupy, Dict.get?_insert,
      Dict.mem_insert] at hp ⊢
    split at hp
    · rename_i heq
      obtain rfl := Option.some.inj hp
      subst heq
      exact ⟨by simp, hget, Or.inl rfl, hnotDrop, hvisible⟩
    · obtain ⟨hvisited, hgetp, hassoc, hrest⟩ := h.kept p t hp
      exact ⟨List.mem_append_left _ hvisited, hgetp, Or.inr hassoc, hrest⟩
  case associated =>
    intro p hp
    simp only [TerminalBook.setTeardown, TerminalBook.occupy, Dict.mem_insert] at hp ⊢
    rcases hp with rfl | hp
    · exact ⟨by simp, teardown, hget, Or.inl (Or.inl rfl)⟩
    · obtain ⟨hvisited, t, hgetp, hor⟩ := h.associated p hp
      exact ⟨List.mem_append_left _ hvisited, t, hgetp, hor.imp_left Or.inr⟩
  case dropped =>
    intro p hp
    obtain ⟨old, t, hvisited, hrest⟩ := h.dropped p hp
    exact ⟨old, t, List.mem_append_left _ hvisited, hrest⟩

theorem Recovery.recovered (hs : Recovered ctx pair s s') : Recovery ctx (visited ++ [pair]) s' := by
  cases hs with
  | ended teardown gone hget hended => exact h.ended hctx hprior hnew hget hended
  | kept teardown indices b hget _ hvisible hreadded =>
    exact h.keep hctx hprior hnew hget hvisible hreadded

omit hctx hprior h hnew

theorem recovery_initial (ctx : AllocationContext) : Recovery ctx [] Allocation.initial where
  occupancy := occupancy_initial ctx
  kept := fun pair teardown h => by cases h
  associated := fun pair h => absurd h Dict.not_mem_empty
  dropped := fun pair h => by cases h

theorem wp_recoverTeardowns (hctx : ContextFacts ctx) (hprior : SuccessorsSteady ctx.prior) :
    wp (forM (sortedPairs ctx.prior.pendingTeardowns.keys) (recoverTeardown ctx))
      Allocation.initial
      (fun _ s => Recovery ctx (sortedPairs ctx.prior.pendingTeardowns.keys) s) Raises := by
  have hnodup : (sortedPairs ctx.prior.pendingTeardowns.keys).Nodup :=
    (List.perm_insertionSort _ _).nodup_iff.mpr (Dict.keys_nodup _)
  refine wp_forM (Recovery ctx) ?_ (recovery_initial ctx)
  intro visited pair rest s hpairs hs
  rw [hpairs] at hnodup
  have hnew : pair ∉ visited := fun hin =>
    (List.nodup_append.mp hnodup).2.2 pair hin pair List.mem_cons_self rfl
  exact wp_imp (wp_recoverTeardown_recovered hctx) fun _ s' hs' =>
    hs.recovered hctx hprior hnew hs'

/-! ### Steady-state continuity -/

/-- The invariant of the continuity loop over the associations already visited, relative to the
state `r` that recovery left. -/
structure Continuity (ctx : AllocationContext) (r : Allocation)
    (visited : List (Pair × Indices)) (s : Allocation) : Prop where
  occupancy : Occupancy ctx s.toTerminalBook
  pending_eq : s.newPendingTeardowns = r.newPendingTeardowns
  drop_eq : s.dropCurrentPairs = r.dropCurrentPairs
  associated_iff : ∀ pair, pair ∈ s.newAssociations ↔ pair ∈ r.newAssociations ∨
    (pair ∈ visited.map Prod.fst ∧ pair ∉ ctx.prior.pendingTeardowns ∧
      pair ∉ r.dropCurrentPairs ∧ pair ∈ ctx.visibleSet)

theorem Continuity.continued (hctx : ContextFacts ctx) {visitedTeardowns : List Pair}
    {r : Allocation} (hr : Recovery ctx visitedTeardowns r) {visited : List (Pair × Indices)}
    {entry : Pair × Indices} (h : Continuity ctx r visited s)
    (hnew : entry.1 ∉ visited.map Prod.fst) (hs : Continued ctx entry s s') :
    Continuity ctx r (visited ++ [entry]) s' := by
  -- an entry that is skipped or lost is not associated
  have hskip : ∀ s', s'.toTerminalBook = s.toTerminalBook →
      s'.dropCurrentPairs = s.dropCurrentPairs → (entry.1 ∈ ctx.prior.pendingTeardowns ∨
      entry.1 ∈ r.dropCurrentPairs ∨ entry.1 ∉ ctx.visibleSet) →
      Continuity ctx r (visited ++ [entry]) s' := by
    intro s' hbook hdrop hnot
    refine ⟨hbook ▸ h.occupancy, hbook ▸ h.pending_eq, hdrop.trans h.drop_eq, fun pair => ?_⟩
    rw [hbook, h.associated_iff, List.map_append, List.mem_append, List.map_singleton,
      List.mem_singleton]
    refine or_congr_right ⟨fun ⟨hin, hrest⟩ => ⟨Or.inl hin, hrest⟩, ?_⟩
    rintro ⟨hin | rfl, hpending, hdrop, hvisible⟩
    · exact ⟨hin, hpending, hdrop, hvisible⟩
    · tauto
  cases hs with
  | decided hout =>
    rw [h.drop_eq] at hout
    exact hskip s rfl rfl (hout.imp_right Or.inl)
  | lost hhidden hnoted _ hdrop => exact hskip s' hnoted.book_eq hdrop (Or.inr (Or.inr hhidden))
  | kept b hsteady hundropped hvisible hreadded =>
    rw [h.drop_eq] at hundropped
    have hnotIn : entry.1 ∉ s.newAssociations := by
      rw [h.associated_iff, not_or]
      refine ⟨fun hrin => ?_, fun hvisited => hnew hvisited.1⟩
      obtain ⟨-, teardown, hget, -⟩ := hr.associated _ hrin
      exact hsteady (Dict.mem_of_get? hget)
    obtain ⟨c, hc, hpair, hfits, rfl⟩ := hreadded
    rw [← hpair] at hnotIn hsteady hundropped hvisible
    refine ⟨h.occupancy.occupy hctx hc hnotIn hfits.placed hfits.gsFree hfits.satFree,
      h.pending_eq, h.drop_eq, fun pair => ?_⟩
    rw [TerminalBook.occupy, Dict.mem_insert, h.associated_iff, List.map_append,
      List.mem_append, List.map_singleton, List.mem_singleton, ← hpair]
    constructor
    · rintro (rfl | hrin | hvisited)
      · exact Or.inr ⟨Or.inr rfl, hsteady, hundropped, hvisible⟩
      · exact Or.inl hrin
      · exact Or.inr ⟨Or.inl hvisited.1, hvisited.2⟩
    · rintro (hrin | ⟨hvisited | rfl, hrest⟩)
      · exact Or.inr (Or.inl hrin)
      · exact Or.inr (Or.inr ⟨hvisited, hrest⟩)
      · exact Or.inl rfl

end NodalArc.GroundAllocatorRecovery
