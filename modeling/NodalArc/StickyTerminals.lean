import NodalArc.GroundAllocatorRuns

/-! Terminal indices over one tick: an association of the previous tick that is still there keeps
its indices as long as nothing can displace it on its satellite. -/

namespace NodalArc.StickyTerminals

open OrderedDict
open StatefulProgram
open GroundPolicy
open GroundAllocator
open GroundCandidates
open GroundAllocatorSteps
open GroundTransitions
open GroundAllocatorRuns
open Program

variable {ctx : AllocationContext} {r s s' : Allocation} {c d : Candidate} {pair : Pair}

/-! ### Pairs of the previous tick -/

/-- A pair of the previous tick is out of this one: it is not associated, and if it is visible its
rejection is final. -/
def Gone (ctx : AllocationContext) (s : Allocation) (pair : Pair) : Prop :=
  pair ∉ s.newAssociations ∧ (pair ∈ ctx.visibleSet → s.rejectionLocked pair = true)

def Kept (ctx : AllocationContext) (s : Allocation) : Prop :=
  ∀ pair indices, ctx.prior.associations.get? pair = some indices →
    s.newAssociations.get? pair = some indices ∨ Gone ctx s pair

theorem Kept.congr (h : Kept ctx s) (hsame : ∀ pair ∈ ctx.prior.associations, Gone ctx s' pair ∨
      (s'.newAssociations.get? pair = s.newAssociations.get? pair ∧
        s'.rejected.get? pair = s.rejected.get? pair)) : Kept ctx s' := by
  intro pair indices hprior
  rcases hsame pair (Dict.mem_of_get? hprior) with hgone | ⟨hassociations, hrejected⟩
  · exact .inr hgone
  · rcases h pair indices hprior with hkept | hgone
    · exact .inl (hassociations.trans hkept)
    · refine .inr ⟨?_, fun hvisible => (rejectionLocked_congr hrejected).trans (hgone.2 hvisible)⟩
      rw [← Dict.get?_eq_none_iff, hassociations, Dict.get?_eq_none_iff]
      exact hgone.1

theorem Kept.new (hctx : ContextFacts ctx) (h : Kept ctx s) (hc : c ∈ ctx.candidates)
    (hnew : c.pair ∉ s.newAssociations) (hunlocked : s.rejectionLocked c.pair = false) :
    c.pair ∉ ctx.prior.associations := by
  intro hprior
  obtain ⟨indices, hindices⟩ := Dict.mem_iff.mp hprior
  rcases h c.pair indices hindices with hkept | hgone
  · exact hnew (Dict.mem_of_get? hkept)
  · rw [hgone.2 ((hctx.visible_iff _).mpr ⟨c, hc, rfl⟩)] at hunlocked
    cases hunlocked

/-! ### The candidate passes -/

/-- A candidate of the same tenant and reference body ranks ahead on the satellite, which has more
candidates than terminals. -/
def Outranked (config : GroundConfig) (pools : SatellitePools) (candidates : List Candidate)
    (c : Candidate) : Prop :=
  ∃ d ∈ candidates, d.satId = c.satId ∧ rankKeyLt d.rankKey c.rankKey = true ∧
    config.gsTenantIds.get? d.gsId = config.gsTenantIds.get? c.gsId ∧
    config.gsReferenceBodies.get? d.gsId = config.gsReferenceBodies.get? c.gsId ∧
    Crowded config pools candidates d

def Unchallenged (ctx : AllocationContext) : Prop :=
  ∀ c ∈ ctx.candidates, c.pair ∈ ctx.prior.associations →
    ¬ Outranked ctx.config ctx.satTerminalPools ctx.candidates c

theorem Kept.transition (hctx : ContextFacts ctx) (hunchallenged : Unchallenged ctx)
    (h : Kept ctx s) (step : Transition ctx s s') : Kept ctx s' := by
  cases step with
  | reject c rejection mem new unlocked =>
    have hnew := h.new hctx mem new unlocked
    refine h.congr fun pair hprior => .inr ⟨rfl, ?_⟩
    have hne : pair ≠ c.pair := fun heq => hnew (heq ▸ hprior)
    simp [Allocation.recordRejection, hne]
  | release c incumbent indices cause rejection events mem holds unprotected gaps released =>
    refine h.congr fun pair hprior => ?_
    by_cases heq : pair = incumbent.pair
    · subst heq
      cases released with
      | gap =>
        refine .inl ⟨fun hin => (Dict.mem_erase.mp hin).1 rfl, fun _ => ?_⟩
        exact rejectionLocked_of_get? (Dict.get?_insert.trans (if_pos rfl))
          (by simp [Allocation.lockedRejectionReasons])
      | displaced constraint outranks =>
        exact absurd ⟨c, mem, outranks.satellite, outranks.rank, outranks.tenant,
          outranks.body, outranks.crowded⟩ (hunchallenged incumbent holds.mem hprior)
    · exact .inr ⟨by simp [releaseWith, TerminalBook.vacate, heq], by simp [releaseWith, heq]⟩
  | acquire c indices gsEvents satEvents mem new unlocked =>
    have hnew := h.new hctx mem new unlocked
    refine h.congr fun pair hprior => .inr ?_
    have hne : pair ≠ c.pair := fun heq => hnew (heq ▸ hprior)
    exact ⟨by simp [acquireWith, TerminalBook.occupy, hne], by simp [acquireWith, hne]⟩
  | overlap => exact h.congr fun _ _ => .inr ⟨rfl, rfl⟩

/-! ### Recovery and continuity -/

def Decided (ctx : AllocationContext) (s : Allocation) (pair : Pair) : Prop :=
  pair ∈ s.newAssociations ∨ (pair ∈ ctx.visibleSet → s.rejectionLocked pair = true)

/-- The statements before the passes associate pairs under their previous indices only, and decide
about pairs for good. -/
structure Carries (ctx : AllocationContext) (s s' : Allocation) : Prop where
  associations : ∀ pair indices, s'.newAssociations.get? pair = some indices →
    s.newAssociations.get? pair = some indices ∨
      ctx.prior.associations.get? pair = some indices
  decided : ∀ pair, Decided ctx s pair → Decided ctx s' pair

theorem associations_readded {indices : Indices} {b b' : TerminalBook}
    (hprior : ctx.prior.associations.get? pair = some indices)
    (h : Readded ctx pair indices b b') : pair ∈ b'.newAssociations ∧
      (∀ other ∈ b.newAssociations, other ∈ b'.newAssociations) ∧
      ∀ other found, b'.newAssociations.get? other = some found →
        b.newAssociations.get? other = some found ∨
          ctx.prior.associations.get? other = some found := by
  obtain ⟨c, -, rfl, -, rfl⟩ := h
  refine ⟨Dict.mem_insert.mpr (.inl rfl), fun _ hin => Dict.mem_insert.mpr (.inr hin), ?_⟩
  intro other found hget
  simp only [TerminalBook.occupy, Dict.get?_insert] at hget
  split at hget
  · rename_i heq
    obtain rfl := Option.some.inj hget
    exact .inr (heq ▸ hprior)
  · exact .inl hget

theorem carries_of_recovered (h : Recovered ctx pair s s') : Carries ctx s s' ∧ Decided ctx s' pair ∧
    ∀ other ∈ s'.dropCurrentPairs, other ∈ s.dropCurrentPairs ∨ Decided ctx s' other := by
  cases h with
  | ended teardown gone hget hended =>
    obtain ⟨event, hnoted, -⟩ := hended.reported
    have hpair : pair ∈ gone := by
      rcases hended.gone_eq with rfl | rfl <;> exact List.mem_cons_self
    have hlocked : ∀ other, s.rejectionLocked other = true → s'.rejectionLocked other = true :=
      fun other hother => hnoted.locked (fun _ => locked_of_mem_reasons) hother
    refine ⟨⟨fun other found hfound => ?_, fun other hother => ?_⟩, hended.decided pair hpair,
      fun other hother => (hended.drop_iff.mp hother).symm.imp_right (hended.decided other)⟩
    · rcases hended.book with hbook | ⟨-, indices, hprior, hreadded⟩
      · exact .inl (hbook ▸ hfound)
      · exact (associations_readded hprior hreadded).2.2 other found hfound
    · refine hother.imp (fun hin => ?_) fun h hvisible => hlocked other (h hvisible)
      rcases hended.book with hbook | ⟨-, indices, hprior, hreadded⟩
      · exact hbook ▸ hin
      · exact (associations_readded hprior hreadded).2.1 other hin
  | kept teardown indices b hget hprior hvisible hreadded =>
    obtain ⟨hin, hgrows, hfrom⟩ := associations_readded hprior hreadded
    exact ⟨⟨hfrom, fun other hother => hother.imp_left (hgrows other)⟩, .inl hin,
      fun other hother => .inl hother⟩

theorem carries_of_continued {entry : Pair × Indices} (h : Continued ctx entry s s')
    (hprior : ctx.prior.associations.get? entry.1 = some entry.2) :
    Carries ctx s s' ∧ s'.dropCurrentPairs = s.dropCurrentPairs ∧
      (entry.1 ∈ ctx.prior.pendingTeardowns ∨ entry.1 ∈ s.dropCurrentPairs ∨
        Decided ctx s' entry.1) := by
  cases h with
  | decided hout => exact ⟨⟨fun _ _ hget => .inl hget, fun _ h => h⟩, rfl, hout.imp_right .inl⟩
  | lost hhidden hnoted hcaused hdrop =>
    refine ⟨⟨fun _ _ hget => .inl (hnoted.book_eq ▸ hget), fun other hother => ?_⟩, hdrop,
      .inr (.inr (.inr fun hvisible => absurd hvisible hhidden))⟩
    exact hother.imp (fun hin => hnoted.book_eq ▸ hin) fun h hvisible =>
      hnoted.locked nofun (h hvisible)
  | kept b hsteady hundropped hvisible hreadded =>
    obtain ⟨hin, hgrows, hfrom⟩ := associations_readded hprior hreadded
    exact ⟨⟨hfrom, fun other hother => hother.imp_left (hgrows other)⟩, rfl, .inr (.inr (.inl hin))⟩

theorem Carries.trans {t : Allocation} (h : Carries ctx r s) (h' : Carries ctx s t) :
    Carries ctx r t where
  associations := fun pair indices hget =>
    (h'.associations pair indices hget).elim (h.associations pair indices) .inr
  decided := fun pair hpair => h'.decided pair (h.decided pair hpair)

/-- The recovery loop decides every teardown it visits and every pair it drops. -/
structure Decides (ctx : AllocationContext) (visited : List Pair) (s : Allocation) : Prop where
  carries : Carries ctx Allocation.initial s
  visited : ∀ pair ∈ visited, Decided ctx s pair
  dropped : ∀ pair ∈ s.dropCurrentPairs, Decided ctx s pair

theorem Decides.recovered {visited : List Pair} (h : Decides ctx visited s)
    (hs : Recovered ctx pair s s') : Decides ctx (visited ++ [pair]) s' := by
  obtain ⟨hcarries, hpair, hdropped⟩ := carries_of_recovered hs
  refine ⟨h.carries.trans hcarries, fun other hother => ?_, fun other hother =>
    (hdropped other hother).elim (fun hbefore => hcarries.decided other (h.dropped other hbefore)) id⟩
  rcases List.mem_append.mp hother with hother | hother
  · exact hcarries.decided other (h.visited other hother)
  · exact List.mem_singleton.mp hother ▸ hpair

/-- The continuity loop decides every pair of the previous tick it visits. -/
structure Continues (ctx : AllocationContext) (r : Allocation) (visited : List (Pair × Indices))
    (s : Allocation) : Prop where
  carries : Carries ctx r s
  drop_eq : s.dropCurrentPairs = r.dropCurrentPairs
  visited : ∀ entry ∈ visited, entry.1 ∈ ctx.prior.pendingTeardowns ∨
    entry.1 ∈ r.dropCurrentPairs ∨ Decided ctx s entry.1

theorem Continues.continued {visited : List (Pair × Indices)} {entry : Pair × Indices}
    (h : Continues ctx r visited s) (hprior : ctx.prior.associations.get? entry.1 = some entry.2)
    (hs : Continued ctx entry s s') : Continues ctx r (visited ++ [entry]) s' := by
  obtain ⟨hcarries, hdrop, hentry⟩ := carries_of_continued hs hprior
  refine ⟨h.carries.trans hcarries, hdrop.trans h.drop_eq, fun other hother => ?_⟩
  rcases List.mem_append.mp hother with hother | hother
  · exact (h.visited other hother).imp_right (Or.imp_right (hcarries.decided other.1))
  · rw [List.mem_singleton.mp hother, ← h.drop_eq]
    exact hentry

theorem kept_of_decides (hr : Decides ctx (sortedPairs ctx.prior.pendingTeardowns.keys) r)
    (hs : Continues ctx r (ctx.prior.associations.entries.insertionSort
      fun a b => pairLe a.1 b.1) s) : Kept ctx s := by
  intro pair indices hprior
  have hentry : (pair, indices) ∈ ctx.prior.associations.entries.insertionSort
      fun a b => pairLe a.1 b.1 :=
    (List.mem_insertionSort _).mpr (Dict.get?_eq_some_iff.mp hprior)
  have hdecided : Decided ctx s pair := by
    rcases hs.visited _ hentry with hpending | hdropped | hdecided
    · exact hs.carries.decided pair (hr.visited pair ((List.mem_insertionSort _).mpr hpending))
    · exact hs.carries.decided pair (hr.dropped pair hdropped)
    · exact hdecided
  by_cases hmem : pair ∈ s.newAssociations
  · obtain ⟨found, hfound⟩ := Dict.mem_iff.mp hmem
    rcases (hr.carries.trans hs.carries).associations pair found hfound with hinitial | hbefore
    · cases hinitial
    · rw [hprior] at hbefore
      exact .inl (hbefore ▸ hfound)
  · exact .inr ⟨hmem, hdecided.resolve_left hmem⟩

theorem wp_carriedOver_kept (hctx : ContextFacts ctx) : wp (do
      forM (sortedPairs ctx.prior.pendingTeardowns.keys) (recoverTeardown ctx)
      forM (ctx.prior.associations.entries.insertionSort fun a b => pairLe a.1 b.1)
        (keepSteady ctx)) Allocation.initial (fun _ => Kept ctx) Raises := by
  rw [wp_bind]
  refine wp_imp (wp_forM (Decides ctx) (fun _ _ _ _ _ hs =>
    wp_imp (wp_recoverTeardown_recovered hctx) fun _ _ hs' => hs.recovered hs')
    ⟨⟨fun _ _ hget => .inl hget, fun _ h => h⟩, nofun, nofun⟩) fun _ r hr => ?_
  refine wp_imp (wp_forM (Continues ctx r) ?_ ⟨⟨fun _ _ hget => .inl hget, fun _ h => h⟩, rfl,
    nofun⟩) fun _ s hs => kept_of_decides hr hs
  intro visited entry rest s hentries hs
  have hmem : entry ∈ ctx.prior.associations.entries.insertionSort fun a b => pairLe a.1 b.1 := by
    rw [hentries]
    exact List.mem_append_right _ List.mem_cons_self
  exact wp_imp (wp_keepSteady_continued hctx) fun _ _ hs' => hs.continued
    (Dict.get?_eq_some_iff.mpr ((List.mem_insertionSort _).mp hmem)) hs'

theorem wp_allocationBody_kept (hctx : ContextFacts ctx) (hprior : PriorFacts ctx.config ctx.prior)
    (hunchallenged : Unchallenged ctx) :
    wp (allocationBody ctx) Allocation.initial (fun _ => Kept ctx) Raises := by
  refine wp_allocationBody_of (wp_mono (wp_and (wp_carriedOver hctx hprior)
    (wp_carriedOver_kept hctx)) (fun _ _ h => h) fun _ _ _ => trivial) ?_
  rintro passes s ⟨hinvariant, hkept⟩
  exact wp_imp (wp_candidatePasses hctx (Kept ctx)
    (fun _ h => h.congr fun _ _ => .inr ⟨rfl, rfl⟩)
    (fun _ _ step h => h.transition hctx hunchallenged step) passes hinvariant hkept)
    fun _ _ hs => hs.2

/-! ### Ticks -/

/-- In this tick no visible association of the previous one is outranked, on a satellite without
terminals for all, by a candidate of its tenant and reference body. -/
def UnchallengedTick (config : GroundConfig) (tick : GroundTick) (prior : GroundAuthority) : Prop :=
  ∀ pools candidates, normalizeSatelliteTerminalPools config = .ok pools →
    buildCandidates config tick pools = .ok candidates →
    ∀ c ∈ candidates.ranked, c.pair ∈ prior.associations →
      ¬ Outranked config pools candidates.ranked c

theorem unchallenged_of_tick {config : GroundConfig} {tick : GroundTick} {prior : GroundAuthority}
    (h : UnchallengedTick config tick prior) (hctx : prepareContext config tick prior = .ok ctx) :
    Unchallenged ctx := by
  simp only [prepareContext, bind_eq_ok_iff] at hctx
  obtain ⟨⟨⟩, -, pools, hpools, candidates, hcandidates, priorHolder, -, hctx⟩ := hctx
  obtain rfl := Except.ok.inj hctx
  exact h pools candidates hpools hcandidates

/-- The associations that stay over a tick of a run keep their terminals if none of them is
challenged. -/
theorem unchallenged_terminals_stick {config : GroundConfig} {tick tick' : GroundTick}
    {result result' : GroundAllocationResult} (run : GroundRun config tick result)
    (known : StationsKnown config tick') (h : UnchallengedTick config tick' result.authority)
    (returned : allocateGroundLinks config tick' result.authority = .ok result') :
    ∀ pair indices indices', result.authority.associations.get? pair = some indices →
      result'.authority.associations.get? pair = some indices' → indices' = indices := by
  simp only [allocateGroundLinks, bind_eq_ok_iff] at returned
  obtain ⟨ctx, hprepare, returned⟩ := returned
  have hctx := contextFacts_of_prepareContext known hprepare
  have hunchallenged := unchallenged_of_tick h hprepare
  obtain ⟨rfl, rfl, hprior, -⟩ := parts_of_prepareContext hprepare
  rw [← hprior]
  have hbody : wp (allocationBody ctx) Allocation.initial (fun _ => Kept ctx) Raises := by
    refine wp_allocationBody_kept hctx ?_ hunchallenged
    rw [hprior]
    exact priorFacts_of_authorityInvariant run.keeps.1
  split at returned
  · cases returned
  · rename_i s hexec
    rw [wp_of_exec_ok hexec] at hbody
    simp only [finishTick, bind_eq_ok_iff] at returned
    obtain ⟨unscheduled, -, windows, -, returned⟩ := returned
    obtain rfl := Except.ok.inj returned
    intro pair indices indices' hbefore hafter
    rcases hbody pair indices hbefore with hkept | hgone
    · exact Option.some.inj (hafter.symm.trans hkept)
    · exact absurd (Dict.mem_of_get? hafter) hgone.1

/-! ### Three links and two stations -/

/-- A station with two terminals and a better-ranked one with a single terminal, both
break-before-make. -/
def sharedConfig : GroundConfig where
  groundStationIds := ["gs-a", "gs-b"]
  gsTerminalIndices := Dict.ofList [("gs-a", [0, 1]), ("gs-b", [0])]
  gsSelectionPolicies := Dict.ofList [("gs-a", .highestElevation), ("gs-b", .highestElevation)]
  gsMinElevations := Dict.ofList [("gs-a", 25), ("gs-b", 25)]
  gsHandoverPolicies := Dict.ofList [("gs-a", .none), ("gs-b", .none)]
  gsHandoverModes := Dict.ofList [("gs-a", .bbm), ("gs-b", .bbm)]
  gsMbbOverlapTicks := Dict.ofList [("gs-a", 0), ("gs-b", 0)]
  gsMbbReserve := Dict.ofList [("gs-a", 0), ("gs-b", 0)]
  gsServicePriorities := Dict.ofList [("gs-a", 10), ("gs-b", 1)]
  gsTenantIds := Dict.ofList [("gs-a", "default"), ("gs-b", "default")]
  gsReferenceBodies := Dict.ofList [("gs-a", .earth), ("gs-b", .earth)]
  satGroundTerminals := Dict.ofList [("sat-s", 1), ("sat-t", 1)]
  satGroundTerminalIndicesByBody := Dict.ofList
    [("sat-s", Dict.ofList [(.earth, [0])]), ("sat-t", Dict.ofList [(.earth, [0])])]
  rankingOrder := [.servicePriority, .lexPair]
  successorAbortPolicy := .softRetain
  bbmAcquireTimeoutTicks := 1
  ignoredCapacityFields := []

def sharedTick (step : Nat) (seenByB : List GroundVisibility) : GroundTick where
  step := step
  visiblePerStation := Dict.ofList
    [("gs-a", [⟨"sat-s", true, 40, none⟩]), ("gs-b", seenByB)]
  simTimeUnix := step
  pairDelaysMs := Dict.ofList
    [(("gs-a", "sat-s"), (3, 3)), (("gs-b", "sat-s"), (3, 3)), (("gs-b", "sat-t"), (3, 3))]

/-- Both satellites rise at the second station, the lower one first in rank. -/
def contestedTick : GroundTick :=
  sharedTick 1 [⟨"sat-s", true, 35, none⟩, ⟨"sat-t", true, 60, none⟩]

theorem stationsKnown_shared {step : Nat} {seenByB : List GroundVisibility} :
    StationsKnown sharedConfig (sharedTick step seenByB) := by
  intro gsId hgs
  have hmem : gsId ∈ ["gs-a", "gs-b"] := hgs
  exact hmem

/-- The second station takes the satellite from the first and leaves it again for the better one;
the first gets its link back within the tick, on its other terminal. -/
theorem reacquired_link_moves : ∃ result result',
    GroundRun sharedConfig (sharedTick 0 []) result ∧
    allocateGroundLinks sharedConfig contestedTick result.authority = .ok result' ∧
    result.authority.associations.get? ("gs-a", "sat-s") = some (0, 0) ∧
    result'.authority.associations.get? ("gs-a", "sat-s") = some (1, 0) := by
  have hreturned : (do
      let result ← allocateGroundLinks sharedConfig (sharedTick 0 []) GroundAuthority.initial
      let result' ← allocateGroundLinks sharedConfig contestedTick result.authority
      Except.ok (result.authority.associations.get? ("gs-a", "sat-s"),
        result'.authority.associations.get? ("gs-a", "sat-s"))) =
      .ok (some (0, 0), some (1, 0)) := by decide +kernel
  simp only [bind_eq_ok_iff] at hreturned
  obtain ⟨result, hfirst, result', hnext, hindices⟩ := hreturned
  obtain ⟨hbefore, hafter⟩ := Prod.mk.inj (Except.ok.inj hindices)
  exact ⟨result, result', .first stationsKnown_shared hfirst, hnext, hbefore, hafter⟩

def calmTick : GroundTick :=
  sharedTick 1 [⟨"sat-t", true, 60, none⟩]

theorem calmTick_unchallenged (prior : GroundAuthority) :
    UnchallengedTick sharedConfig calmTick prior := by
  have hnone : (do
      let pools ← normalizeSatelliteTerminalPools sharedConfig
      let candidates ← buildCandidates sharedConfig calmTick pools
      Except.ok (decide (∀ c ∈ candidates.ranked, ∀ d ∈ candidates.ranked,
        d.satId = c.satId → rankKeyLt d.rankKey c.rankKey = false))) = .ok true := by
    decide +kernel
  rintro pools candidates hpools hcandidates c hc - ⟨d, hd, hsat, hlt, -⟩
  simp only [bind_eq_ok_iff, hpools, Except.ok.injEq, exists_eq_left', hcandidates,
    decide_eq_true_eq] at hnone
  rw [hnone c hc d hd hsat] at hlt
  cases hlt

/-- Where only the other satellite rises, the link stays where it is. -/
theorem uncontested_link_stays : ∃ result result',
    GroundRun sharedConfig (sharedTick 0 []) result ∧
    allocateGroundLinks sharedConfig calmTick result.authority = .ok result' ∧
    result'.authority.associations.get? ("gs-a", "sat-s") =
      result.authority.associations.get? ("gs-a", "sat-s") ∧
    result.authority.associations.get? ("gs-a", "sat-s") = some (0, 0) := by
  have hreturned : (do
      let result ← allocateGroundLinks sharedConfig (sharedTick 0 []) GroundAuthority.initial
      let result' ← allocateGroundLinks sharedConfig calmTick result.authority
      Except.ok (result.authority.associations.get? ("gs-a", "sat-s"),
        (result'.authority.associations.get? ("gs-a", "sat-s")).isSome)) =
      .ok (some (0, 0), true) := by decide +kernel
  simp only [bind_eq_ok_iff] at hreturned
  obtain ⟨result, hfirst, result', hnext, hindices⟩ := hreturned
  obtain ⟨hbefore, hafter⟩ := Prod.mk.inj (Except.ok.inj hindices)
  obtain ⟨indices', hafter⟩ := Option.isSome_iff_exists.mp hafter
  have hrun : GroundRun sharedConfig (sharedTick 0 []) result := .first stationsKnown_shared hfirst
  have hsame := unchallenged_terminals_stick hrun stationsKnown_shared (calmTick_unchallenged _)
    hnext _ _ _ hbefore hafter
  exact ⟨result, result', hrun, hnext, by rw [hafter, hbefore, hsame], hbefore⟩

end NodalArc.StickyTerminals
