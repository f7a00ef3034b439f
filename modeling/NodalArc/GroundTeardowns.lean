import NodalArc.GroundAllocatorRuns

/-! Make-before-break overlaps over ticks and runs: a teardown in flight is carried unchanged or
ends with one lifecycle event, and every new one is announced once. -/

namespace NodalArc.GroundTeardowns

open OrderedDict
open StatefulProgram
open GroundPolicy
open GroundAllocator
open GroundCandidates
open GroundAllocatorInvariant
open GroundAllocatorSteps
open GroundAllocatorRecovery
open GroundAllocatorRuns
open GroundTransitions
open Program

variable {ctx : AllocationContext} {r s s' : Allocation} {c d incumbent : Candidate}
    {indices : Indices} {pair : Pair} {gsId nodeId : NodeId}

section Ticks

variable {tick : GroundTick} {config : GroundConfig} {result : GroundAllocationResult}
    {results : List GroundAllocationResult} {teardown : MbbTeardown} {prior : GroundAuthority}
    {visited : List Pair}

def startedBy (events : List AllocationEvent) (pair : Pair) : List AllocationEvent :=
  events.filter fun event => event.category = .mbbOverlapStarted ∧ event.pair = pair

def endedFor (events : List LifecycleEvent) (pair : Pair) : List LifecycleEvent :=
  events.filter (·.oldPair = pair)

theorem startedBy_append {events more : List AllocationEvent}
    (h : ∀ event ∈ more, event.category ≠ .mbbOverlapStarted) :
    startedBy (events ++ more) pair = startedBy events pair := by
  have hnone : more.filter (fun event => event.category = .mbbOverlapStarted ∧ event.pair = pair) =
      [] := List.filter_eq_nil_iff.mpr fun event hevent => by simp [h event hevent]
  rw [startedBy, List.filter_append, hnone, List.append_nil, startedBy]

/-! ### The candidate passes -/

/-- The passes neither report an end nor drop a teardown, and announce each new one once. -/
structure Ledger (step : Int) (r s : Allocation) : Prop where
  lifecycle_eq : s.lifecycleEvents = r.lifecycleEvents
  kept : ∀ pair teardown, r.newPendingTeardowns.get? pair = some teardown →
    s.newPendingTeardowns.get? pair = some teardown
  started : ∀ pair teardown, s.newPendingTeardowns.get? pair = some teardown →
    pair ∉ r.newPendingTeardowns → teardown.startStep = step ∧
      ∃ event, startedBy s.allocationEvents pair = [event] ∧
        event.successorPair = some teardown.successorPair
  silent : ∀ pair, pair ∉ s.newPendingTeardowns → startedBy s.allocationEvents pair = []

theorem Ledger.congr {step : Int} (h : Ledger step r s)
    (hlifecycle : s'.lifecycleEvents = s.lifecycleEvents)
    (hpending : ∀ pair, s'.newPendingTeardowns.get? pair = s.newPendingTeardowns.get? pair)
    (hstarted : ∀ pair, startedBy s'.allocationEvents pair = startedBy s.allocationEvents pair) :
    Ledger step r s' where
  lifecycle_eq := hlifecycle.trans h.lifecycle_eq
  kept := fun pair teardown hget => (hpending pair).trans (h.kept pair teardown hget)
  started := fun pair teardown hget hnew => by
    rw [hstarted]
    exact h.started pair teardown ((hpending pair).symm.trans hget) hnew
  silent := fun pair hnot => by
    rw [hstarted]
    refine h.silent pair fun hin => hnot ?_
    obtain ⟨teardown, hget⟩ := Dict.mem_iff.mp hin
    exact Dict.mem_of_get? ((hpending pair).trans hget)

theorem Ledger.transition (h : Ledger ctx.tick.step r s) (step : Transition ctx s s') :
    Ledger ctx.tick.step r s' := by
  cases step with
  | reject => exact h.congr rfl (fun _ => rfl) fun _ => rfl
  | release c incumbent indices cause rejection events mem holds unprotected gaps =>
    refine h.congr rfl (fun pair => ?_) fun pair => ?_
    · -- an incumbent that no overlap protects has no teardown to lose
      rw [releaseWith, TerminalBook.vacate, Dict.get?_erase]
      split
      · rename_i heq
        rw [heq, eq_comm, Dict.get?_eq_none_iff]
        exact fun hin => unprotected (mem_protectedMbbPairs_iff.mpr (.inl hin))
      · rfl
    · exact startedBy_append fun event hevent => by simp [gaps event hevent]
  | acquire c indices gsEvents satEvents mem new unlocked fits atStation onSatellite =>
    refine h.congr rfl (fun _ => rfl) fun pair => startedBy_append fun event hevent => ?_
    rcases List.mem_append.mp hevent with hevent | hevent
    · simp [atStation.retargets event hevent]
    · simp [onSatellite.retargets event hevent]
  | overlap c incumbent event steady started named succeeded =>
    have hevents : ∀ pair, startedBy (s.allocationEvents ++ [event]) pair =
        startedBy s.allocationEvents pair ++ if pair = incumbent.pair then [event] else [] := by
      intro pair
      rw [startedBy, List.filter_append, startedBy]
      by_cases hpair : pair = incumbent.pair <;> simp [started, named, hpair, eq_comm]
    constructor
    case lifecycle_eq => exact h.lifecycle_eq
    case kept =>
      intro pair teardown hget
      have hne : pair ≠ incumbent.pair := by
        rintro rfl
        exact steady (Dict.mem_of_get? (h.kept _ _ hget))
      simpa [overlapWith, TerminalBook.setTeardown, hne] using h.kept pair teardown hget
    case started =>
      intro pair teardown hget hnew
      simp only [overlapWith, TerminalBook.setTeardown, Dict.get?_insert] at hget
      rw [overlapWith, hevents]
      split at hget
      · rename_i heq
        obtain rfl := Option.some.inj hget
        subst heq
        exact ⟨rfl, event, by simp [h.silent _ steady], succeeded⟩
      · rename_i hne
        rw [if_neg hne, List.append_nil]
        exact h.started pair teardown hget hnew
    case silent =>
      intro pair hnot
      simp only [overlapWith, TerminalBook.setTeardown, Dict.mem_insert, not_or] at hnot
      rw [overlapWith, hevents, if_neg hnot.1, List.append_nil]
      exact h.silent pair hnot.2

/-! ### Recovery and continuity -/

/-- A teardown of the previous tick is kept without a report, or gone with one. -/
def Settled (pending : Dict Pair MbbTeardown) (events : List LifecycleEvent) (pair : Pair)
    (teardown : MbbTeardown) : Prop :=
  (pending.get? pair = some teardown ∧ endedFor events pair = []) ∨
    (pair ∉ pending ∧ ∃ event, endedFor events pair = [event] ∧
      event.successorPair = teardown.successorPair ∧
      (event.category = .teardownCompleted ∨ event.category = .successorAborted))

/-- The invariant of the recovery loop over the teardowns already visited. -/
structure Settling (ctx : AllocationContext) (visited : List Pair) (s : Allocation) : Prop where
  settled : ∀ pair ∈ visited, ∀ teardown, ctx.prior.pendingTeardowns.get? pair = some teardown →
    Settled s.newPendingTeardowns s.lifecycleEvents pair teardown
  pending : ∀ pair ∈ s.newPendingTeardowns, pair ∈ visited
  named : ∀ event ∈ s.lifecycleEvents, event.oldPair ∈ visited
  silent : ∀ pair, startedBy s.allocationEvents pair = []

theorem Settling.settled_other {other : Pair}
    (h : Settling ctx visited s) (hother : other ∈ visited)
    (hget : ctx.prior.pendingTeardowns.get? other = some teardown)
    (hpending : s'.newPendingTeardowns.get? other = s.newPendingTeardowns.get? other)
    (hended : endedFor s'.lifecycleEvents other = endedFor s.lifecycleEvents other) :
    Settled s'.newPendingTeardowns s'.lifecycleEvents other teardown := by
  have hmem : other ∈ s'.newPendingTeardowns ↔ other ∈ s.newPendingTeardowns := by
    rw [Dict.mem_iff, Dict.mem_iff, hpending]
  rw [Settled, hpending, hended, hmem]
  exact h.settled other hother teardown hget

theorem startedBy_noted {notes : Notes} (h : Noted notes s s')
    (hcategories : .mbbOverlapStarted ∉ notes.categories) :
    startedBy s'.allocationEvents pair = startedBy s.allocationEvents pair := by
  obtain ⟨events, hevents, hallowed⟩ := h.events
  rw [hevents]
  exact startedBy_append fun event hevent heq => hcategories (heq ▸ hallowed event hevent)

theorem Settling.ended {visited gone : List Pair}
    (hprior : SuccessorsSteady ctx.prior) (h : Settling ctx visited s) (hnew : pair ∉ visited)
    (hget : ctx.prior.pendingTeardowns.get? pair = some teardown)
    (hended : Ended ctx pair teardown gone s s') : Settling ctx (visited ++ [pair]) s' := by
  have hcurrent : successorCurrent ctx.prior teardown = true :=
    decide_eq_true (hprior pair teardown hget)
  obtain ⟨event, hnoted, hold, hsucc, hcategory⟩ := hended.reported
  rw [hcurrent] at hcategory
  have hpending : s'.newPendingTeardowns = s.newPendingTeardowns := by
    rcases hended.book with hbook | ⟨-, _, -, c, -, -, -, hbook⟩ <;> simp [hbook, TerminalBook.occupy]
  have hended : ∀ other, endedFor s'.lifecycleEvents other =
      endedFor s.lifecycleEvents other ++ if other = pair then [event] else [] := by
    intro other
    rw [endedFor, hnoted.lifecycle_eq, List.filter_append, endedFor]
    by_cases hother : other = pair <;> simp [hold, hother, eq_comm]
  constructor
  case settled =>
    intro other hother found hfound
    by_cases heq : other = pair
    · subst heq
      obtain rfl := Option.some.inj (hget.symm.trans hfound)
      refine .inr ⟨fun hin => hnew (h.pending _ (hpending ▸ hin)), event, ?_, hsucc, hcategory⟩
      have hnone : endedFor s.lifecycleEvents other = [] :=
        List.filter_eq_nil_iff.mpr fun e he heold => hnew (of_decide_eq_true heold ▸ h.named e he)
      rw [hended, hnone, if_pos rfl, List.nil_append]
    · have hvisited : other ∈ visited := by simpa [heq] using hother
      refine h.settled_other hvisited hfound (by rw [hpending]) ?_
      rw [hended, if_neg heq, List.append_nil]
  case pending =>
    intro other hother
    exact List.mem_append_left _ (h.pending other (hpending ▸ hother))
  case named =>
    intro e he
    rw [hnoted.lifecycle_eq] at he
    rcases List.mem_append.mp he with he | he
    · exact List.mem_append_left _ (h.named e he)
    · rw [List.mem_singleton.mp he, hold]
      exact List.mem_append_right _ (List.mem_singleton_self _)
  case silent =>
    intro other
    refine (startedBy_noted hnoted ?_).trans (h.silent other)
    simp [endNotes, hcurrent]

theorem Settling.keep {b : TerminalBook} (h : Settling ctx visited s) (hnew : pair ∉ visited)
    (hget : ctx.prior.pendingTeardowns.get? pair = some teardown)
    (hreadded : Readded ctx pair indices s.toTerminalBook b) : Settling ctx (visited ++ [pair])
      { s with toTerminalBook := b.setTeardown pair teardown } := by
  have hpending : b.newPendingTeardowns = s.newPendingTeardowns := by
    obtain ⟨c, -, -, -, rfl⟩ := hreadded
    rfl
  constructor
  case settled =>
    intro other hother found hfound
    by_cases heq : other = pair
    · subst heq
      obtain rfl := Option.some.inj (hget.symm.trans hfound)
      refine .inl ⟨by simp [TerminalBook.setTeardown], List.filter_eq_nil_iff.mpr ?_⟩
      exact fun e he heold => hnew (of_decide_eq_true heold ▸ h.named e he)
    · have hvisited : other ∈ visited := by simpa [heq] using hother
      refine h.settled_other hvisited hfound ?_ rfl
      simp [TerminalBook.setTeardown, heq, hpending]
  case pending =>
    intro other hother
    simp only [TerminalBook.setTeardown, Dict.mem_insert, hpending] at hother
    rcases hother with rfl | hother
    · exact List.mem_append_right _ (List.mem_singleton_self _)
    · exact List.mem_append_left _ (h.pending other hother)
  case named => exact fun e he => List.mem_append_left _ (h.named e he)
  case silent => exact h.silent

theorem Settling.recovered (hprior : SuccessorsSteady ctx.prior)
    (h : Settling ctx visited s) (hnew : pair ∉ visited) (hs : Recovered ctx pair s s') :
    Settling ctx (visited ++ [pair]) s' := by
  cases hs with
  | ended teardown gone hget hended => exact h.ended hprior hnew hget hended
  | kept teardown indices b hget _ _ hreadded => exact h.keep hnew hget hreadded

theorem Settling.continued {entry : Pair × Indices}
    (h : Settling ctx visited s) (hs : Continued ctx entry s s') : Settling ctx visited s' := by
  cases hs with
  | decided => exact h
  | lost _ hnoted =>
    refine ⟨fun pair hpair teardown hget => ?_, fun pair hpair => ?_, fun event hevent => ?_,
      fun pair => (startedBy_noted hnoted (by decide)).trans (h.silent pair)⟩
    · exact h.settled_other hpair hget (by rw [hnoted.book_eq]) (by rw [hnoted.lifecycle_eq])
    · exact h.pending pair (hnoted.book_eq ▸ hpair)
    · exact h.named event (hnoted.lifecycle_eq ▸ hevent)
  | kept b _ _ _ hreadded =>
    obtain ⟨c, -, -, -, rfl⟩ := hreadded
    exact ⟨h.settled, h.pending, h.named, h.silent⟩

theorem settling_initial (ctx : AllocationContext) : Settling ctx [] Allocation.initial where
  settled := fun _ hpair => absurd hpair List.not_mem_nil
  pending := fun _ hpair => absurd hpair Dict.not_mem_empty
  named := fun _ hevent => absurd hevent List.not_mem_nil
  silent := fun _ => rfl

theorem wp_carriedOver_settling (hctx : ContextFacts ctx) (hprior : SuccessorsSteady ctx.prior) :
    wp (do
      forM (sortedPairs ctx.prior.pendingTeardowns.keys) (recoverTeardown ctx)
      forM (ctx.prior.associations.entries.insertionSort fun a b => pairLe a.1 b.1)
        (keepSteady ctx)) Allocation.initial
      (fun _ s => Settling ctx (sortedPairs ctx.prior.pendingTeardowns.keys) s) Raises := by
  rw [wp_bind]
  have hnodup : (sortedPairs ctx.prior.pendingTeardowns.keys).Nodup :=
    (List.perm_insertionSort _ _).nodup_iff.mpr (Dict.keys_nodup _)
  refine wp_imp (wp_forM (Settling ctx) ?_ (settling_initial ctx)) fun _ r hr => ?_
  · intro visited pair rest s hpairs hs
    rw [hpairs] at hnodup
    refine wp_imp (wp_recoverTeardown_recovered hctx) fun _ s' hs' =>
      hs.recovered hprior (fun hin => ?_) hs'
    exact (List.nodup_append.mp hnodup).2.2 pair hin pair List.mem_cons_self rfl
  · exact wp_forM_invariant _ (fun entry _ s hs => wp_imp (wp_keepSteady_continued hctx)
      fun _ s' hs' => hs.continued hs') hr

/-! ### One tick -/

/-- Each teardown of the state before is carried unchanged without a lifecycle event, or is gone
with exactly one, which names its two pairs; no other end is reported; and each teardown that was
not there before starts at this step with exactly one announcement. -/
structure Conserved (tick : GroundTick) (prior : GroundAuthority)
    (result : GroundAllocationResult) : Prop where
  carried : ∀ pair teardown, prior.pendingTeardowns.get? pair = some teardown →
    (result.authority.pendingTeardowns.get? pair = some teardown ∧
      endedFor result.lifecycleEvents pair = []) ∨
    (result.authority.pendingTeardowns.get? pair ≠ some teardown ∧
      ∃ event, endedFor result.lifecycleEvents pair = [event] ∧
        event.successorPair = teardown.successorPair ∧
        (event.category = .teardownCompleted ∨ event.category = .successorAborted))
  named : ∀ event ∈ result.lifecycleEvents, event.oldPair ∈ prior.pendingTeardowns
  started : ∀ pair teardown, result.authority.pendingTeardowns.get? pair = some teardown →
    prior.pendingTeardowns.get? pair ≠ some teardown → teardown.startStep = tick.step ∧
      ∃ event, startedBy result.allocationEvents pair = [event] ∧
        event.successorPair = some teardown.successorPair

/-- A state that a call may start from: none before the first tick, or what an earlier call of a
run returned. -/
inductive Before (config : GroundConfig) (tick : GroundTick) : GroundAuthority → Prop
  | initial : Before config tick GroundAuthority.initial
  | after {earlier : GroundTick} {result : GroundAllocationResult}
      (run : GroundRun config earlier result) (later : earlier.step < tick.step) :
      Before config tick result.authority

theorem Before.run (h : Before config tick prior) (known : StationsKnown config tick)
    (returned : allocateGroundLinks config tick prior = .ok result) :
    GroundRun config tick result := by
  cases h with
  | initial => exact .first known returned
  | after run later => exact .next run later known returned

theorem Before.priorFacts
    (h : Before config tick prior) (hchecks : checkInputs config tick = .ok ()) :
    PriorFacts config prior := by
  cases h with
  | initial => exact priorFacts_initial hchecks
  | after run => exact priorFacts_of_authorityInvariant run.keeps.1

theorem exists_exec_of_allocateGroundLinks (known : StationsKnown config tick)
    (returned : allocateGroundLinks config tick prior = .ok result) :
    ∃ ctx s u, prepareContext config tick prior = .ok ctx ∧ ContextFacts ctx ∧
      (allocationBody ctx).exec Allocation.initial = (.ok u, s) ∧
      finishTick ctx s = .ok result := by
  simp only [allocateGroundLinks, bind_eq_ok_iff] at returned
  obtain ⟨ctx, hprepare, returned⟩ := returned
  have hctx := contextFacts_of_prepareContext known hprepare
  split at returned
  · cases returned
  · rename_i u s hexec
    exact ⟨ctx, s, u, hprepare, hctx, hexec, returned⟩

theorem conserved_of_earlier (hbefore : Before config tick prior)
    (hearlier : ∀ pair teardown, prior.pendingTeardowns.get? pair = some teardown →
      teardown.startStep < tick.step) (known : StationsKnown config tick)
    (returned : allocateGroundLinks config tick prior = .ok result) :
    Conserved tick prior result := by
  obtain ⟨ctx, s, u, hprepare, hctx, hexec, hfinish⟩ :=
    exists_exec_of_allocateGroundLinks known returned
  obtain ⟨rfl, rfl, rfl, hchecks⟩ := parts_of_prepareContext hprepare
  have hprior := hbefore.priorFacts hchecks
  have hsteady : SuccessorsSteady ctx.prior := fun pair teardown hget =>
    ⟨(hprior.teardowns pair teardown hget).1, (hprior.teardowns pair teardown hget).2.1⟩
  have hvisited : ∀ pair, pair ∈ sortedPairs ctx.prior.pendingTeardowns.keys ↔
      pair ∈ ctx.prior.pendingTeardowns := fun pair => List.mem_insertionSort _
  have hbody : wp (allocationBody ctx) Allocation.initial (fun _ s => ∃ r,
      Settling ctx (sortedPairs ctx.prior.pendingTeardowns.keys) r ∧ Ledger ctx.tick.step r s)
      Raises := by
    refine wp_allocationBody_of (wp_mono (wp_and (wp_carriedOver hctx hprior)
      (wp_carriedOver_settling hctx hsteady)) (fun _ _ h => h) fun _ _ _ => trivial) ?_
    rintro passes r ⟨hinvariant, hr⟩
    refine wp_imp (wp_candidatePasses hctx (Ledger ctx.tick.step r)
      (fun _ h => h.congr rfl (fun _ => rfl) fun _ => rfl) (fun _ _ step h => h.transition step)
      passes hinvariant ?_) fun _ s hs => ⟨r, hr, hs.2⟩
    exact ⟨rfl, fun _ _ hget => hget, fun pair _ hget hnot => absurd (Dict.mem_of_get? hget) hnot,
      fun pair _ => hr.silent pair⟩
  rw [wp_of_exec_ok hexec] at hbody
  obtain ⟨r, hr, hs⟩ := hbody
  simp only [finishTick, bind_eq_ok_iff] at hfinish
  obtain ⟨unscheduled, -, windows, -, hfinish⟩ := hfinish
  obtain rfl := Except.ok.inj hfinish
  -- a teardown that starts in this tick differs from every earlier one by its step
  have hfresh : ∀ pair teardown, s.newPendingTeardowns.get? pair = some teardown →
      pair ∉ r.newPendingTeardowns → ctx.prior.pendingTeardowns.get? pair ≠ some teardown := by
    intro pair teardown hget hnew hpriorGet
    have := (hs.started pair teardown hget hnew).1
    have := hearlier pair teardown hpriorGet
    omega
  refine ⟨fun pair teardown hget => ?_, fun event hevent => ?_, fun pair teardown hget hnew => ?_⟩
  · simp only [hs.lifecycle_eq]
    rcases hr.settled pair ((hvisited pair).mpr (Dict.mem_of_get? hget)) teardown hget with
      ⟨hkept, hended⟩ | ⟨hgone, hended⟩
    · exact .inl ⟨hs.kept pair teardown hkept, hended⟩
    · exact .inr ⟨fun hafter => hfresh pair teardown hafter hgone hget, hended⟩
  · exact (hvisited _).mp (hr.named event (hs.lifecycle_eq ▸ hevent))
  · refine hs.started pair teardown hget fun hin => hnew ?_
    obtain ⟨found, hfound⟩ := Dict.mem_iff.mp hin
    obtain rfl := Option.some.inj (hget.symm.trans (hs.kept pair found hfound))
    have hpriorMem := (hvisited pair).mp (hr.pending pair hin)
    obtain ⟨before, hbeforeGet⟩ := Dict.mem_iff.mp hpriorMem
    rcases hr.settled pair ((hvisited pair).mpr hpriorMem) before hbeforeGet with ⟨hkept, -⟩ | hgone
    · obtain rfl := Option.some.inj (hkept.symm.trans hfound)
      exact hbeforeGet
    · exact absurd hin hgone.1

theorem Conserved.startStep_le (h : Conserved tick prior result)
    (hearlier : ∀ pair teardown, prior.pendingTeardowns.get? pair = some teardown →
      teardown.startStep < tick.step)
    (hget : result.authority.pendingTeardowns.get? pair = some teardown) :
    teardown.startStep ≤ tick.step := by
  by_cases hold : prior.pendingTeardowns.get? pair = some teardown
  · exact (hearlier pair teardown hold).le
  · exact (h.started pair teardown hget hold).1.le

theorem startStep_le (run : GroundRun config tick result)
    (hget : result.authority.pendingTeardowns.get? pair = some teardown) :
    teardown.startStep ≤ tick.step := by
  induction run generalizing pair teardown with
  | first known returned =>
    exact (conserved_of_earlier .initial nofun known returned).startStep_le nofun hget
  | next run later known returned ih =>
    have hearlier := fun pair teardown hget => (@ih pair teardown hget).trans_lt later
    exact (conserved_of_earlier (.after run later) hearlier known returned).startStep_le hearlier
      hget

theorem conserved (hbefore : Before config tick prior) (known : StationsKnown config tick)
    (returned : allocateGroundLinks config tick prior = .ok result) :
    Conserved tick prior result := by
  refine conserved_of_earlier hbefore ?_ known returned
  cases hbefore with
  | initial => exact nofun
  | after run later => exact fun pair teardown hget => (startStep_le run hget).trans_lt later

end Ticks

/-! ### Runs -/

/-- Results that follow a result of a run, each tick later than the one before. -/
inductive Follows (config : GroundConfig) :
    GroundTick → GroundAllocationResult → List GroundAllocationResult → Prop
  | nil {tick result} : Follows config tick result []
  | cons {tick tick' result result' results} (later : tick.step < tick'.step)
      (known : StationsKnown config tick')
      (returned : allocateGroundLinks config tick' result.authority = .ok result')
      (rest : Follows config tick' result' results) :
      Follows config tick result (result' :: results)

/-- The ends that a sequence of results reports for a teardown while it is in flight. -/
def endings (pair : Pair) (teardown : MbbTeardown) :
    GroundAuthority → List GroundAllocationResult → List LifecycleEvent
  | _, [] => []
  | prior, result :: results =>
      (if prior.pendingTeardowns.get? pair = some teardown
        then endedFor result.lifecycleEvents pair else []) ++
        endings pair teardown result.authority results

def lastAuthority (authority : GroundAuthority) (results : List GroundAllocationResult) :
    GroundAuthority := (results.getLast?.map GroundAllocationResult.authority).getD authority

theorem lastAuthority_cons (authority : GroundAuthority) (result : GroundAllocationResult)
    (results : List GroundAllocationResult) :
    lastAuthority authority (result :: results) = lastAuthority result.authority results := by
  cases results with
  | nil => rfl
  | cons next rest => simp [lastAuthority, List.getLast?_cons]

theorem Follows.stays_gone {config : GroundConfig} {tick : GroundTick}
    {result : GroundAllocationResult} {results : List GroundAllocationResult}
    {teardown : MbbTeardown} (h : Follows config tick result results)
    (run : GroundRun config tick result) (hstep : teardown.startStep ≤ tick.step)
    (hgone : result.authority.pendingTeardowns.get? pair ≠ some teardown) :
    (lastAuthority result.authority results).pendingTeardowns.get? pair ≠ some teardown ∧
      endings pair teardown result.authority results = [] := by
  induction h with
  | nil => exact ⟨hgone, rfl⟩
  | cons later known returned rest ih =>
    have hconserved := conserved (.after run later) known returned
    have hgone' := ih (.next run later known returned) (hstep.trans later.le) fun hback => by
      have := (hconserved.started pair teardown hback hgone).1
      omega
    rw [lastAuthority_cons, endings, if_neg hgone, List.nil_append]
    exact hgone'

/-- Over whatever follows, a teardown in flight is still there without a report, or is gone with
exactly one, which names its two pairs. -/
theorem Follows.endings {config : GroundConfig} {tick : GroundTick}
    {result : GroundAllocationResult} {results : List GroundAllocationResult}
    {teardown : MbbTeardown} (h : Follows config tick result results)
    (run : GroundRun config tick result)
    (hget : result.authority.pendingTeardowns.get? pair = some teardown) :
    ((lastAuthority result.authority results).pendingTeardowns.get? pair = some teardown ∧
      endings pair teardown result.authority results = []) ∨
    ((lastAuthority result.authority results).pendingTeardowns.get? pair ≠ some teardown ∧
      ∃ event, endings pair teardown result.authority results = [event] ∧
        event.oldPair = pair ∧ event.successorPair = teardown.successorPair ∧
        (event.category = .teardownCompleted ∨ event.category = .successorAborted)) := by
  induction h with
  | nil => exact .inl ⟨hget, rfl⟩
  | cons later known returned rest ih =>
    have hnext := GroundRun.next run later known returned
    rw [lastAuthority_cons, GroundTeardowns.endings, if_pos hget]
    rcases (conserved (.after run later) known returned).carried pair teardown hget with
      ⟨hkept, hnone⟩ | ⟨hgone, event, hended, hsucc, hcategory⟩
    · rw [hnone, List.nil_append]
      exact ih hnext hkept
    · have hstep := (startStep_le run hget).trans later.le
      obtain ⟨hlast, hnone⟩ := rest.stays_gone hnext hstep hgone
      have hmem : event ∈ endedFor _ pair := hended ▸ List.mem_singleton_self event
      have hold : event.oldPair = pair := of_decide_eq_true (List.mem_filter.mp hmem).2
      exact .inr ⟨hlast, event, by rw [hended, hnone, List.append_nil], hold, hsucc, hcategory⟩

/-- Teardowns are conserved by every call of a run, and over the calls that follow one. -/
theorem teardowns_conserved {config : GroundConfig} {tick : GroundTick} {prior : GroundAuthority}
    {result : GroundAllocationResult} (hbefore : Before config tick prior)
    (known : StationsKnown config tick)
    (returned : allocateGroundLinks config tick prior = .ok result) :
    Conserved tick prior result ∧
    ∀ results pair teardown, Follows config tick result results →
      result.authority.pendingTeardowns.get? pair = some teardown →
      ((lastAuthority result.authority results).pendingTeardowns.get? pair = some teardown ∧
        endings pair teardown result.authority results = []) ∨
      ((lastAuthority result.authority results).pendingTeardowns.get? pair ≠ some teardown ∧
        ∃ event, endings pair teardown result.authority results = [event] ∧
          event.oldPair = pair ∧ event.successorPair = teardown.successorPair ∧
          (event.category = .teardownCompleted ∨ event.category = .successorAborted)) :=
  ⟨conserved hbefore known returned, fun _ _ _ hfollows hget =>
    hfollows.endings (hbefore.run known returned) hget⟩

def overlapEndTick : GroundTick :=
  { handoverTick with
    step := 3
    pairDelaysMs := Dict.ofList [(("gs-earth", "sat-relay"), (3, 3))] }

theorem stationsKnown_overlapEnd : StationsKnown relayConfig overlapEndTick := by
  unfold StationsKnown
  decide +kernel

/-- The overlap of the handover ends with its one report. -/
theorem relayed_overlap_completes : ∃ first result result',
    allocateGroundLinks relayConfig relayTick GroundAuthority.initial = .ok first ∧
    allocateGroundLinks relayConfig handoverTick first.authority = .ok result ∧
    allocateGroundLinks relayConfig overlapEndTick result.authority = .ok result' ∧
    result.authority.pendingTeardowns.keys = [("gs-earth", "sat-relay")] ∧
    result'.lifecycleEvents.map LifecycleEvent.category = [.teardownCompleted] ∧
    Conserved overlapEndTick result.authority result' := by
  have hreturned : (do
      let first ← allocateGroundLinks relayConfig relayTick GroundAuthority.initial
      let result ← allocateGroundLinks relayConfig handoverTick first.authority
      let result' ← allocateGroundLinks relayConfig overlapEndTick result.authority
      Except.ok (result.authority.pendingTeardowns.keys,
        result'.lifecycleEvents.map LifecycleEvent.category)) =
      .ok ([("gs-earth", "sat-relay")], [.teardownCompleted]) := by decide +kernel
  simp only [bind_eq_ok_iff] at hreturned
  obtain ⟨first, hfirst, result, hnext, result', hlast, hvalues⟩ := hreturned
  obtain ⟨hkeys, hcategories⟩ := Prod.mk.inj (Except.ok.inj hvalues)
  have hknown : StationsKnown relayConfig relayTick := by
    unfold StationsKnown
    decide +kernel
  have hknown' : StationsKnown relayConfig handoverTick := by
    unfold StationsKnown
    decide +kernel
  have hrun := GroundRun.next (.first hknown hfirst) (by decide) hknown' hnext
  have hbefore : Before relayConfig overlapEndTick result.authority := .after hrun (by decide)
  exact ⟨first, result, result', hfirst, hnext, hlast, hkeys, hcategories,
    (teardowns_conserved hbefore stationsKnown_overlapEnd hlast).1⟩

end NodalArc.GroundTeardowns
