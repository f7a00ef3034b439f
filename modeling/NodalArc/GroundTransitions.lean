import NodalArc.GroundAllocatorSteps

/-! What the statements of a tick can do to its working state.  A candidate pass is a sequence of
rejections, releases, acquisitions and overlaps that start; before the passes each teardown of the
previous tick is kept or ends, and each steady association is kept or lost. -/

namespace NodalArc.GroundTransitions

open OrderedDict
open StatefulProgram
open GroundPolicy
open GroundAllocator
open GroundCandidates
open GroundAllocatorInvariant
open GroundAllocatorSteps
open Program
open Relation

variable {category : EventCategory} {index : Int} {events : List AllocationEvent}
  {gone : List Pair} {teardown : MbbTeardown} {gsDisplacement satDisplacement : Option Candidate}
  {policy : Option EventPolicy} {challenger successor : Option Pair} {p : Pair}
  {rejection : Rejected} {cause : ReleaseCause}

variable {ctx : AllocationContext} {s s' : Allocation} {c d incumbent : Candidate}
    {indices : Indices} {pair : Pair} {gsId nodeId : NodeId}

/-- An incumbent gives up its terminals; its release has a cause and its pair a rejection. -/
def releaseWith (s : Allocation) (incumbent : Candidate) (indices : Indices) (cause : ReleaseCause)
    (rejection : Rejected) (events : List AllocationEvent) : Allocation :=
  { s with
    toTerminalBook := s.vacate incumbent.pair incumbent.gsId incumbent.satId indices
    releaseCause := (s.released incumbent.pair cause).releaseCause
    rejected := s.rejected.insert incumbent.pair rejection
    allocationEvents := s.allocationEvents ++ events }

def acquireWith (s : Allocation) (c : Candidate) (indices : Indices)
    (events : List AllocationEvent) : Allocation :=
  { s with
    toTerminalBook := s.occupy c.pair c.gsId c.satId indices
    rejected := s.rejected.erase c.pair
    allocationEvents := s.allocationEvents ++ events
    progress := true }

def overlapWith (s : Allocation) (step : Int) (c incumbent : Candidate)
    (event : AllocationEvent) : Allocation :=
  { s with
    toTerminalBook := s.setTeardown incumbent.pair ⟨step, c.pair⟩
    allocationEvents := s.allocationEvents ++ [event] }

/-- The events report the reception that a candidate's new terminal cuts off. -/
structure Reports (ctx : AllocationContext) (s : Allocation) (c : Candidate) (nodeId : NodeId)
    (index : Int) (events : List AllocationEvent) : Prop where
  known : ∃ window, ctx.windowFor s nodeId index = .ok window
  retargets : ∀ event ∈ events, event.category = .retargetedBeforeLastArrival
  reported : ∀ window, ctx.windowFor s nodeId index = .ok (some window) →
    window.oldPair ≠ c.pair → ∃ event ∈ events, event.pair = window.oldPair ∧
      ∃ retarget, event.retarget = some retarget ∧ retarget.terminalNodeId = nodeId ∧
        retarget.terminalIndex = index

/-- A satellite with more candidates than terminals for the reference body of a station. -/
def Crowded (config : GroundConfig) (pools : SatellitePools) (candidates : List Candidate)
    (c : Candidate) : Prop :=
  ∃ body, config.gsReferenceBodies.get? c.gsId = some body ∧
    (satellitePool pools c.satId body).toFinset.card <
      (candidates.filter (·.satId = c.satId)).length

/-- A candidate ranks ahead of another of its tenant and reference body on their crowded
satellite. -/
structure Outranks (ctx : AllocationContext) (c d : Candidate) : Prop where
  satellite : c.satId = d.satId
  rank : rankKeyLt c.rankKey d.rankKey = true
  tenant : ctx.config.gsTenantIds.get? c.gsId = ctx.config.gsTenantIds.get? d.gsId
  body : ctx.config.gsReferenceBodies.get? c.gsId = ctx.config.gsReferenceBodies.get? d.gsId
  crowded : Crowded ctx.config ctx.satTerminalPools ctx.candidates c

/-- The cause and the rejection of the two ways to lose a link to a candidate: to a successor at
the same station, or to a better-ranked pair on the same satellite. -/
inductive ReleasedFor (ctx : AllocationContext) (c incumbent : Candidate) :
    ReleaseCause → Rejected → Prop
  | gap : ReleasedFor ctx c incumbent .bbmGap ⟨.replacedBySuccessor, some c.pair, none⟩
  | displaced (constraint : CapacityConstraint) (outranks : Outranks ctx c incumbent) :
      ReleasedFor ctx c incumbent .satCapacity ⟨.satCapacity, some c.pair, some constraint⟩

inductive Transition (ctx : AllocationContext) : Allocation → Allocation → Prop
  | reject {s : Allocation} (c : Candidate) (rejection : Rejected) (mem : c ∈ ctx.candidates)
      (new : c.pair ∉ s.newAssociations) (unlocked : s.rejectionLocked c.pair = false) :
      Transition ctx s (s.recordRejection c.pair rejection)
  | release {s : Allocation} (c incumbent : Candidate) (indices : Indices) (cause : ReleaseCause)
      (rejection : Rejected) (events : List AllocationEvent) (mem : c ∈ ctx.candidates)
      (holds : Holds ctx s.toTerminalBook incumbent indices)
      (unprotected : incumbent.pair ∉ s.protectedMbbPairs)
      (gaps : ∀ event ∈ events, event.category = .bbmGap)
      (released : ReleasedFor ctx c incumbent cause rejection) :
      Transition ctx s (releaseWith s incumbent indices cause rejection events)
  | acquire {s : Allocation} (c : Candidate) (indices : Indices)
      (gsEvents satEvents : List AllocationEvent) (mem : c ∈ ctx.candidates)
      (new : c.pair ∉ s.newAssociations) (unlocked : s.rejectionLocked c.pair = false)
      (fits : Fits ctx s.toTerminalBook c indices)
      (atStation : Reports ctx s c c.gsId indices.1 gsEvents)
      (onSatellite : Reports ctx s c c.satId indices.2 satEvents) :
      Transition ctx s (acquireWith s c indices (gsEvents ++ satEvents))
  | overlap {s : Allocation} (c incumbent : Candidate) (event : AllocationEvent)
      (steady : incumbent.pair ∉ s.newPendingTeardowns)
      (started : event.category = .mbbOverlapStarted) (named : event.pair = incumbent.pair)
      (succeeded : event.successorPair = some c.pair) :
      Transition ctx s (overlapWith s ctx.tick.step c incumbent event)

/-! ### The statements of an acquisition -/

theorem released_eq (s : Allocation) (pair : Pair) (cause : ReleaseCause) :
    s.released pair cause = { s with releaseCause := (s.released pair cause).releaseCause } := by
  unfold Allocation.released
  split <;> rfl

theorem makeEvent_eq_ok {retarget : Option Retarget} {event : AllocationEvent}
    (h : ctx.makeEvent category pair gsId successor challenger policy retarget = .ok event) :
    event.category = category ∧ event.pair = pair ∧ event.successorPair = successor ∧
      event.retarget = retarget := by
  simp only [AllocationContext.makeEvent, bind_eq_ok_iff] at h
  obtain ⟨tenantId, -, body, -, h⟩ := h
  cases retarget <;>
    · simp only [bind_eq_ok_iff] at h
      obtain ⟨-, -, h⟩ := h
      obtain rfl := Except.ok.inj h
      exact ⟨rfl, rfl, rfl, rfl⟩

theorem wp_releaseIncumbent_eq (hctx : ContextFacts ctx) (hi : incumbent ∈ ctx.candidates) :
    wp (releaseIncumbent ctx c incumbent) s (fun _ s' => ∃ indices event,
      Holds ctx s.toTerminalBook incumbent indices ∧ event.category = .bbmGap ∧
      s' = releaseWith s incumbent indices .bbmGap
        ⟨.replacedBySuccessor, some c.pair, none⟩ [event]) Raises := by
  have hvisible : incumbent.pair ∈ ctx.visibleSet :=
    (hctx.visible_iff _).mpr ⟨incumbent, hi, rfl⟩
  simp only [releaseIncumbent, removeAssociation, emitBbmGap, wp_bind, wp_modify, wp_get, wp_set,
    wp_lift, wp_when, hvisible, true_implies, not_true_eq_false, false_implies, and_true]
  rw [released_eq]
  refine ⟨fun indices hget => ⟨?_, fun _ _ => trivial⟩, fun _ _ => trivial⟩
  rintro ⟨g, t⟩ hids
  obtain ⟨rfl, rfl⟩ := hctx.idsOf_eq hi hids
  refine ⟨fun event hevent => ?_, fun _ _ => trivial⟩
  exact ⟨indices, event, ⟨hi, lookupKey_eq_ok_iff.mp hget⟩, (makeEvent_eq_ok hevent).1, rfl⟩

theorem wp_displaceOnSatellite_eq (hctx : ContextFacts ctx) (hd : d ∈ ctx.candidates) :
    wp (displaceOnSatellite ctx c d) s (fun _ s' => ∃ indices constraint,
      Holds ctx s.toTerminalBook d indices ∧ s' = releaseWith s d indices .satCapacity
        ⟨.satCapacity, some c.pair, some constraint⟩ []) Raises := by
  simp only [displaceOnSatellite, removeAssociation, wp_bind, wp_modify, wp_get, wp_set, wp_lift]
  rw [released_eq]
  refine ⟨fun indices hget => ⟨?_, fun _ _ => trivial⟩, fun _ _ => trivial⟩
  rintro ⟨g, t⟩ hids
  obtain ⟨rfl, rfl⟩ := hctx.idsOf_eq hd hids
  refine ⟨fun constraint _ => ?_, fun _ _ => trivial⟩
  refine ⟨indices, constraint, ⟨hd, lookupKey_eq_ok_iff.mp hget⟩, ?_⟩
  simp [releaseWith, Allocation.recordRejection]

theorem windowFor_congr (hassoc : s'.newAssociations = s.newAssociations)
    (hcause : s'.releaseCause = s.releaseCause) :
    ctx.windowFor s' nodeId index = ctx.windowFor s nodeId index := by
  simp only [AllocationContext.windowFor, hassoc, hcause]

theorem wp_retargeted_eq : wp (retargeted ctx nodeId index c) s (fun _ s' => ∃ events,
      Reports ctx s c nodeId index events ∧
      s' = { s with allocationEvents := s.allocationEvents ++ events }) Raises := by
  simp only [retargeted, wp_bind, wp_get, wp_lift]
  refine ⟨fun window hwindow => ?_, fun _ _ => trivial⟩
  cases hfilter : window.filter (·.oldPair ≠ c.pair) with
  | none =>
    refine ⟨[], ⟨⟨window, hwindow⟩, by simp, fun found hfound hne => ?_⟩, by simp⟩
    obtain rfl := Except.ok.inj (hwindow.symm.trans hfound)
    simp [Option.filter, hne] at hfilter
  | some open_ =>
    simp only [wp_bind, wp_lift, wp_set]
    refine ⟨fun event hevent => ⟨[event], ?_, rfl⟩, fun _ _ => trivial⟩
    obtain ⟨hcategory, hpair, -, hretarget⟩ := makeEvent_eq_ok hevent
    refine ⟨⟨window, hwindow⟩, by simpa using hcategory, fun found hfound hne => ?_⟩
    obtain rfl := Except.ok.inj (hwindow.symm.trans hfound)
    obtain rfl : found = open_ := by simpa [Option.filter, hne] using hfilter
    exact ⟨event, List.mem_singleton_self _, hpair, _, hretarget, rfl, rfl⟩

theorem wp_allocateNew_eq : wp (allocateNew ctx c) s (fun allocated s' => allocated = true →
      ∃ indices gsEvents satEvents, Fits ctx s.toTerminalBook c indices ∧
        Reports ctx s c c.gsId indices.1 gsEvents ∧ Reports ctx s c c.satId indices.2 satEvents ∧
        { s' with progress := true } = acquireWith s c indices (gsEvents ++ satEvents)) Raises := by
  simp only [allocateNew, wp_bind, wp_lift, wp_get]
  refine ⟨fun pool hpool => ⟨fun gsIdx hgsIdx => ⟨fun satIdx hsatIdx => ?_, fun _ _ => trivial⟩,
    fun _ _ => trivial⟩, fun _ _ => trivial⟩
  cases gsIdx with
  | none => exact fun h => by cases h
  | some gsIdx =>
    cases satIdx with
    | none => exact fun h => by cases h
    | some satIdx =>
      obtain ⟨hgsMem, hgsFree⟩ := firstFree_eq_ok hgsIdx
      obtain ⟨hsatFree, body, hbody, hsatMem⟩ := nextSatTerminalIndex_eq_ok hsatIdx
      simp only [wp_bind, wp_modify, wp_pure]
      refine wp_imp wp_retargeted_eq ?_
      rintro _ _ ⟨gsEvents, hgsReports, rfl⟩
      refine wp_imp wp_retargeted_eq ?_
      rintro _ _ ⟨satEvents, hsatReports, rfl⟩ -
      refine ⟨(gsIdx, satIdx), gsEvents, satEvents, ⟨⟨pool, body, lookupNode_eq_ok_iff.mp hpool,
        hgsMem, hbody, hsatMem⟩, hgsFree, hsatFree⟩, hgsReports, ?_, ?_⟩
      · have hwindow : ctx.windowFor { s with
            allocationEvents := s.allocationEvents ++ gsEvents } c.satId satIdx =
            ctx.windowFor s c.satId satIdx := windowFor_congr rfl rfl
        exact ⟨hwindow ▸ hsatReports.known, hsatReports.retargets, hwindow ▸ hsatReports.reported⟩
      · simp [acquireWith]

/-! ### A candidate's turn -/

theorem not_locked_release (hne : c.pair ≠ incumbent.pair) (h : s.rejectionLocked c.pair = false) :
    (releaseWith s incumbent indices cause rejection events).rejectionLocked c.pair = false := by
  simpa [Allocation.rejectionLocked, releaseWith, hne] using h

/-- A candidate that may be acquired: not associated, not locked out for the tick, and its station
in no overlap. -/
structure Claims (ctx : AllocationContext) (s : Allocation) (c : Candidate) : Prop where
  contender : Contender ctx s.toTerminalBook c
  unlocked : s.rejectionLocked c.pair = false

/-- A displacement at one end of a candidate is a release, after which the candidate still stands
and nothing else became protected. -/
structure Freed (ctx : AllocationContext) (s : Allocation) (c : Candidate) (s' : Allocation) :
    Prop where
  steps : ReflTransGen (Transition ctx) s s'
  claims : Claims ctx s' c
  protected_subset : ∀ pair ∈ s'.protectedMbbPairs, pair ∈ s.protectedMbbPairs
  pending_subset : ∀ pair ∈ s'.newPendingTeardowns, pair ∈ s.newPendingTeardowns

theorem Freed.refl (h : Claims ctx s c) : Freed ctx s c s :=
  ⟨.refl, h, fun _ hpair => hpair, fun _ hpair => hpair⟩

theorem freed_release (h : Claims ctx s c) (hi : Holds ctx s.toTerminalBook incumbent indices)
    (hfree : incumbent.pair ∉ s.protectedMbbPairs)
    (hgaps : ∀ event ∈ events, event.category = .bbmGap)
    (hfor : ReleasedFor ctx c incumbent cause rejection)
    (hreleased : Released ctx s.toTerminalBook incumbent
      (s.vacate incumbent.pair incumbent.gsId incumbent.satId indices)) :
    Freed ctx s c (releaseWith s incumbent indices cause rejection events) where
  steps := .single (.release c incumbent indices cause rejection events h.contender.mem hi hfree
    hgaps hfor)
  claims := ⟨h.contender.released hreleased, not_locked_release
    (fun heq => h.contender.new (heq ▸ Dict.mem_of_get? hi.get)) h.unlocked⟩
  protected_subset := hreleased.protected_subset
  pending_subset := fun pair hpair => ((hreleased.pending_iff pair).mp hpair).2

variable (hctx : ContextFacts ctx) (h : TickInvariant ctx s.toTerminalBook) (hc : Claims ctx s c)

include hctx h hc

theorem wp_displacement_freed
    (hsat : ∀ d, satDisplacement = some d → d ∈ ctx.candidates ∧ d.pair ∉ s.protectedMbbPairs ∧
      Outranks ctx c d) : wp (forDisplaced satDisplacement (displaceOnSatellite ctx c)) s
      (fun _ s' => Freed ctx s c s' ∧
        Without ctx s.toTerminalBook satDisplacement s'.toTerminalBook) Raises := by
  cases satDisplacement with
  | none => exact ⟨Freed.refl hc, rfl⟩
  | some d =>
    obtain ⟨hd, hfree, houtranks⟩ := hsat d rfl
    refine wp_imp (wp_displaceOnSatellite_eq hctx hd) ?_
    rintro _ _ ⟨indices, constraint, hholds, rfl⟩
    have hreleased := released_vacate hctx h hholds hfree
    exact ⟨freed_release hc hholds hfree (by simp) (.displaced constraint houtranks) hreleased,
      hreleased⟩

theorem wp_gap_freed {mode : HandoverMode}
    (hgs : ∀ i, gsDisplacement = some i → i ∈ ctx.candidates ∧ i.pair ∉ s.protectedMbbPairs) :
    wp (forDisplaced gsDisplacement fun incumbent =>
      «when» (mode = .bbm) (releaseIncumbent ctx c incumbent)) s
      (fun _ s' => Freed ctx s c s' ∧ Without ctx s.toTerminalBook
        (if mode = .bbm then gsDisplacement else none) s'.toTerminalBook) Raises := by
  cases gsDisplacement with
  | none =>
    rw [ite_self]
    exact ⟨Freed.refl hc, rfl⟩
  | some incumbent =>
    obtain ⟨hi, hfree⟩ := hgs incumbent rfl
    refine wp_when.mpr ⟨fun hmode => ?_, fun hmode => ?_⟩
    · refine wp_imp (wp_releaseIncumbent_eq hctx hi) ?_
      rintro _ _ ⟨indices, event, hholds, hevent, rfl⟩
      have hreleased := released_vacate hctx h hholds hfree
      rw [if_pos hmode]
      exact ⟨freed_release hc hholds hfree (by simpa using hevent) .gap hreleased, hreleased⟩
    · rw [if_neg hmode]
      exact ⟨Freed.refl hc, rfl⟩

/-- The turn of a candidate: its effects keep the invariant together, though an acquisition whose
overlap has not started yet may exceed the station's limit. -/
def Turn (ctx : AllocationContext) (s s' : Allocation) : Prop :=
  ReflTransGen (Transition ctx) s s' ∧ TickInvariant ctx s'.toTerminalBook

theorem wp_acquire_turn (hd : Displacements ctx s.toTerminalBook c gsDisplacement satDisplacement)
    (houtranks : ∀ d, satDisplacement = some d → Outranks ctx c d) :
    wp (acquire ctx c gsDisplacement satDisplacement) s (fun _ => Turn ctx s) Raises := by
  have hstation : ∀ i, gsDisplacement = some i → i.gsId = c.gsId := fun i hi =>
    station_eq_of_mem_byGs hctx h.occupancy (hd.station i hi).1
      (mem_steadyPairsForGs_iff.mp (hd.station i hi).2).1
  have hgs : ∀ i, gsDisplacement = some i → i ∈ ctx.candidates ∧ i.pair ∉ s.protectedMbbPairs :=
    fun i hi => ⟨(hd.station i hi).1,
      hc.contender.unlocked i (hd.station i hi).1 (hstation i hi)⟩
  simp only [acquire, wp_bind, wp_lift, wp_require, wp_modify]
  refine ⟨fun mode hmode => ?_, fun _ _ => trivial⟩
  refine wp_imp (wp_gap_freed hctx h hc hgs) ?_
  rintro _ s₁ ⟨h₁, hgap⟩
  have hinvariant₁ := hgap.invariant h
  refine wp_imp (wp_displacement_freed hctx hinvariant₁ h₁.claims fun d hd' =>
    ⟨(hd.satellite d hd').1, fun hin => (hd.satellite d hd').2.2 (h₁.protected_subset _ hin),
      houtranks d hd'⟩) ?_
  rintro _ s₂ ⟨h₂, hsat⟩
  have hinvariant₂ := hsat.invariant hinvariant₁
  have hcontender := h₂.claims.contender
  refine wp_imp wp_allocateNew_eq fun allocated s₃ h₃ => ⟨fun hallocated => ?_, fun _ => trivial⟩
  obtain ⟨indices, gsEvents, satEvents, hfits, hatStation, honSatellite, hs₃⟩ := h₃ hallocated
  rw [hs₃]
  have hacquired : ReflTransGen (Transition ctx) s
      (acquireWith s₂ c indices (gsEvents ++ satEvents)) :=
    (h₁.steps.trans h₂.steps).tail (.acquire c indices gsEvents satEvents hcontender.mem
      hcontender.new h₂.claims.unlocked hfits hatStation honSatellite)
  have hroom : Room ctx s₂.toTerminalBook c →
      Turn ctx s (acquireWith s₂ c indices (gsEvents ++ satEvents)) := fun hroom => ⟨hacquired,
    hinvariant₂.occupy hctx hcontender.mem hcontender.new hfits.placed hfits.gsFree hfits.satFree
      hroom⟩
  cases gsDisplacement with
  | none => exact hroom (hsat.room (hgap.room (hd.room rfl)))
  | some incumbent =>
    obtain ⟨hi, hsteady⟩ := hd.station incumbent rfl
    cases mode with
    | bbm =>
      exact wp_when.mpr ⟨fun hmbb => (by cases hmbb), fun _ =>
        hroom (hsat.room (room_of_released_steady h hgap hsteady))⟩
    | mbb =>
      have hsteady₂ := hsat.steady (hgap.steady hsteady (by simp)) fun d hd' heq => by
        obtain ⟨hdmem, hdsat, -⟩ := hd.satellite d hd'
        obtain rfl := hctx.candidate_unique incumbent hi d hdmem heq
        exact station_ne_of_mem_bySat hctx h.occupancy hc.contender hdmem hdsat (hstation _ rfl)
      refine wp_when.mpr ⟨fun _ => ?_, fun hmbb => absurd rfl hmbb⟩
      simp only [startOverlap, wp_bind, wp_modify, wp_lift]
      refine ⟨fun event hevent => ⟨hacquired.tail ?_, ?_⟩, fun _ _ => trivial⟩
      · obtain ⟨hcategory, hpair, hsucc, -⟩ := makeEvent_eq_ok hevent
        refine .overlap c incumbent event (fun hin => ?_) hcategory hpair hsucc
        exact hcontender.not_pending hi (hstation _ rfl) hin
      · exact hinvariant₂.startOverlap hctx hcontender.mem hcontender.new hfits.placed hfits.gsFree
          hfits.satFree hi hsteady₂ (hstation _ rfl) (lookupNode_eq_ok_iff.mp hmode)
          fun e he heg => hcontender.not_pending he heg

omit hctx h hc

theorem displaceable_of_arbitrateSatellite
    (h : arbitrateSatellite ctx s c = .ok (.proceed (some d))) :
    ctx.nextSatTerminalIndex s c = .ok none ∧
      ctx.displaceableSatIncumbent s c = .ok (some d) := by
  simp only [arbitrateSatellite, bind_eq_ok_iff] at h
  obtain ⟨index, hindex, h⟩ := h
  cases index with
  | some index => simp at h
  | none =>
    simp only [bind_eq_ok_iff] at h
    obtain ⟨found, hfound, h⟩ := h
    cases found with
    | some found =>
      obtain rfl : found = d := by simpa using h
      exact ⟨hindex, hfound⟩
    | none =>
      simp only [bind_eq_ok_iff] at h
      obtain ⟨blocker, -, constraint, -, h⟩ := h
      simp at h

variable (hctx : ContextFacts ctx)

include hctx

theorem samePartition_eq_ok (hd : d ∈ ctx.candidates) (h : ctx.samePartition c d.pair = .ok true) :
    ctx.config.gsTenantIds.get? c.gsId = ctx.config.gsTenantIds.get? d.gsId ∧
      ctx.config.gsReferenceBodies.get? c.gsId = ctx.config.gsReferenceBodies.get? d.gsId := by
  simp only [AllocationContext.samePartition, AllocationContext.referenceBody, bind_eq_ok_iff] at h
  obtain ⟨⟨g, t⟩, hids, dTenant, hdTenant, tenant, htenant, dBody, hdBody, body, hbody, h⟩ := h
  obtain ⟨rfl, -⟩ := hctx.idsOf_eq hd hids
  have hsame := Except.ok.inj h
  simp only [Bool.and_eq_true, decide_eq_true_eq] at hsame
  rw [lookupNode_eq_ok_iff.mp htenant, lookupNode_eq_ok_iff.mp hdTenant,
    lookupNode_eq_ok_iff.mp hbody, lookupNode_eq_ok_iff.mp hdBody, hsame.1, hsame.2]
  exact ⟨rfl, rfl⟩

omit hctx in
/-- A contender that finds no free terminal is one candidate more than the pool has terminals. -/
theorem crowded_of_full (h : Occupancy ctx s.toTerminalBook) (hc : Contender ctx s.toTerminalBook c)
    (hfull : ctx.nextSatTerminalIndex s c = .ok none) :
    Crowded ctx.config ctx.satTerminalPools ctx.candidates c := by
  simp only [AllocationContext.nextSatTerminalIndex, AllocationContext.satTerminalPool,
    AllocationContext.referenceBody, bind_eq_ok_iff, lookupNode_eq_ok_iff] at hfull
  obtain ⟨pool, ⟨body, hbody, hpool⟩, hfull⟩ := hfull
  obtain rfl := Except.ok.inj hpool
  let held := (ctx.candidates.filter (·.satId = c.satId)).filterMap fun e =>
    (s.newAssociations.get? e.pair).map Prod.snd
  have hheld : (satellitePool ctx.satTerminalPools c.satId body).toFinset ⊆ held.toFinset := by
    intro index hindex
    obtain ⟨e, indices, he, hsat, rfl⟩ :=
      (h.sat.occupied_iff _ _).mp (occupied_of_firstFree hfull index (List.mem_toFinset.mp hindex))
    exact List.mem_toFinset.mpr (List.mem_filterMap.mpr
      ⟨e, List.mem_filter.mpr ⟨he.mem, decide_eq_true hsat⟩, by rw [he.get, Option.map_some]⟩)
  refine ⟨body, hbody, ?_⟩
  calc (satellitePool ctx.satTerminalPools c.satId body).toFinset.card
    _ ≤ held.length := (Finset.card_le_card hheld).trans held.toFinset_card_le
    _ < _ := List.length_filterMap_lt_length_iff_exists.mpr
      ⟨c, List.mem_filter.mpr ⟨hc.mem, decide_eq_true rfl⟩, by
        rw [Dict.get?_eq_none_iff.mpr hc.new, Option.map_none]⟩

theorem outranks_of_displaceable (h : Occupancy ctx s.toTerminalBook)
    (hc : Contender ctx s.toTerminalBook c) (hfull : ctx.nextSatTerminalIndex s c = .ok none)
    (hd : ctx.displaceableSatIncumbent s c = .ok (some d)) : Outranks ctx c d := by
  obtain ⟨hdmem, hsat, -⟩ := displaceableSatIncumbent_eq_ok hctx hd
  simp only [AllocationContext.displaceableSatIncumbent, bind_eq_ok_iff] at hd
  obtain ⟨occupants, -, incumbents, hincumbents, hd⟩ := hd
  obtain ⟨-, htest⟩ := mem_of_keepWhere hincumbents (mem_of_worstRanked (Except.ok.inj hd))
  obtain ⟨-, e, he, hpair, hsatId⟩ := (h.sat.listed_iff _ _).mp hsat
  obtain rfl := hctx.candidate_unique e he d hdmem hpair
  split_ifs at htest
  · cases htest
  · obtain ⟨same, hsame, htest⟩ := bind_eq_ok_iff.mp htest
    obtain ⟨rfl, hrank⟩ := Bool.and_eq_true_iff.mp (Except.ok.inj htest)
    obtain ⟨htenant, hbody⟩ := samePartition_eq_ok hctx hdmem hsame
    exact ⟨hsatId.symm, hrank, htenant, hbody, crowded_of_full h hc hfull⟩

theorem wp_arbitrate_turn {tc : Nat}
    (h : TickInvariant ctx s.toTerminalBook) (hc : Claims ctx s c) :
    wp (arbitrate ctx c tc) s (fun _ => Turn ctx s) Raises := by
  simp only [arbitrate, wp_bind, wp_get, wp_lift]
  have hreject : ∀ rejection, Turn ctx s (s.recordRejection c.pair rejection) := fun rejection =>
    ⟨.single (.reject c rejection hc.contender.mem hc.contender.new hc.unlocked), h⟩
  refine ⟨fun satOutcome hsat => ?_, fun _ _ => trivial⟩
  cases satOutcome with
  | reject rejection => exact hreject rejection
  | proceed satDisplacement =>
    simp only [wp_bind, wp_lift]
    refine ⟨fun gsOutcome hgs => ?_, fun _ _ => trivial⟩
    cases gsOutcome with
    | reject rejection => exact hreject rejection
    | proceed gsDisplacement =>
      refine wp_acquire_turn hctx h hc ⟨?_, ?_, ?_⟩ ?_
      · rintro rfl
        rcases arbitrateStation_eq_ok hctx hgs with ⟨-, hroom⟩ | ⟨incumbent, -, hsome, -⟩
        · exact hroom
        · cases hsome
      · rintro incumbent rfl
        rcases arbitrateStation_eq_ok hctx hgs with ⟨hnone, -⟩ | ⟨found, hmem, hsome, hsteady⟩
        · cases hnone
        · obtain rfl := Option.some.inj hsome
          exact ⟨hmem, hsteady⟩
      · rintro d rfl
        exact displaceableSatIncumbent_eq_ok hctx (displaceable_of_arbitrateSatellite hsat).2
      · rintro d rfl
        obtain ⟨hfull, hdisplaceable⟩ := displaceable_of_arbitrateSatellite hsat
        exact outranks_of_displaceable hctx h.occupancy hc.contender hfull hdisplaceable

theorem wp_considerCandidate_turn
    (h : TickInvariant ctx s.toTerminalBook) (hc : c ∈ ctx.candidates) :
    wp (considerCandidate ctx c) s (fun _ => Turn ctx s) Raises := by
  simp only [considerCandidate, wp_bind, wp_get, wp_ite, wp_pure, wp_lift]
  refine ⟨fun _ => ⟨.refl, h⟩, fun hopen => ⟨fun tc _ => ⟨fun protectedPair hprotected => ?_,
    fun _ _ => trivial⟩, fun _ _ => trivial⟩⟩
  rw [not_or, Bool.not_eq_true] at hopen
  cases protectedPair with
  | some protectedPair => exact ⟨.single (.reject c _ hc hopen.1 hopen.2), h⟩
  | none =>
    refine wp_arbitrate_turn hctx h ⟨⟨hc, hopen.1, ?_⟩, hopen.2⟩
    exact fun e he heg => not_protected_of_station hctx hprotected he heg

/-! ### Invariants of the passes -/

theorem wp_candidatePasses (I : Allocation → Prop)
    (hreset : ∀ s, I s → I { s with progress := false })
    (hstep : ∀ s s', Transition ctx s s' → I s → I s') (passes : Nat)
    (hinvariant : TickInvariant ctx s.toTerminalBook) (h : I s) :
    wp (candidatePasses ctx passes) s
      (fun _ s' => TickInvariant ctx s'.toTerminalBook ∧ I s') Raises := by
  have hsteps : ∀ s s', ReflTransGen (Transition ctx) s s' → I s → I s' := by
    intro s s' steps hs
    induction steps with
    | refl => exact hs
    | tail _ step ih => exact hstep _ _ step ih
  induction passes generalizing s with
  | zero => trivial
  | succ passes ih =>
    simp only [candidatePasses, wp_bind, wp_modify, wp_get, wp_ite, wp_pure]
    refine wp_imp (wp_forM_invariant (fun s => TickInvariant ctx s.toTerminalBook ∧ I s) ?_
      ⟨hinvariant, hreset s h⟩) fun _ s' hs' => ⟨fun _ => ih hs'.1 hs'.2, fun _ => hs'⟩
    exact fun c hc s hs => wp_imp (wp_considerCandidate_turn hctx hs.1 hc)
      fun _ s' hturn => ⟨hturn.2, hsteps s s' hturn.1 hs.2⟩

omit hctx

/-! ### Recovery and continuity -/

/-- What a statement about ended pairs may note: events and rejections of certain kinds and release
causes, and pairs to drop. -/
structure Notes where
  pairs : List Pair
  categories : List EventCategory
  reasons : List UnscheduledReason

structure Noted (notes : Notes) (s s' : Allocation) : Prop where
  book_eq : s'.toTerminalBook = s.toTerminalBook
  lifecycle_eq : s'.lifecycleEvents = s.lifecycleEvents
  events : ∃ events, s'.allocationEvents = s.allocationEvents ++ events ∧
    ∀ event ∈ events, event.category ∈ notes.categories
  causes : ∀ pair ∈ s.releaseCause, pair ∈ s'.releaseCause
  drops : ∀ pair ∈ s.dropCurrentPairs, pair ∈ s'.dropCurrentPairs
  dropped : ∀ pair ∈ s'.dropCurrentPairs, pair ∈ s.dropCurrentPairs ∨ pair ∈ notes.pairs
  rejected : ∀ pair, s'.rejected.get? pair = s.rejected.get? pair ∨ (pair ∈ notes.pairs ∧
    ∃ rejection, s'.rejected.get? pair = some rejection ∧ rejection.reason ∈ notes.reasons)

variable {notes : Notes}

instance : Std.Refl (Noted notes) where
  refl _ := ⟨rfl, rfl, ⟨[], by simp, by simp⟩, fun _ h => h, fun _ h => h, fun _ h => .inl h,
    fun _ => .inl rfl⟩

instance : IsTrans Allocation (Noted notes) where
  trans s t u h h' := by
    obtain ⟨events, hevents, hcategories⟩ := h.events
    obtain ⟨events', hevents', hcategories'⟩ := h'.events
    refine ⟨h'.book_eq.trans h.book_eq, h'.lifecycle_eq.trans h.lifecycle_eq,
      ⟨events ++ events', by rw [hevents', hevents, List.append_assoc], ?_⟩,
      fun pair hp => h'.causes pair (h.causes pair hp),
      fun pair hp => h'.drops pair (h.drops pair hp), fun pair hp => ?_, fun pair => ?_⟩
    · exact fun event hevent => (List.mem_append.mp hevent).elim (hcategories event)
        (hcategories' event)
    · exact (h'.dropped pair hp).elim (h.dropped pair) .inr
    · rcases h'.rejected pair with heq | hnew
      · rw [heq]
        exact h.rejected pair
      · exact .inr hnew

theorem noted_released : Noted notes s (s.released pair cause) := by
  refine ⟨by rw [released_eq], by rw [released_eq], ⟨[], by rw [released_eq]; simp, by simp⟩,
    fun other hother => ?_, fun _ h => by rwa [released_eq], fun _ h => .inl (by rwa [released_eq] at h),
    fun _ => .inl (by rw [released_eq])⟩
  unfold Allocation.released
  split
  · exact hother
  · exact Dict.mem_insert.mpr (.inr hother)

theorem mem_causes_released : pair ∈ (s.released pair cause).releaseCause := by
  unfold Allocation.released
  split
  · assumption
  · exact Dict.mem_insert.mpr (.inl rfl)

theorem noted_dropPair (h : pair ∈ notes.pairs) : Noted notes s (s.dropPair pair) :=
  ⟨rfl, rfl, ⟨[], by simp [Allocation.dropPair], by simp⟩, fun _ h => h,
    fun _ h => List.mem_cons_of_mem _ h, fun other hother =>
      (List.mem_cons.mp hother).elim (fun heq => .inr (heq ▸ h)) .inl, fun _ => .inl rfl⟩

theorem noted_recordRejection (hpair : pair ∈ notes.pairs)
    (hreason : rejection.reason ∈ notes.reasons) :
    Noted notes s (s.recordRejection pair rejection) := by
  refine ⟨rfl, rfl, ⟨[], by simp [Allocation.recordRejection], by simp⟩, fun _ h => h,
    fun _ h => h, fun _ h => .inl h, fun other => ?_⟩
  by_cases heq : other = pair
  · subst heq
    exact .inr ⟨hpair, rejection, by simp [Allocation.recordRejection], hreason⟩
  · exact .inl (by simp [Allocation.recordRejection, heq])

theorem noted_makeEvent (h : category ∈ notes.categories) : Within (Noted notes) (do
      let event ← lift (ctx.makeEvent category pair gsId successor challenger policy none)
      modify (·.emit event)) := by
  intro s
  simp only [wp_bind, wp_lift, wp_modify]
  refine ⟨fun event hevent => ⟨rfl, rfl, ⟨[event], rfl, ?_⟩, fun _ h => h, fun _ h => h,
    fun _ h => .inl h, fun _ => .inl rfl⟩, fun _ _ => Std.Refl.refl s⟩
  simpa [(makeEvent_eq_ok hevent).1] using h

theorem noted_emitIncumbentLost (h : .incumbentLost ∈ notes.categories) :
    Within (Noted notes) (emitIncumbentLost ctx pair) :=
  within_bind (within_modify fun _ => noted_released) fun _ =>
    within_bind within_lift fun _ => noted_makeEvent h

/-- The association of a pair again under its previous indices. -/
def Readded (ctx : AllocationContext) (pair : Pair) (indices : Indices) (b b' : TerminalBook) :
    Prop :=
  ∃ c ∈ ctx.candidates, c.pair = pair ∧ Fits ctx b c indices ∧
    b' = b.occupy c.pair c.gsId c.satId indices

theorem wp_addExisting_eq (hctx : ContextFacts ctx) (h : pair ∈ ctx.visibleSet) :
    wp (addExisting ctx pair indices) s (fun _ s' => ∃ b,
      Readded ctx pair indices s.toTerminalBook b ∧ s' = { s with toTerminalBook := b }) Raises := by
  obtain ⟨c, hc, rfl⟩ := hctx.candidate_of_visible h
  refine wp_imp (wp_addExisting hctx hc) ?_
  rintro _ _ ⟨hfits, rfl⟩
  exact ⟨_, ⟨c, hc, rfl, hfits, rfl⟩, rfl⟩

/-- The successor of a teardown was a steady association of the previous tick. -/
def successorCurrent (prior : GroundAuthority) (teardown : MbbTeardown) : Bool :=
  decide (teardown.successorPair ∈ prior.associations ∧
    teardown.successorPair ∉ prior.pendingTeardowns)

/-- The end of an overlap is noted for the pairs it drops; only a successor that was not current
can fail. -/
def endNotes (current : Bool) (gone : List Pair) : Notes where
  pairs := gone
  categories := if current then [.teardownCompleted, .successorAborted, .incumbentLost]
    else [.teardownCompleted, .failedSuccessor, .failedAcquire, .incumbentLost]
  reasons := if current then [.replacedBySuccessor, .successorAborted]
    else [.replacedBySuccessor, .failedSuccessor, .failedAcquire]

/-- An overlap of the previous tick ends: the end is reported once, the old pair is dropped, and
its successor with it if the overlap is aborted.  A dropped pair is associated again or, if it is
visible, rejected for the tick; only the old pair of an aborted overlap is associated again. -/
structure Ended (ctx : AllocationContext) (pair : Pair) (teardown : MbbTeardown)
    (gone : List Pair) (s s' : Allocation) : Prop where
  gone_eq : gone = [pair] ∨ gone = [pair, teardown.successorPair]
  book : s'.toTerminalBook = s.toTerminalBook ∨ (teardown.successorPair ∈ gone ∧ ∃ indices,
    ctx.prior.associations.get? pair = some indices ∧
      Readded ctx pair indices s.toTerminalBook s'.toTerminalBook)
  reported : ∃ event, Noted (endNotes (successorCurrent ctx.prior teardown) gone)
      { s with
        toTerminalBook := s'.toTerminalBook
        lifecycleEvents := s.lifecycleEvents ++ [event] } s' ∧
    event.oldPair = pair ∧ event.successorPair = teardown.successorPair ∧
    (event.category = .teardownCompleted ∨
      event.category = (abortCategory (successorCurrent ctx.prior teardown)).event)
  caused : ∀ p ∈ gone, p ∈ s'.releaseCause
  drops : ∀ p ∈ gone, p ∈ s'.dropCurrentPairs
  decided : ∀ p ∈ gone, p ∈ s'.newAssociations ∨
    (p ∈ ctx.visibleSet → s'.rejectionLocked p = true)

theorem Ended.drop_iff (h : Ended ctx pair teardown gone s s') :
    p ∈ s'.dropCurrentPairs ↔ p ∈ gone ∨ p ∈ s.dropCurrentPairs := by
  obtain ⟨event, hnoted, -⟩ := h.reported
  constructor
  · exact fun hp => (hnoted.dropped p hp).symm
  · rintro (hp | hp)
    · exact h.drops p hp
    · exact hnoted.drops p hp

theorem Ended.mem_gone (h : Ended ctx pair teardown gone s s') (hp : p ∈ gone) :
    p = pair ∨ p = teardown.successorPair := by
  rcases h.gone_eq with rfl | rfl
  · exact .inl (List.mem_singleton.mp hp)
  · simpa using hp

theorem locked_of_mem_reasons {current : Bool} {reason : UnscheduledReason}
    (h : reason ∈ (endNotes current gone).reasons) :
    reason ∈ Allocation.lockedRejectionReasons := by
  cases current <;> revert h <;> cases reason <;> simp [endNotes, Allocation.lockedRejectionReasons]

theorem rejectionLocked_of_get? (h : s.rejected.get? pair = some rejection)
    (hreason : rejection.reason ∈ Allocation.lockedRejectionReasons) :
    s.rejectionLocked pair = true := by
  simpa [Allocation.rejectionLocked, h] using hreason

theorem rejectionLocked_congr (h : s'.rejected.get? pair = s.rejected.get? pair) :
    s'.rejectionLocked pair = s.rejectionLocked pair := by
  rw [Allocation.rejectionLocked, Allocation.rejectionLocked, h]

theorem Noted.locked (h : Noted notes s s')
    (hreasons : ∀ reason ∈ notes.reasons, reason ∈ Allocation.lockedRejectionReasons)
    (hlocked : s.rejectionLocked pair = true) : s'.rejectionLocked pair = true := by
  rcases h.rejected pair with heq | ⟨-, rejection, hget, hreason⟩
  · rw [rejectionLocked_congr heq]
    exact hlocked
  · exact rejectionLocked_of_get? hget (hreasons _ hreason)

theorem abortCategory_noted (current : Bool) (gone : List Pair) :
    (abortCategory current).event ∈ (endNotes current gone).categories ∧
      (abortCategory current).reason ∈ (endNotes current gone).reasons := by
  cases current <;> simp [abortCategory, endNotes]

def endReport (ctx : AllocationContext) (category : EventCategory) (pair successor : Pair)
    (gsId : NodeId) : LifecycleEvent where
  category := category
  oldPair := pair
  successorPair := successor
  gsId := gsId
  oldAuthority := authorityBefore ctx pair
  successorAuthority := authorityBefore ctx successor

def reporting (s : Allocation) (report : LifecycleEvent) : Allocation :=
  { s with lifecycleEvents := s.lifecycleEvents ++ [report] }

/-- Everything that follows the report of an end is noted after it. -/
theorem wp_report {other : Pair} {rest : AllocationProgram Unit} {Q : Unit → Allocation → Prop}
    (hcategory : category ∈ notes.categories)
    (hrest : ∀ t, Noted notes (reporting s (endReport ctx category pair other gsId)) t →
      wp rest t Q Raises) : wp (do
        let event ← lift (ctx.makeEvent category pair gsId (some other) none policy none)
        modify (·.emit event)
        emitMbbLifecycleTerminal ctx category pair other gsId
        rest) s Q Raises := by
  simp only [emitMbbLifecycleTerminal, wp_bind, wp_lift, wp_modify]
  refine ⟨fun event hevent => hrest _ ⟨rfl, rfl, ⟨[event], rfl, ?_⟩, fun _ h => h, fun _ h => h,
    fun _ h => .inl h, fun _ => .inl rfl⟩, fun _ _ => trivial⟩
  simpa [(makeEvent_eq_ok hevent).1] using hcategory

/-- Statements that note things and drop pairs, each with a release cause. -/
structure Dropped (notes : Notes) (gone : List Pair) (s s' : Allocation) : Prop where
  noted : Noted notes s s'
  drops : ∀ p ∈ gone, p ∈ s'.dropCurrentPairs
  caused : ∀ p ∈ gone, p ∈ s'.releaseCause

theorem Dropped.after {r : Allocation} (h : Dropped notes gone s s') (hr : Noted notes r s) :
    Dropped notes gone r s' := { h with noted := IsTrans.trans _ _ _ hr h.noted }

theorem Dropped.before {t : Allocation} (h : Dropped notes gone s s') (ht : Noted notes s' t) :
    Dropped notes gone s t where
  noted := IsTrans.trans _ _ _ h.noted ht
  drops := fun p hp => ht.drops p (h.drops p hp)
  caused := fun p hp => ht.causes p (h.caused p hp)

theorem Dropped.reporting {report : LifecycleEvent} (h : Dropped notes gone s s') :
    Dropped notes gone (reporting s report) (reporting s' report) :=
  ⟨⟨h.noted.book_eq, congrArg (· ++ [report]) h.noted.lifecycle_eq, h.noted.events, h.noted.causes,
    h.noted.drops, h.noted.dropped, h.noted.rejected⟩, h.drops, h.caused⟩

theorem dropped_pair (h : pair ∈ notes.pairs) :
    Dropped notes [pair] s ((s.dropPair pair).released pair cause) := by
  have hreleased : Noted notes (s.dropPair pair) ((s.dropPair pair).released pair cause) :=
    noted_released
  refine ⟨IsTrans.trans _ _ _ (noted_dropPair h) hreleased, ?_, ?_⟩ <;>
    simp only [List.mem_singleton, forall_eq]
  · exact hreleased.drops _ List.mem_cons_self
  · exact mem_causes_released

theorem dropped_both {other : Pair} (cause : ReleaseCause) (h : pair ∈ notes.pairs)
    (hother : other ∈ notes.pairs) : Dropped notes [pair, other] s
      ((((s.dropPair pair).dropPair other).released pair cause).released other cause) := by
  set dropped := (s.dropPair pair).dropPair other
  have hdropped : Noted notes s dropped :=
    IsTrans.trans _ _ _ (noted_dropPair h) (noted_dropPair hother)
  have hfirst : Noted notes dropped (dropped.released pair cause) := noted_released
  have hsecond : Noted notes (dropped.released pair cause)
      ((dropped.released pair cause).released other cause) := noted_released
  refine ⟨IsTrans.trans _ _ _ hdropped (IsTrans.trans _ _ _ hfirst hsecond), ?_, ?_⟩ <;>
    simp only [List.mem_cons, List.not_mem_nil, or_false, forall_eq_or_imp, forall_eq]
  · exact ⟨hsecond.drops _ (hfirst.drops _ (List.mem_cons_of_mem _ List.mem_cons_self)),
      hsecond.drops _ (hfirst.drops _ List.mem_cons_self)⟩
  · exact ⟨hsecond.causes _ mem_causes_released, mem_causes_released⟩

theorem Noted.withBook (h : Noted notes s { s' with toTerminalBook := s.toTerminalBook }) :
    Noted notes { s with toTerminalBook := s'.toTerminalBook } s' :=
  ⟨rfl, h.lifecycle_eq, h.events, h.causes, h.drops, h.dropped, h.rejected⟩

theorem locked_recordRejection (h : rejection.reason ∈ Allocation.lockedRejectionReasons) :
    (s.recordRejection pair rejection).rejectionLocked pair = true :=
  rejectionLocked_of_get? (Dict.get?_insert.trans (if_pos rfl)) h

theorem ended_of_dropped {u : Allocation}
    (hprior : ctx.prior.associations.get? pair = some indices)
    (h : Dropped (endNotes (successorCurrent ctx.prior teardown) [pair, teardown.successorPair])
      [pair, teardown.successorPair] (reporting s (endReport ctx
        (abortCategory (successorCurrent ctx.prior teardown)).event pair teardown.successorPair
        gsId)) u)
    (hlocked : teardown.successorPair ∈ ctx.visibleSet →
      u.rejectionLocked teardown.successorPair = true) (t : Allocation)
    (ht : Noted (endNotes (successorCurrent ctx.prior teardown) [pair, teardown.successorPair]) u
      { t with toTerminalBook := s.toTerminalBook })
    (hreadded : t.toTerminalBook = s.toTerminalBook ∨
      Readded ctx pair indices s.toTerminalBook t.toTerminalBook)
    (hdecided : pair ∈ t.newAssociations ∨
      (pair ∈ ctx.visibleSet → t.rejectionLocked pair = true)) :
    Ended ctx pair teardown [pair, teardown.successorPair] s t := by
  have hall := h.before ht
  refine ⟨.inr rfl, hreadded.imp_right fun h => ⟨by simp, indices, hprior, h⟩,
    ⟨_, hall.noted.withBook, rfl, rfl, .inr rfl⟩, hall.caused, hall.drops, fun p hp => ?_⟩
  simp only [List.mem_cons, List.not_mem_nil, or_false] at hp
  rcases hp with rfl | rfl
  · exact hdecided
  · exact .inr fun hvisible => ht.locked (fun _ => locked_of_mem_reasons) (hlocked hvisible)

theorem wp_abortTeardown_ended (hctx : ContextFacts ctx)
    (hprior : ctx.prior.associations.get? pair = some indices)
    (hlost : successorCurrent ctx.prior teardown = true → teardown.successorPair ∉ ctx.visibleSet) :
    wp (abortTeardown ctx pair teardown.successorPair gsId indices
        (successorCurrent ctx.prior teardown)) s
      (fun _ s' => Ended ctx pair teardown [pair, teardown.successorPair] s s') Raises := by
  set current := successorCurrent ctx.prior teardown
  set successor := teardown.successorPair
  set notes := endNotes current [pair, successor] with hnotes
  have habort := abortCategory_noted current [pair, successor]
  have hincumbentLost : .incumbentLost ∈ notes.categories := by
    simp only [hnotes, endNotes]
    split <;> simp
  have hpairs : pair ∈ notes.pairs ∧ successor ∈ notes.pairs := by simp [hnotes, endNotes]
  have hfailed : successor ∈ ctx.visibleSet →
      .failedAcquire ∈ notes.categories ∧ .failedAcquire ∈ notes.reasons := by
    intro hvisible
    have hnew : current = false := Bool.eq_false_of_not_eq_true fun h => hlost h hvisible
    simp [hnotes, endNotes, hnew]
  set report := endReport ctx (abortCategory current).event pair successor gsId
  have hnoted : ∀ {m : AllocationProgram Unit} {t : Allocation}, Within (Noted notes) m →
      Noted notes (reporting s report) t →
      wp m t (fun _ => Noted notes (reporting s report)) Raises := fun hm ht =>
    hm.wp _ (fun _ _ h => IsTrans.trans _ _ _ ht h) fun _ _ _ => trivial
  unfold abortTeardown
  refine wp_report habort.1 fun s₀ h₀ => ?_
  simp only [wp_bind, wp_modify]
  refine wp_imp (hnoted (within_when fun _ => noted_emitIncumbentLost hincumbentLost) h₀)
    fun _ s₁ h₁ => ?_
  refine wp_imp (hnoted (within_when fun _ => noted_emitIncumbentLost hincumbentLost) h₁)
    fun _ s₂ h₂ => ?_
  refine wp_imp (hnoted (within_when fun hfail => within_bind within_lift fun _ =>
    noted_makeEvent (hfailed hfail.1).1) h₂) fun _ s₃ h₃ => ?_
  have hdropped := (dropped_both (s := s₃) (abortCategory current).cause hpairs.1 hpairs.2).after h₃
  refine wp_imp (Q := fun _ t => Dropped notes [pair, successor] (reporting s report) t ∧
    (successor ∈ ctx.visibleSet → t.rejectionLocked successor = true)) ?_ ?_
  · refine wp_when.mpr ⟨fun hvisible => ?_, fun hhidden =>
      ⟨hdropped, fun hvisible => absurd hvisible hhidden⟩⟩
    exact ⟨hdropped.before (noted_recordRejection hpairs.2 (hfailed hvisible).2),
      fun _ => locked_recordRejection (by simp [Allocation.lockedRejectionReasons])⟩
  · rintro _ s₅ ⟨h₅, hlocked⟩
    have hbook : s₅.toTerminalBook = s.toTerminalBook := h₅.noted.book_eq
    have hended := ended_of_dropped hprior h₅ hlocked
    rw [wp_ite]
    refine ⟨fun hvisible => ?_, fun hhidden => hended s₅ (hbook ▸ Std.Refl.refl _) (.inl hbook)
      (.inr fun hvisible => absurd hvisible hhidden)⟩
    cases ctx.config.successorAbortPolicy with
    | hardRelease =>
      exact hended _ (hbook ▸ noted_recordRejection hpairs.1 habort.2) (.inl hbook)
        (.inr fun _ => locked_recordRejection (locked_of_mem_reasons habort.2))
    | softRetain =>
      refine wp_imp (wp_addExisting_eq hctx hvisible) ?_
      rintro _ _ ⟨b, hreadded, rfl⟩
      refine hended _ (hbook ▸ Std.Refl.refl _) (.inr (hbook ▸ hreadded)) (.inl ?_)
      obtain ⟨c, -, rfl, -, rfl⟩ := hreadded
      exact Dict.mem_insert.mpr (.inl rfl)

theorem wp_completeTeardown_ended : wp (completeTeardown ctx pair teardown.successorPair gsId) s
      (fun _ s' => Ended ctx pair teardown [pair] s s') Raises := by
  set notes := endNotes (successorCurrent ctx.prior teardown) [pair] with hnotes
  have hcategories : .teardownCompleted ∈ notes.categories ∧ .incumbentLost ∈ notes.categories := by
    simp only [hnotes, endNotes]
    split <;> simp
  have hreason : .replacedBySuccessor ∈ notes.reasons := by
    simp only [hnotes, endNotes]
    split <;> simp
  have hpair : pair ∈ notes.pairs := by simp [hnotes, endNotes]
  unfold completeTeardown
  rw [wp_bind, wp_modify]
  refine wp_report hcategories.1 fun s₁ h₁ => ?_
  have hdropped := (dropped_pair hpair).reporting.before h₁
  have hended : ∀ t, Noted notes s₁ t → (pair ∈ ctx.visibleSet → t.rejectionLocked pair = true) →
      Ended ctx pair teardown [pair] s t := by
    intro t ht hlocked
    have hall := hdropped.before ht
    have hbook : t.toTerminalBook = s.toTerminalBook := hall.noted.book_eq
    refine ⟨.inl rfl, .inl hbook, ⟨endReport ctx _ pair _ gsId, ?_, rfl, rfl, .inl rfl⟩,
      hall.caused, hall.drops, fun p hp => .inr (List.mem_singleton.mp hp ▸ hlocked)⟩
    rw [hbook]
    exact hall.noted
  simp only [wp_ite, wp_modify]
  refine ⟨fun _ => hended _ (noted_recordRejection hpair hreason) fun _ => ?_, fun hhidden => ?_⟩
  · exact locked_recordRejection (by simp [Allocation.lockedRejectionReasons])
  · exact (noted_emitIncumbentLost hcategories.2).wp _
      (fun _ t ht => hended t ht fun hvisible => absurd hvisible hhidden) fun _ _ _ => trivial

/-- The recovery of a pending teardown: it ends, or it is kept with its pair. -/
inductive Recovered (ctx : AllocationContext) (pair : Pair) (s : Allocation) : Allocation → Prop
  | ended {s' : Allocation} (teardown : MbbTeardown) (gone : List Pair)
      (get : ctx.prior.pendingTeardowns.get? pair = some teardown)
      (ended : Ended ctx pair teardown gone s s') : Recovered ctx pair s s'
  | kept (teardown : MbbTeardown) (indices : Indices) (b : TerminalBook)
      (get : ctx.prior.pendingTeardowns.get? pair = some teardown)
      (prior : ctx.prior.associations.get? pair = some indices)
      (visible : teardown.successorPair ∈ ctx.visibleSet)
      (readded : Readded ctx pair indices s.toTerminalBook b) :
      Recovered ctx pair s { s with toTerminalBook := b.setTeardown pair teardown }

theorem wp_recoverTeardown_recovered (hctx : ContextFacts ctx) :
    wp (recoverTeardown ctx pair) s (fun _ s' => Recovered ctx pair s s') Raises := by
  unfold recoverTeardown
  simp only [wp_bind, wp_lift, wp_require]
  refine ⟨fun indices hindices => ⟨fun teardown hteardown => ⟨fun _ => ⟨?_, fun _ _ => trivial⟩,
    fun _ => trivial⟩, fun _ _ => trivial⟩, fun _ _ => trivial⟩
  rintro ⟨gsId, satId⟩ -
  refine ⟨fun _ => ⟨fun mode _ => ⟨fun _ => ⟨fun overlapTicks _ => ?_, fun _ _ => trivial⟩,
    fun _ => trivial⟩, fun _ _ => trivial⟩, fun _ => trivial⟩
  have hget := lookupKey_eq_ok_iff.mp hteardown
  have hprior : ctx.prior.associations.get? pair = some indices := by
    cases hfound : ctx.prior.associations.get? pair with
    | none => simp [hfound] at hindices
    | some found => simpa [hfound] using hindices
  rw [← successorCurrent]
  simp only [wp_ite]
  refine ⟨fun hlost => ?_, fun hsurvives => ⟨fun _ => ?_, fun hkeep => ?_⟩⟩
  · refine wp_imp (wp_abortTeardown_ended hctx hprior fun hcurrent => ?_) fun _ s' hs' =>
      .ended teardown _ hget hs'
    exact hlost.resolve_right (by simp [hcurrent])
  · exact wp_imp wp_completeTeardown_ended fun _ s' hs' => .ended teardown _ hget hs'
  · have hvisible : pair ∈ ctx.visibleSet := not_not.mp fun hnot => hkeep (.inr hnot)
    simp only [wp_bind, wp_modify]
    refine wp_imp (wp_addExisting_eq hctx hvisible) ?_
    rintro _ _ ⟨b, hreadded, rfl⟩
    exact .kept teardown indices b hget hprior (not_not.mp fun hnot => hsurvives (.inl hnot)) hreadded

/-- The continuity of an association of the previous tick: recovery decided about it, or it is
lost, or it is kept under its indices. -/
inductive Continued (ctx : AllocationContext) (entry : Pair × Indices) (s : Allocation) :
    Allocation → Prop
  | decided (out : entry.1 ∈ ctx.prior.pendingTeardowns ∨ entry.1 ∈ s.dropCurrentPairs) :
      Continued ctx entry s s
  | lost {s' : Allocation} (hidden : entry.1 ∉ ctx.visibleSet)
      (noted : Noted ⟨[], [.incumbentLost], []⟩ s s') (caused : entry.1 ∈ s'.releaseCause)
      (drop_eq : s'.dropCurrentPairs = s.dropCurrentPairs) :
      Continued ctx entry s s'
  | kept (b : TerminalBook) (steady : entry.1 ∉ ctx.prior.pendingTeardowns)
      (undropped : entry.1 ∉ s.dropCurrentPairs) (visible : entry.1 ∈ ctx.visibleSet)
      (readded : Readded ctx entry.1 entry.2 s.toTerminalBook b) :
      Continued ctx entry s { s with toTerminalBook := b }

theorem wp_keepSteady_continued (hctx : ContextFacts ctx) {entry : Pair × Indices} :
    wp (keepSteady ctx entry) s (fun _ s' => Continued ctx entry s s') Raises := by
  simp only [keepSteady, wp_bind, wp_get, wp_ite, wp_pure]
  refine ⟨.decided, fun hin => ⟨fun hhidden => ?_, fun hvisible => ?_⟩⟩
  · simp only [emitIncumbentLost, wp_bind, wp_modify, wp_lift]
    refine ⟨fun ids _ => ⟨fun event hevent => .lost hhidden ?_ ?_ ?_, fun _ _ => trivial⟩,
      fun _ _ => trivial⟩
    · have hreleased : Noted ⟨[], [.incumbentLost], []⟩ s (s.released entry.1 .incumbentLost) :=
        noted_released
      refine IsTrans.trans _ _ _ hreleased ⟨rfl, rfl, ⟨[event], rfl, ?_⟩, fun _ h => h,
        fun _ h => h, fun _ h => .inl h, fun _ => .inl rfl⟩
      simp [(makeEvent_eq_ok hevent).1]
    · exact mem_causes_released (s := s)
    · exact congrArg (fun t => t.dropCurrentPairs) (released_eq s entry.1 .incumbentLost)
  · rw [not_or] at hin
    refine wp_imp (wp_addExisting_eq hctx (not_not.mp hvisible)) ?_
    rintro _ _ ⟨b, hreadded, rfl⟩
    exact .kept b hin.1 hin.2 (not_not.mp hvisible) hreadded

end NodalArc.GroundTransitions
