import NodalArc.CommandRules

/-! Rules for the release and the acquisition of local links, and what the make-before-break
classification does with the pairs it is given. -/

namespace NodalArc.LocalLinks

open OrderedDict
open GroundPolicy
open LinkRecord
open DispatchPlanner
open Actuation
open NodeAgentBatches
open DispatchActuator
open CommandVerdict
open Reconcile
open HeldRecords
open CommandRules
open BatchEntries
open StatefulProgram
open StatefulProgram.Program

variable {Q : ActuationResult → Scheduler → Prop} {failed : List NodeId}
    {acquired downs ups : List Pair} {gsId satId : NodeId} {E : SchedulerError → Scheduler → Prop}

variable {config : SchedulerConfig} {env : Surroundings} {s : Scheduler}
    {downReasons : Dict Pair String} {pairs : List Pair} {pair : Pair} {plan : BatchPlan}

/-! ### Releases -/

def removeAll (config : SchedulerConfig) (pairs : List Pair) (s : Scheduler) : Scheduler :=
  pairs.foldl (fun s pair => removeActual config pair s) s

theorem record?_removeAll {key : RecordKey} : record? (removeAll config pairs s) key =
    if key ∈ pairs.map RecordKey.current then none else record? s key := by
  unfold removeAll
  induction pairs generalizing s with
  | nil => rfl
  | cons pair pairs ih =>
    rw [List.foldl_cons, ih, record?_removeActual, List.map_cons]
    by_cases hkey : key = .current pair
    · rw [if_pos hkey, ite_self, if_pos (hkey ▸ List.mem_cons_self)]
    · rw [if_neg hkey]
      simp only [List.mem_cons, hkey, false_or]

@[simp] theorem gsActuation_removeAll :
    (removeAll config pairs s).gsActuation = s.gsActuation := by
  unfold removeAll
  induction pairs generalizing s with
  | nil => rfl
  | cons pair pairs ih => rw [List.foldl_cons, ih, gsActuation_removeActual]

@[simp] theorem log_removeAll : (removeAll config pairs s).log = s.log := by
  unfold removeAll
  induction pairs generalizing s with
  | nil => rfl
  | cons pair pairs ih => rw [List.foldl_cons, ih, log_removeActual]

def releaseFrame (s : Scheduler) (pairs : List Pair) (downReasons : Dict Pair String) :
    CommandFrame :=
  downFrame s.actualLinks pairs (releaseDown downReasons)

theorem wp_releaseLinks (hE : ∀ e, E e s)
    (h : ∀ plan events, buildLinkDownBatchPlan config .close ∅ ∅ s.actualLinks (sortedSet pairs) =
        .ok plan → (∀ event ∈ events, LocalDown s.actualLinks pairs event) →
      let frame := releaseFrame s pairs downReasons
      let sent := afterEvents events (afterCommand env frame plan s)
      let result := resultIn config env frame plan s
      (∀ e, E e sent) ∧ (Absorbed result → ∀ gsActuation, NoneCleared s.gsActuation gsActuation →
        Q result (removeAll config (sortedSet result.succeededPairs) { sent with gsActuation }))) :
    wp (releaseLinks config env downReasons pairs) s Q E := by
  rw [releaseLinks, wp_bind, wp_get, wp_bind]
  refine wp_sendBatchDown (fun e _ => hE e) fun plan events hplan hevents => ?_
  rw [wp_bind]
  refine wp_handleActuationResult_absorbed (fun habsorbed gsActuation hnone => ?_)
    (h plan events hplan hevents).1
  rw [wp_bind, wp_forM_modify]
  exact (h plan events hplan hevents).2 habsorbed gsActuation hnone

theorem released_of_acknowledges {info : ActiveLinkInfo}
    (hplan : buildLinkDownBatchPlan config .close ∅ ∅ s.actualLinks (sortedSet pairs) = .ok plan)
    (habsorbed : Absorbed (resultIn config env (releaseFrame s pairs downReasons) plan s))
    (hpair : pair ∈ pairs) (hheld : record? s (.current pair) = some info)
    (hack : info.linkType = .ground → Acknowledges env .batchLinkDown .close pair) :
    pair ∈ (resultIn config env (releaseFrame s pairs downReasons) plan s).succeededPairs := by
  have hmem := mem_sortedSet.mpr hpair
  by_contra hfailed
  have htype := ground_of_failed habsorbed hmem hfailed
  change linkTypesOf s.actualLinks pair = some .ground at htype
  rw [linkTypesOf, show s.actualLinks.get? pair = some info from hheld, Option.map_some,
    Option.some.injEq] at htype
  refine hfailed (succeeded_of_acknowledges (hack htype) rfl hmem ?_)
  obtain ⟨hcheck, ends, hends⟩ := built_of_linkDown hplan hmem hheld
  obtain ⟨e, he⟩ := List.exists_mem_of_ne_nil _ (linkEnds_ne_nil hends)
  refine ⟨_, (entry_of_linkDown hplan).mpr ⟨pair, hmem, info, ends, hheld, hcheck, hends, e, ?_,
    rfl⟩, rfl⟩
  rw [selectedEnds, Dict.get?_empty]
  exact he

theorem wp_releaseLinks_gone (freed : Pair → Prop) (hsub : ∀ pair, freed pair → pair ∈ pairs)
    (hack : ∀ pair, freed pair → ∀ info, record? s (.current pair) = some info →
      info.linkType = .ground → Acknowledges env .batchLinkDown .close pair) :
    wp (releaseLinks config env downReasons pairs) s
      (fun _ t => ∀ pair, freed pair → record? t (.current pair) = none) (fun _ _ => True) := by
  refine wp_releaseLinks (fun _ => trivial) fun plan events hplan _ => ⟨fun _ => trivial, ?_⟩
  intro habsorbed g _ pair hfreed
  rw [record?_removeAll]
  split
  · rfl
  · rename_i hkept
    change record? s (.current pair) = none
    by_contra hheld
    obtain ⟨info, hinfo⟩ := Option.ne_none_iff_exists'.mp hheld
    exact hkept (List.mem_map_of_mem (mem_sortedSet.mpr (released_of_acknowledges hplan habsorbed
      (hsub pair hfreed) hinfo (hack pair hfreed info hinfo))))

theorem wp_releaseLinks_succeeded : wp (releaseLinks config env downReasons pairs) s
    (fun result t => ∀ pair ∈ result.succeededPairs, record? t (.current pair) = none)
    (fun _ _ => True) := by
  refine wp_releaseLinks (fun _ => trivial) fun plan events _ _ => ⟨fun _ => trivial, ?_⟩
  intro _ g _ pair hpair
  rw [record?_removeAll, if_pos (List.mem_map_of_mem (mem_sortedSet.mpr hpair))]

def NoNewRecords (s t : Scheduler) : Prop :=
  ∀ key info, record? t key = some info → record? s key = some info

instance : Std.Refl NoNewRecords := ⟨fun _ _ _ h => h⟩

theorem NoNewRecords.none {t : Scheduler} {key : RecordKey} (h : NoNewRecords s t)
    (hnone : record? s key = none) : record? t key = none := by
  by_contra hsome
  obtain ⟨info, hinfo⟩ := Option.ne_none_iff_exists'.mp hsome
  cases hnone.symm.trans (h key info hinfo)

theorem noNewRecords_removeAll : NoNewRecords s (removeAll config pairs s) := by
  intro key info h
  rw [record?_removeAll] at h
  exact (Option.ite_none_left_eq_some.mp h).2

theorem noNewRecords_releaseLinks :
    Within NoNewRecords (releaseLinks config env downReasons pairs) := by
  intro s
  refine wp_releaseLinks (fun _ _ _ h => h) fun plan events _ _ =>
    ⟨fun _ key info h => (record?_congr rfl rfl).symm.trans h, fun _ g _ key info h => ?_⟩
  have hold := noNewRecords_removeAll key info h
  exact (record?_congr rfl rfl).symm.trans hold

structure FewerCounts (s t : Scheduler) : Prop where
  gs : ∀ node, t.gsActiveCount node ≤ s.gsActiveCount node
  sat : ∀ node, t.satActiveCount node ≤ s.satActiveCount node

instance : Std.Refl FewerCounts := ⟨fun _ => ⟨fun _ => le_rfl, fun _ => le_rfl⟩⟩

instance : IsTrans Scheduler FewerCounts where
  trans _ _ _ hst htu :=
    ⟨fun node => (htu.gs node).trans (hst.gs node), fun node => (htu.sat node).trans (hst.sat node)⟩

theorem fewerCounts_countEnd {node : NodeId} :
    FewerCounts s (countEnd config (· - 1) s node) := by
  have hupdate : ∀ (count : NodeId → Nat) (other : NodeId),
      Function.update count node (count node - 1) other ≤ count other := by
    intro count other
    rw [Function.update_apply]
    split_ifs with heq
    · rw [heq]
      exact Nat.sub_le _ _
    · exact le_rfl
  unfold countEnd
  split_ifs
  · exact ⟨hupdate s.gsActiveCount, fun _ => le_rfl⟩
  · exact ⟨fun _ => le_rfl, hupdate s.satActiveCount⟩
  · exact Std.Refl.refl s

theorem fewerCounts_removeAll : FewerCounts s (removeAll config pairs s) := by
  have hlink : ∀ (t : Scheduler) (pair : Pair) (link : LinkInfo),
      FewerCounts t (decrementActiveCounts config pair link t) := by
    intro t pair link
    unfold decrementActiveCounts countLink
    split_ifs
    · exact IsTrans.trans _ _ _ fewerCounts_countEnd fewerCounts_countEnd
    · exact Std.Refl.refl t
  unfold removeAll
  induction pairs generalizing s with
  | nil => exact Std.Refl.refl s
  | cons pair pairs ih =>
    refine IsTrans.trans _ (removeActual config pair s) _ ?_ ih
    unfold removeActual
    split
    next => exact Std.Refl.refl s
    next info _ =>
      have hfewer := hlink { s with actualLinks := s.actualLinks.erase pair } pair info.toLinkInfo
      exact ⟨hfewer.gs, hfewer.sat⟩

theorem fewerCounts_releaseLinks :
    Within FewerCounts (releaseLinks config env downReasons pairs) := by
  intro s
  have hsame : FewerCounts s s := Std.Refl.refl s
  refine wp_releaseLinks (fun _ => hsame) fun plan events _ _ => ⟨fun _ => ?_, fun _ g _ => ?_⟩
  · exact ⟨hsame.gs, hsame.sat⟩
  · exact ⟨fewerCounts_removeAll.gs, fewerCounts_removeAll.sat⟩

/-! ### Acquisitions -/

variable {desired : Dict Pair LinkInfo} {intent : DispatchIntent}

def addAll (config : SchedulerConfig) (desired : Dict Pair LinkInfo) (pairs : List Pair)
    (s : Scheduler) : Scheduler :=
  pairs.foldl (fun s pair => (desired.get? pair).elim s (addActual config pair · s)) s

theorem addAll_cons {want : LinkInfo} (hwant : desired.get? pair = some want) :
    addAll config desired (pair :: pairs) s =
      addAll config desired pairs (addActual config pair want s) := by
  rw [addAll, List.foldl_cons, hwant]
  rfl

theorem record?_addAll {key : RecordKey} (hdesired : ∀ pair ∈ pairs, pair ∈ desired) :
    record? (addAll config desired pairs s) key = if key ∈ pairs.map RecordKey.current then
      (desired.get? key.pair).map LinkInfo.activate else record? s key := by
  induction pairs generalizing s with
  | nil => rfl
  | cons pair pairs ih =>
    obtain ⟨hpair, hrest⟩ := List.forall_mem_cons.mp hdesired
    obtain ⟨want, hwant⟩ := Dict.mem_iff.mp hpair
    rw [addAll_cons hwant, ih hrest, record?_addActual, List.map_cons]
    by_cases hkey : key = .current pair
    · simp [hkey, RecordKey.pair, hwant]
    · rw [if_neg hkey]
      simp only [List.mem_cons, hkey, false_or]

@[simp] theorem log_addAll : (addAll config desired pairs s).log = s.log := by
  induction pairs generalizing s with
  | nil => rfl
  | cons pair pairs ih =>
    cases hwant : desired.get? pair with
    | none => rw [addAll, List.foldl_cons, hwant, ← addAll, Option.elim_none, ih]
    | some want => rw [addAll_cons hwant, ih, log_addActual]

theorem wp_recordAll {R : Unit → Scheduler → Prop} (hdesired : ∀ pair ∈ pairs, pair ∈ desired) :
    wp (forM pairs fun pair => do
        let info ← lift (lookupDesired desired pair)
        modify (addActual config pair info)) s R E ↔ R () (addAll config desired pairs s) := by
  induction pairs generalizing s with
  | nil => exact Iff.rfl
  | cons pair pairs ih =>
    obtain ⟨hpair, hrest⟩ := List.forall_mem_cons.mp hdesired
    obtain ⟨want, hwant⟩ := Dict.mem_iff.mp hpair
    simp only [List.forM_cons, wp_bind, wp_lift, wp_modify, lookupDesired_eq_ok_iff.mpr hwant,
      Except.ok.injEq, reduceCtorEq, false_implies, implies_true, and_true, forall_eq', ih hrest,
      addAll_cons hwant]

theorem wp_acquireLinks (hE : ∀ e, E e s)
    (h : ∀ plan, buildLinkUpBatchPlan config env .open intent.desired (sortedSet pairs) = .ok plan →
      let frame := upFrame intent.desired .open pairs
      let result := resultIn config env frame plan s
      let sent := fun published : List Pair => afterEvents
        (published.reverse.map (linkUpOf intent.desired)) (afterCommand env frame plan s)
      (∀ pair ∈ sortedSet result.succeededPairs, pair ∈ pairs ∧ pair ∈ intent.desired) →
      (∀ e published, published <+: sortedSet result.succeededPairs → E e (sent published)) ∧
      ∀ gsActuation, NoneCleared s.gsActuation gsActuation →
        Q result (addAll config intent.desired (sortedSet result.succeededPairs)
          { sent (sortedSet result.succeededPairs) with gsActuation })) :
    wp (acquireLinks config env intent pairs) s Q E := by
  rw [acquireLinks, wp_bind]
  refine wp_sendBatchUp hE fun plan hplan hfresh => ?_
  have hasked : ∀ pair ∈ sortedSet (resultIn config env (upFrame intent.desired .open pairs) plan
      s).succeededPairs, pair ∈ pairs ∧ pair ∈ intent.desired := by
    intro pair hpair
    have hmem := mem_sortedSet.mp (succeededPairs_subset (mem_sortedSet.mp hpair))
    obtain ⟨want, hwant, -⟩ := hfresh pair hmem
    exact ⟨hmem, Dict.mem_of_get? hwant⟩
  obtain ⟨herror, hdone⟩ := h plan hplan hasked
  refine wp_publishLinkUps (fun e published h _ => herror e published h) ?_
  rw [wp_bind]
  refine wp_handleActuationResult (fun g hg => ?_) fun e => herror e _ (List.prefix_refl _)
  rw [wp_bind, wp_recordAll fun pair hpair => (hasked pair hpair).2]
  exact hdone g hg

/-- Acquires that all came up: each has a record, no other pair's record changed, and the command
is all that was sent. -/
structure Acquired (config : SchedulerConfig) (surroundings : Surroundings) (intent : DispatchIntent)
    (pairs : List Pair) (s t : Scheduler) : Prop where
  outside : OutsideKept pairs s t
  recorded : ∀ pair ∈ pairs, record? t (.current pair) ≠ none
  sent : ∃ plan ups, buildLinkUpBatchPlan config surroundings .open intent.desired
      (sortedSet pairs) = .ok plan ∧ (∀ sent, Event.command sent ∉ ups) ∧
    t.log = ups ++ .command (sentIn surroundings (upFrame intent.desired .open pairs) plan s) ::
      s.log

theorem wp_acquireLinks_acquired (hacks : ∀ pair ∈ pairs, Acknowledges env .batchLinkUp .open pair) :
    wp (acquireLinks config env intent pairs) s
      (fun result t => Acquired config env intent pairs s t ∧
        ∀ pair ∈ pairs, pair ∈ result.succeededPairs) (fun _ _ => True) := by
  refine wp_acquireLinks (fun _ => trivial) fun plan hplan hasked =>
    ⟨fun _ _ _ => trivial, fun g _ => ?_⟩
  have hall : ∀ pair ∈ pairs, pair ∈ (resultIn config env
      (upFrame intent.desired .open pairs) plan s).succeededPairs := by
    intro pair hpair
    exact succeeded_of_acknowledges (hacks pair hpair) rfl (mem_sortedSet.mpr hpair)
      (exists_planned_of_linkUp hplan (mem_sortedSet.mpr hpair))
  refine ⟨⟨fun key hkey => ?_, fun pair hpair => ?_, plan, _, hplan, command_notMem_linkUps,
    log_addAll⟩, hall⟩
  · rw [record?_addAll fun pair hpair => (hasked pair hpair).2, if_neg, record?_station,
      record?_afterEvents, record?_afterCommand]
    intro hmem
    obtain ⟨pair, hpair, rfl⟩ := List.mem_map.mp hmem
    exact hkey (hasked pair hpair).1
  · have hsucceeded := mem_sortedSet.mpr (hall pair hpair)
    rw [record?_addAll fun pair hpair => (hasked pair hpair).2,
      if_pos (List.mem_map_of_mem hsucceeded)]
    simpa [RecordKey.pair] using Dict.get?_eq_none_iff.not_left.mpr (hasked pair hsucceeded).2

/-! ### Classification -/

def segments (c : MbbClassification) : HandoverMode → List NodeId
  | .mbb => c.mbbSegments
  | .bbm => c.bbmSegments

section Classification

variable {toRemove toAdd forced : List Pair} {occupancy : Occupancy} {c : MbbClassification}

theorem mem_dirty {f : Pair → Option NodeId} :
    gsId ∈ sortedNodes (pairs.filterMap f) ↔ ∃ pair ∈ pairs, f pair = some gsId := by
  rw [sortedNodes, List.mem_insertionSort, List.mem_dedup, List.mem_filterMap]

variable (h : classifyMbbChanges toRemove toAdd occupancy forced = .ok c)

include h

theorem classifyMbbChanges_eq_ok :
    c.islDowns = pairsWithoutStation occupancy.gsCapacities toRemove ∧
    c.islUps = pairsWithoutStation occupancy.gsCapacities toAdd ∧
    c.gsDowns = pairsOfStation occupancy.gsCapacities toRemove ∧
    c.gsUps = pairsOfStation occupancy.gsCapacities toAdd ∧ ∀ mode gsId, gsId ∈ segments c mode ↔
      (∃ pair ∈ toRemove ++ toAdd, gsIdForPair pair occupancy.gsCapacities = some gsId) ∧
      segmentMode occupancy forced (c.gsDowns gsId) (c.gsUps gsId) gsId = .ok mode := by
  obtain ⟨modes, hmodes, h⟩ := bind_eq_ok_iff.mp h
  obtain rfl := Except.ok.inj h
  refine ⟨rfl, rfl, rfl, rfl, fun mode gsId => ?_⟩
  refine Iff.trans (b := (gsId, mode) ∈ modes) (by cases mode <;> simp [segments]) ⟨?_, ?_⟩
  · intro hmem
    obtain ⟨_, hdirty, htag⟩ := exists_of_mem_mapM hmodes hmem
    obtain ⟨_, hmode, htag⟩ := bind_eq_ok_iff.mp htag
    obtain ⟨rfl, rfl⟩ := Prod.mk.inj (Except.ok.inj htag)
    exact ⟨mem_dirty.mp hdirty, hmode⟩
  · rintro ⟨hstation, hmode⟩
    obtain ⟨tagged, htagged, htag⟩ := exists_ok_of_mapM hmodes (mem_dirty.mpr hstation)
    obtain ⟨mode', hmode', htag⟩ := bind_eq_ok_iff.mp htag
    obtain rfl : mode = mode' := Except.ok.inj (hmode.symm.trans hmode')
    obtain rfl := Except.ok.inj htag
    exact htagged

theorem exists_segmentMode
    (hstation : ∃ pair ∈ toRemove ++ toAdd, gsIdForPair pair occupancy.gsCapacities = some gsId) :
    ∃ mode, segmentMode occupancy forced (c.gsDowns gsId) (c.gsUps gsId) gsId = .ok mode := by
  obtain ⟨modes, hmodes, h⟩ := bind_eq_ok_iff.mp h
  obtain rfl := Except.ok.inj h
  obtain ⟨_, -, htag⟩ := exists_ok_of_mapM hmodes (mem_dirty.mpr hstation)
  obtain ⟨mode, hmode, -⟩ := bind_eq_ok_iff.mp htag
  exact ⟨mode, hmode⟩

theorem mem_preRelease_of_forced (hpair : pair ∈ toRemove) (hforced : pair ∈ forced) :
    pair ∈ c.islDowns ++ c.bbmSegments.flatMap c.gsDowns := by
  obtain ⟨hislDowns, -, hgsDowns, -, hsegments⟩ := classifyMbbChanges_eq_ok h
  rw [List.mem_append]
  cases hstation : gsIdForPair pair occupancy.gsCapacities with
  | none =>
    rw [hislDowns]
    exact .inl (List.mem_filter.mpr ⟨hpair, decide_eq_true hstation⟩)
  | some gsId =>
    have hdown : pair ∈ c.gsDowns gsId := by
      rw [hgsDowns]
      exact List.mem_filter.mpr ⟨hpair, decide_eq_true hstation⟩
    refine .inr (List.mem_flatMap.mpr ⟨gsId, (hsegments .bbm gsId).mpr ⟨⟨pair, ?_, hstation⟩, ?_⟩,
      hdown⟩)
    · exact List.mem_append_left _ hpair
    · rw [segmentMode, if_pos ⟨pair, List.mem_append_left _ hdown, hforced⟩]

omit h in
/-- Why a pair is acquired: it has no station, its station makes before it breaks, or its station
breaks first, without a failure, and has room. -/
theorem acquireUps_cases (hups : acquireUps config s c failed = .ok acquired)
    (hpair : pair ∈ acquired) : pair ∈ c.islUps ∨ ∃ gsId, pair ∈ c.gsUps gsId ∧
      (gsId ∈ c.mbbSegments ∨ gsId ∈ c.bbmSegments ∧ gsId ∉ failed ∧
        spareForAcquire config s gsId pair = .ok true) := by
  obtain ⟨greedy, hgreedy, hups⟩ := bind_eq_ok_iff.mp hups
  rw [← Except.ok.inj hups, List.mem_append, List.mem_append] at hpair
  rcases hpair with (hpair | hpair) | hpair
  · exact .inl hpair
  · obtain ⟨gsId, hgsId, hup⟩ := List.mem_flatMap.mp hpair
    exact .inr ⟨gsId, hup, .inl hgsId⟩
  · obtain ⟨acquires, hacquires, hmem⟩ := List.mem_flatten.mp hpair
    obtain ⟨gsId, hgsId, hgs⟩ := exists_of_mem_mapM hgreedy hacquires
    obtain ⟨lists, hlists, hgs⟩ := bind_eq_ok_iff.mp hgs
    rw [← Except.ok.inj hgs] at hmem
    obtain ⟨one, hone, hmem⟩ := List.mem_flatten.mp hmem
    obtain ⟨up, hup, hspare⟩ := exists_of_mem_mapM hlists hone
    obtain ⟨spare, hspare, hlist⟩ := bind_eq_ok_iff.mp hspare
    rw [← Except.ok.inj hlist] at hmem
    split_ifs at hmem with htrue
    · obtain rfl := List.mem_singleton.mp hmem
      subst htrue
      obtain ⟨hbbm, hfailed⟩ := List.mem_filter.mp hgsId
      exact .inr ⟨gsId, mem_sortedSet.mp hup, .inr ⟨hbbm, of_decide_eq_true hfailed, hspare⟩⟩
    · cases hmem

theorem mem_toAdd_of_mem_acquireUps
    (hups : acquireUps config s c failed = .ok acquired) (hpair : pair ∈ acquired) :
    pair ∈ toAdd := by
  obtain ⟨-, hislUps, -, hgsUps, -⟩ := classifyMbbChanges_eq_ok h
  rcases acquireUps_cases hups hpair with hpair | ⟨gsId, hpair, -⟩
  · rw [hislUps] at hpair
    exact (List.mem_filter.mp hpair).1
  · rw [hgsUps] at hpair
    exact (List.mem_filter.mp hpair).1

theorem segment_of_acquireUps (hups : acquireUps config s c failed = .ok acquired)
    (hpair : pair ∈ acquired) (hstation : gsIdForPair pair occupancy.gsCapacities = some gsId) :
    pair ∈ c.gsUps gsId ∧ (gsId ∈ c.mbbSegments ∨ gsId ∈ c.bbmSegments ∧ gsId ∉ failed ∧
      spareForAcquire config s gsId pair = .ok true) := by
  obtain ⟨-, hislUps, -, hgsUps, -⟩ := classifyMbbChanges_eq_ok h
  rcases acquireUps_cases hups hpair with hpair | ⟨other, hup, hsegment⟩
  · rw [hislUps] at hpair
    cases (of_decide_eq_true (List.mem_filter.mp hpair).2).symm.trans hstation
  · have hother := hup
    rw [hgsUps] at hother
    obtain rfl := Option.some.inj ((of_decide_eq_true (List.mem_filter.mp hother).2).symm.trans
      hstation)
    exact ⟨hup, hsegment⟩

/-- A failed release holds back the acquires of its station. -/
theorem not_failed_of_acquireUps (hups : acquireUps config s c failed = .ok acquired)
    (hpair : pair ∈ acquired) (hstation : gsIdForPair pair occupancy.gsCapacities = some gsId)
    (hbbm : gsId ∈ c.bbmSegments) : gsId ∉ failed := by
  obtain ⟨-, -, -, -, hsegments⟩ := classifyMbbChanges_eq_ok h
  rcases (segment_of_acquireUps h hups hpair hstation).2 with hmbb | ⟨-, hfailed, -⟩
  · have hmode := ((hsegments .bbm gsId).mp hbbm).2
    cases hmode.symm.trans ((hsegments .mbb gsId).mp hmbb).2
  · exact hfailed

omit h

theorem mem_acquireUps_of_segment (hups : acquireUps config s c failed = .ok acquired)
    (hgsId : gsId ∈ c.mbbSegments) (hpair : pair ∈ c.gsUps gsId) : pair ∈ acquired := by
  obtain ⟨_, -, hups⟩ := bind_eq_ok_iff.mp hups
  rw [← Except.ok.inj hups]
  exact List.mem_append_left _ (List.mem_append_right _ (List.mem_flatMap.mpr ⟨gsId, hgsId, hpair⟩))

theorem ups_ne_nil_of_mbb (h : segmentMode occupancy forced downs ups gsId = .ok .mbb)
    : ups ≠ [] := by
  intro hempty
  rw [segmentMode, if_pos hempty] at h
  split at h
  · cases h
  · cases h

theorem mem_preRelease_of_idle (h : classifyMbbChanges toRemove toAdd occupancy forced = .ok c)
    (hpair : pair ∈ toRemove) (hstation : gsIdForPair pair occupancy.gsCapacities = some gsId)
    (hidle : ∀ other ∈ toAdd, gsIdForPair other occupancy.gsCapacities ≠ some gsId) :
    pair ∈ c.islDowns ++ c.bbmSegments.flatMap c.gsDowns := by
  obtain ⟨-, -, hgsDowns, hgsUps, hsegments⟩ := classifyMbbChanges_eq_ok h
  have hups : c.gsUps gsId = [] := by
    rw [hgsUps, pairsOfStation, List.filter_eq_nil_iff]
    exact fun other hother => fun heq => hidle other hother (of_decide_eq_true heq)
  have hdown : pair ∈ c.gsDowns gsId := by
    rw [hgsDowns]
    exact List.mem_filter.mpr ⟨hpair, decide_eq_true hstation⟩
  refine List.mem_append_right _ (List.mem_flatMap.mpr ⟨gsId, (hsegments .bbm gsId).mpr
    ⟨⟨pair, List.mem_append_left _ hpair, hstation⟩, ?_⟩, hdown⟩)
  rw [segmentMode]
  split
  · rfl
  · rfl

theorem mem_preRelease_or_segment (h : classifyMbbChanges toRemove toAdd occupancy forced = .ok c)
    (hpair : pair ∈ toRemove) : pair ∈ c.islDowns ++ c.bbmSegments.flatMap c.gsDowns ∨
      ∃ gsId ∈ c.mbbSegments, pair ∈ c.gsDowns gsId ∧ c.gsUps gsId ≠ [] := by
  obtain ⟨hislDowns, -, hgsDowns, -, hsegments⟩ := classifyMbbChanges_eq_ok h
  cases hstation : gsIdForPair pair occupancy.gsCapacities with
  | none =>
    rw [hislDowns]
    exact .inl (List.mem_append_left _ (List.mem_filter.mpr ⟨hpair, decide_eq_true hstation⟩))
  | some gsId =>
    have hdown : pair ∈ c.gsDowns gsId := by
      rw [hgsDowns]
      exact List.mem_filter.mpr ⟨hpair, decide_eq_true hstation⟩
    obtain ⟨mode, hmode⟩ := exists_segmentMode h ⟨pair, List.mem_append_left _ hpair, hstation⟩
    have hmem := (hsegments mode gsId).mpr ⟨⟨pair, List.mem_append_left _ hpair, hstation⟩, hmode⟩
    cases mode with
    | bbm => exact .inl (List.mem_append_right _ (List.mem_flatMap.mpr ⟨gsId, hmem, hdown⟩))
    | mbb => exact .inr ⟨gsId, hmem, hdown, ups_ne_nil_of_mbb hmode⟩

/-! Every acquire of a station is checked for a spare terminal at both ends. -/

structure HasSpare (config : SchedulerConfig) (s : Scheduler) (gsId : NodeId) (pair : Pair) : Prop where
  station : s.gsActiveCount gsId < config.gsCapacities.getD gsId 0
  satellite : ∃ satId capacity, satIdForGsPair pair config.gsCapacities = some satId ∧
    config.satCapacities.get? satId = some capacity ∧ s.satActiveCount satId < capacity

theorem HasSpare.mono {t : Scheduler} (h : HasSpare config s gsId pair) (hfewer : FewerCounts s t)
    : HasSpare config t gsId pair := by
  obtain ⟨satId, capacity, hsat, hcapacity, hspare⟩ := h.satellite
  exact ⟨(hfewer.gs gsId).trans_lt h.station, satId, capacity, hsat, hcapacity,
    (hfewer.sat satId).trans_lt hspare⟩

theorem satSpare_pos {spare : Int} (h : occupancy.satSpare satId = .ok spare) (hpos : 0 < spare)
    : ∃ capacity, occupancy.satCapacities.get? satId = some capacity ∧
      occupancy.satActiveCount satId < capacity := by
  unfold Occupancy.satSpare at h
  split at h
  next capacity hcapacity =>
    refine ⟨capacity, hcapacity, ?_⟩
    have hspare := Except.ok.inj h
    omega
  next => cases h

theorem segmentSatellite_eq_ok (h : segmentSatellite occupancy gsId pair = .ok satId) :
    satIdForGsPair pair occupancy.gsCapacities = some satId := by
  unfold segmentSatellite at h
  split at h
  next satId' hsat => rw [hsat, Except.ok.inj h]
  next => cases h

theorem satellite_of_allSatsOk (h : allSatsOk occupancy gsId ups = .ok true) (hpair : pair ∈ ups) :
    ∃ satId capacity, satIdForGsPair pair occupancy.gsCapacities = some satId ∧
      occupancy.satCapacities.get? satId = some capacity ∧
      occupancy.satActiveCount satId < capacity := by
  induction ups with
  | nil => cases hpair
  | cons up ups ih =>
    obtain ⟨satId, hsat, h⟩ := bind_eq_ok_iff.mp h
    obtain ⟨spare, hspare, h⟩ := bind_eq_ok_iff.mp h
    split at h
    · cases h
    · rcases List.mem_cons.mp hpair with rfl | hrest
      · obtain ⟨capacity, hcapacity, hcount⟩ := satSpare_pos hspare (by omega)
        exact ⟨satId, capacity, segmentSatellite_eq_ok hsat, hcapacity, hcount⟩
      · exact ih h hrest

theorem hasSpare_of_segment
    (h : segmentMode (Scheduler.occupancy config s) forced downs ups gsId = .ok .mbb)
    (hpair : pair ∈ ups) : HasSpare config s gsId pair := by
  unfold segmentMode at h
  split_ifs at h with hforced hempty
  · cases h
  · cases h
  obtain ⟨satsOk, hsats, h⟩ := bind_eq_ok_iff.mp h
  split_ifs at h with hroom
  · obtain ⟨hspare, rfl⟩ := hroom
    have hlength := List.length_pos_of_mem hpair
    refine ⟨?_, satellite_of_allSatsOk hsats hpair⟩
    unfold Occupancy.gsSpare Scheduler.occupancy at hspare
    dsimp only at hspare
    omega
  · cases h

theorem hasSpare_of_spareForAcquire (h : spareForAcquire config s gsId pair = .ok true)
    : HasSpare config s gsId pair := by
  obtain ⟨satId, hsat, h⟩ := bind_eq_ok_iff.mp h
  obtain ⟨satSpare, hspare, h⟩ := bind_eq_ok_iff.mp h
  obtain ⟨hstation, hpos⟩ := of_decide_eq_true (Except.ok.inj h)
  obtain ⟨capacity, hcapacity, hcount⟩ := satSpare_pos hspare hpos
  refine ⟨?_, satId, capacity, segmentSatellite_eq_ok hsat, hcapacity, hcount⟩
  unfold Occupancy.gsSpare Scheduler.occupancy at hstation
  dsimp only at hstation
  omega

theorem hasSpare_of_acquireUps {t : Scheduler}
    (h : classifyMbbChanges toRemove toAdd (Scheduler.occupancy config s) forced = .ok c)
    (hups : acquireUps config t c failed = .ok acquired) (hfewer : FewerCounts s t)
    (hpair : pair ∈ acquired) (hstation : gsIdForPair pair config.gsCapacities = some gsId) :
    HasSpare config t gsId pair := by
  obtain ⟨-, -, -, -, hsegments⟩ := classifyMbbChanges_eq_ok h
  obtain ⟨hup, hmbb | ⟨-, -, hspare⟩⟩ := segment_of_acquireUps h hups hpair hstation
  · exact (hasSpare_of_segment ((hsegments .mbb gsId).mp hmbb).2 hup).mono hfewer
  · exact hasSpare_of_spareForAcquire hspare

end Classification

/-! ### Every release is made -/

def Gone (pairs : List Pair) (s : Scheduler) : Prop :=
  ∀ pair ∈ pairs, record? s (.current pair) = none

section Gone

variable {intent : DispatchIntent} {pass : PassPlan} {gone : List Pair} {t : Scheduler}

theorem Gone.of_noNewRecords (h : Gone gone s) (hold : NoNewRecords s t) : Gone gone t :=
  fun pair hpair => hold.none (h pair hpair)

theorem Gone.of_outsideKept (h : Gone gone s) (hkept : OutsideKept pairs s t)
    (hdisjoint : ∀ pair ∈ gone, pair ∉ pairs) : Gone gone t := fun pair hpair =>
  (hkept (.current pair) (hdisjoint pair hpair)).trans (h pair hpair)

variable (hdowns : ∀ pair, Acknowledges env .batchLinkDown .close pair)
    (hups : ∀ pair, Acknowledges env .batchLinkUp .open pair)

include hdowns

theorem wp_releaseLinks_allGone (h : Gone gone s) :
    wp (releaseLinks config env intent.downReasons pairs) s
      (fun _ => Gone (gone ++ pairs)) (fun _ _ => True) := by
  have hmade : wp (releaseLinks config env intent.downReasons pairs) s
      (fun _ t => ∀ pair, pair ∈ pairs → record? t (.current pair) = none) (fun _ _ => True) :=
    wp_releaseLinks_gone (· ∈ pairs) (fun _ hpair => hpair) fun pair _ _ _ _ => hdowns pair
  refine wp_mono (wp_and hmade (noNewRecords_releaseLinks s)) ?_ fun _ _ _ => trivial
  rintro _ t ⟨hpairs, hold⟩
  exact List.forall_mem_append.mpr ⟨h.of_noNewRecords hold, hpairs⟩

theorem wp_releaseStage_gone (h : Gone gone s) :
    wp (releaseStage config env intent pairs) s (fun _ => Gone (gone ++ pairs))
      (fun _ _ => True) := by
  rw [releaseStage, wp_ite]
  refine ⟨fun _ => ?_, fun hempty => ?_⟩
  · rw [wp_bind]
    exact wp_releaseLinks_allGone hdowns h
  · rw [not_ne_iff.mp hempty, List.append_nil]
    exact h

include hups

theorem wp_reconcileBbm_gone {toRemove toAdd : List Pair}
    (hdisjoint : ∀ pair ∈ toRemove, pair ∉ toAdd) :
    wp (reconcileBbm config env intent toRemove toAdd) s (fun _ => Gone toRemove)
      (fun _ _ => True) := by
  rw [reconcileBbm, wp_bind]
  refine wp_imp (Q := fun _ => Gone toRemove) ?_ fun _ t ht => ?_
  · rw [wp_when]
    refine ⟨fun _ => ?_, fun hempty pair hpair => ?_⟩
    · rw [wp_bind]
      have hnone : Gone [] s := fun _ hpair => nomatch hpair
      exact wp_releaseLinks_allGone hdowns hnone
    · exact absurd hpair (not_ne_iff.mp hempty ▸ List.not_mem_nil)
  · rw [wp_when]
    refine ⟨fun _ => ?_, fun _ => ht⟩
    rw [wp_bind]
    exact wp_imp (wp_acquireLinks_acquired fun pair _ => hups pair) fun _ _ h =>
      ht.of_outsideKept h.1.outside hdisjoint

theorem wp_reconcileMbb_gone {toRemove toAdd : List Pair}
    (hdisjoint : ∀ pair ∈ toRemove, pair ∉ toAdd) :
    wp (reconcileMbb config env intent toRemove toAdd) s (fun _ => Gone toRemove)
      (fun _ _ => True) := by
  rw [reconcileMbb, wp_bind, wp_get, wp_bind, wp_lift]
  refine ⟨fun forced _ => ?_, fun _ _ => trivial⟩
  rw [wp_bind, wp_lift]
  refine ⟨fun c hclass => ?_, fun _ _ => trivial⟩
  rw [wp_bind]
  have hnone : Gone [] s := fun _ hpair => nomatch hpair
  refine wp_imp (wp_releaseStage_gone hdowns hnone) fun failedGs t ht => ?_
  rw [wp_bind, wp_get, wp_bind, wp_lift]
  refine ⟨fun ups hacquires => ?_, fun _ _ => trivial⟩
  have hacquire : wp (acquireStage config env intent ups) t
      (fun added u => OutsideKept ups t u ∧ ∀ pair ∈ ups, pair ∈ added) (fun _ _ => True) := by
    rw [acquireStage, wp_ite]
    refine ⟨fun _ => ?_, fun hempty => ⟨fun _ _ => rfl, fun pair hpair => ?_⟩⟩
    · rw [wp_bind]
      exact wp_imp (wp_acquireLinks_acquired fun pair _ => hups pair) fun _ _ h => ⟨h.1.outside, h.2⟩
    · exact absurd hpair (not_ne_iff.mp hempty ▸ List.not_mem_nil)
  rw [wp_bind]
  refine wp_imp hacquire fun added u hu => ?_
  -- what was released first is not among the acquires, so it stays released
  have hfirst : Gone (toRemove.filter (· ∈ c.islDowns ++ c.bbmSegments.flatMap c.gsDowns)) u := by
    intro pair hpair
    obtain ⟨hremove, hearly⟩ := List.mem_filter.mp hpair
    rw [hu.1 (.current pair) fun hup =>
      hdisjoint pair hremove (mem_toAdd_of_mem_acquireUps hclass hacquires hup)]
    exact ht pair (of_decide_eq_true hearly)
  rw [wp_bind]
  refine wp_imp (wp_releaseStage_gone hdowns hfirst) fun _ v hv pair hpair => hv pair ?_
  rcases mem_preRelease_or_segment hclass hpair with hearly | ⟨gsId, hgsId, hdown, hsome⟩
  · exact List.mem_append_left _ (List.mem_filter.mpr ⟨hpair, decide_eq_true hearly⟩)
  · obtain ⟨up, hup⟩ := List.exists_mem_of_ne_nil _ hsome
    have hadded := hu.2 up (mem_acquireUps_of_segment hacquires hgsId hup)
    exact List.mem_append_right _ (List.mem_flatMap.mpr
      ⟨gsId, List.mem_filter.mpr ⟨hgsId, decide_eq_true ⟨up, hup, hadded⟩⟩, hdown⟩)

theorem wp_reconcileLocal_gone (hdisjoint : ∀ pair ∈ pass.toRemove, pair ∉ pass.toAdd) :
    wp (reconcileLocal config env intent pass) s (fun _ => Gone pass.toRemove)
      (fun _ _ => True) := by
  unfold reconcileLocal
  split
  · exact wp_reconcileMbb_gone hdowns hups hdisjoint
  · exact wp_reconcileBbm_gone hdowns hups hdisjoint

end Gone

end NodalArc.LocalLinks
