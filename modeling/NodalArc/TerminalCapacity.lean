import NodalArc.ActiveCounters

/-! A pass may hold no more ground links at a node than the node has terminals.  The counts a pass
checks its acquires against do not move while a batch is put together, so the law rests on what the
records and the newly desired links come to before the pass. -/

namespace NodalArc.TerminalCapacity

open OrderedDict
open GroundPolicy
open LinkRecord
open ContactDrain
open DispatchPlanner
open Actuation
open NodeAgentBatches
open DispatchActuator
open CommandVerdict
open Reconcile
open HeldRecords
open CommandRules
open BatchEntries
open CloseRounds
open LocalLinks
open PassPlanning
open PassEffects
open PassRefinement
open SchedulerRuns
open InterfaceExclusivity
open ActiveCounters
open StatefulProgram
open StatefulProgram.Program

variable {link want : LinkInfo} {released xs : List Pair}

variable {config : SchedulerConfig} {env : Surroundings} {intent : DispatchIntent}
    {pass : PassPlan} {phase : Phase} {s t : Scheduler} {node : NodeId} {key : RecordKey}
    {pair : Pair} {info after : ActiveLinkInfo} {desired : Dict Pair LinkInfo}
    {v w : Pair → LinkType → Nat} {base base' : List Event}
    {pairs : List Pair} {plan : BatchPlan} {frame : CommandFrame} {found : Scheduler}

/-! ### The property -/

def capacity? (config : SchedulerConfig) (node : NodeId) : Option Nat :=
  (config.gsCapacities.get? node).or (config.satCapacities.get? node)

/-- The links a LinkUp command would record, with their types. -/
def acquired (sent : SentCommand) : List (Pair × LinkType) :=
  if sent.operation = .batchLinkUp then
    (sent.plan.map fun planned => (planned.2.pair, planned.2.linkType)).dedup.filter fun link =>
      link.1 ∉ sent.heldActual
  else []

def acquiredAt (sent : SentCommand) (node : NodeId) : Nat :=
  ((acquired sent).map fun link => endsAt node link.1 link.2).sum

def FitsWhenSent (node : NodeId) (capacity : Nat) (sent : SentCommand) : Prop :=
  recordsAt sent.heldActual sent.heldOverlapping node + acquiredAt sent node ≤ capacity

/-- A node is within its capacity, and was with every command outside the base log. -/
structure Holding (base : List Event) (node : NodeId) (capacity : Nat) (s : Scheduler) : Prop where
  held : heldAt s node ≤ capacity
  log : ∀ sent, .command sent ∈ s.log → .command sent ∈ base ∨ FitsWhenSent node capacity sent

/-! ### Loads -/

def Met (s : Scheduler) (pair : Pair) (want : LinkInfo) : Prop :=
  (s.actualLinks.get? pair).map (fun held => held.contact) = some want.contact

instance (s : Scheduler) (pair : Pair) (want : LinkInfo) : Decidable (Met s pair want) :=
  inferInstanceAs (Decidable (_ = _))

def awaited (v : Pair → LinkType → Nat) (desired : Dict Pair LinkInfo) (s : Scheduler) : Nat :=
  desired.total fun pair want => if Met s pair want then 0 else v pair want.linkType

def load (w v : Pair → LinkType → Nat) (desired : Dict Pair LinkInfo) (s : Scheduler) : Nat :=
  weighed w s + awaited v desired s

theorem await_le {p q : Prop} [Decidable p] [Decidable q] {n : Nat} (h : q → p) :
    (if p then 0 else n) ≤ if q then 0 else n := by
  by_cases hq : q
  · rw [if_pos (h hq), if_pos hq]
  · rw [if_neg hq]
    split_ifs
    · exact Nat.zero_le n
    · exact le_rfl

theorem awaited_mono (h : ∀ pair want, desired.get? pair = some want → Met s pair want →
    Met t pair want) : awaited v desired t ≤ awaited v desired s := by
  exact Dict.total_mono fun pair want hwant => await_le (h pair want hwant)

theorem met_congr (h : record? t (.current pair) = record? s (.current pair)) :
    Met t pair want ↔ Met s pair want := by
  have hget : t.actualLinks.get? pair = s.actualLinks.get? pair := h
  rw [Met, Met, hget]

theorem load_eq_of_alike (htypes : ∀ key, (record? t key).map (fun info => info.linkType) =
      (record? s key).map fun info => info.linkType)
    (hcontacts : ∀ pair, (record? t (.current pair)).map (fun info => info.contact) =
      (record? s (.current pair)).map fun info => info.contact) :
    load w v desired t = load w v desired s := by
  have hmet : ∀ pair want, Met t pair want ↔ Met s pair want := by
    intro pair want
    have hpair : (t.actualLinks.get? pair).map (fun held => held.contact) =
        (s.actualLinks.get? pair).map fun held => held.contact := hcontacts pair
    rw [Met, Met, hpair]
  have hawaited : awaited v desired t = awaited v desired s :=
    le_antisymm (awaited_mono fun _ _ _ => (hmet _ _).mpr) (awaited_mono fun _ _ _ => (hmet _ _).mp)
  rw [load, load, weighed_congr w htypes, hawaited]

theorem load_congr (h : ∀ key, record? t key = record? s key) :
    load w v desired t = load w v desired s :=
  load_eq_of_alike (fun key => by rw [h]) fun pair => by rw [h]

theorem load_setRecord (h : record? s key = some info) (htype : after.linkType = info.linkType)
    (hcontact : after.contact = info.contact) :
    load w v desired (setRecord key after s) ≤ load w v desired s := by
  have hawaited : awaited v desired (setRecord key after s) ≤ awaited v desired s := by
    refine awaited_mono fun pair want _ hmet => ?_
    by_cases hkey : RecordKey.current pair = key
    · have hbefore : s.actualLinks.get? pair = some info := by rw [← hkey] at h; exact h
      have hafter : (setRecord key after s).actualLinks.get? pair = some after := by
        change record? (setRecord key after s) (.current pair) = some after
        rw [record?_setRecord, if_pos hkey]
      rw [Met, hbefore, Option.map_some] at hmet
      rw [Met, hafter, Option.map_some, hcontact]
      exact hmet
    · exact (met_congr (by rw [record?_setRecord, if_neg hkey])).mpr hmet
  rw [load, load, weighed_setRecord_same w h htype]
  omega

theorem load_dropRecord (hvw : ∀ pair linkType, v pair linkType ≤ w pair linkType)
    (h : record? s key = some info)
    (htype : ∀ want, desired.get? key.pair = some want → key = .current key.pair →
      want.linkType = info.linkType) :
    load w v desired (dropRecord key s) ≤ load w v desired s := by
  have hweighed := weighed_dropRecord w h
  have hother : ∀ pair, pair ≠ key.pair ∨ key ≠ .current key.pair → ∀ want, Met s pair want →
      Met (dropRecord key s) pair want := by
    intro pair hne want hmet
    refine (met_congr ?_).mpr hmet
    rw [record?_dropRecord, if_neg]
    rintro rfl
    simp [RecordKey.pair] at hne
  unfold load
  by_cases hcurrent : key = .current key.pair
  · cases hwant : desired.get? key.pair with
    | none =>
      have hawaited : awaited v desired (dropRecord key s) ≤ awaited v desired s := by
        refine awaited_mono fun pair want hwant' => hother pair (.inl ?_) want
        rintro rfl
        cases hwant.symm.trans hwant'
      omega
    | some want =>
      have hle := hvw key.pair info.linkType
      have hawaited : awaited v desired (dropRecord key s) + 0 ≤
          awaited v desired s + v key.pair info.linkType := by
        refine Dict.total_add_le hwant ?_ fun pair want' hne hwant' => ?_
        · rw [← htype want hwant hcurrent]
          split_ifs <;> omega
        · exact await_le (hother pair (.inl hne) want')
      omega
  · have hawaited : awaited v desired (dropRecord key s) ≤ awaited v desired s :=
      awaited_mono fun pair want _ => hother pair (.inr hcurrent) want
    omega

theorem load_setRecord_new (hclear : record? s (.current pair) = none)
    (hwant : desired.get? pair = some want) (hwv : w pair want.linkType ≤ v pair want.linkType) :
    load w v desired (setRecord (.current pair) want.activate s) ≤ load w v desired s := by
  have hweighed : weighed w (setRecord (.current pair) want.activate s) =
      weighed w s + w pair want.linkType := weighed_setRecord_new w hclear
  have hawaited : awaited v desired (setRecord (.current pair) want.activate s) +
      v pair want.linkType ≤ awaited v desired s + 0 := by
    refine Dict.total_add_le hwant ?_ fun other want' hne hwant' => ?_
    · have hmet : Met (setRecord (.current pair) want.activate s) pair want := by
        have hget : record? (setRecord (.current pair) want.activate s) (.current pair) =
            some want.activate := by rw [record?_setRecord, if_pos rfl]
        rw [Met, show (setRecord (.current pair) want.activate s).actualLinks.get? pair =
          some want.activate from hget]
        rfl
      have hunmet : ¬ Met s pair want := by
        rw [Met, show s.actualLinks.get? pair = none from hclear]
        exact nofun
      rw [if_pos hmet, if_neg hunmet]
      omega
    · have hsame : record? (setRecord (.current pair) want.activate s) (.current other) =
          record? s (.current other) := by
        rw [record?_setRecord, if_neg fun heq => hne (RecordKey.current.inj heq)]
      exact await_le (met_congr hsame).mpr
  unfold load
  omega

theorem load_removeAll (hvw : ∀ pair linkType, v pair linkType ≤ w pair linkType)
    (htyped : Typed desired s) :
    load w v desired (removeAll config pairs s) ≤ load w v desired s := by
  unfold LocalLinks.removeAll
  induction pairs generalizing s with
  | nil => exact le_rfl
  | cons pair pairs ih =>
    have hstep : load w v desired (removeActual config pair s) ≤ load w v desired s := by
      have hrecords : ∀ key, record? (removeActual config pair s) key =
          record? (dropRecord (.current pair) s) key := fun key => by
        rw [record?_removeActual, record?_dropRecord]
      rw [load_congr hrecords]
      cases hheld : record? s (.current pair) with
      | none =>
        refine (load_congr fun key => ?_).le
        rw [record?_dropRecord]
        split_ifs with heq
        · rw [heq, hheld]
        · rfl
      | some held =>
        exact load_dropRecord hvw hheld fun want hwant _ => htyped pair held want hheld hwant
    refine (ih fun other held want hheld hwant => ?_).trans hstep
    rw [record?_removeActual] at hheld
    split_ifs at hheld
    exact htyped other held want hheld hwant

theorem record?_tornDown_eq {reason : String} {losses : List LinkEndLoss} (key' : RecordKey) :
    record? (CloseRounds.tornDown config key info reason losses s) key' =
      record? (dropRecord key s) key' := by
  rw [record?_tornDown, record?_dropRecord]

theorem record?_addActual_eq (key : RecordKey) : record? (addActual config pair link s) key =
      record? (setRecord (.current pair) link.activate s) key := by
  rw [record?_addActual, record?_setRecord]

theorem heldAt_addActual (hclear : record? s (.current pair) = none) :
    heldAt (addActual config pair link s) node = heldAt s node + endsAt node pair link.linkType := by
  have hsame : weighed (endsAt node) (addActual config pair link s) =
      weighed (endsAt node) (setRecord (.current pair) link.activate s) :=
    weighed_congr _ fun key => by rw [record?_addActual_eq]
  rw [heldAt, hsame]
  exact weighed_setRecord_new (endsAt node) hclear

def Phase.acquires (pass : PassPlan) : Phase → List Pair
  | .contacts => pass.longDelay.opening
  | .locals => pass.toAdd

theorem load_of_effect (heffect : Effect config env intent pass phase s t)
    (hvw : ∀ pair linkType, v pair linkType ≤ w pair linkType)
    (hwv : ∀ pair ∈ Phase.acquires pass phase, ∀ want, intent.desired.get? pair = some want →
      w pair want.linkType ≤ v pair want.linkType)
    (hretimes : RetimesUntouched config intent pass) (h : InPass config base intent pass s) :
    load w v intent.desired t ≤ load w v intent.desired s := by
  obtain ⟨-, horderly, -, hopen⟩ := h
  cases heffect with
  | drained _ _ _ _ _ _ _ _ _ hheld => exact load_setRecord hheld rfl rfl
  | shrunk _ _ _ _ _ _ hheld => exact load_setRecord hheld rfl rfl
  | relocated _ pair _ _ hmoved =>
    have hweighed : weighed w (relocateContact pair s) = weighed w s :=
      weighed_relocateContact w fun held contact => horderly.apart pair held contact
    have hawaited : awaited v intent.desired (relocateContact pair s) ≤
        awaited v intent.desired s := by
      refine awaited_mono fun other want hwant hmet => ?_
      by_cases hpair : other = pair
      · subst hpair
        obtain ⟨held, hheld, hcontact⟩ := Option.map_eq_some_iff.mp hmet
        exact absurd hcontact (hmoved held want hheld hwant)
      · exact (met_congr (record?_relocateContact hpair)).mpr hmet
    unfold load
    omega
  | tornDown _ key info gone reason losses hheld =>
    rw [load_congr record?_tornDown_eq]
    refine load_dropRecord hvw hheld fun want hwant hcurrent => ?_
    rw [hcurrent] at hheld
    exact horderly.typed key.pair info want hheld hwant
  | ended _ pair old reason losses hheld =>
    rw [load_congr record?_tornDown_eq]
    exact load_dropRecord hvw hheld fun want hwant _ => horderly.typed pair old want hheld hwant
  | opened _ pair info pairs sent hwant hpair _ hsent _ _ hclear =>
    rw [load_congr record?_addActual_eq]
    exact load_setRecord_new hclear hwant (hwv pair (hsent.opening pair hpair) info hwant)
  | added _ pair info pairs sent hwant _ hadd _ _ _ hclear =>
    rw [load_congr record?_addActual_eq]
    exact load_setRecord_new hclear hwant (hwv pair hadd info hwant)
  | removed => exact load_removeAll hvw horderly.typed
  | retimed _ _ pairs hpairs hretimed =>
    have hweighed : weighed w t = weighed w s := weighed_congr w (types_retimed horderly.typed
      (fun pair hpair => ⟨hopen _ pair (hpairs pair hpair), (hretimes _ pair (hpairs pair hpair)).2⟩)
      hretimed)
    have hawaited : awaited v intent.desired t ≤ awaited v intent.desired s := by
      refine awaited_mono fun pair want hwant hmet => ?_
      by_cases hpair : pair ∈ pairs
      · have hget : t.actualLinks.get? pair = some want.activate := by
          change record? t (.current pair) = some want.activate
          rw [hretimed.current, if_pos hpair, hwant, Option.map_some]
        rw [Met, hget]
        rfl
      · exact (met_congr (by rw [hretimed.current, if_neg hpair])).mpr hmet
    unfold load
    omega
  | _ => exact (load_congr fun _ => record?_congr rfl rfl).le

/-! ### Acquires -/

def wantedEnds (desired : Dict Pair LinkInfo) (node : NodeId) (pair : Pair) : Nat :=
  match desired.get? pair with
  | some want => endsAt node pair want.linkType
  | none => 0

theorem sum_map_le_of_subset {ys : List Pair} {g : Pair → Nat} (hnodup : xs.Nodup)
    (hsub : ∀ x ∈ xs, x ∈ ys) : (xs.map g).sum ≤ (ys.map g).sum := by
  obtain ⟨zs, hperm, hsublist⟩ := List.subperm_of_subset hnodup hsub
  rw [← (hperm.map g).sum_eq]
  exact (hsublist.map g).sum_le_sum fun _ _ => Nat.zero_le _

def PlansDesired (desired : Dict Pair LinkInfo) (pairs : List Pair) (plan : BatchPlan) : Prop :=
  ∀ planned ∈ plan, planned.2.pair ∈ pairs ∧
    ∃ want, desired.get? planned.2.pair = some want ∧ planned.2.linkType = want.linkType

theorem plansDesired_linkUp {stage : Stage}
    (h : buildLinkUpBatchPlan config env stage desired (sortedSet pairs) = .ok plan) :
    PlansDesired desired pairs plan := by
  intro planned hplanned
  obtain ⟨pair, hpair, want, _, _, hwant, -, -, -, rfl⟩ := entry_of_linkUp h hplanned
  exact ⟨mem_sortedSet.mp hpair, want, hwant, rfl⟩

section Acquired

variable (hplan : PlansDesired desired pairs plan)

include hplan

theorem mem_acquired {link : Pair × LinkType}
    (h : link ∈ acquired (sentIn env frame plan s)) : link.1 ∈ pairs ∧ link.1 ∉ s.actualLinks ∧
      ∃ want, desired.get? link.1 = some want ∧ link.2 = want.linkType := by
  unfold acquired at h
  split_ifs at h with hup
  · obtain ⟨hmem, hclear⟩ := List.mem_filter.mp h
    obtain ⟨planned, hplanned, rfl⟩ := List.mem_map.mp (List.mem_dedup.mp hmem)
    obtain ⟨hpair, want, hwant, htype⟩ := hplan planned hplanned
    exact ⟨hpair, of_decide_eq_true hclear, want, hwant, htype⟩
  · cases h

theorem acquired_nodup : ((acquired (sentIn env frame plan s)).map Prod.fst).Nodup := by
  have hnodup : (acquired (sentIn env frame plan s)).Nodup := by
    unfold acquired
    split_ifs
    · exact (List.nodup_dedup _).filter _
    · exact List.nodup_nil
  refine hnodup.map_on fun link hlink link' hlink' heq => ?_
  obtain ⟨-, -, want, hwant, htype⟩ := mem_acquired hplan hlink
  obtain ⟨-, -, want', hwant', htype'⟩ := mem_acquired hplan hlink'
  rw [heq] at hwant
  obtain rfl := Option.some.inj (hwant.symm.trans hwant')
  exact Prod.ext heq (htype.trans htype'.symm)

theorem acquiredAt_eq : acquiredAt (sentIn env frame plan s) node =
      (((acquired (sentIn env frame plan s)).map Prod.fst).map
        (wantedEnds desired node)).sum := by
  rw [acquiredAt, List.map_map]
  refine congrArg List.sum (List.map_congr_left fun link hlink => ?_)
  obtain ⟨-, -, want, hwant, htype⟩ := mem_acquired hplan hlink
  rw [Function.comp_apply, wantedEnds, hwant, htype]

theorem acquiredAt_le : acquiredAt (sentIn env frame plan s) node ≤
      ((sortedSet pairs).map (wantedEnds desired node)).sum := by
  rw [acquiredAt_eq hplan]
  refine sum_map_le_of_subset (acquired_nodup hplan) fun pair hpair => ?_
  obtain ⟨link, hlink, rfl⟩ := List.mem_map.mp hpair
  exact mem_sortedSet.mpr (mem_acquired hplan hlink).1

omit hplan

theorem sum_wantedEnds_le (hnodup : xs.Nodup)
    (h : ∀ pair ∈ xs, pair ∉ s.actualLinks ∧ ∃ want, desired.get? pair = some want ∧ endsAt node
      pair want.linkType ≤ v pair want.linkType) :
    (xs.map (wantedEnds desired node)).sum ≤ awaited v desired s := by
  refine Dict.sum_le_total hnodup fun pair hpair => ?_
  obtain ⟨habsent, want, hwant, hle⟩ := h pair hpair
  have hunmet : ¬ Met s pair want := by
    rw [Met, Dict.get?_eq_none_iff.mpr habsent]
    exact nofun
  refine ⟨want, hwant, ?_⟩
  rw [wantedEnds, hwant, if_neg hunmet]
  exact hle

theorem acquiredAt_le_awaited (hplan : PlansDesired desired pairs plan)
    (hv : ∀ pair ∈ pairs, ∀ want, desired.get? pair = some want →
      endsAt node pair want.linkType ≤ v pair want.linkType) :
    acquiredAt (sentIn env frame plan s) node ≤ awaited v desired s := by
  rw [acquiredAt_eq hplan]
  refine sum_wantedEnds_le (acquired_nodup hplan) fun pair hpair => ?_
  obtain ⟨link, hlink, rfl⟩ := List.mem_map.mp hpair
  obtain ⟨hmem, habsent, want, hwant, -⟩ := mem_acquired hplan hlink
  exact ⟨habsent, want, hwant, hv _ hmem want hwant⟩

theorem acquiredAt_of_operation (h : frame.operation ≠ .batchLinkUp) :
    acquiredAt (sentIn env frame plan s) node = 0 := by
  have hother : (sentIn env frame plan s).operation ≠ .batchLinkUp := h
  rw [acquiredAt, acquired, if_neg hother]
  rfl

end Acquired

/-! ### Contacts -/

variable {capacity : Nat}

namespace Holding

variable (h : Holding base node capacity s)

include h

theorem quiet (hrecords : ∀ key, record? t key = record? s key)
    (hlog : ∀ sent, .command sent ∈ t.log → .command sent ∈ s.log) :
    Holding base node capacity t := by
  refine ⟨?_, fun sent hsent => h.log sent (hlog sent hsent)⟩
  have hsame : weighed (endsAt node) t = weighed (endsAt node) s :=
    weighed_congr _ fun key => by rw [hrecords]
  rw [heldAt, hsame]
  exact h.held

theorem sends (hfits : heldAt s node + acquiredAt (sentIn env frame plan s) node ≤ capacity) :
    Holding base node capacity (afterCommand env frame plan s) := by
  refine ⟨h.held, fun sent hsent => ?_⟩
  rcases List.mem_cons.mp hsent with heq | hold
  · obtain rfl := Event.command.inj heq
    exact .inr hfits
  · exact h.log sent hold

theorem sendsOther (hframe : frame.operation ≠ .batchLinkUp) :
    Holding base node capacity (afterCommand env frame plan s) := by
  refine h.sends ?_
  rw [acquiredAt_of_operation hframe]
  exact h.held

theorem publishes {events : List Event} (hevents : ∀ sent, .command sent ∉ events) :
    Holding base node capacity (afterEvents events s) :=
  h.quiet (fun _ => record?_congr rfl rfl) fun sent hsent =>
    (List.mem_append.mp hsent).resolve_left (hevents sent)

theorem changes (hheld : heldAt t node ≤ capacity)
    (hlog : ∀ sent, .command sent ∈ t.log → .command sent ∈ s.log) :
    Holding base node capacity t :=
  ⟨hheld, fun sent hsent => h.log sent (hlog sent hsent)⟩

end Holding

/-- What holds of a node while a phase runs: it is within its capacity, and so it is with the
links the phase may still record. -/
structure Loaded (base : List Event) (node : NodeId) (capacity : Nat) (v : Pair → LinkType → Nat)
    (desired : Dict Pair LinkInfo) (s : Scheduler) : Prop where
  holding : Holding base node capacity s
  load : load (endsAt node) v desired s ≤ capacity

theorem heldAt_le_load : heldAt s node ≤ load (endsAt node) v desired s := Nat.le_add_right _ _

/-- An effect on the contacts keeps a node within its capacity if the contacts the pass opens
there are part of its load. -/
theorem loaded_of_contactEffect (hv : ∀ pair linkType, v pair linkType ≤ endsAt node pair linkType)
    (hopens : ∀ pair ∈ pass.longDelay.opening, ∀ want, intent.desired.get? pair = some want →
      endsAt node pair want.linkType ≤ v pair want.linkType)
    (hretimes : RetimesUntouched config intent pass)
    (heffect : Effect config env intent pass .contacts s t)
    (hpass : InPass config base' intent pass s)
    (h : Loaded base node capacity v intent.desired s) :
    Loaded base node capacity v intent.desired t := by
  have hload : load (endsAt node) v intent.desired t ≤ capacity :=
    (load_of_effect heffect hv hopens hretimes hpass).trans h.load
  have hheld : heldAt t node ≤ capacity := heldAt_le_load.trans hload
  refine ⟨?_, hload⟩
  have hups : ∀ {plan : BatchPlan} {frame : CommandFrame},
      PlansDesired intent.desired pass.longDelay.opening plan →
      Holding base node capacity (afterCommand env frame plan s) := by
    intro plan frame hplan
    refine h.holding.sends ?_
    have hacquired : acquiredAt (sentIn env frame plan s) node ≤
        awaited v intent.desired s := acquiredAt_le_awaited hplan hopens
    have hbefore := h.load
    unfold TerminalCapacity.load at hbefore
    unfold heldAt
    omega
  cases heffect with
  | station | losses => exact h.holding.quiet (fun _ => record?_congr rfl rfl) fun _ hsent => hsent
  | reading =>
    exact h.holding.quiet (fun _ => record?_congr rfl rfl) fun _ hsent =>
      (List.mem_cons.mp hsent).resolve_left (by simp)
  | stopSent | closeSent => exact h.holding.sendsOther (by simp [closeFrame, downFrame])
  | proofSent => exact h.holding.sendsOther (by simp [proofFrame, inventoryFrame])
  | latencySent => exact h.holding.sendsOther (by simp [latencyFrame])
  | prepareSent _ plan _ hplan => exact hups (plansDesired_linkUp hplan)
  | openSent _ pairs plan hprepared hclear hplan =>
    refine hups fun planned hplanned => plansDesired_linkUp hplan planned ?_
    exact (List.mem_filter.mp hplanned).1
  | linkUps =>
    exact h.holding.publishes command_notMem_linkUps
  | latencyUpdates _ events hevents =>
    exact h.holding.publishes (command_notMem_latencyUpdates hevents)
  | drained | shrunk => exact h.holding.changes hheld fun _ hsent => by rwa [log_setRecord] at hsent
  | relocated =>
    exact h.holding.changes hheld fun _ hsent => by rwa [log_relocateContact] at hsent
  | tornDown | ended =>
    refine h.holding.changes hheld fun _ hsent => ?_
    rw [log_tornDown] at hsent
    exact (List.mem_cons.mp hsent).resolve_left (by simp)
  | opened => exact h.holding.changes hheld fun _ hsent => by rwa [log_addActual] at hsent
  | retimed _ _ pairs hpairs hretimed =>
    exact h.holding.changes hheld fun _ hsent => by rwa [hretimed.log] at hsent

/-! ### Local links -/

def OverlapsLong (config : SchedulerConfig) (s : Scheduler) : Prop :=
  ∀ pair contact info, record? s (.overlap pair contact) = some info →
    config.longDelay pair = true

/-- Local links that are not desired are held as they were found. -/
def FromFound (config : SchedulerConfig) (desired : Dict Pair LinkInfo) (found s : Scheduler) :
    Prop :=
  ∀ pair info, pair ∉ desired → config.longDelay pair = false →
    record? s (.current pair) = some info → record? found (.current pair) = some info

theorem overlapsLong_of_effect (heffect : Effect config env intent pass phase s t)
    (h : OverlapsLong config s) : OverlapsLong config t := by
  intro pair contact info hinfo
  cases heffect.came hinfo with
  | kept held hheld => exact h pair contact held hheld
  | desired _ _ hkey => cases hkey
  | aside _ _ hkey _ hlong =>
    cases hkey
    exact hlong

theorem fromFound_of_effect
    (heffect : Effect config env intent pass phase s t) (hopen : LocalsOpen config s)
    (h : FromFound config intent.desired found s) : FromFound config intent.desired found t := by
  intro pair info hpair hlocal hinfo
  cases heffect.came hinfo with
  | kept held hheld hdrains =>
    rw [hdrains.eq_of_local hlocal (hopen pair held hheld hlocal)]
    exact h pair held hpair hlocal hheld
  | desired _ want hkey hwant =>
    obtain rfl := RecordKey.current.inj hkey
    exact absurd (Dict.mem_of_get? hwant) hpair
  | aside _ _ hkey => cases hkey

structure PassInvariant (config : SchedulerConfig) (base : List Event) (intent : DispatchIntent)
    (pass : PassPlan) (found s : Scheduler) : Prop where
  inPass : InPass config base intent pass s
  overlaps : OverlapsLong config s
  origin : FromFound config intent.desired found s

theorem passInvariant_of_effect (hretimes : RetimesUntouched config intent pass)
    (heffect : Effect config env intent pass phase s t)
    (h : PassInvariant config base intent pass found s) :
    PassInvariant config base intent pass found t where
  inPass := inPass_of_effect hretimes heffect h.inPass
  overlaps := overlapsLong_of_effect heffect h.overlaps
  origin := fromFound_of_effect heffect h.inPass.locals h.origin

def endsOutside (released : List Pair) (node : NodeId) (pair : Pair) (linkType : LinkType) : Nat :=
  if pair ∈ released then 0 else endsAt node pair linkType

theorem weighed_endsOutside (hgone : ∀ key info, record? s key = some info → key.pair ∉ released) :
    weighed (endsOutside released node) s = heldAt s node := by
  have hactual : s.actualLinks.total (fun pair info => endsOutside released node pair info.linkType) =
      s.actualLinks.total fun pair info => endsAt node pair info.linkType := by
    refine Dict.total_congr fun pair => ?_
    cases hget : s.actualLinks.get? pair with
    | none => rfl
    | some info =>
      have hout : pair ∉ released := hgone (.current pair) info hget
      rw [Option.map_some, Option.map_some, endsOutside, if_neg hout]
  have hoverlapping : s.overlapping.total (fun key info =>
      endsOutside released node key.1 info.linkType) =
      s.overlapping.total fun key info => endsAt node key.1 info.linkType := by
    refine Dict.total_congr fun key => ?_
    cases hget : s.overlapping.get? key with
    | none => rfl
    | some info =>
      have hout : key.1 ∉ released := hgone (.overlap key.1 key.2) info hget
      rw [Option.map_some, Option.map_some, endsOutside, if_neg hout]
  rw [heldAt, weighed, weighed, hactual, hoverlapping]

theorem weighed_removeAll_le : weighed w (removeAll config pairs s) ≤ weighed w s := by
  have hload : load w (fun _ _ => 0) ∅ (removeAll config pairs s) ≤ load w (fun _ _ => 0) ∅ s :=
    load_removeAll (fun _ _ => Nat.zero_le _) fun _ _ _ _ hwant => nomatch hwant
  exact hload

theorem wp_releaseLinks_holding (h : Holding base node capacity s) :
    wp (releaseLinks config env intent.downReasons pairs) s
      (fun _ => Holding base node capacity) (fun _ => Holding base node capacity) := by
  refine wp_releaseLinks (fun _ => h) fun plan events hplan hevents => ?_
  have hsent : Holding base node capacity (afterEvents events
      (afterCommand env (releaseFrame s pairs intent.downReasons) plan s)) := by
    have hcommand : Holding base node capacity
        (afterCommand env (releaseFrame s pairs intent.downReasons) plan s) :=
      h.sendsOther (by simp [releaseFrame, downFrame])
    exact hcommand.publishes (command_notMem_localDowns hevents)
  refine ⟨fun _ => hsent, fun _ g _ => hsent.changes ?_ fun sent hmem => ?_⟩
  · exact weighed_removeAll_le.trans hsent.held
  · rwa [log_removeAll] at hmem

theorem heldAt_addAll (hnodup : pairs.Nodup) (hdesired : ∀ pair ∈ pairs, pair ∈ desired)
    (hclear : ∀ pair ∈ pairs, record? s (.current pair) = none) :
    heldAt (addAll config desired pairs s) node =
      heldAt s node + (pairs.map (wantedEnds desired node)).sum := by
  induction pairs generalizing s with
  | nil => rfl
  | cons pair pairs ih =>
    obtain ⟨hnew, hnodup⟩ := List.nodup_cons.mp hnodup
    obtain ⟨hpair, hrest⟩ := List.forall_mem_cons.mp hdesired
    obtain ⟨want, hwant⟩ := Dict.mem_iff.mp hpair
    obtain ⟨hnone, hclear⟩ := List.forall_mem_cons.mp hclear
    rw [addAll_cons hwant, ih hnodup hrest, heldAt_addActual hnone, List.map_cons, List.sum_cons,
      show wantedEnds desired node pair = endsAt node pair want.linkType by rw [wantedEnds, hwant]]
    · omega
    · intro other hother
      have hne : other ≠ pair := by
        rintro rfl
        exact hnew hother
      rw [record?_addActual, if_neg fun heq => hne (RecordKey.current.inj heq)]
      exact hclear other hother

theorem wp_acquireLinks_holding (hclear : Gone pairs s)
    (hroom : ∀ plan, buildLinkUpBatchPlan config env .open intent.desired (sortedSet pairs) =
      .ok plan → heldAt s node + ((sortedSet pairs).map (wantedEnds intent.desired node)).sum ≤
        capacity) (h : Holding base node capacity s) : wp (acquireLinks config env intent pairs) s
      (fun _ => Holding base node capacity) (fun _ => Holding base node capacity) := by
  refine wp_acquireLinks (fun _ => h) fun plan hplan hasked => ?_
  have hfits := hroom plan hplan
  have hacquired : acquiredAt (sentIn env (upFrame intent.desired .open pairs) plan s) node ≤
      ((sortedSet pairs).map (wantedEnds intent.desired node)).sum :=
    acquiredAt_le (plansDesired_linkUp hplan)
  have hups : ∀ published : List Pair, Holding base node capacity
      (afterEvents (published.map (linkUpOf intent.desired))
        (afterCommand env (upFrame intent.desired .open pairs) plan s)) := by
    intro published
    exact (h.sends (by omega)).publishes command_notMem_linkUps
  have hheld : ∀ t : Scheduler, (∀ key, record? t key = record? s key) →
      heldAt t node = heldAt s node := fun t h => weighed_congr _ fun key => by rw [h]
  have hpublished := hups (sortedSet (resultIn config env
    (upFrame intent.desired .open pairs) plan s).succeededPairs).reverse
  refine ⟨fun _ _ _ => hups _, fun g _ => hpublished.changes ?_ fun sent hmem => ?_⟩
  · rw [heldAt_addAll (sortedSet_nodup _) fun pair hpair => (hasked pair hpair).2,
      hheld]
    · refine le_trans (Nat.add_le_add_left ?_ _) hfits
      exact sum_map_le_of_subset (sortedSet_nodup _) fun pair hpair =>
        mem_sortedSet.mpr (hasked pair hpair).1
    · exact fun _ => record?_congr rfl rfl
    · exact fun pair hpair => hclear pair (hasked pair hpair).1
  · rwa [log_addAll] at hmem

/-- A link the pass releases before its acquires, with an acknowledged command. -/
structure GoesFirst (config : SchedulerConfig) (surroundings : Surroundings)
    (intent : DispatchIntent) (pass : PassPlan) (found : Scheduler) (pair : Pair) : Prop where
  undesired : pair ∉ intent.desired
  isLocal : config.longDelay pair = false
  toRemove : pair ∈ pass.toRemove
  breaks : ∀ info, record? found (.current pair) = some info →
    BreaksFirst config intent (· ∈ pass.toAdd) pair info
  released : ∀ info, record? found (.current pair) = some info →
    Released surroundings (.current pair) info

/-- Why the acquires of a pass fit at a node: they fit beside the links that are not released
first, or there is but one and the pass checks it. -/
inductive AcquireRoom (config : SchedulerConfig) (surroundings : Surroundings)
    (intent : DispatchIntent) (pass : PassPlan) (found : Scheduler) (node : NodeId) (capacity : Nat)
    (s : Scheduler) : Prop
  | beside (released : List Pair)
      (hfirst : ∀ pair ∈ released, GoesFirst config surroundings intent pass found pair)
      (hload : load (endsOutside released node) (endsOutside released node) intent.desired s ≤
        capacity)
  | checked (hmode : config.mbbDispatch = true)
      (hone : ((sortedSet pass.toAdd).map (wantedEnds intent.desired node)).sum ≤ 1)
      (hkind : ¬ (node ∈ config.gsCapacities ∧ node ∈ config.satCapacities))

section Locals

theorem gone_of_ready (hfirst : ∀ pair ∈ released, GoesFirst config env intent pass found pair)
    (hinvariant : PassInvariant config base intent pass found s)
    (hready : AcquireReady config env intent pass pairs s) :
    ∀ key info, record? s key = some info → key.pair ∉ released := by
  intro key info hinfo hmem
  have hgoes := hfirst _ hmem
  cases key with
  | current pair =>
    have hfound := hinvariant.origin pair info hgoes.undesired hgoes.isLocal hinfo
    exact hready.broken pair hgoes.toRemove info hinfo (hgoes.breaks info hfound)
      (hgoes.released info hfound)
  | overlap pair contact =>
    cases hgoes.isLocal.symm.trans (hinvariant.overlaps pair contact info hinfo)

theorem station_of_linkEnds {ends : List PlannedEnd} (h : linkEnds config pair link = .ok ends)
    (hground : link.linkType = .ground) :
    ∃ gsId, gsIdForPair pair config.gsCapacities = some gsId := by
  unfold linkEnds at h
  rw [hground] at h
  obtain ⟨g, hg, -⟩ := bind_eq_ok_iff.mp h
  unfold requiredGroundEndpoints groundEndpoints at hg
  unfold gsIdForPair
  split_ifs at hg with hfst hsnd
  · exact ⟨_, if_pos hfst⟩
  · exact ⟨_, by rw [if_neg hfst, if_pos hsnd]⟩

theorem heldAt_lt_of_spare {gsId : NodeId} (hcapacity : capacity? config node = some capacity)
    (hcounts : CountsRecords config s)
    (hkind : ¬ (node ∈ config.gsCapacities ∧ node ∈ config.satCapacities))
    (hstation : gsIdForPair pair config.gsCapacities = some gsId)
    (hspare : HasSpare config s gsId pair) (hend : 0 < endsAt node pair want.linkType) :
    heldAt s node < capacity := by
  obtain ⟨satId, satCapacity, hsat, hsatCapacity, hcount⟩ := hspare.satellite
  have hnode : node = gsId ∨ node = satId := by
    unfold gsIdForPair at hstation
    unfold satIdForGsPair at hsat
    unfold endsAt at hend
    split_ifs at hstation hsat hend <;> simp_all
  rcases hnode with rfl | rfl
  · have hmem : node ∈ config.gsCapacities := by
      unfold gsIdForPair at hstation
      split_ifs at hstation with hfst hsnd
      · exact Option.some.inj hstation ▸ hfst
      · exact Option.some.inj hstation ▸ hsnd
    have hheld : s.gsActiveCount node = heldAt s node := by
      rw [hcounts.gs node, if_pos hmem]
      rfl
    obtain ⟨own, hown⟩ := Dict.mem_iff.mp hmem
    rw [capacity?, hown, Option.some_or] at hcapacity
    have hstation := hspare.station
    rw [Dict.getD, hown, Option.getD_some, Option.some.inj hcapacity] at hstation
    omega
  · have hmem : node ∈ config.satCapacities := Dict.mem_of_get? hsatCapacity
    have hnot : node ∉ config.gsCapacities := fun hgs => hkind ⟨hgs, hmem⟩
    have hheld : s.satActiveCount node = heldAt s node := by
      rw [hcounts.sat node, if_pos ⟨hnot, hmem⟩]
      rfl
    rw [capacity?, Dict.get?_eq_none_iff.mpr hnot, Option.none_or, hsatCapacity] at hcapacity
    rw [← Option.some.inj hcapacity]
    omega

theorem room_of_ready (hcapacity : capacity? config node = some capacity)
    (hinvariant : PassInvariant config base intent pass found s)
    (hready : AcquireReady config env intent pass pairs s)
    (hdesired : ∀ pair ∈ pass.toAdd, pair ∈ intent.desired) (hheld : heldAt s node ≤ capacity)
    (hroom : AcquireRoom config env intent pass found node capacity s)
    (hplan : buildLinkUpBatchPlan config env .open intent.desired (sortedSet pairs) = .ok plan) :
    heldAt s node + ((sortedSet pairs).map (wantedEnds intent.desired node)).sum ≤ capacity := by
  cases hroom with
  | beside released hfirst hload =>
    have hgone := gone_of_ready hfirst hinvariant hready
    have hsum : ((sortedSet pairs).map (wantedEnds intent.desired node)).sum ≤
        awaited (endsOutside released node) intent.desired s := by
      refine sum_wantedEnds_le (sortedSet_nodup _) fun pair hpair => ?_
      have hpair := mem_sortedSet.mp hpair
      obtain ⟨want, hwant⟩ := Dict.mem_iff.mp (hdesired pair (hready.toAdd pair hpair))
      have hout : pair ∉ released := fun hmem =>
        (hfirst pair hmem).undesired (Dict.mem_of_get? hwant)
      refine ⟨Dict.get?_eq_none_iff.mp (hready.clear pair hpair), want, hwant, ?_⟩
      rw [endsOutside, if_neg hout]
    have hothers : weighed (endsOutside released node) s = heldAt s node :=
      weighed_endsOutside hgone
    unfold TerminalCapacity.load at hload
    omega
  | checked hmode hone hkind =>
    have hle : ((sortedSet pairs).map (wantedEnds intent.desired node)).sum ≤
        ((sortedSet pass.toAdd).map (wantedEnds intent.desired node)).sum :=
      sum_map_le_of_subset (sortedSet_nodup _) fun pair hpair =>
        mem_sortedSet.mpr (hready.toAdd pair (mem_sortedSet.mp hpair))
    by_cases hnone : ∀ pair ∈ sortedSet pairs, wantedEnds intent.desired node pair = 0
    · have hsum : ((sortedSet pairs).map (wantedEnds intent.desired node)).sum = 0 := by
        refine List.sum_eq_zero fun n hn => ?_
        obtain ⟨pair, hpair, rfl⟩ := List.mem_map.mp hn
        exact hnone pair hpair
      omega
    · push Not at hnone
      obtain ⟨pair, hpair, hends⟩ := hnone
      obtain ⟨want, ends, hwant, hlinkEnds, -⟩ := exists_linkUp_entry hplan hpair
      rw [wantedEnds, hwant] at hends
      have hground : want.linkType = .ground := by
        by_contra hisl
        exact hends (if_neg hisl)
      obtain ⟨gsId, hstation⟩ := station_of_linkEnds hlinkEnds hground
      have hlt := heldAt_lt_of_spare hcapacity hinvariant.inPass.exact.counts hkind hstation
        (hready.spare hmode pair (mem_sortedSet.mp hpair) gsId hstation)
        (Nat.pos_of_ne_zero hends)
      omega

/-- What holds of a node while the local links are dispatched. -/
structure Dispatching (config : SchedulerConfig) (surroundings : Surroundings)
    (intent : DispatchIntent) (pass : PassPlan) (found : Scheduler) (base base' : List Event)
    (node : NodeId) (capacity : Nat) (s : Scheduler) : Prop where
  invariant : PassInvariant config base' intent pass found s
  holding : Holding base node capacity s
  room : AcquireRoom config surroundings intent pass found node capacity s

theorem acquireRoom_of_reaches (hretimes : RetimesUntouched config intent pass)
    (hreaches : Reaches config env intent pass phase s t)
    (hinvariant : PassInvariant config base intent pass found s)
    (hroom : AcquireRoom config env intent pass found node capacity s) :
    AcquireRoom config env intent pass found node capacity t := by
  cases hroom with
  | checked hmode hone hkind => exact .checked hmode hone hkind
  | beside released hfirst hload =>
    have hkept := hreaches.invariant (I := fun u =>
      PassInvariant config base intent pass found u ∧
        load (endsOutside released node) (endsOutside released node) intent.desired u ≤ capacity)
      (fun _ _ heffect hu => ⟨passInvariant_of_effect hretimes heffect hu.1,
        (load_of_effect heffect (fun _ _ => le_rfl) (fun _ _ _ _ => le_rfl) hretimes
          hu.1.inPass).trans hu.2⟩) ⟨hinvariant, hload⟩
    exact .beside released hfirst hkept.2

theorem dispatching_of_reaches (hretimes : RetimesUntouched config intent pass)
    (hreaches : Reaches config env intent pass .locals s t)
    (h : Dispatching config env intent pass found base base' node capacity s)
    (hholding : Holding base node capacity t) :
    Dispatching config env intent pass found base base' node capacity t where
  invariant := hreaches.invariant (fun _ _ => passInvariant_of_effect hretimes) h.invariant
  holding := hholding
  room := acquireRoom_of_reaches hretimes hreaches h.invariant h.room

theorem wp_reconcileLocal_holding (hcapacity : capacity? config node = some capacity)
    (hretimes : RetimesUntouched config intent pass)
    (hdesired : ∀ pair ∈ pass.toAdd, pair ∈ intent.desired) (hclear : Gone pass.toAdd s)
    (h : Dispatching config env intent pass found base base' node capacity s) :
    wp (reconcileLocal config env intent pass) s
      (fun _ => Dispatching config env intent pass found base base' node capacity)
      (fun _ => Holding base node capacity) := by
  refine wp_reconcileLocal_kept (fun t pairs hpairs ht => ?_) (fun t pairs hready ht => ?_) hclear
    (fun _ _ ht => ht.holding) h
  · exact wp_mono (wp_and (reaches_releaseLinks hpairs t) (wp_releaseLinks_holding ht.holding))
      (fun _ u hu => dispatching_of_reaches hretimes hu.1 ht hu.2) fun _ _ hu => hu.2
  · have hholding : wp (acquireLinks config env intent pairs) t
        (fun _ => Holding base node capacity) (fun _ => Holding base node capacity) :=
      wp_acquireLinks_holding hready.clear (fun plan hplan => room_of_ready hcapacity ht.invariant
        hready hdesired ht.holding.held ht.room hplan) ht.holding
    exact wp_mono (wp_and (wp_acquireLinks_reaches hready.toAdd hready.freed hready.clear) hholding)
      (fun _ u hu => dispatching_of_reaches hretimes hu.1 ht hu.2) fun _ _ hu => hu.2

theorem wp_updateLatencies_holding (hretimes : RetimesUntouched config intent pass)
    (hinvariant : InPass config base' intent pass s) (h : Holding base node capacity s) :
    wp (updateLatencies config env intent pass.toUpdateLatency) s
      (fun _ => Holding base node capacity) (fun _ => Holding base node capacity) := by
  rw [updateLatencies, wp_when]
  refine ⟨fun _ => ?_, fun _ => h⟩
  rw [wp_bind]
  refine wp_sendAuthoritativeLatencyUpdates (fun _ => h) fun plan events hplan hevents => ?_
  have hcommand : Holding base node capacity (afterCommand env
      (latencyFrame intent.desired pass.toUpdateLatency) plan s) :=
    h.sendsOther (by simp [latencyFrame])
  have hsent : Holding base node capacity (afterEvents events (afterCommand env
      (latencyFrame intent.desired pass.toUpdateLatency) plan s)) := by
    exact hcommand.publishes (command_notMem_latencyUpdates hevents)
  refine ⟨fun _ => hsent, fun t hretimed => ?_⟩
  have htyped : Typed intent.desired (afterEvents events (afterCommand env
      (latencyFrame intent.desired pass.toUpdateLatency) plan s)) := hinvariant.orderly.typed
  have hheld : weighed (endsAt node) t = weighed (endsAt node) (afterEvents events
      (afterCommand env (latencyFrame intent.desired pass.toUpdateLatency) plan s)) := by
    refine weighed_congr _ (types_retimed htyped (fun pair hpair => ?_) hretimed)
    have hpair := mem_sortedSet.mp (succeededPairs_subset hpair)
    exact ⟨hinvariant.retimed .locals pair hpair, (hretimes .locals pair hpair).2⟩
  have hdone : Holding base node capacity t :=
    hsent.changes (hheld.trans_le hsent.held) fun sent hmem => hretimed.log ▸ hmem
  refine wp_handleActuationResult (fun g _ => ?_) fun _ => hdone
  exact hdone.quiet (fun _ => record?_congr rfl rfl) fun _ hmem => hmem

/-- Why a pass keeps a node within its capacity: everything it may record fits beside everything
it holds, or it opens no contact there and its acquires fit. -/
inductive PassRoom (config : SchedulerConfig) (surroundings : Surroundings)
    (intent : DispatchIntent) (pass : PassPlan) (found : Scheduler) (node : NodeId) (capacity : Nat) :
    Prop
  | whole (hload : load (endsAt node) (endsAt node) intent.desired found ≤ capacity)
  | locals (hopens : ∀ pair ∈ pass.longDelay.opening, wantedEnds intent.desired node pair = 0)
      (hroom : AcquireRoom config surroundings intent pass found node capacity found)

theorem dispatching_of_contacts (hretimes : RetimesUntouched config intent pass)
    (hinvariant : PassInvariant config base' intent pass s s)
    (hroom : PassRoom config env intent pass s node capacity) (h : Holding base node capacity s)
    (hreaches : Reaches config env intent pass .contacts s t) :
    Dispatching config env intent pass s base base' node capacity t := by
  have hkept : ∀ {v : Pair → LinkType → Nat},
      (∀ pair linkType, v pair linkType ≤ endsAt node pair linkType) →
      (∀ pair ∈ pass.longDelay.opening, ∀ want, intent.desired.get? pair = some want →
        endsAt node pair want.linkType ≤ v pair want.linkType) →
      load (endsAt node) v intent.desired s ≤ capacity →
      PassInvariant config base' intent pass s t ∧
        Loaded base node capacity v intent.desired t := by
    intro v hv hopens hload
    exact hreaches.invariant (I := fun u => PassInvariant config base' intent pass s u ∧
      Loaded base node capacity v intent.desired u)
      (fun _ _ heffect hu => ⟨passInvariant_of_effect hretimes heffect hu.1,
        loaded_of_contactEffect hv hopens hretimes heffect hu.1.inPass hu.2⟩)
      ⟨hinvariant, h, hload⟩
  cases hroom with
  | whole hload =>
    obtain ⟨hpass, hloaded⟩ := hkept (fun _ _ => le_rfl) (fun _ _ _ _ => le_rfl) hload
    refine ⟨hpass, hloaded.holding, .beside [] (fun _ hmem => nomatch hmem) ?_⟩
    exact hloaded.load
  | locals hopens hroom =>
    have hnone : load (endsAt node) (fun _ _ => 0) intent.desired s ≤ capacity := by
      have hzero : awaited (fun _ _ => 0) intent.desired s = 0 := by
        refine List.sum_eq_zero fun n hn => ?_
        obtain ⟨entry, -, rfl⟩ := List.mem_map.mp hn
        exact ite_self 0
      unfold TerminalCapacity.load
      rw [hzero]
      exact h.held
    obtain ⟨hpass, hloaded⟩ := hkept (fun _ _ => Nat.zero_le _) (fun pair hpair want hwant => by
      have hzero := hopens pair hpair
      rw [wantedEnds, hwant] at hzero
      exact hzero.le) hnone
    exact ⟨hpass, hloaded.holding, acquireRoom_of_reaches hretimes hreaches hinvariant hroom⟩

theorem wp_dispatchPass_holding (hcapacity : capacity? config node = some capacity)
    (hdispatchable : Dispatchable config intent pass s)
    (hretimes : RetimesUntouched config intent pass)
    (hdesired : ∀ pair ∈ pass.toAdd, pair ∈ intent.desired)
    (hinvariant : PassInvariant config base' intent pass s s)
    (hroom : PassRoom config env intent pass s node capacity) (h : Holding base node capacity s) :
    wp (dispatchPass config env intent pass) s
      (fun _ => Holding base node capacity) (fun _ => Holding base node capacity) := by
  rw [dispatchPass, wp_when]
  refine ⟨fun _ => ?_, fun _ => h⟩
  have hcontacts : ∀ t, Reaches config env intent pass .contacts s t →
      Dispatching config env intent pass s base base' node capacity t :=
    fun t => dispatching_of_contacts hretimes hinvariant hroom h
  have hreaches : wp («when» (¬ pass.LongDelayIdle)
      (reconcileLongDelay config env intent pass.longDelay pass.due)) s
      (fun _ => Reaches config env intent pass .contacts s)
      (fun _ => Reaches config env intent pass .contacts s) := by
    rw [wp_when]
    exact ⟨fun _ => wp_reconcileLongDelay_reaches hdispatchable, fun _ => .refl⟩
  rw [wp_bind]
  refine wp_mono hreaches (fun _ t ht => ?_) fun _ t ht => (hcontacts t ht).holding
  rw [wp_bind]
  refine wp_mono (wp_reconcileLocal_holding hcapacity hretimes hdesired
    (Reaches.gone hdispatchable ht) (hcontacts t ht)) (fun _ u hu => ?_) fun _ _ hu => hu
  exact wp_updateLatencies_holding hretimes hu.invariant.inPass hu.holding

end Locals

/-! ### Runs -/

/-- The newly desired local links of a node. -/
def newAt (config : SchedulerConfig) (desired : Dict Pair LinkInfo) (s : Scheduler) (node : NodeId) :
    Nat :=
  desired.total fun pair want =>
    if config.longDelay pair = true ∨ pair ∈ s.actualLinks then 0
    else endsAt node pair want.linkType

/-- A held link the turn releases before it acquires, with an acknowledged command. -/
structure ReleasedEarly (config : SchedulerConfig) (turn : Turn) (s : Scheduler) (pair : Pair) :
    Prop where
  releasable : Releasable config turn.intent s pair
  breaks : ∀ info, record? s (.current pair) = some info →
    BreaksFirst config turn.intent (Acquirable config turn.intent s) pair info
  released : ∀ info, record? s (.current pair) = some info →
    Released turn.surroundings (.current pair) info

/-- Why a turn keeps a node within its capacity.  Everything it desires anew fits beside everything
it holds; or no contact opens there, and its acquires fit beside what is not released early, or are
a single one that the dispatch checks against the counters. -/
inductive RoomAt (config : SchedulerConfig) (turn : Turn) (s : Scheduler) (node : NodeId)
    (capacity : Nat) : Prop
  | whole (hload : load (endsAt node) (endsAt node) turn.intent.desired s ≤ capacity)
  | beside (hopens : ∀ pair, Openable config turn s pair →
        wantedEnds turn.intent.desired node pair = 0)
      (released : List Pair) (hearly : ∀ pair ∈ released, ReleasedEarly config turn s pair)
      (hload : load (endsOutside released node) (endsOutside released node) turn.intent.desired s ≤
        capacity)
  | checked (hopens : ∀ pair, Openable config turn s pair →
        wantedEnds turn.intent.desired node pair = 0)
      (hmode : config.mbbDispatch = true)
      (hone : newAt config turn.intent.desired s node ≤ 1)
      (hkind : ¬ (node ∈ config.gsCapacities ∧ node ∈ config.satCapacities))

/-- What a turn needs: desired links named as in exact counting, and room at every node. -/
structure HasRoom (config : SchedulerConfig) (s : Scheduler) (turn : Turn) : Prop where
  typed : Typed turn.intent.desired s
  fresh : NamesFresh turn.intent.desired s
  room : ∀ node capacity, capacity? config node = some capacity → RoomAt config turn s node capacity

section Turns

variable {turn : Turn} {plan : LongDelayPlan} {nowMono : ℚ}

theorem record?_plannedState (hpair : pair ∉ turn.intent.desired) :
    record? (plannedState turn.surroundings turn.intent (turn.begin config s)) (.current pair) =
      record? s (.current pair) := by
  have hget : record? (plannedState turn.surroundings turn.intent (turn.begin config s))
      (.current pair) = (record? (turn.begin config s) (.current pair)).map
        (refreshAuthority turn.intent.desired pair) := Dict.get?_mapValues
  have hsame : refreshAuthority turn.intent.desired pair = id := by
    funext held
    rw [refreshAuthority, Dict.get?_eq_none_iff.mpr hpair]
    rfl
  rw [hget, hsame, Option.map_id_fun, id_eq, record?_begin]

theorem load_plannedState : load w v turn.intent.desired
        (plannedState turn.surroundings turn.intent (turn.begin config s)) =
      load w v turn.intent.desired s := by
  have hbegin : load w v turn.intent.desired (afterReading turn.surroundings
      (verifiedState turn.intent (turn.begin config s))) = load w v turn.intent.desired s :=
    load_congr fun key => by rw [record?_afterReading, verifiedState, record?_station, record?_begin]
  rw [← hbegin]
  exact load_eq_of_alike (fun _ => map_record?_refreshed fun _ _ _ _ => rfl)
    fun _ => map_record?_refreshed fun _ _ _ _ => rfl

theorem passRoom_of_roomAt {capacity : Nat}
    (hplan : planned config turn.intent (turn.begin config s) = .ok plan)
    (h : RoomAt config turn s node capacity) : PassRoom config turn.surroundings turn.intent
      (passOf config turn.intent (turn.begin config s) plan nowMono)
      (plannedState turn.surroundings turn.intent (turn.begin config s)) node capacity := by
  have hopening : (∀ pair, Openable config turn s pair →
      wantedEnds turn.intent.desired node pair = 0) →
      ∀ pair ∈ (passOf config turn.intent (turn.begin config s) plan nowMono).longDelay.opening,
        wantedEnds turn.intent.desired node pair = 0 :=
    fun hopens pair hpair => hopens pair (openable_of_mem_opening hplan hpair)
  cases h with
  | whole hload => exact .whole (load_plannedState.trans_le hload)
  | beside hopens released hearly hload =>
    refine .locals (hopening hopens) (.beside released (fun pair hpair => ?_)
      (load_plannedState.trans_le hload))
    have hearly := hearly pair hpair
    have hundesired := hearly.releasable.undesired
    refine ⟨hundesired, hearly.releasable.isLocal, mem_toRemove_passOf hearly.releasable,
      fun info hinfo => ?_, fun info hinfo => ?_⟩
    · rw [record?_plannedState hundesired] at hinfo
      have hacquires : (fun other => other ∈ (passOf config turn.intent (turn.begin config s) plan
          nowMono).toAdd) = Acquirable config turn.intent s :=
        funext fun other => propext mem_toAdd_passOf_iff
      rw [hacquires]
      exact hearly.breaks info hinfo
    · rw [record?_plannedState hundesired] at hinfo
      exact hearly.released info hinfo
  | checked hopens hmode hone hkind =>
    refine .locals (hopening hopens) (.checked hmode (le_trans ?_ hone) hkind)
    refine Dict.sum_le_total (sortedSet_nodup _) fun pair hpair => ?_
    have hnew := mem_toAdd_passOf_iff.mp (mem_sortedSet.mp hpair)
    obtain ⟨want, hwant⟩ := Dict.mem_iff.mp hnew.desired
    refine ⟨want, hwant, ?_⟩
    rw [wantedEnds, hwant, if_neg]
    rintro (hlong | hheld)
    · cases hnew.isLocal.symm.trans hlong
    · exact hnew.absent hheld

theorem wp_runTurn_holding {capacity : Nat} (hcapacity : capacity? config node = some capacity)
    (hroom : HasRoom config s turn) (hsound : Sound config base' s) (hlong : OverlapsLong config s)
    (h : Holding base node capacity s) :
    wp (runTurn config turn) s (fun _ => Holding base node capacity)
      (fun _ => Holding base node capacity) := by
  have htyped : Typed turn.intent.desired (turn.begin config s) := fun pair held want hheld =>
    hroom.typed pair held want (record?_begin ▸ hheld)
  have hfresh : NamesFresh turn.intent.desired (turn.begin config s) :=
    fun pair want contact hwant hcontact =>
      record?_begin.trans (hroom.fresh pair want contact hwant hcontact)
  have hbegin : Holding base node capacity (verifiedState turn.intent (turn.begin config s)) :=
    h.quiet (fun key => by rw [verifiedState, record?_station, record?_begin]) fun sent hsent => by
      change Event.command sent ∈ (turn.begin config s).log at hsent
      rwa [log_begin] at hsent
  rw [runTurn, wp_bind, wp_modify]
  refine wp_reconcileLinks.mpr ⟨fun plan hplan => ?_, fun _ _ => hbegin⟩
  have hinpass : InPass config base' turn.intent (passOf config turn.intent (turn.begin config s) plan
      (turn.surroundings.clock (turn.begin config s).readings))
      (plannedState turn.surroundings turn.intent (turn.begin config s)) :=
    inPass_plannedState hplan htyped hfresh hsound.begin
  refine wp_dispatchPass_holding hcapacity (dispatchable_passOf hplan)
    (retimesUntouched_passOf hplan) (fun pair hpair => (mem_toAdd_passOf_iff.mp hpair).desired)
    ⟨hinpass, ?_, fun _ _ _ _ hinfo => hinfo⟩ (passRoom_of_roomAt hplan
      (hroom.room node capacity hcapacity)) ?_
  · intro pair contact info hinfo
    have hbefore : record? (turn.begin config s) (.overlap pair contact) = some info := hinfo
    exact hlong pair contact info (record?_begin ▸ hbefore)
  · have hread : Holding base node capacity (afterReading turn.surroundings
        (verifiedState turn.intent (turn.begin config s))) :=
      hbegin.quiet (fun _ => record?_congr rfl rfl) fun sent hsent =>
        (List.mem_cons.mp hsent).resolve_left (by simp)
    have hheld : weighed (endsAt node) (plannedState turn.surroundings turn.intent
        (turn.begin config s)) = weighed (endsAt node) (afterReading turn.surroundings
          (verifiedState turn.intent (turn.begin config s))) :=
      weighed_congr _ fun _ => map_record?_refreshed fun _ _ _ _ => rfl
    exact hread.changes (hheld.trans_le hread.held) fun _ hsent => hsent

theorem wp_runTurn_overlapsLong (h : OverlapsLong config s) :
    wp (runTurn config turn) s (fun _ => OverlapsLong config) (fun _ => OverlapsLong config) := by
  have hbegin : OverlapsLong config (turn.begin config s) := fun pair contact info hinfo =>
    h pair contact info (record?_begin ▸ hinfo)
  refine wp_runTurn_reaches hbegin fun plan t _ hreaches => ?_
  exact hreaches.invariant (fun _ _ _ => overlapsLong_of_effect) hbegin

end Turns

def afterTurn (config : SchedulerConfig) (s : Scheduler) (turn : Turn) : Scheduler :=
  ((runTurn config turn).exec s).2

theorem overlapsLong_of_started {start : Scheduler} (h : Started config start) :
    OverlapsLong config start := by
  rcases h with rfl | ⟨env, adopted, hexec⟩
  · intro pair contact info hinfo
    cases hinfo
  · have hnone : ∀ key, record? freshScheduler key = none := fun key => by cases key <;> rfl
    have hadopted := (wp_of_exec_ok hexec).mp (LongDelayAdoption.wp_adoptLongDelayState hnone)
    exact fun pair contact info hinfo => hadopted.longDelay _ _ hinfo

/-- In every run whose turns have room, no node ever holds more ground links than it has terminals,
the acquires of a command being sent included. -/
theorem never_oversubscribed (config : SchedulerConfig) (start : Scheduler)
    (hstart : Started config start)
    (hheld : ∀ node capacity, capacity? config node = some capacity → heldAt start node ≤ capacity)
    (turns : List Turn) (hroom : HoldsAlong (afterTurn config) (HasRoom config) start turns)
    (node : NodeId) (capacity : Nat) (hcapacity : capacity? config node = some capacity) :
    Holding start.log node capacity (turns.foldl (afterTurn config) start) := by
  have hinvariant := hroom.invariant (I := fun s => Sound config start.log s ∧
    OverlapsLong config s ∧ Holding start.log node capacity s) ?_
    ⟨sound_of_started hstart, overlapsLong_of_started hstart, hheld node capacity hcapacity,
      fun _ hsent => .inl hsent⟩
  · exact hinvariant.2.2
  · rintro s turn hturn ⟨hsound, hlong, hholding⟩
    exact ⟨wp_exec (wp_runTurn_sound hturn.typed hturn.fresh hsound),
      wp_exec (wp_runTurn_overlapsLong hlong),
      wp_exec (wp_runTurn_holding hcapacity hturn hsound hlong hholding)⟩

/-! ### Two acquires for one spare terminal -/

def RespectsCapacity (config : SchedulerConfig) (desired : Dict Pair LinkInfo) : Prop :=
  ∀ node ∈ config.gsCapacities.keys ++ config.satCapacities.keys, ∀ capacity ∈ capacity? config node,
    desired.total (fun pair want => endsAt node pair want.linkType) ≤ capacity

instance (config : SchedulerConfig) (desired : Dict Pair LinkInfo) :
    Decidable (RespectsCapacity config desired) := List.decidableBAll _ _

/-- Three stations of one terminal each and a satellite with two. -/
def sharedSatellite : SchedulerConfig :=
  { twoStations with
    gsCapacities := .ofList [("gs1", 1), ("gs2", 1), ("gs3", 1)]
    gsHandoverModes := .ofList [("gs1", .mbb), ("gs2", .mbb), ("gs3", .mbb)]
    interfaceRates := [("gs1", "term0"), ("gs2", "term0"), ("gs3", "term0"), ("sat1", "gnd0"),
      ("sat1", "gnd1")] }

/-- One station is linked; then the two others are, in its place and beside it. -/
def stationsChange (refuses : Request → Bool) : List Turn :=
  [turnToward (.ofList [(("gs3", "sat1"), groundLink 1)]) fun _ => false,
    turnToward (.ofList [(("gs1", "sat1"), groundLink 2),
      (("gs2", "sat1"), { groundLink 3 with interfaceB := "gnd1" })]) refuses]

/-- The agents refuse the release of the first link.  The satellite has one terminal to spare, each
of the two acquires finds it, and both are sent. -/
theorem refused_release_oversubscribes :
    ∃ turns, HoldsAlong (afterTurn sharedSatellite) (fun s turn => Typed turn.intent.desired s ∧
        NamesFresh turn.intent.desired s ∧ RespectsCapacity sharedSatellite turn.intent.desired)
        freshScheduler turns ∧
      ∃ node capacity, capacity? sharedSatellite node = some capacity ∧
        ¬ Holding [] node capacity (turns.foldl (afterTurn sharedSatellite) freshScheduler) := by
  let refuses : Request → Bool := fun request => request.operation = .batchLinkDown
  refine ⟨stationsChange refuses, ⟨by decide +kernel, by decide +kernel, trivial⟩, "sat1", 2,
    by decide +kernel, fun h => ?_⟩
  have hheld := h.held
  revert hheld
  decide +kernel

theorem mem_of_capacity? {capacity : Nat} (h : capacity? sharedSatellite node = some capacity) :
    (node, capacity) ∈ [("gs1", 1), ("gs2", 1), ("gs3", 1), ("sat1", 2)] := by
  have hentries : sharedSatellite.gsCapacities.entries = [("gs1", 1), ("gs2", 1), ("gs3", 1)] ∧
      sharedSatellite.satCapacities.entries = [("sat1", 2)] := by decide
  rw [capacity?, Option.or_eq_some_iff, Dict.get?_eq_some_iff, Dict.get?_eq_some_iff,
    hentries.1, hentries.2] at h
  rcases h with hstation | ⟨-, hsatellite⟩
  · exact List.mem_append_left [("sat1", 2)] hstation
  · exact List.mem_append_right [("gs1", 1), ("gs2", 1), ("gs3", 1)] hsatellite

/-- With the release acknowledged, the same change keeps within the two terminals. -/
theorem acknowledged_release_fits :
    Holding [] "sat1" 2
      ((stationsChange fun _ => false).foldl (afterTurn sharedSatellite) freshScheduler) := by
  have hlocal : ∀ pair, SchedulerConfig.longDelay sharedSatellite pair = false := fun pair =>
    decide_eq_false Dict.not_mem_empty
  have hopens : ∀ {turn : Turn} {s : Scheduler} {node : NodeId} (pair : Pair),
      Openable sharedSatellite turn s pair → wantedEnds turn.intent.desired node pair = 0 :=
    fun pair hopen => absurd hopen.isLongDelay (by rw [hlocal]; decide)
  refine never_oversubscribed sharedSatellite freshScheduler (.inl rfl)
    (fun _ _ _ => Nat.zero_le _) (stationsChange fun _ => false)
    ⟨⟨by decide +kernel, by decide +kernel, fun node capacity h => ?_⟩,
      ⟨by decide +kernel, by decide +kernel, fun node capacity h => ?_⟩, trivial⟩ "sat1" 2
    (by decide +kernel)
  · have hnode := mem_of_capacity? h
    simp only [List.mem_cons, Prod.mk.injEq, List.not_mem_nil, or_false] at hnode
    rcases hnode with ⟨rfl, rfl⟩ | ⟨rfl, rfl⟩ | ⟨rfl, rfl⟩ | ⟨rfl, rfl⟩ <;>
      exact .whole (by decide +kernel)
  · have hnode := mem_of_capacity? h
    simp only [List.mem_cons, Prod.mk.injEq, List.not_mem_nil, or_false] at hnode
    rcases hnode with ⟨rfl, rfl⟩ | ⟨rfl, rfl⟩ | ⟨rfl, rfl⟩ | ⟨rfl, rfl⟩
    · exact .whole (by decide +kernel)
    · exact .whole (by decide +kernel)
    · exact .whole (by decide +kernel)
    · refine .beside hopens [("gs3", "sat1")] (fun pair hpair => ?_) (by decide +kernel)
      obtain rfl := List.mem_singleton.mp hpair
      refine ⟨⟨by decide +kernel, hlocal _, by decide +kernel, fun gsId _ => ?_⟩, fun info _ => ?_,
        fun info _ _ => acknowledges_all _ _ _⟩
      · exact (by decide : ¬ GroundActuationState.blocksDown {})
      · refine .idle "gs3" (by decide +kernel) fun other hother => ?_
        have hmem : other ∈ [("gs1", "sat1"), ("gs2", "sat1")] := hother.desired
        simp only [List.mem_cons, List.not_mem_nil, or_false] at hmem
        rcases hmem with rfl | rfl <;> decide +kernel

end NodalArc.TerminalCapacity
