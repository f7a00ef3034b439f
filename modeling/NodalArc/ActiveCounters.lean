import NodalArc.LongDelayAdoption
import NodalArc.ProvenClean
import NodalArc.SparedContacts

/-! The Scheduler counts, per station and satellite, the ground links that occupy its terminals.  The
counters are changed link by link; they agree with the records wherever the desired links keep the
type of a held link and name no contact that the pair still drains under an earlier record. -/

namespace NodalArc.ActiveCounters

open OrderedDict
open GroundPolicy
open LinkRecord
open ContactDrain
open Actuation
open NodeAgentBatches
open DispatchActuator
open Reconcile
open HeldRecords
open CommandRules
open CloseRounds
open LocalLinks
open ContactOpening
open PassPlanning
open PassEffects
open PassRefinement
open SparedContacts
open SchedulerRuns
open GroundRecovery
open StationTrust
open OperatorRepair
open ProvenClean
open StatefulProgram
open StatefulProgram.Program

variable {after : ActiveLinkInfo} {result : ActuationResult} {plan : BatchPlan}
  {frame : CommandFrame} {authority : Dict Pair LinkInfo} {l : Ledger} {link : LinkInfo}
  {pairs : List Pair} {change : Nat → Nat} {gsId other : NodeId} {views : NodeId → DesiredView}
  {id : Option String} {r : Recovery} {order : RepairOrder} {turn : Turn}

/-! ### Counts of records -/

def endsAt (node : NodeId) (pair : Pair) (linkType : LinkType) : Nat :=
  if linkType = .ground then
    (if pair.1 = node then 1 else 0) + (if pair.2 = node then 1 else 0)
  else 0

/-- The ground records a node is an end of, earlier contacts still draining included. -/
def recordsAt (actual : Dict Pair ActiveLinkInfo)
    (overlapping : Dict (Pair × Contact) ActiveLinkInfo) (node : NodeId) : Nat :=
  actual.total (fun pair info => endsAt node pair info.linkType) +
    overlapping.total fun key info => endsAt node key.1 info.linkType

/-- Counters that are the counts of the given records. -/
structure Counted (config : SchedulerConfig) (actual : Dict Pair ActiveLinkInfo)
    (overlapping : Dict (Pair × Contact) ActiveLinkInfo) (gsActiveCount satActiveCount : NodeId → Nat) :
    Prop where
  gs : ∀ node, gsActiveCount node =
    if node ∈ config.gsCapacities then recordsAt actual overlapping node else 0
  sat : ∀ node, satActiveCount node =
    if node ∉ config.gsCapacities ∧ node ∈ config.satCapacities then
      recordsAt actual overlapping node
    else 0

def CountsRecords (config : SchedulerConfig) (s : Scheduler) : Prop :=
  Counted config s.actualLinks s.overlapping s.gsActiveCount s.satActiveCount

def CountedWhenSent (config : SchedulerConfig) (sent : SentCommand) : Prop :=
  Counted config sent.heldActual sent.heldOverlapping sent.heldGsCount sent.heldSatCount

variable {config : SchedulerConfig} {env : Surroundings} {s t : Scheduler} {node : NodeId}
    {key : RecordKey} {pair : Pair} {info held : ActiveLinkInfo}

/-! ### One link -/

def weighed (w : Pair → LinkType → Nat) (s : Scheduler) : Nat :=
  s.actualLinks.total (fun pair info => w pair info.linkType) +
    s.overlapping.total fun key info => w key.1 info.linkType

def heldAt (s : Scheduler) (node : NodeId) : Nat := weighed (endsAt node) s

theorem weighed_dropRecord (w : Pair → LinkType → Nat) (h : record? s key = some info) :
    weighed w (dropRecord key s) + w key.pair info.linkType = weighed w s := by
  cases key with
  | current pair =>
    have htotal := Dict.total_erase (f := fun pair info => w pair info.linkType) h
    simp only [weighed, dropRecord, RecordKey.pair] at *
    omega
  | overlap pair contact =>
    have htotal := Dict.total_erase (d := s.overlapping) (f := fun key info =>
      w key.1 info.linkType) h
    simp only [weighed, dropRecord, RecordKey.pair] at *
    omega

theorem weighed_setRecord_new (w : Pair → LinkType → Nat) (h : record? s key = none) :
    weighed w (setRecord key info s) = weighed w s + w key.pair info.linkType := by
  cases key with
  | current pair =>
    have hnew : pair ∉ s.actualLinks := Dict.get?_eq_none_iff.mp h
    simp only [weighed, setRecord, RecordKey.pair, Dict.total_insert_of_not_mem hnew]
    omega
  | overlap pair contact =>
    have hnew : (pair, contact) ∉ s.overlapping := Dict.get?_eq_none_iff.mp h
    simp only [weighed, setRecord, RecordKey.pair, Dict.total_insert_of_not_mem hnew]
    omega

theorem weighed_congr (w : Pair → LinkType → Nat)
    (h : ∀ key, (record? t key).map (fun info => info.linkType) =
      (record? s key).map fun info => info.linkType) : weighed w t = weighed w s := by
  have hactual : t.actualLinks.total (fun pair info => w pair info.linkType) =
      s.actualLinks.total fun pair info => w pair info.linkType := by
    refine Dict.total_congr fun pair => ?_
    have hpair := congrArg (Option.map (w pair)) (h (.current pair))
    simpa [Option.map_map, Function.comp_def, record?] using hpair
  have hoverlapping : t.overlapping.total (fun key info => w key.1 info.linkType) =
      s.overlapping.total fun key info => w key.1 info.linkType := by
    refine Dict.total_congr fun key => ?_
    have hkey := congrArg (Option.map (w key.1)) (h (.overlap key.1 key.2))
    simpa [Option.map_map, Function.comp_def, record?] using hkey
  rw [weighed, weighed, hactual, hoverlapping]

theorem weighed_setRecord_same (w : Pair → LinkType → Nat) (h : record? s key = some info)
    (htype : after.linkType = info.linkType) :
    weighed w (setRecord key after s) = weighed w s := by
  refine weighed_congr w fun key' => ?_
  rw [record?_setRecord]
  split_ifs with heq
  · rw [heq, h, Option.map_some, Option.map_some, htype]
  · rfl

theorem weighed_relocateContact (w : Pair → LinkType → Nat)
    (hfree : ∀ held contact, record? s (.current pair) = some held → held.contact = some contact →
      record? s (.overlap pair contact) = none) :
    weighed w (relocateContact pair s) = weighed w s := by
  rcases relocateContact_eq pair s with heq | ⟨held, drain, contact, hheld, -, hcontact, heq⟩
  · rw [heq]
  · have hset : weighed w (setRecord (.overlap pair contact) held s) =
        weighed w s + w pair held.linkType :=
      weighed_setRecord_new w (hfree held contact hheld hcontact)
    have hkept : record? (setRecord (.overlap pair contact) held s) (.current pair) = some held := by
      rw [record?_setRecord, if_neg nofun, hheld]
    have hdrop := weighed_dropRecord w hkept
    simp only [RecordKey.pair] at hdrop
    rw [heq]
    omega

theorem gsActiveCount_countEnd : (countEnd config change s other).gsActiveCount node =
      if other = node ∧ node ∈ config.gsCapacities then change (s.gsActiveCount node)
      else s.gsActiveCount node := by
  unfold countEnd
  by_cases hnode : other = node
  · subst hnode
    split_ifs <;> simp_all
  · have hother : node ≠ other := fun heq => hnode heq.symm
    split_ifs <;> simp_all

theorem satActiveCount_countEnd : (countEnd config change s other).satActiveCount node =
      if other = node ∧ node ∉ config.gsCapacities ∧ node ∈ config.satCapacities then
        change (s.satActiveCount node)
      else s.satActiveCount node := by
  unfold countEnd
  by_cases hnode : other = node
  · subst hnode
    split_ifs <;> simp_all
  · have hother : node ≠ other := fun heq => hnode heq.symm
    split_ifs <;> simp_all

theorem gsActiveCount_countLink : (countLink config change pair link s).gsActiveCount node =
      change^[if node ∈ config.gsCapacities then endsAt node pair link.linkType else 0]
        (s.gsActiveCount node) := by
  unfold countLink endsAt
  by_cases hground : link.linkType = .ground
  · rw [if_pos hground, if_pos hground, gsActiveCount_countEnd, gsActiveCount_countEnd]
    by_cases hmem : node ∈ config.gsCapacities <;> by_cases hfst : pair.1 = node <;>
      by_cases hsnd : pair.2 = node <;> simp [hmem, hfst, hsnd]
  · simp [hground]

theorem satActiveCount_countLink : (countLink config change pair link s).satActiveCount node =
      change^[if node ∉ config.gsCapacities ∧ node ∈ config.satCapacities then
        endsAt node pair link.linkType else 0] (s.satActiveCount node) := by
  unfold countLink endsAt
  by_cases hground : link.linkType = .ground
  · rw [if_pos hground, if_pos hground, satActiveCount_countEnd, satActiveCount_countEnd]
    by_cases hmem : node ∉ config.gsCapacities ∧ node ∈ config.satCapacities <;>
      by_cases hfst : pair.1 = node <;> by_cases hsnd : pair.2 = node <;> simp [hmem, hfst, hsnd]
  · simp [hground]

theorem add_one_iterate (n m : Nat) : (· + 1)^[n] m = m + n := Nat.succ_iterate m n

theorem sub_one_iterate (n m : Nat) : (· - 1)^[n] m = m - n := Nat.pred_iterate m n

/-! ### Changes that keep the counters exact -/

theorem gsActiveCount_dropRecord : (dropRecord key s).gsActiveCount = s.gsActiveCount := by
  cases key <;> rfl

theorem satActiveCount_dropRecord : (dropRecord key s).satActiveCount = s.satActiveCount := by
  cases key <;> rfl

theorem heldAt_countLink : heldAt (countLink config change pair link s) node = heldAt s node := by
  obtain ⟨_, _, heq⟩ := countLink_eq config change pair link s
  rw [heq]
  rfl

theorem CountsRecords.drop (h : CountsRecords config s) (hheld : record? s key = some info) :
    CountsRecords config
      (decrementActiveCounts config key.pair info.toLinkInfo (dropRecord key s)) := by
  constructor <;> intro node
  all_goals
    have hends : heldAt (dropRecord key s) node + endsAt node key.pair info.linkType = heldAt s node :=
      weighed_dropRecord (endsAt node) hheld
    change _ = if _ then heldAt (countLink config (· - 1) key.pair info.toLinkInfo (dropRecord key s))
      node else 0
    rw [heldAt_countLink]
  · have hcount : s.gsActiveCount node = if _ then heldAt s node else 0 := h.gs node
    rw [decrementActiveCounts, gsActiveCount_countLink, sub_one_iterate, gsActiveCount_dropRecord,
      hcount]
    split_ifs <;> omega
  · have hcount : s.satActiveCount node = if _ then heldAt s node else 0 := h.sat node
    rw [decrementActiveCounts, satActiveCount_countLink, sub_one_iterate, satActiveCount_dropRecord,
      hcount]
    split_ifs <;> omega

theorem CountsRecords.congr (h : CountsRecords config s)
    (hrecords : ∀ key, (record? t key).map (fun info => info.linkType) =
      (record? s key).map fun info => info.linkType)
    (hgs : t.gsActiveCount = s.gsActiveCount) (hsat : t.satActiveCount = s.satActiveCount) :
    CountsRecords config t := by
  constructor <;> intro node
  all_goals
    change _ = if _ then heldAt t node else 0
    rw [heldAt, weighed_congr _ hrecords, ← heldAt]
  · rw [hgs]
    exact h.gs node
  · rw [hsat]
    exact h.sat node

theorem heldAt_setRecord_over (h : ∀ held, record? s key = some held → held.linkType ≠ .ground) :
    heldAt (setRecord key info s) node = heldAt s node + endsAt node key.pair info.linkType := by
  cases hheld : record? s key with
  | none => exact weighed_setRecord_new (endsAt node) hheld
  | some held =>
    have hdropped := weighed_dropRecord (endsAt node) hheld
    rw [endsAt, if_neg (h held hheld)] at hdropped
    have hsame : weighed (endsAt node) (setRecord key info s) =
        weighed (endsAt node) (setRecord key info (dropRecord key s)) := by
      refine weighed_congr _ fun key' => ?_
      rw [record?_setRecord, record?_setRecord, record?_dropRecord]
      split_ifs <;> rfl
    rw [heldAt, heldAt, hsame,
      weighed_setRecord_new _ (by rw [record?_dropRecord, if_pos rfl])]
    omega

theorem CountsRecords.add (h : CountsRecords config s)
    (hclear : ∀ held, record? s (.current pair) = some held → held.linkType ≠ .ground) :
    CountsRecords config (addActual config pair link s) := by
  constructor <;> intro node
  all_goals
    have hends : heldAt { s with actualLinks := s.actualLinks.insert pair link.activate } node =
        heldAt s node + endsAt node pair link.linkType := heldAt_setRecord_over hclear
    change _ = if _ then heldAt (countLink config (· + 1) pair link
      { s with actualLinks := s.actualLinks.insert pair link.activate }) node else 0
    rw [heldAt_countLink, hends]
  · have hcount : s.gsActiveCount node = if _ then heldAt s node else 0 := h.gs node
    rw [addActual, incrementActiveCounts, gsActiveCount_countLink, add_one_iterate, hcount]
    split_ifs <;> rfl
  · have hcount : s.satActiveCount node = if _ then heldAt s node else 0 := h.sat node
    rw [addActual, incrementActiveCounts, satActiveCount_countLink, add_one_iterate, hcount]
    split_ifs <;> rfl

theorem CountsRecords.remove (h : CountsRecords config s) :
    CountsRecords config (removeActual config pair s) := by
  unfold removeActual
  cases hheld : s.actualLinks.get? pair with
  | none => exact h
  | some held =>
    have hrecord : record? s (.current pair) = some held := hheld
    exact h.drop hrecord

theorem CountsRecords.removeAll (h : CountsRecords config s) :
    CountsRecords config (removeAll config pairs s) := by
  unfold LocalLinks.removeAll
  induction pairs generalizing s with
  | nil => exact h
  | cons pair pairs ih => exact ih h.remove

theorem CountsRecords.relocate (h : CountsRecords config s)
    (hfree : ∀ held contact, record? s (.current pair) = some held → held.contact = some contact →
      record? s (.overlap pair contact) = none) :
    CountsRecords config (relocateContact pair s) := by
  have hends : ∀ node, heldAt (relocateContact pair s) node = heldAt s node := fun node =>
    weighed_relocateContact (endsAt node) hfree
  have hcounters : (relocateContact pair s).gsActiveCount = s.gsActiveCount ∧
      (relocateContact pair s).satActiveCount = s.satActiveCount := by
    rcases relocateContact_eq pair s with heq | ⟨_, _, _, _, _, _, heq⟩ <;>
      · rw [heq]
        exact ⟨rfl, rfl⟩
  constructor <;> intro node
  all_goals
    change _ = if _ then heldAt (relocateContact pair s) node else 0
    rw [hends]
  · rw [hcounters.1]
    exact h.gs node
  · rw [hcounters.2]
    exact h.sat node

/-! ### Counting anew -/

theorem foldl_increment (config : SchedulerConfig) (records : List (Pair × ActiveLinkInfo))
    (s : Scheduler) (node : NodeId) :
    (records.foldl (fun s held => incrementActiveCounts config held.1 held.2.toLinkInfo s)
        s).gsActiveCount node = s.gsActiveCount node + (if node ∈ config.gsCapacities then
          (records.map fun held => endsAt node held.1 held.2.linkType).sum else 0) ∧
    (records.foldl (fun s held => incrementActiveCounts config held.1 held.2.toLinkInfo s)
        s).satActiveCount node = s.satActiveCount node +
          (if node ∉ config.gsCapacities ∧ node ∈ config.satCapacities then
            (records.map fun held => endsAt node held.1 held.2.linkType).sum else 0) := by
  induction records generalizing s with
  | nil => simp
  | cons held records ih =>
    rw [List.foldl_cons, (ih _).1, (ih _).2, incrementActiveCounts, gsActiveCount_countLink,
      satActiveCount_countLink, add_one_iterate, add_one_iterate, List.map_cons, List.sum_cons]
    constructor <;> split_ifs <;> omega

theorem countsRecords_rebaseline : CountsRecords config (rebaselineActiveCounts config s) := by
  obtain ⟨gsActiveCount, satActiveCount, heq⟩ := rebaselineActiveCounts_eq config s
  have hcounts := foldl_increment config
    (s.actualLinks.entries ++ s.overlapping.entries.map fun held => (held.1.1, held.2))
    { s with gsActiveCount := fun _ => 0, satActiveCount := fun _ => 0 }
  change ∀ node, (rebaselineActiveCounts config s).gsActiveCount node = _ ∧
    (rebaselineActiveCounts config s).satActiveCount node = _ at hcounts
  have htotal : ∀ node, ((s.actualLinks.entries ++ s.overlapping.entries.map fun held =>
      (held.1.1, held.2)).map fun held => endsAt node held.1 held.2.linkType).sum = heldAt s node := by
    intro node
    simp [heldAt, weighed, Dict.total, List.map_map, Function.comp_def]
  constructor <;> intro node
  all_goals
    change _ = if _ then heldAt (rebaselineActiveCounts config s) node else 0
    have hsame : heldAt (rebaselineActiveCounts config s) node = heldAt s node := by rw [heq]; rfl
    rw [hsame, ← htotal]
  · rw [(hcounts node).1, Nat.zero_add]
  · rw [(hcounts node).2, Nat.zero_add]

theorem CountsRecords.rebaseline_eq (h : CountsRecords config s) :
    rebaselineActiveCounts config s = s := by
  have hanew : CountsRecords config (rebaselineActiveCounts config s) := countsRecords_rebaseline
  obtain ⟨gsActiveCount, satActiveCount, heq⟩ := rebaselineActiveCounts_eq config s
  rw [heq] at hanew ⊢
  have hgs : gsActiveCount = s.gsActiveCount := funext fun node =>
    (hanew.gs node).trans (h.gs node).symm
  have hsat : satActiveCount = s.satActiveCount := funext fun node =>
    (hanew.sat node).trans (h.sat node).symm
  rw [hgs, hsat]

/-! ### Counters over a log -/

/-- The counters are exact, and were when each command outside the base log was sent. -/
structure Exact (config : SchedulerConfig) (base : List Event) (s : Scheduler) : Prop where
  counts : CountsRecords config s
  log : ∀ sent, .command sent ∈ s.log → .command sent ∈ base ∨ CountedWhenSent config sent

variable {base : List Event}

structure SameCounts (s t : Scheduler) : Prop where
  actual : t.actualLinks = s.actualLinks
  overlapping : t.overlapping = s.overlapping
  gs : t.gsActiveCount = s.gsActiveCount
  sat : t.satActiveCount = s.satActiveCount

theorem SameCounts.countsRecords (hsame : SameCounts s t) (h : CountsRecords config s) :
    CountsRecords config t := by
  unfold CountsRecords
  rw [hsame.actual, hsame.overlapping, hsame.gs, hsame.sat]
  exact h

/-- The state moved only by what commands and events leave: the commands were sent with the
counters it still has. -/
structure Quiet (s t : Scheduler) : Prop extends SameCounts s t where
  log : ∀ sent, .command sent ∈ t.log → .command sent ∈ s.log ∨
    (sent.heldActual = s.actualLinks ∧ sent.heldOverlapping = s.overlapping ∧
      sent.heldGsCount = s.gsActiveCount ∧ sent.heldSatCount = s.satActiveCount)

theorem quiet_of_log (hsame : SameCounts s t) (hlog : t.log = s.log) : Quiet s t :=
  ⟨hsame, fun _ hsent => .inl (hlog ▸ hsent)⟩

instance : Std.Refl Quiet := ⟨fun _ => quiet_of_log ⟨rfl, rfl, rfl, rfl⟩ rfl⟩

instance : IsTrans Scheduler Quiet where
  trans s t u hst htu := by
    refine ⟨⟨htu.actual.trans hst.actual, htu.overlapping.trans hst.overlapping,
      htu.gs.trans hst.gs, htu.sat.trans hst.sat⟩, fun sent hsent => ?_⟩
    rcases htu.log sent hsent with hold | ⟨hactual, hoverlapping, hgs, hsat⟩
    · exact hst.log sent hold
    · exact .inr ⟨hactual.trans hst.actual, hoverlapping.trans hst.overlapping, hgs.trans hst.gs,
        hsat.trans hst.sat⟩

theorem Exact.quiet (h : Exact config base s) (hquiet : Quiet s t) : Exact config base t where
  counts := hquiet.toSameCounts.countsRecords h.counts
  log sent hsent := by
    rcases hquiet.log sent hsent with hold | ⟨hactual, hoverlapping, hgs, hsat⟩
    · exact h.log sent hold
    · right
      rw [CountedWhenSent, hactual, hoverlapping, hgs, hsat]
      exact h.counts

theorem quiet_afterCommand : Quiet s (afterCommand env frame plan s) := by
  refine ⟨⟨rfl, rfl, rfl, rfl⟩, fun sent hsent => ?_⟩
  rcases List.mem_cons.mp hsent with heq | hold
  · obtain rfl := Event.command.inj heq
    exact .inr ⟨rfl, rfl, rfl, rfl⟩
  · exact .inl hold

theorem quiet_afterEvents {events : List Event} (h : ∀ sent, .command sent ∉ events) :
    Quiet s (afterEvents events s) := by
  refine ⟨⟨rfl, rfl, rfl, rfl⟩, fun sent hsent => .inl ?_⟩
  exact (List.mem_append.mp hsent).resolve_left (h sent)

theorem quiet_afterReading : Quiet s (afterReading env s) := by
  refine ⟨⟨rfl, rfl, rfl, rfl⟩, fun sent hsent => .inl ?_⟩
  exact (List.mem_cons.mp hsent).resolve_left nofun

theorem quiet_station {gsActuation : NodeId → GroundActuationState} :
    Quiet s { s with gsActuation } := quiet_of_log ⟨rfl, rfl, rfl, rfl⟩ rfl

/-! ### Passes -/

def Typed (desired : Dict Pair LinkInfo) (s : Scheduler) : Prop :=
  ∀ pair held want, record? s (.current pair) = some held → desired.get? pair = some want →
    want.linkType = held.linkType

def NamesFresh (desired : Dict Pair LinkInfo) (s : Scheduler) : Prop :=
  ∀ pair want contact, desired.get? pair = some want → want.contact = some contact →
    record? s (.overlap pair contact) = none

instance (desired : Dict Pair LinkInfo) (s : Scheduler) : Decidable (Typed desired s) :=
  decidable_of_iff (∀ entry ∈ desired.entries, ∀ held ∈ s.actualLinks.get? entry.1,
      entry.2.linkType = held.linkType)
    ⟨fun h pair held want hheld hwant => h (pair, want) (Dict.get?_eq_some_iff.mp hwant) held hheld,
      fun h entry hentry held hheld =>
        h entry.1 held entry.2 hheld (Dict.get?_eq_some_iff.mpr hentry)⟩

instance (desired : Dict Pair LinkInfo) (s : Scheduler) : Decidable (NamesFresh desired s) :=
  decidable_of_iff (∀ entry ∈ desired.entries, ∀ contact ∈ entry.2.contact,
      record? s (.overlap entry.1 contact) = none)
    ⟨fun h pair want contact hwant => h (pair, want) (Dict.get?_eq_some_iff.mp hwant) contact,
      fun h entry hentry contact =>
        h entry.1 entry.2 contact (Dict.get?_eq_some_iff.mpr hentry)⟩

def ContactsApart (s : Scheduler) : Prop :=
  ∀ pair held contact, record? s (.current pair) = some held → held.contact = some contact →
    record? s (.overlap pair contact) = none

variable {intent : DispatchIntent} {pass : PassPlan} {phase : Phase} {desired : Dict Pair LinkInfo}

/-- What the counters rest on during a pass. -/
structure Orderly (desired : Dict Pair LinkInfo) (s : Scheduler) : Prop where
  typed : Typed desired s
  fresh : NamesFresh desired s
  apart : ContactsApart s

theorem Exact.changed (h : Exact config base s) (hcounts : CountsRecords config t)
    (hlog : t.log = s.log) : Exact config base t := ⟨hcounts, by rw [hlog]; exact h.log⟩

theorem Exact.set (h : Exact config base s) (hheld : record? s key = some held)
    (htype : after.linkType = held.linkType) : Exact config base (setRecord key after s) := by
  refine h.changed (h.counts.congr (fun key' => ?_) ?_ ?_) log_setRecord
  · rw [record?_setRecord]
    split
    next heq => rw [heq, hheld, Option.map_some, Option.map_some, htype]
    next => rfl
  · cases key <;> rfl
  · cases key <;> rfl

theorem Exact.tornDown {reason : String} {losses : List LinkEndLoss} (h : Exact config base s)
    (hheld : record? s key = some info) :
    Exact config base (CloseRounds.tornDown config key info reason losses s) := by
  refine Exact.quiet (h.changed (h.counts.drop hheld) ?_) (quiet_afterEvents fun sent hsent => ?_)
  · rw [decrementActiveCounts, countLink_frame.2.2.1, log_dropRecord]
  · cases List.mem_singleton.mp hsent

theorem types_retimed (htyped : Typed desired s)
    (hheld : ∀ pair ∈ pairs, HeldOpen pair s ∧ pair ∈ desired)
    (hretimed : HoldsDesiredFor desired pairs s t) :
    ∀ key, (record? t key).map (fun info => info.linkType) =
      (record? s key).map fun info => info.linkType := by
  intro key
  cases key with
  | overlap pair contact =>
    rcases hretimed.record? (.overlap pair contact) with hsame | ⟨_, -, hkey, -⟩
    · rw [hsame]
    · cases hkey
  | current pair =>
    rw [hretimed.current]
    split
    next hpair =>
      obtain ⟨⟨held, hheld, -⟩, hdesired⟩ := hheld pair hpair
      obtain ⟨want, hwant⟩ := Dict.mem_iff.mp hdesired
      rw [hheld, hwant, Option.map_some, Option.map_some, Option.map_some]
      exact congrArg some (htyped pair held want hheld hwant)
    next => rfl

theorem Exact.retimed (h : Exact config base s) (htyped : Typed desired s)
    (hheld : ∀ pair ∈ pairs, HeldOpen pair s ∧ pair ∈ desired)
    (hretimed : HoldsDesiredFor desired pairs s t) : Exact config base t := by
  have hrecords := types_retimed htyped hheld hretimed
  obtain ⟨links, rfl, -⟩ := hretimed
  exact h.changed (h.counts.congr hrecords rfl rfl) rfl

def LocalsOpen (config : SchedulerConfig) (s : Scheduler) : Prop :=
  ∀ pair info, record? s (.current pair) = some info →
    config.longDelay pair = false → info.drain = none

/-- What holds during a pass: the pairs whose delays it changes stay open. -/
structure InPass (config : SchedulerConfig) (base : List Event) (intent : DispatchIntent)
    (pass : PassPlan) (s : Scheduler) : Prop where
  exact : Exact config base s
  orderly : Orderly intent.desired s
  locals : LocalsOpen config s
  retimed : ∀ phase : Phase, ∀ pair ∈ phase.retimes pass, HeldOpen pair s

def RetimesUntouched (config : SchedulerConfig) (intent : DispatchIntent) (pass : PassPlan) : Prop :=
  ∀ phase : Phase, ∀ pair ∈ phase.retimes pass, Untouched config pass pair ∧ pair ∈ intent.desired

theorem exact_of_effect (heffect : Effect config env intent pass phase s t)
    (hretimes : RetimesUntouched config intent pass) (h : InPass config base intent pass s) :
    Exact config base t := by
  obtain ⟨hexact, horderly, -, hopen⟩ := h
  cases heffect with
  | station => exact hexact.quiet quiet_station
  | losses => exact hexact.quiet (quiet_of_log ⟨rfl, rfl, rfl, rfl⟩ rfl)
  | reading => exact hexact.quiet quiet_afterReading
  | stopSent | proofSent | closeSent | prepareSent | openSent | latencySent | acquireSent =>
    exact hexact.quiet quiet_afterCommand
  | drained _ _ info _ _ _ _ _ _ hheld => exact hexact.set hheld rfl
  | shrunk _ _ info _ _ _ hheld => exact hexact.set hheld rfl
  | relocated _ pair =>
    exact hexact.changed (hexact.counts.relocate fun held contact => horderly.apart pair held contact)
      log_relocateContact
  | tornDown _ _ _ _ _ _ hheld => exact hexact.tornDown hheld
  | ended _ _ _ _ _ hheld => exact hexact.tornDown hheld
  | linkUps | localUps =>
    exact hexact.quiet (quiet_afterEvents command_notMem_linkUps)
  | latencyUpdates _ events hevents =>
    exact hexact.quiet (quiet_afterEvents (command_notMem_latencyUpdates hevents))
  | releaseSent _ pairs plan events _ _ hevents =>
    exact (hexact.quiet quiet_afterCommand).quiet
      (quiet_afterEvents (command_notMem_localDowns hevents))
  | removed => exact hexact.changed hexact.counts.removeAll log_removeAll
  | opened _ _ _ _ _ _ _ _ _ _ _ hclear =>
    refine hexact.changed (hexact.counts.add fun held hheld => ?_) log_addActual
    cases hclear.symm.trans hheld
  | added _ _ _ _ _ _ _ _ _ _ _ hclear =>
    refine hexact.changed (hexact.counts.add fun held hheld => ?_) log_addActual
    cases hclear.symm.trans hheld
  | retimed _ _ pairs hpairs hretimed =>
    exact hexact.retimed horderly.typed (fun pair hpair =>
      ⟨hopen _ pair (hpairs pair hpair), (hretimes _ pair (hpairs pair hpair)).2⟩) hretimed

theorem orderly_of_effect (heffect : Effect config env intent pass phase s t)
    (h : Orderly intent.desired s) : Orderly intent.desired t where
  typed pair held want hheld hwant := by
    cases heffect.came hheld with
    | kept before hbefore hdrains =>
      rw [hdrains.linkType]
      exact h.typed pair before want hbefore hwant
    | desired _ want' hkey hwant' _ hinfo =>
      obtain rfl := RecordKey.current.inj hkey
      rw [hinfo, Option.some.inj (hwant.symm.trans hwant')]
      rfl
    | aside _ _ hkey => cases hkey
  fresh pair want contact hwant hcontact := by
    by_contra hsome
    obtain ⟨info, hinfo⟩ := Option.ne_none_iff_exists'.mp hsome
    cases heffect.came hinfo with
    | kept before hbefore => cases (h.fresh pair want contact hwant hcontact).symm.trans hbefore
    | desired _ _ hkey => cases hkey
    | aside _ _ hkey _ _ _ _ hname hmoved =>
      cases hkey
      exact hmoved want hwant (hname.trans hcontact.symm)
  apart pair held contact hheld hcontact := by
    by_contra hsome
    obtain ⟨info, hinfo⟩ := Option.ne_none_iff_exists'.mp hsome
    cases heffect.came hinfo with
    | kept earlier hearlier =>
      cases heffect.came hheld with
      | kept before hbefore hdrains =>
        cases (h.apart pair before contact hbefore (hdrains.contact ▸ hcontact)).symm.trans hearlier
      | desired _ want hkey hwant _ hinfo =>
        obtain rfl := RecordKey.current.inj hkey
        rw [hinfo] at hcontact
        cases (h.fresh pair want contact hwant hcontact).symm.trans hearlier
      | aside _ _ hkey => cases hkey
    | desired _ _ hkey => cases hkey
    | aside _ _ hkey _ _ _ _ _ _ hgone =>
      cases hkey
      cases hgone.symm.trans hheld

theorem localsOpen_of_effect (heffect : Effect config env intent pass phase s t)
    (h : LocalsOpen config s) : LocalsOpen config t := by
  intro pair info hinfo hlocal
  cases heffect.came hinfo with
  | kept held hheld hdrains =>
    have hopen := h pair held hheld hlocal
    rw [hdrains.eq_of_local hlocal hopen]
    exact hopen
  | desired _ want _ _ _ hinfo =>
    rw [hinfo]
    rfl
  | aside _ _ hkey => cases hkey

theorem inPass_of_effect (hretimes : RetimesUntouched config intent pass)
    (heffect : Effect config env intent pass phase s t)
    (h : InPass config base intent pass s) : InPass config base intent pass t where
  exact := exact_of_effect heffect hretimes h
  orderly := orderly_of_effect heffect h.orderly
  locals := localsOpen_of_effect heffect h.locals
  retimed phase pair hpair := by
    obtain ⟨huntouched, hdesired⟩ := hretimes phase pair hpair
    exact heldOpen_of_effect huntouched hdesired heffect (h.retimed phase pair hpair)

/-- What holds between passes. -/
structure Sound (config : SchedulerConfig) (base : List Event) (s : Scheduler) : Prop where
  exact : Exact config base s
  apart : ContactsApart s
  locals : LocalsOpen config s

theorem Sound.quiet (h : Sound config base s) (hquiet : Quiet s t) : Sound config base t := by
  have hkey : ∀ key, record? t key = record? s key := fun _ =>
    record?_congr hquiet.actual hquiet.overlapping
  refine ⟨h.exact.quiet hquiet, fun pair held contact hheld hcontact => ?_,
    fun pair info hinfo => h.locals pair info (hkey _ ▸ hinfo)⟩
  rw [hkey]
  exact h.apart pair held contact (hkey _ ▸ hheld) hcontact

theorem Sound.begin (h : Sound config base s) : Sound config base (turn.begin config s) := by
  refine ⟨h.exact.changed ?_ log_begin, fun pair held contact hheld hcontact => ?_,
    fun pair info hinfo => h.locals pair info (record?_begin ▸ hinfo)⟩
  · unfold Turn.begin
    split
    · exact countsRecords_rebaseline
    · exact h.exact.counts
  · rw [record?_begin] at hheld ⊢
    exact h.apart pair held contact hheld hcontact

theorem sound_refreshed (h : Sound config base s) : Sound config base (refreshed desired s) := by
  have hcurrent : ∀ pair info, record? (refreshed desired s) (.current pair) = some info →
      ∃ held, record? s (.current pair) = some held ∧ info.contact = held.contact ∧
        info.drain = held.drain := by
    intro pair info hinfo
    obtain ⟨held, hheld, _, _, _, rfl⟩ := record?_refreshed hinfo
    exact ⟨held, hheld, rfl, rfl⟩
  have htypes : ∀ key, (record? (refreshed desired s) key).map (fun info => info.linkType) =
      (record? s key).map fun info => info.linkType := fun _ => map_record?_refreshed fun _ _ _ _ => rfl
  refine ⟨h.exact.changed (h.exact.counts.congr htypes rfl rfl) rfl,
    fun pair info contact hinfo hcontact => ?_, fun pair info hinfo hlocal => ?_⟩
  · obtain ⟨held, hheld, hsame, -⟩ := hcurrent pair info hinfo
    exact h.apart pair held contact hheld (hsame ▸ hcontact)
  · obtain ⟨held, hheld, -, hsame⟩ := hcurrent pair info hinfo
    exact hsame.trans (h.locals pair held hheld hlocal)

theorem retimesUntouched_passOf {plan : LongDelayPlan} {nowMono : ℚ}
    (hplan : planned config intent s = .ok plan) :
    RetimesUntouched config intent (passOf config intent s plan nowMono) := by
  intro phase pair hpair
  cases phase with
  | contacts =>
    obtain ⟨huntouched, -, hdesired⟩ := untouched_of_mem_latency hplan hpair
    exact ⟨huntouched, hdesired⟩
  | locals =>
    obtain ⟨hlocal, hheld, hdesired⟩ := of_mem_toUpdateLatency (mem_filterBlocked_iff.mp hpair).1
    exact ⟨untouched_of_local hplan hlocal hheld hdesired, hdesired⟩

theorem heldOpen_plannedState {plan : LongDelayPlan} (hplan : planned config intent s = .ok plan)
    (h : LocalsOpen config s) {nowMono : ℚ} (phase : Phase)
    (hpair : pair ∈ phase.retimes (passOf config intent s plan nowMono)) :
    HeldOpen pair (plannedState env intent s) := by
  have hopen : HeldOpen pair s := by
    cases phase with
    | contacts =>
      have huntouched : Untouched config (passOf config intent s plan 0) pair ∧ HeldOpen pair s ∧
          pair ∈ intent.desired := untouched_of_mem_latency hplan hpair
      exact huntouched.2.1
    | locals =>
      obtain ⟨hlocal, hheld, -⟩ := of_mem_toUpdateLatency (mem_filterBlocked_iff.mp hpair).1
      obtain ⟨info, hinfo⟩ := Dict.mem_iff.mp hheld
      exact ⟨info, hinfo, h pair info hinfo hlocal⟩
  obtain ⟨info, hinfo, hdrain⟩ := hopen
  obtain ⟨_, _, _, hrefreshed⟩ := exists_record?_plannedState env intent hinfo
  exact ⟨_, hrefreshed, hdrain⟩

theorem inPass_plannedState {plan : LongDelayPlan} (hplan : planned config intent s = .ok plan)
    (htyped : Typed intent.desired s) (hfresh : NamesFresh intent.desired s)
    (h : Sound config base s) :
    InPass config base intent (passOf config intent s plan (env.clock s.readings))
      (plannedState env intent s) := by
  have hplanned : Sound config base (plannedState env intent s) :=
    sound_refreshed ((h.quiet quiet_station).quiet quiet_afterReading)
  refine ⟨hplanned.exact, ⟨fun pair info want hinfo hwant => ?_, fun pair want contact hwant hcontact =>
    hfresh pair want contact hwant hcontact, hplanned.apart⟩, hplanned.locals,
    fun phase _ hpair => heldOpen_plannedState hplan h.locals phase hpair⟩
  obtain ⟨held, hheld, _, _, _, rfl⟩ := record?_refreshed hinfo
  rw [record?_afterReading, verifiedState, record?_station] at hheld
  exact htyped pair held want hheld hwant

theorem wp_runTurn_sound (htyped : Typed turn.intent.desired s)
    (hfresh : NamesFresh turn.intent.desired s) (h : Sound config base s) :
    wp (runTurn config turn) s (fun _ => Sound config base) (fun _ => Sound config base) := by
  have hbegin : Sound config base (turn.begin config s) := h.begin
  have htyped' : Typed turn.intent.desired (turn.begin config s) := fun pair held want hheld =>
    htyped pair held want (record?_begin ▸ hheld)
  have hfresh' : NamesFresh turn.intent.desired (turn.begin config s) :=
    fun pair want contact hwant hcontact => record?_begin.trans (hfresh pair want contact hwant hcontact)
  refine wp_runTurn_reaches (hbegin.quiet quiet_station) fun plan t hplan hreaches => ?_
  have hinpass := hreaches.invariant (fun _ _ _ heffect =>
    inPass_of_effect (retimesUntouched_passOf hplan) heffect)
    (inPass_plannedState hplan htyped' hfresh' hbegin)
  exact ⟨hinpass.exact, hinpass.orderly.apart, hinpass.locals⟩

/-! ### Commands outside passes -/

theorem quiet_sendCommand :
    Within Quiet (sendCommand config env frame plan) := fun _ => quiet_afterCommand

theorem quiet_publish {event : Event} (h : ∀ sent, event ≠ .command sent) :
    Within Quiet (publish event) := fun s => by
  have hnone : ∀ sent, .command sent ∉ [event] := fun sent hsent =>
    h sent (List.mem_singleton.mp hsent).symm
  exact quiet_afterEvents hnone

theorem quiet_handleActuationResult : Within Quiet (handleActuationResult result id) := fun _ =>
  wp_handleActuationResult (fun _ _ => quiet_station) fun _ => Std.Refl.refl _

theorem quiet_sendBatchDown {links : Dict Pair ActiveLinkInfo} {down : DownStage}
    : Within Quiet (sendBatchDown config env links pairs down) := by
  refine within_bind within_lift fun plan => within_bind quiet_sendCommand fun result =>
    within_bind (within_forM fun pair _ => ?_) fun _ => within_pure
  cases links.get? pair with
  | none => exact within_pure
  | some info => exact within_when fun _ => within_bind within_get fun _ => quiet_publish nofun

theorem quiet_sendBatchUp {simTime : ℚ} {desired : Dict Pair LinkInfo} :
    Within Quiet (sendBatchUp config env simTime desired pairs) := by
  refine within_bind (within_forM fun pair _ => within_bind within_lift fun _ => within_lift)
    fun _ => within_bind within_lift fun plan => within_bind quiet_sendCommand fun result =>
    within_bind (within_forM fun pair _ => ?_) fun _ => within_pure
  exact within_bind within_lift fun _ => within_bind within_require fun _ => quiet_publish nofun

theorem quiet_sendKernelInventory {expectedUp expectedDown : Dict Pair ActiveLinkInfo} :
    Within Quiet (sendKernelInventory config env gsId expectedUp expectedDown) := by
  refine within_bind within_lift fun inventory s => ?_
  simp only [wp_bind, wp_get, wp_set, wp_pure]
  refine ⟨⟨rfl, rfl, rfl, rfl⟩, fun sent hsent => ?_⟩
  rcases List.mem_cons.mp hsent with heq | hsent
  · obtain rfl := Event.command.inj heq
    exact .inr ⟨rfl, rfl, rfl, rfl⟩
  · rcases List.mem_cons.mp hsent with heq | hsent
    · obtain rfl := Event.command.inj heq
      exact .inr ⟨rfl, rfl, rfl, rfl⟩
    · exact .inl hsent

/-! ### Repairs -/

def QuietRepair (r r' : Recovery) : Prop := Quiet r.scheduler r'.scheduler

instance : Std.Refl QuietRepair := ⟨fun r => Std.Refl.refl r.scheduler⟩

instance : IsTrans Recovery QuietRepair where
  trans r r' r'' h h' := IsTrans.trans (r := Quiet) r.scheduler r'.scheduler r''.scheduler h h'

theorem quiet_onScheduler {α : Type} {m : SchedulerM α} (h : Within Quiet m) :
    Within QuietRepair (onScheduler m) := fun r => wp_onScheduler.mpr (h r.scheduler)

theorem scheduler_rememberAll {actual : Recovery → Dict Pair ActiveLinkInfo}
    {affected : NodeId → List Pair} {stations : List NodeId} : (stations.foldl (fun r gsId =>
      rememberNonclean config (actual r) (views gsId) gsId (affected gsId) r) r).scheduler =
        r.scheduler := by
  induction stations generalizing r with
  | nil => rfl
  | cons gsId stations ih => rw [List.foldl_cons, ih]; rfl

theorem quiet_handleRepairResult
    : Within QuietRepair (handleRepairResult config views id result) := by
  refine within_bind (quiet_onScheduler quiet_handleActuationResult) fun _ =>
    within_modify fun r => ?_
  change Quiet r.scheduler _
  rw [scheduler_rememberAll]
  exact Std.Refl.refl r.scheduler

theorem quiet_requireProof : Within QuietRepair (order.requireProof config result) :=
  within_when fun _ => within_bind within_get fun _ => within_bind
    (within_modify fun _ => quiet_station) fun _ => within_throw

theorem Quiet.noNewRecords (h : Quiet s t) : NoNewRecords s t := fun _ _ hinfo =>
  (record?_congr h.actual h.overlapping) ▸ hinfo

theorem Sound.removeAll (h : Sound config base s) :
    Sound config base (LocalLinks.removeAll config pairs s) := by
  have hold : NoNewRecords s (LocalLinks.removeAll config pairs s) := noNewRecords_removeAll
  exact ⟨h.exact.changed h.exact.counts.removeAll log_removeAll,
    fun pair held contact hheld hcontact =>
      hold.none (h.apart pair held contact (hold _ _ hheld) hcontact),
    fun pair info hinfo => h.locals pair info (hold _ _ hinfo)⟩

theorem wp_repairTeardown_sound {teardown : Dict Pair ActiveLinkInfo}
    (h : Sound config base r.scheduler) : wp (repairTeardown config env order teardown) r
      (fun _ t => Sound config base t.scheduler ∧ NoNewRecords r.scheduler t.scheduler ∧
        ∀ pair ∈ teardown.keys, record? t.scheduler (.current pair) = none)
      (fun _ t => Sound config base t.scheduler) := by
  have hsent : ∀ down : ActuationResult, Within QuietRepair (do
      let r ← get
      handleRepairResult config (order.viewsNow r) (some order.interventionId) down) := fun down =>
    within_bind within_get fun _ => quiet_handleRepairResult
  rw [repairTeardown, wp_bind, wp_get, wp_bind]
  refine wp_mono (quiet_onScheduler quiet_sendBatchDown r) (fun down t ht => ?_)
    fun _ _ ht => h.quiet ht
  rw [← bind_assoc, wp_bind]
  refine wp_mono (hsent down t) (fun _ u hu => ?_) fun _ _ hu => h.quiet (IsTrans.trans _ _ _ ht hu)
  have hu' : Quiet r.scheduler u.scheduler := IsTrans.trans _ _ _ ht hu
  rw [wp_bind, wp_onScheduler, wp_forM_modify, wp_bind, wp_require]
  have hremoved : Sound config base (LocalLinks.removeAll config (sortedSet down.succeededPairs)
      u.scheduler) := (h.quiet hu').removeAll
  refine ⟨fun hall => ?_, fun _ => hremoved⟩
  have hrest : Within QuietRepair (do
      let proven ← onScheduler (sendKernelInventory config env order.gsId ∅ teardown)
      order.requireProof config proven) :=
    within_bind (quiet_onScheduler quiet_sendKernelInventory) fun _ => quiet_requireProof
  refine hrest.wp _ (fun _ v hv => ⟨hremoved.quiet hv, fun key info hinfo => ?_, fun pair hpair => ?_⟩)
    fun _ v hv => hremoved.quiet hv
  · exact hu'.noNewRecords key info
      (noNewRecords_removeAll key info (Quiet.noNewRecords hv key info hinfo))
  · refine NoNewRecords.none (Quiet.noNewRecords hv) ?_
    change record? (LocalLinks.removeAll config _ _) (.current pair) = none
    rw [record?_removeAll, if_pos]
    exact List.mem_map_of_mem (mem_sortedSet.mpr (hall pair hpair))

theorem Sound.add (h : Sound config base s)
    (hclear : ∀ held, record? s (.current pair) = some held → held.linkType ≠ .ground)
    (hfresh : ∀ contact, link.contact = some contact → record? s (.overlap pair contact) = none) :
    Sound config base (addActual config pair link s) := by
  have hoverlap : ∀ other contact, record? (addActual config pair link s) (.overlap other contact) =
      record? s (.overlap other contact) := fun _ _ => by rw [record?_addActual, if_neg nofun]
  have hcurrent : ∀ other held, record? (addActual config pair link s) (.current other) = some held →
      (other = pair ∧ held = link.activate) ∨ record? s (.current other) = some held := by
    intro other held hheld
    rw [record?_addActual] at hheld
    split at hheld
    next heq => exact .inl ⟨RecordKey.current.inj heq, (Option.some.inj hheld).symm⟩
    next => exact .inr hheld
  refine ⟨h.exact.changed (h.exact.counts.add hclear) log_addActual,
    fun other held contact hheld hcontact => ?_, fun other held hheld hlocal => ?_⟩
  · rw [hoverlap]
    rcases hcurrent other held hheld with ⟨rfl, rfl⟩ | hold
    · exact hfresh contact hcontact
    · exact h.apart other held contact hold hcontact
  · rcases hcurrent other held hheld with ⟨-, rfl⟩ | hold
    · rfl
    · exact h.locals other held hold hlocal

theorem wp_repairRewire_sound (h : Sound config base r.scheduler)
    (hfresh : NamesFresh authority r.scheduler)
    (hclear : ∀ pair ∈ authority, ∀ held, record? r.scheduler (.current pair) = some held →
      held.linkType ≠ .ground) : wp (repairRewire config env order authority) r
      (fun _ t => Sound config base t.scheduler) (fun _ t => Sound config base t.scheduler) := by
  have hsent : ∀ up : ActuationResult, Within QuietRepair (do
      let r ← get
      handleRepairResult config (order.viewsNow r) (some order.interventionId) up) := fun up =>
    within_bind within_get fun _ => quiet_handleRepairResult
  rw [repairRewire, wp_bind]
  refine wp_mono (quiet_onScheduler quiet_sendBatchUp r) (fun up t ht => ?_)
    fun _ _ ht => h.quiet ht
  rw [← bind_assoc, wp_bind]
  refine wp_mono (hsent up t) (fun _ u hu => ?_) fun _ _ hu => h.quiet (IsTrans.trans _ _ _ ht hu)
  have hu' : Quiet r.scheduler u.scheduler := IsTrans.trans _ _ _ ht hu
  have hkey : ∀ key, record? u.scheduler key = record? r.scheduler key := fun _ =>
    record?_congr hu'.actual hu'.overlapping
  have hadds : wp (forM (sortedSet up.succeededPairs) fun pair => do
      let info ← lift (lookupDesired authority pair)
      modify (addActual config pair info)) u.scheduler
      (fun _ => Sound config base) (fun _ => Sound config base) := by
    refine wp_forM_pairs (fun _ => Sound config base) (sortedSet_nodup _)
      (fun pair _ => within_bind within_lift fun _ => within_modify fun _ _ hother => ?_)
      (fun _ pair v _ _ hsame hv => ?_) (h.quiet hu')
    · rw [record?_addActual, if_neg fun heq => hother (congrArg RecordKey.pair heq)]
    · rw [wp_bind, wp_lift]
      refine ⟨fun info hinfo => ?_, fun _ _ => hv⟩
      have hwant := lookupDesired_eq_ok_iff.mp hinfo
      refine hv.add (fun held hheld => ?_) fun contact hcontact => ?_
      · rw [hsame (.current pair) rfl, hkey] at hheld
        exact hclear pair (Dict.mem_of_get? hwant) held hheld
      · rw [hsame (.overlap pair contact) rfl, hkey]
        exact hfresh pair info contact hwant hcontact
  rw [wp_bind, wp_onScheduler]
  refine wp_mono hadds (fun _ v hv => ?_) fun _ _ hv => hv
  rw [wp_require]
  exact ⟨fun _ => hv, fun _ => hv⟩

theorem quiet_repairProof : Within QuietRepair (repairProof config env order authority) :=
  within_bind within_get fun _ => within_when fun _ => within_bind
    (quiet_onScheduler quiet_sendKernelInventory) fun _ => quiet_requireProof

theorem wp_repairStation_sound (h : Sound config base r.scheduler)
    (hfresh : NamesFresh (order.authority config) r.scheduler) :
    wp (repairStation config env order) r
      (fun _ t => Sound config base t.scheduler) (fun _ t => Sound config base t.scheduler) := by
  rw [repairStation, wp_bind, wp_modify, wp_bind, wp_get]
  generalize hmarked : setState order.gsId
    { state := order.state, activeInterventionId := some order.interventionId } r = marked
  have hquiet : Quiet r.scheduler marked.scheduler := hmarked ▸ quiet_station
  have hstart : Sound config base marked.scheduler := h.quiet hquiet
  have hdown : wp («when» ((order.teardown config marked).entries ≠ [])
      (repairTeardown config env order (order.teardown config marked))) marked
      (fun _ t => Sound config base t.scheduler ∧ NoNewRecords marked.scheduler t.scheduler ∧
        ∀ pair ∈ (order.teardown config marked).keys, record? t.scheduler (.current pair) = none)
      (fun _ t => Sound config base t.scheduler) := by
    rw [wp_when]
    refine ⟨fun _ => wp_repairTeardown_sound hstart, fun hempty => ⟨hstart, fun _ _ h => h,
      fun pair hpair => ?_⟩⟩
    rw [Dict.keys, not_ne_iff.mp hempty] at hpair
    cases hpair
  rw [wp_bind]
  refine wp_mono hdown ?_ fun _ _ ht => ht
  rintro _ t ⟨ht, hold, hgone⟩
  have hclear : ∀ pair ∈ order.authority config, ∀ held,
      record? t.scheduler (.current pair) = some held → held.linkType ≠ .ground := by
    intro pair hpair held hheld hground
    obtain ⟨want, hwant⟩ := Dict.mem_iff.mp hpair
    have hstation := (station_of_authority hwant).2
    have hmem : pair ∈ order.teardown config marked :=
      mem_teardown_of_actual (hold _ _ hheld) ⟨hground, hstation⟩
    cases (hgone pair hmem).symm.trans hheld
  have hfresh' : NamesFresh (order.authority config) t.scheduler :=
    fun pair want contact hwant hcontact =>
      hold.none (hquiet.noNewRecords.none (hfresh pair want contact hwant hcontact))
  have hup : wp («when» ((order.authority config).entries ≠ [])
      (repairRewire config env order (order.authority config))) t
      (fun _ u => Sound config base u.scheduler) (fun _ u => Sound config base u.scheduler) := by
    rw [wp_when]
    exact ⟨fun _ => wp_repairRewire_sound ht hfresh' hclear, fun _ => ht⟩
  rw [wp_bind]
  refine wp_mono hup (fun _ u hu => ?_) fun _ _ hu => hu
  rw [wp_bind]
  refine wp_mono (quiet_repairProof u) (fun _ v hv => ?_) fun _ _ hv => hu.quiet hv
  exact (hu.quiet hv).quiet quiet_station

/-! ### Runs -/

/-- A step of the Scheduler: a pass, the due proof of a station, or an operator's repair. -/
inductive SchedulerStep
  | trust (step : TrustStep)
  | repair (surroundings : Surroundings) (order : RepairOrder)

def take (config : SchedulerConfig) (l : Ledger) : SchedulerStep → Ledger
  | .trust step => ((takeStep config step).exec l).2
  | .repair surroundings order =>
      { l with recovery := runOperatorRepairLocked config surroundings order l.recovery }

/-- The desired links a step acts on keep the types of held links and name no contact that their
pair holds as an overlapping one. -/
def WellNamed (config : SchedulerConfig) (l : Ledger) : SchedulerStep → Prop
  | .trust (.verify _ _) => True
  | .trust (.pass turn _) =>
      Typed turn.intent.desired l.recovery.scheduler ∧
        NamesFresh turn.intent.desired l.recovery.scheduler
  | .repair _ order => NamesFresh (order.authority config) l.recovery.scheduler

/-- A Scheduler starts with nothing, or with the contacts it adopts from the agents. -/
def Started (config : SchedulerConfig) (start : Scheduler) : Prop :=
  start = freshScheduler ∨ ∃ surroundings adopted,
    (LongDelayAdoption.adoptLongDelayState config surroundings).exec freshScheduler =
      (.ok adopted, start)

def ledgerOf (start : Scheduler) : Ledger :=
  { freshLedger with recovery := { freshLedger.recovery with scheduler := start } }

theorem countsRecords_adopted (s : Scheduler) :
    wp (LongDelayAdoption.adoptLongDelayState config env) s
      (fun _ => CountsRecords config) (fun _ _ => True) := by
  rw [LongDelayAdoption.adoptLongDelayState, wp_bind]
  refine wp_of_forall (fun fixed t => ?_) fun _ _ => trivial
  rw [wp_bind]
  refine wp_of_forall (fun ground u => ?_) fun _ _ => trivial
  rw [wp_bind, wp_modify, wp_bind]
  refine wp_of_forall (fun _ v => ?_) fun _ _ => trivial
  rw [wp_bind, wp_modify, wp_pure]
  exact countsRecords_rebaseline

theorem countsRecords_fresh : CountsRecords config freshScheduler := by
  refine ⟨fun node => ?_, fun node => ?_⟩ <;> split_ifs <;> rfl

theorem sound_of_started {start : Scheduler} (h : Started config start) :
    Sound config start.log start := by
  have hnone : ∀ key, record? freshScheduler key = none := fun key => by cases key <;> rfl
  rcases h with rfl | ⟨env, adopted, hexec⟩
  · refine ⟨⟨countsRecords_fresh, fun _ hsent => .inl hsent⟩, fun pair held contact hheld => ?_,
      fun pair info hinfo => ?_⟩
    · cases (hnone _).symm.trans hheld
    · cases (hnone _).symm.trans hinfo
  · have hcounts : CountsRecords config start :=
      (wp_of_exec_ok hexec).mp (countsRecords_adopted freshScheduler)
    have hadopted := (wp_of_exec_ok hexec).mp (LongDelayAdoption.wp_adoptLongDelayState hnone)
    refine ⟨⟨hcounts, fun _ hsent => .inl hsent⟩, fun pair held contact hheld hcontact =>
      hadopted.apart pair contact held hheld hcontact, fun pair info hinfo hlocal => ?_⟩
    exact absurd (hadopted.longDelay _ _ hinfo) (by simp [hlocal, RecordKey.pair])

theorem quiet_verify : Within QuietRepair (verifyGsAgainstCurrentAuthority config env gsId) := by
  have hclean : Within QuietRepair (markGsClean config gsId) := within_modify fun _ => quiet_station
  refine within_bind within_get fun r => ?_
  dsimp only
  split_ifs
  · exact hclean
  · refine within_bind (quiet_onScheduler quiet_sendKernelInventory) fun result => ?_
    split_ifs
    · exact within_modify fun _ => quiet_station
    · exact within_modify fun _ => quiet_station
    · exact hclean

theorem wp_takeStep_sound {step : TrustStep} (hnamed : WellNamed config l (.trust step))
    (h : Sound config base l.recovery.scheduler) :
    wp (takeStep config step) l (fun _ t => Sound config base t.recovery.scheduler)
      (fun _ t => Sound config base t.recovery.scheduler) := by
  cases step with
  | verify gsId env =>
    simp only [takeStep, wp_bind, wp_get, wp_when, wp_onRecovery, wp_modify]
    refine ⟨fun _ => ?_, fun _ => h⟩
    refine wp_mono (quiet_verify l.recovery) (fun _ r hr => ?_) fun _ r hr => h.quiet hr
    change Sound config base (settled gsId { l with recovery := r }).recovery.scheduler
    rw [recovery_settled]
    exact h.quiet hr
  | pass turn views =>
    simp only [takeStep, wp_bind, wp_get, wp_onRecovery, wp_onScheduler, wp_modify]
    have hturn : wp (runTurn config (startedFrom l.recovery turn)) l.recovery.scheduler
        (fun _ => Sound config base) (fun _ => Sound config base) :=
      wp_runTurn_sound hnamed.1 hnamed.2 h
    refine wp_mono hturn (fun _ t ht => ?_) fun _ t ht => ht
    rw [scheduler_notes]
    exact ht

theorem sound_take {step : SchedulerStep} (hnamed : WellNamed config l step)
    (h : Sound config base l.recovery.scheduler) :
    Sound config base (take config l step).recovery.scheduler := by
  cases step with
  | trust step => exact wp_exec (wp_takeStep_sound hnamed h)
  | repair env order =>
    have hrepair : wp (repairStation config env order) l.recovery
        (fun _ t => Sound config base t.scheduler) (fun _ t => Sound config base t.scheduler) :=
      wp_repairStation_sound h hnamed
    change Sound config base
      (runOperatorRepairLocked config env order l.recovery).scheduler
    unfold runOperatorRepairLocked
    rcases hexec : (repairStation config env order).exec l.recovery with ⟨_ | _, t⟩
    · have ht := (wp_of_exec_error hexec).mp hrepair
      exact ht.quiet quiet_station
    · exact (wp_of_exec_ok hexec).mp hrepair

def EndOfHeld (s : Scheduler) (node : NodeId) : Prop :=
  ∃ key info, record? s key = some info ∧ info.linkType = .ground ∧
    (key.pair.1 = node ∨ key.pair.2 = node)

theorem heldAt_pos (h : EndOfHeld s node) : 0 < heldAt s node := by
  obtain ⟨key, info, hinfo, hground, hend⟩ := h
  have hdrop := weighed_dropRecord (endsAt node) hinfo
  have hends : 0 < endsAt node key.pair info.linkType := by
    rw [endsAt, if_pos hground]
    rcases hend with heq | heq <;> simp [heq]
  rw [heldAt]
  omega

/-- The counters of a state: they count the held records, counting anew changes none of them, a
record that is let go meets no zero, and every command since was sent with exact counters. -/
structure ExactCounters (config : SchedulerConfig) (base : List Event) (s : Scheduler) : Prop where
  counts : CountsRecords config s
  rebaseline : rebaselineActiveCounts config s = s
  stations : ∀ node ∈ config.gsCapacities, EndOfHeld s node → 0 < s.gsActiveCount node
  satellites : ∀ node ∈ config.satCapacities, node ∉ config.gsCapacities → EndOfHeld s node →
    0 < s.satActiveCount node
  sent : ∀ sent, .command sent ∈ s.log → .command sent ∈ base ∨ CountedWhenSent config sent

theorem Exact.exactCounters (h : Exact config base s) : ExactCounters config base s where
  counts := h.counts
  rebaseline := h.counts.rebaseline_eq
  stations node hnode hend := by
    rw [h.counts.gs node, if_pos hnode]
    exact heldAt_pos hend
  satellites node hnode hstation hend := by
    rw [h.counts.sat node, if_pos ⟨hstation, hnode⟩]
    exact heldAt_pos hend
  sent := h.log

/-- After any run of passes, proofs and repairs on well named desired links, the counters are the
counts of the held records. -/
theorem counters_count_records (config : SchedulerConfig) (start : Scheduler)
    (hstart : Started config start) (steps : List SchedulerStep)
    (hnamed : HoldsAlong (take config) (WellNamed config) (ledgerOf start) steps) :
    ExactCounters config start.log
      (steps.foldl (take config) (ledgerOf start)).recovery.scheduler := by
  have hsound := hnamed.invariant
    (I := fun l => Sound config start.log l.recovery.scheduler)
    (fun _ _ hstep h => sound_take hstep h) (sound_of_started hstart)
  exact hsound.exact.exactCounters

/-! ### A contact named twice -/

/-- A station and a satellite of four terminals each, a long delay apart. -/
def deepSession : SchedulerConfig :=
  { CleanFailures.passSession with
    gsCapacities := .ofList [("gs1", 4)]
    satCapacities := .ofList [("sat1", 4)]
    longDelayBoundsS := .ofList [(("gs1", "sat1"), 1000)]
    interfaceRates := [("gs1", "term0"), ("gs1", "term1"), ("gs1", "term2"), ("gs1", "term3"),
      ("sat1", "gnd0"), ("sat1", "gnd1"), ("sat1", "gnd2"), ("sat1", "gnd3")] }

/-- The link on a terminal of each end, a light time of a thousand seconds long. -/
def deepLink (objectId : Nat) (terminals : String × String) (openedAt : Int) : LinkInfo :=
  { rangedLink with
    objectId, interfaceA := terminals.1, interfaceB := terminals.2
    latencyAToBMs := 1000000, latencyBToAMs := 1000000, rangeKm := some 299792458
    contact := some { epochId := 0, openedAt } }

def passToward (info : LinkInfo) : SchedulerStep :=
  .trust (settledPass (.ofList [(("gs1", "sat1"), info)]) fun _ => false)

/-- The contact moves from terminal to terminal; its names are given. -/
def moves (names : Int × Int × Int × Int) : List SchedulerStep :=
  [passToward (deepLink 1 ("term0", "gnd0") names.1),
    passToward (deepLink 2 ("term1", "gnd1") names.2.1),
    passToward (deepLink 3 ("term2", "gnd2") names.2.2.1),
    passToward (deepLink 4 ("term3", "gnd3") names.2.2.2)]

def countedAfter (config : SchedulerConfig) (steps : List SchedulerStep) : Scheduler :=
  (steps.foldl (take config) (ledgerOf freshScheduler)).recovery.scheduler

/-- The link becomes one between satellites while its delay is updated. -/
def retyped : List SchedulerStep :=
  [passToward rangedLink, passToward { rangedLink with linkType := .isl, latencyAToBMs := 4 }]

theorem not_exactCounters {base : List Event} (hnode : node ∈ config.gsCapacities)
    (h : s.gsActiveCount node ≠ recordsAt s.actualLinks s.overlapping node) :
    ¬ ExactCounters config base s := by
  intro hexact
  have hcounts : CountsRecords config s := hexact.counts
  exact h ((hcounts.gs node).trans (if_pos hnode))

/-- The third pass names the first contact again while it still drains; the fourth relocates it onto
the draining record, and a counted record is lost.  A held link that is desired with another type
is counted no longer by its records, but still by the counters. -/
theorem reused_name_drifts :
    (∃ (start : Scheduler) (steps : List SchedulerStep), Started deepSession start ∧
      ¬ ExactCounters deepSession start.log
        (steps.foldl (take deepSession) (ledgerOf start)).recovery.scheduler) ∧
    ¬ ExactCounters repairSession [] (countedAfter repairSession retyped) := by
  refine ⟨⟨freshScheduler, moves (1, 2, 1, 3), .inl rfl, ?_⟩, ?_⟩
  · have hstation : "gs1" ∈ deepSession.gsCapacities := by decide +kernel
    exact not_exactCounters (s := countedAfter deepSession (moves (1, 2, 1, 3))) hstation
      (by decide +kernel)
  · have hstation : "gs1" ∈ repairSession.gsCapacities := by decide +kernel
    exact not_exactCounters hstation (by decide +kernel)

/-- With a new name for every contact the same moves are counted. -/
theorem fresh_names_count :
    (countedAfter deepSession (moves (1, 2, 3, 4))).gsActiveCount "gs1" = 4 ∧
      ExactCounters deepSession [] (countedAfter deepSession (moves (1, 2, 3, 4))) := by
  refine ⟨by decide +kernel, ?_⟩
  exact counters_count_records deepSession freshScheduler (.inl rfl) (moves (1, 2, 3, 4))
    ⟨⟨by decide +kernel, by decide +kernel⟩, ⟨by decide +kernel, by decide +kernel⟩,
      ⟨by decide +kernel, by decide +kernel⟩, ⟨by decide +kernel, by decide +kernel⟩, trivial⟩

end NodalArc.ActiveCounters
