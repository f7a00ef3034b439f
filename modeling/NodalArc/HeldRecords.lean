import NodalArc.CommandVerdict
import NodalArc.Reconcile

/-! The Scheduler's records under one view, by key, and what the elementary effects of a pass do
to them. -/

namespace NodalArc.HeldRecords

open OrderedDict
open GroundPolicy
open LinkRecord
open NodeAgentBatches
open DispatchActuator
open Reconcile

/-- The record under a key: a pair's current contact or an earlier one still draining. -/
def record? (s : Scheduler) : RecordKey → Option ActiveLinkInfo
  | .current pair => s.actualLinks.get? pair
  | .overlap pair contact => s.overlapping.get? (pair, contact)

variable {config : SchedulerConfig} {env : Surroundings} {s t : Scheduler}
    {key key' : RecordKey} {pair : Pair} {info : ActiveLinkInfo}

theorem record?_congr (hactual : t.actualLinks = s.actualLinks)
    (hoverlap : t.overlapping = s.overlapping) : record? t key = record? s key := by
  cases key with
  | current pair => exact congrArg (·.get? pair) hactual
  | overlap pair contact => exact congrArg (·.get? (pair, contact)) hoverlap

@[simp] theorem record?_station {gsActuation : NodeId → GroundActuationState} :
    record? { s with gsActuation } key = record? s key := by
  cases key <;> rfl

@[simp] theorem record?_losses {stageLosses : Nat → Dict NodeId StageLoss} :
    record? { s with stageLosses } key = record? s key := by
  cases key <;> rfl

@[simp] theorem record?_setRecord :
    record? (setRecord key info s) key' = if key' = key then some info else record? s key' := by
  cases key <;> cases key' <;> simp [record?, setRecord]

@[simp] theorem record?_dropRecord :
    record? (dropRecord key s) key' = if key' = key then none else record? s key' := by
  cases key <;> cases key' <;> simp [record?, dropRecord]

/-! ### Counters do not touch the links -/

theorem countLink_eq (config : SchedulerConfig) (change : Nat → Nat) (pair : Pair)
    (link : LinkInfo) (s : Scheduler) : ∃ gsActiveCount satActiveCount,
      countLink config change pair link s = { s with gsActiveCount, satActiveCount } := by
  unfold countLink countEnd
  split_ifs <;> exact ⟨_, _, rfl⟩

theorem rebaselineActiveCounts_eq (config : SchedulerConfig) (s : Scheduler) :
    ∃ gsActiveCount satActiveCount,
      rebaselineActiveCounts config s = { s with gsActiveCount, satActiveCount } := by
  have hcount : ∀ (xs : List (Pair × ActiveLinkInfo)) (t : Scheduler),
      (∃ gsActiveCount satActiveCount, t = { s with gsActiveCount, satActiveCount }) →
      ∃ gsActiveCount satActiveCount, xs.foldl (fun s held =>
        incrementActiveCounts config held.1 held.2.toLinkInfo s) t =
          { s with gsActiveCount, satActiveCount } := by
    intro xs
    induction xs with
    | nil => exact fun t ht => ht
    | cons held xs ih =>
      rintro _ ⟨gs, sat, rfl⟩
      obtain ⟨gs', sat', heq⟩ := countLink_eq config (· + 1) held.1 held.2.toLinkInfo
        { s with gsActiveCount := gs, satActiveCount := sat }
      exact ih _ ⟨gs', sat', heq⟩
  exact hcount _ _ ⟨_, _, rfl⟩

variable {link : LinkInfo} {change : Nat → Nat} {desired : Dict Pair LinkInfo}

@[simp] theorem countLink_frame :
    (countLink config change pair link s).actualLinks = s.actualLinks ∧
    (countLink config change pair link s).overlapping = s.overlapping ∧
    (countLink config change pair link s).log = s.log ∧
    (countLink config change pair link s).stageLosses = s.stageLosses ∧
    (countLink config change pair link s).gsActuation = s.gsActuation := by
  obtain ⟨_, _, heq⟩ := countLink_eq config change pair link s
  simp [heq]

@[simp] theorem record?_countLink :
    record? (countLink config change pair link s) key = record? s key := by
  cases key <;> simp [record?]

@[simp] theorem log_setRecord : (setRecord key info s).log = s.log := by
  cases key <;> rfl

@[simp] theorem log_dropRecord : (dropRecord key s).log = s.log := by
  cases key <;> rfl

@[simp] theorem gsActuation_setRecord : (setRecord key info s).gsActuation = s.gsActuation := by
  cases key <;> rfl

@[simp] theorem gsActuation_dropRecord : (dropRecord key s).gsActuation = s.gsActuation := by
  cases key <;> rfl

@[simp] theorem stageLosses_setRecord : (setRecord key info s).stageLosses = s.stageLosses := by
  cases key <;> rfl

@[simp] theorem stageLosses_dropRecord : (dropRecord key s).stageLosses = s.stageLosses := by
  cases key <;> rfl

theorem record?_removeActual : record? (removeActual config pair s) key =
      if key = .current pair then none else record? s key := by
  unfold removeActual
  cases h : s.actualLinks.get? pair with
  | none =>
    by_cases hkey : key = .current pair
    · simp [hkey, record?, h]
    · simp [hkey]
  | some info =>
    simp only [decrementActiveCounts, record?_countLink]
    change record? (dropRecord (.current pair) s) key = _
    rw [record?_dropRecord]

theorem record?_addActual : record? (addActual config pair link s) key =
      if key = .current pair then some link.activate else record? s key := by
  simp only [addActual, incrementActiveCounts, record?_countLink]
  change record? (setRecord (.current pair) link.activate s) key = _
  rw [record?_setRecord]

@[simp] theorem log_removeActual : (removeActual config pair s).log = s.log := by
  unfold removeActual
  cases s.actualLinks.get? pair <;> simp [decrementActiveCounts]

@[simp] theorem log_addActual : (addActual config pair link s).log = s.log := by
  simp [addActual, incrementActiveCounts]

@[simp] theorem gsActuation_removeActual :
    (removeActual config pair s).gsActuation = s.gsActuation := by
  unfold removeActual
  cases s.actualLinks.get? pair <;> simp [decrementActiveCounts]

@[simp] theorem gsActuation_addActual :
    (addActual config pair link s).gsActuation = s.gsActuation := by
  simp [addActual, incrementActiveCounts]

theorem relocateContact_eq (pair : Pair) (s : Scheduler) : relocateContact pair s = s ∨
    ∃ held drain contact, record? s (.current pair) = some held ∧ held.drain = some drain ∧
      held.contact = some contact ∧ relocateContact pair s =
        dropRecord (.current pair) (setRecord (.overlap pair contact) held s) := by
  unfold relocateContact
  cases hheld : s.actualLinks.get? pair with
  | none => exact .inl rfl
  | some held =>
    dsimp only
    cases hdrain : held.drain with
    | none => exact .inl rfl
    | some drain =>
      cases hcontact : held.contact with
      | none => exact .inl rfl
      | some contact => exact .inr ⟨held, drain, contact, hheld, hdrain, hcontact, rfl⟩

@[simp] theorem gsActuation_relocateContact :
    (relocateContact pair s).gsActuation = s.gsActuation := by
  rcases relocateContact_eq pair s with heq | ⟨_, _, _, -, -, -, heq⟩
  · rw [heq]
  · rw [heq, gsActuation_dropRecord, gsActuation_setRecord]

@[simp] theorem log_relocateContact : (relocateContact pair s).log = s.log := by
  rcases relocateContact_eq pair s with heq | ⟨_, _, _, -, -, -, heq⟩
  · rw [heq]
  · rw [heq, log_dropRecord, log_setRecord]

theorem refreshAuthority_eq (desired : Dict Pair LinkInfo) (pair : Pair) (info : ActiveLinkInfo) :
    ∃ simTime source sequence, refreshAuthority desired pair info = { info with
        authoritySimTime := simTime, authoritySource := source, authoritySequence := sequence } := by
  unfold refreshAuthority
  cases desired.get? pair with
  | none => exact ⟨info.authoritySimTime, info.authoritySource, info.authoritySequence, rfl⟩
  | some wanted =>
    dsimp only
    cases wanted.authoritySimTime with
    | none => exact ⟨info.authoritySimTime, info.authoritySource, info.authoritySequence, rfl⟩
    | some wantedTime =>
      dsimp only
      split
      · exact ⟨info.authoritySimTime, info.authoritySource, info.authoritySequence, rfl⟩
      · exact ⟨_, _, _, rfl⟩

def refreshed (desired : Dict Pair LinkInfo) (s : Scheduler) : Scheduler :=
  { s with actualLinks := s.actualLinks.mapValues (refreshAuthority desired) }

theorem map_record?_refreshed {α : Type} {f : ActiveLinkInfo → α}
    (hf : ∀ (held : ActiveLinkInfo) simTime source sequence, f { held with
      authoritySimTime := simTime, authoritySource := source, authoritySequence := sequence } =
        f held) : (record? (refreshed desired s) key).map f = (record? s key).map f := by
  cases key with
  | overlap pair contact => rfl
  | current pair =>
    change ((s.actualLinks.mapValues (refreshAuthority desired)).get? pair).map f =
      (s.actualLinks.get? pair).map f
    rw [Dict.get?_mapValues, Option.map_map]
    refine congrArg (Option.map · _) (funext fun info => ?_)
    obtain ⟨simTime, source, sequence, heq⟩ := refreshAuthority_eq desired pair info
    rw [Function.comp_apply, heq, hf]

theorem record?_refreshed
    (h : record? (refreshed desired s) key = some info) : ∃ held, record? s key = some held ∧
      ∃ simTime source sequence, info = { held with
        authoritySimTime := simTime, authoritySource := source, authoritySequence := sequence } := by
  cases key with
  | overlap pair contact =>
    exact ⟨info, h, info.authoritySimTime, info.authoritySource, info.authoritySequence, rfl⟩
  | current pair =>
    rw [record?, refreshed, Dict.get?_mapValues] at h
    obtain ⟨held, hheld, rfl⟩ := Option.map_eq_some_iff.mp h
    exact ⟨held, hheld, refreshAuthority_eq desired pair held⟩

theorem exists_record?_refreshed
    (h : record? s (.current pair) = some info) : ∃ simTime source sequence,
      record? (refreshed desired s) (.current pair) = some { info with
        authoritySimTime := simTime, authoritySource := source, authoritySequence := sequence } := by
  obtain ⟨simTime, source, sequence, heq⟩ := refreshAuthority_eq desired pair info
  refine ⟨simTime, source, sequence, ?_⟩
  rw [record?, refreshed, Dict.get?_mapValues, show s.actualLinks.get? pair = some info from h,
    Option.map_some, heq]

/-! ### Records that satisfy a predicate -/

def RecordsIn (P : RecordKey → ActiveLinkInfo → Prop) (s : Scheduler) : Prop :=
  ∀ key info, record? s key = some info → P key info

section RecordsIn

variable {P : RecordKey → ActiveLinkInfo → Prop}

variable (h : RecordsIn P s)

include h

theorem RecordsIn.congr (hkey : ∀ key, record? t key = record? s key) : RecordsIn P t :=
  fun key info hinfo => h key info (hkey key ▸ hinfo)

theorem RecordsIn.update {now : Option ActiveLinkInfo}
    (hkey : ∀ key', record? t key' = if key' = key then now else record? s key')
    (hP : ∀ info, now = some info → P key info) : RecordsIn P t := by
  intro key' info hinfo
  rw [hkey] at hinfo
  split at hinfo
  · rename_i heq
    rw [heq]
    exact hP info hinfo
  · exact h key' info hinfo

theorem RecordsIn.set (hP : P key info) : RecordsIn P (setRecord key info s) :=
  h.update (fun _ => record?_setRecord) fun _ hinfo => Option.some.inj hinfo ▸ hP

theorem RecordsIn.drop : RecordsIn P (dropRecord key s) :=
  h.update (fun _ => record?_dropRecord) fun _ hinfo => nomatch hinfo

theorem RecordsIn.relocate
    (hP : ∀ held contact, P (.current pair) held → held.drain ≠ none → held.contact = some contact →
      P (.overlap pair contact) held) : RecordsIn P (relocateContact pair s) := by
  rcases relocateContact_eq pair s with heq | ⟨held, drain, contact, hheld, hdrain, hcontact, heq⟩
  · rw [heq]
    exact h
  · rw [heq]
    refine RecordsIn.drop (h.set (hP held contact (h _ held hheld) ?_ hcontact))
    rw [hdrain]
    exact Option.some_ne_none drain

end RecordsIn

end NodalArc.HeldRecords
