import NodalArc.IslScheduling
import NodalArc.StatefulProgram

/-! The names of long-delay contacts: what the events of a tick say of a contact's opening and what the
tracked contacts say, over any run of ticks. -/

namespace NodalArc.ContactNaming

open OrderedDict
open IslScheduling
open StatefulProgram

variable {Node Time : Type} [DecidableEq Node]

inductive SchedulingState
  | active | teardown
deriving DecidableEq, Repr

structure VisibilityEvent (Node Time : Type) where
  simTime : Time
  pair : Node × Node
  visible : Bool
  scheduled : Bool
  gsTerminalIndex : Option Nat
  satTerminalIndex : Option Nat
  schedulingState : SchedulingState
  contactOpenedAt : Option Time
deriving DecidableEq, Repr

/-- What a tick computes before its events: the feasibility of the fixed links and their schedule, the
visibility of the ground pairs and their allocation. -/
structure Tick (Node Time : Type) where
  simTime : Time
  feasibility : Dict (Node × Node) IslFeasibilityResult
  scheduledLinks : Dict (Node × Node) (ScheduledIsl Node)
  decisions : Dict (Node × Node) Bool
  associations : Dict (Node × Node) (Nat × Nat)
  pendingTeardowns : List (Node × Node)
  unscheduledPairs : List (Node × Node)
  /-- A fixed link joins satellites, a ground pair has a station. -/
  apart : ∀ pair ∈ feasibility, pair ∉ decisions

/-- A refusal of the event engine, or a lookup that fails. -/
inductive DiffError (Node : Type)
  | missingLink (pair : Node × Node)
  | notCapacity (pair : Node × Node)
  | unattributed (pair : Node × Node)
deriving DecidableEq, Repr

/-! ### Events from changed states -/

section Diff

variable {S V : Type} [DecidableEq S] (initial : S)
  (newState : Node × Node → V → Except (DiffError Node) S)
  (event : Node × Node → S → S → Except (DiffError Node) (VisibilityEvent Node Time))

/-- One pair of a tick: where its state changed, keep the new one and emit its event. -/
def diffPair (diff : Dict (Node × Node) S × List (VisibilityEvent Node Time)) (entry : (Node × Node) × V) :
    Except (DiffError Node) (Dict (Node × Node) S × List (VisibilityEvent Node Time)) := do
  let new ← newState entry.1 entry.2
  let previous := diff.1.getD entry.1 initial
  if new = previous then pure diff
  else
    let change ← event entry.1 previous new
    pure (diff.1.insert entry.1 new, diff.2 ++ [change])

def diffStates (entries : List ((Node × Node) × V)) (state : Dict (Node × Node) S) :
    Except (DiffError Node) (Dict (Node × Node) S × List (VisibilityEvent Node Time)) :=
  entries.foldlM (diffPair initial newState event) (state, [])

end Diff

variable (longDelayPairs : List (Node × Node))

def islState (tick : Tick Node Time) (pair : Node × Node) (result : IslFeasibilityResult) :
    Except (DiffError Node) (Bool × Bool) :=
  if result.feasible then
    match tick.scheduledLinks.get? pair with
    | some link => pure (true, link.scheduled)
    | none => throw (.missingLink pair)
  else pure (false, false)

def islEvent (tick : Tick Node Time) (pair : Node × Node) (_ : Bool × Bool) (new : Bool × Bool) :
    Except (DiffError Node) (VisibilityEvent Node Time) := do
  if new.1 ∧ ¬ new.2 ∧ (tick.scheduledLinks.get? pair).bind (·.unscheduledReason) ≠ some .capacity then
    throw (.notCapacity pair)
  pure
    { simTime := tick.simTime
      pair
      visible := new.1
      scheduled := new.2
      gsTerminalIndex := none
      satTerminalIndex := none
      schedulingState := .active
      contactOpenedAt := if new.1 ∧ new.2 ∧ pair ∈ longDelayPairs then some tick.simTime else none }

def diffIslVisibilityEvents (tick : Tick Node Time) (previousState : Dict (Node × Node) (Bool × Bool)) :
    Except (DiffError Node) (Dict (Node × Node) (Bool × Bool) × List (VisibilityEvent Node Time)) :=
  diffStates (false, false) (islState tick) (islEvent longDelayPairs tick) tick.feasibility.entries previousState

def groundState (tick : Tick Node Time) (pair : Node × Node) (visible : Bool) :
    Except (DiffError Node) (Bool × Bool × SchedulingState) :=
  pure (visible, if visible then pair ∈ tick.associations else false,
    if pair ∈ tick.pendingTeardowns then .teardown else .active)

def groundEvent (tick : Tick Node Time) (pair : Node × Node) (previous new : Bool × Bool × SchedulingState) :
    Except (DiffError Node) (VisibilityEvent Node Time) := do
  if new.1 ∧ ¬ new.2.1 ∧ pair ∉ tick.unscheduledPairs then throw (.unattributed pair)
  let opensContact := pair ∈ longDelayPairs ∧ new.1 ∧ new.2.1 ∧ ¬ (previous.1 ∧ previous.2.1)
  let indices := if new.2.1 then tick.associations.get? pair else none
  pure
    { simTime := tick.simTime
      pair
      visible := new.1
      scheduled := new.2.1
      gsTerminalIndex := indices.map Prod.fst
      satTerminalIndex := indices.map Prod.snd
      schedulingState := new.2.2
      contactOpenedAt := if opensContact then some tick.simTime else none }

def diffGroundVisibilityEvents (tick : Tick Node Time)
    (previousState : Dict (Node × Node) (Bool × Bool × SchedulingState)) :
    Except (DiffError Node)
      (Dict (Node × Node) (Bool × Bool × SchedulingState) × List (VisibilityEvent Node Time)) :=
  diffStates (false, false, .active) (groundState tick) (groundEvent longDelayPairs tick)
    tick.decisions.entries previousState

def trackLongDelayContacts (pairs : List (Node × Node)) (up : Node × Node → Bool) (simTime : Time)
    (contacts : Dict (Node × Node) Time) : Dict (Node × Node) Time :=
  pairs.foldl (fun contacts pair =>
    if up pair then (if pair ∈ contacts then contacts else contacts.insert pair simTime)
    else contacts.erase pair) contacts

/-- The long-delay links of a session: fixed ones, and ground pairs. -/
structure StepContext (Node : Type) where
  longDelayPairs : List (Node × Node)
  longDelayAccessPairs : List (Node × Node)

/-- What an epoch carries from tick to tick. -/
structure EpochState (Node Time : Type) where
  isl : Dict (Node × Node) (Bool × Bool)
  ground : Dict (Node × Node) (Bool × Bool × SchedulingState)
  contacts : Dict (Node × Node) Time

/-- The part of a tick that emits events and names contacts. -/
def computeStep (ctx : StepContext Node) (state : EpochState Node Time) (tick : Tick Node Time) :
    Except (DiffError Node) (EpochState Node Time × List (VisibilityEvent Node Time)) := do
  let isl ← diffIslVisibilityEvents ctx.longDelayPairs tick state.isl
  let contacts := trackLongDelayContacts ctx.longDelayPairs (fun pair => isl.1.get? pair = some (true, true))
    tick.simTime state.contacts
  let ground ← diffGroundVisibilityEvents ctx.longDelayAccessPairs tick state.ground
  let contacts := trackLongDelayContacts ctx.longDelayAccessPairs
    (fun pair => (ground.1.getD pair (false, false, .active)).1 ∧
      (ground.1.getD pair (false, false, .active)).2.1) tick.simTime contacts
  pure (⟨isl.1, ground.1, contacts⟩, isl.2 ++ ground.2)

/-- The ticks of an epoch, from its empty state; with the events of the last one. -/
def runTicks (ctx : StepContext Node) (ticks : List (Tick Node Time)) :
    Except (DiffError Node) (EpochState Node Time × List (VisibilityEvent Node Time)) :=
  ticks.foldlM (fun step tick => computeStep ctx step.1 tick) (⟨∅, ∅, ∅⟩, [])

/-! ### What the names should be -/

def islUp (tick : Tick Node Time) (pair : Node × Node) : Prop :=
  (tick.feasibility.get? pair).any (·.feasible) = true ∧ (tick.scheduledLinks.get? pair).any (·.scheduled) = true

def groundUp (tick : Tick Node Time) (pair : Node × Node) : Prop :=
  tick.decisions.get? pair = some true ∧ pair ∈ tick.associations

def Up (tick : Tick Node Time) (pair : Node × Node) : Prop := islUp tick pair ∨ groundUp tick pair

instance (tick : Tick Node Time) (pair : Node × Node) : Decidable (Up tick pair) :=
  inferInstanceAs (Decidable ((_ ∧ _) ∨ (_ ∧ _)))

def LastUp (ticks : List (Tick Node Time)) (pair : Node × Node) : Prop :=
  ∃ before tick, ticks = before ++ [tick] ∧ Up tick pair

/-- At that time, the latest before which it was not, the pair came up, and it has been up since. -/
def OpenedAt (ticks : List (Tick Node Time)) (pair : Node × Node) (time : Time) : Prop :=
  ∃ before opening after, ticks = before ++ opening :: after ∧ opening.simTime = time ∧
    ¬ LastUp before pair ∧ Up opening pair ∧ ∀ tick ∈ after, Up tick pair

/-- Every tick evaluates every long-delay link. -/
structure Covers (ctx : StepContext Node) (tick : Tick Node Time) : Prop where
  fixed : ∀ pair ∈ ctx.longDelayPairs, pair ∈ tick.feasibility
  access : ∀ pair ∈ ctx.longDelayAccessPairs, pair ∈ tick.decisions

/-! ### The events of one pair -/

section Diff

variable {S V : Type} [DecidableEq S] {initial : S}
  {newState : Node × Node → V → Except (DiffError Node) S}
  {event : Node × Node → S → S → Except (DiffError Node) (VisibilityEvent Node Time)}
  {entries : List ((Node × Node) × V)} {state state' : Dict (Node × Node) S}
  {events : List (VisibilityEvent Node Time)} {pair : Node × Node}

/-- The event a pair is given for the change of its state. -/
structure Changed (event : Node × Node → S → S → Except (DiffError Node) (VisibilityEvent Node Time))
    (pair : Node × Node) (previous new : S) (events : List (VisibilityEvent Node Time)) : Prop where
  same : new = previous → ∀ e ∈ events, e.pair ≠ pair
  change : new ≠ previous → ∃ e ∈ events, event pair previous new = .ok e ∧
    ∀ e' ∈ events, e'.pair = pair → e' = e

theorem diffStates_concat {last : (Node × Node) × V} :
    diffStates initial newState event (entries ++ [last]) state =
      diffStates initial newState event entries state >>= fun diff => diffPair initial newState event diff last := by
  rw [diffStates, List.foldlM_append]
  simp [diffStates]

theorem diffPair_ok {diff diff' : Dict (Node × Node) S × List (VisibilityEvent Node Time)} {last : (Node × Node) × V}
    (h : diffPair initial newState event diff last = .ok diff') :
    ∃ new, newState last.1 last.2 = .ok new ∧
      (new = diff.1.getD last.1 initial ∧ diff' = diff ∨ new ≠ diff.1.getD last.1 initial ∧
        ∃ e, event last.1 (diff.1.getD last.1 initial) new = .ok e ∧
          diff' = (diff.1.insert last.1 new, diff.2 ++ [e])) := by
  obtain ⟨new, hnew, h⟩ := bind_eq_ok_iff.mp h
  refine ⟨new, hnew, ?_⟩
  dsimp only at h
  split_ifs at h with hsame
  · exact .inl ⟨hsame, (Except.ok.inj h).symm⟩
  · obtain ⟨e, he, h⟩ := bind_eq_ok_iff.mp h
    exact .inr ⟨hsame, e, he, (Except.ok.inj h).symm⟩

theorem diffStates_spec (pair : Node × Node) (hkeys : (entries.map Prod.fst).Nodup)
    (hevent : ∀ {pair previous new e}, event pair previous new = .ok e → e.pair = pair)
    (h : diffStates initial newState event entries state = .ok (state', events)) :
    (pair ∉ entries.map Prod.fst → state'.get? pair = state.get? pair ∧ ∀ e ∈ events, e.pair ≠ pair) ∧
      ∀ v, (pair, v) ∈ entries → ∃ new, newState pair v = .ok new ∧ state'.getD pair initial = new ∧
        Changed event pair (state.getD pair initial) new events := by
  induction entries using List.reverseRecOn generalizing state' events with
  | nil =>
    obtain ⟨rfl, rfl⟩ := Prod.mk.inj (Except.ok.inj h)
    exact ⟨fun _ => ⟨rfl, fun e he => nomatch he⟩, fun v hv => nomatch hv⟩
  | append_singleton entries last ih =>
    rw [diffStates_concat] at h
    rw [List.map_append, List.nodup_append] at hkeys
    obtain ⟨hkeys, -, hnew⟩ := hkeys
    have hfresh : last.1 ∉ entries.map Prod.fst := fun hmem => hnew _ hmem _ List.mem_cons_self rfl
    obtain ⟨diff, hdiff, h⟩ := bind_eq_ok_iff.mp h
    obtain ⟨ihother, ihown⟩ := ih hkeys hdiff
    obtain ⟨new, hstate, hcases⟩ := diffPair_ok h
    by_cases hlast : pair = last.1
    · -- the pair of the last entry has no event and its old state so far
      subst hlast
      obtain ⟨hget, hnone⟩ := ihother hfresh
      refine ⟨fun hmem => (hmem (by simp)).elim, fun v hv => ?_⟩
      obtain rfl : v = last.2 := by
        rcases List.mem_append.mp hv with hv | hv
        · exact absurd (List.mem_map.mpr ⟨_, hv, rfl⟩) hfresh
        · exact congrArg Prod.snd (List.mem_singleton.mp hv)
      rw [Dict.getD, hget, ← Dict.getD] at hcases
      rcases hcases with ⟨hsame, heq⟩ | ⟨hne, e, he, heq⟩ <;> obtain ⟨rfl, rfl⟩ := Prod.mk.inj heq
      · refine ⟨new, hstate, ?_, fun _ => hnone, fun h => absurd hsame h⟩
        rw [Dict.getD, hget, ← Dict.getD, hsame]
      · refine ⟨new, hstate, by simp [Dict.getD], fun h => absurd h hne, fun _ => ⟨e, by simp, he, ?_⟩⟩
        intro e' he' hpair
        rcases List.mem_append.mp he' with he' | he'
        · exact absurd hpair (hnone e' he')
        · exact List.mem_singleton.mp he'
    · have hkept : state'.get? pair = diff.1.get? pair ∧
          ∀ e, e.pair = pair → (e ∈ events ↔ e ∈ diff.2) := by
        rcases hcases with ⟨-, heq⟩ | ⟨-, e, he, heq⟩ <;> obtain ⟨rfl, rfl⟩ := Prod.mk.inj heq
        · exact ⟨rfl, fun _ _ => Iff.rfl⟩
        · refine ⟨by rw [Dict.get?_insert, if_neg hlast], fun e' he' => ?_⟩
          have hne : e' ≠ e := by
            rintro rfl
            exact hlast (he'.symm.trans (hevent he))
          simp [hne]
      obtain ⟨hget, hmem⟩ := hkept
      refine ⟨fun hpair => ?_, fun v hv => ?_⟩
      · obtain ⟨hget', hnone⟩ := ihother fun hmem' => hpair (by simp [List.mem_map.mp hmem'])
        exact ⟨hget.trans hget', fun e he heq => hnone e ((hmem e heq).mp he) heq⟩
      · obtain ⟨new', hstate', hget', hchanged⟩ := ihown v ((List.mem_append.mp hv).resolve_right fun hv =>
          hlast (congrArg Prod.fst (List.mem_singleton.mp hv)))
        refine ⟨new', hstate', by rw [Dict.getD, hget, ← Dict.getD, hget'], ?_, fun hne => ?_⟩
        · exact fun hsame e he heq => hchanged.same hsame e ((hmem e heq).mp he) heq
        · obtain ⟨e, he, hok, hone⟩ := hchanged.change hne
          exact ⟨e, (hmem e (hevent hok)).mpr he, hok, fun e' he' heq => hone e' ((hmem e' heq).mp he') heq⟩

end Diff

theorem islEvent_ok {tick : Tick Node Time} {pair : Node × Node} {previous new : Bool × Bool}
    {e : VisibilityEvent Node Time} (h : islEvent longDelayPairs tick pair previous new = .ok e) :
    e.pair = pair ∧ e.contactOpenedAt =
      if new = (true, true) ∧ pair ∈ longDelayPairs then some tick.simTime else none := by
  unfold islEvent at h
  simp only [bind, Except.bind] at h
  split at h
  · cases h
  · obtain rfl := Except.ok.inj h
    obtain ⟨a, b⟩ := new
    exact ⟨rfl, if_congr (by simp [and_assoc]) rfl rfl⟩

theorem groundEvent_ok {tick : Tick Node Time} {pair : Node × Node}
    {previous new : Bool × Bool × SchedulingState} {e : VisibilityEvent Node Time}
    (h : groundEvent longDelayPairs tick pair previous new = .ok e) :
    e.pair = pair ∧ e.contactOpenedAt =
      if pair ∈ longDelayPairs ∧ new.1 ∧ new.2.1 ∧ ¬ (previous.1 ∧ previous.2.1) then some tick.simTime
      else none := by
  unfold groundEvent at h
  simp only [bind, Except.bind] at h
  split at h
  · cases h
  · obtain rfl := Except.ok.inj h
    exact ⟨rfl, if_congr (by simp) rfl rfl⟩

/-! ### Tracked contacts -/

theorem get?_trackLongDelayContacts {pairs : List (Node × Node)} {up : Node × Node → Bool} {simTime : Time}
    {contacts : Dict (Node × Node) Time} {pair : Node × Node} :
    (trackLongDelayContacts pairs up simTime contacts).get? pair =
      if pair ∈ pairs then if up pair then some ((contacts.get? pair).getD simTime) else none
      else contacts.get? pair := by
  induction pairs generalizing contacts with
  | nil => rfl
  | cons first pairs ih =>
    rw [trackLongDelayContacts, List.foldl_cons, ← trackLongDelayContacts, ih]
    by_cases hfirst : pair = first
    · subst hfirst
      cases hup : up pair with
      | false => simp
      | true =>
        by_cases hmem : pair ∈ contacts
        · obtain ⟨time, htime⟩ := Dict.mem_iff.mp hmem
          simp [hmem, htime]
        · simp [hmem, Dict.get?_eq_none_iff.mpr hmem]
    · have hget : ∀ contacts' : Dict (Node × Node) Time, contacts'.get? pair = contacts.get? pair →
          (if pair ∈ pairs then if up pair then some ((contacts'.get? pair).getD simTime) else none
            else contacts'.get? pair) =
          if pair ∈ first :: pairs then if up pair then some ((contacts.get? pair).getD simTime) else none
            else contacts.get? pair := by
        intro contacts' heq
        simp [heq, hfirst]
      refine hget _ ?_
      split
      · split
        · rfl
        · rw [Dict.get?_insert, if_neg hfirst]
      · rw [Dict.get?_erase, if_neg hfirst]

/-! ### The time of the opening -/

section Opening

variable {ticks : List (Tick Node Time)} {tick : Tick Node Time} {pair : Node × Node} {time : Time}

theorem lastUp_concat : LastUp (ticks ++ [tick]) pair ↔ Up tick pair := by
  constructor
  · rintro ⟨before, last, heq, hup⟩
    obtain ⟨-, heq⟩ := List.append_inj' heq rfl
    obtain rfl := List.singleton_inj.mp heq
    exact hup
  · exact fun hup => ⟨ticks, tick, rfl, hup⟩

theorem OpenedAt.lastUp (h : OpenedAt ticks pair time) : LastUp ticks pair := by
  obtain ⟨before, opening, after, rfl, -, -, hup, hsince⟩ := h
  rcases List.eq_nil_or_concat after with rfl | ⟨rest, last, rfl⟩
  · exact ⟨before, opening, rfl, hup⟩
  · exact ⟨before ++ opening :: rest, last, by simp, hsince last (by simp)⟩

theorem openedAt_concat : OpenedAt (ticks ++ [tick]) pair time ↔
    Up tick pair ∧ (OpenedAt ticks pair time ∨ ¬ LastUp ticks pair ∧ tick.simTime = time) := by
  constructor
  · rintro ⟨before, opening, after, heq, htime, hnot, hup, hsince⟩
    rcases List.eq_nil_or_concat after with rfl | ⟨rest, last, rfl⟩
    · obtain ⟨rfl, hlast⟩ := List.append_inj' heq rfl
      obtain rfl := List.singleton_inj.mp hlast
      exact ⟨hup, .inr ⟨hnot, htime⟩⟩
    · rw [List.concat_eq_append, ← List.cons_append, ← List.append_assoc] at heq
      obtain ⟨rfl, hlast⟩ := List.append_inj' heq rfl
      obtain rfl := List.singleton_inj.mp hlast
      exact ⟨hsince tick (by simp), .inl ⟨before, opening, rest, rfl, htime, hnot, hup,
        fun t ht => hsince t (by simp [ht])⟩⟩
  · rintro ⟨hup, ⟨before, opening, rest, rfl, htime, hnot, hup', hsince⟩ | ⟨hnot, htime⟩⟩
    · refine ⟨before, opening, rest ++ [tick], by simp, htime, hnot, hup', fun t ht => ?_⟩
      rcases List.mem_append.mp ht with ht | ht
      · exact hsince t ht
      · exact List.mem_singleton.mp ht ▸ hup
    · exact ⟨ticks, tick, [], rfl, htime, hnot, hup, fun t ht => nomatch ht⟩

end Opening

/-! ### A run of ticks -/

section Run

variable {ctx : StepContext Node} {ticks : List (Tick Node Time)} {tick : Tick Node Time}
  {state state' : EpochState Node Time} {events : List (VisibilityEvent Node Time)} {pair : Node × Node}

/-- The state of a pair as the diff of its kind keeps it says that it is up. -/
def KeptUp (ctx : StepContext Node) (state : EpochState Node Time) (pair : Node × Node) : Prop :=
  if pair ∈ ctx.longDelayPairs then state.isl.getD pair (false, false) = (true, true)
  else (state.ground.getD pair (false, false, .active)).1 = true ∧
    (state.ground.getD pair (false, false, .active)).2.1 = true

instance (state : EpochState Node Time) : Decidable (KeptUp ctx state pair) := by
  unfold KeptUp
  infer_instance

/-- What a tick does to one long-delay link. -/
structure Named (ctx : StepContext Node) (state state' : EpochState Node Time) (tick : Tick Node Time)
    (pair : Node × Node) (events : List (VisibilityEvent Node Time)) : Prop where
  kept : KeptUp ctx state' pair ↔ Up tick pair
  contacts : state'.contacts.get? pair =
    if Up tick pair then some ((state.contacts.get? pair).getD tick.simTime) else none
  opens : Up tick pair → ¬ KeptUp ctx state pair → ∃ e ∈ events, e.pair = pair
  named : ∀ e ∈ events, e.pair = pair → e.contactOpenedAt =
    if Up tick pair ∧ ¬ KeptUp ctx state pair then some tick.simTime else none

theorem computeStep_ok (h : computeStep ctx state tick = .ok (state', events)) :
    ∃ islEvents groundEvents,
      diffIslVisibilityEvents ctx.longDelayPairs tick state.isl = .ok (state'.isl, islEvents) ∧
      diffGroundVisibilityEvents ctx.longDelayAccessPairs tick state.ground = .ok (state'.ground, groundEvents) ∧
      events = islEvents ++ groundEvents ∧
      state'.contacts = trackLongDelayContacts ctx.longDelayAccessPairs
        (fun pair => (state'.ground.getD pair (false, false, .active)).1 ∧
          (state'.ground.getD pair (false, false, .active)).2.1) tick.simTime
        (trackLongDelayContacts ctx.longDelayPairs (fun pair => state'.isl.get? pair = some (true, true))
          tick.simTime state.contacts) := by
  obtain ⟨⟨isl, islEvents⟩, hisl, h⟩ := bind_eq_ok_iff.mp h
  obtain ⟨⟨ground, groundEvents⟩, hground, h⟩ := bind_eq_ok_iff.mp h
  obtain ⟨rfl, rfl⟩ := Prod.mk.inj (Except.ok.inj h)
  exact ⟨islEvents, groundEvents, hisl, hground, rfl, rfl⟩

theorem getD_eq_iff {d : Dict (Node × Node) (Bool × Bool)} :
    d.getD pair (false, false) = (true, true) ↔ d.get? pair = some (true, true) := by
  rw [Dict.getD]
  cases d.get? pair <;> simp

theorem islState_up {result : IslFeasibilityResult} {new : Bool × Bool}
    (hresult : tick.feasibility.get? pair = some result) (h : islState tick pair result = .ok new) :
    new = (true, true) ↔ islUp tick pair := by
  rw [islUp, hresult]
  unfold islState at h
  split_ifs at h with hfeasible
  · cases hlink : tick.scheduledLinks.get? pair with
    | none =>
      rw [hlink] at h
      cases h
    | some link =>
      rw [hlink] at h
      obtain rfl := Except.ok.inj h
      simp [hfeasible]
  · obtain rfl := Except.ok.inj h
    simp [hfeasible]

variable (h : computeStep ctx state tick = .ok (state', events)) (hcovers : Covers ctx tick)

include h hcovers

theorem named_fixed (hpair : pair ∈ ctx.longDelayPairs) :
    Named ctx state state' tick pair events := by
  obtain ⟨islEvents, groundEvents, hisl, hground, rfl, hcontacts⟩ := computeStep_ok h
  have hfeasible := hcovers.fixed pair hpair
  have hnot : pair ∉ tick.decisions := tick.apart pair hfeasible
  obtain ⟨result, hresult⟩ := Dict.mem_iff.mp hfeasible
  have hup : Up tick pair ↔ islUp tick pair :=
    or_iff_left fun hg => hnot (Dict.mem_of_get? hg.1)
  have hspec := diffStates_spec pair tick.feasibility.nodup
    (fun h => (islEvent_ok ctx.longDelayPairs h).1) hisl
  obtain ⟨new, hnew, hstate, hchanged⟩ := hspec.2 result (Dict.get?_eq_some_iff.mp hresult)
  have hnone := ((diffStates_spec pair tick.decisions.nodup
    (fun h => (groundEvent_ok ctx.longDelayAccessPairs h).1) hground).1 hnot).2
  have hevents : ∀ e ∈ islEvents ++ groundEvents, e.pair = pair → e ∈ islEvents := fun e he heq =>
    (List.mem_append.mp he).resolve_right fun he => hnone e he heq
  have hnewUp := islState_up hresult hnew
  have hkept : ∀ s : EpochState Node Time, KeptUp ctx s pair ↔ s.isl.getD pair (false, false) = (true, true) :=
    fun s => by rw [KeptUp, if_pos hpair]
  refine ⟨?_, ?_, fun h hk => ?_, fun e he heq => ?_⟩
  · rw [hkept, hstate, hup, hnewUp]
  · rw [hcontacts, get?_trackLongDelayContacts, if_neg fun ha => hnot (hcovers.access pair ha),
      get?_trackLongDelayContacts, if_pos hpair]
    refine if_congr ?_ rfl rfl
    rw [decide_eq_true_eq, ← getD_eq_iff, hstate, hup, hnewUp]
  · rw [hkept] at hk
    obtain ⟨e, he, hok, -⟩ := hchanged.change fun heq => hk (heq ▸ hnewUp.mpr (hup.mp h))
    exact ⟨e, List.mem_append_left _ he, (islEvent_ok _ hok).1⟩
  · have hmem := hevents e he heq
    have hne : new ≠ state.isl.getD pair (false, false) := fun hsame => hchanged.same hsame e hmem heq
    obtain ⟨e', -, hok, hone⟩ := hchanged.change hne
    rw [hone e hmem heq, (islEvent_ok _ hok).2]
    refine if_congr ?_ rfl rfl
    rw [hup, ← hnewUp, hkept, and_iff_left hpair]
    exact ⟨fun h => ⟨h, fun h' => hne (h.trans h'.symm)⟩, fun h => h.1⟩

theorem named_access
    (hpair : pair ∈ ctx.longDelayAccessPairs) : Named ctx state state' tick pair events := by
  obtain ⟨islEvents, groundEvents, hisl, hground, rfl, hcontacts⟩ := computeStep_ok h
  have hdecided := hcovers.access pair hpair
  have hnot : pair ∉ tick.feasibility := fun hf => tick.apart pair hf hdecided
  have hnotFixed : pair ∉ ctx.longDelayPairs := fun hf => hnot (hcovers.fixed pair hf)
  obtain ⟨visible, hvisible⟩ := Dict.mem_iff.mp hdecided
  have hup : Up tick pair ↔ groundUp tick pair := by
    refine or_iff_right fun hi => ?_
    rw [islUp, Dict.get?_eq_none_iff.mpr hnot] at hi
    cases hi.1
  have hspec := diffStates_spec pair tick.decisions.nodup
    (fun h => (groundEvent_ok ctx.longDelayAccessPairs h).1) hground
  obtain ⟨new, hnew, hstate, hchanged⟩ := hspec.2 visible (Dict.get?_eq_some_iff.mp hvisible)
  have hnone := ((diffStates_spec pair tick.feasibility.nodup
    (fun h => (islEvent_ok ctx.longDelayPairs h).1) hisl).1 hnot).2
  have hevents : ∀ e ∈ islEvents ++ groundEvents, e.pair = pair → e ∈ groundEvents := fun e he heq =>
    (List.mem_append.mp he).resolve_left fun he => hnone e he heq
  have hnewUp : (new.1 = true ∧ new.2.1 = true) ↔ groundUp tick pair := by
    obtain rfl := Except.ok.inj hnew
    rw [groundUp, hvisible]
    cases visible <;> simp
  have hkept : ∀ s : EpochState Node Time, KeptUp ctx s pair ↔
      (s.ground.getD pair (false, false, .active)).1 = true ∧
        (s.ground.getD pair (false, false, .active)).2.1 = true := fun s => by rw [KeptUp, if_neg hnotFixed]
  refine ⟨?_, ?_, fun h hk => ?_, fun e he heq => ?_⟩
  · rw [hkept, hstate, hup, hnewUp]
  · rw [hcontacts, get?_trackLongDelayContacts, if_pos hpair, get?_trackLongDelayContacts, if_neg hnotFixed]
    refine if_congr ?_ rfl rfl
    rw [decide_eq_true_eq, hstate, hup, hnewUp]
  · rw [hkept] at hk
    obtain ⟨e, he, hok, -⟩ := hchanged.change fun heq => hk (heq ▸ hnewUp.mpr (hup.mp h))
    exact ⟨e, List.mem_append_right _ he, (groundEvent_ok _ hok).1⟩
  · have hmem := hevents e he heq
    have hne : new ≠ state.ground.getD pair (false, false, .active) := fun hsame =>
      hchanged.same hsame e hmem heq
    obtain ⟨e', -, hok, hone⟩ := hchanged.change hne
    rw [hone e hmem heq, (groundEvent_ok _ hok).2]
    refine if_congr ?_ rfl rfl
    rw [hup, ← hnewUp, hkept, and_iff_right hpair, and_assoc]

def LongDelay (ctx : StepContext Node) (pair : Node × Node) : Prop :=
  pair ∈ ctx.longDelayPairs ∨ pair ∈ ctx.longDelayAccessPairs

theorem named_step (hpair : LongDelay ctx pair) : Named ctx state state' tick pair events :=
  hpair.elim (named_fixed h hcovers) (named_access h hcovers)

omit h hcovers

theorem runTicks_concat : runTicks ctx (ticks ++ [tick]) =
    runTicks ctx ticks >>= fun step => computeStep ctx step.1 tick := by
  rw [runTicks, List.foldlM_append]
  simp [runTicks]

/-- What the state carries of a long-delay link after a run of ticks. -/
structure Tracks (ctx : StepContext Node) (ticks : List (Tick Node Time)) (state : EpochState Node Time)
    (pair : Node × Node) : Prop where
  kept : KeptUp ctx state pair ↔ LastUp ticks pair
  opened : ∀ time, state.contacts.get? pair = some time ↔ OpenedAt ticks pair time
  held : pair ∈ state.contacts ↔ LastUp ticks pair

theorem Tracks.step (h : Tracks ctx ticks state pair) (hnamed : Named ctx state state' tick pair events) :
    Tracks ctx (ticks ++ [tick]) state' pair where
  kept := by rw [hnamed.kept, lastUp_concat]
  held := by
    rw [lastUp_concat, Dict.mem_iff, hnamed.contacts]
    split_ifs with hup
    · exact iff_of_true ⟨_, rfl⟩ hup
    · exact iff_of_false (by simp) hup
  opened := by
    intro time
    rw [openedAt_concat, hnamed.contacts]
    split_ifs with hup
    · rw [and_iff_right hup, ← h.opened, ← h.held, Dict.mem_iff]
      cases state.contacts.get? pair <;> simp
    · exact iff_of_false (by simp) fun h => hup h.1

theorem tracks_run {before : List (Tick Node Time)} (hpair : LongDelay ctx pair)
    (hcovers : ∀ tick ∈ before, Covers ctx tick) (h : runTicks ctx before = .ok (state, events)) :
    Tracks ctx before state pair := by
  induction before using List.reverseRecOn generalizing state events with
  | nil =>
    obtain ⟨rfl, rfl⟩ := Prod.mk.inj (Except.ok.inj h)
    have hnever : ¬ LastUp ([] : List (Tick Node Time)) pair := fun ⟨before, tick, heq, _⟩ =>
      List.append_ne_nil_of_right_ne_nil before (List.cons_ne_nil tick []) heq.symm
    refine ⟨iff_of_false ?_ hnever, fun time => iff_of_false (fun h => nomatch h) fun h => hnever h.lastUp,
      iff_of_false Dict.not_mem_empty hnever⟩
    rw [KeptUp]
    split_ifs <;> simp [Dict.getD]
  | append_singleton before tick ih =>
    rw [runTicks_concat] at h
    obtain ⟨step, hrun, h⟩ := bind_eq_ok_iff.mp h
    have hnamed := named_step h (hcovers tick (by simp)) hpair
    exact (ih (fun t ht => hcovers t (List.mem_append_left _ ht)) hrun).step hnamed

/-- At every tick of a run a long-delay link has an open contact when it is up, named by the time it
came up; the events of the tick name that time when the link comes up at it, and no time otherwise. -/
theorem contact_names_agree (before : List (Tick Node Time)) (tick : Tick Node Time) (hpair : LongDelay ctx pair)
    (hcovers : ∀ t ∈ before ++ [tick], Covers ctx t)
    (h : runTicks ctx (before ++ [tick]) = .ok (state, events)) :
    (pair ∈ state.contacts ↔ Up tick pair) ∧
      (∀ time, state.contacts.get? pair = some time ↔ OpenedAt (before ++ [tick]) pair time) ∧
      (Up tick pair ∧ ¬ LastUp before pair →
        (∃ e ∈ events, e.pair = pair) ∧ ∀ e ∈ events, e.pair = pair → e.contactOpenedAt = some tick.simTime) ∧
      (¬ (Up tick pair ∧ ¬ LastUp before pair) → ∀ e ∈ events, e.pair = pair → e.contactOpenedAt = none) := by
  have htracks := tracks_run hpair hcovers h
  rw [runTicks_concat] at h
  obtain ⟨step, hrun, h⟩ := bind_eq_ok_iff.mp h
  have hbefore := tracks_run hpair (fun t ht => hcovers t (List.mem_append_left _ ht)) hrun
  have hnamed := named_step h (hcovers tick (by simp)) hpair
  rw [← hbefore.kept]
  refine ⟨htracks.held.trans lastUp_concat, htracks.opened, fun ho => ⟨hnamed.opens ho.1 ho.2, ?_⟩, ?_⟩
  · intro e he heq
    rw [hnamed.named e he heq, if_pos ho]
  · intro hno e he heq
    rw [hnamed.named e he heq, if_neg hno]

end Run

/-- A station sees a satellite at the second tick and starts to tear the link down at the third. -/
def passTicks : List (Tick Nat Nat) :=
  let tick (simTime : Nat) (visible : Bool) (associations : Dict (Nat × Nat) (Nat × Nat))
      (teardowns : List (Nat × Nat)) : Tick Nat Nat :=
    ⟨simTime, ∅, ∅, Dict.ofList [((0, 7), visible)], associations, teardowns, [],
      fun _ h => absurd h Dict.not_mem_empty⟩
  [tick 10 false ∅ [], tick 20 true (Dict.ofList [((0, 7), (0, 0))]) [],
    tick 30 true (Dict.ofList [((0, 7), (0, 0))]) [(0, 7)]]

def oneAccess : StepContext Nat := ⟨[], [(0, 7)]⟩

theorem passTicks_named :
    ∃ state events, runTicks oneAccess passTicks = .ok (state, events) ∧ (0, 7) ∈ state.contacts ∧
      ∀ e ∈ events, e.pair = (0, 7) → e.contactOpenedAt = none := by
  obtain ⟨⟨state, events⟩, hrun⟩ : ∃ step, runTicks oneAccess passTicks = .ok step := ⟨_, rfl⟩
  have hcovers : ∀ tick ∈ passTicks, Covers oneAccess tick := by
    intro tick htick
    have hdecided : ∀ tick ∈ passTicks, (0, 7) ∈ tick.decisions := by decide
    refine ⟨fun _ h => (List.not_mem_nil h).elim, fun pair h => ?_⟩
    rw [List.mem_singleton.mp h]
    exact hdecided tick htick
  have hnames := contact_names_agree passTicks.dropLast (passTicks.get ⟨2, by decide⟩)
    (.inr List.mem_cons_self) hcovers hrun
  refine ⟨state, events, hrun, hnames.1.mpr (by decide), hnames.2.2.2 fun h => h.2 ?_⟩
  exact ⟨passTicks.take 1, passTicks.get ⟨1, by decide⟩, rfl, by decide⟩

end NodalArc.ContactNaming
