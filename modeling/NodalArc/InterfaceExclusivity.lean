import NodalArc.PassRefinement

/-! Interface exclusivity: a LinkUp is sent onto an interface only when no other pair's record
still uses it.  The planner's collision rule looks at releases the pass sends, so exclusivity
rests on those releases being acknowledged, unless a failure holds the acquire back. -/

namespace NodalArc.InterfaceExclusivity

open OrderedDict
open GroundPolicy
open LinkRecord
open ContactDrain
open DispatchPlanner
open Actuation
open NodeAgentBatches
open DispatchActuator
open CommandVerdict
open Reconcile
open HeldRecords
open CommandRules
open CloseRounds
open ContactPlan
open PlannedCloses
open PassPlanning
open PassEffects
open PassRefinement
open SchedulerRuns
open BatchEntries
open LocalLinks
open StatefulProgram
open StatefulProgram.Program

variable {drain : Drain} {event : Event} {want : LinkInfo} {pairs : List Pair} {pass : PassPlan}
  {phase : Phase} {reason : String}

/-! ### The property -/

/-- The terminals a record still uses: both ends while the link is up, the ends not yet closed
while it drains. -/
def usedTerminals (pair : Pair) (info : ActiveLinkInfo) : List Terminal :=
  match info.drain with
  | none => endTerminals pair info.toLinkInfo
  | some drain => drain.ends.map DrainingEnd.terminal

/-- A record of another pair uses a terminal. -/
def UsedByOther (actual : Dict Pair ActiveLinkInfo)
    (overlapping : Dict (Pair × Contact) ActiveLinkInfo) (pair : Pair) (terminal : Terminal) :
    Prop :=
  (∃ held ∈ actual.entries, held.1 ≠ pair ∧ terminal ∈ usedTerminals held.1 held.2) ∨
    ∃ held ∈ overlapping.entries, held.1.1 ≠ pair ∧ terminal ∈ usedTerminals held.1.1 held.2

instance (actual : Dict Pair ActiveLinkInfo)
    (overlapping : Dict (Pair × Contact) ActiveLinkInfo) (pair : Pair) (terminal : Terminal) :
    Decidable (UsedByOther actual overlapping pair terminal) :=
  inferInstanceAs (Decidable (_ ∨ _))

def Acquires (sent : SentCommand) (entry : Entry) : Prop :=
  sent.operation = .batchLinkUp ∧ (sent.stage = some .prepare ∨ entry.contactId = none)

instance (sent : SentCommand) (entry : Entry) : Decidable (Acquires sent entry) :=
  inferInstanceAs (Decidable (_ ∧ _))

/-- No entry of a command takes an interface another pair's record used when it was sent. -/
def ExclusiveCommand (sent : SentCommand) : Prop :=
  ∀ planned ∈ sent.plan, Acquires sent planned.2 → ∀ terminal ∈ planned.2.ends,
    ¬ UsedByOther sent.heldActual sent.heldOverlapping planned.2.pair terminal

instance (sent : SentCommand) : Decidable (ExclusiveCommand sent) :=
  inferInstanceAs (Decidable (∀ _ ∈ _, _))

def ExclusiveEvent : Event → Prop
  | .command sent => ExclusiveCommand sent
  | _ => True

instance : DecidablePred ExclusiveEvent := fun event =>
  match event with
  | .command sent => inferInstanceAs (Decidable (ExclusiveCommand sent))
  | .clockRead _ | .linkUp _ _ | .linkDown _ _ _ _ | .latencyUpdate _ =>
      inferInstanceAs (Decidable True)

def LogExclusive (log : List Event) : Prop := ∀ event ∈ log, ExclusiveEvent event

instance (log : List Event) : Decidable (LogExclusive log) :=
  inferInstanceAs (Decidable (∀ _ ∈ _, _))

def DesiredExclusive (desired : Dict Pair LinkInfo) : Prop :=
  ∀ x ∈ desired.entries, ∀ y ∈ desired.entries,
    ∀ terminal ∈ endTerminals x.1 x.2, terminal ∈ endTerminals y.1 y.2 → x.1 = y.1

instance (desired : Dict Pair LinkInfo) : Decidable (DesiredExclusive desired) :=
  inferInstanceAs (Decidable (∀ _ ∈ _, _))

/-! ### When it holds -/

/-- A record of another pair that uses a terminal a desired pair names. -/
structure Collision (s : Scheduler) (desired : Dict Pair LinkInfo) (pair : Pair) (key : RecordKey)
    (info : ActiveLinkInfo) : Prop where
  held : record? s key = some info
  other : key.pair ≠ pair
  shares : ∃ terminal ∈ wantedTerminals desired pair, terminal ∈ usedTerminals key.pair info

/-- The agents acknowledge the release of a record.  A fixed link's failed release stops the
dispatcher, so only a ground link's matters. -/
def Released (surroundings : Surroundings) (key : RecordKey) (info : ActiveLinkInfo) : Prop :=
  info.linkType = .ground → Acknowledges surroundings .batchLinkDown .close key.pair

def StationPasses (config : SchedulerConfig) (test : NodeId → Prop) (pair : Pair) : Prop :=
  ∀ gsId, gsIdForPair pair config.gsCapacities = some gsId → test gsId

structure Acquirable (config : SchedulerConfig) (intent : DispatchIntent) (s : Scheduler)
    (pair : Pair) : Prop where
  desired : pair ∈ intent.desired
  isLocal : config.longDelay pair = false
  absent : pair ∉ s.actualLinks
  dispatchable : StationPasses config
    (fun gsId => ¬ GroundActuationState.blocksUp (intent.verified gsId)) pair

structure Releasable (config : SchedulerConfig) (intent : DispatchIntent) (s : Scheduler)
    (pair : Pair) : Prop where
  undesired : pair ∉ intent.desired
  isLocal : config.longDelay pair = false
  held : pair ∈ s.actualLinks
  dispatchable : StationPasses config
    (fun gsId => ¬ GroundActuationState.blocksDown (intent.verified gsId)) pair

structure Openable (config : SchedulerConfig) (turn : Turn) (s : Scheduler) (pair : Pair) :
    Prop where
  isLongDelay : config.longDelay pair = true
  opens : ∃ decision, planPair turn.epochId turn.intent.downReasons pair
    (s.actualLinks.get? pair) (turn.intent.desired.get? pair) = .ok decision ∧
    decision.opens = true
  dispatchable : StationPasses config
    (fun gsId => ¬ GroundActuationState.blocksUp (turn.intent.verified gsId)) pair

/-- Every interface a pass takes is freed first: the other record on an interface an acquire names
is a local link the pass releases, and the agents acknowledge that release or its failure holds the
acquire back; the agents acknowledge the close of a contact on an interface another contact opens
on. -/
structure ReleasesFirst (config : SchedulerConfig) (turn : Turn) (s : Scheduler) : Prop where
  acquired : ∀ pair key info, Acquirable config turn.intent s pair →
    Collision s turn.intent.desired pair key info →
    key = .current key.pair ∧ Releasable config turn.intent s key.pair ∧
      (Released turn.surroundings key info ∨ HeldBack config pair key.pair)
  opened : ∀ pair key info, Openable config turn s pair →
    Collision s turn.intent.desired pair key info →
    config.longDelay key.pair = true → Released turn.surroundings key info

/-! ### The invariant of a pass -/

/-- A record's ends are its own terminals, only long-delay contacts drain, and an earlier contact
kept beside a pair's current one drains. -/
structure WellPlaced (config : SchedulerConfig) (key : RecordKey) (info : ActiveLinkInfo) :
    Prop where
  own : ∀ terminal ∈ usedTerminals key.pair info,
    terminal ∈ endTerminals key.pair info.toLinkInfo
  drains : info.drain ≠ none → config.longDelay key.pair = true
  overlap : key ≠ .current key.pair → info.drain ≠ none

/-- Where a record's terminals come from: a record the pass found, or the desired link. -/
def Origin (found : Scheduler) (desired : Dict Pair LinkInfo) (key : RecordKey)
    (info : ActiveLinkInfo) : Prop :=
  (∃ source before, record? found source = some before ∧ source.pair = key.pair ∧
    info.linkType = before.linkType ∧
    ∀ terminal ∈ usedTerminals key.pair info, terminal ∈ usedTerminals key.pair before) ∨
  ∀ terminal ∈ usedTerminals key.pair info, terminal ∈ wantedTerminals desired key.pair

/-- What holds throughout a pass that found the records of `found`. -/
structure Exclusive (config : SchedulerConfig) (found : Scheduler) (desired : Dict Pair LinkInfo)
    (s : Scheduler) : Prop where
  log : LogExclusive s.log
  placed : RecordsIn (WellPlaced config) s
  origin : RecordsIn (Origin found desired) s

variable {config : SchedulerConfig} {env : Surroundings} {found s t : Scheduler}
    {desired : Dict Pair LinkInfo} {key : RecordKey} {info held : ActiveLinkInfo} {pair : Pair}
    {intent : DispatchIntent} {plan : BatchPlan}

/-- A record that still uses some of the terminals it used, on the same link. -/
structure Narrowed (config : SchedulerConfig) (key : RecordKey) (held info : ActiveLinkInfo) :
    Prop where
  linkType : info.linkType = held.linkType
  ends : endTerminals key.pair info.toLinkInfo = endTerminals key.pair held.toLinkInfo
  used : ∀ terminal ∈ usedTerminals key.pair info, terminal ∈ usedTerminals key.pair held
  drains : info.drain ≠ none → held.drain = none → config.longDelay key.pair = true
  draining : held.drain ≠ none → info.drain ≠ none

theorem Narrowed.wellPlaced (h : Narrowed config key held info) (hheld : WellPlaced config key held) :
    WellPlaced config key info where
  own := fun terminal hterminal => h.ends ▸ hheld.own terminal (h.used terminal hterminal)
  drains := fun hdrain => by
    by_cases hopen : held.drain = none
    · exact h.drains hdrain hopen
    · exact hheld.drains hopen
  overlap := fun hkey => h.draining (hheld.overlap hkey)

theorem Narrowed.origin (h : Narrowed config key held info) (hheld : Origin found desired key held) :
    Origin found desired key info := by
  rcases hheld with ⟨source, before, hbefore, hpair, htype, hused⟩ | hwanted
  · exact .inl ⟨source, before, hbefore, hpair, h.linkType.trans htype,
      fun terminal hterminal => hused terminal (h.used terminal hterminal)⟩
  · exact .inr fun terminal hterminal => hwanted terminal (h.used terminal hterminal)

theorem wellPlaced_activate : WellPlaced config (.current pair) want.activate where
  own := fun _ h => h
  drains := fun h => absurd rfl h
  overlap := fun h => absurd rfl h

theorem origin_activate (hwant : desired.get? pair = some want) :
    Origin found desired (.current pair) want.activate := by
  refine .inr fun terminal hterminal => ?_
  rw [wantedTerminals, RecordKey.pair, hwant]
  exact hterminal

/-! ### Effects -/

theorem LogExclusive.append {events log : List Event} (h : LogExclusive log)
    (hevents : ∀ event ∈ events, ExclusiveEvent event) : LogExclusive (events ++ log) :=
  List.forall_mem_append.mpr ⟨hevents, h⟩

theorem exclusiveEvent_of_localDown {links : Dict Pair ActiveLinkInfo}
    (h : LocalDown links pairs event) : ExclusiveEvent event := by
  obtain ⟨_, -, _, _, _, -, -, rfl⟩ := h
  trivial

theorem exclusiveEvent_of_latencyUpdate (h : IsLatencyUpdate event) : ExclusiveEvent event := by
  obtain ⟨_, rfl⟩ := h
  trivial

theorem exclusiveCommand_of_ne {sent : SentCommand} (h : sent.operation ≠ .batchLinkUp) :
    ExclusiveCommand sent := fun _ _ hacquires => absurd hacquires.1 h

theorem terminals_startDrain {now : ℚ} (h : startDrain pair info now reason = .ok drain) :
    drain.ends.map DrainingEnd.terminal = endTerminals pair info.toLinkInfo := by
  obtain ⟨_, -, h⟩ := bind_eq_ok_iff.mp h
  obtain ⟨_, -, h⟩ := bind_eq_ok_iff.mp h
  rw [← Except.ok.inj h]
  rfl

theorem Narrowed.refl : Narrowed config key info info :=
  ⟨rfl, rfl, fun _ h => h, fun h h' => absurd h' h, fun h => h⟩

theorem narrowed_of_drains (h : Drains config key held info) : Narrowed config key held info := by
  cases h with
  | same => exact .refl
  | stopped now reason drain hlong hopen hstart =>
    refine ⟨rfl, rfl, fun terminal hterminal => ?_, fun _ _ => hlong, fun hdrain => absurd hopen hdrain⟩
    simp only [usedTerminals, hopen, terminals_startDrain hstart] at hterminal ⊢
    exact hterminal
  | shrunk drain left gone hdrain hleft =>
    refine ⟨rfl, rfl, fun terminal hterminal => ?_, fun _ hopen => ?_, fun _ => Option.some_ne_none left⟩
    · simp only [usedTerminals, hdrain, hleft] at hterminal ⊢
      exact (List.filter_sublist.map _).subset hterminal
    · cases hdrain.symm.trans hopen

theorem Narrowed.refreshed (h : record? (refreshed desired s) key = some info) :
    ∃ held, record? s key = some held ∧ Narrowed config key held info := by
  obtain ⟨held, hheld, _, _, _, rfl⟩ := record?_refreshed h
  exact ⟨held, hheld, rfl, rfl, fun _ h => h, fun h h' => absurd h' h, fun h => h⟩

theorem wellPlaced_of_effect (heffect : Effect config env intent pass phase s t)
    (h : RecordsIn (WellPlaced config) s) : RecordsIn (WellPlaced config) t := by
  intro key info hinfo
  cases heffect.came hinfo with
  | kept held hheld hdrains => exact (narrowed_of_drains hdrains).wellPlaced (h key held hheld)
  | desired pair want hkey _ _ hwant =>
    rw [hkey, hwant]
    exact wellPlaced_activate
  | aside pair contact hkey _ _ hheld hdrain =>
    rw [hkey]
    exact ⟨(h _ info hheld).own, (h _ info hheld).drains, fun _ => hdrain⟩

theorem origin_of_effect (heffect : Effect config env intent pass phase s t)
    (h : RecordsIn (Origin found intent.desired) s)
    : RecordsIn (Origin found intent.desired) t := by
  intro key info hinfo
  cases heffect.came hinfo with
  | kept held hheld hdrains => exact (narrowed_of_drains hdrains).origin (h key held hheld)
  | desired pair want hkey hwant _ hinfo =>
    rw [hkey, hinfo]
    exact origin_activate hwant
  | aside pair contact hkey _ _ hheld =>
    rw [hkey]
    exact h (.current pair) info hheld

theorem wellPlaced_refreshed (h : RecordsIn (WellPlaced config) s) :
    RecordsIn (WellPlaced config) (refreshed desired s) := by
  intro key info hinfo
  obtain ⟨held, hheld, hnarrow⟩ : ∃ held, record? s key = some held ∧
    Narrowed config key held info := Narrowed.refreshed hinfo
  exact hnarrow.wellPlaced (h key held hheld)

theorem Exclusive.refreshed (h : Exclusive config found desired s) :
    Exclusive config found desired (HeldRecords.refreshed desired s) := by
  refine ⟨h.log, wellPlaced_refreshed h.placed, fun key info hinfo => ?_⟩
  obtain ⟨held, hheld, hnarrow⟩ : ∃ held, record? s key = some held ∧
    Narrowed config key held info := Narrowed.refreshed hinfo
  exact hnarrow.origin (h.origin key held hheld)

theorem Exclusive.logged (h : Exclusive config found desired s) (hlog : LogExclusive t.log)
    (hkey : ∀ key, record? t key = record? s key) : Exclusive config found desired t where
  log := hlog
  placed := h.placed.congr hkey
  origin := h.origin.congr hkey

theorem LogExclusive.sent {frame : CommandFrame} (h : LogExclusive s.log)
    (hne : frame.operation ≠ .batchLinkUp) : LogExclusive (afterCommand env frame plan s).log :=
  List.forall_mem_cons.mpr ⟨exclusiveCommand_of_ne hne, h⟩

/-! ### Desired terminals -/

theorem wanted_injective (h : DesiredExclusive desired) {pair' : Pair} {terminal : Terminal}
    (hpair : terminal ∈ wantedTerminals desired pair)
    (hpair' : terminal ∈ wantedTerminals desired pair') : pair = pair' := by
  obtain ⟨x, hx, hpair⟩ := mem_wantedTerminals_iff.mp hpair
  obtain ⟨y, hy, hpair'⟩ := mem_wantedTerminals_iff.mp hpair'
  exact h (pair, x) (Dict.get?_eq_some_iff.mp hx) (pair', y) (Dict.get?_eq_some_iff.mp hy)
    terminal hpair hpair'

/-- No record of another pair uses a terminal the given pairs want. -/
def TerminalsFree (desired : Dict Pair LinkInfo) (pairs : List Pair) (s : Scheduler) : Prop :=
  ∀ pair ∈ pairs, ∀ terminal ∈ wantedTerminals desired pair, ∀ key info,
    record? s key = some info → key.pair ≠ pair → terminal ∉ usedTerminals key.pair info

theorem usedByOther_iff {terminal : Terminal} :
    UsedByOther s.actualLinks s.overlapping pair terminal ↔ ∃ key info,
      record? s key = some info ∧ key.pair ≠ pair ∧ terminal ∈ usedTerminals key.pair info := by
  constructor
  · rintro (⟨⟨p, info⟩, hmem, hne, hused⟩ | ⟨⟨⟨p, contact⟩, info⟩, hmem, hne, hused⟩)
    · exact ⟨.current p, info, Dict.get?_eq_some_iff.mpr hmem, hne, hused⟩
    · exact ⟨.overlap p contact, info, Dict.get?_eq_some_iff.mpr hmem, hne, hused⟩
  · rintro ⟨key, info, hinfo, hne, hused⟩
    cases key with
    | current p => exact .inl ⟨(p, info), Dict.get?_eq_some_iff.mp hinfo, hne, hused⟩
    | overlap p contact =>
      exact .inr ⟨((p, contact), info), Dict.get?_eq_some_iff.mp hinfo, hne, hused⟩

theorem exclusive_linkUp {stage : Stage}
    (hplan : buildLinkUpBatchPlan config env stage desired (sortedSet pairs) = .ok plan)
    (hfree : TerminalsFree desired pairs s) (frame : CommandFrame) (h : LogExclusive s.log) :
    LogExclusive (afterCommand env frame plan s).log := by
  refine List.forall_mem_cons.mpr ⟨?_, h⟩
  intro planned hplanned _ terminal hterminal hused
  obtain ⟨hpair, hwanted⟩ := wanted_of_linkUp hplan hplanned
  obtain ⟨key, info, hinfo, hne, hused⟩ := usedByOther_iff.mp hused
  exact hfree _ (mem_sortedSet.mp hpair) terminal (hwanted terminal hterminal) key info hinfo hne
    hused

theorem exclusive_restaged (frame : CommandFrame) (hstage : frame.stage ≠ some .prepare)
    (hcontact : ∀ planned ∈ plan, planned.2.contactId ≠ none) (h : LogExclusive s.log) :
    LogExclusive (afterCommand env frame (restageLinkUpPlan plan pairs) s).log := by
  refine List.forall_mem_cons.mpr ⟨?_, h⟩
  intro planned hplanned hacquires
  rcases hacquires.2 with hprepare | hnone
  · exact absurd hprepare hstage
  · exact absurd hnone (hcontact planned (List.mem_filter.mp hplanned).1)

theorem exclusive_linkUps (pairs : List Pair) (h : LogExclusive s.log) :
    LogExclusive (afterEvents (pairs.map (linkUpOf desired)) s).log := by
  refine h.append fun event hevent => ?_
  obtain ⟨pair, -, rfl⟩ := List.mem_map.mp hevent
  trivial

theorem Exclusive.collision {terminal : Terminal} (h : Exclusive config found desired s)
    (hdesired : DesiredExclusive desired) (hinfo : record? s key = some info)
    (hother : key.pair ≠ pair) (hwanted : terminal ∈ wantedTerminals desired pair)
    (hused : terminal ∈ usedTerminals key.pair info) :
    ∃ source before, Collision found desired pair source before ∧ source.pair = key.pair ∧
      info.linkType = before.linkType := by
  rcases h.origin key info hinfo with ⟨source, before, hbefore, hpair, htype, hsub⟩ | hown
  · exact ⟨source, before, ⟨hbefore, hpair ▸ hother, terminal, hwanted, hpair ▸ hsub _ hused⟩,
      hpair, htype⟩
  · exact absurd (wanted_injective hdesired (hown _ hused) hwanted) hother

/-! ### Opening contacts -/

section Opening

variable {opening : List Pair} {downReasons : Dict Pair String} {terminal : Terminal}

theorem mem_wantedByOpening_iff : terminal ∈ wantedByOpening desired opening ↔
    ∃ pair ∈ opening, terminal ∈ wantedTerminals desired pair := by
  simp only [wantedByOpening, Dict.mem_ofList_iff, List.mem_flatMap, List.mem_map, Prod.mk.injEq,
    mem_sortedSet]
  constructor
  · rintro ⟨_, pair, hpair, _, hterminal, rfl, rfl⟩
    exact ⟨pair, hpair, hterminal⟩
  · rintro ⟨pair, hpair, hterminal⟩
    exact ⟨pair, pair, hpair, terminal, hterminal, rfl, rfl⟩

theorem get?_wantedByOpening (h : (wantedByOpening desired opening).get? terminal = some pair) :
    pair ∈ opening ∧ terminal ∈ wantedTerminals desired pair := by
  obtain ⟨p, hp, hmem⟩ := List.mem_flatMap.mp (Dict.mem_of_get?_ofList h)
  obtain ⟨t, ht, heq⟩ := List.mem_map.mp hmem
  obtain ⟨rfl, rfl⟩ := Prod.mk.inj heq
  exact ⟨mem_sortedSet.mp hp, ht⟩

theorem takenFrom_iff (h : DesiredExclusive desired) :
    takenFrom (wantedByOpening desired opening) pair terminal = true ↔
      ∃ taker ∈ opening, taker ≠ pair ∧ terminal ∈ wantedTerminals desired taker := by
  unfold takenFrom
  cases hget : (wantedByOpening desired opening).get? terminal with
  | none =>
    refine iff_of_false (by simp) ?_
    rintro ⟨taker, htaker, -, hterminal⟩
    exact Dict.get?_eq_none_iff.mp hget (mem_wantedByOpening_iff.mpr ⟨taker, htaker, hterminal⟩)
  | some taker =>
    obtain ⟨htaker, hterminal⟩ := get?_wantedByOpening hget
    rw [decide_eq_true_eq]
    refine ⟨fun hne => ⟨taker, htaker, hne, hterminal⟩, ?_⟩
    rintro ⟨taker', -, hne, hterminal'⟩
    rw [wanted_injective h hterminal hterminal']
    exact hne

/-- The contacts on terminals that other contacts open on are closed surely. -/
def ClosesTaken (config : SchedulerConfig) (surroundings : Surroundings) (found : Scheduler)
    (desired : Dict Pair LinkInfo) (opening : List Pair) : Prop :=
  ∀ pair ∈ opening, ∀ key info, Collision found desired pair key info →
    config.longDelay key.pair = true → Released surroundings key info

/-- Where whatever still holds a wanted terminal refused to close, and none refuses, the terminals
of the opening contacts are free. -/
theorem terminalsFree_of_retargeted (hdesired : DesiredExclusive intent.desired)
    (hcloses : ClosesTaken config env found intent.desired pass.longDelay.opening)
    (hretargeted : Retargeted env intent pass s) (h : Exclusive config found intent.desired s) :
    TerminalsFree intent.desired pass.longDelay.opening s := by
  intro pair hpair terminal hwanted key info hinfo hother hused
  have htaken : takenFrom (wantedByOpening intent.desired pass.longDelay.opening) key.pair
      terminal = true := (takenFrom_iff hdesired).mpr ⟨pair, hpair, hother.symm, hwanted⟩
  obtain ⟨hopen, hdraining⟩ := hretargeted key info hinfo
  have hplaced := h.placed key info hinfo
  cases hdrain : info.drain with
  | none =>
    rw [usedTerminals, hdrain] at hused
    rw [hopen hdrain terminal hused] at htaken
    cases htaken
  | some drain =>
    have hown := hplaced.own terminal hused
    have hlong := hplaced.drains (hdrain ▸ Option.some_ne_none drain)
    obtain ⟨source, before, hcollision, hsource, htype⟩ :=
      h.collision hdesired hinfo hother hwanted hused
    rw [usedTerminals, hdrain] at hused
    obtain ⟨e, he, rfl⟩ := List.mem_map.mp hused
    have hends : e.nodeId ∈ takenEnds (wantedByOpening intent.desired pass.longDelay.opening)
        key.pair drain := List.mem_map_of_mem (List.mem_filter.mpr ⟨he, htaken⟩)
    refine hdraining drain hdrain (List.ne_nil_of_mem hends)
      ⟨fun hground => ?_, e.terminal, hown, hends⟩
    have hreleased := hcloses pair hpair source before hcollision (hsource ▸ hlong)
      (htype ▸ hground)
    rwa [hsource] at hreleased

end Opening

/-! ### Local links -/

section Local

variable {toAdd toRemove : List Pair} {terminal : Terminal}

/-- The acquires of a pass find their terminals freed by its releases. -/
def FreedByRelease (config : SchedulerConfig) (surroundings : Surroundings) (found : Scheduler)
    (desired : Dict Pair LinkInfo) (toRemove toAdd : List Pair) : Prop :=
  ∀ pair ∈ toAdd, ∀ key info, Collision found desired pair key info →
    key = .current key.pair ∧ key.pair ∈ toRemove ∧ key.pair ∉ desired ∧
      config.longDelay key.pair = false ∧
      (Released surroundings key info ∨ HeldBack config pair key.pair)

/-- Where whatever still holds a wanted terminal was released in vain, and no release was, the
terminals of the acquires are free. -/
theorem terminalsFree_of_freed (hdesired : DesiredExclusive intent.desired)
    (hreleased : FreedByRelease config env found intent.desired pass.toRemove pass.toAdd)
    (hpairs : ∀ pair ∈ pairs, pair ∈ pass.toAdd) (hfreed : Freed config env intent pass pairs s)
    (h : Exclusive config found intent.desired s) : TerminalsFree intent.desired pairs s := by
  intro pair hpair terminal hwanted key info hinfo hother hused
  obtain ⟨source, before, hcollision, hsource, htype⟩ :=
    h.collision hdesired hinfo hother hwanted hused
  obtain ⟨-, hremove, -, hlocal, hacked⟩ :=
    hreleased pair (hpairs pair hpair) source before hcollision
  rw [hsource] at hremove hlocal
  have hplaced := h.placed key info hinfo
  -- a record beside a pair's current one drains, and a local link does not
  have hkey : key = .current key.pair := by
    by_contra hkey
    rw [hplaced.drains (hplaced.overlap hkey)] at hlocal
    cases hlocal
  refine hfreed pair hpair key.pair hremove info (hkey ▸ hinfo)
    ⟨terminal, hwanted, hplaced.own terminal hused⟩
    (hacked.imp (fun hack hground => ?_) fun hback => hsource ▸ hback)
  have hack := hack (htype ▸ hground)
  rwa [hsource] at hack

end Local

theorem logExclusive_of_effect (hdesired : DesiredExclusive intent.desired)
    (hcloses : ClosesTaken config env found intent.desired pass.longDelay.opening)
    (hreleased : FreedByRelease config env found intent.desired pass.toRemove pass.toAdd)
    (heffect : Effect config env intent pass phase s t)
    (h : Exclusive config found intent.desired s) : LogExclusive t.log := by
  cases heffect with
  | station | losses => exact h.log
  | reading => exact List.forall_mem_cons.mpr ⟨trivial, h.log⟩
  | stopSent | closeSent => exact h.log.sent (by simp [closeFrame, downFrame])
  | proofSent => exact h.log.sent (by simp [proofFrame, inventoryFrame])
  | latencySent => exact h.log.sent (by simp [latencyFrame])
  | drained | shrunk | relocated | opened | added | removed =>
    simpa only [log_setRecord, log_relocateContact, log_addActual, log_removeAll] using h.log
  | tornDown | ended =>
    rw [log_tornDown]
    exact List.forall_mem_cons.mpr ⟨trivial, h.log⟩
  | prepareSent _ plan hfree hplan =>
    exact exclusive_linkUp hplan (terminalsFree_of_retargeted hdesired hcloses hfree h) _ h.log
  | openSent _ pairs plan _ _ hplan =>
    exact exclusive_restaged _ (by simp [upFrame])
      (fun planned hplanned => contact_of_prepare hplan hplanned) h.log
  | linkUps | localUps => exact exclusive_linkUps _ h.log
  | latencyUpdates _ events hevents =>
    exact h.log.append fun event hevent => exclusiveEvent_of_latencyUpdate (hevents event hevent)
  | retimed _ t pairs _ hretimed =>
    obtain ⟨links, rfl, -⟩ := hretimed
    exact h.log
  | releaseSent _ pairs plan events _ _ hevents =>
    refine LogExclusive.append ?_ fun event hevent =>
      exclusiveEvent_of_localDown (hevents event hevent)
    exact h.log.sent (by simp [releaseFrame, downFrame])
  | acquireSent _ pairs plan hpairs hfreed hplan =>
    exact exclusive_linkUp hplan (terminalsFree_of_freed hdesired hreleased hpairs hfreed h) _
      h.log

theorem exclusive_of_effect (hdesired : DesiredExclusive intent.desired)
    (hcloses : ClosesTaken config env found intent.desired pass.longDelay.opening)
    (hreleased : FreedByRelease config env found intent.desired pass.toRemove pass.toAdd)
    (heffect : Effect config env intent pass phase s t)
    (h : Exclusive config found intent.desired s) : Exclusive config found intent.desired t where
  log := logExclusive_of_effect hdesired hcloses hreleased heffect h
  placed := wellPlaced_of_effect heffect h.placed
  origin := origin_of_effect heffect h.origin

/-! ### Runs -/

section Runs

variable {turn : Turn} {plan : LongDelayPlan} {nowMono : ℚ}

theorem mem_toAdd_passOf_iff :
    pair ∈ (passOf config turn.intent (turn.begin config s) plan nowMono).toAdd ↔
      Acquirable config turn.intent s pair := by
  refine Iff.trans mem_filterBlocked_iff ?_
  rw [mem_toAdd_iff, actualLinks_begin]
  exact ⟨fun h => ⟨h.1.1, h.1.2.1, h.1.2.2, h.2⟩,
    fun h => ⟨⟨h.desired, h.isLocal, h.absent⟩, h.dispatchable⟩⟩

theorem mem_toRemove_passOf (h : Releasable config turn.intent s pair) :
    pair ∈ (passOf config turn.intent (turn.begin config s) plan nowMono).toRemove := by
  refine mem_filterDown_iff.mpr ⟨mem_toRemove_iff.mpr ⟨?_, h.isLocal, h.undesired⟩, h.dispatchable⟩
  rw [actualLinks_begin]
  exact h.held

theorem openable_of_mem_opening
    (hplan : planned config turn.intent (turn.begin config s) = .ok plan)
    (hpair : pair ∈ openingOf config turn.intent (turn.begin config s) plan) :
    Openable config turn s pair := by
  obtain ⟨decisions, hdecisions, rfl⟩ := exists_decisions hplan
  obtain ⟨hopening, hclean⟩ := mem_filterBlocked_iff.mp hpair
  rw [opening_ofDecisions] at hopening
  have hopens := planPair_of_mem_decidedPairs hdecisions hopening
  rw [actualLinks_begin, epochId_begin] at hopens
  exact ⟨longDelay_of_mem_decidedPairs hdecisions hopening, hopens, hclean⟩

theorem freedByRelease_of_releasesFirst (h : ReleasesFirst config turn s) :
    FreedByRelease config turn.surroundings (turn.begin config s) turn.intent.desired
      (passOf config turn.intent (turn.begin config s) plan nowMono).toRemove
      (passOf config turn.intent (turn.begin config s) plan nowMono).toAdd := by
  intro pair hpair key info hcollision
  obtain ⟨hkey, hreleasable, hreleased⟩ := h.acquired pair key info (mem_toAdd_passOf_iff.mp hpair)
    ⟨record?_begin.symm.trans hcollision.held, hcollision.other, hcollision.shares⟩
  exact ⟨hkey, mem_toRemove_passOf hreleasable, hreleasable.undesired, hreleasable.isLocal,
    hreleased⟩

theorem closesTaken_of_releasesFirst (h : ReleasesFirst config turn s)
    (hplan : planned config turn.intent (turn.begin config s) = .ok plan) :
    ClosesTaken config turn.surroundings (turn.begin config s) turn.intent.desired
      (openingOf config turn.intent (turn.begin config s) plan) := by
  intro pair hpair key info hcollision hlong
  exact h.opened pair key info (openable_of_mem_opening hplan hpair)
    ⟨record?_begin.symm.trans hcollision.held, hcollision.other, hcollision.shares⟩ hlong

theorem wp_runTurn_exclusive (hdesired : DesiredExclusive turn.intent.desired)
    (hfirst : ReleasesFirst config turn s)
    (h : LogExclusive s.log ∧ RecordsIn (WellPlaced config) s) : wp (runTurn config turn) s
      (fun _ t => LogExclusive t.log ∧ RecordsIn (WellPlaced config) t)
      (fun _ t => LogExclusive t.log) := by
  have hbegin : Exclusive config (turn.begin config s) turn.intent.desired
      (turn.begin config s) := by
    refine ⟨by rw [log_begin]; exact h.1, h.2.congr fun _ => record?_begin, ?_⟩
    exact fun key info hinfo => .inl ⟨key, info, hinfo, rfl, rfl, fun _ hused => hused⟩
  have hverified : Exclusive config (turn.begin config s) turn.intent.desired
      (verifiedState turn.intent (turn.begin config s)) :=
    hbegin.logged hbegin.log fun _ => record?_station
  have hplanned : Exclusive config (turn.begin config s) turn.intent.desired
      (plannedState turn.surroundings turn.intent (turn.begin config s)) := by
    refine Exclusive.refreshed (hverified.logged ?_ fun _ => record?_afterReading)
    exact List.forall_mem_cons.mpr ⟨trivial, hverified.log⟩
  refine wp_mono (wp_runTurn_reaches hverified fun plan t hplan hreaches => ?_)
    (fun _ _ ht => ⟨ht.log, ht.placed⟩) fun _ _ ht => ht.log
  exact hreaches.invariant (fun _ _ _ heffect => exclusive_of_effect hdesired
    (closesTaken_of_releasesFirst hfirst hplan) (freedByRelease_of_releasesFirst hfirst) heffect)
    hplanned

/-- What exclusivity rests on in each turn: the desired state names no interface twice and every
interface the pass takes is freed first. -/
def FreesWhatItTakes (config : SchedulerConfig) (s : Scheduler) (turn : Turn) : Prop :=
  DesiredExclusive turn.intent.desired ∧ ReleasesFirst config turn s

end Runs

/-! ### A handover of one satellite terminal between two stations -/

/-- Two stations of one terminal each and a satellite with two, dispatched make before break. -/
def twoStations : SchedulerConfig where
  mbbDispatch := true
  gsCapacities := .ofList [("gs1", 1), ("gs2", 1)]
  satCapacities := .ofList [("sat1", 2)]
  gsHandoverModes := .ofList [("gs1", .mbb), ("gs2", .mbb)]
  longDelayBoundsS := ∅
  interfaceMap := ∅
  interfaceRates := [("gs1", "term0"), ("gs2", "term0"), ("sat1", "gnd0")]
  agentAddr := fun node => node
  linkLocality := fun _ _ => .crossNode
  maxLatencyAgeS := 10

def groundLink (objectId : Nat) : LinkInfo where
  objectId := objectId
  interfaceA := "term0"
  interfaceB := "gnd0"
  latencyAToBMs := 4
  latencyBToAMs := 4
  linkType := .ground
  rangeKm := some 1200
  authoritySimTime := some 0
  authoritySource := some "link_state_snapshot"
  authoritySequence := some 1
  contact := none

/-- A turn toward a desired state whose stations are all clean. -/
def turnToward (desired : Dict Pair LinkInfo) (refuses : Request → Bool) : Turn where
  epochId := 0
  rebaseline := false
  intent :=
    { desired, downReasons := ∅, forcedBbmPairs := [], simTime := 0, verified := fun _ => {} }
  surroundings := surroundingsRefusing refuses

def firstContact : Turn := turnToward (.ofList [(("gs1", "sat1"), groundLink 1)]) fun _ => false

def handover (refuses : Request → Bool) : Turn :=
  turnToward (.ofList [(("gs2", "sat1"), groundLink 2)]) refuses

def afterFirstContact : Scheduler := ((runTurn twoStations firstContact).exec freshScheduler).2

theorem record?_afterFirstContact {key : RecordKey} {info : ActiveLinkInfo}
    (h : record? afterFirstContact key = some info) : key = .current ("gs1", "sat1") := by
  have hactual : afterFirstContact.actualLinks.keys = [("gs1", "sat1")] := by decide +kernel
  have hoverlap : afterFirstContact.overlapping.keys = [] := by decide +kernel
  cases key with
  | current pair =>
    have hmem : pair ∈ afterFirstContact.actualLinks.keys := Dict.mem_of_get? h
    rw [hactual, List.mem_singleton] at hmem
    rw [hmem]
  | overlap pair contact =>
    have hmem : (pair, contact) ∈ afterFirstContact.overlapping.keys := Dict.mem_of_get? h
    rw [hoverlap] at hmem
    cases hmem

theorem not_longDelay_twoStations (pair : Pair) :
    SchedulerConfig.longDelay twoStations pair = false :=
  decide_eq_false Dict.not_mem_empty

end NodalArc.InterfaceExclusivity
