import NodalArc.ActiveCounters

/-! Why the Scheduler holds what it holds.  Whatever the agents answer and wherever a turn raises, a
record goes back to a LinkUp its agents acknowledged and to a link some turn desired. -/

namespace NodalArc.RecordHistory

open OrderedDict
open GroundPolicy
open LinkRecord
open NodeAgentBatches
open DispatchActuator
open CommandVerdict
open Reconcile
open HeldRecords
open CommandRules
open BatchEntries
open CloseRounds
open LocalLinks
open PassPlanning
open PassEffects
open PassRefinement
open SparedContacts
open SchedulerRuns
open ActiveCounters
open InterfaceExclusivity
open StatefulProgram
open StatefulProgram.Program

/-- An OPEN that addressed a pair and was acknowledged wherever it did. -/
structure BroughtUp (pair : Pair) (sent : SentCommand) : Prop where
  operation : sent.operation = .batchLinkUp
  stage : sent.stage = some .open
  addressed : ∃ planned ∈ sent.plan, planned.2.pair = pair
  acks : AcksPair sent pair

def Raised (log : List Event) (key : RecordKey) : Prop :=
  ∃ sent, .command sent ∈ log ∧ BroughtUp key.pair sent

/-- The link of a record, but for its drain and the authority it was last confirmed by. -/
def SameLink (info : ActiveLinkInfo) (want : LinkInfo) : Prop :=
  info.linkType = want.linkType ∧ info.contact = want.contact ∧
    (info.interfaceA, info.interfaceB) = (want.interfaceA, want.interfaceB) ∧
    (info.latencyAToBMs, info.latencyBToAMs) = (want.latencyAToBMs, want.latencyBToAMs)

def Wanted (turns : List Turn) (key : RecordKey) (info : ActiveLinkInfo) : Prop :=
  ∃ turn ∈ turns, ∃ want, turn.intent.desired.get? key.pair = some want ∧ SameLink info want

structure History (config : SchedulerConfig) (turns : List Turn) (s : Scheduler) : Prop where
  placed : RecordsIn (WellPlaced config) s
  wanted : RecordsIn (Wanted turns) s
  raised : RecordsIn (fun key _ => Raised s.log key) s

/-! ### Commands -/

theorem addressed_of_openSent {config : SchedulerConfig} {env : Surroundings}
    {intent : DispatchIntent} {pass : PassPlan} {pair : Pair} {pairs : List Pair}
    {sent : SentCommand} (h : OpenSent config env intent pass pairs sent) (hpair : pair ∈ pairs) :
    ∃ planned ∈ sent.plan, planned.2.pair = pair := by
  obtain ⟨prepared, hprepared, hplan⟩ := h.plan
  obtain ⟨planned, hplanned, hentry⟩ :=
    exists_planned_of_linkUp hprepared (mem_sortedSet.mpr (h.opening pair hpair))
  refine ⟨planned, ?_, hentry⟩
  rw [hplan, restageLinkUpPlan, List.mem_filter, decide_eq_true_iff, List.mem_flatMap]
  exact ⟨hplanned, pair, mem_sortedSet.mpr hpair,
    mem_expectedAcks_iff.mpr ⟨planned, hplanned, hentry, rfl⟩⟩

theorem mem_of_lastCommand? {sent : SentCommand} {log : List Event}
    (h : lastCommand? log = some sent) :
    .command sent ∈ log := by
  induction log with
  | nil => cases h
  | cons event log ih =>
    cases event with
    | command => exact Option.some.inj h ▸ List.mem_cons_self
    | _ => exact List.mem_cons_of_mem _ (ih h)

/-! ### Effects -/

theorem raised_of_effect {config : SchedulerConfig} {env : Surroundings} {intent : DispatchIntent}
    {pass : PassPlan} {phase : Phase} {s t : Scheduler}
    (heffect : Effect config env intent pass phase s t)
    (hretimes : ∀ pair ∈ phase.retimes pass, HeldOpen pair s)
    (h : RecordsIn (fun key _ => Raised s.log key) s) :
    RecordsIn (fun key _ => Raised t.log key) t := by
  have hkept {key : RecordKey} {info : ActiveLinkInfo} (hinfo : record? s key = some info) :
      Raised t.log key := by
    obtain ⟨sent, hsent, hup⟩ := h key info hinfo
    exact ⟨sent, heffect.log_suffix.subset hsent, hup⟩
  intro key info hinfo
  cases heffect with
  | opened _ pair want pairs sent _ hpair hlast hsent hacks =>
    rw [record?_addActual] at hinfo
    split at hinfo
    next hkey =>
      refine ⟨sent, log_addActual.symm ▸ mem_of_lastCommand? hlast, ?_⟩
      exact hkey ▸ ⟨hsent.operation, hsent.stage, addressed_of_openSent hsent hpair, hacks⟩
    next => exact hkept hinfo
  | added _ pair want pairs sent _ hpair _ hlast hsent hacks =>
    rw [record?_addActual] at hinfo
    split at hinfo
    next hkey =>
      refine ⟨sent, log_addActual.symm ▸ mem_of_lastCommand? hlast, ?_⟩
      have haddressed := exists_planned_of_linkUp hsent.plan (mem_sortedSet.mpr hpair)
      exact hkey ▸ ⟨hsent.operation, hsent.stage, haddressed, hacks⟩
    next => exact hkept hinfo
  | retimed _ _ pairs hpairs hretimed =>
    rcases hretimed.record? key with heq | ⟨pair, hpair, hkey, -⟩
    · exact hkept (heq ▸ hinfo)
    · -- a delay is only changed of a link still held
      obtain ⟨held, hheld, -⟩ := hretimes pair (hpairs pair hpair)
      exact hkept (hkey ▸ hheld)
  | relocated _ pair =>
    rcases relocateContact_eq pair s with heq | ⟨held, _, contact, hheld, -, -, heq⟩
    · exact hkept (heq ▸ hinfo)
    · rw [heq, record?_dropRecord, record?_setRecord] at hinfo
      replace hinfo := (Option.ite_none_left_eq_some.mp hinfo).2
      split at hinfo
      next hkey =>
        have hraised := hkept hheld
        exact hkey ▸ hraised
      next => exact hkept hinfo
  | drained _ _ held _ _ _ _ _ _ hheld | shrunk _ _ held _ _ _ hheld =>
    rw [record?_setRecord] at hinfo
    split at hinfo
    next hkey => exact hkept (hkey ▸ hheld)
    next => exact hkept hinfo
  | tornDown | ended =>
    rw [record?_tornDown] at hinfo
    exact hkept (Option.ite_none_left_eq_some.mp hinfo).2
  | removed => exact hkept (noNewRecords_removeAll key info hinfo)
  | _ => exact hkept ((record?_congr rfl rfl).symm.trans hinfo)

theorem wanted_of_effect {config : SchedulerConfig} {env : Surroundings} {pass : PassPlan}
    {phase : Phase} {s t : Scheduler} {turn : Turn} {turns : List Turn}
    (heffect : Effect config env turn.intent pass phase s t) (hturn : turn ∈ turns)
    (h : RecordsIn (Wanted turns) s) : RecordsIn (Wanted turns) t := by
  intro key info hinfo
  cases heffect.came hinfo with
  | kept held hheld hdrains =>
    have hwanted := h key held hheld
    cases hdrains <;> exact hwanted
  | desired pair want hkey hwant _ hsame =>
    subst hkey hsame
    exact ⟨turn, hturn, want, hwant, rfl, rfl, rfl, rfl⟩
  | aside pair contact hkey _ _ hheld => exact hkey ▸ h (.current pair) info hheld

/-! ### Turns -/

theorem History.congr {config : SchedulerConfig} {s t : Scheduler} {turns : List Turn}
    (h : History config turns s) (hkey : ∀ key, record? t key = record? s key)
    (hlog : s.log ⊆ t.log) : History config turns t where
  placed := h.placed.congr hkey
  wanted := h.wanted.congr hkey
  raised key info hinfo := (h.raised key info (hkey key ▸ hinfo)).imp fun _ hsent =>
    ⟨hlog hsent.1, hsent.2⟩

theorem History.localsOpen {config : SchedulerConfig} {s : Scheduler} {turns : List Turn}
    (h : History config turns s) : LocalsOpen config s := by
  intro pair info hinfo hlocal
  by_contra hdrain
  cases hlocal.symm.trans ((h.placed (.current pair) info hinfo).drains hdrain)

theorem History.refreshed {config : SchedulerConfig} {s : Scheduler} {turns : List Turn}
    {desired : Dict Pair LinkInfo} (h : History config turns s) :
    History config turns (refreshed desired s) where
  placed := wellPlaced_refreshed h.placed
  wanted key info hinfo := by
    obtain ⟨held, hheld, _, _, _, rfl⟩ := record?_refreshed hinfo
    exact h.wanted key held hheld
  raised key info hinfo := by
    obtain ⟨held, hheld, -⟩ := record?_refreshed hinfo
    exact h.raised key held hheld

theorem wp_runTurn_history {config : SchedulerConfig} {s : Scheduler} {turn : Turn}
    {turns : List Turn} (h : History config turns s) : wp (runTurn config turn) s
    (fun _ => History config (turns ++ [turn])) (fun _ => History config (turns ++ [turn])) := by
  have hmore : History config (turns ++ [turn]) s :=
    ⟨h.placed, fun key info hinfo => (h.wanted key info hinfo).imp fun _ hturn =>
      ⟨List.mem_append_left _ hturn.1, hturn.2⟩, h.raised⟩
  have hbegin := hmore.congr (t := turn.begin config s) (fun _ => record?_begin)
    (log_begin ▸ List.Subset.refl s.log)
  have hverified := hbegin.congr (t := verifiedState turn.intent (turn.begin config s))
    (fun _ => record?_station) fun _ hsent => hsent
  refine wp_runTurn_reaches hverified fun plan t hplan hreaches => ?_
  have hplanned : History config (turns ++ [turn])
      (plannedState turn.surroundings turn.intent (turn.begin config s)) :=
    (hverified.congr (fun _ => record?_afterReading) fun _ => List.mem_cons_of_mem _).refreshed
  -- the links whose delays the pass changes stay held until it does
  refine (hreaches.invariant (I := fun u => History config (turns ++ [turn]) u ∧ ∀ phase : Phase,
    ∀ pair ∈ phase.retimes _, HeldOpen pair u) (fun phase u v heffect ⟨hu, hretimes⟩ =>
      ⟨⟨wellPlaced_of_effect heffect hu.placed, wanted_of_effect heffect (by simp) hu.wanted,
        raised_of_effect heffect (hretimes phase) hu.raised⟩, fun phase pair hpair => ?_⟩)
    ⟨hplanned, fun phase _ hpair => heldOpen_plannedState hplan hbegin.localsOpen phase hpair⟩).1
  obtain ⟨huntouched, hdesired⟩ := retimesUntouched_passOf hplan phase pair hpair
  exact heldOpen_of_effect huntouched hdesired heffect (hretimes phase pair hpair)

theorem history_runAll (config : SchedulerConfig) (turns : List Turn) :
    History config turns (runAll (runTurn config) freshScheduler turns) := by
  have hnone (P : RecordKey → ActiveLinkInfo → Prop) : RecordsIn P freshScheduler := by
    intro key info hinfo
    cases key <;> cases hinfo
  exact runAll_invariant (History config) (fun _ _ _ _ _ h => wp_runTurn_history h)
    ⟨hnone _, hnone _, hnone _⟩

/-- After any turns, every record is of a pair that an OPEN in the log addressed and that every
addressed agent acknowledged. -/
theorem records_acknowledged (config : SchedulerConfig) (turns : List Turn) :
    RecordsIn (fun key _ => Raised (runAll (runTurn config) freshScheduler turns).log key)
      (runAll (runTurn config) freshScheduler turns) :=
  (history_runAll config turns).raised

/-- After any turns, every record is a link that one of them desired, on its interfaces, of its
contact and with its delays. -/
theorem records_wanted (config : SchedulerConfig) (turns : List Turn) :
    RecordsIn (Wanted turns) (runAll (runTurn config) freshScheduler turns) :=
  (history_runAll config turns).wanted

/-- After any turns, only long-delay links drain, a contact kept beside the pair's current one does,
and a draining record holds no terminal but its own link's. -/
theorem records_wellPlaced (config : SchedulerConfig) (turns : List Turn) :
    RecordsIn (WellPlaced config) (runAll (runTurn config) freshScheduler turns) :=
  (history_runAll config turns).placed

end NodalArc.RecordHistory
