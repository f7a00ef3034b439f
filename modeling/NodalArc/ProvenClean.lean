import NodalArc.OperatorRepair

/-! When a station that lost its trust is trusted again: what its failed commands addressed, what
of it the Scheduler remembers, and what the proof that clears the station covers. -/

namespace NodalArc.ProvenClean

open OrderedDict
open GroundPolicy
open LinkRecord
open ContactDrain
open DispatchPlanner
open Actuation
open NodeAgentBatches
open DispatchActuator
open CommandVerdict
open Reconcile
open HeldRecords
open BatchEntries
open CommandRules
open CloseRounds
open ContactPlan
open PassPlanning
open LocalLinks
open PassEffects
open PassRefinement
open InterfaceExclusivity
open SchedulerRuns
open GroundRecovery
open StationInventory
open StationTrust
open OperatorRepair
open StatefulProgram
open StatefulProgram.Program

variable {links : Dict Pair ActiveLinkInfo} {state : GroundActuationState} {link : LinkInfo}
  {sents : List (SentCommand × Nat)} {events : List Event} {e : PlannedEnd} {stage : Stage}

variable {config : SchedulerConfig} {surroundings : Surroundings} {intent : DispatchIntent}
    {pass : PassPlan} {phase : Phase} {s t : Scheduler} {plan : BatchPlan} {pairs : List Pair}
    {pair : Pair} {desired : Dict Pair LinkInfo} {batch : List CloseRecord}

/-! ### What the commands of a pass address -/

def EntryOn (link : LinkInfo) (entry : Entry) : Prop :=
  ∀ terminal ∈ entry.ends, terminal ∈ endTerminals entry.pair link

/-- An entry addresses a link the Scheduler holds, or the link desired of its pair. -/
def Addresses (s : Scheduler) (desired : Dict Pair LinkInfo) (entry : Entry) : Prop :=
  (∃ key info, record? s key = some info ∧ key.pair = entry.pair ∧ EntryOn info.toLinkInfo entry) ∨
    ∃ want, desired.get? entry.pair = some want ∧ EntryOn want entry

theorem entryOn_of_end {contact : Option Contact} (hown : e.own ∈ endTerminals pair link)
    (hpeer : e.peer ∈ endTerminals pair link) :
    EntryOn link (e.entry config pair link contact).2 := by
  intro terminal hterminal
  rcases ends_entry_subset hterminal with rfl | rfl
  · exact hown
  · exact hpeer

theorem entryOn_expecting {up : Bool} {entry : Entry} :
    EntryOn link (entry.expecting up) ↔ EntryOn link entry := Iff.rfl

theorem addresses_of_linkUp
    (hplan : buildLinkUpBatchPlan config surroundings stage desired pairs = .ok plan) :
    ∀ planned ∈ plan, Addresses s desired planned.2 := by
  intro planned hplanned
  obtain ⟨pair, -, want, ends, e, hwant, -, hends, he, rfl⟩ := entry_of_linkUp hplan hplanned
  obtain ⟨hown, hpeer⟩ := own_mem_of_linkEnds hends he
  exact .inr ⟨want, hwant, entryOn_of_end hown hpeer⟩

theorem entryOn_of_linkDown {named : NamedEnds} {contactIds : Dict Terminal Contact}
    (hplan : buildLinkDownBatchPlan config stage named contactIds links pairs = .ok plan) :
    ∀ planned ∈ plan, ∃ held, links.get? planned.2.pair = some held ∧
      EntryOn held.toLinkInfo planned.2 := by
  intro planned hplanned
  obtain ⟨pair, -, held, ends, hheld, -, hends, e, he, rfl⟩ := (entry_of_linkDown hplan).mp hplanned
  obtain ⟨hown, hpeer⟩ := own_mem_of_linkEnds hends (mem_of_mem_selectedEnds he)
  exact ⟨held, hheld, entryOn_of_end hown hpeer⟩

theorem entryOn_of_longDelay {info : ActiveLinkInfo} {nodeIds : List NodeId}
    (hplan : longDelayInventoryEntries config pair info nodeIds = .ok plan) :
    ∀ planned ∈ plan, planned.2.pair = pair ∧ EntryOn info.toLinkInfo planned.2 := by
  intro planned hplanned
  rw [longDelayInventoryEntries_eq_ok hplan] at hplanned
  obtain ⟨e, he, rfl⟩ := List.mem_map.mp hplanned
  refine ⟨rfl, ?_⟩
  rw [Prod.map_snd, entryOn_expecting]
  rcases List.mem_pair.mp (List.mem_filter.mp he).1 with rfl | rfl
  · exact entryOn_of_end List.mem_cons_self (List.mem_cons_of_mem _ List.mem_cons_self)
  · exact entryOn_of_end (List.mem_cons_of_mem _ List.mem_cons_self) List.mem_cons_self

theorem own_mem_of_latencyEnds {ends : List PlannedEnd}
    (h : latencyEnds config pair link = .ok ends) (he : e ∈ ends) :
    e.own ∈ endTerminals pair link ∧ e.peer ∈ endTerminals pair link := by
  unfold latencyEnds at h
  cases htype : link.linkType with
  | isl =>
    rw [htype] at h
    exact own_mem_of_linkEnds h he
  | ground =>
    rw [htype] at h
    obtain ⟨⟨gsId, satId, gsIface, satIface⟩, hends, h⟩ := bind_eq_ok_iff.mp h
    rw [← Except.ok.inj h] at he
    rcases requiredGroundEndpoints_eq_ok hends with ⟨rfl, rfl, rfl, rfl⟩ | ⟨rfl, rfl, rfl, rfl⟩
    · rcases List.mem_pair.mp he with rfl | rfl <;> simp [endTerminals]
    · rcases List.mem_pair.mp he with rfl | rfl <;> simp [endTerminals]

theorem addresses_of_latency {simTime : ℚ}
    (hplan : buildLatencyBatchPlan config surroundings simTime desired pairs = .ok plan) :
    ∀ planned ∈ plan, Addresses s desired planned.2 := by
  intro planned hplanned
  obtain ⟨plans, hplans, h⟩ := bind_eq_ok_iff.mp hplan
  rw [← Except.ok.inj h] at hplanned
  obtain ⟨entries, hentries, hmem⟩ := List.mem_flatten.mp hplanned
  obtain ⟨pair, -, hbuilt⟩ := exists_of_mem_mapM hplans hentries
  obtain ⟨want, hwant, hbuilt⟩ := bind_eq_ok_iff.mp hbuilt
  obtain ⟨_, -, hbuilt⟩ := bind_eq_ok_iff.mp hbuilt
  obtain ⟨_, -, hbuilt⟩ := bind_eq_ok_iff.mp hbuilt
  obtain ⟨ends, hends, hbuilt⟩ := bind_eq_ok_iff.mp hbuilt
  obtain ⟨_, -, hbuilt⟩ := bind_eq_ok_iff.mp hbuilt
  rw [← Except.ok.inj hbuilt] at hmem
  obtain ⟨e, he, rfl⟩ := List.mem_map.mp hmem
  obtain ⟨hown, hpeer⟩ := own_mem_of_latencyEnds hends he
  exact .inr ⟨want, lookupDesired_eq_ok_iff.mp hwant, entryOn_of_end hown hpeer⟩

theorem addresses_of_linkDown
    (hplan : buildLinkDownBatchPlan config stage ∅ ∅ s.actualLinks pairs = .ok plan) :
    ∀ planned ∈ plan, Addresses s desired planned.2 := by
  intro planned hplanned
  obtain ⟨held, hheld, hon⟩ := entryOn_of_linkDown hplan planned hplanned
  exact .inl ⟨.current planned.2.pair, held, hheld, rfl, hon⟩

theorem entryOn_of_inventory {ends : List (Pair × List NodeId)}
    (hplan : buildInventoryPlan config links ends = .ok plan) :
    ∀ planned ∈ plan, ∃ held, links.get? planned.2.pair = some held ∧
      EntryOn held.toLinkInfo planned.2 := by
  intro planned hplanned
  obtain ⟨plans, hplans, h⟩ := bind_eq_ok_iff.mp hplan
  rw [← Except.ok.inj h] at hplanned
  obtain ⟨entries, hentries, hmem⟩ := List.mem_flatten.mp (mem_inAgentOrder.mp hplanned)
  obtain ⟨named, -, hbuilt⟩ := exists_of_mem_mapM hplans hentries
  cases hheld : links.get? named.1 with
  | none =>
    rw [hheld] at hbuilt
    cases hbuilt
  | some held =>
    rw [hheld] at hbuilt
    obtain ⟨hpair, hon⟩ := entryOn_of_longDelay hbuilt planned hmem
    exact ⟨held, hpair ▸ hheld, hon⟩

theorem addresses_of_round (hround : ReadyRound intent pass batch s)
    (h : ∀ planned ∈ plan, ∃ held, (roundLinks batch).get? planned.2.pair = some held ∧
      EntryOn held.toLinkInfo planned.2) : ∀ planned ∈ plan, Addresses s desired planned.2 := by
  intro planned hplanned
  obtain ⟨held, hheld, hon⟩ := h planned hplanned
  obtain ⟨r, hr, heq⟩ := List.mem_map.mp (Dict.mem_of_get?_ofList hheld)
  obtain ⟨hpair, rfl⟩ := Prod.mk.inj heq
  exact .inl ⟨r.key, r.info, hround.current r hr, hpair, hon⟩

/-- What is new in the log: commands sent with the records as they were, each entry addressing a
link the Scheduler held or was told to hold. -/
def LogsAddressed (desired : Dict Pair LinkInfo) (s t : Scheduler) : Prop :=
  ∃ events, t.log = events ++ s.log ∧ ∀ sent, .command sent ∈ events →
    sent.heldActual = s.actualLinks ∧ ∀ planned ∈ sent.plan, Addresses s desired planned.2

theorem logsAddressed_quiet (hlog : t.log = events ++ s.log) (h : ∀ sent, .command sent ∉ events)
    : LogsAddressed desired s t :=
  ⟨events, hlog, fun sent hmem => absurd hmem (h sent)⟩

theorem logsAddressed_sent {frame : CommandFrame}
    (hlog : t.log = events ++ .command (sentIn surroundings frame plan s) :: s.log)
    (hevents : ∀ sent, .command sent ∉ events)
    (h : ∀ planned ∈ plan, Addresses s desired planned.2) : LogsAddressed desired s t := by
  refine ⟨events ++ [.command (sentIn surroundings frame plan s)], ?_, fun sent hmem => ?_⟩
  · rw [hlog, List.append_assoc]
    rfl
  · rcases List.mem_append.mp hmem with hmem | hmem
    · exact absurd hmem (hevents sent)
    · obtain rfl := Event.command.inj (List.mem_singleton.mp hmem)
      exact ⟨rfl, h⟩

theorem logsAddressed_of_effect (heffect : Effect config surroundings intent pass phase s t) :
    LogsAddressed intent.desired s t := by
  have hnone (sent : SentCommand) : Event.command sent ∉ ([] : List Event) := List.not_mem_nil
  cases heffect with
  | station | losses => exact logsAddressed_quiet rfl hnone
  | drained | shrunk => exact logsAddressed_quiet log_setRecord hnone
  | relocated => exact logsAddressed_quiet log_relocateContact hnone
  | opened | added => exact logsAddressed_quiet log_addActual hnone
  | removed => exact logsAddressed_quiet log_removeAll hnone
  | retimed _ _ _ _ hretimed => exact logsAddressed_quiet (hretimed.log.trans (List.nil_append _).symm) hnone
  | reading => exact logsAddressed_quiet (List.singleton_append).symm (by simp)
  | tornDown | ended =>
    exact logsAddressed_quiet (log_tornDown.trans List.singleton_append.symm) (by simp)
  | linkUps | localUps => exact logsAddressed_quiet rfl command_notMem_linkUps
  | latencyUpdates _ events hevents =>
    exact logsAddressed_quiet rfl (command_notMem_latencyUpdates hevents)
  | stopSent _ pairs plan _ _ hplan =>
    exact logsAddressed_sent rfl hnone (addresses_of_linkDown hplan)
  | proofSent _ batch plan hround hplan =>
    exact logsAddressed_sent rfl hnone (addresses_of_round hround (entryOn_of_inventory hplan))
  | closeSent _ batch plan hround _ hplan =>
    exact logsAddressed_sent rfl hnone (addresses_of_round hround (entryOn_of_linkDown hplan))
  | prepareSent _ plan _ hplan => exact logsAddressed_sent rfl hnone (addresses_of_linkUp hplan)
  | openSent _ pairs plan _ _ hplan =>
    exact logsAddressed_sent rfl hnone fun planned hplanned =>
      addresses_of_linkUp hplan planned (List.mem_filter.mp hplanned).1
  | latencySent _ plan hplan => exact logsAddressed_sent rfl hnone (addresses_of_latency hplan)
  | acquireSent _ pairs plan _ _ hplan =>
    exact logsAddressed_sent rfl hnone (addresses_of_linkUp hplan)
  | releaseSent _ pairs plan events _ hplan hevents =>
    exact logsAddressed_sent rfl (command_notMem_localDowns hevents) (addresses_of_linkDown hplan)

/-! ### Passes that move no pair -/

abbrev Wiring := Pair → List Terminal

/-- A link of a station is a ground link on its pair's terminals. -/
def OnWiring (config : SchedulerConfig) (wiring : Wiring) (pair : Pair) (link : LinkInfo) : Prop :=
  ∀ gsId, gsIdForPair pair config.gsCapacities = some gsId →
    link.linkType = .ground ∧ endTerminals pair link = wiring pair

/-- A command about links on their wiring; each of its pairs is up or will be found desired when
its failures are handled. -/
structure CommandOn (config : SchedulerConfig) (wiring : Wiring) (known : Pair → Prop)
    (sent : SentCommand) : Prop where
  held : ∀ pair info, sent.heldActual.get? pair = some info →
    OnWiring config wiring pair info.toLinkInfo
  entries : ∀ planned ∈ sent.plan, ∀ gsId,
    gsIdForPair planned.2.pair config.gsCapacities = some gsId →
    (planned.2.pair ∈ sent.heldActual ∨ known planned.2.pair) ∧
      ∀ terminal ∈ planned.2.ends, terminal ∈ wiring planned.2.pair

/-- What holds throughout a pass on one wiring, `before` being the log it began with. -/
structure Follows (config : SchedulerConfig) (wiring : Wiring) (known : Pair → Prop)
    (before : List Event) (s : Scheduler) : Prop where
  records : RecordsIn (fun key info => OnWiring config wiring key.pair info.toLinkInfo) s
  overlaps : RecordsIn (fun key _ => key ≠ .current key.pair → known key.pair) s
  commands : ∃ events, s.log = events ++ before ∧
    ∀ sent, .command sent ∈ events → CommandOn config wiring known sent

variable {wiring : Wiring} {known : Pair → Prop} {before : List Event}

theorem follows_of_effect (hdesired : ∀ pair want, intent.desired.get? pair = some want →
      OnWiring config wiring pair want) (hknown : ∀ pair ∈ intent.desired, known pair)
    (hrelocate : ∀ pair ∈ pass.longDelay.relocate, pair ∈ intent.desired)
    (heffect : Effect config surroundings intent pass phase s t)
    (h : Follows config wiring known before s) : Follows config wiring known before t where
  records := by
    intro key info hinfo
    cases heffect.came hinfo with
    | kept held hheld hdrains =>
      have hnarrow := narrowed_of_drains hdrains
      intro gsId hgs
      rw [hnarrow.linkType, hnarrow.ends]
      exact h.records key held hheld gsId hgs
    | desired pair want hkey hwant _ hinfo =>
      rw [hkey, hinfo]
      exact hdesired pair want hwant
    | aside pair contact hkey _ _ hheld =>
      rw [hkey]
      exact h.records (.current pair) info hheld
  overlaps := by
    intro key info hinfo hkey
    cases heffect.came hinfo with
    | kept held hheld => exact h.overlaps key held hheld hkey
    | desired pair want heq =>
      rw [heq] at hkey
      exact absurd rfl hkey
    | aside pair contact heq hpair =>
      rw [heq]
      exact hknown pair (hrelocate pair hpair)
  commands := by
    obtain ⟨events, hlog, hevents⟩ := h.commands
    obtain ⟨more, hmore, hsent⟩ := logsAddressed_of_effect heffect
    refine ⟨more ++ events, by rw [hmore, hlog, List.append_assoc], fun sent hmem => ?_⟩
    rcases List.mem_append.mp hmem with hnew | hold
    · obtain ⟨hheld, hentries⟩ := hsent sent hnew
      refine ⟨fun pair info hinfo => h.records (.current pair) info ?_,
        fun planned hplanned gsId hgs => ?_⟩
      · rw [hheld] at hinfo
        exact hinfo
      rcases hentries planned hplanned with ⟨key, info, hinfo, hkey, hon⟩ | ⟨want, hwant, hon⟩
      · have hwiring := (h.records key info hinfo gsId (hkey ▸ hgs)).2
        rw [hkey] at hwiring
        refine ⟨?_, fun terminal hterminal => hwiring ▸ hon terminal hterminal⟩
        cases key with
        | current pair =>
          obtain rfl : pair = planned.2.pair := hkey
          exact .inl (hheld ▸ Dict.mem_of_get? hinfo)
        | overlap pair contact =>
          exact .inr (hkey ▸ h.overlaps _ info hinfo nofun)
      · have hwiring := (hdesired _ want hwant gsId hgs).2
        exact ⟨.inr (hknown _ (Dict.mem_of_get? hwant)),
          fun terminal hterminal => hwiring ▸ hon terminal hterminal⟩
    · exact hevents sent hold

theorem Follows.refreshed (h : Follows config wiring known before s) :
    Follows config wiring known before (HeldRecords.refreshed desired s) where
  records := by
    intro key info hinfo
    obtain ⟨held, hheld, _, _, _, rfl⟩ := record?_refreshed hinfo
    exact h.records key held hheld
  overlaps := by
    intro key info hinfo
    obtain ⟨held, hheld, -⟩ := record?_refreshed hinfo
    exact h.overlaps key held hheld
  commands := h.commands

theorem desired_of_relocate {plan : LongDelayPlan} (hplan : planned config intent s = .ok plan)
    (hpair : pair ∈ plan.relocate) : pair ∈ intent.desired := by
  obtain ⟨decisions, hdecisions, rfl⟩ := exists_decisions hplan
  rw [relocate_ofDecisions] at hpair
  obtain ⟨d, hd, hselect⟩ := planPair_of_mem_decidedPairs hdecisions hpair
  cases hwant : intent.desired.get? pair with
  | some want => exact Dict.mem_of_get? hwant
  | none =>
    rw [hwant] at hd
    cases hheld : s.actualLinks.get? pair with
    | none =>
      rw [hheld] at hd
      obtain rfl := Except.ok.inj hd
      cases hselect
    | some held =>
      rw [hheld] at hd
      obtain ⟨contact, -, hd⟩ := bind_eq_ok_iff.mp hd
      split_ifs at hd
      all_goals
        obtain rfl := Except.ok.inj hd
        cases hselect

theorem wp_runTurn_follows {turn : Turn}
    (hdesired : ∀ pair want, turn.intent.desired.get? pair = some want →
      OnWiring config wiring pair want) (hknown : ∀ pair ∈ turn.intent.desired, known pair)
    (hrecords : RecordsIn (fun key info => OnWiring config wiring key.pair info.toLinkInfo) s)
    (hoverlaps : RecordsIn (fun key _ => key ≠ .current key.pair → known key.pair) s) :
    wp (runTurn config turn) s (fun _ t => Follows config wiring known s.log t)
      (fun _ _ => True) := by
  have hbegin : Follows config wiring known s.log (turn.begin config s) :=
    ⟨hrecords.congr fun _ => record?_begin, hoverlaps.congr fun _ => record?_begin,
      [], log_begin, nofun⟩
  have hplanned : Follows config wiring known s.log
      (plannedState turn.surroundings turn.intent (turn.begin config s)) := by
    refine Follows.refreshed ⟨hbegin.records.congr fun _ => ?_, hbegin.overlaps.congr fun _ => ?_, ?_⟩
    · rw [record?_afterReading]
      exact record?_congr rfl rfl
    · rw [record?_afterReading]
      exact record?_congr rfl rfl
    · obtain ⟨events, hlog, hevents⟩ := hbegin.commands
      refine ⟨.clockRead _ :: events, congrArg (List.cons _) hlog, fun sent hmem => ?_⟩
      rcases List.mem_cons.mp hmem with heq | hmem
      · cases heq
      · exact hevents sent hmem
  have hverified : Follows config wiring known s.log
      (verifiedState turn.intent (turn.begin config s)) :=
    ⟨hbegin.records.congr fun _ => record?_station, hbegin.overlaps.congr fun _ => record?_station,
      hbegin.commands⟩
  refine wp_mono (wp_runTurn_reaches hverified fun plan t hplan hreaches => ?_) (fun _ _ ht => ht)
    fun _ _ _ => trivial
  exact hreaches.invariant (fun _ _ _ heffect => follows_of_effect hdesired hknown
    (fun pair hpair => desired_of_relocate hplan hpair) heffect) hplanned

theorem noneCleared_runTurn {turn : Turn} :
    wp (runTurn config turn) s (fun _ t => NoneCleared turn.intent.verified t.gsActuation)
      (fun _ t => NoneCleared turn.intent.verified t.gsActuation) := by
  refine wp_runTurn_reaches (fun _ hbefore => hbefore) fun plan t _ hreaches => ?_
  exact hreaches.invariant (I := fun t => NoneCleared turn.intent.verified t.gsActuation)
    (fun _ _ _ heffect h gsId hbefore => heffect.noneCleared gsId (h gsId hbefore))
    fun _ hbefore => hbefore

/-! ### What a handled failure leaves remembered -/

section Notes

variable {l : Ledger} {sent : SentCommand} {gsId : NodeId} {info : ActiveLinkInfo}

theorem mem_failedPairsOf_iff : pair ∈ failedPairsOf config sent gsId ↔
    ∃ planned ∈ sent.plan, FailedOf config sent gsId planned ∧ planned.2.pair = pair := by
  simp only [failedPairsOf, List.mem_dedup, List.mem_map, List.mem_filter, decide_eq_true_eq,
    and_assoc]

theorem mem_addressedOf_iff {terminal : Terminal} :
    (pair, terminal) ∈ addressedOf config sent gsId ↔ ∃ planned ∈ sent.plan,
      planned.2.pair = pair ∧ pair ∈ failedPairsOf config sent gsId ∧
        terminal ∈ planned.2.ends := by
  simp only [addressedOf, List.mem_flatMap, List.mem_filter, List.mem_map, decide_eq_true_eq,
    Prod.mk.injEq]
  constructor
  · rintro ⟨planned, ⟨hplanned, hfailed⟩, _, hterminal, rfl, rfl⟩
    exact ⟨planned, hplanned, rfl, hfailed, hterminal⟩
  · rintro ⟨planned, hplanned, rfl, hfailed, hterminal⟩
    exact ⟨planned, ⟨hplanned, hfailed⟩, terminal, hterminal, rfl, rfl⟩

/-- When its failures are handled a link is held as it was when the command was sent, or as the
delay change just recorded it. -/
theorem get?_actualWhenHandled (h : (actualWhenHandled desired sent).get? pair = some info) :
    sent.heldActual.get? pair = some info ∨
      ∃ want, desired.get? pair = some want ∧ info = want.activate := by
  unfold actualWhenHandled at h
  split at h
  · rw [Dict.get?_update, Option.or_eq_some_iff] at h
    rcases h with h | ⟨-, h⟩
    · rw [Dict.get?_ofList_filterMap] at h
      split_ifs at h
      obtain ⟨want, hwant, rfl⟩ := Option.map_eq_some_iff.mp h
      exact .inr ⟨want, hwant, rfl⟩
    · exact .inl h
  · exact .inl h

theorem mem_actualWhenHandled (h : pair ∈ sent.heldActual) :
    pair ∈ actualWhenHandled desired sent := by
  obtain ⟨info, hinfo⟩ := Dict.mem_iff.mp h
  unfold actualWhenHandled
  split
  · rw [Dict.mem_iff, Dict.get?_update, hinfo]
    cases Dict.get? _ pair with
    | none => exact ⟨info, rfl⟩
    | some changed => exact ⟨changed, rfl⟩
  · exact h

/-- Everything owed is on a remembered link of its station. -/
def Remembered (config : SchedulerConfig) (l : Ledger) : Prop :=
  ∀ gsId pair terminal, (pair, terminal) ∈ l.owed gsId →
    gsIdForPair pair config.gsCapacities = some gsId ∧
      ∃ info, l.recovery.staleLinkInfos.get? pair = some info ∧
        terminal ∈ endTerminals pair info.toLinkInfo

def StaleOn (config : SchedulerConfig) (wiring : Wiring) (l : Ledger) : Prop :=
  ∀ pair info, l.recovery.staleLinkInfos.get? pair = some info →
    OnWiring config wiring pair info.toLinkInfo

variable {views : Nat → NodeId → DesiredView} {view : NodeId → DesiredView}

/-- A command on the wiring, and desired links on the wiring when its failures are handled. -/
structure HandledOn (config : SchedulerConfig) (wiring : Wiring) (desired : Dict Pair LinkInfo)
    (view : NodeId → DesiredView) (sent : SentCommand) : Prop where
  command : CommandOn config wiring (fun pair => ∀ gsId, pair ∈ (view gsId).desiredLinks) sent
  wanted : ∀ pair want, desired.get? pair = some want → OnWiring config wiring pair want
  viewed : ∀ gsId pair want, (view gsId).desiredLinks.get? pair = some want →
    OnWiring config wiring pair want

namespace HandledOn

variable (h : HandledOn config wiring desired view sent)

include h

theorem source (hsource : ((actualWhenHandled desired sent).get? pair).or
      (((view gsId).desiredLinks.get? pair).map LinkInfo.activate) = some info) :
    OnWiring config wiring pair info.toLinkInfo := by
  rcases Option.or_eq_some_iff.mp hsource with hheld | ⟨-, hdesired⟩
  · rcases get?_actualWhenHandled hheld with hheld | ⟨want, hwant, rfl⟩
    · exact h.command.held pair info hheld
    · exact h.wanted pair want hwant
  · obtain ⟨want, hwant, rfl⟩ := Option.map_eq_some_iff.mp hdesired
    exact h.viewed gsId pair want hwant

theorem found
    (hfound : foundInfo? config (actualWhenHandled desired sent) (view gsId).desiredLinks gsId pair =
      some info) : OnWiring config wiring pair info.toLinkInfo :=
  h.source (Option.filter_eq_some_iff.mp hfound).1

theorem exists_found (hfailed : pair ∈ failedPairsOf config sent gsId) :
    ∃ info, foundInfo? config (actualWhenHandled desired sent) (view gsId).desiredLinks gsId pair =
      some info := by
  obtain ⟨planned, hplanned, ⟨⟨-, hgs⟩, -⟩, rfl⟩ := mem_failedPairsOf_iff.mp hfailed
  have hsource : ∃ info, ((actualWhenHandled desired sent).get? planned.2.pair).or
      (((view gsId).desiredLinks.get? planned.2.pair).map LinkInfo.activate) = some info := by
    rcases (h.command.entries planned hplanned gsId hgs).1 with hheld | hknown
    · obtain ⟨info, hinfo⟩ := Dict.mem_iff.mp (mem_actualWhenHandled hheld)
      exact ⟨info, Option.or_eq_some_iff.mpr (.inl hinfo)⟩
    · obtain ⟨want, hwant⟩ := Dict.mem_iff.mp (hknown gsId)
      rw [hwant]
      cases (actualWhenHandled desired sent).get? planned.2.pair with
      | none => exact ⟨want.activate, rfl⟩
      | some info => exact ⟨info, rfl⟩
  obtain ⟨info, hinfo⟩ := hsource
  exact ⟨info, Option.filter_eq_some_iff.mpr
    ⟨hinfo, decide_eq_true ⟨(h.source hinfo gsId hgs).1, hgs⟩⟩⟩

end HandledOn

theorem get?_stale_noteFailure :
    (noteFailure config desired view sent l gsId).recovery.staleLinkInfos.get? pair =
      (if pair ∈ failedPairsOf config sent gsId ++ (actualGroundPairsForGs config
          (actualWhenHandled desired sent) gsId).keys then
        foundInfo? config (actualWhenHandled desired sent) (view gsId).desiredLinks gsId pair
      else none).or (l.recovery.staleLinkInfos.get? pair) :=
  get?_recordStaleInfosForGs config

theorem staleOn_noteFailure (h : HandledOn config wiring desired view sent)
    (hstale : StaleOn config wiring l) :
    StaleOn config wiring (noteFailure config desired view sent l gsId) := by
  intro pair info hinfo
  rw [get?_stale_noteFailure, Option.or_eq_some_iff] at hinfo
  rcases hinfo with hfound | ⟨-, hkept⟩
  · split_ifs at hfound
    exact h.found hfound
  · exact hstale pair info hkept

theorem remembered_noteFailure (h : HandledOn config wiring desired view sent)
    (hstale : StaleOn config wiring l) (hremembered : Remembered config l) :
    Remembered config (noteFailure config desired view sent l gsId) := by
  have hkept {owner : NodeId} {pair : Pair} {terminal : Terminal}
      (howner : gsIdForPair pair config.gsCapacities = some owner)
      (hwiring : terminal ∈ wiring pair)
      (hsome : ∃ info, (noteFailure config desired view sent l gsId).recovery.staleLinkInfos.get?
        pair = some info) :
      ∃ info, (noteFailure config desired view sent l gsId).recovery.staleLinkInfos.get? pair =
        some info ∧ terminal ∈ endTerminals pair info.toLinkInfo := by
    obtain ⟨info, hinfo⟩ := hsome
    refine ⟨info, hinfo, ?_⟩
    rw [(staleOn_noteFailure h hstale pair info hinfo owner howner).2]
    exact hwiring
  intro owner pair terminal howed
  have hcases : (pair, terminal) ∈ l.owed owner ∨
      owner = gsId ∧ (pair, terminal) ∈ addressedOf config sent gsId := by
    change (pair, terminal) ∈ Function.update l.owed gsId _ owner at howed
    rw [Function.update_apply] at howed
    split_ifs at howed with heq
    · rcases List.mem_append.mp howed with hbefore | hnew
      · exact .inl (heq ▸ hbefore)
      · exact .inr ⟨heq, hnew⟩
    · exact .inl howed
  rcases hcases with hbefore | ⟨rfl, hnew⟩
  · obtain ⟨howner, info, hinfo, hterminal⟩ := hremembered owner pair terminal hbefore
    refine ⟨howner, hkept howner ?_ ?_⟩
    · rw [← (hstale pair info hinfo owner howner).2]
      exact hterminal
    · rw [get?_stale_noteFailure, hinfo]
      exact Option.isSome_iff_exists.mp (by simp)
  · obtain ⟨planned, hplanned, rfl, hfailed, hterminal⟩ := mem_addressedOf_iff.mp hnew
    obtain ⟨_, _, ⟨⟨-, howner⟩, -⟩, heq⟩ := mem_failedPairsOf_iff.mp hfailed
    rw [heq] at howner
    refine ⟨howner, hkept howner ((h.command.entries planned hplanned owner howner).2 terminal
      hterminal) ?_⟩
    obtain ⟨info, hinfo⟩ := h.exists_found hfailed
    rw [get?_stale_noteFailure, if_pos (List.mem_append_left _ hfailed), hinfo]
    exact ⟨info, rfl⟩

theorem remembered_notes
    (h : ∀ sent ∈ sents, HandledOn config wiring desired (views sent.2) sent.1)
    (hl : Remembered config l ∧ StaleOn config wiring l) :
    Remembered config (sents.foldl (noteCommand config desired views) l) := by
  refine (List.foldlRecOn sents (noteCommand config desired views)
    (motive := fun l => Remembered config l ∧ StaleOn config wiring l) hl ?_).1
  intro l hl sent hsent
  refine List.foldlRecOn (failedStationsOf config sent.1)
    (noteFailure config desired (views sent.2) sent.1)
    (motive := fun l => Remembered config l ∧ StaleOn config wiring l) hl fun l hl gsId _ => ?_
  exact ⟨remembered_noteFailure (h sent hsent) hl.2 hl.1, staleOn_noteFailure (h sent hsent) hl.2⟩

end Notes

/-! ### The proof that clears a station -/

/-- The run's steps: a proof finds the ends it has records of where its failed commands addressed
them, and a pass moves no pair and is told to keep every pair it is about while it runs. -/
def Steady (config : SchedulerConfig) (l : Ledger) : TrustStep → Prop
  | .verify gsId _ => ∀ pair held stale, gsIdForPair pair config.gsCapacities = some gsId →
      l.recovery.scheduler.actualLinks.get? pair = some held →
      l.recovery.staleLinkInfos.get? pair = some stale →
      endTerminals pair held.toLinkInfo = endTerminals pair stale.toLinkInfo ∧
        (held.contact ≠ none → ∀ terminal ∈ endTerminals pair held.toLinkInfo,
          terminal.1 ∈ remainingEnds pair held)
  | .pass turn views => ∃ wiring : Wiring,
      RecordsIn (fun key info => OnWiring config wiring key.pair info.toLinkInfo)
        l.recovery.scheduler ∧
      (∀ pair want, turn.intent.desired.get? pair = some want → OnWiring config wiring pair want) ∧
      (∀ i gsId pair want, (views i gsId).desiredLinks.get? pair = some want →
        OnWiring config wiring pair want) ∧
      StaleOn config wiring l ∧
      (∀ pair ∈ turn.intent.desired, ∀ i gsId, pair ∈ (views i gsId).desiredLinks) ∧
      RecordsIn (fun key _ => key ≠ .current key.pair →
        ∀ i gsId, key.pair ∈ (views i gsId).desiredLinks) l.recovery.scheduler

/-- A proof that was sent has an acknowledged entry on a terminal of a pair, which expects the pair
up if the Scheduler holds it and down if not. -/
def Covered (config : SchedulerConfig) (actual : Dict Pair ActiveLinkInfo) (gsId : NodeId)
    (commands : List SentCommand) (pair : Pair) (terminal : Terminal) : Prop :=
  ∃ sent ∈ commands, sent.operation = .kernelInventory ∧ ∃ planned ∈ sent.plan,
    planned.2.pair = pair ∧ planned.2.expectedAdminUp =
        some (decide (pair ∈ actualGroundPairsForGs config actual gsId)) ∧
      terminal ∈ planned.2.ends ∧ ∃ sent ∈ commands,
        AckedIn sent.exchanges (planned.1, planned.2.terminal)

section Verification

variable {r t : Recovery} {gsId : NodeId} {inventory : GroundInventory} {terminal : Terminal}

/-- What a station is proven against: the links held up, and those that should be down. -/
def provenUp (config : SchedulerConfig) (gsId : NodeId) (r : Recovery) : Dict Pair ActiveLinkInfo :=
  actualGroundPairsForGs config r.scheduler.actualLinks gsId

def provenDown (config : SchedulerConfig) (gsId : NodeId) (r : Recovery) :
    Dict Pair ActiveLinkInfo :=
  kernelExpectedDownForGs config r.scheduler.actualLinks r.staleLinkInfos gsId
    (provenUp config gsId r).keys

/-- Why a station was cleared: there was nothing to prove, or a proof had no failures. -/
def Proven (config : SchedulerConfig) (surroundings : Surroundings) (gsId : NodeId) (r : Recovery)
    (log : List Event) : Prop :=
  ((provenUp config gsId r).entries = [] ∧ (provenDown config gsId r).entries = []) ∨
    ∃ inventory, groundInventoryRequests config gsId (provenUp config gsId r)
        (provenDown config gsId r) = .ok inventory ∧
      (let requested := sortedSet ((provenUp config gsId r).keys ++ (provenDown config gsId r).keys)
      ¬ (inventoryVerdict surroundings r.scheduler gsId requested inventory).HasFailures ∧
        log = (afterInventory surroundings requested inventory r.scheduler).log)

/-- What a proof leaves: another station is as it was, and its own is cleared on a proof or stays
what it was taken for, with everything remembered. -/
structure Verified (config : SchedulerConfig) (surroundings : Surroundings) (gsId : NodeId)
    (r t : Recovery) : Prop where
  others : ∀ other, other ≠ gsId → t.scheduler.gsActuation other = r.scheduler.gsActuation other
  own : ((t.scheduler.gsActuation gsId).state ≠ .clean ∧ t.staleLinkInfos = r.staleLinkInfos) ∨
    ((t.scheduler.gsActuation gsId).state = .clean ∧
      t.staleLinkInfos = r.staleLinkInfos.filter (fun pair _ =>
        gsIdForPair pair config.gsCapacities ≠ some gsId) ∧
      Proven config surroundings gsId r t.scheduler.log)

theorem gsActuation_setState {other : NodeId} :
    (setState gsId state r).scheduler.gsActuation other =
      if other = gsId then state else r.scheduler.gsActuation other := by
  change Function.update r.scheduler.gsActuation gsId state other = _
  rw [Function.update_apply]

theorem verified_of_nonclean {s : Scheduler} (hs : s.gsActuation = r.scheduler.gsActuation)
    (hstate : state.state ≠ .clean) :
    Verified config surroundings gsId r (setState gsId state { r with scheduler := s }) where
  others other hother := by
    rw [gsActuation_setState, if_neg hother]
    exact congrFun hs other
  own := .inl ⟨by rwa [gsActuation_setState, if_pos rfl], rfl⟩

theorem wp_verify (hbefore : (r.scheduler.gsActuation gsId).state ≠ .clean) :
    wp (verifyGsAgainstCurrentAuthority config surroundings gsId) r
      (fun _ => Verified config surroundings gsId r)
      (fun _ => Verified config surroundings gsId r) := by
  have hclean {s : Scheduler} (hs : s.gsActuation = r.scheduler.gsActuation)
      (hproven : Proven config surroundings gsId r s.log) :
      wp (markGsClean config gsId) { r with scheduler := s }
        (fun _ => Verified config surroundings gsId r)
        (fun _ => Verified config surroundings gsId r) := by
    refine ⟨fun other hother => ?_, .inr ⟨?_, rfl, hproven⟩⟩
    · rw [gsActuation_setState, if_neg hother]
      exact congrFun hs other
    · rw [gsActuation_setState, if_pos rfl]
  rw [verifyGsAgainstCurrentAuthority, wp_bind, wp_get]
  dsimp only
  rw [wp_ite]
  refine ⟨fun hnone => hclean rfl (.inl hnone), fun _ => ?_⟩
  rw [wp_bind, wp_onScheduler, wp_sendKernelInventory]
  refine ⟨fun inventory hinventory => ?_, fun e _ => ?_⟩
  · rw [wp_ite, wp_ite]
    refine ⟨fun _ => verified_of_nonclean rfl hbefore, fun _ => ⟨fun hproven => ?_, fun _ => ?_⟩⟩
    · exact hclean rfl (.inr ⟨inventory, hinventory, hproven, rfl⟩)
    · exact verified_of_nonclean rfl nofun
  · exact ⟨fun _ _ => rfl, .inl ⟨hbefore, rfl⟩⟩

theorem sent_of_proof {requested : List Pair} {planned : AgentAddr × Entry}
    (hproven : ¬ (inventoryVerdict surroundings s gsId requested inventory).HasFailures)
    (hplanned : planned ∈ inventory.localPlan ++ inventory.longDelayPlan)
    (hrequested : planned.2.pair ∈ requested) :
    let commands := newCommands s.log (afterInventory surroundings requested inventory s).log
    (∃ sent ∈ commands, sent.operation = .kernelInventory ∧ planned ∈ sent.plan) ∧
      ∃ sent ∈ commands, AckedIn sent.exchanges (planned.1, planned.2.terminal) := by
  have hacked : AckedIn (inventoryExchanges surroundings s.requests requested inventory)
      (planned.1, planned.2.terminal) := by
    by_contra hmissing
    refine hproven (hasFailures_of_failed (List.mem_map_of_mem hrequested) fun hsuccess => ?_)
    refine hmissing ((success_inventory_iff.mp hsuccess).2 _ ?_)
    exact mem_expectedAcks_iff.mpr ⟨planned, hplanned, rfl, rfl⟩
  have hcommands : newCommands s.log (afterInventory surroundings requested inventory s).log = _ :=
    newCommands_append [_, _] s.log
  rw [hcommands]
  simp only [inventorySent, Event.command?, List.filterMap_cons, List.filterMap_nil,
    List.reverse_cons, List.reverse_nil, List.nil_append, List.cons_append, List.mem_cons,
    List.not_mem_nil, or_false, exists_eq_or_imp, exists_eq_left, true_and]
  exact ⟨List.mem_append.mp hplanned, ackedIn_append.mp hacked⟩

theorem covered_of_proven {l : Ledger} (hremembered : Remembered config l)
    (hsteady : Steady config l (.verify gsId surroundings)) {log : List Event}
    (hproven : Proven config surroundings gsId l.recovery log)
    (howed : (pair, terminal) ∈ l.owed gsId) :
    Covered config l.recovery.scheduler.actualLinks gsId
      (newCommands l.recovery.scheduler.log log) pair terminal := by
  obtain ⟨hstation, stale, hstale, hterminal⟩ := hremembered gsId pair terminal howed
  have hground := l.recovery.stale_ground pair stale hstale
  by_cases hup : pair ∈ provenUp config gsId l.recovery
  · obtain ⟨held, hheld⟩ := Dict.mem_iff.mp hup
    obtain ⟨hactual, hofStation⟩ := Dict.get?_filter_eq_some_iff.mp hheld
    obtain ⟨hends, hremaining⟩ := hsteady pair held stale hstation hactual hstale
    rw [← hends] at hterminal
    rcases hproven with ⟨hnone, -⟩ | ⟨inventory, hinventory, hproven, rfl⟩
    · rw [Dict.get?_eq_some_iff, hnone] at hheld
      cases hheld
    obtain ⟨plan, hplan, hmem⟩ := proofEntries_up hinventory hheld (of_decide_eq_true hofStation)
    obtain ⟨planned, hplanned, rfl, hexpected, hon⟩ := exists_entry_of_proof hplan hterminal
      fun _ hcontact => hremaining hcontact terminal hterminal
    obtain ⟨⟨sent, hsent, hoperation, hentry⟩, hacked⟩ := sent_of_proof hproven
      (hmem planned hplanned) (mem_sortedSet.mpr (List.mem_append_left _ hup))
    refine ⟨sent, hsent, hoperation, planned, hentry, rfl, ?_, hon, hacked⟩
    rw [hexpected]
    exact congrArg some (decide_eq_true hup).symm
  · have hdown : (provenDown config gsId l.recovery).get? pair = some stale := by
      rw [provenDown, kernelExpectedDownForGs, Dict.get?_update, Option.or_eq_some_iff]
      exact .inl (Dict.get?_filter_eq_some_iff.mpr ⟨hstale, decide_eq_true ⟨hup, hstation⟩⟩)
    rcases hproven with ⟨-, hnone⟩ | ⟨inventory, hinventory, hproven, rfl⟩
    · rw [Dict.get?_eq_some_iff, hnone] at hdown
      cases hdown
    obtain ⟨plan, hplan, hmem⟩ := proofEntries_down hinventory hdown ⟨hground, hstation⟩
    obtain ⟨planned, hplanned, rfl, hexpected, hon⟩ := exists_entry_of_proof hplan hterminal (by simp)
    obtain ⟨⟨sent, hsent, hoperation, hentry⟩, hacked⟩ := sent_of_proof hproven
      (hmem planned hplanned)
      (mem_sortedSet.mpr (List.mem_append_right _ (Dict.mem_of_get? hdown)))
    refine ⟨sent, hsent, hoperation, planned, hentry, rfl, ?_, hon, hacked⟩
    rw [hexpected]
    exact congrArg some (decide_eq_false hup).symm

end Verification

/-! ### Runs -/

section Runs

variable {l l' : Ledger} {gsId : NodeId} {turn : Turn} {views : Nat → NodeId → DesiredView}

@[simp] theorem wp_onRecovery {α : Type} {m : RecoveryM α} {Q : α → Ledger → Prop}
    {E : SchedulerError → Ledger → Prop} :
    wp (onRecovery m) l Q E ↔ wp m l.recovery (fun a r => Q a { l with recovery := r })
      (fun e r => E e { l with recovery := r }) := wp_zoom

def settled (gsId : NodeId) (l : Ledger) : Ledger :=
  if (l.recovery.scheduler.gsActuation gsId).state = .clean then
    { l with owed := Function.update l.owed gsId [] }
  else l

theorem recovery_settled : (settled gsId l).recovery = l.recovery := by
  unfold settled
  split_ifs <;> rfl

theorem remembered_settled {r : Recovery} (hremembered : Remembered config l)
    (hverified : Verified config surroundings gsId l.recovery r) :
    Remembered config (settled gsId { l with recovery := r }) := by
  intro owner pair terminal howed
  rcases hverified.own with ⟨hdirty, hstale⟩ | ⟨hclean, hstale, -⟩
  · rw [settled, if_neg hdirty] at howed ⊢
    obtain ⟨howner, info, hinfo, hterminal⟩ := hremembered owner pair terminal howed
    exact ⟨howner, info, hstale ▸ hinfo, hterminal⟩
  · rw [settled, if_pos hclean] at howed ⊢
    change (pair, terminal) ∈ Function.update l.owed gsId [] owner at howed
    rw [Function.update_apply] at howed
    split_ifs at howed with howner
    · cases howed
    · obtain ⟨hstation, info, hinfo, hterminal⟩ := hremembered owner pair terminal howed
      refine ⟨hstation, info, ?_, hterminal⟩
      change r.staleLinkInfos.get? pair = some info
      rw [hstale]
      refine Dict.get?_filter_eq_some_iff.mpr ⟨hinfo, decide_eq_true ?_⟩
      rw [hstation]
      exact fun heq => howner (Option.some.inj heq)

theorem wp_takeVerify (hbefore : (l.recovery.scheduler.gsActuation gsId).state ≠ .clean) :
    wp (takeStep config (.verify gsId surroundings)) l
      (fun _ t => ∃ r, t = settled gsId { l with recovery := r } ∧
        Verified config surroundings gsId l.recovery r)
      (fun _ t => ∃ r, t = { l with recovery := r } ∧
        Verified config surroundings gsId l.recovery r) := by
  simp only [takeStep, wp_bind, wp_get, wp_when, wp_onRecovery, wp_modify]
  refine ⟨fun _ => wp_mono (wp_verify hbefore) ?_ ?_, fun hclean => absurd hbefore hclean⟩
  · exact fun _ r hverified => ⟨r, rfl, hverified⟩
  · exact fun _ r hverified => ⟨r, rfl, hverified⟩

theorem remembered_pass (hsteady : Steady config l (.pass turn views))
    (hremembered : Remembered config l) :
    wp (takeStep config (.pass turn views)) l (fun _ => Remembered config)
      (fun _ => Remembered config) := by
  obtain ⟨wiring, hrecords, hdesired, hviews, hstale, hknown, hoverlaps⟩ := hsteady
  simp only [takeStep, wp_bind, wp_get, wp_onRecovery, wp_onScheduler, wp_modify]
  have hfollows : wp (runTurn config (startedFrom l.recovery turn)) l.recovery.scheduler
      (fun _ t => Follows config wiring (fun pair => ∀ i gsId, pair ∈ (views i gsId).desiredLinks)
        l.recovery.scheduler.log t) (fun _ _ => True) :=
    wp_runTurn_follows hdesired hknown hrecords hoverlaps
  refine wp_mono hfollows ?_ fun _ _ _ => hremembered
  rintro _ t ⟨-, -, events, hlog, hevents⟩
  have hhandled : ∀ sent ∈ (newCommands l.recovery.scheduler.log t.log).zipIdx,
      HandledOn config wiring turn.intent.desired (views sent.2) sent.1 := by
    intro sent hsent
    rw [hlog, newCommands_append] at hsent
    obtain ⟨event, hevent, hcommand⟩ := List.mem_filterMap.mp
      (List.mem_reverse.mp (List.fst_mem_of_mem_zipIdx hsent))
    obtain rfl : event = .command sent.1 := by
      cases event <;> simp_all [Event.command?]
    have hon := hevents sent.1 hevent
    refine ⟨⟨hon.held, fun planned hplanned gsId hgs => ?_⟩, hdesired, hviews sent.2⟩
    obtain ⟨hfound, hends⟩ := hon.entries planned hplanned gsId hgs
    exact ⟨hfound.imp_right fun h => h sent.2, hends⟩
  exact remembered_notes hhandled ⟨hremembered, hstale⟩

theorem remembered_of_run {start : Ledger} (hstart : ∀ gsId, start.owed gsId = [])
    (run : Runs (takeStep config) (Steady config) start none l) : Remembered config l := by
  refine (run.invariant (I := Remembered config) (J := fun _ => True) ?_ (fun _ _ => trivial)
    ?_).2 rfl
  · intro gsId pair terminal howed
    rw [hstart] at howed
    cases howed
  · rintro l (⟨gsId, surroundings⟩ | ⟨turn, views⟩) hsteady hremembered
    · by_cases hbefore : (l.recovery.scheduler.gsActuation gsId).state = .clean
      · simp only [takeStep, wp_bind, wp_get, wp_when]
        exact ⟨fun hdirty => absurd hbefore hdirty, fun _ => hremembered⟩
      · refine wp_mono (wp_takeVerify hbefore) ?_ fun _ _ _ => trivial
        rintro _ _ ⟨r, rfl, hverified⟩
        exact remembered_settled hremembered hverified
    · exact wp_mono (remembered_pass hsteady hremembered) (fun _ _ h => h) fun _ _ _ => trivial

theorem scheduler_notes {desired : Dict Pair LinkInfo} :
    (sents.foldl (noteCommand config desired views) l).recovery.scheduler =
      l.recovery.scheduler := by
  refine List.foldlRecOn sents (noteCommand config desired views)
    (motive := fun t => t.recovery.scheduler = l.recovery.scheduler) rfl fun t ht sent _ => ?_
  refine List.foldlRecOn (failedStationsOf config sent.1)
    (noteFailure config desired (views sent.2) sent.1)
    (motive := fun t => t.recovery.scheduler = l.recovery.scheduler) ht fun t ht gsId _ => ?_
  exact ht

theorem nonclean_pass (hbefore : (l.recovery.scheduler.gsActuation gsId).state ≠ .clean) :
    wp (takeStep config (.pass turn views)) l
      (fun _ t => (t.recovery.scheduler.gsActuation gsId).state ≠ .clean)
      (fun _ t => (t.recovery.scheduler.gsActuation gsId).state ≠ .clean) := by
  simp only [takeStep, wp_bind, wp_get, wp_onRecovery, wp_onScheduler, wp_modify]
  refine wp_mono noneCleared_runTurn ?_ ?_
  · intro _ t hnone
    rw [scheduler_notes]
    exact hnone gsId hbefore
  · intro _ t hnone
    exact hnone gsId hbefore

theorem verified_of_cleared {step : TrustStep}
    (hbefore : (l.recovery.scheduler.gsActuation gsId).state ≠ .clean)
    (hafter : ((((takeStep config step).exec l).2).recovery.scheduler.gsActuation gsId).state =
      .clean) :
    ∃ surroundings, step = .verify gsId surroundings ∧ Proven config surroundings gsId l.recovery
      ((takeStep config step).exec l).2.recovery.scheduler.log := by
  cases step with
  | pass turn views => exact absurd hafter (wp_exec (nonclean_pass hbefore))
  | verify proven surroundings =>
    by_cases hproven : (l.recovery.scheduler.gsActuation proven).state = .clean
    · have hsame : wp (takeStep config (.verify proven surroundings)) l (fun _ t => t = l)
          (fun _ t => t = l) := by
        simp only [takeStep, wp_bind, wp_get, wp_when]
        exact ⟨fun hdirty => absurd hproven hdirty, fun _ => trivial⟩
      rw [wp_exec hsame] at hafter
      exact absurd hafter hbefore
    · have hverified : wp (takeStep config (.verify proven surroundings)) l
          (fun _ t => Verified config surroundings proven l.recovery t.recovery)
          (fun _ t => Verified config surroundings proven l.recovery t.recovery) := by
        refine wp_mono (wp_takeVerify hproven) ?_ ?_
        · rintro _ _ ⟨r, rfl, hverified⟩
          rw [recovery_settled]
          exact hverified
        · rintro _ _ ⟨r, rfl, hverified⟩
          exact hverified
      obtain ⟨hothers, hown⟩ := wp_exec hverified
      obtain rfl : gsId = proven := by
        by_contra hother
        rw [hothers gsId hother] at hafter
        exact hbefore hafter
      rcases hown with ⟨hdirty, -⟩ | ⟨-, -, hlog⟩
      · exact absurd hafter hdirty
      · exact ⟨surroundings, rfl, hlog⟩

theorem clean_only_on_proof (config : SchedulerConfig) (start l : Ledger)
    (hstart : ∀ gsId, start.owed gsId = [])
    (run : Runs (takeStep config) (Steady config) start none l) (step : TrustStep)
    (hsteady : Steady config l step) (gsId : NodeId)
    (hbefore : (l.recovery.scheduler.gsActuation gsId).state ≠ .clean)
    (hafter : (((takeStep config step).exec l).2.recovery.scheduler.gsActuation gsId).state =
      .clean) :
    let commands := newCommands l.recovery.scheduler.log
      ((takeStep config step).exec l).2.recovery.scheduler.log
    (∀ pair terminal, (pair, terminal) ∈ l.owed gsId →
      Covered config l.recovery.scheduler.actualLinks gsId commands pair terminal) ∧
    (commands = [] → l.owed gsId = []) := by
  obtain ⟨surroundings, rfl, hproven⟩ := verified_of_cleared hbefore hafter
  have hcovered (pair : Pair) (terminal : Terminal) (howed : (pair, terminal) ∈ l.owed gsId) :=
    covered_of_proven (remembered_of_run hstart run) hsteady hproven howed
  refine ⟨hcovered, fun hnone => List.eq_nil_iff_forall_not_mem.mpr ?_⟩
  rintro ⟨pair, terminal⟩ howed
  obtain ⟨sent, hsent, -⟩ := hcovered pair terminal howed
  rw [hnone] at hsent
  cases hsent

def refusedLinkUp (seen : Dict Pair LinkInfo) : TrustStep :=
  .pass
    { epochId := 0
      rebaseline := false
      intent := {
        desired := .ofList [(("gs1", "sat1"), rangedLink)], downReasons := ∅, forcedBbmPairs := []
        simTime := 0, verified := fun _ => {} }
      surroundings := surroundingsRefusing fun _ => true }
    fun _ _ => ⟨seen, seen⟩

def acknowledgedProof : TrustStep := .verify "gs1" (surroundingsRefusing fun _ => false)

/-- The pair leaves the desired links while its LinkUp is under way: nothing is remembered of it,
and the station is clean again without a proof. -/
theorem forgotten_pair_is_cleared :
    let l := ((takeStep repairSession (refusedLinkUp ∅)).exec freshLedger).2
    let t := ((takeStep repairSession acknowledgedProof).exec l).2
    Runs (takeStep repairSession) (fun _ _ => True) freshLedger none l ∧
      (l.recovery.scheduler.gsActuation "gs1").state ≠ .clean ∧
      (t.recovery.scheduler.gsActuation "gs1").state = .clean ∧
      (("gs1", "sat1"), ("gs1", "term0")) ∈ l.owed "gs1" ∧
      newCommands l.recovery.scheduler.log t.recovery.scheduler.log = [] := by
  refine ⟨Runs.nil.next (refusedLinkUp ∅) trivial (by decide +kernel), by decide +kernel,
    by decide +kernel, by decide +kernel, by decide +kernel⟩

/-- While the pair stays desired it is remembered, and the proof that clears the station covers
both its ends. -/
theorem remembered_pair_is_proven :
    let desired : Dict Pair LinkInfo := .ofList [(("gs1", "sat1"), rangedLink)]
    let l := ((takeStep repairSession (refusedLinkUp desired)).exec freshLedger).2
    let t := ((takeStep repairSession acknowledgedProof).exec l).2
    (t.recovery.scheduler.gsActuation "gs1").state = .clean ∧
      Covered repairSession l.recovery.scheduler.actualLinks "gs1"
        (newCommands l.recovery.scheduler.log t.recovery.scheduler.log) ("gs1", "sat1")
        ("gs1", "term0") := by
  intro desired l t
  have hwiring {pair : Pair} {want : LinkInfo} (hwant : desired.get? pair = some want) :
      OnWiring repairSession (fun pair => endTerminals pair rangedLink) pair want := by
    obtain ⟨rfl, rfl⟩ : pair = ("gs1", "sat1") ∧ want = rangedLink := by
      simpa using Dict.mem_of_get?_ofList hwant
    exact fun _ _ => ⟨rfl, rfl⟩
  have hsteady : Steady repairSession freshLedger (refusedLinkUp desired) := by
    refine ⟨fun pair => endTerminals pair rangedLink, ?_, fun _ _ => hwiring,
      fun _ _ _ _ => hwiring, ?_, fun _ h _ _ => h, ?_⟩
    · intro key info hinfo
      cases key <;> cases hinfo
    · intro pair info hinfo
      cases hinfo
    · intro key info hinfo
      cases key <;> cases hinfo
  have hrun : Runs (takeStep repairSession) (Steady repairSession) freshLedger none l :=
    Runs.nil.next (refusedLinkUp desired) hsteady (by decide +kernel)
  have hempty : l.recovery.scheduler.actualLinks = ∅ := by decide +kernel
  have hverify : Steady repairSession l acknowledgedProof := by
    intro pair held stale _ hheld
    rw [hempty] at hheld
    cases hheld
  have hclean : (t.recovery.scheduler.gsActuation "gs1").state = .clean := by decide +kernel
  refine ⟨hclean, (clean_only_on_proof repairSession freshLedger l (fun _ => rfl) hrun
    acknowledgedProof hverify "gs1" (by decide +kernel) hclean).1 _ _ (by decide +kernel)⟩

end Runs

end NodalArc.ProvenClean
