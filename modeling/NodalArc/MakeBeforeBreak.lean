import NodalArc.TerminalCapacity

/-! Make-before-break.  A pass acquires the replacements of a segment before it releases the
station's old links, and then releases all of them if any replacement came up.  The station keeps
the smaller of what it held and what is desired where the agents acknowledge a replacement for
every old link, or all the replacements. -/

namespace NodalArc.MakeBeforeBreak

open OrderedDict
open GroundPolicy
open LinkRecord
open ContactDrain
open DispatchPlanner
open Actuation
open NodeAgentBatches
open BatchEntries
open DispatchActuator
open CommandVerdict
open Reconcile
open HeldRecords
open CommandRules
open CloseRounds
open PassPlanning
open LocalLinks
open PassEffects
open PassRefinement
open SchedulerRuns
open StationTrust
open InterfaceExclusivity
open ActiveCounters
open TerminalCapacity
open StatefulProgram
open StatefulProgram.Program

variable {plan : BatchPlan} {frame : CommandFrame} {held : Dict Pair ActiveLinkInfo}
  {after before events : List Event} {commands : List SentCommand}
  {E : SchedulerError → Scheduler → Prop} {sent : SentCommand} {V : Type}

variable (config : SchedulerConfig) (gsId : NodeId)

/-! ### A station's links during a pass -/

def groundPairs {V : Type} (links : Dict Pair V) : List Pair :=
  links.keys.filter fun pair => gsIdForPair pair config.gsCapacities = some gsId

/-- The links held at each command of a pass and at its end.  Between two of them a pass only
records the links of one command, or only drops them. -/
def moments (s t : Scheduler) : List (Dict Pair ActiveLinkInfo) :=
  (newCommands s.log t.log).map SentCommand.heldActual ++ [t.actualLinks]

/-- The station never falls below the smaller of what it held and what is desired, and an old link
is gone only where a link the pass made stands. -/
structure MakesBeforeBreaks (desired : Dict Pair LinkInfo) (s t : Scheduler) : Prop where
  enough : ∀ held ∈ moments s t,
    min (groundPairs config gsId s.actualLinks).length (groundPairs config gsId desired).length ≤
      (groundPairs config gsId held).length
  stands : ∀ held ∈ moments s t, ∀ old ∈ groundPairs config gsId s.actualLinks, old ∉ held →
    ∃ new ∈ groundPairs config gsId held, new ∉ s.actualLinks

def incoming (desired : Dict Pair LinkInfo) (s : Scheduler) : List Pair :=
  (groundPairs config gsId desired).filter (· ∉ s.actualLinks)

def outgoing (desired : Dict Pair LinkInfo) (s : Scheduler) : List Pair :=
  (groundPairs config gsId s.actualLinks).filter (· ∉ desired)

/-- The station has no long-delay contact, and the agents acknowledge the acquires of a new link for
every old one, or of all the new links. -/
structure EnoughAcknowledged (turn : Turn) (s : Scheduler) : Prop where
  isLocal : ∀ pair, gsIdForPair pair config.gsCapacities = some gsId →
    pair ∈ s.actualLinks ∨ pair ∈ turn.intent.desired → config.longDelay pair = false
  answered : ∃ acked : List Pair, acked.Sublist (incoming config gsId turn.intent.desired s) ∧
    (∀ pair ∈ acked, Acknowledges turn.surroundings .batchLinkUp .open pair) ∧
    ((outgoing config gsId turn.intent.desired s).length ≤ acked.length ∨
      acked = incoming config gsId turn.intent.desired s)

variable {config gsId} {env : Surroundings} {intent : DispatchIntent} {pass : PassPlan}
    {desired : Dict Pair LinkInfo} {pair : Pair} {pairs acked gone : List Pair}
    {s t u v : Scheduler}

theorem mem_groundPairs {links : Dict Pair V} : pair ∈ groundPairs config gsId links ↔
    pair ∈ links ∧ gsIdForPair pair config.gsCapacities = some gsId := by
  rw [groundPairs, List.mem_filter, decide_eq_true_iff]
  exact Iff.rfl

theorem groundPairs_nodup (links : Dict Pair V) :
    (groundPairs config gsId links).Nodup := links.keys_nodup.filter _

theorem mem_incoming : pair ∈ incoming config gsId desired s ↔
    gsIdForPair pair config.gsCapacities = some gsId ∧ pair ∈ desired ∧ pair ∉ s.actualLinks := by
  rw [incoming, List.mem_filter, mem_groundPairs, decide_eq_true_iff]
  tauto

theorem mem_outgoing : pair ∈ outgoing config gsId desired s ↔
    gsIdForPair pair config.gsCapacities = some gsId ∧ pair ∈ s.actualLinks ∧ pair ∉ desired := by
  rw [outgoing, List.mem_filter, mem_groundPairs, decide_eq_true_iff]
  tauto

/-- The pairs a segment is made of. -/
def OfSegment (config : SchedulerConfig) (gsId : NodeId) (pair : Pair) : Prop :=
  gsIdForPair pair config.gsCapacities = some gsId ∧ config.longDelay pair = false

/-- What the station holds: the old links but for those gone, and the acknowledged new ones. -/
def HeldAs (config : SchedulerConfig) (gsId : NodeId) (desired : Dict Pair LinkInfo) (s : Scheduler)
    (acked gone : List Pair) (held : Dict Pair ActiveLinkInfo) : Prop :=
  ∀ pair, OfSegment config gsId pair → (pair ∈ held ↔
    (pair ∈ s.actualLinks ∧ ¬ (pair ∉ desired ∧ pair ∈ gone)) ∨
      (pair ∈ desired ∧ pair ∉ s.actualLinks ∧ pair ∈ acked))

theorem HeldAs.length (h : HeldAs config gsId desired s acked gone held)
    (hlocal : ∀ pair, gsIdForPair pair config.gsCapacities = some gsId →
      pair ∈ s.actualLinks ∨ pair ∈ desired → config.longDelay pair = false) :
    (groundPairs config gsId s.actualLinks).length +
        ((incoming config gsId desired s).filter (· ∈ acked)).length ≤
      (groundPairs config gsId held).length +
        ((outgoing config gsId desired s).filter (· ∈ gone)).length := by
  let stays : Pair → Bool := fun pair => ¬ (pair ∉ desired ∧ pair ∈ gone)
  have hsub : (groundPairs config gsId s.actualLinks).filter stays ++
      (incoming config gsId desired s).filter (· ∈ acked) ⊆ groundPairs config gsId held := by
    intro pair hpair
    rcases List.mem_append.mp hpair with hpair | hpair
    · obtain ⟨hold, hstays⟩ := List.mem_filter.mp hpair
      obtain ⟨hheld, hstation⟩ := mem_groundPairs.mp hold
      refine mem_groundPairs.mpr ⟨(h pair ⟨hstation, hlocal pair hstation (.inl hheld)⟩).mpr ?_, hstation⟩
      exact .inl ⟨hheld, of_decide_eq_true hstays⟩
    · obtain ⟨hnew, hacked⟩ := List.mem_filter.mp hpair
      obtain ⟨hstation, hdesired, hfresh⟩ := mem_incoming.mp hnew
      refine mem_groundPairs.mpr ⟨(h pair ⟨hstation, hlocal pair hstation (.inr hdesired)⟩).mpr ?_, hstation⟩
      exact .inr ⟨hdesired, hfresh, of_decide_eq_true hacked⟩
  have hnodup : ((groundPairs config gsId s.actualLinks).filter stays ++
      (incoming config gsId desired s).filter (· ∈ acked)).Nodup := by
    refine List.Nodup.append ((groundPairs_nodup _).filter _)
      (((groundPairs_nodup _).filter _).filter _) fun pair hold hnew => ?_
    have hheld := (mem_groundPairs.mp (List.mem_filter.mp hold).1).1
    exact (mem_incoming.mp (List.mem_filter.mp hnew).1).2.2 hheld
  have hgone : (outgoing config gsId desired s).filter (· ∈ gone) =
      (groundPairs config gsId s.actualLinks).filter fun pair => !stays pair := by
    rw [outgoing, List.filter_filter]
    refine List.filter_congr fun pair _ => ?_
    simp only [stays, decide_not, Bool.not_not, Bool.decide_and]
    exact Bool.and_comm _ _
  have hsplit := List.length_eq_length_filter_add (l := groundPairs config gsId s.actualLinks) stays
  have hle := (List.subperm_of_subset hnodup hsub).length_le
  rw [List.length_append] at hle
  rw [hgone]
  omega

theorem length_desired :
    (groundPairs config gsId desired).length + (outgoing config gsId desired s).length =
      (groundPairs config gsId s.actualLinks).length + (incoming config gsId desired s).length := by
  have hkept : ((groundPairs config gsId desired).filter (· ∈ s.actualLinks)).Perm
      ((groundPairs config gsId s.actualLinks).filter (· ∈ desired)) := by
    refine (List.perm_ext_iff_of_nodup ((groundPairs_nodup _).filter _)
      ((groundPairs_nodup _).filter _)).mpr fun pair => ?_
    rw [List.mem_filter, List.mem_filter, mem_groundPairs, mem_groundPairs, decide_eq_true_iff,
      decide_eq_true_iff]
    tauto
  have hnew := List.length_eq_length_filter_add (l := groundPairs config gsId desired)
    (· ∈ s.actualLinks)
  have hold := List.length_eq_length_filter_add (l := groundPairs config gsId s.actualLinks)
    (· ∈ desired)
  have hlength := hkept.length_eq
  simp only [incoming, outgoing, decide_not] at *
  omega

/-! ### Commands since the start of a pass -/

theorem newCommands_since (h : before <:+ after) : newCommands before (events ++ after) =
      newCommands before after ++ (events.filterMap Event.command?).reverse := by
  obtain ⟨earlier, rfl⟩ := h
  rw [newCommands_append, ← List.append_assoc, newCommands_append, List.filterMap_append,
    List.reverse_append]

theorem newCommands_quiet (h : before <:+ after) (hquiet : ∀ sent, .command sent ∉ events) :
    newCommands before (events ++ after) = newCommands before after := by
  have hnone : events.filterMap Event.command? = [] := by
    refine List.filterMap_eq_nil_iff.mpr fun event hevent => ?_
    cases event with
    | command sent => exact absurd hevent (hquiet sent)
    | _ => rfl
  rw [newCommands_since h, hnone]
  exact List.append_nil _

theorem newCommands_command (h : before <:+ after) :
    newCommands before (.command sent :: after) = newCommands before after ++ [sent] := by
  have hsince : newCommands before ([.command sent] ++ after) = _ := newCommands_since h
  exact hsince

/-! ### The progress of a segment -/

/-- A replacement is acquired, and with it every one that the agents acknowledge. -/
def Replaced (config : SchedulerConfig) (gsId : NodeId) (env : Surroundings)
    (desired : Dict Pair LinkInfo) (s : Scheduler) (acked : List Pair) : Prop :=
  (∃ pair ∈ incoming config gsId desired s, pair ∈ acked) ∧
    ∀ pair ∈ incoming config gsId desired s, config.longDelay pair = false →
      Acknowledges env .batchLinkUp .open pair → pair ∈ acked

/-- Old links are gone only where the segment is replaced. -/
def Unbroken (config : SchedulerConfig) (gsId : NodeId) (env : Surroundings)
    (desired : Dict Pair LinkInfo) (s : Scheduler) (held : Dict Pair ActiveLinkInfo) : Prop :=
  ∃ acked gone, HeldAs config gsId desired s acked gone held ∧
    (gone = [] ∨ Replaced config gsId env desired s acked)

/-- How far a segment got: the acquired links and the old links gone, and what the commands found. -/
structure Progress (config : SchedulerConfig) (gsId : NodeId) (env : Surroundings)
    (desired : Dict Pair LinkInfo) (s : Scheduler) (acked gone : List Pair) (t : Scheduler) :
    Prop where
  since : s.log <:+ t.log
  held : HeldAs config gsId desired s acked gone t.actualLinks
  found : ∀ sent ∈ newCommands s.log t.log, Unbroken config gsId env desired s sent.heldActual
  stands : gone = [] ∨ Replaced config gsId env desired s acked

theorem Progress.unbroken (h : Progress config gsId env desired s acked gone t) :
    Unbroken config gsId env desired s t.actualLinks := ⟨acked, gone, h.held, h.stands⟩

variable {turn : Turn}

theorem Unbroken.enough (h : Unbroken config gsId turn.surroundings turn.intent.desired s held)
    (henough : EnoughAcknowledged config gsId turn s) :
    min (groundPairs config gsId s.actualLinks).length
      (groundPairs config gsId turn.intent.desired).length ≤ (groundPairs config gsId held).length := by
  obtain ⟨acked, gone, hheld, hstands⟩ := h
  have hlength := hheld.length henough.isLocal
  have hdesired : (groundPairs config gsId turn.intent.desired).length +
      (outgoing config gsId turn.intent.desired s).length = (groundPairs config gsId
        s.actualLinks).length + (incoming config gsId turn.intent.desired s).length := length_desired
  have hgone : ((outgoing config gsId turn.intent.desired s).filter (· ∈ gone)).length ≤
    (outgoing config gsId turn.intent.desired s).length := List.length_filter_le _ _
  rcases hstands with rfl | ⟨-, hacked⟩
  · have hnone : (outgoing config gsId turn.intent.desired s).filter (· ∈ ([] : List Pair)) = [] := by
      simp
    rw [hnone, List.length_nil] at hlength
    omega
  · obtain ⟨answered, hsub, hacks, hmany⟩ := henough.answered
    have hcount : answered.length ≤
        ((incoming config gsId turn.intent.desired s).filter (· ∈ acked)).length := by
      have hfilter : answered.filter (· ∈ acked) = answered := by
        refine List.filter_eq_self.mpr fun pair hpair => decide_eq_true ?_
        obtain ⟨hstation, hwanted, -⟩ := mem_incoming.mp (hsub.subset hpair)
        exact hacked pair (hsub.subset hpair) (henough.isLocal pair hstation (.inr hwanted))
          (hacks pair hpair)
      rw [← hfilter]
      exact (hsub.filter _).length_le
    rcases hmany with hmany | rfl
    · omega
    · omega

theorem Unbroken.stands (h : Unbroken config gsId env desired s held)
    (hlocal : ∀ pair, gsIdForPair pair config.gsCapacities = some gsId →
      pair ∈ s.actualLinks ∨ pair ∈ desired → config.longDelay pair = false)
    (hold : pair ∈ groundPairs config gsId s.actualLinks) (habsent : pair ∉ held) :
    ∃ new ∈ groundPairs config gsId held, new ∉ s.actualLinks := by
  obtain ⟨acked, gone, hheld, hstands⟩ := h
  obtain ⟨hmem, hstation⟩ := mem_groundPairs.mp hold
  have hgone : pair ∈ gone := by
    by_contra hkept
    refine habsent ((hheld pair ⟨hstation, hlocal pair hstation (.inl hmem)⟩).mpr ?_)
    exact .inl ⟨hmem, fun hgone => hkept hgone.2⟩
  rcases hstands with rfl | ⟨⟨new, hnew, hacked⟩, -⟩
  · cases hgone
  · obtain ⟨hstation, hdesired, hfresh⟩ := mem_incoming.mp hnew
    refine ⟨new, mem_groundPairs.mpr ⟨?_, hstation⟩, hfresh⟩
    exact (hheld new ⟨hstation, hlocal new hstation (.inr hdesired)⟩).mpr
      (.inr ⟨hdesired, hfresh, hacked⟩)

theorem Progress.makes
    (h : Progress config gsId turn.surroundings turn.intent.desired s acked gone t)
    (henough : EnoughAcknowledged config gsId turn s) :
    MakesBeforeBreaks config gsId turn.intent.desired s t := by
  have hunbroken : ∀ held ∈ moments s t,
      Unbroken config gsId turn.surroundings turn.intent.desired s held := by
    intro held hheld
    rcases List.mem_append.mp hheld with hcommand | hlast
    · obtain ⟨sent, hsent, rfl⟩ := List.mem_map.mp hcommand
      exact h.found sent hsent
    · rw [List.mem_singleton.mp hlast]
      exact h.unbroken
  exact ⟨fun held hheld => (hunbroken held hheld).enough henough, fun held hheld _ =>
    (hunbroken held hheld).stands henough.isLocal⟩

/-! ### Contacts -/

/-- Moving contacts leaves local links alone. -/
structure ContactMoves (config : SchedulerConfig) (s t : Scheduler) : Prop where
  records : ∀ pair, config.longDelay pair = false →
    record? t (.current pair) = record? s (.current pair)
  log : ∃ events, t.log = events ++ s.log ∧ ∀ sent, Event.command sent ∈ events →
    ∀ pair, config.longDelay pair = false → sent.heldActual.get? pair = record? s (.current pair)

theorem ContactMoves.refl : ContactMoves config s s :=
  ⟨fun _ _ => rfl, [], rfl, fun _ hsent => absurd hsent List.not_mem_nil⟩

theorem ContactMoves.trans (h : ContactMoves config s t) (h' : ContactMoves config t u) :
    ContactMoves config s u := by
  obtain ⟨events, hlog, hsent⟩ := h.log
  obtain ⟨later, hlater, hlaterSent⟩ := h'.log
  refine ⟨fun pair hlocal => (h'.records pair hlocal).trans (h.records pair hlocal), later ++ events,
    by rw [hlater, hlog, List.append_assoc], fun sent hmem => ?_⟩
  rcases List.mem_append.mp hmem with hnew | hold
  · exact fun pair hlocal => (hlaterSent sent hnew pair hlocal).trans (h.records pair hlocal)
  · exact hsent sent hold

theorem contactMoves_of_records (events : List Event) (hlog : t.log = events ++ s.log)
    (hquiet : ∀ sent, Event.command sent ∉ events)
    (hrecords : ∀ pair, config.longDelay pair = false →
      record? t (.current pair) = record? s (.current pair)) : ContactMoves config s t :=
  ⟨hrecords, events, hlog, fun sent hsent => absurd hsent (hquiet sent)⟩

theorem contactMoves_afterCommand : ContactMoves config s (afterCommand env frame plan s) := by
  refine ⟨fun _ _ => record?_afterCommand, [.command (sentIn env frame plan s)], rfl,
    fun sent hsent => ?_⟩
  obtain rfl := Event.command.inj (List.mem_singleton.mp hsent)
  exact fun _ _ => rfl

theorem longDelay_of_grounds {r : CloseRecord} (h : Dispatchable config intent pass s)
    (hopen : LocalsOpen config u) (hoverlap : OverlapsLong config u)
    (hheld : record? u r.key = some r.info) (hgrounds : CloseGrounds intent pass v r) :
    config.longDelay r.key.pair = true := by
  by_contra hlocal
  rw [Bool.not_eq_true] at hlocal
  cases hkey : r.key with
  | overlap pair contact =>
    rw [hkey] at hheld hlocal
    exact Bool.false_ne_true (hlocal.symm.trans (hoverlap pair contact r.info hheld))
  | current pair =>
    rw [hkey] at hheld hlocal
    have hdrain := hopen pair r.info hheld hlocal
    cases hgrounds with
    | forced cause _ _ hplanned =>
      obtain ⟨d, hd, hpair⟩ := List.mem_map.mp (hplanned pair hkey)
      have hlong := h.forced d hd
      rw [hpair] at hlong
      exact Bool.false_ne_true (hlocal.symm.trans hlong)
    | due now _ _ hends hsome =>
      rw [hends, dueNodes, hdrain] at hsome
      exact hsome rfl
    | retargeted drain _ hsome => cases hdrain.symm.trans hsome

theorem contactMoves_of_effect (h : Dispatchable config intent pass s)
    (hopen : LocalsOpen config u) (hoverlap : OverlapsLong config u)
    (heffect : Effect config env intent pass .contacts u v) : ContactMoves config u v := by
  have hother : ∀ {pair other : Pair}, config.longDelay other = true →
      config.longDelay pair = false → RecordKey.current pair ≠ .current other := by
    rintro pair other hlong hlocal ⟨⟩
    exact Bool.false_ne_true (hlocal.symm.trans hlong)
  have hended : ∀ {key : RecordKey} {info : ActiveLinkInfo} {reason : String}
      {losses : List LinkEndLoss}, (∀ pair, config.longDelay pair = false →
        RecordKey.current pair ≠ key) →
      ContactMoves config u (CloseRounds.tornDown config key info reason losses u) := by
    intro key info reason losses hkey
    refine contactMoves_of_records [.linkDown key.pair info.contact reason losses] log_tornDown
      (fun _ hsent => nomatch List.mem_singleton.mp hsent) fun pair hlocal => ?_
    rw [record?_tornDown, if_neg (hkey pair hlocal)]
  cases heffect with
  | station => exact contactMoves_of_records [] rfl nofun fun _ _ => record?_station
  | losses => exact contactMoves_of_records [] rfl nofun fun _ _ => record?_losses
  | reading =>
    exact contactMoves_of_records [_] rfl (fun _ hsent => nomatch List.mem_singleton.mp hsent)
      fun _ _ => record?_afterReading
  | stopSent | proofSent | closeSent | prepareSent | openSent | latencySent =>
    exact contactMoves_afterCommand
  | drained _ other info now drain sent earlier _ hlong =>
    refine contactMoves_of_records [] log_setRecord nofun fun pair hlocal => ?_
    rw [record?_setRecord, if_neg (hother hlong hlocal)]
  | relocated _ other _ hlong =>
    refine contactMoves_of_records [] log_relocateContact nofun fun pair hlocal => ?_
    have hne : (RecordKey.current pair).pair ≠ other := fun heq =>
      hother hlong hlocal (congrArg RecordKey.current heq)
    exact record?_relocateContact hne
  | shrunk _ key info drain left gone hheld hdrain =>
    refine contactMoves_of_records [] log_setRecord nofun fun pair hlocal => ?_
    rw [record?_setRecord, if_neg]
    rintro rfl
    cases (hopen pair info hheld hlocal).symm.trans hdrain
  | tornDown _ key info gone reason losses hheld _ hgone =>
    refine hended fun pair hlocal heq => ?_
    subst heq
    cases hgone with
    | closed batch r sent _ hkey hinfo _ hgrounds =>
      rw [← hkey, ← hinfo] at hheld
      have hlong := longDelay_of_grounds h hopen hoverlap hheld hgrounds
      rw [hkey] at hlong
      exact Bool.false_ne_true (hlocal.symm.trans hlong)
    | reopened _ _ _ hkey => cases hkey
  | ended _ other old reason losses _ hprepared =>
    exact hended fun pair hlocal => hother (h.opened other hprepared.1) hlocal
  | linkUps _ pairs published =>
    exact contactMoves_of_records _ rfl command_notMem_linkUps fun _ _ => record?_afterEvents
  | latencyUpdates _ events hevents =>
    exact contactMoves_of_records events rfl (command_notMem_latencyUpdates hevents)
      fun _ _ => record?_afterEvents
  | opened _ other info pairs sent _ hpairs _ hsent =>
    refine contactMoves_of_records [] log_addActual nofun fun pair hlocal => ?_
    rw [record?_addActual, if_neg (hother (h.opened other (hsent.opening other hpairs)) hlocal)]
  | retimed _ _ pairs hpairs hretimed =>
    refine contactMoves_of_records [] hretimed.log nofun fun pair hlocal => ?_
    rw [hretimed.current, if_neg]
    exact fun hmem => hother (h.retimed pair (hpairs pair hmem)) hlocal rfl

theorem contactMoves_of_reaches (h : Dispatchable config intent pass s)
    (hopen : LocalsOpen config s) (hoverlap : OverlapsLong config s)
    (hreaches : Reaches config env intent pass .contacts s t) : ContactMoves config s t := by
  have hinvariant := hreaches.invariant (I := fun u => LocalsOpen config u ∧ OverlapsLong config u ∧
    ContactMoves config s u) ?_ ⟨hopen, hoverlap, .refl⟩
  · exact hinvariant.2.2
  · rintro u v heffect ⟨hu, hlong, hmoves⟩
    exact ⟨localsOpen_of_effect heffect hu, overlapsLong_of_effect heffect hlong,
      hmoves.trans (contactMoves_of_effect h hu hlong heffect)⟩

/-! ### Steps of a segment -/

theorem HeldAs.congr {held' : Dict Pair ActiveLinkInfo}
    (h : HeldAs config gsId desired s acked gone held)
    (hsame : ∀ pair, OfSegment config gsId pair → (pair ∈ held' ↔ pair ∈ held)) :
    HeldAs config gsId desired s acked gone held' := fun pair hof =>
  (hsame pair hof).trans (h pair hof)

theorem mem_iff_record? : pair ∈ t.actualLinks ↔ record? t (.current pair) ≠ none := by
  rw [Dict.mem_iff]
  exact Option.ne_none_iff_exists'.symm

section Steps

variable (h : Progress config gsId env desired s acked gone t)

include h

theorem Progress.next (hsince : s.log <:+ u.log)
    (hcommands : newCommands s.log u.log = newCommands s.log t.log ++ commands)
    (hsent : ∀ sent ∈ commands, ∀ pair, OfSegment config gsId pair →
      (pair ∈ sent.heldActual ↔ pair ∈ t.actualLinks)) {acked' gone' : List Pair}
    (hheld : HeldAs config gsId desired s acked' gone' u.actualLinks)
    (hstands : gone' = [] ∨ Replaced config gsId env desired s acked') :
    Progress config gsId env desired s acked' gone' u where
  since := hsince
  held := hheld
  found := by
    rw [hcommands]
    refine List.forall_mem_append.mpr ⟨h.found, fun sent hmem => ?_⟩
    exact ⟨acked, gone, h.held.congr (hsent sent hmem), h.stands⟩
  stands := hstands

theorem Progress.quiet
    (hlog : u.log = events ++ t.log) (hquiet : ∀ sent, Event.command sent ∉ events)
    (hrecords : ∀ pair, OfSegment config gsId pair → (pair ∈ u.actualLinks ↔ pair ∈
      t.actualLinks)) : Progress config gsId env desired s acked gone u := by
  have hcommands : newCommands s.log u.log = newCommands s.log t.log ++ [] := by
    rw [hlog, newCommands_quiet h.since hquiet, List.append_nil]
  refine h.next ?_ hcommands nofun (h.held.congr hrecords) h.stands
  rw [hlog]
  exact h.since.trans (List.suffix_append _ _)

theorem Progress.command {by' : Surroundings} :
    Progress config gsId env desired s acked gone (afterCommand by' frame plan t) := by
  refine h.next (h.since.trans (List.suffix_cons _ _)) (newCommands_command h.since)
    (fun sent hsent => ?_) h.held h.stands
  rw [List.mem_singleton.mp hsent]
  exact fun _ _ => Iff.rfl

/-- A command and the events it causes, with the records they lead to. -/
theorem Progress.after_command {by' : Surroundings} {acked' gone' : List Pair}
    (hlog : u.log = events ++ .command (sentIn by' frame plan t) :: t.log)
    (hquiet : ∀ sent, Event.command sent ∉ events)
    (hheld : HeldAs config gsId desired s acked' gone' u.actualLinks)
    (hstands : gone' = [] ∨ Replaced config gsId env desired s acked') :
    Progress config gsId env desired s acked' gone' u := by
  have hcommand : Progress config gsId env desired s acked gone (afterCommand by' frame plan t) :=
    h.command
  have hcommands : newCommands s.log u.log =
      newCommands s.log (afterCommand by' frame plan t).log ++ [] := by
    rw [hlog, List.append_nil]
    exact newCommands_quiet hcommand.since hquiet
  refine hcommand.next ?_ hcommands nofun hheld hstands
  rw [hlog]
  exact hcommand.since.trans (List.suffix_append _ _)

end Steps

theorem progress_of_contactMoves (h : Progress config gsId env desired s [] [] t)
    (hmoves : ContactMoves config t u) : Progress config gsId env desired s [] [] u := by
  obtain ⟨events, hlog, hsent⟩ := hmoves.log
  have hcommands : newCommands s.log u.log =
      newCommands s.log t.log ++ (events.filterMap Event.command?).reverse := by
    rw [hlog, newCommands_since h.since]
  refine h.next ?_ hcommands (fun sent hmem pair hof => ?_) (h.held.congr fun pair hof => ?_) h.stands
  · rw [hlog]
    exact h.since.trans (List.suffix_append _ _)
  · obtain ⟨event, hevent, hcommand⟩ := List.mem_filterMap.mp (List.mem_reverse.mp hmem)
    cases event with
    | command sent' =>
      obtain rfl := Option.some.inj hcommand
      rw [Dict.mem_iff, hsent sent' hevent pair hof.2]
      exact Dict.mem_iff.symm
    | _ => cases hcommand
  · rw [mem_iff_record?, mem_iff_record?, hmoves.records pair hof.2]

/-! ### Stages of the dispatch -/

section Stages

variable {downs ups : List Pair}

theorem HeldAs.released (h : HeldAs config gsId desired s acked [] t.actualLinks)
    (hrecords : ∀ pair, pair ∈ u.actualLinks ↔ pair ∈ t.actualLinks ∧ pair ∉ gone)
    (hgone : ∀ pair ∈ gone, OfSegment config gsId pair → pair ∈ outgoing config gsId desired s) :
    HeldAs config gsId desired s acked gone u.actualLinks := by
  intro pair hof
  rw [hrecords, h pair hof]
  constructor
  · rintro ⟨⟨hold, -⟩ | hnew, hkept⟩
    · exact .inl ⟨hold, fun hgone => hkept hgone.2⟩
    · exact .inr hnew
  · rintro (⟨hold, hstays⟩ | hnew)
    · refine ⟨.inl ⟨hold, fun hgone => List.not_mem_nil hgone.2⟩, fun hmem => hstays ⟨?_, hmem⟩⟩
      exact (mem_outgoing.mp (hgone pair hmem hof)).2.2
    · refine ⟨.inr hnew, fun hmem => hnew.2.1 ?_⟩
      exact (mem_outgoing.mp (hgone pair hmem hof)).2.1

/-- A release stage of pairs outside the segment, or of a replaced one. -/
theorem wp_releaseStage_progress (h : Progress config gsId env intent.desired s acked [] t)
    (hdowns : (∀ pair ∈ downs, ¬ OfSegment config gsId pair) ∨
      Replaced config gsId env intent.desired s acked ∧
        ∀ pair ∈ downs, OfSegment config gsId pair → pair ∈ outgoing config gsId intent.desired s) :
    wp (releaseStage config env intent downs) t
      (fun _ u => ∃ gone, Progress config gsId env intent.desired s acked gone u)
      (fun _ u => Progress config gsId env intent.desired s acked [] u) := by
  rw [releaseStage, wp_ite]
  refine ⟨fun _ => ?_, fun _ => ⟨[], h⟩⟩
  rw [wp_bind]
  refine wp_releaseLinks (fun _ => h) fun plan events hplan hevents => ?_
  have hquiet := command_notMem_localDowns hevents
  refine ⟨fun _ => h.command.quiet rfl hquiet fun _ _ => Iff.rfl, fun _ g _ => ?_⟩
  let result := resultIn config env (releaseFrame t downs intent.downReasons) plan t
  have hsucceeded : ∀ pair ∈ result.succeededPairs, pair ∈ downs :=
    fun pair hpair => mem_sortedSet.mp (succeededPairs_subset hpair)
  have hrecords : ∀ pair, pair ∈ (removeAll config (sortedSet result.succeededPairs)
      { afterEvents events (afterCommand env (releaseFrame t downs intent.downReasons) plan t) with
        gsActuation := g }).actualLinks ↔ pair ∈ t.actualLinks ∧ pair ∉ result.succeededPairs := by
    intro pair
    rw [mem_iff_record?, record?_removeAll, mem_iff_record?]
    have hkey : RecordKey.current pair ∈ (sortedSet result.succeededPairs).map
        RecordKey.current ↔ pair ∈ result.succeededPairs := by
      rw [List.mem_map_of_injective fun _ _ => RecordKey.current.inj, mem_sortedSet]
    split_ifs with hgone
    · exact iff_of_false (fun hne => hne rfl) fun hkept => hkept.2 (hkey.mp hgone)
    · exact (and_iff_left fun hmem => hgone (hkey.mpr hmem)).symm
  rcases hdowns with hother | ⟨hreplaced, hout⟩
  · refine ⟨[], h.after_command log_removeAll hquiet (h.held.congr fun pair hof => ?_) (.inl rfl)⟩
    rw [hrecords]
    exact and_iff_left fun hmem => hother pair (hsucceeded pair hmem) hof
  · refine ⟨result.succeededPairs, h.after_command log_removeAll hquiet ?_ (.inr hreplaced)⟩
    exact h.held.released hrecords fun pair hpair => hout pair (hsucceeded pair hpair)

theorem wp_acquireStage_progress (h : Progress config gsId env intent.desired s [] [] t)
    (hups : ∀ pair ∈ ups, OfSegment config gsId pair → pair ∈ incoming config gsId intent.desired s) :
    wp (acquireStage config env intent ups) t
      (fun added u => Progress config gsId env intent.desired s added [] u ∧
        ∀ pair ∈ ups, Acknowledges env .batchLinkUp .open pair → pair ∈ added)
      (fun _ u => Progress config gsId env intent.desired s [] [] u) := by
  rw [acquireStage, wp_ite]
  refine ⟨fun _ => ?_, fun hempty => ⟨h, fun pair hpair => ?_⟩⟩
  swap
  · rw [not_not.mp hempty] at hpair
    cases hpair
  rw [wp_bind]
  refine wp_acquireLinks (fun _ => h) fun plan hplan hasked => ⟨fun _ published _ =>
    h.command.quiet rfl command_notMem_linkUps fun _ _ => Iff.rfl, fun g _ => ⟨?_, fun pair hpair hack => ?_⟩⟩
  · refine h.after_command log_addAll command_notMem_linkUps (fun pair hof => ?_) (.inl rfl)
    rw [mem_iff_record?, record?_addAll fun pair hpair => (hasked pair hpair).2]
    by_cases hnew : pair ∈ (resultIn config env (upFrame intent.desired .open ups) plan
        t).succeededPairs
    · obtain ⟨hup, hdesired⟩ := hasked pair (mem_sortedSet.mpr hnew)
      obtain ⟨want, hwant⟩ := Dict.mem_iff.mp hdesired
      rw [if_pos (List.mem_map_of_mem (mem_sortedSet.mpr hnew))]
      refine iff_of_true (by simp [RecordKey.pair, hwant]) (.inr ?_)
      exact ⟨hdesired, (mem_incoming.mp (hups pair hup hof)).2.2, hnew⟩
    · rw [if_neg (by simpa [mem_sortedSet] using hnew)]
      refine mem_iff_record?.symm.trans ((h.held pair hof).trans (or_congr_right ?_))
      exact iff_of_false (fun hnone => List.not_mem_nil hnone.2.2) fun hacked => hnew hacked.2.2
  · exact succeeded_of_acknowledges hack rfl (mem_sortedSet.mpr hpair)
      (exists_planned_of_linkUp hplan (mem_sortedSet.mpr hpair))

theorem wp_updateLatencies_progress (h : Progress config gsId env intent.desired s acked gone t)
    (hpairs : ∀ pair ∈ pairs, pair ∈ s.actualLinks ∧ pair ∈ intent.desired) :
    wp (updateLatencies config env intent pairs) t
      (fun _ => Progress config gsId env intent.desired s acked gone)
      (fun _ => Progress config gsId env intent.desired s acked gone) := by
  rw [updateLatencies, wp_when]
  refine ⟨fun _ => ?_, fun _ => h⟩
  rw [wp_bind]
  refine wp_sendAuthoritativeLatencyUpdates (fun _ => h) fun plan events hplan hevents => ?_
  have hsent : Progress config gsId env intent.desired s acked gone
      (afterEvents events (afterCommand env (latencyFrame intent.desired pairs) plan t)) :=
    h.command.quiet rfl (command_notMem_latencyUpdates hevents) fun _ _ => Iff.rfl
  refine ⟨fun _ => hsent, fun u hretimed => ?_⟩
  have hu : Progress config gsId env intent.desired s acked gone u := by
    refine hsent.quiet (hretimed.log.trans (List.nil_append _).symm) (by simp) fun pair hof => ?_
    rw [mem_iff_record?, hretimed.current, mem_iff_record?]
    split_ifs with hmem
    · obtain ⟨hheld, hdesired⟩ := hpairs pair (mem_sortedSet.mp (succeededPairs_subset hmem))
      obtain ⟨want, hwant⟩ := Dict.mem_iff.mp hdesired
      refine iff_of_true (by rw [hwant]; exact Option.some_ne_none _) ?_
      have hkept : pair ∈ t.actualLinks :=
        (h.held pair hof).mpr (.inl ⟨hheld, fun hgone => hgone.1 hdesired⟩)
      exact mem_iff_record?.mp hkept
    · exact Iff.rfl
  exact wp_handleActuationResult (fun g _ => hu.quiet (List.nil_append _).symm (by simp) fun _ _ => Iff.rfl)
    fun _ => hu

end Stages

/-! ### The dispatch of a segment -/

section Dispatch

variable {toRemove toAdd forced : List Pair} {c : MbbClassification}

theorem not_ofSegment_of_preRelease
    (hclass : classifyMbbChanges toRemove toAdd (Scheduler.occupancy config t) forced = .ok c)
    (hsegment : gsId ∈ c.mbbSegments)
    (hpair : pair ∈ c.islDowns ++ c.bbmSegments.flatMap c.gsDowns) :
    ¬ OfSegment config gsId pair := by
  rintro ⟨hstation, -⟩
  obtain ⟨hislDowns, -, hgsDowns, -, hsegments⟩ := classifyMbbChanges_eq_ok hclass
  rcases List.mem_append.mp hpair with hisl | hground
  · rw [hislDowns] at hisl
    cases (of_decide_eq_true (List.mem_filter.mp hisl).2).symm.trans hstation
  · obtain ⟨other, hother, hdown⟩ := List.mem_flatMap.mp hground
    rw [hgsDowns] at hdown
    have hsame := of_decide_eq_true (List.mem_filter.mp hdown).2
    obtain rfl : other = gsId := Option.some.inj (hsame.symm.trans hstation)
    have hmode := ((hsegments .mbb other).mp hsegment).2
    cases hmode.symm.trans ((hsegments .bbm other).mp hother).2

theorem acquired_of_finalRelease {added : List Pair}
    (hclass : classifyMbbChanges toRemove toAdd (Scheduler.occupancy config t) forced = .ok c)
    (hpair : pair ∈ finalReleaseDowns c added)
    (hstation : gsIdForPair pair config.gsCapacities = some gsId) :
    pair ∈ toRemove ∧ ∃ new ∈ toAdd, gsIdForPair new config.gsCapacities = some gsId ∧ new ∈ added := by
  obtain ⟨-, -, hgsDowns, hgsUps, -⟩ := classifyMbbChanges_eq_ok hclass
  obtain ⟨other, hother, hdown⟩ := List.mem_flatMap.mp hpair
  obtain ⟨new, hnew, hadded⟩ := of_decide_eq_true (List.mem_filter.mp hother).2
  rw [hgsDowns] at hdown
  rw [hgsUps] at hnew
  obtain ⟨hremove, hsame⟩ := List.mem_filter.mp hdown
  obtain rfl : other = gsId := Option.some.inj ((of_decide_eq_true hsame).symm.trans hstation)
  obtain ⟨hadd, hnewStation⟩ := List.mem_filter.mp hnew
  exact ⟨hremove, new, hadd, of_decide_eq_true hnewStation, hadded⟩

/-- The changes of a station's local links that a pass dispatches: the releases are of old links,
and the acquires, if there are any, are all the new links. -/
structure Dispatched (config : SchedulerConfig) (gsId : NodeId) (desired : Dict Pair LinkInfo)
    (s : Scheduler) (toRemove toAdd : List Pair) : Prop where
  old : ∀ pair ∈ toRemove, OfSegment config gsId pair → pair ∈ outgoing config gsId desired s
  new : ∀ pair ∈ toAdd, gsIdForPair pair config.gsCapacities = some gsId →
    pair ∈ incoming config gsId desired s ∧
      ∀ other ∈ incoming config gsId desired s, config.longDelay other = false → other ∈ toAdd

theorem wp_reconcileMbb_progress (hforced : forcedBbm config t intent toRemove toAdd = .ok forced)
    (hclass : classifyMbbChanges toRemove toAdd (Scheduler.occupancy config t) forced = .ok c)
    (hsegment : gsId ∈ c.mbbSegments)
    (hchanges : Dispatched config gsId intent.desired s toRemove toAdd)
    (h : Progress config gsId env intent.desired s [] [] t) :
    wp (reconcileMbb config env intent toRemove toAdd) t
      (fun _ u => ∃ acked gone, Progress config gsId env intent.desired s acked gone u)
      (fun _ u => ∃ acked gone, Progress config gsId env intent.desired s acked gone u) := by
  rw [reconcileMbb, wp_bind, wp_get, wp_bind, wp_lift]
  refine ⟨fun forced' hforced' => ?_, fun _ _ => ⟨[], [], h⟩⟩
  obtain rfl := Except.ok.inj (hforced.symm.trans hforced')
  rw [wp_bind, wp_lift]
  refine ⟨fun c' hclass' => ?_, fun _ _ => ⟨[], [], h⟩⟩
  obtain rfl := Except.ok.inj (hclass.symm.trans hclass')
  rw [wp_bind]
  refine wp_mono (wp_releaseStage_progress h (.inl fun pair hpair =>
    not_ofSegment_of_preRelease hclass hsegment hpair)) ?_ fun _ u hu => ⟨[], [], hu⟩
  rintro failedGs u ⟨gone, hu⟩
  -- Without an acquired replacement nothing of the segment is gone.
  obtain rfl : gone = [] := hu.stands.resolve_right fun hreplaced => by
    obtain ⟨⟨_, -, hnone⟩, -⟩ := hreplaced
    cases hnone
  rw [wp_bind, wp_get, wp_bind, wp_lift]
  refine ⟨fun ups hups => ?_, fun _ _ => ⟨[], [], hu⟩⟩
  rw [wp_bind]
  refine wp_mono (wp_acquireStage_progress hu fun pair hpair hof =>
    (hchanges.new pair (mem_toAdd_of_mem_acquireUps hclass hups hpair) hof.1).1) ?_
    fun _ v hv => ⟨[], [], hv⟩
  rintro added v ⟨hv, hacks⟩
  rw [wp_bind]
  refine wp_mono (wp_releaseStage_progress hv ?_) (fun _ _ hw => ⟨added, hw⟩)
    fun _ w hw => ⟨added, [], hw⟩
  by_cases hother : ∀ pair ∈ finalReleaseDowns c added, ¬ OfSegment config gsId pair
  · exact .inl hother
  · push Not at hother
    obtain ⟨old, hold, hof⟩ := hother
    obtain ⟨-, new, hnew, hstation, hadded⟩ := acquired_of_finalRelease hclass hold hof.1
    obtain ⟨hincoming, hall⟩ := hchanges.new new hnew hstation
    refine .inr ⟨⟨⟨new, hincoming, hadded⟩, fun pair hpair hlocal => hacks pair ?_⟩, fun pair hpair hof =>
      hchanges.old pair (acquired_of_finalRelease hclass hpair hof.1).1 hof⟩
    refine mem_acquireUps_of_segment hups hsegment ?_
    obtain ⟨-, -, -, hgsUps, -⟩ := classifyMbbChanges_eq_ok hclass
    rw [hgsUps]
    exact List.mem_filter.mpr ⟨hall pair hpair hlocal, decide_eq_true (mem_incoming.mp hpair).1⟩

end Dispatch

/-! ### Passes -/

/-- A turn up to the dispatch of its local links. -/
def toLocalDispatch (config : SchedulerConfig) (turn : Turn) : SchedulerM PassPlan := do
  modify (turn.begin config)
  modify fun s => { s with gsActuation := turn.intent.verified }
  let pass ← planPass config turn.surroundings turn.intent
  modify fun s => { s with
    actualLinks := s.actualLinks.mapValues (refreshAuthority turn.intent.desired) }
  «when» (¬ pass.LongDelayIdle)
    (reconcileLongDelay config turn.surroundings turn.intent pass.longDelay pass.due)
  return pass

/-- How a turn classifies the changes of its local links, if it comes to that. -/
def classified? (config : SchedulerConfig) (s : Scheduler) (turn : Turn) :
    Option MbbClassification :=
  match (toLocalDispatch config turn).exec s with
  | (.ok pass, t) =>
      match forcedBbm config t turn.intent pass.toRemove pass.toAdd with
      | .ok forced =>
          (classifyMbbChanges pass.toRemove pass.toAdd (Scheduler.occupancy config t) forced).toOption
      | .error _ => none
  | (.error _, _) => none

def IsSegment (config : SchedulerConfig) (s : Scheduler) (turn : Turn) (gsId : NodeId) : Prop :=
  ∃ c ∈ classified? config s turn, gsId ∈ c.mbbSegments

instance (config : SchedulerConfig) (s : Scheduler) (turn : Turn) (gsId : NodeId) :
    Decidable (IsSegment config s turn gsId) := Option.decidableExistsMem _

/-- What a turn does once it has moved its contacts. -/
def localDispatch (config : SchedulerConfig) (turn : Turn) (pass : PassPlan) : SchedulerM Unit :=
  «when» (¬ (pass.toRemove = [] ∧ pass.toAdd = [] ∧ pass.toUpdateLatency = [] ∧
      pass.LongDelayIdle)) do
    reconcileLocal config turn.surroundings turn.intent pass
    updateLatencies config turn.surroundings turn.intent pass.toUpdateLatency

theorem wp_runTurn_dispatch {Q : Unit → Scheduler → Prop} :
    wp (runTurn config turn) s Q E ↔ wp (toLocalDispatch config turn) s
      (fun pass t => wp (localDispatch config turn pass) t Q E) E := by
  have hdispatch : ∀ pass t, wp (dispatchPass config turn.surroundings turn.intent pass) t Q E ↔
      wp («when» (¬ pass.LongDelayIdle)
        (reconcileLongDelay config turn.surroundings turn.intent pass.longDelay pass.due)) t
        (fun _ t => wp (localDispatch config turn pass) t Q E) E := by
    intro pass t
    by_cases hidle : pass.toRemove = [] ∧ pass.toAdd = [] ∧ pass.toUpdateLatency = [] ∧
        pass.LongDelayIdle
    · simp only [dispatchPass, localDispatch, wp_when, hidle, not_true_eq_false, and_self,
        false_imp_iff, true_imp_iff, true_and, not_false_eq_true]
    · simp only [dispatchPass, localDispatch, wp_when, wp_bind, hidle, not_false_eq_true,
        true_imp_iff, not_true_eq_false, false_imp_iff, and_true]
  simp only [runTurn, toLocalDispatch, reconcileLinks, wp_bind, wp_modify, wp_pure, hdispatch]

theorem wp_toLocalDispatch {Q : PassPlan → Scheduler → Prop} :
    wp (toLocalDispatch config turn) s Q E ↔
      (∀ plan, planned config turn.intent (turn.begin config s) = .ok plan →
        let pass := passOf config turn.intent (turn.begin config s) plan
          (turn.surroundings.clock (turn.begin config s).readings)
        wp («when» (¬ pass.LongDelayIdle)
            (reconcileLongDelay config turn.surroundings turn.intent pass.longDelay pass.due))
          (plannedState turn.surroundings turn.intent (turn.begin config s)) (fun _ => Q pass) E) ∧
      ∀ e, planned config turn.intent (turn.begin config s) = .error e →
        E e (verifiedState turn.intent (turn.begin config s)) := by
  simp only [toLocalDispatch, planPass, wp_bind, wp_modify, wp_get, wp_lift, wp_monotonic, wp_pure]
  exact Iff.rfl

theorem wp_toLocalDispatch_reaches : wp (toLocalDispatch config turn) s
    (fun pass t => ∃ plan, planned config turn.intent (turn.begin config s) = .ok plan ∧
      pass = passOf config turn.intent (turn.begin config s) plan
        (turn.surroundings.clock (turn.begin config s).readings) ∧
      Reaches config turn.surroundings turn.intent pass .contacts
        (plannedState turn.surroundings turn.intent (turn.begin config s)) t)
    (fun _ _ => True) := by
  refine wp_toLocalDispatch.mpr ⟨fun plan hplan => ?_, fun _ _ => trivial⟩
  rw [wp_when]
  refine ⟨fun _ => ?_, fun _ => ⟨plan, hplan, rfl, .refl⟩⟩
  exact wp_mono (wp_reconcileLongDelay_reaches (dispatchable_passOf hplan))
    (fun _ t ht => ⟨plan, hplan, rfl, ht⟩) fun _ _ _ => trivial

theorem localsOpen_plannedState (h : LocalsOpen config s) :
    LocalsOpen config (plannedState turn.surroundings turn.intent (turn.begin config s)) := by
  intro pair info hinfo hlocal
  obtain ⟨held, hheld, _, _, _, rfl⟩ := record?_refreshed hinfo
  rw [record?_afterReading, verifiedState, record?_station, record?_begin] at hheld
  exact h pair held hheld hlocal

theorem wp_runTurn_localsOpen (h : LocalsOpen config s) :
    wp (runTurn config turn) s (fun _ => LocalsOpen config) (fun _ => LocalsOpen config) := by
  refine wp_runTurn_reaches (fun pair info hinfo => h pair info (record?_begin ▸ hinfo))
    fun plan t _ hreaches => ?_
  exact hreaches.invariant (fun _ _ _ => localsOpen_of_effect) (localsOpen_plannedState h)

theorem progress_plannedState : Progress config gsId env desired s [] []
    (plannedState turn.surroundings turn.intent (turn.begin config s)) := by
  have hlog : (plannedState turn.surroundings turn.intent (turn.begin config s)).log =
      [.clockRead (turn.surroundings.clock (turn.begin config s).readings)] ++ s.log :=
    congrArg (Event.clockRead _ :: ·) log_begin
  have hcommands : newCommands s.log
      (plannedState turn.surroundings turn.intent (turn.begin config s)).log = [] := by
    rw [hlog, newCommands_append]
    rfl
  refine ⟨?_, fun pair hof => ?_, ?_, .inl rfl⟩
  · rw [hlog]
    exact List.suffix_append _ _
  · have hget : record? (plannedState turn.surroundings turn.intent (turn.begin config s))
        (.current pair) = (record? (turn.begin config s) (.current pair)).map
          (refreshAuthority turn.intent.desired pair) := Dict.get?_mapValues
    rw [mem_iff_record?, hget, record?_begin, Ne, Option.map_eq_none_iff, ← Ne, ← mem_iff_record?]
    simp
  · rw [hcommands]
    nofun

theorem dispatched_passOf {plan : LongDelayPlan} {nowMono : ℚ} :
    let pass := passOf config turn.intent (turn.begin config s) plan nowMono
    Dispatched config gsId turn.intent.desired s pass.toRemove pass.toAdd where
  old := by
    intro pair hpair hof
    obtain ⟨hheld, -, hundesired⟩ := mem_toRemove_iff.mp (mem_filterDown_iff.mp hpair).1
    rw [actualLinks_begin] at hheld
    exact mem_outgoing.mpr ⟨hof.1, hheld, hundesired⟩
  new := by
    intro pair hpair hstation
    obtain ⟨hadd, hclean⟩ := mem_filterBlocked_iff.mp hpair
    obtain ⟨hdesired, -, habsent⟩ := mem_toAdd_iff.mp hadd
    rw [actualLinks_begin] at habsent
    refine ⟨mem_incoming.mpr ⟨hstation, hdesired, habsent⟩, fun other hother hlocal => ?_⟩
    obtain ⟨hsame, hwanted, hfresh⟩ := mem_incoming.mp hother
    refine mem_filterBlocked_iff.mpr ⟨mem_toAdd_iff.mpr ⟨hwanted, hlocal, ?_⟩, fun gsId' hgsId' => ?_⟩
    · rwa [actualLinks_begin]
    · obtain rfl := Option.some.inj (hsame.symm.trans hgsId')
      exact hclean _ hstation

theorem wp_runTurn_progress (hmode : config.mbbDispatch = true) (hopen : LocalsOpen config s)
    (hoverlap : OverlapsLong config s) (hsegment : IsSegment config s turn gsId) :
    wp (runTurn config turn) s
      (fun _ t => ∃ acked gone,
        Progress config gsId turn.surroundings turn.intent.desired s acked gone t)
      (fun _ t => ∃ acked gone,
        Progress config gsId turn.surroundings turn.intent.desired s acked gone t) := by
  obtain ⟨c, hc, hsegment⟩ := hsegment
  rw [wp_runTurn_dispatch]
  unfold classified? at hc
  split at hc
  next pass t hexec =>
    split at hc
    next forced hforced =>
      have hclass : classifyMbbChanges pass.toRemove pass.toAdd (Scheduler.occupancy config t) forced =
          .ok c := by
        generalize classifyMbbChanges pass.toRemove pass.toAdd (Scheduler.occupancy config t) forced =
          classified at hc ⊢
        cases classified with
        | error => cases hc
        | ok c' => rw [Option.some.inj hc]
      obtain ⟨plan, hplan, rfl, hreaches⟩ := (wp_of_exec_ok hexec).mp wp_toLocalDispatch_reaches
      rw [wp_of_exec_ok hexec]
      have hplanned : OverlapsLong config
          (plannedState turn.surroundings turn.intent (turn.begin config s)) := by
        intro pair contact info hinfo
        have hbefore : record? (turn.begin config s) (.overlap pair contact) = some info := hinfo
        exact hoverlap pair contact info (record?_begin ▸ hbefore)
      have hprogress : Progress config gsId turn.surroundings turn.intent.desired s [] [] t :=
        progress_of_contactMoves progress_plannedState (contactMoves_of_reaches
          (dispatchable_passOf hplan) (localsOpen_plannedState hopen) hplanned hreaches)
      rw [localDispatch, wp_when]
      refine ⟨fun _ => ?_, fun _ => ⟨[], [], hprogress⟩⟩
      rw [wp_bind, reconcileLocal, if_pos hmode]
      refine wp_imp (wp_reconcileMbb_progress hforced hclass hsegment dispatched_passOf hprogress) ?_
      rintro _ u ⟨acked, gone, hu⟩
      refine wp_mono (wp_updateLatencies_progress hu fun pair hpair => ?_)
        (fun _ _ hv => ⟨acked, gone, hv⟩) fun _ _ hv => ⟨acked, gone, hv⟩
      obtain ⟨-, hheld, hdesired⟩ := of_mem_toUpdateLatency (mem_filterBlocked_iff.mp hpair).1
      rw [actualLinks_begin] at hheld
      exact ⟨hheld, hdesired⟩
    next => cases hc
  next => cases hc

/-- A station of four terminals and four satellites of one. -/
def gatewaySession : SchedulerConfig :=
  { twoStations with
    gsCapacities := .ofList [("gs1", 4)]
    satCapacities := .ofList [("sat1", 1), ("sat2", 1), ("sat3", 1), ("sat4", 1)]
    gsHandoverModes := .ofList [("gs1", .mbb)]
    interfaceRates := [("gs1", "term0"), ("gs1", "term1"), ("gs1", "term2"), ("gs1", "term3"),
      ("sat1", "gnd0"), ("sat2", "gnd0"), ("sat3", "gnd0"), ("sat4", "gnd0")] }

def linked : Turn :=
  turnToward (.ofList [(("gs1", "sat1"), groundLink 1),
    (("gs1", "sat2"), { groundLink 2 with interfaceA := "term1" })]) fun _ => false

def handedOver (refuses : Request → Bool) : Turn :=
  turnToward (.ofList [(("gs1", "sat3"), { groundLink 3 with interfaceA := "term2" }),
    (("gs1", "sat4"), { groundLink 4 with interfaceA := "term3" })]) refuses

end NodalArc.MakeBeforeBreak
