import NodalArc.InterfaceExclusivity
import NodalArc.KernelState

/-! Interface agreement: after a pass whose commands all succeed, each local link is carried on the
interfaces the desired state names and the Scheduler's record says so.  The planner compares links
by pair and delay, so this holds only while no link that stays moves to another interface. -/

namespace NodalArc.InterfaceAgreement

open OrderedDict
open GroundPolicy
open LinkRecord
open ContactDrain
open DispatchPlanner
open Actuation
open NodeAgentBatches
open DispatchActuator
open CommandVerdict
open Reconcile
open HeldRecords
open CommandRules
open CloseRounds
open ContactPlan
open PassPlanning
open PassEffects
open PassRefinement
open SchedulerRuns
open BatchEntries
open LocalLinks
open KernelState
open InterfaceExclusivity
open StatefulProgram
open StatefulProgram.Program

variable {info : ActiveLinkInfo} {frame : CommandFrame} {link link' want : LinkInfo}
  {key : RecordKey}

/-! ### The property -/

/-- The kernel carries each local pair on exactly the terminals its record names. -/
def Agrees (config : SchedulerConfig) (kernel : Kernel) (s : Scheduler) : Prop :=
  ∀ pair, config.longDelay pair = false → ∀ terminal,
    kernel terminal = some ⟨pair, none⟩ ↔ ∃ info, record? s (.current pair) = some info ∧
      terminal ∈ endTerminals pair info.toLinkInfo

/-- Every local pair that is up is carried on exactly the two interfaces the desired link names,
and on every interface its record names. -/
def AgreesWithDesired (config : SchedulerConfig) (desired : Dict Pair LinkInfo) (kernel : Kernel)
    (s : Scheduler) : Prop :=
  ∀ pair info, config.longDelay pair = false →
    record? s (.current pair) = some info → ∃ want, desired.get? pair = some want ∧
      (∀ terminal, kernel terminal = some ⟨pair, none⟩ ↔ terminal ∈ endTerminals pair want) ∧
      ∀ terminal ∈ endTerminals pair info.toLinkInfo, kernel terminal = some ⟨pair, none⟩

/-- What a desired state is promised to be: no interface twice, two nodes to a pair, and a contact
on exactly the long-delay pairs. -/
structure Promised (config : SchedulerConfig) (desired : Dict Pair LinkInfo) : Prop where
  exclusive : DesiredExclusive desired
  nodes : ∀ pair ∈ desired, pair.1 ≠ pair.2
  contacts : ∀ pair want, desired.get? pair = some want →
    (want.contact = none ↔ config.longDelay pair = false)

def ContactPlaced (config : SchedulerConfig) (key : RecordKey) (info : ActiveLinkInfo) : Prop :=
  info.contact ≠ none ∨ info.drain ≠ none → config.longDelay key.pair = true

def AcksAll (surroundings : Surroundings) : Prop :=
  ∀ n request, ∀ entry ∈ request.entries, ∃ result ∈ (surroundings.agents n request).entries,
    result.acked = true ∧ result.terminal = entry.terminal

/-- Every local link that is up and stays desired keeps its interfaces. -/
def InterfacesUnchanged (config : SchedulerConfig) (desired : Dict Pair LinkInfo)
    (s : Scheduler) : Prop :=
  ∀ pair held want, config.longDelay pair = false →
    record? s (.current pair) = some held → desired.get? pair = some want →
    terminals held.toLinkInfo = terminals want

variable {config : SchedulerConfig} {env : Surroundings} {intent : DispatchIntent}
    {pass : PassPlan} {phase : Phase} {start kernel : Kernel} {found s t : Scheduler} {pair : Pair}
    {terminal : Terminal} {plan : BatchPlan} {pairs : List Pair} {sent : SentCommand}

theorem endTerminals_eq (h : terminals link = terminals link') :
    endTerminals pair link = endTerminals pair link' := by
  obtain ⟨ha, hb⟩ := Prod.mk.inj h
  rw [endTerminals, endTerminals, ha, hb]

theorem terminals_eq_of_subset (hnodes : pair.1 ≠ pair.2)
    (h : ∀ terminal ∈ endTerminals pair link, terminal ∈ endTerminals pair link') :
    terminals link = terminals link' := by
  have ha := h (pair.1, link.interfaceA) List.mem_cons_self
  have hb := h (pair.2, link.interfaceB) (List.mem_cons_of_mem _ List.mem_cons_self)
  simp only [endTerminals, List.mem_cons, Prod.mk.injEq, true_and, List.not_mem_nil, or_false,
    hnodes, false_and, hnodes.symm, false_or] at ha hb
  exact Prod.ext ha hb

/-! ### Acknowledgements -/

theorem AcksAll.acknowledges (h : AcksAll env) (operation : Operation) (stage : Stage)
    (pair : Pair) : Acknowledges env operation stage pair :=
  fun n request _ _ entry hentry _ => h n request entry hentry

/-! ### Commands and local links -/

theorem executed_of_wired (hwired : kernel terminal = some ⟨pair, none⟩)
    (h : ∀ planned ∈ sent.plan, terminal ∈ planned.2.ends →
      carriedAfter sent.operation sent.stage planned.2 (some ⟨pair, none⟩) = some ⟨pair, none⟩) :
    executed sent kernel terminal = some ⟨pair, none⟩ := by
  rw [← hwired] at h ⊢
  exact executed_eq_self fun planned hplanned hacts => h planned hplanned hacts.1

theorem carriedAfter_of_contact {entry : Entry} {contact : Contact}
    (hcontact : entry.contactId = some contact) (operation : Operation) (stage : Option Stage)
    (hstage : operation = .batchLinkUp → stage ≠ some .prepare) :
    carriedAfter operation stage entry (some ⟨pair, none⟩) = some ⟨pair, none⟩ := by
  unfold carriedAfter
  split
  · rw [if_neg]
    rintro (hprepare | hnone)
    · exact hstage rfl hprepare
    · cases hcontact.symm.trans hnone
  · rw [if_neg]
    rintro ⟨-, hnone | hsame⟩
    · cases hcontact.symm.trans hnone
    · cases hcontact.symm.trans hsame.symm
  all_goals rfl

/-! ### The invariant of a pass -/

/-- What the plan of a pass with nothing suppressed says about local pairs. -/
structure PlannedLocals (config : SchedulerConfig) (intent : DispatchIntent) (pass : PassPlan)
    (found : Scheduler) : Prop where
  opening : ∀ pair ∈ pass.longDelay.opening, config.longDelay pair = true
  latency : ∀ pair ∈ pass.longDelay.latency, config.longDelay pair = true
  toRemove : ∀ pair, pair ∈ pass.toRemove ↔ record? found (.current pair) ≠ none ∧
    config.longDelay pair = false ∧ pair ∉ intent.desired
  toAdd : ∀ pair, pair ∈ pass.toAdd ↔ pair ∈ intent.desired ∧
    config.longDelay pair = false ∧ record? found (.current pair) = none
  toUpdate : ∀ pair ∈ pass.toUpdateLatency, config.longDelay pair = false ∧
    record? found (.current pair) ≠ none ∧ pair ∈ intent.desired

theorem contactPlaced_activate (hpromised : Promised config intent.desired)
    (hwant : intent.desired.get? pair = some want) :
    ContactPlaced config (.current pair) want.activate := by
  rintro (hcontact | hdrain)
  · by_contra hlocal
    exact hcontact ((hpromised.contacts pair want hwant).mpr (eq_false_of_ne_true hlocal))
  · exact absurd rfl hdrain

theorem contactPlaced_retimed (hpromised : Promised config intent.desired)
    (hplaced : RecordsIn (ContactPlaced config) s)
    (hretimed : HoldsDesiredFor intent.desired pairs s t) : RecordsIn (ContactPlaced config) t := by
  intro key info hinfo
  rcases hretimed.record? key with heq | ⟨pair, -, rfl, heq⟩
  · exact hplaced key info (heq ▸ hinfo)
  · obtain ⟨want, hwant, rfl⟩ := Option.map_eq_some_iff.mp (heq.symm.trans hinfo)
    exact contactPlaced_activate hpromised hwant

/-! ### The contacts of a pass -/

/-- What holds of the local links while a pass moves its long-delay contacts: their records are as
found, and each is carried where it was, less what the contacts took of terminals not desired for
it. -/
structure LocalsKept (config : SchedulerConfig) (start : Kernel) (intent : DispatchIntent)
    (found t : Scheduler) : Prop where
  placed : RecordsIn (ContactPlaced config) t
  record : ∀ pair, config.longDelay pair = false →
    record? t (.current pair) = record? found (.current pair)
  shrinks : ∀ pair terminal, config.longDelay pair = false →
    kernelAfter start t.log terminal = some ⟨pair, none⟩ →
    kernelAfter start found.log terminal = some ⟨pair, none⟩
  keeps : ∀ pair terminal, config.longDelay pair = false →
    terminal ∈ wantedTerminals intent.desired pair →
    kernelAfter start found.log terminal = some ⟨pair, none⟩ →
    kernelAfter start t.log terminal = some ⟨pair, none⟩

namespace LocalsKept

variable (h : LocalsKept config start intent found s)

include h

theorem elsewhere (hkernel : kernelAfter start t.log = kernelAfter start s.log)
    (hlocal : ∀ pair, config.longDelay pair = false →
      record? t (.current pair) = record? s (.current pair))
    (hplaced : RecordsIn (ContactPlaced config) t) : LocalsKept config start intent found t where
  placed := hplaced
  record := fun pair hpair => (hlocal pair hpair).trans (h.record pair hpair)
  shrinks := by
    rw [hkernel]
    exact h.shrinks
  keeps := by
    rw [hkernel]
    exact h.keeps

theorem logged (hkernel : kernelAfter start t.log = kernelAfter start s.log)
    (hkey : ∀ key, record? t key = record? s key) : LocalsKept config start intent found t :=
  h.elsewhere hkernel (fun pair _ => hkey (.current pair)) (h.placed.congr hkey)

theorem update {now : Option ActiveLinkInfo}
    (hkernel : kernelAfter start t.log = kernelAfter start s.log)
    (hkey : ∀ key', record? t key' = if key' = key then now else record? s key')
    (hlong : config.longDelay key.pair = true) : LocalsKept config start intent found t := by
  refine h.elsewhere hkernel (fun pair hpair => ?_) (h.placed.update hkey ?_)
  · rw [hkey, if_neg]
    rintro rfl
    exact Bool.false_ne_true (hpair.symm.trans hlong)
  · exact fun _ _ _ => hlong

theorem quiet
    (hquiet : ∀ planned ∈ plan, ∀ before, carriedAfter frame.operation frame.stage planned.2
      before = before) : LocalsKept config start intent found (afterCommand env frame plan s) :=
  h.logged (executed_of_quiet hquiet) fun _ => record?_afterCommand

theorem closes {batch : List CloseRecord}
    (hpairs : DistinctPairs batch) (hplan : closePlan config batch = .ok plan) :
    LocalsKept config start intent found (afterCommand env (closeFrame batch) plan s) := by
  refine ⟨h.placed.congr fun _ => record?_afterCommand, h.record, fun pair terminal hpair hafter => ?_,
    fun pair terminal hpair hterminal hfound =>
      executed_of_wired (h.keeps pair terminal hpair hterminal hfound) fun planned hplanned _ => ?_⟩
  · rcases carried_of_executed hafter with hbefore | ⟨hup, -⟩
    · exact h.shrinks pair terminal hpair hbefore
    · cases hup
  · obtain ⟨r, hr, _, -, e, -, -, rfl⟩ := (mem_closePlan_iff hpairs hplan).mp hplanned
    obtain ⟨contact, hcontact⟩ : ∃ contact, r.info.endContact? e.own.1 = some contact := by
      obtain ⟨contact, hcontact⟩ :=
        Option.ne_none_iff_exists'.mp (contact_of_closePlan hpairs hplan hr)
      unfold ActiveLinkInfo.endContact?
      rw [hcontact]
      cases r.info.drain with
      | none => exact ⟨_, rfl⟩
      | some drain =>
        dsimp only
        split
        · exact ⟨_, rfl⟩
        · exact ⟨_, rfl⟩
    exact carriedAfter_of_contact hcontact _ _ (by simp [sentIn, closeFrame, downFrame])

theorem prepares (hpromised : Promised config intent.desired)
    (hopening : ∀ pair ∈ pass.longDelay.opening, config.longDelay pair = true)
    (hplan : preparePlan config env intent pass = .ok plan) :
    LocalsKept config start intent found (afterCommand env
      (upFrame intent.desired .prepare pass.longDelay.opening) plan s) := by
  refine ⟨h.placed.congr fun _ => record?_afterCommand, h.record, fun pair terminal hpair hafter => ?_,
    fun pair terminal hpair hterminal hfound =>
      executed_of_wired (h.keeps pair terminal hpair hterminal hfound) fun planned hplanned hacts => ?_⟩
  · rcases carried_of_executed hafter with hbefore | ⟨-, planned, hplanned, -, -, heq⟩
    · exact h.shrinks pair terminal hpair hbefore
    · exact absurd (Carried.mk.inj heq).2.symm (contact_of_prepare hplan hplanned)
  · -- the entry's pair opens and wants the terminal, so it is this pair, which is local
    obtain ⟨hopen, hwanted⟩ := wanted_of_linkUp hplan hplanned
    have heq := wanted_injective hpromised.exclusive hterminal (hwanted terminal hacts)
    have hlong := hopening _ (mem_sortedSet.mp hopen)
    rw [← heq, hpair] at hlong
    cases hlong

theorem retimed (hpromised : Promised config intent.desired)
    (hpairs : ∀ pair ∈ pairs, config.longDelay pair = true)
    (hretimed : HoldsDesiredFor intent.desired pairs s t) :
    LocalsKept config start intent found t := by
  refine h.elsewhere (by rw [hretimed.log]) (fun pair hpair => ?_)
    (contactPlaced_retimed hpromised h.placed hretimed)
  rw [hretimed.current, if_neg]
  intro hmem
  exact Bool.false_ne_true (hpair.symm.trans (hpairs pair hmem))

end LocalsKept

theorem longDelay_of_endsLeft {gone : List NodeId}
    (hlocals : PlannedLocals config intent pass found) (hplaced : ContactPlaced config key info)
    (h : EndsLeft config env intent pass s key info gone) : config.longDelay key.pair = true := by
  cases h with
  | closed batch r sent hr hkey hinfo hpairs _ _ hsent _ =>
    exact hplaced (.inl (hinfo ▸ contact_of_closePlan hpairs hsent.plan hr))
  | reopened pair contact want hkey hprepared _ =>
    rw [hkey]
    exact hlocals.opening pair hprepared.1

theorem localsKept_of_contactEffect (hpromised : Promised config intent.desired)
    (hlocals : PlannedLocals config intent pass found)
    (heffect : Effect config env intent pass .contacts s t)
    (h : LocalsKept config start intent found s) : LocalsKept config start intent found t := by
  cases heffect with
  | station => exact h.logged rfl fun _ => record?_station
  | losses => exact h.logged rfl fun _ => record?_losses
  | reading => exact h.logged rfl fun _ => record?_afterReading
  | stopSent => exact h.quiet fun _ _ _ => rfl
  | proofSent | latencySent => exact h.quiet fun _ _ _ => rfl
  | drained _ pair _ _ drain _ _ _ hlong =>
    exact h.update (by rw [log_setRecord]) (fun _ => record?_setRecord) hlong
  | relocated _ pair _ hlong =>
    refine h.elsewhere (by rw [log_relocateContact]) (fun pair' hpair' => ?_)
      (h.placed.relocate fun _ _ hplaced _ _ => hplaced)
    refine record?_relocateContact fun heq : pair' = pair => ?_
    exact Bool.false_ne_true (hpair'.symm.trans (heq ▸ hlong))
  | closeSent _ batch plan hround _ hplan => exact h.closes hround.pairs hplan
  | shrunk _ key info drain _ _ hheld hdrain =>
    exact h.update (by rw [log_setRecord]) (fun _ => record?_setRecord)
      (h.placed key info hheld (.inr (hdrain ▸ Option.some_ne_none drain)))
  | tornDown _ key info _ _ _ hheld _ hgone =>
    exact h.update (by rw [log_tornDown]; rfl) (fun _ => record?_tornDown)
      (longDelay_of_endsLeft hlocals (h.placed key info hheld) hgone)
  | ended _ pair _ _ _ _ hprepared =>
    exact h.update (by rw [log_tornDown]; rfl) (fun _ => record?_tornDown)
      (hlocals.opening pair hprepared.1)
  | prepareSent _ plan _ hplan => exact h.prepares hpromised hlocals.opening hplan
  | openSent _ pairs plan _ _ hplan =>
    refine h.quiet fun planned hplanned before => ?_
    have hcontact := contact_of_prepare hplan (List.mem_filter.mp hplanned).1
    simp [carriedAfter, upFrame, hcontact]
  | linkUps =>
    exact h.logged (kernelAfter_append command_notMem_linkUps) fun _ => record?_afterEvents
  | opened _ pair info pairs sent _ hpair _ hsent =>
    exact h.update (by rw [log_addActual]) (fun _ => record?_addActual)
      (hlocals.opening pair (hsent.opening pair hpair))
  | latencyUpdates _ events hevents =>
    exact h.logged (kernelAfter_append (command_notMem_latencyUpdates hevents))
      fun _ => record?_afterEvents
  | retimed _ _ pairs hpairs hretimed =>
    exact h.retimed hpromised (fun pair hpair => hlocals.latency pair (hpairs pair hpair)) hretimed

/-! ### The local links of a pass -/

/-- What holds of the local links throughout a pass that found the records of `found`. -/
structure Tracked (config : SchedulerConfig) (start : Kernel) (intent : DispatchIntent)
    (pass : PassPlan) (found t : Scheduler) : Prop where
  placed : RecordsIn (ContactPlaced config) t
  record : ∀ pair info, config.longDelay pair = false →
    record? t (.current pair) = some info → record? found (.current pair) = some info ∨
      ∃ want, intent.desired.get? pair = some want ∧ info = want.activate
  held : ∀ pair, config.longDelay pair = false → pair ∈ intent.desired →
    record? found (.current pair) ≠ none → record? t (.current pair) ≠ none
  wired : ∀ pair ∈ pass.toAdd, record? t (.current pair) ≠ none →
    ∀ terminal ∈ wantedTerminals intent.desired pair,
      kernelAfter start t.log terminal = some ⟨pair, none⟩
  shrinks : ∀ pair terminal, config.longDelay pair = false →
    kernelAfter start t.log terminal = some ⟨pair, none⟩ →
    kernelAfter start found.log terminal = some ⟨pair, none⟩ ∨
      pair ∈ pass.toAdd ∧ terminal ∈ wantedTerminals intent.desired pair
  freed : ∀ pair ∈ pass.toAdd, ∀ terminal, kernelAfter start t.log terminal = some ⟨pair, none⟩ →
    ∀ other ∈ pass.toRemove, ∀ info, record? t (.current other) = some info →
      terminal ∉ endTerminals other info.toLinkInfo
  stays : InterfacesUnchanged config intent.desired found →
    ∀ pair, config.longDelay pair = false → record? found (.current pair) ≠ none →
    ∀ terminal ∈ wantedTerminals intent.desired pair,
      kernelAfter start t.log terminal = some ⟨pair, none⟩

namespace Tracked

theorem of_localsKept (hagrees : Agrees config (kernelAfter start found.log) found)
    (hlocals : PlannedLocals config intent pass found)
    (h : LocalsKept config start intent found s) : Tracked config start intent pass found s where
  placed := h.placed
  record := fun pair info hpair hinfo => .inl (h.record pair hpair ▸ hinfo)
  held := fun pair hpair _ => by
    rw [h.record pair hpair]
    exact id
  wired := fun pair hadd hup => by
    obtain ⟨-, hpair, hnone⟩ := (hlocals.toAdd pair).mp hadd
    rw [h.record pair hpair] at hup
    exact absurd hnone hup
  shrinks := fun pair terminal hpair hterminal => .inl (h.shrinks pair terminal hpair hterminal)
  freed := fun pair hadd terminal hterminal => by
    obtain ⟨-, hpair, hnone⟩ := (hlocals.toAdd pair).mp hadd
    obtain ⟨info, hinfo, -⟩ :=
      (hagrees pair hpair terminal).mp (h.shrinks pair terminal hpair hterminal)
    cases hnone.symm.trans hinfo
  stays := fun hunchanged pair hpair hheld terminal hterminal => by
    obtain ⟨info, hinfo⟩ := Option.ne_none_iff_exists'.mp hheld
    obtain ⟨want, hwant, hnamed⟩ := mem_wantedTerminals_iff.mp hterminal
    refine h.keeps pair terminal hpair hterminal ((hagrees pair hpair terminal).mpr ⟨info, hinfo, ?_⟩)
    rw [endTerminals_eq (hunchanged pair info want hpair hinfo hwant)]
    exact hnamed

variable (h : Tracked config start intent pass found s)

include h

/-- An effect on nothing but the kernel: only links to add are wired, where no link to remove is
recorded, and none loses a terminal that is desired for it. -/
theorem rewired (hlocals : PlannedLocals config intent pass found)
    (hkey : ∀ key, record? t key = record? s key)
    (hcarried : ∀ pair terminal, config.longDelay pair = false →
      kernelAfter start t.log terminal = some ⟨pair, none⟩ →
      kernelAfter start s.log terminal = some ⟨pair, none⟩ ∨
        pair ∈ pass.toAdd ∧ terminal ∈ wantedTerminals intent.desired pair ∧
          ∀ other ∈ pass.toRemove, ∀ info, record? s (.current other) = some info →
            terminal ∉ endTerminals other info.toLinkInfo)
    (hkeeps : ∀ pair terminal, config.longDelay pair = false →
      terminal ∈ wantedTerminals intent.desired pair →
      kernelAfter start s.log terminal = some ⟨pair, none⟩ →
      kernelAfter start t.log terminal = some ⟨pair, none⟩) :
    Tracked config start intent pass found t where
  placed := h.placed.congr hkey
  record := fun pair info hpair hinfo => h.record pair info hpair (hkey _ ▸ hinfo)
  held := fun pair hpair => by
    rw [hkey]
    exact h.held pair hpair
  wired := fun pair hadd hup terminal hterminal => by
    rw [hkey] at hup
    exact hkeeps pair terminal ((hlocals.toAdd pair).mp hadd).2.1 hterminal
      (h.wired pair hadd hup terminal hterminal)
  shrinks := fun pair terminal hpair hterminal => by
    rcases hcarried pair terminal hpair hterminal with hbefore | ⟨hadd, hwanted, -⟩
    · exact h.shrinks pair terminal hpair hbefore
    · exact .inr ⟨hadd, hwanted⟩
  freed := fun pair hadd terminal hterminal other hother info hinfo => by
    rw [hkey] at hinfo
    rcases hcarried pair terminal ((hlocals.toAdd pair).mp hadd).2.1 hterminal with
      hbefore | ⟨-, -, hfree⟩
    · exact h.freed pair hadd terminal hbefore other hother info hinfo
    · exact hfree other hother info hinfo
  stays := fun hunchanged pair hpair hheld terminal hterminal =>
    hkeeps pair terminal hpair hterminal (h.stays hunchanged pair hpair hheld terminal hterminal)

/-- An effect on nothing but the records: they are as before or of desired links, no desired link
loses its record, and a link to add gets one only once it is wired. -/
theorem rerecorded (hpromised : Promised config intent.desired)
    (hlocals : PlannedLocals config intent pass found) (hlog : t.log = s.log)
    (hsource : ∀ key info, record? t key = some info → record? s key = some info ∨
      ∃ pair want, key = .current pair ∧ intent.desired.get? pair = some want ∧
        info = want.activate)
    (hheld : ∀ pair ∈ intent.desired, record? s (.current pair) ≠ none →
      record? t (.current pair) ≠ none)
    (hwired : ∀ pair ∈ pass.toAdd, record? t (.current pair) ≠ none →
      record? s (.current pair) ≠ none ∨ ∀ terminal ∈ wantedTerminals intent.desired pair,
        kernelAfter start s.log terminal = some ⟨pair, none⟩) :
    Tracked config start intent pass found t where
  placed := fun key info hinfo => by
    rcases hsource key info hinfo with hold | ⟨pair, want, rfl, hwant, rfl⟩
    · exact h.placed key info hold
    · exact contactPlaced_activate hpromised hwant
  record := fun pair info hpair hinfo => by
    rcases hsource _ info hinfo with hold | ⟨_, want, heq, hwant, rfl⟩
    · exact h.record pair info hpair hold
    · cases heq
      exact .inr ⟨want, hwant, rfl⟩
  held := fun pair hpair hdesired hfound => hheld pair hdesired (h.held pair hpair hdesired hfound)
  wired := fun pair hadd hup => by
    rw [hlog]
    exact (hwired pair hadd hup).elim (h.wired pair hadd) id
  shrinks := hlog ▸ h.shrinks
  freed := fun pair hadd terminal hterminal other hother info hinfo => by
    rcases hsource _ info hinfo with hold | ⟨_, want, heq, hwant, rfl⟩
    · exact h.freed pair hadd terminal (hlog ▸ hterminal) other hother info hold
    · cases heq
      exact absurd (Dict.mem_of_get? hwant) ((hlocals.toRemove other).mp hother).2.2
  stays := hlog ▸ h.stays

theorem logged (hlocals : PlannedLocals config intent pass found)
    (hkernel : kernelAfter start t.log = kernelAfter start s.log)
    (hkey : ∀ key, record? t key = record? s key) : Tracked config start intent pass found t :=
  h.rewired hlocals hkey (fun _ _ _ hafter => .inl (hkernel ▸ hafter))
    fun _ _ _ _ hbefore => hkernel ▸ hbefore

theorem retimed (hpromised : Promised config intent.desired)
    (hlocals : PlannedLocals config intent pass found) (hpairs : ∀ pair ∈ pairs, pair ∉ pass.toAdd)
    (hretimed : HoldsDesiredFor intent.desired pairs s t) :
    Tracked config start intent pass found t := by
  refine h.rerecorded hpromised hlocals hretimed.log (fun key info hinfo => ?_)
    (fun pair hdesired hheld => ?_) fun pair hadd => ?_
  · rcases hretimed.record? key with heq | ⟨pair, -, rfl, heq⟩
    · exact .inl (heq ▸ hinfo)
    · obtain ⟨want, hwant, rfl⟩ := Option.map_eq_some_iff.mp (heq.symm.trans hinfo)
      exact .inr ⟨pair, want, rfl, hwant, rfl⟩
  · obtain ⟨want, hwant⟩ := Dict.mem_iff.mp hdesired
    rw [hretimed.current, hwant]
    split_ifs
    · exact Option.some_ne_none _
    · exact hheld
  · rw [hretimed.current, if_neg fun hpair => hpairs pair hpair hadd]
    exact .inl

end Tracked

theorem carriedAfter_acquire (hpromised : Promised config intent.desired)
    (hlocal : config.longDelay pair = false)
    (hterminal : terminal ∈ wantedTerminals intent.desired pair)
    (hplan : buildLinkUpBatchPlan config env .open intent.desired (sortedSet pairs) =
      .ok plan) {planned : AgentAddr × Entry} (hplanned : planned ∈ plan)
    (hacts : terminal ∈ planned.2.ends) (before : Option Carried) :
    carriedAfter .batchLinkUp (some .open) planned.2 before = some ⟨pair, none⟩ := by
  have hwanted := (wanted_of_linkUp hplan hplanned).2 terminal hacts
  obtain ⟨pair', -, want, _, e, hwant, -, -, -, rfl⟩ := entry_of_linkUp hplan hplanned
  obtain rfl : pair = pair' := wanted_injective hpromised.exclusive hterminal hwanted
  have hcontact := (hpromised.contacts pair want hwant).mpr hlocal
  simp [carriedAfter, PlannedEnd.entry, hcontact]

theorem Tracked.releases (h : Tracked config start intent pass found s)
    (hagrees : Agrees config (kernelAfter start found.log) found)
    (hlocals : PlannedLocals config intent pass found)
    (hpairs : ∀ pair ∈ pairs, pair ∈ pass.toRemove)
    (hplan : buildLinkDownBatchPlan config .close ∅ ∅ s.actualLinks (sortedSet pairs) = .ok plan) :
    Tracked config start intent pass found
      (afterCommand env (releaseFrame s pairs intent.downReasons) plan s) := by
  refine h.rewired hlocals (fun _ => record?_afterCommand) (fun pair terminal _ hafter => ?_)
    fun pair terminal hpair hterminal hwired =>
      executed_of_wired hwired fun planned hplanned hacts => ?_
  · rcases carried_of_executed hafter with hbefore | ⟨hup, -⟩
    · exact .inl hbefore
    · cases hup
  · exfalso
    obtain ⟨other, hother, info, ends, hinfo, -, hends, e, he, rfl⟩ :=
      (entry_of_linkDown hplan).mp hplanned
    have hremove := hpairs other (mem_sortedSet.mp hother)
    have hused : terminal ∈ endTerminals other info.toLinkInfo := by
      rw [selectedEnds, Dict.get?_empty] at he
      rcases ends_entry_subset hacts with rfl | rfl
      · exact (own_mem_of_linkEnds hends he).1
      · exact (own_mem_of_linkEnds hends he).2
    obtain ⟨-, hother, hundesired⟩ := (hlocals.toRemove other).mp hremove
    by_cases hadd : pair ∈ pass.toAdd
    · exact h.freed pair hadd terminal hwired other hremove info hinfo hused
    -- the pair was wired there when the pass began, and so was the released one
    · have hfound := (h.shrinks pair terminal hpair hwired).resolve_right fun hright =>
        hadd hright.1
      have hold : record? found (.current other) = some info := by
        refine (h.record other info hother hinfo).resolve_right ?_
        rintro ⟨want, hwant, -⟩
        exact hundesired (Dict.mem_of_get? hwant)
      have hcarried := (hagrees other hother terminal).mpr ⟨info, hold, hused⟩
      obtain rfl : other = pair := congrArg Carried.pair (Option.some.inj (hcarried.symm.trans hfound))
      obtain ⟨want, hwant, -⟩ := mem_wantedTerminals_iff.mp hterminal
      exact hundesired (Dict.mem_of_get? hwant)

theorem Tracked.removes (h : Tracked config start intent pass found s)
    (hpromised : Promised config intent.desired)
    (hlocals : PlannedLocals config intent pass found)
    (hpairs : ∀ pair ∈ pairs, pair ∈ pass.toRemove) :
    Tracked config start intent pass found (removeAll config pairs s) := by
  refine h.rerecorded hpromised hlocals log_removeAll
    (fun key info hinfo => .inl (noNewRecords_removeAll key info hinfo))
    (fun pair hdesired => ?_) fun pair _ hup => .inl (mt noNewRecords_removeAll.none hup)
  · rw [record?_removeAll, if_neg]
    · exact id
    · intro hmem
      obtain ⟨_, hpair, heq⟩ := List.mem_map.mp hmem
      cases heq
      exact ((hlocals.toRemove pair).mp (hpairs pair hpair)).2.2 hdesired

theorem Tracked.acquires (h : Tracked config start intent pass found s)
    (hpromised : Promised config intent.desired) (hacks : AcksAll env)
    (hlocals : PlannedLocals config intent pass found)
    (hpairs : ∀ pair ∈ pairs, pair ∈ pass.toAdd) (hfreed : Freed config env intent pass pairs s)
    (hplan : buildLinkUpBatchPlan config env .open intent.desired (sortedSet pairs) = .ok plan) :
    Tracked config start intent pass found
      (afterCommand env (upFrame intent.desired .open pairs) plan s) := by
  refine h.rewired hlocals (fun _ => record?_afterCommand) (fun pair terminal _ hafter => ?_)
    fun pair terminal hlocal hterminal hwired =>
      executed_of_wired hwired fun planned hplanned hacts =>
        carriedAfter_acquire hpromised hlocal hterminal hplan hplanned hacts _
  rcases carried_of_executed hafter with hbefore | ⟨-, planned, hplanned, hacts, -, heq⟩
  · exact .inl hbefore
  · obtain ⟨hpair, hwanted⟩ := wanted_of_linkUp hplan hplanned
    rw [← (Carried.mk.inj heq).1] at hpair hwanted
    have hmem := mem_sortedSet.mp hpair
    refine .inr ⟨hpairs pair hmem, hwanted terminal hacts.1, fun other hother info hinfo hused => ?_⟩
    exact hfreed pair hmem other hother info hinfo ⟨terminal, hwanted terminal hacts.1, hused⟩
      (.inl fun _ => hacks.acknowledges _ _ _)

theorem wired_of_acquireSent (hpromised : Promised config intent.desired)
    (hlocal : config.longDelay pair = false) (hpair : pair ∈ pairs)
    (hlast : lastCommand? s.log = some sent)
    (hsent : AcquireSent config env intent pairs sent) (hacks : AcksPair sent pair)
    (hterminal : terminal ∈ wantedTerminals intent.desired pair) :
    kernelAfter start s.log terminal = some ⟨pair, none⟩ := by
  obtain ⟨kernel, hkernel⟩ : ∃ kernel, kernelAfter start s.log = executed sent kernel :=
    kernelAfter_of_lastCommand hlast
  obtain ⟨want, ends, hwant, hends, hplanned⟩ :=
    exists_linkUp_entry hsent.plan (mem_sortedSet.mpr hpair)
  obtain ⟨_, hwant', hnamed⟩ := mem_wantedTerminals_iff.mp hterminal
  obtain rfl := Option.some.inj (hwant.symm.trans hwant')
  obtain ⟨e, he, hon⟩ := exists_entry_on hends hnamed
  rw [hkernel]
  refine executed_eq_of_acted ⟨_, hplanned e he, hon, hacks _ (hplanned e he) rfl⟩ ?_
  intro planned hplanned hacts before
  rw [hsent.operation, hsent.stage]
  exact carriedAfter_acquire hpromised hlocal hterminal hsent.plan hplanned hacts.1 before

theorem Tracked.adds (h : Tracked config start intent pass found s)
    (hpromised : Promised config intent.desired)
    (hlocals : PlannedLocals config intent pass found)
    (hwant : intent.desired.get? pair = some want)
    (hwired : ∀ terminal ∈ wantedTerminals intent.desired pair, kernelAfter start s.log terminal =
      some ⟨pair, none⟩) :
    Tracked config start intent pass found (addActual config pair want s) := by
  refine h.rerecorded hpromised hlocals log_addActual (fun key info hinfo => ?_)
    (fun pair' _ hheld => ?_) fun pair' _ hup => ?_
  · rw [record?_addActual] at hinfo
    split_ifs at hinfo with heq
    · exact .inr ⟨pair, want, heq, hwant, (Option.some.inj hinfo).symm⟩
    · exact .inl hinfo
  · rw [record?_addActual]
    split_ifs
    · exact Option.some_ne_none _
    · exact hheld
  · rw [record?_addActual] at hup
    split_ifs at hup with heq
    · cases heq
      exact .inr hwired
    · exact .inl hup

theorem tracked_of_localEffect (hpromised : Promised config intent.desired)
    (hacks : AcksAll env) (hagrees : Agrees config (kernelAfter start found.log) found)
    (hlocals : PlannedLocals config intent pass found)
    (heffect : Effect config env intent pass .locals s t)
    (h : Tracked config start intent pass found s) : Tracked config start intent pass found t := by
  cases heffect with
  | station => exact h.logged hlocals rfl fun _ => record?_station
  | releaseSent _ pairs plan events hpairs hplan hevents =>
    exact (h.releases hagrees hlocals hpairs hplan).logged hlocals
      (kernelAfter_append (command_notMem_localDowns hevents)) fun _ => record?_afterEvents
  | removed _ pairs sent hpairs =>
    exact h.removes hpromised hlocals fun pair hpair => (hpairs pair hpair).1
  | acquireSent _ pairs plan hpairs hfreed hplan =>
    exact h.acquires hpromised hacks hlocals hpairs hfreed hplan
  | localUps =>
    exact h.logged hlocals (kernelAfter_append command_notMem_linkUps) fun _ => record?_afterEvents
  | added _ pair want pairs sent hwant hpair hadd hlast hsent hacked =>
    refine h.adds hpromised hlocals hwant fun terminal hterminal => ?_
    exact wired_of_acquireSent hpromised ((hlocals.toAdd pair).mp hadd).2.1 hpair hlast hsent
      hacked hterminal
  | latencySent =>
    exact h.logged hlocals (executed_of_quiet fun _ _ _ => rfl) fun _ => record?_afterCommand
  | latencyUpdates _ events hevents =>
    exact h.logged hlocals (kernelAfter_append (command_notMem_latencyUpdates hevents))
      fun _ => record?_afterEvents
  | retimed _ _ pairs hpairs hretimed =>
    exact h.retimed hpromised hlocals (fun pair hpair hadd =>
      (hlocals.toUpdate pair (hpairs pair hpair)).2.1 ((hlocals.toAdd pair).mp hadd).2.2) hretimed

/-! ### Carried links are recorded -/

def Recorded (config : SchedulerConfig) (kernel : Kernel) (s : Scheduler) : Prop :=
  ∀ pair terminal, config.longDelay pair = false →
    kernel terminal = some ⟨pair, none⟩ → record? s (.current pair) ≠ none

/-- The local links between two commands of a pass. -/
structure Steady (config : SchedulerConfig) (start : Kernel) (intent : DispatchIntent)
    (pass : PassPlan) (found t : Scheduler) : Prop where
  tracked : Tracked config start intent pass found t
  recorded : Recorded config (kernelAfter start t.log) t

theorem Tracked.named (h : Tracked config start intent pass found s)
    (hagrees : Agrees config (kernelAfter start found.log) found)
    (hlocals : PlannedLocals config intent pass found) (hremove : pair ∈ pass.toRemove)
    (hinfo : record? s (.current pair) = some info)
    (hwired : kernelAfter start s.log terminal = some ⟨pair, none⟩) :
    terminal ∈ endTerminals pair info.toLinkInfo := by
  obtain ⟨-, hlocal, hundesired⟩ := (hlocals.toRemove pair).mp hremove
  have hfound := (h.shrinks pair terminal hlocal hwired).resolve_right fun hadd =>
    hundesired ((hlocals.toAdd pair).mp hadd.1).1
  obtain ⟨held, hheld, hnamed⟩ := (hagrees pair hlocal terminal).mp hfound
  have hsame : record? found (.current pair) = some info := by
    refine (h.record pair info hlocal hinfo).resolve_right ?_
    rintro ⟨want, hwant, -⟩
    exact hundesired (Dict.mem_of_get? hwant)
  obtain rfl := Option.some.inj (hheld.symm.trans hsame)
  exact hnamed

theorem executed_release (hplaced : RecordsIn (ContactPlaced config) s)
    (hpairs : ∀ pair ∈ pairs, config.longDelay pair = false)
    (hplan : buildLinkDownBatchPlan config .close ∅ ∅ s.actualLinks (sortedSet pairs) = .ok plan)
    (hpair : pair ∈ pairs) (hinfo : record? s (.current pair) = some info)
    (hacks : AcksPair (sentIn env (releaseFrame s pairs intent.downReasons) plan s) pair)
    (hterminal : terminal ∈ endTerminals pair info.toLinkInfo) :
    executed (sentIn env (releaseFrame s pairs intent.downReasons) plan s) kernel terminal =
      none := by
  have hnone : ∀ pair' ∈ pairs, ∀ info', record? s (.current pair') = some info' →
      info'.contact = none := by
    intro pair' hpair' info' hinfo'
    by_contra hcontact
    exact Bool.false_ne_true ((hpairs pair' hpair').symm.trans (hplaced _ _ hinfo' (.inl hcontact)))
  have hcontact : ∀ pair' ∈ pairs, ∀ info', record? s (.current pair') = some info' →
      ∀ own, downContactId ∅ info' own = none := by
    intro pair' hpair' info' hinfo' own
    simp [downContactId, hnone pair' hpair' info' hinfo']
  obtain ⟨hcheck, ends, hends⟩ := built_of_linkDown hplan (mem_sortedSet.mpr hpair) hinfo
  obtain ⟨e, he, hon⟩ := exists_entry_on hends hterminal
  have hplanned := (entry_of_linkDown hplan).mpr ⟨pair, mem_sortedSet.mpr hpair, info, ends, hinfo,
    hcheck, hends, e, by rwa [selectedEnds, Dict.get?_empty], rfl⟩
  rw [hnone pair hpair info hinfo, ← hcontact pair hpair info hinfo e.own] at hon
  refine executed_eq_of_acted ⟨_, hplanned, hon, hacks _ hplanned rfl⟩ fun planned hmem _ before => ?_
  obtain ⟨pair', hpair', info', _, hinfo', -, -, _, -, rfl⟩ := (entry_of_linkDown hplan).mp hmem
  have hentry := hcontact pair' (mem_sortedSet.mp hpair') info' hinfo'
  simp [carriedAfter, sentIn, releaseFrame, downFrame, releaseDown, PlannedEnd.entry, hentry]

theorem tracked_of_reaches (hpromised : Promised config intent.desired)
    (hacks : AcksAll env) (hagrees : Agrees config (kernelAfter start found.log) found)
    (hlocals : PlannedLocals config intent pass found)
    (hreaches : Reaches config env intent pass .locals s t)
    (h : Tracked config start intent pass found s) : Tracked config start intent pass found t :=
  hreaches.invariant (fun _ _ heffect => tracked_of_localEffect hpromised hacks hagrees hlocals
    heffect) h

section Stages

variable (hpromised : Promised config intent.desired) (hacks : AcksAll env)
    (hagrees : Agrees config (kernelAfter start found.log) found)
    (hlocals : PlannedLocals config intent pass found)

include hpromised hacks hagrees hlocals

theorem wp_releaseLinks_steady (hpairs : ∀ pair ∈ pairs, pair ∈ pass.toRemove)
    (h : Steady config start intent pass found s) :
    wp (releaseLinks config env intent.downReasons pairs) s
      (fun _ => Steady config start intent pass found) (fun _ _ => True) := by
  have hrecorded : wp (releaseLinks config env intent.downReasons pairs) s
      (fun _ t => Recorded config (kernelAfter start t.log) t) (fun _ _ => True) := by
    refine wp_releaseLinks (fun _ => trivial) fun plan events hplan hevents =>
      ⟨fun _ => trivial, fun _ g _ pair terminal hlocal hwired => ?_⟩
    have hkernel : kernelAfter start (removeAll config (sortedSet (resultIn config env
        (releaseFrame s pairs intent.downReasons) plan s).succeededPairs)
        { afterEvents events (afterCommand env
          (releaseFrame s pairs intent.downReasons) plan s) with gsActuation := g }).log =
        executed (sentIn env (releaseFrame s pairs intent.downReasons) plan s)
          (kernelAfter start s.log) := by
      rw [log_removeAll]
      exact kernelAfter_append (command_notMem_localDowns hevents)
    rw [hkernel] at hwired
    have hbefore : kernelAfter start s.log terminal = some ⟨pair, none⟩ := by
      rcases carried_of_executed hwired with hbefore | ⟨hup, -⟩
      · exact hbefore
      · cases hup
    rw [record?_removeAll, record?_station, record?_afterEvents, record?_afterCommand, if_neg]
    · exact h.recorded pair terminal hlocal hbefore
    -- a link that was released is carried nowhere
    · intro hmem
      obtain ⟨_, hreleased, heq⟩ := List.mem_map.mp hmem
      cases heq
      have hsucceeded := mem_sortedSet.mp hreleased
      have hpair := mem_sortedSet.mp (succeededPairs_subset hsucceeded)
      obtain ⟨info, hinfo⟩ := Option.ne_none_iff_exists'.mp (h.recorded pair terminal hlocal hbefore)
      rw [executed_release h.tracked.placed
        (fun pair' hpair' => ((hlocals.toRemove pair').mp (hpairs pair' hpair')).2.1) hplan hpair
        hinfo (acksPair_of_succeeded hsucceeded)
        (h.tracked.named hagrees hlocals (hpairs pair hpair) hinfo hbefore)] at hwired
      cases hwired
  refine wp_mono (wp_and (reaches_releaseLinks hpairs s) hrecorded) ?_ fun _ _ _ => trivial
  exact fun _ _ ht => ⟨tracked_of_reaches hpromised hacks hagrees hlocals ht.1 h.tracked, ht.2⟩

theorem wp_acquireLinks_steady (hpairs : ∀ pair ∈ pairs, pair ∈ pass.toAdd)
    (hfreed : Freed config env intent pass pairs s) (hclear : LocalLinks.Gone pairs s)
    (h : Steady config start intent pass found s) : wp (acquireLinks config env intent pairs) s
      (fun _ => Steady config start intent pass found) (fun _ _ => True) := by
  refine wp_mono (wp_and (wp_acquireLinks_reaches hpairs hfreed hclear)
    (wp_acquireLinks_acquired fun pair _ => hacks.acknowledges _ _ pair)) ?_ fun _ _ _ => trivial
  rintro _ t ⟨hreaches, hacquired, -⟩
  refine ⟨tracked_of_reaches hpromised hacks hagrees hlocals hreaches h.tracked, ?_⟩
  intro pair terminal hlocal hwired
  by_cases hpair : pair ∈ pairs
  · exact hacquired.recorded pair hpair
  · rw [hacquired.outside (.current pair) hpair]
    obtain ⟨plan, ups, hplan, hups, hlog⟩ := hacquired.sent
    rw [hlog, kernelAfter_append hups] at hwired
    rcases carried_of_executed hwired with hbefore | ⟨-, planned, hplanned, -, -, heq⟩
    · exact h.recorded pair terminal hlocal hbefore
    · refine absurd (mem_sortedSet.mp (wanted_of_linkUp hplan hplanned).1) ?_
      rwa [← (Carried.mk.inj heq).1]

theorem wp_updateLatencies_steady (h : Steady config start intent pass found s)
    (hgone : Gone pass.toRemove s) : wp (updateLatencies config env intent pass.toUpdateLatency) s
      (fun _ t => Steady config start intent pass found t ∧ Gone pass.toRemove t)
      (fun _ _ => True) := by
  have hretimes : ∀ pair ∈ pass.toUpdateLatency, pair ∉ pass.toRemove ∧ pair ∈ intent.desired :=
    fun pair hpair => by
      obtain ⟨-, -, hdesired⟩ := hlocals.toUpdate pair hpair
      exact ⟨fun hremove => ((hlocals.toRemove pair).mp hremove).2.2 hdesired, hdesired⟩
  have hkept : wp (updateLatencies config env intent pass.toUpdateLatency) s
      (fun _ t => Recorded config (kernelAfter start t.log) t ∧ Gone pass.toRemove t)
      (fun _ _ => True) := by
    rw [updateLatencies, wp_when]
    refine ⟨fun _ => ?_, fun _ => ⟨h.recorded, hgone⟩⟩
    rw [wp_bind]
    refine wp_sendAuthoritativeLatencyUpdates (fun _ => trivial) fun plan events _ hevents =>
      ⟨fun _ => trivial, fun t hretimed => ?_⟩
    have hsucceeded : ∀ pair ∈ (resultIn config env
        (latencyFrame intent.desired pass.toUpdateLatency) plan s).succeededPairs,
        pair ∈ pass.toUpdateLatency := fun pair hpair =>
      mem_sortedSet.mp (succeededPairs_subset hpair)
    have hkernel : kernelAfter start t.log = kernelAfter start s.log := by
      rw [hretimed.log]
      exact (kernelAfter_append (command_notMem_latencyUpdates hevents)).trans
        (executed_of_quiet fun _ _ _ => rfl)
    refine wp_handleActuationResult (fun g _ => ⟨fun pair terminal hlocal hwired => ?_,
      fun pair hpair => ?_⟩) fun _ => trivial
    · rw [record?_station, hretimed.current]
      split_ifs with hpair
      · obtain ⟨want, hwant⟩ := Dict.mem_iff.mp (hretimes pair (hsucceeded pair hpair)).2
        rw [hwant]
        exact Option.some_ne_none _
      · rw [record?_afterEvents, record?_afterCommand]
        exact h.recorded pair terminal hlocal (hkernel ▸ hwired)
    · rw [record?_station, hretimed.current, if_neg, record?_afterEvents, record?_afterCommand]
      · exact hgone pair hpair
      · exact fun hmem => (hretimes pair (hsucceeded pair hmem)).1 hpair
  have hreaches : Within (Reaches config env intent pass .locals)
      (updateLatencies config env intent pass.toUpdateLatency) := reaches_updateLatencies
  refine wp_mono (wp_and (hreaches s) hkept) ?_ fun _ _ _ => trivial
  exact fun _ _ ht => ⟨⟨tracked_of_reaches hpromised hacks hagrees hlocals ht.1 h.tracked, ht.2.1⟩,
    ht.2.2⟩

end Stages

/-! ### The pass -/

theorem recorded_of_agrees (h : Agrees config kernel s) : Recorded config kernel s := by
  intro pair terminal hlocal hwired
  obtain ⟨info, hinfo, -⟩ := (h pair hlocal terminal).mp hwired
  rw [hinfo]
  exact Option.some_ne_none info

/-- A pass whose commands are all acknowledged ends with every carried local link recorded and every
release made. -/
theorem wp_dispatchPass_steady (hpromised : Promised config intent.desired)
    (hacks : AcksAll env) (hagrees : Agrees config (kernelAfter start found.log) found)
    (hlocals : PlannedLocals config intent pass found)
    (hplaced : RecordsIn (ContactPlaced config) found)
    (hdispatchable : Dispatchable config intent pass found) :
    wp (dispatchPass config env intent pass) found
      (fun _ t => Steady config start intent pass found t ∧ Gone pass.toRemove t)
      (fun _ _ => True) := by
  have hfound : LocalsKept config start intent found found :=
    ⟨hplaced, fun _ _ => rfl, fun _ _ _ h => h, fun _ _ _ _ h => h⟩
  have hsteady : ∀ t, LocalsKept config start intent found t →
      Steady config start intent pass found t := fun t ht => by
    refine ⟨.of_localsKept hagrees hlocals ht, fun pair terminal hlocal hwired => ?_⟩
    rw [ht.record pair hlocal]
    exact recorded_of_agrees hagrees pair terminal hlocal (ht.shrinks pair terminal hlocal hwired)
  rw [dispatchPass, wp_when]
  refine ⟨fun _ => ?_, fun hidle => ⟨hsteady found hfound, fun pair hpair => ?_⟩⟩
  · have hcontacts : wp («when» (¬ pass.LongDelayIdle)
        (reconcileLongDelay config env intent pass.longDelay pass.due)) found
        (fun _ => Reaches config env intent pass .contacts found) (fun _ _ => True) := by
      rw [wp_when]
      refine ⟨fun _ => ?_, fun _ => .refl⟩
      exact wp_mono (wp_reconcileLongDelay_reaches hdispatchable) (fun _ _ h => h)
        fun _ _ _ => trivial
    have hdisjoint : ∀ pair ∈ pass.toRemove, pair ∉ pass.toAdd := fun pair hremove hadd =>
      ((hlocals.toRemove pair).mp hremove).1 ((hlocals.toAdd pair).mp hadd).2.2
    rw [wp_bind]
    refine wp_imp hcontacts fun _ t ht => ?_
    have hkept := ht.invariant (fun _ _ heffect =>
      localsKept_of_contactEffect hpromised hlocals heffect) hfound
    rw [wp_bind]
    have hlocal : wp (reconcileLocal config env intent pass) t
        (fun _ => Steady config start intent pass found) (fun _ _ => True) :=
      wp_reconcileLocal_kept
        (fun _ _ hpairs => wp_releaseLinks_steady hpromised hacks hagrees hlocals hpairs)
        (fun _ _ hready => wp_acquireLinks_steady hpromised hacks hagrees hlocals hready.toAdd
          hready.freed hready.clear)
        (Reaches.gone hdispatchable ht) (fun _ _ _ => trivial) (hsteady t hkept)
    have hgone : wp (reconcileLocal config env intent pass) t
        (fun _ => Gone pass.toRemove) (fun _ _ => True) :=
      wp_reconcileLocal_gone (fun pair => hacks.acknowledges _ _ pair)
        (fun pair => hacks.acknowledges _ _ pair) hdisjoint
    refine wp_mono (wp_and hlocal hgone) (fun _ u hu => ?_) fun _ _ _ => trivial
    exact wp_updateLatencies_steady hpromised hacks hagrees hlocals hu.1 hu.2
  · exact absurd hpair ((not_not.mp hidle).1 ▸ List.not_mem_nil)

section Ends

variable (hpromised : Promised config intent.desired)
    (hagrees : Agrees config (kernelAfter start found.log) found)
    (hlocals : PlannedLocals config intent pass found)
    (hsteady : Steady config start intent pass found t) (hgone : Gone pass.toRemove t)

include hlocals hsteady hgone

theorem desired_of_record (hlocal : config.longDelay pair = false)
    (hinfo : record? t (.current pair) = some info) :
    ∃ want, intent.desired.get? pair = some want := by
  by_contra hundesired
  have hmem : pair ∉ intent.desired := fun hmem => hundesired (Dict.mem_iff.mp hmem)
  have hold := (hsteady.tracked.record pair info hlocal hinfo).resolve_right fun ⟨want, hwant, _⟩ =>
    hundesired ⟨want, hwant⟩
  have hremove := (hlocals.toRemove pair).mpr ⟨hold ▸ Option.some_ne_none info, hlocal, hmem⟩
  cases (hgone pair hremove).symm.trans hinfo

/-- The record of a local link names the interfaces it is desired on, provided no link that stayed
had to move. -/
theorem recorded_terminals (hunchanged : InterfacesUnchanged config intent.desired found)
    (hlocal : config.longDelay pair = false) (hinfo : record? t (.current pair) = some info) :
    terminal ∈ endTerminals pair info.toLinkInfo ↔
      terminal ∈ wantedTerminals intent.desired pair := by
  obtain ⟨want, hwant⟩ := desired_of_record hlocals hsteady hgone hlocal hinfo
  rw [wantedTerminals, hwant]
  rcases hsteady.tracked.record pair info hlocal hinfo with hfound | ⟨want', hwant', rfl⟩
  · rw [endTerminals_eq (hunchanged pair info want hlocal hfound hwant)]
  · rw [Option.some.inj (hwant.symm.trans hwant')]
    rfl

include hagrees

/-- After the pass a local link is carried where it is desired and nowhere else, provided no link
that stayed had to move. -/
theorem carried_iff_wanted (hunchanged : InterfacesUnchanged config intent.desired found)
    (hlocal : config.longDelay pair = false) (hinfo : record? t (.current pair) = some info) :
    kernelAfter start t.log terminal = some ⟨pair, none⟩ ↔
      terminal ∈ wantedTerminals intent.desired pair := by
  obtain ⟨want, hwant⟩ := desired_of_record hlocals hsteady hgone hlocal hinfo
  have hwanted : terminal ∈ wantedTerminals intent.desired pair ↔
      terminal ∈ endTerminals pair want := by
    rw [wantedTerminals, hwant]
  constructor
  · intro hwired
    rcases hsteady.tracked.shrinks pair terminal hlocal hwired with hfound | ⟨-, hterminal⟩
    · obtain ⟨held, hheld, hnamed⟩ := (hagrees pair hlocal terminal).mp hfound
      rw [hwanted, ← endTerminals_eq (hunchanged pair held want hlocal hheld hwant)]
      exact hnamed
    · exact hterminal
  · intro hterminal
    cases hfound : record? found (.current pair) with
    | none =>
      have hadd := (hlocals.toAdd pair).mpr ⟨Dict.mem_of_get? hwant, hlocal, hfound⟩
      exact hsteady.tracked.wired pair hadd (hinfo ▸ Option.some_ne_none info) terminal hterminal
    | some held =>
      exact hsteady.tracked.stays hunchanged pair hlocal (hfound ▸ Option.some_ne_none held)
        terminal hterminal

theorem agrees_of_unchanged (hunchanged : InterfacesUnchanged config intent.desired found) :
    Agrees config (kernelAfter start t.log) t := by
  intro pair hlocal terminal
  constructor
  · intro hwired
    obtain ⟨info, hinfo⟩ :=
      Option.ne_none_iff_exists'.mp (hsteady.recorded pair terminal hlocal hwired)
    exact ⟨info, hinfo, (recorded_terminals hlocals hsteady hgone hunchanged hlocal
      hinfo).mpr ((carried_iff_wanted hagrees hlocals hsteady hgone hunchanged hlocal hinfo).mp
        hwired)⟩
  · rintro ⟨info, hinfo, hnamed⟩
    exact (carried_iff_wanted hagrees hlocals hsteady hgone hunchanged hlocal hinfo).mpr
      ((recorded_terminals hlocals hsteady hgone hunchanged hlocal hinfo).mp hnamed)

include hpromised

theorem agreesWithDesired_iff :
    AgreesWithDesired config intent.desired (kernelAfter start t.log) t ↔
      InterfacesUnchanged config intent.desired found := by
  constructor
  · intro hdesired pair held want hlocal hheld hwant
    obtain ⟨info, hinfo⟩ := Option.ne_none_iff_exists'.mp (hsteady.tracked.held pair hlocal
      (Dict.mem_of_get? hwant) (hheld ▸ Option.some_ne_none held))
    obtain ⟨want', hwant', hcarried, -⟩ := hdesired pair info hlocal hinfo
    obtain rfl := Option.some.inj (hwant.symm.trans hwant')
    -- the desired interfaces carry the link, so it was on them when the pass began
    refine (terminals_eq_of_subset (hpromised.nodes pair (Dict.mem_of_get? hwant))
      fun terminal hterminal => ?_).symm
    have hfound := (hsteady.tracked.shrinks pair terminal hlocal
      ((hcarried terminal).mpr hterminal)).resolve_right fun hadd => by
        have hnone := ((hlocals.toAdd pair).mp hadd.1).2.2
        cases hnone.symm.trans hheld
    obtain ⟨_, hheld', hnamed⟩ := (hagrees pair hlocal terminal).mp hfound
    rw [Option.some.inj (hheld.symm.trans hheld')]
    exact hnamed
  · intro hunchanged pair info hlocal hinfo
    obtain ⟨want, hwant⟩ := desired_of_record hlocals hsteady hgone hlocal hinfo
    have hcarried : ∀ terminal, kernelAfter start t.log terminal = some ⟨pair, none⟩ ↔
        terminal ∈ wantedTerminals intent.desired pair := fun terminal =>
      carried_iff_wanted hagrees hlocals hsteady hgone hunchanged hlocal hinfo
    refine ⟨want, hwant, fun terminal => ?_, fun terminal hnamed => ?_⟩
    · rw [hcarried, wantedTerminals, hwant]
    · rw [hcarried]
      exact (recorded_terminals hlocals hsteady hgone hunchanged hlocal hinfo).mp hnamed

end Ends

/-! ### Runs -/

/-- A turn toward a desired state that keeps its promises, with no station suppressed and every
command acknowledged. -/
structure AcknowledgedTurn (config : SchedulerConfig) (turn : Turn) : Prop where
  promised : Promised config turn.intent.desired
  unsuppressed : ∀ gsId, ¬ GroundActuationState.blocksUp (turn.intent.verified gsId) ∧
    ¬ GroundActuationState.blocksDown (turn.intent.verified gsId)
  acks : AcksAll turn.surroundings

def KeepsInterfaces (config : SchedulerConfig) (s : Scheduler) (turn : Turn) : Prop :=
  AcknowledgedTurn config turn ∧ InterfacesUnchanged config turn.intent.desired s

theorem plannedLocals_passOf {longDelay : LongDelayPlan} {nowMono : ℚ}
    (hplan : planned config intent s = .ok longDelay)
    (hclean : ∀ gsId, ¬ GroundActuationState.blocksUp (intent.verified gsId) ∧
      ¬ GroundActuationState.blocksDown (intent.verified gsId)) :
    PlannedLocals config intent (passOf config intent s longDelay nowMono)
      (plannedState env intent s) := by
  have hheld : ∀ pair, record? (plannedState env intent s) (.current pair) ≠ none ↔
      pair ∈ s.actualLinks := by
    intro pair
    rw [record?, plannedState, refreshed, Dict.get?_mapValues, Dict.mem_iff, Ne, Option.map_eq_none_iff,
      ← Ne, Option.ne_none_iff_exists']
    exact Iff.rfl
  obtain ⟨decisions, hdecisions, rfl⟩ := exists_decisions hplan
  constructor
  · intro pair hpair
    obtain ⟨hopening, -⟩ := mem_filterBlocked_iff.mp hpair
    rw [opening_ofDecisions] at hopening
    exact longDelay_of_mem_decidedPairs hdecisions hopening
  · intro pair hpair
    change pair ∈ (LongDelayPlan.ofDecisions decisions).latency at hpair
    rw [latency_ofDecisions] at hpair
    exact longDelay_of_mem_decidedPairs hdecisions hpair
  · intro pair
    rw [hheld, ← mem_toRemove_iff]
    exact mem_filterDown_iff.trans (and_iff_left fun gsId _ => (hclean gsId).2)
  · intro pair
    rw [← not_not (a := record? _ _ = none), ← Ne, hheld, ← mem_toAdd_iff]
    exact mem_filterBlocked_iff.trans (and_iff_left fun gsId _ => (hclean gsId).1)
  · intro pair hpair
    rw [hheld]
    exact of_mem_toUpdateLatency (mem_filterBlocked_iff.mp hpair).1

theorem agrees_plannedState (h : Agrees config (kernelAfter start s.log) s) :
    Agrees config (kernelAfter start (plannedState env intent s).log)
      (plannedState env intent s) := by
  intro pair hlocal terminal
  refine (h pair hlocal terminal).trans ⟨?_, ?_⟩
  · rintro ⟨info, hinfo, hnamed⟩
    obtain ⟨_, _, _, hrefreshed⟩ := exists_record?_plannedState env intent hinfo
    exact ⟨_, hrefreshed, hnamed⟩
  · rintro ⟨info, hinfo, hnamed⟩
    obtain ⟨held, hheld, _, _, _, rfl⟩ := record?_refreshed hinfo
    exact ⟨held, hheld, hnamed⟩

theorem interfacesUnchanged_plannedState {desired : Dict Pair LinkInfo} :
    InterfacesUnchanged config desired (plannedState env intent s) ↔
      InterfacesUnchanged config desired s := by
  constructor
  · intro h pair held want hlocal hheld hwant
    obtain ⟨_, _, _, hrefreshed⟩ := exists_record?_plannedState env intent hheld
    have hterminals := h pair _ want hlocal hrefreshed hwant
    exact hterminals
  · intro h pair held want hlocal hheld
    obtain ⟨before, hbefore, _, _, _, rfl⟩ := record?_refreshed hheld
    exact h pair before want hlocal hbefore

theorem contactPlaced_plannedState (h : RecordsIn (ContactPlaced config) s) :
    RecordsIn (ContactPlaced config) (plannedState env intent s) := by
  intro key info hinfo
  obtain ⟨held, hheld, _, _, _, rfl⟩ := record?_refreshed hinfo
  rw [record?_afterReading, verifiedState, record?_station] at hheld
  have hplaced := h key held hheld
  exact hplaced

/-- An acknowledged turn from a state in agreement: it ends in agreement with the desired state
exactly if no link that stays moves, and then record and kernel agree again. -/
theorem wp_runTurn_agrees {turn : Turn} (hturn : AcknowledgedTurn config turn)
    (hagrees : Agrees config (kernelAfter start s.log) s)
    (hplaced : RecordsIn (ContactPlaced config) s) : wp (runTurn config turn) s
      (fun _ t => (AgreesWithDesired config turn.intent.desired (kernelAfter start t.log) t ↔
          InterfacesUnchanged config turn.intent.desired s) ∧
        (InterfacesUnchanged config turn.intent.desired s →
          Agrees config (kernelAfter start t.log) t) ∧ RecordsIn (ContactPlaced config) t)
      (fun _ _ => True) := by
  have hbegin : Agrees config (kernelAfter start (turn.begin config s).log) (turn.begin config s) := by
    intro pair hlocal terminal
    rw [log_begin, record?_begin]
    exact hagrees pair hlocal terminal
  have hsame : InterfacesUnchanged config turn.intent.desired (turn.begin config s) ↔
      InterfacesUnchanged config turn.intent.desired s := by
    simp only [InterfacesUnchanged, record?_begin]
  rw [runTurn, wp_bind, wp_modify]
  refine wp_reconcileLinks.mpr ⟨fun plan hplan => ?_, fun _ _ => trivial⟩
  have hlocals : PlannedLocals config turn.intent (passOf config turn.intent (turn.begin config s) plan
      (turn.surroundings.clock (turn.begin config s).readings))
      (plannedState turn.surroundings turn.intent (turn.begin config s)) :=
    plannedLocals_passOf hplan hturn.unsuppressed
  have hfound : Agrees config (kernelAfter start (plannedState turn.surroundings turn.intent
      (turn.begin config s)).log) (plannedState turn.surroundings turn.intent (turn.begin config s)) :=
    agrees_plannedState hbegin
  refine wp_imp (wp_dispatchPass_steady hturn.promised hturn.acks hfound hlocals
    (contactPlaced_plannedState (hplaced.congr fun _ => record?_begin))
    (dispatchable_passOf hplan)) ?_
  rintro _ t ⟨hsteady, hgone⟩
  have hunchanged : InterfacesUnchanged config turn.intent.desired
      (plannedState turn.surroundings turn.intent (turn.begin config s)) ↔ _ :=
    interfacesUnchanged_plannedState.trans hsame
  refine ⟨?_, fun h => ?_, hsteady.tracked.placed⟩
  · rw [← hunchanged]
    exact agreesWithDesired_iff hturn.promised hfound hlocals hsteady hgone
  · exact agrees_of_unchanged hfound hlocals hsteady hgone (hunchanged.mpr h)

/-- After any run of turns that kept their interfaces, a turn ends in agreement with the desired
state exactly if no local link that stays desired changes its interfaces. -/
theorem runTurn_agreesWithDesired_iff {first : Scheduler} {turn : Turn}
    (hagrees : Agrees config (kernelAfter start first.log) first)
    (hplaced : RecordsIn (ContactPlaced config) first)
    (run : PassRuns config (KeepsInterfaces config) first none s)
    (hturn : AcknowledgedTurn config turn) (hexec : (runTurn config turn).exec s = (.ok (), t)) :
    AgreesWithDesired config turn.intent.desired (kernelAfter start t.log) t ↔
      InterfacesUnchanged config turn.intent.desired s := by
  have hinvariant := run.invariant (I := fun u => Agrees config (kernelAfter start u.log) u ∧
    RecordsIn (ContactPlaced config) u) (J := fun _ => True) ⟨hagrees, hplaced⟩ (fun _ _ => trivial)
    fun u turn hallowed hu => wp_imp (wp_runTurn_agrees hallowed.1 hu.1 hu.2) fun _ _ h =>
      ⟨h.2.1 hallowed.2, h.2.2⟩
  obtain ⟨hs, hs'⟩ := hinvariant.2 rfl
  exact ((wp_of_exec_ok hexec).mp (wp_runTurn_agrees hturn hs hs')).1

/-! ### A satellite that moves a station to its other terminal -/

def spareTerminal : SchedulerConfig :=
  { twoStations with interfaceRates := ("sat1", "gnd1") :: twoStations.interfaceRates }

/-- The station's link stays desired, on the satellite's second terminal. -/
def movedTerminal : Turn :=
  turnToward (.ofList [(("gs1", "sat1"), { groundLink 2 with interfaceB := "gnd1" })]) fun _ => false

def onFirstTerminal : Scheduler := ((runTurn spareTerminal firstContact).exec freshScheduler).2

theorem acksAll_refusing_none : AcksAll (surroundingsRefusing fun _ => false) :=
  fun _ _ _ hentry => ⟨_, List.mem_map_of_mem hentry, rfl, rfl⟩

theorem acknowledgedTurn_ground (hbounds : config.longDelayBoundsS = ∅) (hnodes : pair.1 ≠ pair.2)
    (hcontact : link.contact = none) :
    AcknowledgedTurn config (turnToward (.ofList [(pair, link)]) fun _ => false) := by
  have hlocal : ∀ pair, config.longDelay pair = false := fun pair => by
    rw [SchedulerConfig.longDelay, hbounds]
    exact decide_eq_false Dict.not_mem_empty
  have hget : ∀ pair' want, (Dict.ofList [(pair, link)]).get? pair' = some want →
      pair' = pair ∧ want = link := by
    intro pair' want hwant
    have hmem := Dict.get?_eq_some_iff.mp hwant
    exact Prod.mk.inj (List.mem_singleton.mp hmem)
  refine ⟨⟨?_, fun pair' hpair' => ?_, fun pair' want hwant => ?_⟩, fun _ => ?_,
    acksAll_refusing_none⟩
  · intro x hx y hy _ _ _
    rw [List.mem_singleton.mp hx, List.mem_singleton.mp hy]
  · obtain ⟨want, hwant⟩ := Dict.mem_iff.mp hpair'
    rwa [(hget pair' want hwant).1]
  · exact iff_of_true ((hget pair' want hwant).2 ▸ hcontact) (hlocal pair')
  · exact (by decide : ¬ GroundActuationState.blocksUp {} ∧ ¬ GroundActuationState.blocksDown {})

theorem agrees_fresh : Agrees config (kernelAfter (fun _ => none) freshScheduler.log)
    freshScheduler := by
  intro pair _ terminal
  exact iff_of_false (fun h => nomatch h) fun ⟨_, h, _⟩ => nomatch h

theorem run_firstContact (hbounds : config.longDelayBoundsS = ∅)
    (hreturns : ((runTurn config firstContact).exec freshScheduler).1.toBool = true) :
    PassRuns config (KeepsInterfaces config) freshScheduler none
      ((runTurn config firstContact).exec freshScheduler).2 := by
  refine Runs.nil.next firstContact ⟨acknowledgedTurn_ground hbounds (by decide) rfl, ?_⟩ hreturns
  exact fun _ _ _ _ hheld => nomatch hheld

/-- Nothing is sent for a link whose desired terminal changed, and it stays on the old one. -/
theorem moved_terminal_not_agreeing : ∃ s t,
    PassRuns spareTerminal (KeepsInterfaces spareTerminal) freshScheduler none s ∧
    AcknowledgedTurn spareTerminal movedTerminal ∧
    (runTurn spareTerminal movedTerminal).exec s = (.ok (), t) ∧
    ¬ AgreesWithDesired spareTerminal movedTerminal.intent.desired
      (kernelAfter (fun _ => none) t.log) t := by
  refine ⟨onFirstTerminal, _, run_firstContact rfl (by decide +kernel),
    acknowledgedTurn_ground rfl (by decide) rfl, Prod.ext (by decide +kernel) rfl, fun h => ?_⟩
  obtain ⟨info, hinfo⟩ := Option.isSome_iff_exists.mp (by decide +kernel : (record?
    ((runTurn spareTerminal movedTerminal).exec onFirstTerminal).2
    (.current ("gs1", "sat1"))).isSome = true)
  obtain ⟨want, hwant, hcarried, -⟩ := h ("gs1", "sat1") info (by decide) hinfo
  have hgnd1 : ("sat1", "gnd1") ∈ endTerminals ("gs1", "sat1") want := by
    have hlink : want = { groundLink 2 with interfaceB := "gnd1" } := by
      have hmem := Dict.get?_eq_some_iff.mp hwant
      exact (Prod.mk.inj (List.mem_singleton.mp hmem)).2
    rw [hlink]
    decide
  have hwired := (hcarried ("sat1", "gnd1")).mpr hgnd1
  revert hwired
  decide +kernel

/-- A handover to another station leaves the kernel as desired. -/
theorem handover_agreesWithDesired : AgreesWithDesired twoStations
    (handover fun _ => false).intent.desired (kernelAfter (fun _ => none)
      ((runTurn twoStations (handover fun _ => false)).exec afterFirstContact).2.log)
    ((runTurn twoStations (handover fun _ => false)).exec afterFirstContact).2 := by
  have hfirst : PassRuns twoStations (KeepsInterfaces twoStations) freshScheduler none
      afterFirstContact := run_firstContact rfl (by decide +kernel)
  refine (runTurn_agreesWithDesired_iff agrees_fresh (fun key _ hinfo => ?_) hfirst
    (acknowledgedTurn_ground rfl (by decide) rfl) (Prod.ext (by decide +kernel) rfl)).mpr ?_
  · cases key <;> cases hinfo
  · intro pair held want _ hheld hwant
    obtain rfl : pair = ("gs1", "sat1") := RecordKey.current.inj (record?_afterFirstContact hheld)
    have hmem := Dict.get?_eq_some_iff.mp hwant
    exact absurd (Prod.mk.inj (List.mem_singleton.mp hmem)).1 (by decide)

end NodalArc.InterfaceAgreement
