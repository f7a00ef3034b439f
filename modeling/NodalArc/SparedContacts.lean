import NodalArc.PassRefinement

/-! A pass whose intent names the open contact a pair holds neither stops nor closes it, whatever it
does to the other pairs and to earlier contacts of the pair that still drain. -/

namespace NodalArc.SparedContacts

open OrderedDict
open GroundPolicy
open LinkRecord
open ContactDrain
open Actuation
open NodeAgentBatches
open DispatchActuator
open BatchEntries
open Reconcile
open HeldRecords
open CommandRules
open CloseRounds
open ContactPlan
open PassPlanning
open LocalLinks
open PassEffects
open PassRefinement
open SchedulerRuns
open StatefulProgram
open StatefulProgram.Program

variable {info : ActiveLinkInfo} {events log : List Event} {plan : LongDelayPlan}
    {now : Option ActiveLinkInfo} {phase : Phase} {key : RecordKey}

/-- A STOP_ADMISSION or a CLOSE that names a contact of a pair. -/
def EndsContact (sent : SentCommand) (pair : Pair) (contact : Contact) : Prop :=
  sent.operation = .batchLinkDown ∧
    (sent.stage = some .stopAdmission ∨ sent.stage = some .close) ∧
    ∃ planned ∈ sent.plan, planned.2.pair = pair ∧ planned.2.contactId = some contact

instance (sent : SentCommand) (pair : Pair) (contact : Contact) :
    Decidable (EndsContact sent pair contact) :=
  inferInstanceAs (Decidable (_ ∧ _ ∧ _))

def SparedSince (base : List Event) (pair : Pair) (contact : Contact) (log : List Event) : Prop :=
  ∃ later, log = later ++ base ∧ ∀ sent, .command sent ∈ later → ¬ EndsContact sent pair contact

def Other (contact : Contact) (info : ActiveLinkInfo) : Prop :=
  info.contact ≠ some contact ∧
    ∀ drain, info.drain = some drain → ∀ e ∈ drain.ends, e.contactId ≠ contact

/-- The contact is open as its pair's current record and was not ended since. -/
structure Spared (base : List Event) (pair : Pair) (contact : Contact) (s : Scheduler) : Prop where
  held : ∃ info, record? s (.current pair) = some info ∧ info.contact = some contact ∧
    info.drain = none
  others : ∀ earlier info, record? s (.overlap pair earlier) = some info → Other contact info
  log : SparedSince base pair contact s.log

variable {config : SchedulerConfig} {env : Surroundings} {intent : DispatchIntent}
    {pass : PassPlan} {base : List Event} {pair : Pair} {contact : Contact} {s t : Scheduler}

theorem SparedSince.append (h : SparedSince base pair contact log)
    (hevents : ∀ sent, .command sent ∈ events → ¬ EndsContact sent pair contact) :
    SparedSince base pair contact (events ++ log) := by
  obtain ⟨later, rfl, hlater⟩ := h
  refine ⟨events ++ later, (List.append_assoc _ _ _).symm, fun sent hsent => ?_⟩
  rcases List.mem_append.mp hsent with hsent | hsent
  · exact hevents sent hsent
  · exact hlater sent hsent

theorem SparedSince.cons {event : Event} (h : SparedSince base pair contact log)
    (hevent : ∀ sent, event = .command sent → ¬ EndsContact sent pair contact) :
    SparedSince base pair contact (event :: log) :=
  h.append fun sent hsent => hevent sent (List.mem_singleton.mp hsent).symm

theorem Other.endContact (h : Other contact info) (node : NodeId) :
    info.endContact? node ≠ some contact := by
  unfold ActiveLinkInfo.endContact?
  split
  next => simp
  next own hown _ =>
    rw [← hown]
    exact h.1
  next own drain hown hdrain =>
    split
    next e he =>
      have hne := h.2 drain hdrain e (List.mem_of_find?_eq_some he)
      simpa using hne
    next =>
      rw [← hown]
      exact h.1

theorem Other.drains {held : ActiveLinkInfo} (h : Other contact held)
    (hdrains : Drains config key held info) : Other contact info := by
  refine ⟨hdrains.contact ▸ h.1, ?_⟩
  cases hdrains with
  | same => exact h.2
  | stopped now reason drain _ _ hstart =>
    -- the ends stop under the contacts the record gives them
    have hend : ∀ node id, held.endContactId node = .ok id → id ≠ contact := by
      rintro node id hid rfl
      unfold ActiveLinkInfo.endContactId at hid
      split at hid
      next hnode => exact h.endContact node (hnode.trans (congrArg some (Except.ok.inj hid)))
      next => cases hid
    obtain ⟨idA, hidA, hstart⟩ := bind_eq_ok_iff.mp hstart
    obtain ⟨idB, hidB, hstart⟩ := bind_eq_ok_iff.mp hstart
    obtain rfl := Except.ok.inj hstart
    rintro _ ⟨⟩ e he
    rcases List.mem_pair.mp he with rfl | rfl
    · exact hend _ _ hidA
    · exact hend _ _ hidB
  | shrunk drain left gone hdrain hleft =>
    rintro _ ⟨⟩ e he
    rw [hleft] at he
    exact h.2 drain hdrain e (List.mem_filter.mp he).1

theorem Spared.congr (h : Spared base pair contact s) (hlog : SparedSince base pair contact t.log)
    (hkey : ∀ key, key.pair = pair → record? t key = record? s key) :
    Spared base pair contact t where
  held := by
    rw [hkey (.current pair) rfl]
    exact h.held
  others earlier info hinfo := by
    rw [hkey (.overlap pair earlier) rfl] at hinfo
    exact h.others earlier info hinfo
  log := hlog

/-- The plan of a pass leaves a pair alone but for its delays. -/
structure Untouched (config : SchedulerConfig) (pass : PassPlan) (pair : Pair) : Prop where
  forced : pair ∉ pass.longDelay.forced.map Prod.fst
  stop : pair ∉ pass.longDelay.stop
  opening : pair ∉ pass.longDelay.opening
  relocate : pair ∉ pass.longDelay.relocate
  toRemove : pair ∉ pass.toRemove
  toAdd : pair ∉ pass.toAdd

def HeldOpen (pair : Pair) (s : Scheduler) : Prop :=
  ∃ info, record? s (.current pair) = some info ∧ info.drain = none

theorem Spared.heldOpen (h : Spared base pair contact s) : HeldOpen pair s := by
  obtain ⟨info, hinfo, -, hopen⟩ := h.held
  exact ⟨info, hinfo, hopen⟩

theorem key_ne_current {r : CloseRecord} (huntouched : Untouched config pass pair)
    (h : HeldOpen pair s) (hcurrent : record? s r.key = some r.info)
    (hgrounds : CloseGrounds intent pass s r) : r.key ≠ .current pair := by
  intro hkey
  obtain ⟨info, hinfo, hopen⟩ := h
  rw [hkey, hinfo] at hcurrent
  obtain rfl := Option.some.inj hcurrent
  cases hgrounds with
  | forced cause _ _ hplanned => exact huntouched.forced (hplanned pair hkey)
  | due now _ _ hends hsome =>
    rw [dueNodes, hopen] at hends
    exact hsome hends
  | retargeted drain _ hdrain =>
    rw [hopen] at hdrain
    cases hdrain

theorem not_endsContact_of_operation {sent : SentCommand} (h : sent.operation ≠ .batchLinkDown) :
    ¬ EndsContact sent pair contact := fun hends => h hends.1

theorem not_endsContact_of_linkDown {sent : SentCommand} {stage : Stage} {named : NamedEnds}
    {contactIds : Dict Terminal Contact} {links : Dict Pair ActiveLinkInfo} {pairs : List Pair}
    (hplan : buildLinkDownBatchPlan config stage named contactIds links (sortedSet pairs) =
      .ok sent.plan) (hpair : pair ∉ pairs) : ¬ EndsContact sent pair contact := by
  rintro ⟨-, -, planned, hplanned, rfl, -⟩
  obtain ⟨pair, hmem, _, _, -, -, -, _, -, rfl⟩ := (entry_of_linkDown hplan).mp hplanned
  exact hpair (mem_sortedSet.mp hmem)

variable (huntouched : Untouched config pass pair)

include huntouched

theorem not_endsContact_of_close {batch : List CloseRecord} {plan : BatchPlan}
    (h : Spared base pair contact s)
    (hround : ReadyRound intent pass batch s) (hplan : closePlan config batch = .ok plan) :
    ¬ EndsContact (sentIn env (closeFrame batch) plan s) pair contact := by
  rintro ⟨-, -, planned, hplanned, hpair, hcontact⟩
  obtain ⟨r, hr, ends, -, e, -, -, rfl⟩ := (mem_closePlan_iff hround.pairs hplan).mp hplanned
  have hheld := hround.current r hr
  have hne := key_ne_current huntouched h.heldOpen hheld (hround.grounds r hr)
  change r.key.pair = pair at hpair
  cases hkey : r.key with
  | current other =>
    rw [hkey] at hpair hne
    exact hne (congrArg RecordKey.current hpair)
  | overlap other earlier =>
    rw [hkey] at hpair hheld
    obtain rfl : other = pair := hpair
    exact (h.others earlier r.info hheld).endContact e.own.1 hcontact

theorem ne_current_of_endsLeft {gone : List NodeId}
    (h : HeldOpen pair s) (hheld : record? s key = some info)
    (hgone : EndsLeft config env intent pass s key info gone) : key ≠ .current pair := by
  cases hgone with
  | closed batch r sent _ hkey hinfo _ hgrounds =>
    subst hkey hinfo
    exact key_ne_current huntouched h hheld hgrounds
  | reopened _ _ _ hkey =>
    rw [hkey]
    exact RecordKey.noConfusion

/-- No effect of a pass that leaves the pair alone ends its contact. -/
theorem sparedSince_of_effect (heffect : Effect config env intent pass phase s t)
    (h : Spared base pair contact s) : SparedSince base pair contact t.log := by
  have hsent : ∀ sent, ¬ EndsContact sent pair contact →
      SparedSince base pair contact (.command sent :: s.log) := fun sent hends =>
    h.log.cons fun _ heq => Event.command.inj heq ▸ hends
  have hpublished : ∀ {events log}, SparedSince base pair contact log →
      (∀ sent, .command sent ∉ events) → SparedSince base pair contact (events ++ log) :=
    fun hlog hevents => hlog.append fun sent hmem => absurd hmem (hevents sent)
  cases heffect with
  | reading => exact h.log.cons fun _ heq => nomatch heq
  | stopSent _ pairs plan _ hplanned hplan =>
    refine hsent _ (not_endsContact_of_linkDown hplan fun hpair => ?_)
    rcases hplanned pair hpair with hstop | hforced
    · exact huntouched.stop hstop
    · exact huntouched.forced hforced
  | closeSent _ batch plan hround _ hplan =>
    exact hsent _ (not_endsContact_of_close huntouched h hround hplan)
  | releaseSent _ pairs plan events hpairs hplan hevents =>
    refine hpublished (hsent _ (not_endsContact_of_linkDown hplan fun hpair => ?_))
      (command_notMem_localDowns hevents)
    exact huntouched.toRemove (hpairs pair hpair)
  | proofSent | prepareSent | openSent | acquireSent | latencySent =>
    exact hsent _ (not_endsContact_of_operation
      (by simp [sentIn, proofFrame, inventoryFrame, upFrame, latencyFrame]))
  | linkUps | localUps => exact hpublished h.log command_notMem_linkUps
  | latencyUpdates _ events hevents =>
    exact hpublished h.log (command_notMem_latencyUpdates hevents)
  | tornDown | ended =>
    rw [log_tornDown]
    exact h.log.cons fun _ heq => nomatch heq
  | retimed _ _ _ _ hretimed =>
    rw [hretimed.log]
    exact h.log
  | _ => simpa using h.log

/-- An effect of such a pass keeps the pair's open record or replaces it by the desired one. -/
theorem current_of_effect (heffect : Effect config env intent pass phase s t)
    (h : HeldOpen pair s) : record? t (.current pair) = record? s (.current pair) ∨
      record? t (.current pair) = (intent.desired.get? pair).map LinkInfo.activate := by
  cases heffect with
  | drained _ stopped info now drain sent earlier hstop =>
    rw [record?_setRecord, if_neg]
    · exact .inl rfl
    · rintro ⟨⟩
      exact huntouched.stop hstop
  | relocated _ moved hmoved =>
    exact .inl (record?_relocateContact fun heq : pair = moved =>
      huntouched.relocate (heq ▸ hmoved))
  | shrunk _ key info drain left gone hheld hdrain _ hleft hgone =>
    have hne := ne_current_of_endsLeft huntouched h hheld hgone
    exact .inl (by rw [record?_setRecord, if_neg hne.symm])
  | tornDown _ key info gone reason losses hheld _ hgone =>
    have hne := ne_current_of_endsLeft huntouched h hheld hgone
    exact .inl (by rw [record?_tornDown, if_neg hne.symm])
  | ended _ opened old reason losses _ hprepared =>
    rw [record?_tornDown, if_neg]
    · exact .inl rfl
    · rintro ⟨⟩
      exact huntouched.opening hprepared.1
  | opened _ opened info pairs sent _ hpair _ hsent =>
    rw [record?_addActual, if_neg]
    · exact .inl rfl
    · rintro ⟨⟩
      exact huntouched.opening (hsent.opening pair hpair)
  | retimed _ _ pairs _ hretimed =>
    rw [hretimed.current]
    split
    · exact .inr rfl
    · exact .inl rfl
  | removed _ pairs sent hpairs =>
    rw [record?_removeAll, if_neg]
    · exact .inl rfl
    · intro hmem
      obtain ⟨removed, hremoved, heq⟩ := List.mem_map.mp hmem
      obtain rfl := RecordKey.current.inj heq
      exact huntouched.toRemove (hpairs removed hremoved).1
  | added _ added info pairs sent _ _ hadd =>
    rw [record?_addActual, if_neg]
    · exact .inl rfl
    · rintro ⟨⟩
      exact huntouched.toAdd hadd
  | _ => exact .inl rfl

/-- Every effect of a pass that leaves the pair alone, and names its contact if it names one, spares
the contact. -/
theorem spared_of_effect
    (hwant : ∀ want, intent.desired.get? pair = some want → want.contact = some contact)
    (hdesired : pair ∈ intent.desired)
    (heffect : Effect config env intent pass phase s t) (h : Spared base pair contact s)
    : Spared base pair contact t where
  held := by
    rcases current_of_effect huntouched heffect h.heldOpen with heq | heq
    · rw [heq]
      exact h.held
    · obtain ⟨want, hget⟩ := Dict.mem_iff.mp hdesired
      exact ⟨want.activate, by rw [heq, hget, Option.map_some], hwant want hget, rfl⟩
  others earlier info hinfo := by
    cases heffect.came hinfo with
    | kept held hheld hdrains => exact (h.others earlier held hheld).drains hdrains
    | desired other want hkey => cases hkey
    | aside other earlier' hkey hmoved =>
      cases hkey
      exact absurd hmoved huntouched.relocate
  log := sparedSince_of_effect huntouched heffect h

theorem heldOpen_of_effect (hdesired : pair ∈ intent.desired)
    (heffect : Effect config env intent pass phase s t) (h : HeldOpen pair s) :
    HeldOpen pair t := by
  rcases current_of_effect huntouched heffect h with heq | heq
  · rw [HeldOpen, heq]
    exact h
  · obtain ⟨want, hget⟩ := Dict.mem_iff.mp hdesired
    exact ⟨want.activate, by rw [heq, hget, Option.map_some], rfl⟩

omit huntouched

/-! ### Passes -/

/-- An open contact that the intent names again, of an epoch that no seek replaced, keeps at most
its delays moving. -/
theorem planPair_of_named {epochId : Nat} {downReasons : Dict Pair String} {held : ActiveLinkInfo}
    {want : LinkInfo} {d : PairPlan}
    (h : planPair epochId downReasons pair (some held) (some want) = .ok d)
    (hcontact : held.contact = some contact) (hopen : held.drain = none)
    (hwant : want.contact = some contact) (hepoch : epochId ≤ contact.epochId) :
    d = .latency ∨ d = .keep := by
  simp only [planPair, requireContact, hcontact, hwant] at h
  have hnew : ¬ contact.epochId < epochId := not_lt.mpr hepoch
  simp only [bind, Except.bind, if_neg hnew, pure, Except.pure, planHeldAndWanted, hopen, ne_eq,
    not_true_eq_false, false_and, if_false, or_false, Except.ok.injEq] at h
  split at h
  · exact .inl h.symm
  · exact .inr h.symm

/-- An intent that names the open contact a long-delay pair holds. -/
structure NamesHeld (config : SchedulerConfig) (intent : DispatchIntent) (pair : Pair)
    (contact : Contact) (s : Scheduler) : Prop where
  longDelay : config.longDelay pair = true
  held : ∃ info, record? s (.current pair) = some info ∧ info.contact = some contact ∧
    info.drain = none
  wanted : ∃ want, intent.desired.get? pair = some want ∧ want.contact = some contact
  epoch : s.lastSnapshotEpochId ≤ contact.epochId

variable (hplan : planned config intent s = .ok plan)

include hplan

theorem untouched_of_decided {nowMono : ℚ} (hlong : config.longDelay pair = true)
    (hdecided : ∀ d, planPair s.lastSnapshotEpochId intent.downReasons pair (s.actualLinks.get?
      pair) (intent.desired.get? pair) = .ok d → d = .latency ∨ d = .keep) :
    Untouched config (passOf config intent s plan nowMono) pair := by
  obtain ⟨decisions, hdecisions, rfl⟩ := exists_decisions hplan
  have hselect : ∀ select : PairPlan → Bool, select .latency = false → select .keep = false →
      pair ∉ decidedPairs decisions select := by
    intro select hlatency hkeep hmem
    obtain ⟨d, hd, hselected⟩ := planPair_of_mem_decidedPairs hdecisions hmem
    rcases hdecided d hd with rfl | rfl
    · exact Bool.false_ne_true (hlatency.symm.trans hselected)
    · exact Bool.false_ne_true (hkeep.symm.trans hselected)
  refine ⟨fun hmem => ?_, ?_, fun hmem => ?_, ?_, fun hmem => ?_, fun hmem => ?_⟩
  · obtain ⟨⟨_, cause⟩, hforced, rfl⟩ := List.mem_map.mp hmem
    obtain ⟨-, d, hd, hcause⟩ := hdecisions.mem_forced_iff.mp hforced
    rw [get?_filter_key hlong, get?_filter_key hlong] at hd
    rcases hdecided d hd with rfl | rfl <;> cases hcause
  · change pair ∉ (LongDelayPlan.ofDecisions decisions).stop
    rw [stop_ofDecisions]
    exact hselect _ rfl rfl
  · have hopening := (mem_filterBlocked_iff.mp hmem).1
    rw [opening_ofDecisions] at hopening
    exact hselect _ rfl rfl hopening
  · change pair ∉ (LongDelayPlan.ofDecisions decisions).relocate
    rw [relocate_ofDecisions]
    exact hselect _ rfl rfl
  · have hlocal := (mem_toRemove_iff.mp (mem_filterDown_iff.mp hmem).1).2.1
    exact Bool.false_ne_true (hlocal.symm.trans hlong)
  · have hlocal := (mem_toAdd_iff.mp (mem_filterBlocked_iff.mp hmem).1).2.1
    exact Bool.false_ne_true (hlocal.symm.trans hlong)

theorem untouched_passOf {nowMono : ℚ} (h : NamesHeld config intent pair contact s) :
    Untouched config (passOf config intent s plan nowMono) pair := by
  refine untouched_of_decided hplan h.longDelay fun d hd => ?_
  obtain ⟨held, hheld, hcontact, hopen⟩ := h.held
  obtain ⟨want, hget, hwant⟩ := h.wanted
  rw [show s.actualLinks.get? pair = some held from hheld, hget] at hd
  exact planPair_of_named hd hcontact hopen hwant h.epoch

theorem untouched_of_mem_latency {nowMono : ℚ} (hpair : pair ∈ plan.latency) :
    Untouched config (passOf config intent s plan nowMono) pair ∧ HeldOpen pair s ∧
      pair ∈ intent.desired := by
  obtain ⟨decisions, hdecisions, rfl⟩ := exists_decisions hplan
  rw [latency_ofDecisions] at hpair
  obtain ⟨d, hd, hlatency⟩ := planPair_of_mem_decidedPairs hdecisions hpair
  obtain rfl := of_decide_eq_true hlatency
  obtain ⟨info, want, hheld, hwant, hopen⟩ := open_of_latency hd
  refine ⟨untouched_of_decided hplan (longDelay_of_mem_decidedPairs hdecisions hpair)
    fun d' hd' => .inl (Except.ok.inj (hd'.symm.trans hd)), ⟨info, hheld, hopen⟩,
    Dict.mem_of_get? hwant⟩

theorem untouched_of_local {nowMono : ℚ}
    (hlocal : config.longDelay pair = false) (hheld : pair ∈ s.actualLinks)
    (hdesired : pair ∈ intent.desired) :
    Untouched config (passOf config intent s plan nowMono) pair := by
  obtain ⟨decisions, hdecisions, rfl⟩ := exists_decisions hplan
  have hselect : ∀ select : PairPlan → Bool, pair ∉ decidedPairs decisions select := by
    intro select hmem
    exact Bool.false_ne_true (hlocal.symm.trans (longDelay_of_mem_decidedPairs hdecisions hmem))
  refine ⟨fun hmem => ?_, fun hmem => hselect _ hmem, fun hmem => ?_, ?_, fun hmem => ?_,
    fun hmem => ?_⟩
  · obtain ⟨d, hd, rfl⟩ := List.mem_map.mp hmem
    exact Bool.false_ne_true (hlocal.symm.trans (longDelay_of_mem_forced hdecisions hd))
  · exact hselect _ (mem_filterBlocked_iff.mp hmem).1
  · change pair ∉ (LongDelayPlan.ofDecisions decisions).relocate
    rw [relocate_ofDecisions]
    exact hselect _
  · exact (mem_toRemove_iff.mp (mem_filterDown_iff.mp hmem).1).2.2 hdesired
  · exact (mem_toAdd_iff.mp (mem_filterBlocked_iff.mp hmem).1).2.2 hheld

omit hplan

theorem Spared.refreshed (h : Spared base pair contact s) {desired : Dict Pair LinkInfo} :
    Spared base pair contact (refreshed desired s) where
  held := by
    obtain ⟨info, hinfo, hcontact, hopen⟩ := h.held
    obtain ⟨_, _, _, hrefreshed⟩ := exists_record?_refreshed hinfo
    exact ⟨_, hrefreshed, hcontact, hopen⟩
  others := h.others
  log := h.log

theorem wp_runTurn_spared {turn : Turn} (hlong : config.longDelay pair = true)
    (hwant : ∃ want, turn.intent.desired.get? pair = some want ∧ want.contact = some contact)
    (hepoch : turn.epochId ≤ contact.epochId) (h : Spared base pair contact s) :
    wp (runTurn config turn) s (fun _ => Spared base pair contact)
      (fun _ => Spared base pair contact) := by
  have hbegin : Spared base pair contact (turn.begin config s) :=
    h.congr (by rw [log_begin]; exact h.log) fun _ _ => record?_begin
  have hverified : Spared base pair contact (verifiedState turn.intent (turn.begin config s)) :=
    hbegin.congr hbegin.log fun _ _ => record?_station
  have hplanned : Spared base pair contact
      (plannedState turn.surroundings turn.intent (turn.begin config s)) :=
    Spared.refreshed (hverified.congr (hverified.log.cons (by rintro _ ⟨⟩))
      fun _ _ => record?_afterReading)
  obtain ⟨want, hget, hnamed⟩ := hwant
  have hnames : NamesHeld config turn.intent pair contact (turn.begin config s) :=
    ⟨hlong, hbegin.held, ⟨want, hget, hnamed⟩, hepoch⟩
  have hsame : ∀ want', turn.intent.desired.get? pair = some want' →
      want'.contact = some contact := by
    intro want' hget'
    rw [← Option.some.inj (hget.symm.trans hget')]
    exact hnamed
  refine wp_runTurn_reaches hverified fun plan t hplan hreaches => ?_
  exact hreaches.invariant (fun _ _ _ heffect => spared_of_effect (untouched_passOf hplan hnames)
    hsame (Dict.mem_of_get? hget) heffect) hplanned

end NodalArc.SparedContacts
