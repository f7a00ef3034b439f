import NodalArc.LongDelayAdoption
import NodalArc.SparedContacts
import NodalArc.StatedLinks

/-! A Scheduler from its restart on: it adopts the contacts the kernel carries, then its handlers
queue intents and its worker reconciles toward the latest of them.  Until a snapshot replaced them
the desired links are empty, while the adopted contacts are already held. -/

namespace NodalArc.RestartedScheduler

open OrderedDict
open GroundPolicy
open LinkRecord
open NodeAgentBatches
open DispatchActuator
open Reconcile
open HeldRecords
open SchedulerRuns
open DecisionEngine
open EngineDeliveries
open StatedLinks
open LongDelayAdoption
open SparedContacts
open StatefulProgram
open StatefulProgram.Program

/-! ### The dispatcher -/

/-- The decision engine, the Scheduler's link state and whether the dispatcher still runs. -/
structure Dispatcher where
  engine : Engine
  scheduler : Scheduler
  running : Bool

/-- What happens next: a message or a scenario command arrives, a draining end falls due, the
watchdog of a seek goes off, or the worker turns to its queue.  `verified` is what the due proofs
conclude about the stations. -/
inductive Step
  | message (message : Message)
  | scenario (command : ScenarioCommand)
  | drainDue
  | watchdog (epochId : Nat)
  | work (surroundings : Surroundings) (verified : NodeId → GroundActuationState)

/-- A handler that raises loses its own message; these errors stop the dispatcher. -/
def stopsDispatcher : EngineError → Bool
  | .authoritySubsetViolation _ | .drainDueBeforeClockTick | .seekTimedOut _ => true
  | _ => false

def onEngine {α : Type} (m : EngineM α) (d : Dispatcher) : Dispatcher :=
  let outcome := m.exec d.engine
  { d with
    engine := outcome.2
    running := match outcome.1 with
      | .ok _ => true
      | .error e => !stopsDispatcher e }

/-- The worker drains its queue to the latest intent; a rebaseline asked for on the way is kept. -/
def latestIntent (first : QueuedIntent) (rest : List QueuedIntent) : QueuedIntent :=
  { rest.getLastD first with rebaselineCounts := (first :: rest).any QueuedIntent.rebaselineCounts }

def turnOf (d : Dispatcher) (intent : QueuedIntent) (surroundings : Surroundings)
    (verified : NodeId → GroundActuationState) : Turn where
  epochId := d.engine.authority.lastSnapshotEpochId
  rebaseline := intent.rebaselineCounts
  intent :=
    { desired := intent.desired, downReasons := intent.downReasons
      forcedBbmPairs := intent.forcedBbmPairs, simTime := intent.simTime, verified }
  surroundings := surroundings

/-- One turn of the dispatch worker.  While a seek is under way an intent of the old epoch is
dropped; a pass that raises stops the dispatcher. -/
def dispatchWorker (config : SchedulerConfig) (surroundings : Surroundings)
    (verified : NodeId → GroundActuationState) (d : Dispatcher) : Dispatcher :=
  match d.engine.dispatchQueue with
  | [] => d
  | first :: rest =>
      if d.engine.epochSync.suspended = true ∧ first.source ≠ .resume then
        { d with engine := { d.engine with dispatchQueue := rest } }
      else
        let outcome := (runTurn config
          (turnOf d (latestIntent first rest) surroundings verified)).exec d.scheduler
        { engine := { d.engine with dispatchQueue := [] }
          scheduler := outcome.2
          running := match outcome.1 with
            | .ok _ => true
            | .error _ => false }

def step (config : SchedulerConfig) (epsilonMs : ℚ) (d : Dispatcher) (next : Step) : Dispatcher :=
  if d.running = false then d
  else
    match next with
    | .message message =>
        onEngine (handleMessage config epsilonMs d.scheduler.actualLinks.keys message) d
    | .scenario command => onEngine (onScenarioCommand config d.scheduler.actualLinks.keys command) d
    | .drainDue => onEngine (wakeForDrain d.scheduler.actualLinks.keys) d
    | .watchdog epochId => onEngine (epochWatchdog epochId) d
    | .work surroundings verified => dispatchWorker config surroundings verified d

def run (config : SchedulerConfig) (epsilonMs : ℚ) : Dispatcher → List Step → Dispatcher :=
  List.foldl (step config epsilonMs)

/-- A Scheduler starts from the retained checkpoint's simulation time, if there is one, and adopts
the kernel's contacts before it hears anything. -/
def restart (config : SchedulerConfig) (surroundings : Surroundings) (checkpoint : Option ℚ) :
    Except SchedulerError Dispatcher :=
  match (adoptLongDelayState config surroundings).exec freshScheduler with
  | (.error e, _) => .error e
  | (.ok adopted, scheduler) => .ok {
      engine := { freshEngine with
        authority := { freshAuthority with objects := adopted }, currentSimTime := checkpoint }
      scheduler
      running := true }

def HeldOpen (s : Scheduler) (pair : Pair) (contact : Contact) : Prop :=
  ∃ info, record? s (.current pair) = some info ∧ info.contact = some contact ∧ info.drain = none

/-! ### What ends a contact -/

/-- A snapshot that states the pair up in the pass of the contact. -/
def SnapshotKeeps (snapshot : LinkStateSnapshot) (pair : Pair) (contact : Contact) : Prop :=
  snapshot.epochId = contact.epochId ∧
    (∃ link ∈ snapshot.links, link.pair = pair ∧ link.adminUp = true ∧ link.carrier = .up) ∧
    ∀ link ∈ snapshot.links, link.pair = pair → link.adminUp = true → link.carrier = .up →
      link.contactOpenedAt = some contact.openedAt

def EventKeeps (vis : VisibilityEvent) (contact : Contact) : Prop :=
  Up vis ∧ ∀ openedAt, vis.contactOpenedAt = some openedAt → openedAt = contact.openedAt

/-- The events of a batch that change anything: those newer than the last snapshot, up to one that
cannot be built. -/
def appliedEvents (config : SchedulerConfig) : Authority → List VisibilityEvent → List VisibilityEvent
  | _, [] => []
  | a, vis :: rest =>
      match (applyEventToDesired config vis).exec a with
      | (.error _, _) => []
      | (.ok _, t) =>
          if Newer a vis then vis :: appliedEvents config t rest else appliedEvents config t rest

/-- A change that ends a contact: an applied snapshot or event of its pair that says the pair is no
longer visible and scheduled or names another contact, or a seek. -/
def EndedBy (config : SchedulerConfig) (pair : Pair) (contact : Contact) (a : Authority) :
    Change → Prop
  | .cleared _ => True
  | .replaced snapshot => Change.outcome config (.replaced snapshot) a = .ok () ∧
      ¬ SnapshotKeeps snapshot pair contact
  | .folded batch => ∃ vis ∈ appliedEvents config a batch, vis.pair = pair ∧
      ¬ EventKeeps vis contact

/-- Some change of a history, made from the authority the earlier ones left, ends the contact. -/
def Ended (config : SchedulerConfig) (pair : Pair) (contact : Contact) :
    Authority → List Change → Prop
  | _, [] => False
  | a, c :: changes => EndedBy config pair contact a c ∨
      Ended config pair contact (Change.after config c a) changes

def Overridden (s : Engine) (pair : Pair) : Prop :=
  pair ∈ s.overridePairs ∨ pair.1 ∈ s.overrideNodes ∨ pair.2 ∈ s.overrideNodes

/-- The desired links rest on a snapshot: one was taken and read to its end, and nothing but events
followed it. -/
def Synchronised (config : SchedulerConfig) (start : Authority) (changes : List Change) : Prop :=
  ∃ earlier snapshot later, changes = earlier ++ .replaced snapshot :: later ∧
    Change.outcome config (.replaced snapshot) (replay config start earlier) = .ok () ∧
    ∀ c ∈ later, ∃ batch, c = .folded batch

/-- The worker takes an intent only once the desired links rest on a snapshot. -/
def AwaitsSnapshot (config : SchedulerConfig) (start : Authority) (d : Dispatcher) : Step → Prop
  | .work _ _ => d.engine.dispatchQueue ≠ [] → Synchronised config start d.engine.changes
  | _ => True

theorem ended_concat {config : SchedulerConfig} {a : Authority} {changes : List Change}
    {c : Change} {pair : Pair} {contact : Contact} : Ended config pair contact a (changes ++ [c]) ↔
    Ended config pair contact a changes ∨
      EndedBy config pair contact (replay config a changes) c := by
  induction changes generalizing a with
  | nil => simp [Ended, replay]
  | cons first changes ih =>
    rw [List.cons_append, Ended, Ended, ih, or_assoc]
    rfl

theorem ended_append {config : SchedulerConfig} {a : Authority} {changes : List Change}
    {pair : Pair} {contact : Contact} {later : List Change}
    (h : Ended config pair contact a changes) :
    Ended config pair contact a (changes ++ later) := by
  induction changes generalizing a with
  | nil => exact h.elim
  | cons first changes ih =>
    rcases h with h | h
    · exact .inl h
    · exact .inr (ih h)

theorem synchronised_concat {config : SchedulerConfig} {start : Authority} {changes : List Change}
    {c : Change} : Synchronised config start (changes ++ [c]) ↔
    (∃ snapshot, c = .replaced snapshot ∧
      Change.outcome config c (replay config start changes) = .ok ()) ∨
    (∃ batch, c = .folded batch) ∧ Synchronised config start changes := by
  constructor
  · rintro ⟨earlier, snapshot, later, heq, houtcome, hlater⟩
    rcases List.eq_nil_or_concat later with rfl | ⟨later, last, rfl⟩
    · obtain ⟨rfl, hc⟩ := List.append_inj' heq rfl
      obtain rfl : c = .replaced snapshot := by simpa using hc
      exact .inl ⟨snapshot, rfl, houtcome⟩
    · rw [List.concat_eq_append] at heq hlater
      rw [← List.cons_append, ← List.append_assoc] at heq
      obtain ⟨rfl, hc⟩ := List.append_inj' heq rfl
      obtain rfl : c = last := by simpa using hc
      exact .inr ⟨hlater c (by simp), earlier, snapshot, later, rfl, houtcome,
        fun d hd => hlater d (by simp [hd])⟩
  · rintro (⟨snapshot, rfl, houtcome⟩ | ⟨hbatch, earlier, snapshot, later, rfl, houtcome, hlater⟩)
    · exact ⟨changes, snapshot, [], rfl, houtcome, fun _ h => nomatch h⟩
    · refine ⟨earlier, snapshot, later ++ [c], by simp, houtcome, fun d hd => ?_⟩
      rcases List.mem_append.mp hd with hd | hd
      · exact hlater d hd
      · rw [List.mem_singleton.mp hd]
        exact hbatch

/-! ### The desired links name the contact -/

def Desires (a : Authority) (pair : Pair) (contact : Contact) : Prop :=
  ∃ want, a.desiredLinks.get? pair = some want ∧ want.contact = some contact

theorem Desires.of_get? {a : Authority} {pair : Pair} {contact : Contact} {t : Authority}
    (h : Desires a pair contact) (hget : t.desiredLinks.get? pair = a.desiredLinks.get? pair) :
    Desires t pair contact := by
  unfold Desires
  rw [hget]
  exact h

/-- A pair that is desired stays so unless an applied event of the pair says it is down.  An event
that cannot be built is of a pair that was not desired. -/
theorem wp_applyEventToDesired_desires {config : SchedulerConfig} {a : Authority} {pair : Pair}
    {contact : Contact} {vis : VisibilityEvent} (h : Desires a pair contact) :
    wp (applyEventToDesired config vis) a
      (fun _ t => (Newer a vis → vis.pair = pair → Up vis) → Desires t pair contact)
      (fun _ t => Desires t pair contact) := by
  simp only [applyEventToDesired, wp_bind, wp_get, wp_when, wp_modify, wp_ite, wp_lift]
  refine ⟨fun hnew => ⟨fun hup => ⟨fun habsent => ⟨fun info _ _ => ?_, fun _ _ => h⟩,
    fun _ _ => h⟩, fun hdown => ?_⟩, fun _ _ => h⟩
  · refine h.of_get? ?_
    have hne : pair ≠ vis.pair := by
      rintro rfl
      obtain ⟨want, hget, -⟩ := h
      exact habsent (Dict.mem_of_get? hget)
    simp [setTeardown, hne]
  · have herased : ∀ t : Authority, t.desiredLinks = a.desiredLinks.erase vis.pair →
        (Newer a vis → vis.pair = pair → Up vis) → Desires t pair contact := by
      intro t ht hkeeps
      refine h.of_get? ?_
      have hne : pair ≠ vis.pair := fun heq => hdown (hkeeps hnew heq.symm)
      rw [ht, Dict.get?_erase, if_neg hne]
    exact ⟨fun _ => herased _ rfl, fun _ => herased _ rfl⟩

theorem wp_applyEventsToDesired_desires {batch : List VisibilityEvent} {config : SchedulerConfig}
    {a : Authority} {pair : Pair} {contact : Contact} (h : Desires a pair contact)
    (hkeeps : ∀ vis ∈ appliedEvents config a batch, vis.pair = pair → Up vis) :
    wp (applyEventsToDesired config batch) a (fun _ t => Desires t pair contact)
      (fun _ t => Desires t pair contact) := by
  induction batch generalizing a with
  | nil => exact h
  | cons vis rest ih =>
    rw [applyEventsToDesired, List.forM_cons, wp_bind]
    have hfirst : wp (applyEventToDesired config vis) a
        (fun _ t => (Newer a vis → vis.pair = pair → Up vis) → Desires t pair contact)
        (fun _ t => Desires t pair contact) := wp_applyEventToDesired_desires h
    unfold appliedEvents at hkeeps
    rcases hexec : (applyEventToDesired config vis).exec a with ⟨_ | _, t⟩
    · rw [wp_of_exec_error hexec] at hfirst ⊢
      exact hfirst
    · rw [wp_of_exec_ok hexec] at hfirst ⊢
      rw [hexec] at hkeeps
      dsimp only at hkeeps
      split at hkeeps
      next hnew =>
        refine ih (hfirst fun _ => hkeeps vis List.mem_cons_self) fun v hv => ?_
        exact hkeeps v (List.mem_cons_of_mem _ hv)
      next hold => exact ih (hfirst fun hnew => absurd hnew hold) hkeeps

theorem desires_folded {batch : List VisibilityEvent} {config : SchedulerConfig} {a : Authority}
    {pair : Pair} {contact : Contact} (h : Desires a pair contact)
    (hended : ¬ EndedBy config pair contact a (.folded batch)) :
    Desires (Change.after config (.folded batch) a) pair contact := by
  have hkeeps : ∀ vis ∈ appliedEvents config a batch, vis.pair = pair → Up vis := by
    intro vis hvis hpair
    by_contra hdown
    exact hended ⟨vis, hvis, hpair, fun hkeeps => hdown hkeeps.1⟩
  refine wp_exec (P := fun t => Desires t pair contact) ?_
  simp only [Change.apply, assertAuthoritySubsetFailLoud, publishFoldDiagnostics, wp_bind, wp_get,
    wp_require, wp_modify]
  exact wp_imp (wp_applyEventsToDesired_desires h hkeeps) fun _ _ ht => ⟨fun _ => ht, fun _ => ht⟩

theorem contact_of_snapshotLink {snapshot : LinkStateSnapshot} {config : SchedulerConfig}
    {objectId : Nat} {link : LinkState} {info : LinkInfo}
    (hlong : config.longDelay link.pair = true)
    (h : desiredLinkFromSnapshotLink config objectId snapshot link = .ok (some info)) :
    link.adminUp = true ∧ link.carrier = .up ∧ ∀ openedAt, link.contactOpenedAt = some openedAt →
      info.contact = some { epochId := snapshot.epochId, openedAt } := by
  unfold desiredLinkFromSnapshotLink at h
  split at h
  next => cases h
  next hup =>
    split at h
    next => cases h
    next =>
      obtain ⟨geometry, -, h⟩ := bind_eq_ok_iff.mp h
      obtain ⟨interfaces, -, h⟩ := bind_eq_ok_iff.mp h
      obtain ⟨built, hbuilt, h⟩ := bind_eq_ok_iff.mp h
      refine ⟨by simpa using (not_or.mp hup).1, not_not.mp (not_or.mp hup).2, ?_⟩
      intro openedAt hopened
      rw [← Option.some.inj (Except.ok.inj h)]
      unfold contactOf at hbuilt
      rw [if_pos (of_decide_eq_true hlong), hopened] at hbuilt
      exact (Except.ok.inj hbuilt).symm

theorem desires_replaced {snapshot : LinkStateSnapshot} {config : SchedulerConfig} {a : Authority}
    {pair : Pair} {contact : Contact} (hlong : config.longDelay pair = true)
    (houtcome : Change.outcome config (.replaced snapshot) a = .ok ())
    (hkeeps : SnapshotKeeps snapshot pair contact) :
    Desires (Change.after config (.replaced snapshot) a) pair contact ∧
      (Change.after config (.replaced snapshot) a).lastSnapshotEpochId = contact.epochId := by
  obtain ⟨hepoch, ⟨link, hlink, hpair, hadmin, hcarrier⟩, hnamed⟩ := hkeeps
  have hread : wp ((Change.replaced snapshot).apply config) a
      (fun _ t => Desires t pair contact ∧ t.lastSnapshotEpochId = contact.epochId)
      (fun _ _ => True) := by
    simp only [Change.apply, replaceDesired, assertAuthoritySubsetFailLoud, wp_bind, wp_modify,
      wp_get, wp_require]
    refine wp_imp (wp_foldlM (fun read built t => t.lastSnapshotEpochId = snapshot.epochId ∧
      ((∃ link ∈ read, link.pair = pair ∧ link.adminUp = true ∧ link.carrier = .up) →
        ∃ want, built.1.get? pair = some want ∧ want.contact = some contact)) ?_ ?_) ?_
    · rintro read next rest built t hlinks ⟨hsame, hbuilt⟩
      simp only [readLink, wp_bind, wp_get, wp_lift]
      refine ⟨fun info hinfo => ?_, fun _ _ => trivial⟩
      cases info with
      | none =>
        refine ⟨hsame, ?_⟩
        rintro ⟨link, hmem, hpair, hadmin, hcarrier⟩
        rcases List.mem_append.mp hmem with hmem | hmem
        · exact hbuilt ⟨link, hmem, hpair, hadmin, hcarrier⟩
        · obtain rfl := List.mem_singleton.mp hmem
          unfold desiredLinkFromSnapshotLink at hinfo
          rw [if_neg (by simp [hadmin, hcarrier])] at hinfo
          split at hinfo
          · cases hinfo
          · obtain ⟨_, -, hinfo⟩ := bind_eq_ok_iff.mp hinfo
            obtain ⟨_, -, hinfo⟩ := bind_eq_ok_iff.mp hinfo
            obtain ⟨_, -, hinfo⟩ := bind_eq_ok_iff.mp hinfo
            cases hinfo
      | some info =>
        refine ⟨hsame, ?_⟩
        rintro ⟨link, hmem, hpair, hadmin, hcarrier⟩
        by_cases hnext : next.pair = pair
        · subst hnext
          obtain ⟨hadmin, hcarrier, hcontact⟩ := contact_of_snapshotLink hlong hinfo
          refine ⟨info, by simp, ?_⟩
          rw [hcontact contact.openedAt (hnamed next (by simp [hlinks]) rfl hadmin hcarrier), hepoch]
        · have hmem : link ∈ read := by
            rcases List.mem_append.mp hmem with hmem | hmem
            · exact hmem
            · rw [List.mem_singleton.mp hmem] at hpair
              exact absurd hpair hnext
          rw [Dict.get?_insert, if_neg (Ne.symm hnext)]
          exact hbuilt ⟨link, hmem, hpair, hadmin, hcarrier⟩
    · refine ⟨rfl, ?_⟩
      rintro ⟨_, hmem, -⟩
      cases hmem
    · rintro built t ⟨hsame, hbuilt⟩
      exact ⟨fun _ => ⟨hbuilt ⟨link, hlink, hpair, hadmin, hcarrier⟩, hsame.trans hepoch⟩,
        fun _ => trivial⟩
  unfold Change.outcome at houtcome
  unfold Change.after
  unfold wp at hread
  split at hread
  · simp_all
  · simp_all

/-! ### The engine -/

/-- While the desired links rest on a snapshot and nothing ended the contact, they name it. -/
structure Follows (config : SchedulerConfig) (start : Authority) (pair : Pair) (contact : Contact)
    (before : List Change) (s : Engine) : Prop where
  grown : before <+: s.changes
  authority : s.authority = replay config start s.changes
  desires : ¬ Ended config pair contact start s.changes → Synchronised config start s.changes →
    Desires s.authority pair contact ∧ s.authority.lastSnapshotEpochId = contact.epochId

/-- The latest queued intent names the contact as well, unless an override is in the way. -/
structure Intends (config : SchedulerConfig) (start : Authority) (pair : Pair) (contact : Contact)
    (before : List Change) (s : Engine) : Prop extends
    Follows config start pair contact before s where
  queued : ¬ Ended config pair contact start s.changes → Synchronised config start s.changes →
    ¬ Overridden s pair → ∀ intent, s.dispatchQueue.getLast? = some intent →
      ∃ want, intent.desired.get? pair = some want ∧ want.contact = some contact

theorem Intends.congr {config : SchedulerConfig} {start : Authority} {pair : Pair}
    {contact : Contact} {before : List Change} {s t : Engine}
    (h : Intends config start pair contact before s) (hauthority : t.authority = s.authority)
    (hchanges : t.changes = s.changes) (hpairs : t.overridePairs = s.overridePairs)
    (hnodes : t.overrideNodes = s.overrideNodes) (hqueue : t.dispatchQueue = s.dispatchQueue) :
    Intends config start pair contact before t where
  grown := by
    rw [hchanges]
    exact h.grown
  authority := by rw [hauthority, hchanges, h.authority]
  desires := by
    rw [hauthority, hchanges]
    exact h.desires
  queued := by
    unfold Overridden
    rw [hchanges, hpairs, hnodes, hqueue]
    exact h.queued

theorem Follows.changed {config : SchedulerConfig} {start : Authority} {pair : Pair}
    {contact : Contact} {before : List Change} {s : Engine} {c : Change}
    (hlong : config.longDelay pair = true) (h : Follows config start pair contact before s) :
    Follows config start pair contact before (changed config c s) where
  grown := h.grown.trans (List.prefix_append _ _)
  authority := by rw [changed_authority, changed_changes, replay_concat, h.authority]
  desires := by
    rw [changed_changes, changed_authority, ended_concat, synchronised_concat, not_or,
      ← h.authority]
    rintro ⟨hended, hkept⟩ (⟨snapshot, rfl, houtcome⟩ | ⟨⟨batch, rfl⟩, hsync⟩)
    · refine desires_replaced hlong houtcome ?_
      by_contra hlost
      exact hkept ⟨houtcome, hlost⟩
    · obtain ⟨hdesires, hepoch⟩ := h.desires hended hsync
      exact ⟨desires_folded hdesires hkept, (sameSnapshot_folded batch s.authority).2.2.trans hepoch⟩

theorem Intends.changed_failed {config : SchedulerConfig} {start : Authority} {pair : Pair}
    {contact : Contact} {before : List Change} {s : Engine} {c : Change}
    (hlong : config.longDelay pair = true) {e : EngineError}
    (h : Intends config start pair contact before s)
    (houtcome : Change.outcome config c s.authority = .error e) :
    Intends config start pair contact before (changed config c s) where
  toFollows := h.toFollows.changed hlong
  queued := by
    rw [changed_changes, ended_concat, synchronised_concat, not_or, ← h.authority]
    rintro ⟨hended, -⟩ (⟨snapshot, -, hok⟩ | ⟨-, hsync⟩)
    · cases hok.symm.trans houtcome
    · exact h.queued hended hsync

theorem Follows.enqueued {source : IntentSource} {config : SchedulerConfig} {actual : List Pair}
    {start : Authority} {pair : Pair} {contact : Contact} {before : List Change} {s t : Engine}
    (h : Follows config start pair contact before s) {simTime : ℚ} {rebaselineCounts : Bool}
    (hauthority : t.authority = s.authority) (hchanges : t.changes = s.changes)
    (hpairs : t.overridePairs = s.overridePairs) (hnodes : t.overrideNodes = s.overrideNodes)
    (hqueue : t.dispatchQueue = s.dispatchQueue ++ [buildDispatchIntent actual s simTime source
      rebaselineCounts]) : Intends config start pair contact before t where
  grown := by
    rw [hchanges]
    exact h.grown
  authority := by rw [hauthority, hchanges, h.authority]
  desires := by
    rw [hauthority, hchanges]
    exact h.desires
  queued := by
    unfold Overridden
    rw [hchanges, hpairs, hnodes, hqueue, List.getLast?_concat]
    rintro hended hsync hfree _ ⟨⟩
    obtain ⟨⟨want, hget, hcontact⟩, -⟩ := h.desires hended hsync
    refine ⟨want, Dict.get?_filter_eq_some_iff.mpr ⟨hget, ?_⟩, hcontact⟩
    simpa [not_or] using hfree

theorem intends_sought {config : SchedulerConfig} {start : Authority} {pair : Pair}
    {contact : Contact} {before : List Change} {s : Engine}
    (hlong : config.longDelay pair = true) {epochId : Nat}
    (h : Intends config start pair contact before s) :
    Intends config start pair contact before (sought config epochId s) := by
  have hfollows : Follows config start pair contact before (changed config (.cleared epochId) s) :=
    h.toFollows.changed hlong
  refine ⟨⟨hfollows.grown, hfollows.authority, hfollows.desires⟩, fun hended => ?_⟩
  rw [sought, changed_changes, ended_concat] at hended
  exact absurd trivial (not_or.mp hended).2

theorem intends_handleMessage {config : SchedulerConfig} {epsilonMs : ℚ} {actual : List Pair}
    {start : Authority} {pair : Pair} {contact : Contact} {before : List Change} {s : Engine}
    (hlong : config.longDelay pair = true) {message : Message}
    (h : Intends config start pair contact before s) :
    wp (handleMessage config epsilonMs actual message) s
      (fun _ => Intends config start pair contact before)
      (fun _ => Intends config start pair contact before) :=
  handleMessage_invariant _ h (fun _ _ _ ht => ht.congr rfl rfl rfl rfl rfl)
    (fun _ _ _ ht => ht.congr rfl rfl rfl rfl rfl) (fun _ _ => h.congr rfl rfl rfl rfl rfl)
    (fun _ _ _ _ ht => ⟨fun _ => ht.changed_failed hlong,
      fun _ _ _ _ => (ht.toFollows.changed hlong).enqueued rfl rfl rfl rfl rfl⟩)
    fun _ _ _ => intends_sought hlong h

theorem intends_wakeForDrain {config : SchedulerConfig} {actual : List Pair} {start : Authority}
    {pair : Pair} {contact : Contact} {before : List Change} {s : Engine}
    (h : Intends config start pair contact before s) :
    wp (wakeForDrain actual) s (fun _ => Intends config start pair contact before)
      (fun _ => Intends config start pair contact before) := by
  simp only [wakeForDrain, wp_bind, wp_get]
  cases s.currentSimTime with
  | none => exact h
  | some simTime => exact h.toFollows.enqueued rfl rfl rfl rfl rfl

theorem intends_epochWatchdog {config : SchedulerConfig} {start : Authority} {pair : Pair}
    {contact : Contact} {before : List Change} {s : Engine} {epochId : Nat}
    (h : Intends config start pair contact before s) :
    wp (epochWatchdog epochId) s (fun _ => Intends config start pair contact before)
      (fun _ => Intends config start pair contact before) := by
  simp only [epochWatchdog, EpochSyncState.markWatchdogTimeout, wp_bind, wp_get, wp_when, wp_modify,
    wp_throw]
  refine ⟨fun hseeking => ?_, fun _ => h⟩
  rw [if_pos hseeking]
  exact h.congr rfl rfl rfl rfl rfl

theorem follows_override {command : ScenarioCommand} {config : SchedulerConfig}
    {start : Authority} {pair : Pair} {contact : Contact} {before : List Change} {s : Engine}
    (h : Follows config start pair contact before s) :
    Follows config start pair contact before (command.override s) := by
  cases command <;> exact ⟨h.grown, h.authority, h.desires⟩

theorem intends_onScenarioCommand {command : ScenarioCommand} {config : SchedulerConfig}
    {actual : List Pair} {start : Authority} {pair : Pair} {contact : Contact}
    {before : List Change} {s : Engine} (h : Intends config start pair contact before s)
    (hfree : ¬ Overridden s pair) :
    wp (onScenarioCommand config actual command) s (fun _ => Intends config start pair contact before)
      (fun _ => Intends config start pair contact before) := by
  simp only [onScenarioCommand, wp_bind, wp_get, wp_ite, wp_pure, wp_modify]
  refine ⟨fun _ => h, fun _ => ⟨fun _ => ?_, fun _ => ?_⟩⟩
  · -- the overrides changed and nothing was queued
    refine ⟨follows_override h.toFollows, ?_⟩
    have hqueue : (command.override s).dispatchQueue = s.dispatchQueue := by cases command <;> rfl
    have hchanges : (command.override s).changes = s.changes := by cases command <;> rfl
    rw [hqueue, hchanges]
    exact fun hended hsync _ => h.queued hended hsync hfree
  · cases s.currentSimTime with
    | none => exact h
    | some simTime =>
      simp only [wp_bind, wp_modify, wp_pure, enqueueIntent]
      exact (follows_override h.toFollows).enqueued rfl rfl rfl rfl rfl

theorem Intends.from {config : SchedulerConfig} {start : Authority} {pair : Pair}
    {contact : Contact} {before : List Change} {s : Engine}
    (h : Intends config start pair contact before s) :
    Intends config start pair contact s.changes s :=
  ⟨⟨List.prefix_refl _, h.authority, h.desires⟩, h.queued⟩

theorem Follows.not_ended {config : SchedulerConfig} {start : Authority} {pair : Pair}
    {contact : Contact} {before : List Change} {s : Engine}
    (h : Follows config start pair contact before s)
    (hended : ¬ Ended config pair contact start s.changes) :
    ¬ Ended config pair contact start before := by
  obtain ⟨later, heq⟩ := h.grown
  rw [← heq] at hended
  exact fun hbefore => hended (ended_append hbefore)

/-! ### Runs -/

/-- Until something ends it, the contact is open and spared. -/
structure Safe (config : SchedulerConfig) (start : Authority) (base : List Event) (pair : Pair)
    (contact : Contact) (d : Dispatcher) : Prop where
  intends : Intends config start pair contact [] d.engine
  spared : ¬ Ended config pair contact start d.engine.changes →
    Spared base pair contact d.scheduler

theorem Safe.onEngine {config : SchedulerConfig} {start : Authority} {base : List Event}
    {pair : Pair} {contact : Contact} {d : Dispatcher} {α : Type} {m : EngineM α}
    (h : Safe config start base pair contact d)
    (hm : wp m d.engine (fun _ => Intends config start pair contact d.engine.changes)
      (fun _ => Intends config start pair contact d.engine.changes)) :
    Safe config start base pair contact (onEngine m d) := by
  have hafter : Intends config start pair contact d.engine.changes
      (RestartedScheduler.onEngine m d).engine := wp_exec hm
  refine ⟨⟨⟨⟨_, rfl⟩, hafter.authority, hafter.desires⟩, hafter.queued⟩, fun hended => ?_⟩
  exact h.spared (hafter.not_ended hended)

theorem getLast?_latest {first : QueuedIntent} {rest : List QueuedIntent} :
    (first :: rest).getLast? = some (rest.getLastD first) := by
  cases rest with
  | nil => rfl
  | cons next rest => simp [List.getLast?_cons]

theorem Safe.work {surroundings : Surroundings} {config : SchedulerConfig} {start : Authority}
    {base : List Event} {pair : Pair} {contact : Contact} {d : Dispatcher}
    (hlong : config.longDelay pair = true) {verified : NodeId → GroundActuationState}
    (hawaits : d.engine.dispatchQueue ≠ [] → Synchronised config start d.engine.changes)
    (hfree : ¬ Overridden d.engine pair) (h : Safe config start base pair contact d) :
    Safe config start base pair contact (dispatchWorker config surroundings verified d) := by
  unfold dispatchWorker
  split
  next => exact h
  next first rest hqueue =>
    have hsync := hawaits (by simp [hqueue])
    have hnamed : ¬ Ended config pair contact start d.engine.changes →
        ∃ want, (rest.getLastD first).desired.get? pair = some want ∧
          want.contact = some contact := by
      intro hended
      refine h.intends.queued hended hsync hfree _ ?_
      rw [hqueue, getLast?_latest]
    split
    · refine ⟨⟨⟨⟨_, rfl⟩, h.intends.authority, h.intends.desires⟩, ?_⟩, h.spared⟩
      intro hended _ _ intent hintent
      refine h.intends.queued hended hsync hfree intent ?_
      cases rest with
      | nil => cases hintent
      | cons next rest =>
        rw [hqueue, List.getLast?_cons_cons]
        exact hintent
    · refine ⟨⟨⟨⟨_, rfl⟩, h.intends.authority, h.intends.desires⟩,
        fun _ _ _ _ hnone => (nomatch hnone)⟩, fun hended => ?_⟩
      exact wp_exec (wp_runTurn_spared hlong (hnamed hended)
        (le_of_eq (h.intends.desires hended hsync).2) (h.spared hended))

theorem Safe.step {config : SchedulerConfig} {epsilonMs : ℚ} {start : Authority}
    {base : List Event} {pair : Pair} {contact : Contact} {d : Dispatcher}
    (hlong : config.longDelay pair = true) {next : Step}
    (hawaits : AwaitsSnapshot config start d next) (hfree : ¬ Overridden d.engine pair)
    (h : Safe config start base pair contact d) :
    Safe config start base pair contact (step config epsilonMs d next) := by
  unfold RestartedScheduler.step
  split
  · exact h
  · cases next with
    | message message => exact h.onEngine (intends_handleMessage hlong h.intends.from)
    | scenario command => exact h.onEngine (intends_onScenarioCommand h.intends.from hfree)
    | drainDue => exact h.onEngine (intends_wakeForDrain h.intends.from)
    | watchdog epochId => exact h.onEngine (intends_epochWatchdog h.intends.from)
    | work surroundings verified => exact h.work hlong hawaits hfree

theorem Safe.run {config : SchedulerConfig} {epsilonMs : ℚ} {start : Authority}
    {base : List Event} {pair : Pair} {contact : Contact} {d : Dispatcher}
    (hlong : config.longDelay pair = true) {steps : List Step}
    (hawaits : HoldsAlong (RestartedScheduler.step config epsilonMs) (AwaitsSnapshot config start)
      d steps)
    (hfree : HoldsAlong (RestartedScheduler.step config epsilonMs)
      (fun d _ => ¬ Overridden d.engine pair) d steps) (h : Safe config start base pair contact d) :
    Safe config start base pair contact (run config epsilonMs d steps) := by
  induction steps generalizing d with
  | nil => exact h
  | cons next steps ih => exact ih hawaits.2 hfree.2 (h.step hlong hawaits.1 hfree.1)

theorem restart_eq_ok {surroundings : Surroundings} {config : SchedulerConfig} {d : Dispatcher}
    {checkpoint : Option ℚ} (h : restart config surroundings checkpoint = .ok d) :
    Adopted config d.scheduler ∧ ∃ adopted, d.engine = { freshEngine with
      authority := { freshAuthority with objects := adopted }, currentSimTime := checkpoint } := by
  have hadopted : wp (adoptLongDelayState config surroundings) freshScheduler
      (fun _ => Adopted config) (fun _ _ => True) :=
    wp_adoptLongDelayState fun key => by cases key <;> rfl
  unfold restart at h
  split at h
  next => cases h
  next adopted scheduler hexec =>
    rw [wp_of_exec_ok hexec] at hadopted
    rw [← Except.ok.inj h]
    exact ⟨hadopted, adopted, rfl⟩

theorem spared_of_adopted {config : SchedulerConfig} {pair : Pair} {contact : Contact}
    {s : Scheduler} (h : Adopted config s) (hopen : HeldOpen s pair contact) :
    Spared s.log pair contact s where
  held := hopen
  others earlier info hinfo := by
    obtain ⟨held, hheld, hcontact, -⟩ := hopen
    obtain ⟨hnamed, hends⟩ := h.named pair earlier info hinfo
    have hne : earlier ≠ contact := by
      rintro rfl
      rw [h.apart pair earlier held hheld hcontact] at hinfo
      cases hinfo
    refine ⟨by rw [hnamed]; simpa using hne, fun drain hdrain e he => ?_⟩
    rw [hends drain hdrain e he]
    exact hne
  log := ⟨[], rfl, fun _ h => nomatch h⟩

/-- In every run of a restarted Scheduler whose worker takes no intent before the desired links rest
on a snapshot, no STOP_ADMISSION and no CLOSE names a contact adopted open until a snapshot or an
event of its pair ended it or an override named the pair. -/
theorem adopted_contact_spared {config : SchedulerConfig} {epsilonMs : ℚ} {pair : Pair}
    {contact : Contact} {d : Dispatcher} {surroundings : Surroundings} {checkpoint : Option ℚ}
    {steps : List Step} (hstart : restart config surroundings checkpoint = .ok d)
    (hopen : HeldOpen d.scheduler pair contact)
    (hawaits : HoldsAlong (step config epsilonMs) (AwaitsSnapshot config d.engine.authority) d steps)
    (hfree : HoldsAlong (step config epsilonMs) (fun d _ => ¬ Overridden d.engine pair) d steps)
    (hended : ¬ Ended config pair contact d.engine.authority
      (run config epsilonMs d steps).engine.changes) :
    SparedSince d.scheduler.log pair contact (run config epsilonMs d steps).scheduler.log := by
  obtain ⟨hadopted, adopted, hengine⟩ := restart_eq_ok hstart
  have hlong : config.longDelay pair = true := by
    obtain ⟨info, hinfo, -⟩ := hopen
    exact hadopted.longDelay _ info hinfo
  have hchanges : d.engine.changes = [] := by rw [hengine]; rfl
  have hsafe : Safe config d.engine.authority d.scheduler.log pair contact d := by
    refine ⟨⟨⟨⟨_, rfl⟩, by rw [hchanges]; rfl, fun _ hsync => ?_⟩, ?_⟩,
      fun _ => spared_of_adopted hadopted hopen⟩
    · obtain ⟨earlier, snapshot, later, heq, -⟩ := hsync
      simp [hchanges] at heq
    · intro _ _ _ intent hintent
      rw [hengine] at hintent
      cases hintent
  exact ((hsafe.run hlong hawaits hfree).spared hended).log

/-! ### A relay restarted while its contact is open -/

/-- A long-delay link to a relay and a local link between two satellites. -/
def relaySession : SchedulerConfig :=
  { twoSatellites with
    mbbDispatch := true
    satCapacities := ∅
    longDelayBoundsS := .ofList [(("relay", "sat1"), 1300)]
    interfaceMap :=
      .ofList [(("relay", "sat1"), ("isl0", "isl0")), (("sat2", "sat3"), ("isl0", "isl0"))]
    interfaceRates := [("relay", "isl0"), ("sat1", "isl0"), ("sat2", "isl0"), ("sat3", "isl0")] }

def relayContact : Contact where
  epochId := 0
  openedAt := 60

/-- Agents that acknowledge everything and find every surveyed end carrying the relay's contact with
admission open. -/
def carryingSurroundings : Surroundings where
  agents := fun _ request => .answered {
    success := true
    errorCode := .unspecified
    dirtyKernel := false
    entries := request.entries.map fun entry =>
      { nodeId := entry.nodeId, interface := entry.interface, success := true
        errorCode := .unspecified, verified := true, dirtyKernel := false, loss := none
        survey := some {
          carriedContactId := some relayContact, admissionStopped := false
          receiveLatencyMs := 1200000, carriedPeer := none } } }
  clock := fun reading => reading
  compensable := fun _ _ => true

def relayRestarted : Dispatcher where
  engine := { freshEngine with
    authority := { freshAuthority with objects := 1 }, currentSimTime := some 100 }
  scheduler := ((adoptLongDelayState relaySession carryingSurroundings).exec freshScheduler).2
  running := true

theorem restart_relaySession :
    restart relaySession carryingSurroundings (some 100) = .ok relayRestarted := by
  have hadopted : ((adoptLongDelayState relaySession carryingSurroundings).exec
      freshScheduler).1 = .ok 1 := by decide +kernel
  unfold restart relayRestarted
  split
  next e _ hexec =>
    rw [hexec] at hadopted
    cases hadopted
  next adopted scheduler hexec =>
    rw [hexec] at hadopted
    cases hadopted
    rw [hexec]

theorem heldOpen_relayRestarted :
    HeldOpen relayRestarted.scheduler ("relay", "sat1") relayContact := by
  have hheld : ((record? relayRestarted.scheduler (.current ("relay", "sat1"))).map
      fun info => (info.contact, info.drain)) = some (some relayContact, none) := by decide +kernel
  obtain ⟨info, hinfo, heq⟩ := Option.map_eq_some_iff.mp hheld
  obtain ⟨hcontact, hdrain⟩ := Prod.mk.inj heq
  exact ⟨info, hinfo, hcontact, hdrain⟩

/-- The satellites' link is taken down, and the worker takes the intent. -/
def maintenance : List Step :=
  [.scenario (.injectLinkDown "sat2" "sat3" "maintenance"), .work carryingSurroundings fun _ => {}]

instance (s : Engine) (pair : Pair) : Decidable (Overridden s pair) :=
  inferInstanceAs (Decidable (_ ∨ _ ∨ _))

/-- Whether the event is a command that ends the relay's contact. -/
def endsRelay : Event → Bool
  | .command sent => decide (EndsContact sent ("relay", "sat1") relayContact)
  | _ => false

/-- Before any snapshot a scenario command on two satellites queues an intent of empty desired links,
and the relay's contact is stopped. -/
theorem scenario_before_snapshot_stops_contact : ∃ d,
    restart relaySession carryingSurroundings (some 100) = .ok d ∧
      HeldOpen d.scheduler ("relay", "sat1") relayContact ∧
      HoldsAlong (step relaySession 0) (fun d _ => ¬ Overridden d.engine ("relay", "sat1")) d
        maintenance ∧
      ¬ Ended relaySession ("relay", "sat1") relayContact d.engine.authority
        (run relaySession 0 d maintenance).engine.changes ∧
      ¬ SparedSince d.scheduler.log ("relay", "sat1") relayContact
        (run relaySession 0 d maintenance).scheduler.log := by
  have hchanges : (run relaySession 0 relayRestarted maintenance).engine.changes = [] := by
    decide +kernel
  refine ⟨relayRestarted, restart_relaySession, heldOpen_relayRestarted,
    ⟨by decide +kernel, by decide +kernel, trivial⟩, by rw [hchanges]; exact id, ?_⟩
  rintro ⟨later, heq, hspared⟩
  have hstopped : ((run relaySession 0 relayRestarted maintenance).scheduler.log.take 4).any
      endsRelay = true := by decide +kernel
  have hlength : later.length = 4 := by
    have htotal : (run relaySession 0 relayRestarted maintenance).scheduler.log.length =
        4 + relayRestarted.scheduler.log.length := by decide +kernel
    rw [heq, List.length_append] at htotal
    omega
  rw [heq, ← hlength, List.take_left, List.any_eq_true] at hstopped
  obtain ⟨event, hevent, hends⟩ := hstopped
  unfold endsRelay at hends
  split at hends
  next sent => exact hspared sent hevent (of_decide_eq_true hends)
  next => cases hends

def relaySnapshot : LinkStateSnapshot where
  simTime := 101
  snapshotSeq := 1
  epochId := 0
  links := [
    { nodeA := "relay", nodeB := "sat1", adminUp := true, carrier := .up, rangeKm := some 360000000
      latencyAToBMs := some 1200000, latencyBToAMs := some 1200000, linkType := .isl
      gsTerminalIndex := none, satTerminalIndex := none, schedulingState := .active
      contactOpenedAt := some 60, simTime := 101 }]

/-- The first snapshot arrives, and the worker takes its intent, before the same command. -/
def maintenanceLater : List Step :=
  [.message (.linkStateSnapshot relaySnapshot), .work carryingSurroundings fun _ => {}] ++ maintenance

theorem snapshot_first_spares_contact :
    restart relaySession carryingSurroundings (some 100) = .ok relayRestarted ∧
      SparedSince relayRestarted.scheduler.log ("relay", "sat1") relayContact
        (run relaySession 0 relayRestarted maintenanceLater).scheduler.log := by
  have hsync : ∀ d : Dispatcher, d.engine.changes = [.replaced relaySnapshot] →
      Synchronised relaySession relayRestarted.engine.authority d.engine.changes := by
    intro d hd
    exact ⟨[], relaySnapshot, [], hd, by decide +kernel, fun _ h => nomatch h⟩
  refine ⟨restart_relaySession, adopted_contact_spared restart_relaySession heldOpen_relayRestarted
    ⟨trivial, fun _ => hsync _ ?_, trivial, fun _ => hsync _ ?_, trivial⟩
    ⟨by decide +kernel, by decide +kernel, by decide +kernel, by decide +kernel, trivial⟩ ?_⟩
  · decide +kernel
  · decide +kernel
  · have hchanges : (run relaySession 0 relayRestarted maintenanceLater).engine.changes =
        [.replaced relaySnapshot] := by decide +kernel
    rw [hchanges]
    rintro (⟨-, hlost⟩ | hnone)
    · refine hlost ⟨rfl, ⟨_, List.mem_cons_self, rfl, rfl, rfl⟩, ?_⟩
      intro link hlink _ _ _
      rw [List.mem_singleton.mp hlink]
      rfl
    · exact hnone

end NodalArc.RestartedScheduler
