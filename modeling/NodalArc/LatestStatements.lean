import NodalArc.TickBatching

/-! The desired links against the latest statements of the orbital engine.  Within one epoch it
publishes events on one subject and snapshots that sum them up on another; the Scheduler reads the
two in any interleaving. -/

namespace NodalArc.LatestStatements

open GroundPolicy
open LinkRecord
open NodeAgentBatches
open DecisionEngine
open EngineDeliveries
open StatedLinks
open TickBatching
open StatefulProgram
open StatefulProgram.Program

variable {a : Authority} {u : Engine} {snapshot : LinkStateSnapshot} {xs : List VisibilityEvent}

variable {config : SchedulerConfig} {epsilonMs : ℚ} {actual : List Pair} {epochId : Nat}
  {s t : Engine} {vis : VisibilityEvent} {states base : Pair → Option Statement}

/-! ### What the orbital engine says -/

/-- What an up event carries: its interfaces and its own contact, or that of the pass it
continues. -/
def carried (config : SchedulerConfig) (epochId : Nat) (held : Option Statement)
    (vis : VisibilityEvent) : Option Statement :=
  match interfacesOf config .visibilityEvent vis.pair vis.linkType vis.gsTerminalIndex
      vis.satTerminalIndex with
  | .error _ => none
  | .ok interfaces =>
      let own : Option Contact := vis.contactOpenedAt.map fun openedAt => { epochId, openedAt }
      some { interfaces, contact := own <|> held.bind Statement.contact }

/-- The latest statement about each pair, one event later. -/
def say (config : SchedulerConfig) (epochId : Nat) (states : Pair → Option Statement)
    (vis : VisibilityEvent) : Pair → Option Statement :=
  Function.update states vis.pair
    (if Up vis then carried config epochId (states vis.pair) vis else none)

def said (config : SchedulerConfig) (epochId : Nat) :
    (Pair → Option Statement) → List VisibilityEvent → Pair → Option Statement :=
  List.foldl (say config epochId)

/-- An event of a pair that is up names the interfaces and the contact the pair has. -/
def Continues (config : SchedulerConfig) (epochId : Nat) (states : Pair → Option Statement)
    (vis : VisibilityEvent) : Prop :=
  Up vis → ∀ held, states vis.pair = some held → carried config epochId (some held) vis = some held

theorem carried_of_built {info : LinkInfo}
    (h : desiredLinkFromVisibility config 0 epochId vis = .ok info) :
    carried config epochId none vis = some (statement info) := by
  simp only [desiredLinkFromVisibility, bind_eq_ok_iff] at h
  obtain ⟨geometry, -, interfaces, hinterfaces, contact, hcontact, hinfo⟩ := h
  obtain rfl := Except.ok.inj hinfo
  have hown : contact = vis.contactOpenedAt.map fun openedAt => { epochId, openedAt } := by
    unfold contactOf at hcontact
    split_ifs at hcontact <;> split at hcontact <;> simp_all
  simp [carried, hinterfaces, statement, hown]

theorem say_eq_stateEvent (hfold : Foldable config epochId states vis)
    (hcontinues : Continues config epochId states vis) :
    say config epochId states vis = stateEvent config epochId states vis := by
  by_cases hup : Up vis
  · cases hheld : states vis.pair with
    | none =>
      obtain ⟨info, hinfo⟩ := hfold hup hheld
      rw [stateEvent_opens hup hheld hinfo, say, if_pos hup, hheld, carried_of_built hinfo]
    | some held =>
      rw [stateEvent_continues hup hheld, say, if_pos hup, hheld, hcontinues hup held hheld,
        ← hheld, Function.update_eq_self]
  · rw [stateEvent_closes hup, say, if_neg hup]

def Valid (config : SchedulerConfig) (epochId : Nat) :
    (Pair → Option Statement) → List VisibilityEvent → Prop :=
  HoldsAlong (say config epochId) (Foldable config epochId)

def Continuing (config : SchedulerConfig) (epochId : Nat) :
    (Pair → Option Statement) → List VisibilityEvent → Prop :=
  HoldsAlong (say config epochId) (Continues config epochId)

theorem said_eq_stateEvents {events : List VisibilityEvent}
    (hvalid : Valid config epochId states events)
    (hcontinuing : Continuing config epochId states events) :
    said config epochId states events = stateEvents config epochId states events ∧
      FoldableAll config epochId states events := by
  induction events generalizing states with
  | nil => exact ⟨rfl, trivial⟩
  | cons vis rest ih =>
    obtain ⟨hfold, hvalid⟩ := hvalid
    obtain ⟨hcontinues, hcontinuing⟩ := hcontinuing
    obtain ⟨hsaid, hrest⟩ := ih hvalid hcontinuing
    rw [say_eq_stateEvent hfold hcontinues] at hsaid hrest
    refine ⟨?_, hfold, hrest⟩
    change said config epochId (say config epochId states vis) rest = _
    rw [say_eq_stateEvent hfold hcontinues, hsaid]
    rfl

/-! ### Sorted events -/

theorem filter_append_filter_not {α : Type} {p : α → Prop} [DecidablePred p] {xs : List α}
    (h : xs.Pairwise fun x y => p y → p x) :
    xs.filter (fun x => p x) ++ xs.filter (fun x => ¬ p x) = xs := by
  induction xs with
  | nil => rfl
  | cons x xs ih =>
    obtain ⟨hx, hxs⟩ := List.pairwise_cons.mp h
    by_cases hp : p x
    · simpa [hp] using ih hxs
    · have hnone : ∀ y ∈ xs, ¬ p y := fun y hy hpy => hp (hx y hy hpy)
      have hfilter : xs.filter (fun y => p y) = [] := by simpa using hnone
      have hall : xs.filter (fun y => ¬ p y) = xs := by simpa using hnone
      rw [List.filter_cons_of_neg (by simpa using hp), hfilter,
        List.filter_cons_of_pos (by simpa using hp), hall]
      rfl

def InTime (x y : VisibilityEvent) : Prop := x.simTime ≤ y.simTime

instance : DecidableRel InTime := fun _ _ => inferInstanceAs (Decidable (_ ≤ _))

def Covered (a : Authority) (vis : VisibilityEvent) : Prop := ¬ Newer a vis

instance (a : Authority) : DecidablePred (Covered a) := fun _ => inferInstanceAs (Decidable (¬ _))

theorem Covered.of_le {x y : VisibilityEvent} (h : InTime x y) (hy : Covered a y)
    : Covered a x := by
  intro hx
  exact hy fun time htime => lt_of_lt_of_le (hx time htime) h

theorem said_filter_le {published : List VisibilityEvent} (hinTime : published.Pairwise InTime)
    (hvalid : Valid config epochId base published)
    (hcontinuing : Continuing config epochId base published) (time : ℚ) :
    said config epochId base (published.filter fun vis => vis.simTime ≤ time) =
      stateEvents config epochId base (published.filter fun vis => vis.simTime ≤ time) := by
  have hsplit := filter_append_filter_not (p := fun vis : VisibilityEvent => vis.simTime ≤ time)
    (hinTime.imp fun h hy => le_trans h hy)
  rw [← hsplit] at hvalid hcontinuing
  exact (said_eq_stateEvents (holdsAlong_append.mp hvalid).1
    (holdsAlong_append.mp hcontinuing).1).1

/-! ### What the desired links track -/

/-- The desired links state the events folded so far and those to come that the last snapshot
covers.  `rest` are the events not yet delivered. -/
structure Tracking (config : SchedulerConfig) (epochId : Nat) (base : Pair → Option Statement)
    (folded rest : List VisibilityEvent) (t : Engine) : Prop where
  running : t.epochSync.suspended = false
  epoch : t.authority.lastSnapshotEpochId = epochId
  backed : Backed t.authority
  states : stated t.authority = stateEvents config epochId base
    (folded ++ (t.pendingVisibilityEvents ++ rest).filter (Covered t.authority))

section Tracking

variable {folded rest : List VisibilityEvent}

theorem Tracking.keep (h : Tracking config epochId base folded rest t)
    (hsync : u.epochSync = t.epochSync) (hauthority : u.authority = t.authority)
    (hpending : u.pendingVisibilityEvents = t.pendingVisibilityEvents) :
    Tracking config epochId base folded rest u where
  running := hsync ▸ h.running
  epoch := hauthority ▸ h.epoch
  backed := hauthority ▸ h.backed
  states := by rw [hauthority, hpending, h.states]

theorem Tracking.join (h : Tracking config epochId base folded (vis :: rest) t) :
    Tracking config epochId base folded rest (appended vis t) where
  running := h.running
  epoch := h.epoch
  backed := h.backed
  states := by
    have hsame : (appended vis t).pendingVisibilityEvents ++ rest =
        t.pendingVisibilityEvents ++ vis :: rest := by simp [appended]
    rw [hsame]
    exact h.states

theorem newer_eq_nil_or_covered_eq_nil {ys : List VisibilityEvent}
    (horder : (xs ++ ys).Pairwise InTime) :
    xs.filter (Newer a) = [] ∨ ys.filter (Covered a) = [] := by
  by_contra! h
  obtain ⟨x, hx⟩ := List.exists_mem_of_ne_nil _ h.1
  obtain ⟨y, hy⟩ := List.exists_mem_of_ne_nil _ h.2
  have hx' := List.mem_filter.mp hx
  have hy' := List.mem_filter.mp hy
  have hle := (List.pairwise_append.mp horder).2.2 x hx'.1 y hy'.1
  have hcovered : Covered a y := by simpa using hy'.2
  have hnewer : Newer a x := by simpa using hx'.2
  exact Covered.of_le hle hcovered hnewer

theorem covered_append_newer (horder : xs.Pairwise InTime)
    : xs.filter (Covered a) ++ xs.filter (Newer a) = xs := by
  have hsplit := filter_append_filter_not (p := Covered a)
    (horder.imp fun h hy => Covered.of_le h hy)
  have hnewer : xs.filter (fun x => ¬ Covered a x) = xs.filter (Newer a) :=
    List.filter_congr fun x _ => by simp [Covered]
  rwa [hnewer] at hsplit

theorem Tracking.fold (h : Tracking config epochId base folded rest t)
    (horder : (folded ++ (t.pendingVisibilityEvents ++ rest)).Pairwise InTime)
    (hfold : FoldableAll config epochId base (folded ++ (t.pendingVisibilityEvents ++ rest))) :
    Change.outcome config (.folded t.pendingVisibilityEvents) t.authority = .ok () ∧
    Tracking config epochId base (folded ++ t.pendingVisibilityEvents) rest
      { changed config (.folded t.pendingVisibilityEvents) t with
        pendingVisibilityEvents := [] } := by
  have hpending : (t.pendingVisibilityEvents ++ rest).Pairwise InTime :=
    (List.pairwise_append.mp horder).2.1
  have hsplit : t.pendingVisibilityEvents.filter (Covered t.authority) ++
      t.pendingVisibilityEvents.filter (Newer t.authority) = t.pendingVisibilityEvents :=
    covered_append_newer (List.pairwise_append.mp hpending).1
  have hstates := h.states
  rw [List.filter_append] at hstates
  have hsame : SameSnapshot t.authority
      (Change.after config (.folded t.pendingVisibilityEvents) t.authority) :=
    sameSnapshot_folded _ _
  -- either the snapshot covers the whole batch, or it covers nothing after the batch
  have hmerged : FoldableAll config epochId (stated t.authority)
        (t.pendingVisibilityEvents.filter (Newer t.authority)) ∧
      stateEvents config epochId (stated t.authority)
        (t.pendingVisibilityEvents.filter (Newer t.authority)) =
      stateEvents config epochId base
        (folded ++ t.pendingVisibilityEvents ++ rest.filter (Covered t.authority)) := by
    rcases newer_eq_nil_or_covered_eq_nil (a := t.authority) hpending with hnil | hnil
    · rw [hnil, List.append_nil] at hsplit
      rw [hnil, hstates, hsplit, List.append_assoc]
      exact ⟨trivial, rfl⟩
    · rw [hnil, List.append_nil] at hstates
      rw [hnil, List.append_nil, hstates]
      rw [← List.append_assoc, foldableAll_append] at hfold
      have hbatch := hfold.1
      rw [← hsplit, ← List.append_assoc, foldableAll_append] at hbatch
      refine ⟨hbatch.2, ?_⟩
      nth_rewrite 3 [← hsplit]
      rw [← List.append_assoc]
      exact List.foldl_append.symm
  have hfoldable : FoldableAll config t.authority.lastSnapshotEpochId (stated t.authority)
      (t.pendingVisibilityEvents.filter (Newer t.authority)) := by
    rw [h.epoch]
    exact hmerged.1
  obtain ⟨houtcome, hstated, hbacked⟩ := outcome_of_wp (wp_folded hfoldable h.backed)
  refine ⟨houtcome, h.running, hsame.2.2.trans h.epoch, hbacked, ?_⟩
  have hcovered : rest.filter (Covered (Change.after config (.folded t.pendingVisibilityEvents)
      t.authority)) = rest.filter (Covered t.authority) :=
    List.filter_congr fun v _ =>
      decide_eq_decide.mpr (not_congr (newer_iff_of_sameSnapshot hsame v))
  rw [h.epoch, hmerged.2, ← hcovered] at hstated
  exact hstated

theorem Tracking.replace (h : Tracking config epochId base folded rest t)
    (hwell : WellFormed config snapshot) (hepoch : snapshot.epochId = epochId)
    (hsummary : snapshotStates config snapshot = stateEvents config epochId base ((folded ++
      (t.pendingVisibilityEvents ++ rest)).filter fun vis => vis.simTime ≤ snapshot.simTime))
    (hintime : ∀ vis ∈ folded, vis.simTime ≤ snapshot.simTime) :
    Change.outcome config (.replaced snapshot) t.authority = .ok () ∧
    Tracking config epochId base folded rest (changed config (.replaced snapshot) t) := by
  obtain ⟨houtcome, hreplaced⟩ := outcome_of_wp (wp_replaced (a := t.authority) hwell)
  refine ⟨houtcome, h.running, hreplaced.epochId.trans hepoch, hreplaced.backed, ?_⟩
  have hcovered : ∀ vis, Covered (Change.after config (.replaced snapshot) t.authority) vis ↔
      vis.simTime ≤ snapshot.simTime := by
    intro vis
    simp [Covered, Newer, hreplaced.simTime]
  have hfolded : folded.filter (fun vis => vis.simTime ≤ snapshot.simTime) = folded := by
    simpa using hintime
  rw [List.filter_append, hfolded] at hsummary
  refine hreplaced.states.trans (hsummary.trans ?_)
  congr 2
  exact List.filter_congr fun vis _ => decide_eq_decide.mpr (hcovered vis).symm

end Tracking

/-! ### Deliveries of one epoch -/

/-- A snapshot of the epoch that sums up the events up to its time. -/
structure Summarises (config : SchedulerConfig) (epochId : Nat) (base : Pair → Option Statement)
    (published : List VisibilityEvent) (snapshot : LinkStateSnapshot) : Prop where
  wellFormed : WellFormed config snapshot
  epoch : snapshot.epochId = epochId
  states : snapshotStates config snapshot = said config epochId base
    (published.filter fun vis => vis.simTime ≤ snapshot.simTime)

def InSequence : Message → Message → Prop
  | .linkStateSnapshot x, .linkStateSnapshot y => x.snapshotSeq < y.snapshotSeq
  | _, _ => True

/-- Events, snapshots and clock ticks of one epoch, each subject in the order published.
`published` are all events of the epoch, of which a first part has been delivered. -/
structure EpochDelivery (config : SchedulerConfig) (epochId : Nat) (s : Engine)
    (published : List VisibilityEvent) (messages : List Message) : Prop where
  running : s.epochSync.suspended = false
  idle : s.pendingVisibilityEvents = []
  backed : Backed s.authority
  epoch : s.authority.lastSnapshotEpochId = epochId
  inTime : published.Pairwise InTime
  valid : Valid config epochId (stated s.authority) published
  newer : ∀ vis ∈ published, Newer s.authority vis
  started : ∀ last ∈ s.lastVisibilitySimTime, ∀ vis ∈ published, last ≤ vis.simTime
  kinds : ∀ m ∈ messages, (∃ vis, m = .visibility vis) ∨
    (∃ e tick, m = .clockTick (some e) (some tick)) ∨
    ∃ snapshot, m = .linkStateSnapshot snapshot
  delivered : eventsOf messages <+: published
  inOrder : messages.Pairwise InTimeOrder
  notOvertaken : messages.Pairwise EventNotOvertaken
  inSequence : messages.Pairwise InSequence
  snapshots : ∀ snapshot, .linkStateSnapshot snapshot ∈ messages →
    Summarises config epochId (stated s.authority) published snapshot ∧
      s.authority.lastSnapshotSeq < snapshot.snapshotSeq

def foldedEvents (changes : List Change) : List VisibilityEvent :=
  changes.flatMap fun
    | .folded batch => batch
    | _ => []

/-- No snapshot arrives once an event later than it was folded. -/
def SnapshotsInTime (config : SchedulerConfig) (epsilonMs : ℚ) (s : Engine)
    (deliveries : List Delivery) : Prop :=
  ∀ pre d post snapshot t, deliveries = pre ++ d :: post →
    d.message = .linkStateSnapshot snapshot → handleAll config epsilonMs s pre = .ok t →
    ∀ vis ∈ foldedEvents (t.changes.drop s.changes.length), vis.simTime ≤ snapshot.simTime

/-- The last snapshot is the first one or among the messages handled since. -/
def SnapshotSeen (s : Engine) (done : List Message) (a : Authority) : Prop :=
  (a.lastSnapshotSeq = s.authority.lastSnapshotSeq ∧
    a.lastSnapshotSimTime = s.authority.lastSnapshotSimTime) ∨
  ∃ snapshot, .linkStateSnapshot snapshot ∈ done ∧ a.lastSnapshotSeq = snapshot.snapshotSeq ∧
    a.lastSnapshotSimTime = some snapshot.simTime

theorem SnapshotSeen.mono {done : List Message} (h : SnapshotSeen s done a) (m : Message)
    : SnapshotSeen s (done ++ [m]) a := by
  rcases h with hstart | ⟨snapshot, hsnapshot, hseen⟩
  · exact .inl hstart
  · exact .inr ⟨snapshot, List.mem_append_left _ hsnapshot, hseen⟩

/-- What holds once the messages were handled. -/
structure Following (config : SchedulerConfig) (epochId : Nat) (s : Engine)
    (published : List VisibilityEvent) (done : List Message) (folded rest : List VisibilityEvent)
    (t : Engine) : Prop extends
    Tracking config epochId (stated s.authority) folded rest t where
  published : published = folded ++ (t.pendingVisibilityEvents ++ rest)
  delivered : eventsOf done = folded ++ t.pendingVisibilityEvents
  changes : ∃ since, t.changes = s.changes ++ since ∧ foldedEvents since = folded
  lastSeen : LastSeen s done t
  snapshotSeen : SnapshotSeen s done t.authority

section Following

variable {published folded rest : List VisibilityEvent} {done : List Message} {m : Message}

theorem Following.wp_flushPending {batchTime : ℚ}
    (h : Following config epochId s published done folded rest t)
    (hinTime : published.Pairwise InTime)
    (hfold : FoldableAll config epochId (stated s.authority) published) :
    wp (flushPending config actual batchTime) t
      (fun _ u => Following config epochId s published done (folded ++ t.pendingVisibilityEvents)
        rest u ∧ u.pendingVisibilityEvents = []) (fun _ _ => False) := by
  rw [h.published] at hinTime hfold
  obtain ⟨houtcome, htracking⟩ := h.fold hinTime hfold
  rw [EngineDeliveries.wp_flushPending]
  refine ⟨fun _ => ⟨?_, rfl⟩, fun e he => ?_⟩
  · refine { htracking.keep rfl rfl rfl with
      published := ?_, delivered := ?_, changes := ?_, lastSeen := h.lastSeen, snapshotSeen := ?_ }
    · simpa using h.published
    · simpa using h.delivered
    · obtain ⟨since, hchanges, hfolded⟩ := h.changes
      refine ⟨since ++ [.folded t.pendingVisibilityEvents], ?_, ?_⟩
      · simp [hchanges]
      · simp [foldedEvents] at hfolded ⊢
        exact hfolded
    · have hsame : SameSnapshot t.authority
          (Change.after config (.folded t.pendingVisibilityEvents) t.authority) :=
        sameSnapshot_folded _ _
      simpa [SnapshotSeen, hsame.1, hsame.2.1] using h.snapshotSeen
  · rw [houtcome] at he
    cases he

theorem Following.passed (h : Following config epochId s published done folded rest t)
    (hm : eventsOf [m] = []) (hsync : u.epochSync = t.epochSync)
    (hauthority : u.authority = t.authority)
    (hpending : u.pendingVisibilityEvents = t.pendingVisibilityEvents)
    (hchanges : u.changes = t.changes) (hlast : LastSeen s (done ++ [m]) u) :
    Following config epochId s published (done ++ [m]) folded rest u := by
  refine { h.toTracking.keep hsync hauthority hpending with
    published := ?_, delivered := ?_, changes := ?_, lastSeen := hlast, snapshotSeen := ?_ }
  · rw [hpending]
    exact h.published
  · rw [eventsOf_append, hm, List.append_nil, hpending]
    exact h.delivered
  · rw [hchanges]
    exact h.changes
  · rw [hauthority]
    exact h.snapshotSeen.mono m

theorem Following.joined (h : Following config epochId s published done folded (vis :: rest) t) :
    Following config epochId s published (done ++ [.visibility vis]) folded rest
      (appended vis t) := by
  refine { h.toTracking.join with
    published := ?_, delivered := ?_, changes := h.changes, lastSeen := ?_,
    snapshotSeen := h.snapshotSeen.mono _ }
  · simpa [appended] using h.published
  · rw [eventsOf_append, h.delivered, List.append_assoc]
    rfl
  · exact .of_time rfl rfl

theorem Following.wp_handleVisibilityEvent
    (h : Following config epochId s published done folded (vis :: rest) t)
    (hinTime : published.Pairwise InTime)
    (hfold : FoldableAll config epochId (stated s.authority) published)
    (hlast : ∀ last, t.lastVisibilitySimTime = some last → last ≤ vis.simTime) :
    wp (handleVisibilityEvent config epsilonMs actual vis) t
      (fun _ u => ∃ folded, Following config epochId s published (done ++ [.visibility vis]) folded
        rest u) (fun _ _ => False) := by
  refine EngineDeliveries.wp_handleVisibilityEvent ?_ ?_ (fun _ _ => ⟨folded, h.joined⟩) ?_
  · intro hsuspended
    exact absurd (h.running.symm.trans hsuspended) (by simp)
  · intro _ last hlast' hregressed
    exact absurd (hlast last hlast') (not_le.mpr hregressed)
  · intro _ _ _ _ _ _ _ _
    refine wp_imp (h.wp_flushPending hinTime hfold) ?_
    rintro _ u ⟨hflushed, -⟩
    exact ⟨_, hflushed.joined⟩

theorem Following.wp_handleClockTick {e : Nat} {tick : ℚ}
    (h : Following config epochId s published done folded rest t)
    (hinTime : published.Pairwise InTime)
    (hfold : FoldableAll config epochId (stated s.authority) published) :
    wp (handleClockTickPayload config actual (some e) (some tick)) t
      (fun _ u => ∃ folded, Following config epochId s published
        (done ++ [.clockTick (some e) (some tick)]) folded rest u) (fun _ _ => False) := by
  simp only [handleClockTickPayload, wp_bind, wp_get, wp_ite]
  refine ⟨fun hsuspended => absurd (h.running.symm.trans hsuspended) (by simp), fun _ => ?_⟩
  refine wp_advanceClock (fun _ => ⟨folded, ?_⟩) ?_
  · exact h.passed rfl rfl rfl rfl rfl (h.lastSeen.mono rfl)
  · intro first tail hpending hlater
    have htick : Following config epochId s published done folded rest
        { t with currentSimTime := some tick } :=
      { h.toTracking.keep rfl rfl rfl with
        published := h.published, delivered := h.delivered, changes := h.changes,
        lastSeen := h.lastSeen, snapshotSeen := h.snapshotSeen }
    refine wp_imp (htick.wp_flushPending hinTime hfold) ?_
    rintro _ u ⟨hflushed, -⟩
    exact ⟨_, hflushed.passed rfl rfl rfl rfl rfl (.of_time rfl rfl)⟩

theorem Following.wp_handleLinkStateSnapshot
    (h : Following config epochId s published done folded rest t)
    (hsummary : Summarises config epochId (stated s.authority) published snapshot)
    (hsaid : said config epochId (stated s.authority) (published.filter fun vis => vis.simTime ≤
      snapshot.simTime) = stateEvents config epochId (stated s.authority) (published.filter fun
      vis => vis.simTime ≤ snapshot.simTime))
    (hseq : t.authority.lastSnapshotSeq < snapshot.snapshotSeq)
    (hintime : ∀ vis ∈ folded, vis.simTime ≤ snapshot.simTime) :
    wp (handleLinkStateSnapshot config actual snapshot) t
      (fun _ u => ∃ folded, Following config epochId s published
        (done ++ [.linkStateSnapshot snapshot]) folded rest u) (fun _ _ => False) := by
  have hstates := hsummary.states.trans hsaid
  rw [h.published] at hstates
  obtain ⟨houtcome, htracking⟩ := h.replace hsummary.wellFormed hsummary.epoch hstates hintime
  simp only [handleLinkStateSnapshot, wp_bind, wp_get, wp_ite]
  refine ⟨fun hsuspended => absurd (h.running.symm.trans hsuspended) (by simp), fun _ => ?_⟩
  rw [wp_applySnapshot]
  refine ⟨fun _ => ⟨fun _ => ⟨folded, ?_⟩, fun e he => ?_⟩, fun hold => absurd hseq hold⟩
  · refine { htracking.keep rfl rfl rfl with
      published := h.published, delivered := ?_, changes := ?_, lastSeen := ?_, snapshotSeen := ?_ }
    · simpa [eventsOf_append, eventsOf] using h.delivered
    · obtain ⟨since, hchanges, hfolded⟩ := h.changes
      refine ⟨since ++ [.replaced snapshot], ?_, ?_⟩
      · simp [hchanges]
      · simpa [foldedEvents] using hfolded
    · exact h.lastSeen.mono rfl
    · obtain ⟨-, hreplaced⟩ := outcome_of_wp (wp_replaced (a := t.authority) hsummary.wellFormed)
      exact .inr ⟨snapshot, by simp, hreplaced.seq, hreplaced.simTime⟩
  · rw [houtcome] at he
    cases he

theorem Following.wp_handleMessage {later : List Message}
    (hdelivery : EpochDelivery config epochId s published (done ++ m :: later))
    (hcontinuing : Continuing config epochId (stated s.authority) published)
    (h : Following config epochId s published done folded rest t)
    (hintime : ∀ snapshot, m = .linkStateSnapshot snapshot →
      ∀ vis ∈ folded, vis.simTime ≤ snapshot.simTime) :
    wp (handleMessage config epsilonMs actual m) t
      (fun _ u => ∃ folded rest, Following config epochId s published (done ++ [m]) folded rest u)
      (fun _ _ => False) := by
  obtain ⟨-, hfold⟩ := said_eq_stateEvents hdelivery.valid hcontinuing
  rcases hdelivery.kinds m (by simp) with ⟨vis, rfl⟩ | ⟨e, tick, rfl⟩ | ⟨snapshot, rfl⟩
  · -- the next event delivered is the next one published
    obtain ⟨rest', rfl⟩ : ∃ rest', rest = vis :: rest' := by
      obtain ⟨tail, htail⟩ := hdelivery.delivered
      rw [eventsOf_append, h.delivered, h.published, List.append_assoc, List.append_assoc] at htail
      have hrest := List.append_cancel_left (List.append_cancel_left htail)
      exact ⟨eventsOf later ++ tail, by simpa [eventsOf] using hrest.symm⟩
    have hvis : vis ∈ published := by simp [h.published]
    refine wp_imp (h.wp_handleVisibilityEvent hdelivery.inTime hfold ?_) ?_
    · exact fun last hlast => h.lastSeen.le_next (fun first hfirst =>
        hdelivery.started first hfirst vis hvis) hdelivery.inOrder hdelivery.notOvertaken hlast
    · rintro _ u ⟨folded', hu⟩
      exact ⟨folded', rest', hu⟩
  · refine wp_imp (h.wp_handleClockTick hdelivery.inTime hfold) ?_
    rintro _ u ⟨folded', hu⟩
    exact ⟨folded', rest, hu⟩
  · obtain ⟨hsummary, hnewer⟩ := hdelivery.snapshots snapshot (by simp)
    have hseq : t.authority.lastSnapshotSeq < snapshot.snapshotSeq := by
      rcases h.snapshotSeen with ⟨hstart, -⟩ | ⟨earlier, hearlier, hseen, -⟩
      · exact hstart ▸ hnewer
      · rw [hseen]
        exact (List.pairwise_append.mp hdelivery.inSequence).2.2 _ hearlier _ List.mem_cons_self
    have hsaid := said_filter_le hdelivery.inTime hdelivery.valid hcontinuing snapshot.simTime
    refine wp_imp (h.wp_handleLinkStateSnapshot hsummary hsaid hseq (hintime snapshot rfl)) ?_
    rintro _ u ⟨folded', hu⟩
    exact ⟨folded', rest, hu⟩

end Following

/-- Every message of a time up to `time` was delivered and flushed, and none later. -/
def FlushedUpTo (published : List VisibilityEvent) (messages : List Message) (time : ℚ)
    (t : Engine) : Prop :=
  t.pendingVisibilityEvents = [] ∧
  eventsOf messages = (published.filter fun vis => vis.simTime ≤ time) ∧
  ∀ snapshot, .linkStateSnapshot snapshot ∈ messages → snapshot.simTime ≤ time

theorem Following.states_of_flushed {published folded rest : List VisibilityEvent}
    {messages : List Message} {time : ℚ}
    (h : Following config epochId s published messages folded rest t)
    (hnewer : ∀ vis ∈ published, Newer s.authority vis)
    (hflushed : FlushedUpTo published messages time t) :
    stated t.authority = stateEvents config epochId (stated s.authority)
      (published.filter fun vis => vis.simTime ≤ time) := by
  obtain ⟨hpending, hevents, hsnapshots⟩ := hflushed
  have hfolded : folded = published.filter fun vis => vis.simTime ≤ time := by
    simpa [hpending] using h.delivered.symm.trans hevents
  have hpublished : published = folded ++ rest := by simpa [hpending] using h.published
  -- no event after the folded ones is covered by a snapshot of at most that time
  have hrest : ∀ vis ∈ rest, ¬ Covered t.authority vis := by
    intro vis hvis
    have hlater : ¬ vis.simTime ≤ time := by
      intro hle
      have hlength := congrArg List.length hfolded
      rw [hpublished, List.filter_append, List.length_append] at hlength
      have hall : folded.filter (fun vis => vis.simTime ≤ time) = folded := by
        rw [List.filter_eq_self]
        intro v hv
        rw [hfolded] at hv
        exact (List.mem_filter.mp hv).2
      have hmem : vis ∈ rest.filter fun vis => vis.simTime ≤ time :=
        List.mem_filter.mpr ⟨hvis, by simpa using hle⟩
      have hpos := List.length_pos_of_mem hmem
      rw [hall] at hlength
      omega
    have hnew : Newer t.authority vis := by
      intro last hlast
      rcases h.snapshotSeen with ⟨-, hstart⟩ | ⟨snapshot, hsnapshot, -, hseen⟩
      · exact hnewer vis (by simp [hpublished, hvis]) last (hstart ▸ hlast)
      · rw [hseen] at hlast
        obtain rfl := Option.some.inj hlast
        exact lt_of_le_of_lt (hsnapshots snapshot hsnapshot) (not_le.mp hlater)
    exact not_not.mpr hnew
  have hnone : rest.filter (Covered t.authority) = [] := by simpa using hrest
  have hstates := h.states
  rw [hpending, List.nil_append, hnone, List.append_nil, hfolded] at hstates
  exact hstates

/-- When no snapshot arrives after a later event was folded and restatements continue their pass,
no handler raises and the desired links are the latest statements. -/
theorem handleAll_latest {published : List VisibilityEvent} {deliveries : List Delivery}
    (hdelivery : EpochDelivery config epochId s published (messages deliveries))
    (hcontinuing : Continuing config epochId (stated s.authority) published)
    (hintime : SnapshotsInTime config epsilonMs s deliveries) :
    ∃ t, handleAll config epsilonMs s deliveries = .ok t ∧
      authoritySubsetViolation t.authority = [] ∧
      ∀ time, FlushedUpTo published (messages deliveries) time t →
        stated t.authority = said config epochId (stated s.authority)
          (published.filter fun vis => vis.simTime ≤ time) := by
  have hstart : Following config epochId s published (messages []) [] published s := by
    have hnone : published.filter (Covered s.authority) = [] := by
      rw [List.filter_eq_nil_iff]
      intro vis hvis
      rw [decide_eq_true_eq]
      exact not_not.mpr (hdelivery.newer vis hvis)
    exact {
      running := hdelivery.running
      epoch := hdelivery.epoch
      backed := hdelivery.backed
      states := by simp [hdelivery.idle, hnone, stateEvents]
      published := by simp [hdelivery.idle]
      delivered := by simp [hdelivery.idle, messages, eventsOf]
      changes := ⟨[], by simp, rfl⟩
      lastSeen := fun last hlast => .inl hlast
      snapshotSeen := .inl ⟨rfl, rfl⟩ }
  have hrun : ∃ t, handleAll config epsilonMs s deliveries = .ok t ∧ ∃ folded rest,
      Following config epochId s published (messages deliveries) folded rest t := by
    refine runUntilRaise_invariant (fun done t => ∃ folded rest,
      Following config epochId s published (messages done) folded rest t) ?_ ⟨[], _, hstart⟩
    rintro pre d post t hsplit hrun ⟨folded, rest, ht⟩
    have hmessages : messages deliveries = messages pre ++ d.message :: messages post := by
      simp [messages, hsplit]
    have hnext : messages (pre ++ [d]) = messages pre ++ [d.message] := by simp [messages]
    rw [hmessages] at hdelivery
    rw [hnext]
    refine ht.wp_handleMessage hdelivery hcontinuing ?_
    intro snapshot hsnapshot vis hvis
    refine hintime pre d post snapshot t hsplit hsnapshot hrun vis ?_
    obtain ⟨since, hchanges, hfolded⟩ := ht.changes
    rw [hchanges, List.drop_left, hfolded]
    exact hvis
  obtain ⟨t, hrun, folded, rest, ht⟩ := hrun
  refine ⟨t, hrun, authoritySubsetViolation_eq_nil_iff.mpr ht.backed, ?_⟩
  intro time hflushed
  rw [said_filter_le hdelivery.inTime hdelivery.valid hcontinuing]
  exact ht.states_of_flushed hdelivery.newer hflushed

def upThenDown : List VisibilityEvent := [linkEvent 1 true, linkEvent 2 false]

/-- Both events, the snapshot between them in time, and the clock tick that flushes the second:
the snapshot before the events or after the tick. -/
def withSnapshot (late : Bool) : List Delivery :=
  (if late then
    [Message.visibility (linkEvent 1 true), .visibility (linkEvent 2 false),
      .clockTick (some 0) (some 3), .linkStateSnapshot (linkUpSnapshot 0 1 1)]
  else
    [Message.linkStateSnapshot (linkUpSnapshot 0 1 1), .visibility (linkEvent 1 true),
      .visibility (linkEvent 2 false), .clockTick (some 0) (some 3)]).map fun message =>
    { message, actual := [] }

theorem epochDelivery_withSnapshot (late : Bool) :
    EpochDelivery twoSatellites 0 freshEngine upThenDown (messages (withSnapshot late)) := by
  have hsnapshots : ∀ snapshot, .linkStateSnapshot snapshot ∈ messages (withSnapshot late) →
      snapshot = linkUpSnapshot 0 1 1 := by
    intro snapshot
    cases late <;> simp [messages, withSnapshot]
  exact {
    running := rfl
    idle := rfl
    backed := backed_freshAuthority
    epoch := rfl
    inTime := by decide +kernel
    valid := ⟨foldable_linkEvent _ _ _, foldable_linkEvent _ _ _, trivial⟩
    newer := by simp [Newer, freshEngine, freshAuthority]
    started := by simp [freshEngine]
    kinds := by cases late <;> simp [messages, withSnapshot]
    delivered := by cases late <;> exact List.prefix_rfl
    inOrder := by
      have hle : (1 : ℚ) ≤ 2 := by decide +kernel
      cases late <;> simp [messages, withSnapshot, InTimeOrder, linkEvent, hle]
    notOvertaken := by cases late <;> simp [messages, withSnapshot, EventNotOvertaken]
    inSequence := by cases late <;> simp [messages, withSnapshot, InSequence]
    snapshots := by
      intro snapshot hsnapshot
      obtain rfl := hsnapshots snapshot hsnapshot
      refine ⟨⟨wellFormed_linkUpSnapshot 0 1 1, rfl, ?_⟩, by decide⟩
      have hfirst : (upThenDown.filter fun vis => vis.simTime ≤ (linkUpSnapshot 0 1 1).simTime) =
          [linkEvent 1 true] := by decide +kernel
      rw [snapshotStates_linkUpSnapshot, hfirst]
      rfl }

theorem continuing_upThenDown :
    Continuing twoSatellites 0 (stated freshEngine.authority) upThenDown := by
  refine ⟨?_, ?_, trivial⟩
  · intro _ held hheld
    cases hheld
  · intro hup
    exact absurd hup.1 (by decide)

/-- A snapshot that arrives after a later event was folded brings back the link that the event took
down. -/
theorem late_snapshot_reverts :
    EpochDelivery twoSatellites 0 freshEngine upThenDown (messages (withSnapshot true)) ∧
    Continuing twoSatellites 0 (stated freshEngine.authority) upThenDown ∧
    ∃ t, handleAll twoSatellites 100 freshEngine (withSnapshot true) = .ok t ∧
      FlushedUpTo upThenDown (messages (withSnapshot true)) 2 t ∧
      stated t.authority ("sat1", "sat2") ≠ said twoSatellites 0 (stated freshEngine.authority)
        (upThenDown.filter fun vis => vis.simTime ≤ 2) ("sat1", "sat2") := by
  refine ⟨epochDelivery_withSnapshot true, continuing_upThenDown, ?_⟩
  have hrun : (handleAll twoSatellites 100 freshEngine (withSnapshot true)).map (fun t =>
      (t.pendingVisibilityEvents, stated t.authority ("sat1", "sat2"))) =
      .ok ([], linkUp ("sat1", "sat2")) := by decide +kernel
  cases hhandled : handleAll twoSatellites 100 freshEngine (withSnapshot true) with
  | error e => simp [hhandled, Except.map] at hrun
  | ok t =>
    rw [hhandled] at hrun
    obtain ⟨hpending, hstated⟩ := Prod.mk.inj (Except.ok.inj hrun)
    refine ⟨t, rfl, ⟨hpending, by decide +kernel, ?_⟩, ?_⟩
    · intro snapshot hsnapshot
      have hfirst : snapshot = linkUpSnapshot 0 1 1 := by
        simpa [messages, withSnapshot] using hsnapshot
      subst hfirst
      decide +kernel
    · rw [hstated]
      decide +kernel

theorem early_snapshot_latest :
    SnapshotsInTime twoSatellites 100 freshEngine (withSnapshot false) ∧
    ∃ t, handleAll twoSatellites 100 freshEngine (withSnapshot false) = .ok t ∧
      authoritySubsetViolation t.authority = [] ∧
      ∀ time, FlushedUpTo upThenDown (messages (withSnapshot false)) time t →
        stated t.authority = said twoSatellites 0 (stated freshEngine.authority)
          (upThenDown.filter fun vis => vis.simTime ≤ time) := by
  have hintime : SnapshotsInTime twoSatellites 100 freshEngine (withSnapshot false) := by
    intro pre d post snapshot t hsplit hsnapshot hrun
    have hpre : pre = [] := by
      cases pre with
      | nil => rfl
      | cons x pre =>
        have htail : _ = pre ++ d :: post := (List.cons.inj hsplit).2
        have hmem : d.message ∈ messages (pre ++ d :: post) := by simp [messages]
        rw [← htail, hsnapshot] at hmem
        simp [messages] at hmem
    subst hpre
    obtain rfl : freshEngine = t := Except.ok.inj hrun
    simp [freshEngine, foldedEvents]
  exact ⟨hintime, handleAll_latest (epochDelivery_withSnapshot false) continuing_upThenDown hintime⟩

end NodalArc.LatestStatements
