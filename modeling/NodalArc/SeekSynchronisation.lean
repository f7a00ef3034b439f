import NodalArc.StatedLinks

/-! A seek to a new epoch.  The orbital engine announces the seek and then publishes the epoch's
ephemeris, snapshots, playback state and clock ticks, each on its own subject; the Scheduler
suspends dispatch until it has one of each. -/

namespace NodalArc.SeekSynchronisation

open GroundPolicy
open NodeAgentBatches
open DecisionEngine
open EngineDeliveries
open StatedLinks
open StatefulProgram
open StatefulProgram.Program

variable {c : Change} {t : Engine} {source : IntentSource} {snapshot : LinkStateSnapshot}
  {deliveries : List Delivery} {post pre : List Message} {seq : Nat} {simTime : Option ℚ}

variable {config : SchedulerConfig} {epsilonMs : ℚ} {actual : List Pair} {epochId : Nat}
  {s : Engine} {done : List Message} {m : Message}

/-! ### Subjects -/

def publishedEpoch : Message → Option Nat
  | .visibility vis => some vis.publishedIn
  | .clockTick epochId _ => epochId
  | .sessionEphemeris epochId => some epochId
  | .playbackState _ epochId => some epochId
  | .linkStateSnapshot snapshot => some snapshot.epochId

/-- Two messages delivered one after the other that, if on one subject, were published in that
order.  A seek announces its epoch before any other playback state of the epoch. -/
def InOrder : Message → Message → Prop
  | .visibility vis, .visibility vis' => vis.publishedIn ≤ vis'.publishedIn
  | .clockTick (some e) _, .clockTick (some e') _ => e ≤ e'
  | .sessionEphemeris e, .sessionEphemeris e' => e ≤ e'
  | .playbackState _ e, .playbackState mode e' => e ≤ e' ∧ (mode = .seeking → e < e')
  | .linkStateSnapshot x, .linkStateSnapshot y =>
      x.epochId ≤ y.epochId ∧ x.snapshotSeq < y.snapshotSeq
  | _, _ => True

def EventBeforeLaterTick : Message → Message → Prop
  | .clockTick (some e) _, .visibility vis => e ≤ vis.publishedIn
  | _, _ => True

/-- What a message carries that every message of the orbital engine carries. -/
def Sound (config : SchedulerConfig) : Message → Prop
  | .clockTick epochId simTime => epochId ≠ none ∧ simTime ≠ none
  | .linkStateSnapshot snapshot => WellFormed config snapshot
  | _ => True

/-- Messages delivered around a seek, subject by subject in the order published, none of a later
epoch, to a Scheduler in any earlier epoch. -/
structure SeekDelivery (config : SchedulerConfig) (epochId : Nat) (s : Engine)
    (messages : List Message) : Prop where
  earlier : s.epochSync.expectedEpochId < epochId
  inOrder : messages.Pairwise InOrder
  sound : ∀ m ∈ messages, Sound config m
  latest : ∀ m ∈ messages, ∀ e ∈ publishedEpoch m, e ≤ epochId
  newer : ∀ snapshot, .linkStateSnapshot snapshot ∈ messages →
    s.authority.lastSnapshotSeq < snapshot.snapshotSeq ∧
    ∀ buffered ∈ s.epochSync.bufferedSnapshot, buffered.snapshotSeq < snapshot.snapshotSeq

/-! ### What a seek waits for -/

/-- The epoch's playing state, ephemeris and a snapshot are among the messages. -/
def DependenciesIn (epochId : Nat) (messages : List Message) : Prop :=
  .playbackState .playing epochId ∈ messages ∧ .sessionEphemeris epochId ∈ messages ∧
    ∃ snapshot, .linkStateSnapshot snapshot ∈ messages ∧ snapshot.epochId = epochId

def ResumingTick (epochId : Nat) (messages : List Message) : Prop :=
  ∃ pre simTime post, messages = pre ++ .clockTick (some epochId) simTime :: post ∧
    DependenciesIn epochId pre

theorem resumingTick_concat : ResumingTick epochId (done ++ [m]) ↔ ResumingTick epochId done ∨
      (∃ simTime, m = .clockTick (some epochId) simTime) ∧ DependenciesIn epochId done := by
  constructor
  · rintro ⟨pre, simTime, post, hmessages, hdeps⟩
    rcases List.eq_nil_or_concat post with rfl | ⟨post, last, rfl⟩
    · obtain ⟨rfl, hm⟩ := List.append_inj' hmessages rfl
      exact .inr ⟨⟨simTime, by simpa using hm⟩, hdeps⟩
    · rw [List.concat_eq_append, ← List.cons_append, ← List.append_assoc] at hmessages
      exact .inl ⟨pre, simTime, post, (List.append_inj' hmessages rfl).1, hdeps⟩
  · rintro (⟨pre, simTime, post, rfl, hdeps⟩ | ⟨⟨simTime, rfl⟩, hdeps⟩)
    · exact ⟨pre, simTime, post ++ [m], by simp, hdeps⟩
    · exact ⟨done, simTime, [], rfl, hdeps⟩

/-- The authority is what the changes since the seek made of it. -/
def SinceSeek (config : SchedulerConfig) (epochId : Nat) (s : Engine) (changes : List Change) :
    Prop :=
  ∃ a earlier, s.changes = earlier ++ .cleared epochId :: changes ∧
    s.authority = replay config a (.cleared epochId :: changes)

theorem SinceSeek.changed {changes : List Change} (c : Change)
    (h : SinceSeek config epochId s changes) :
    SinceSeek config epochId (changed config c s) (changes ++ [c]) := by
  obtain ⟨a, earlier, hchanges, hauthority⟩ := h
  refine ⟨a, earlier, ?_, ?_⟩
  · simp [EngineDeliveries.changed, hchanges]
  · rw [← List.cons_append, replay_concat, ← hauthority]
    rfl

def OfEpoch (epochId : Nat) : Change → Prop
  | .cleared _ => False
  | .replaced snapshot => snapshot.epochId = epochId
  | .folded batch => ∀ vis ∈ batch, vis.publishedIn = epochId

/-- Dispatch runs in the epoch: since the seek the authority was replaced by a snapshot of the
epoch and changed by snapshots and events of the epoch only. -/
structure Synchronised (config : SchedulerConfig) (epochId : Nat) (s : Engine) : Prop where
  resumed : s.epochSync.suspended = false
  epoch : s.epochSync.expectedEpochId = epochId
  changes : ∃ snapshot later, WellFormed config snapshot ∧ snapshot.epochId = epochId ∧
    SinceSeek config epochId s (.replaced snapshot :: later) ∧ ∀ c ∈ later, OfEpoch epochId c

/-- Suspended for the epoch; `done` are the messages since the seek. -/
structure Waiting (config : SchedulerConfig) (epochId : Nat) (done : List Message) (s : Engine) :
    Prop where
  suspended : s.epochSync.suspended = true
  epoch : s.epochSync.expectedEpochId = epochId
  pending : s.pendingVisibilityEvents = []
  since : SinceSeek config epochId s []
  playing : s.epochSync.playbackPlayingReceived = true ↔ .playbackState .playing epochId ∈ done
  ephemeris : s.epochSync.ephemerisMet = true ↔ .sessionEphemeris epochId ∈ done
  snapshotMet : s.epochSync.snapshotMet = true ↔
    ∃ snapshot, .linkStateSnapshot snapshot ∈ done ∧ snapshot.epochId = epochId
  buffered : s.epochSync.snapshotMet = true → ∃ snapshot,
    s.epochSync.bufferedSnapshot = some snapshot ∧ .linkStateSnapshot snapshot ∈ done ∧
      snapshot.epochId = epochId

theorem Waiting.ready_iff (h : Waiting config epochId done s) :
    s.epochSync.ReadyForClockResume ↔ DependenciesIn epochId done := by
  simp only [EpochSyncState.ReadyForClockResume, DependenciesIn, h.playing, h.ephemeris,
    h.snapshotMet]

/-! ### Steps -/

/-- Synchronised, with only events of the epoch pending. -/
structure Running (config : SchedulerConfig) (epochId : Nat) (s : Engine) : Prop extends
    Synchronised config epochId s where
  pending : ∀ vis ∈ s.pendingVisibilityEvents, vis.publishedIn = epochId

theorem Running.changed (h : Running config epochId s) (hc : OfEpoch epochId c) :
    Running config epochId (changed config c s) where
  resumed := h.resumed
  epoch := h.epoch
  pending := h.pending
  changes := by
    obtain ⟨snapshot, later, hsnapshot, hepoch, hsince, hlater⟩ := h.changes
    refine ⟨snapshot, later ++ [c], hsnapshot, hepoch, hsince.changed c, ?_⟩
    intro c' hc'
    rcases List.mem_append.mp hc' with hc' | hc'
    · exact hlater c' hc'
    · obtain rfl : c' = c := by simpa using hc'
      exact hc

theorem Running.keep (h : Running config epochId s)
    (hresumed : t.epochSync.suspended = s.epochSync.suspended)
    (hepoch : t.epochSync.expectedEpochId = s.epochSync.expectedEpochId)
    (hchanges : t.changes = s.changes) (hauthority : t.authority = s.authority)
    (hpending : ∀ vis ∈ t.pendingVisibilityEvents, vis.publishedIn = epochId) :
    Running config epochId t where
  resumed := hresumed.trans h.resumed
  epoch := hepoch.trans h.epoch
  pending := hpending
  changes := by
    obtain ⟨snapshot, later, hsnapshot, hsnap, ⟨a, earlier, hcs, ha⟩, hlater⟩ := h.changes
    exact ⟨snapshot, later, hsnapshot, hsnap, ⟨a, earlier, hchanges.trans hcs, hauthority.trans ha⟩,
      hlater⟩

def FitsRunning (epochId : Nat) : Message → Prop
  | .visibility vis => vis.publishedIn = epochId
  | .playbackState _ e => e ≤ epochId
  | .linkStateSnapshot snapshot => snapshot.epochId = epochId
  | _ => True

theorem Running.wp_handleMessage (h : Running config epochId s) (hm : FitsRunning epochId m) :
    wp (handleMessage config epsilonMs actual m) s (fun _ => Running config epochId)
      (fun _ => Running config epochId) := by
  have hresumed : s.epochSync.suspended ≠ true := by simp [h.resumed]
  refine handleMessage_invariant _ h (fun _ _ _ ht => ht.keep rfl rfl rfl rfl ht.pending)
    ?_ ?_ ?_ ?_
  · rintro vis t rfl ht
    refine ht.keep rfl rfl rfl rfl ?_
    intro v hv
    rcases List.mem_append.mp hv with hv | hv
    · exact ht.pending v hv
    · obtain rfl : v = vis := by simpa using hv
      exact hm
  · rintro _ (_ | _ | hsuspended | hsuspended)
    · exact h.keep (by simp) (by simp) rfl rfl h.pending
    · exact h.keep (by simp) (by simp) rfl rfl h.pending
    · exact absurd hsuspended hresumed
    · exact absurd hsuspended hresumed
  · intro t c source happlies ht
    have hchanged : Running config epochId (EngineDeliveries.changed config c t) := by
      refine ht.changed ?_
      obtain _ | ⟨-, rfl | ⟨-, hsuspended⟩⟩ := happlies
      · exact ht.pending
      · exact hm
      · exact absurd hsuspended hresumed
    exact ⟨fun _ _ => hchanged, fun _ _ pending hpending => hchanged.keep rfl rfl rfl rfl
      fun vis hvis => ht.pending vis (hpending hvis)⟩
  · rintro e rfl hlater
    rw [h.epoch] at hlater
    exact absurd hlater (Nat.not_lt.mpr hm)

variable (h : Waiting config epochId done s)

include h

theorem Waiting.ignored
    (hplaying : m ≠ .playbackState .playing epochId) (hephemeris : m ≠ .sessionEphemeris epochId)
    (hsnapshot : ∀ snapshot, m = .linkStateSnapshot snapshot → snapshot.epochId ≠ epochId) :
    Waiting config epochId (done ++ [m]) s where
  suspended := h.suspended
  epoch := h.epoch
  pending := h.pending
  since := h.since
  playing := by simp [h.playing, hplaying.symm]
  ephemeris := by simp [h.ephemeris, hephemeris.symm]
  snapshotMet := by
    rw [h.snapshotMet]
    refine exists_congr fun snapshot => ?_
    simp only [List.mem_append, List.mem_singleton]
    have := hsnapshot snapshot
    tauto
  buffered hmet := by
    obtain ⟨snapshot, hbuffered, hdone, hepoch⟩ := h.buffered hmet
    exact ⟨snapshot, hbuffered, List.mem_append_left _ hdone, hepoch⟩

theorem Waiting.markPlaying : Waiting config epochId (done ++ [.playbackState .playing epochId])
      { s with epochSync := s.epochSync.markPlaying epochId } := by
  have hmark : s.epochSync.markPlaying epochId =
      { s.epochSync with playbackPlayingReceived := true } := by
    simp [EpochSyncState.markPlaying, h.epoch]
  rw [hmark]
  exact { h with
    playing := by simp
    ephemeris := by simp [h.ephemeris]
    snapshotMet := by simp [h.snapshotMet]
    buffered hmet := by simpa using h.buffered hmet }

theorem Waiting.markEphemeris : Waiting config epochId (done ++ [.sessionEphemeris epochId])
      { s with epochSync := s.epochSync.markEphemeris epochId } := by
  have hmark : s.epochSync.markEphemeris epochId =
      { s.epochSync with ephemerisMet := true } := by
    simp [EpochSyncState.markEphemeris, h.epoch]
  rw [hmark]
  exact { h with
    playing := by simp [h.playing]
    ephemeris := by simp
    snapshotMet := by simp [h.snapshotMet]
    buffered hmet := by simpa using h.buffered hmet }

theorem Waiting.bufferSnapshot (hepoch : snapshot.epochId = epochId) :
    Waiting config epochId (done ++ [.linkStateSnapshot snapshot])
      { s with epochSync := s.epochSync.bufferSnapshot snapshot } := by
  have hbuffer : s.epochSync.bufferSnapshot snapshot =
      { s.epochSync with bufferedSnapshot := some snapshot, snapshotMet := true } := by
    simp [EpochSyncState.bufferSnapshot, h.epoch, hepoch]
  have hlast : Message.linkStateSnapshot snapshot ∈ done ++ [.linkStateSnapshot snapshot] := by simp
  rw [hbuffer]
  exact { h with
    playing := by simp [h.playing]
    ephemeris := by simp [h.ephemeris]
    snapshotMet := ⟨fun _ => ⟨snapshot, hlast, hepoch⟩, fun _ => rfl⟩
    buffered _ := ⟨snapshot, rfl, hlast, hepoch⟩ }

theorem Waiting.wp_tryResume {tick : ℚ} (hdeps : DependenciesIn epochId done)
    (hwell : ∀ snapshot, .linkStateSnapshot snapshot ∈ done → WellFormed config snapshot)
    (hnewer : ∀ snapshot, .linkStateSnapshot snapshot ∈ done →
      s.authority.lastSnapshotSeq < snapshot.snapshotSeq) :
    wp (tryResumeOnClockTick config actual (some tick)) s (fun _ => Running config epochId)
      (fun _ => Running config epochId) := by
  obtain ⟨snapshot, hbuffered, hdone, hepoch⟩ := h.buffered (h.snapshotMet.mpr hdeps.2.2)
  let t := changed config (.replaced snapshot)
    { s with epochSync := s.epochSync.resume, currentSimTime := some tick }
  have ht : Running config epochId t := {
    resumed := rfl
    epoch := h.epoch
    pending := by simp [t, changed, h.pending]
    changes := by
      obtain ⟨a, earlier, hchanges, hauthority⟩ := h.since.changed (.replaced snapshot)
      exact ⟨snapshot, [], hwell snapshot hdone, hepoch, ⟨a, earlier, hchanges, hauthority⟩,
        by simp⟩ }
  simp only [tryResumeOnClockTick, wp_bind, wp_get, wp_when, wp_modify, hbuffered]
  refine ⟨fun _ => ?_, fun hmissing => absurd (h.ready_iff.mpr hdeps) hmissing⟩
  rw [wp_applySnapshot]
  exact ⟨fun _ => ⟨fun _ => ht.keep rfl rfl rfl rfl ht.pending, fun _ _ => ht⟩,
    fun hold => absurd (hnewer snapshot hdone) hold⟩

omit h

/-- Where the Scheduler stands since a seek that found the last snapshot sequence at `seq`: it runs
in the epoch once a tick found all dependencies, and waits until then. -/
inductive Phase (config : SchedulerConfig) (epochId seq : Nat) (done : List Message) (s : Engine) :
    Prop
  | waiting (hnone : ¬ ResumingTick epochId done) (hwaiting : Waiting config epochId done s)
      (hseq : s.authority.lastSnapshotSeq = seq)
  | running (htick : ResumingTick epochId done) (hrunning : Running config epochId s)

theorem Phase.wait (hnone : ¬ ResumingTick epochId done)
    (hm : ¬ ((∃ simTime, m = .clockTick (some epochId) simTime) ∧ DependenciesIn epochId done))
    (hwaiting : Waiting config epochId (done ++ [m]) t) (hseq : t.authority.lastSnapshotSeq = seq) :
    Phase config epochId seq (done ++ [m]) t := by
  refine .waiting ?_ hwaiting hseq
  rw [resumingTick_concat]
  exact fun h => h.elim hnone hm

theorem Waiting.wp_handleMessage (h : Waiting config epochId done s)
    (hnone : ¬ ResumingTick epochId done) (hseq : s.authority.lastSnapshotSeq = seq)
    (hsound : Sound config m) (hlatest : ∀ e ∈ publishedEpoch m, e ≤ epochId)
    (hwell : ∀ snapshot, .linkStateSnapshot snapshot ∈ done → WellFormed config snapshot)
    (hnewer : ∀ snapshot, .linkStateSnapshot snapshot ∈ done → seq < snapshot.snapshotSeq) :
    wp (handleMessage config epsilonMs actual m) s
      (fun _ => Phase config epochId seq (done ++ [m]))
      (fun _ => Phase config epochId seq (done ++ [m])) := by
  cases m with
  | visibility vis =>
    have hnext : Phase config epochId seq (done ++ [.visibility vis]) s :=
      .wait hnone (by simp) (h.ignored (by simp) (by simp) (by simp)) hseq
    simp only [handleMessage, handleVisibilityEvent, wp_bind, wp_get, wp_when]
    exact ⟨fun hrunning => absurd (h.suspended.symm.trans hrunning) (by simp), fun _ => hnext⟩
  | clockTick e simTime =>
    obtain ⟨he, htime⟩ := hsound
    obtain ⟨e, rfl⟩ := Option.ne_none_iff_exists'.mp he
    obtain ⟨tick, rfl⟩ := Option.ne_none_iff_exists'.mp htime
    have hignored : Waiting config epochId (done ++ [.clockTick (some e) (some tick)]) s :=
      h.ignored (by simp) (by simp) (by simp)
    simp only [handleMessage, handleClockTickPayload, wp_bind, wp_get, wp_ite, wp_when]
    refine ⟨fun _ => ⟨fun hexpected => ?_, fun hother => ?_⟩, fun hrunning => absurd h.suspended hrunning⟩
    · obtain rfl : e = epochId := hexpected.trans h.epoch
      by_cases hdeps : DependenciesIn e done
      · have hresumed : ResumingTick e (done ++ [.clockTick (some e) (some tick)]) :=
          resumingTick_concat.mpr (.inr ⟨⟨_, rfl⟩, hdeps⟩)
        exact wp_mono (h.wp_tryResume hdeps hwell fun σ hσ => hseq ▸ hnewer σ hσ)
          (fun _ _ => .running hresumed) fun _ _ => .running hresumed
      · simp only [tryResumeOnClockTick, wp_bind, wp_get, wp_when]
        exact ⟨fun hready => absurd (h.ready_iff.mp hready) hdeps,
          fun _ => .wait hnone (fun hm => hdeps hm.2) hignored hseq⟩
    · refine .wait hnone ?_ hignored hseq
      rintro ⟨⟨_, htick⟩, -⟩
      cases htick
      exact hother h.epoch.symm
  | sessionEphemeris e =>
    by_cases he : e = epochId
    · subst he
      exact .wait hnone (by simp) h.markEphemeris hseq
    · have hmark : s.epochSync.markEphemeris e = s.epochSync := by
        simp [EpochSyncState.markEphemeris, h.epoch, he]
      simp only [handleMessage, handleSessionEphemeris, wp_modify, hmark]
      exact .wait hnone (by simp) (h.ignored (by simp) (by simpa using he) (by simp)) hseq
  | playbackState mode e =>
    have hle : e ≤ epochId := hlatest e rfl
    cases mode with
    | seeking =>
      simp only [handleMessage, handlePlaybackState, beginSeekEpoch, wp_bind, wp_get, wp_when]
      refine ⟨fun hlater => absurd (h.epoch ▸ hlater) (Nat.not_lt.mpr hle), fun _ => ?_⟩
      exact .wait hnone (by simp) (h.ignored (by simp) (by simp) (by simp)) hseq
    | playing =>
      by_cases he : e = epochId
      · subst he
        exact .wait hnone (by simp) h.markPlaying hseq
      · have hmark : s.epochSync.markPlaying e = s.epochSync := by
          simp [EpochSyncState.markPlaying, h.epoch, he]
        simp only [handleMessage, handlePlaybackState, wp_modify, hmark]
        exact .wait hnone (by simp) (h.ignored (by simpa using he) (by simp) (by simp)) hseq
    | paused => exact .wait hnone (by simp) (h.ignored (by simp) (by simp) (by simp)) hseq
  | linkStateSnapshot snapshot =>
    simp only [handleMessage, handleLinkStateSnapshot, wp_bind, wp_get, wp_ite, wp_modify]
    refine ⟨fun _ => ?_, fun hrunning => absurd h.suspended hrunning⟩
    by_cases he : snapshot.epochId = epochId
    · exact .wait hnone (by simp) (h.bufferSnapshot he) hseq
    · have hbuffer : s.epochSync.bufferSnapshot snapshot = s.epochSync := by
        simp [EpochSyncState.bufferSnapshot, h.epoch, he]
      rw [hbuffer]
      exact .wait hnone (by simp) (h.ignored (by simp) (by simp) (by simpa using he)) hseq

/-! ### Before the seek -/

/-- A Scheduler in an earlier epoch that has seen no snapshot as late as those to come. -/
structure Earlier (epochId : Nat) (later : List Nat) (s : Engine) : Prop where
  epoch : s.epochSync.expectedEpochId < epochId
  applied : ∀ seq ∈ later, s.authority.lastSnapshotSeq < seq
  buffered : ∀ snapshot ∈ s.epochSync.bufferedSnapshot, ∀ seq ∈ later, snapshot.snapshotSeq < seq

/-- A message that can come before the seek to the epoch and before the snapshots to come. -/
def FitsEarlier (epochId : Nat) (later : List Nat) : Message → Prop
  | .playbackState .seeking e => e < epochId
  | .linkStateSnapshot snapshot => ∀ seq ∈ later, snapshot.snapshotSeq < seq
  | _ => True

section Earlier

variable {later : List Nat}

theorem Earlier.changed (h : Earlier epochId later s)
    (hc : ∀ snapshot, c = .replaced snapshot → ∀ seq ∈ later, snapshot.snapshotSeq < seq) :
    Earlier epochId later (EngineDeliveries.changed config c s) where
  epoch := h.epoch
  buffered := h.buffered
  applied := by
    cases c with
    | cleared e => exact h.applied
    | replaced snapshot =>
      simpa [EngineDeliveries.changed, after_replaced_lastSnapshotSeq] using hc snapshot rfl
    | folded batch =>
      have hsame : SameSnapshot s.authority (Change.after config (.folded batch) s.authority) :=
        sameSnapshot_folded batch s.authority
      simpa [EngineDeliveries.changed, hsame.1] using h.applied

theorem Earlier.wp_handleMessage (h : Earlier epochId later s) (hm : FitsEarlier epochId later m) :
    wp (handleMessage config epsilonMs actual m) s (fun _ => Earlier epochId later)
      (fun _ => Earlier epochId later) := by
  refine handleMessage_invariant _ h (fun _ _ _ ht => ⟨ht.epoch, ht.applied, ht.buffered⟩)
    (fun _ _ _ ht => ⟨ht.epoch, ht.applied, ht.buffered⟩) ?_ ?_ ?_
  · rintro _ (_ | _ | _ | _)
    · exact ⟨by simpa using h.epoch, h.applied, by simpa using h.buffered⟩
    · exact ⟨by simpa using h.epoch, h.applied, by simpa using h.buffered⟩
    · refine ⟨by simpa using h.epoch, h.applied, ?_⟩
      simp only [EpochSyncState.bufferSnapshot]
      split
      · exact h.buffered
      · rintro _ ⟨⟩
        exact hm
    · exact ⟨h.epoch, h.applied, by simp [EpochSyncState.resume]⟩
  · intro t c source happlies ht
    have hchanged : Earlier epochId later (EngineDeliveries.changed config c t) := by
      refine ht.changed ?_
      rintro snapshot rfl
      obtain _ | ⟨-, rfl | ⟨hbuffered, -⟩⟩ := happlies
      · exact hm
      · exact h.buffered snapshot hbuffered
    exact ⟨fun _ _ => hchanged, fun _ _ _ _ => ⟨hchanged.epoch, hchanged.applied,
      hchanged.buffered⟩⟩
  · rintro e rfl -
    exact Earlier.changed ⟨hm, h.applied, by simp⟩ (by simp)

end Earlier

/-! ### Whole seeks -/

theorem wp_seeking (h : s.epochSync.expectedEpochId < epochId) :
    wp (handleMessage config epsilonMs actual (.playbackState .seeking epochId)) s
      (fun _ => Phase config epochId s.authority.lastSnapshotSeq [])
      (fun _ => Phase config epochId s.authority.lastSnapshotSeq []) := by
  refine wp_beginSeekEpoch (fun _ => .waiting ?_ ?_ rfl) fun hnot => absurd h hnot
  · rintro ⟨pre, _, _, hnil, -⟩
    simp at hnil
  · exact {
      suspended := rfl
      epoch := rfl
      pending := rfl
      since := ⟨s.authority, s.changes, rfl, rfl⟩
      playing := by simp [sought]
      ephemeris := by simp [sought]
      snapshotMet := by simp [sought]
      buffered := by simp [sought] }

theorem fitsRunning_of_resumingTick (htick : ResumingTick epochId done)
    (horder : ∀ m' ∈ done, InOrder m' m) (hevents : ∀ m' ∈ done, EventBeforeLaterTick m' m)
    (hlatest : ∀ e ∈ publishedEpoch m, e ≤ epochId) : FitsRunning epochId m := by
  obtain ⟨pre, simTime, post, rfl, -, -, snapshot, hsnapshot, hepoch⟩ := htick
  cases m with
  | visibility vis =>
    have hlater := hevents (.clockTick (some epochId) simTime) (by simp)
    exact Nat.le_antisymm (hlatest _ rfl) hlater
  | playbackState mode e => exact hlatest e rfl
  | linkStateSnapshot snapshot' =>
    have hlater := horder (.linkStateSnapshot snapshot) (by simp [hsnapshot])
    exact Nat.le_antisymm (hlatest _ rfl) (hepoch ▸ hlater.1)
  | clockTick e t => trivial
  | sessionEphemeris e => trivial

theorem Phase.wp_handleMessage (h : Phase config epochId seq done s)
    (hsound : ∀ m' ∈ done ++ [m], Sound config m') (horder : ∀ m' ∈ done, InOrder m' m)
    (hevents : ∀ m' ∈ done, EventBeforeLaterTick m' m)
    (hlatest : ∀ e ∈ publishedEpoch m, e ≤ epochId)
    (hnewer : ∀ snapshot, .linkStateSnapshot snapshot ∈ done → seq < snapshot.snapshotSeq) :
    wp (handleMessage config epsilonMs actual m) s
      (fun _ => Phase config epochId seq (done ++ [m]))
      (fun _ => Phase config epochId seq (done ++ [m])) := by
  cases h with
  | waiting hnone hwaiting hseq =>
    exact hwaiting.wp_handleMessage hnone hseq (hsound m (by simp)) hlatest
      (fun snapshot hdone => hsound _ (List.mem_append_left _ hdone)) hnewer
  | running htick hrunning =>
    have htick' : ResumingTick epochId (done ++ [m]) := resumingTick_concat.mpr (.inl htick)
    exact wp_mono
      (hrunning.wp_handleMessage (fitsRunning_of_resumingTick htick horder hevents hlatest))
      (fun _ _ => .running htick') fun _ _ => .running htick'

theorem earlier_deliverAll {later : List Nat} (h : Earlier epochId later s)
    (hfits : ∀ m ∈ messages deliveries, FitsEarlier epochId later m) :
    Earlier epochId later (deliverAll config epsilonMs s deliveries) := by
  refine runAll_invariant (fun _ => Earlier epochId later) ?_ h
  intro pre d post t hsplit ht
  exact ht.wp_handleMessage (hfits d.message (by simp [messages, hsplit]))

theorem phase_deliverAll (h : Phase config epochId seq [] s)
    (hsound : ∀ m ∈ messages deliveries, Sound config m)
    (horder : (messages deliveries).Pairwise InOrder)
    (hevents : (messages deliveries).Pairwise EventBeforeLaterTick)
    (hlatest : ∀ m ∈ messages deliveries, ∀ e ∈ publishedEpoch m, e ≤ epochId)
    (hnewer : ∀ snapshot, .linkStateSnapshot snapshot ∈ messages deliveries → seq <
      snapshot.snapshotSeq) :
    Phase config epochId seq (messages deliveries) (deliverAll config epsilonMs s deliveries) := by
  refine runAll_invariant (fun done => Phase config epochId seq (messages done)) ?_ h
  intro pre d post t hsplit ht
  have hmessages : messages deliveries = messages pre ++ d.message :: messages post := by
    simp [messages, hsplit]
  rw [hmessages] at hsound horder hevents hlatest hnewer
  have hnext : messages (pre ++ [d]) = messages pre ++ [d.message] := by simp [messages]
  rw [hnext]
  refine ht.wp_handleMessage ?_ ?_ ?_ (hlatest d.message (by simp)) ?_
  · intro m hm
    refine hsound m ?_
    rw [List.append_cons]
    exact List.mem_append_left _ hm
  · intro m hm
    exact (List.pairwise_append.mp horder).2.2 m hm d.message List.mem_cons_self
  · intro m hm
    exact (List.pairwise_append.mp hevents).2.2 m hm d.message List.mem_cons_self
  · intro snapshot hdone
    exact hnewer snapshot (List.mem_append_left _ hdone)

/-- Everything the orbital engine publishes for a seek up to some clock tick of the epoch has
arrived, and a later clock tick of the epoch after it. -/
def SeekDelivered (epochId : Nat) (messages : List Message) : Prop :=
  ∃ pre simTime post, messages = pre ++ .clockTick (some epochId) simTime :: post ∧
    .playbackState .seeking epochId ∈ pre ∧ DependenciesIn epochId pre ∧
    ∃ earlier, .clockTick (some epochId) earlier ∈ pre

/-- The seek was announced before the ephemeris, a snapshot and the playing state that a clock tick
of the epoch then found. -/
def SeekAnnouncedFirst (epochId : Nat) (messages : List Message) : Prop :=
  ∃ pre post, messages = pre ++ .playbackState .seeking epochId :: post ∧ ResumingTick epochId post

def snapshotSeqs (messages : List Message) : List Nat :=
  messages.filterMap fun
    | .linkStateSnapshot snapshot => some snapshot.snapshotSeq
    | _ => none

theorem mem_snapshotSeqs_iff {messages : List Message} : seq ∈ snapshotSeqs messages ↔
      ∃ snapshot, .linkStateSnapshot snapshot ∈ messages ∧ snapshot.snapshotSeq = seq := by
  rw [snapshotSeqs, List.mem_filterMap]
  constructor
  · rintro ⟨m, hm, hseq⟩
    cases m with
    | linkStateSnapshot snapshot => exact ⟨snapshot, hm, by simpa using hseq⟩
    | _ => cases hseq
  · rintro ⟨snapshot, hm, rfl⟩
    exact ⟨_, hm, rfl⟩

theorem fitsEarlier_of_inOrder
    (horder : (pre ++ .playbackState .seeking epochId :: post).Pairwise InOrder) (hm : m ∈ pre) :
    FitsEarlier epochId (snapshotSeqs post) m := by
  have hlater := (List.pairwise_append.mp horder).2.2 m hm
  cases m with
  | playbackState mode e =>
    cases mode with
    | seeking => exact (hlater _ List.mem_cons_self).2 rfl
    | playing => trivial
    | paused => trivial
  | linkStateSnapshot earlier =>
    intro seq hseq
    obtain ⟨snapshot, hsnapshot, rfl⟩ := mem_snapshotSeqs_iff.mp hseq
    exact (hlater _ (List.mem_cons_of_mem _ hsnapshot)).2
  | visibility vis => trivial
  | clockTick e t => trivial
  | sessionEphemeris e => trivial

/-- Where the Scheduler stands once the messages of a seek were delivered, those after the
announcement being `post`. -/
theorem phase_of_seekDelivery (hdelivery : SeekDelivery config epochId s (messages deliveries))
    (hevents : (messages deliveries).Pairwise EventBeforeLaterTick)
    (hsplit : messages deliveries = pre ++ .playbackState .seeking epochId :: post) :
    ∃ seq, Phase config epochId seq post (deliverAll config epsilonMs s deliveries) := by
  obtain ⟨earlier, rest, rfl, hpre, hrest⟩ := List.map_eq_append_iff.mp hsplit
  obtain ⟨seeking, later, rfl, hseeking, hpost⟩ := List.map_eq_cons_iff.mp hrest
  obtain ⟨hbefore, horder, hsound, hlatest, hnewer⟩ := hdelivery
  rw [hsplit] at horder hsound hlatest hnewer hevents
  have hearlier : Earlier epochId (snapshotSeqs post) (deliverAll config epsilonMs s earlier) := by
    have hcoming : ∀ seq ∈ snapshotSeqs post, s.authority.lastSnapshotSeq < seq ∧
        ∀ buffered ∈ s.epochSync.bufferedSnapshot, buffered.snapshotSeq < seq := by
      intro seq hseq
      obtain ⟨snapshot, hsnapshot, rfl⟩ := mem_snapshotSeqs_iff.mp hseq
      exact hnewer snapshot (List.mem_append_right _ (List.mem_cons_of_mem _ hsnapshot))
    refine earlier_deliverAll ⟨hbefore, fun seq hseq => (hcoming seq hseq).1,
      fun snapshot hbuffered seq hseq => (hcoming seq hseq).2 snapshot hbuffered⟩ ?_
    intro m hm
    exact fitsEarlier_of_inOrder horder (hpre ▸ hm)
  have hrun : deliverAll config epsilonMs s (earlier ++ seeking :: later) =
      deliverAll config epsilonMs ((handleMessage config epsilonMs seeking.actual
        seeking.message).exec (deliverAll config epsilonMs s earlier)).2 later := runAll_append ..
  rw [hrun]
  have hphase := wp_exec (hseeking ▸ wp_seeking hearlier.epoch :
    wp (handleMessage config epsilonMs seeking.actual seeking.message) _ _ _)
  rw [List.pairwise_append, List.pairwise_cons] at horder hevents
  change messages later = post at hpost
  rw [← hpost]
  refine ⟨_, phase_deliverAll hphase ?_ ?_ ?_ ?_ ?_⟩ <;> rw [hpost]
  · exact fun m hm => hsound m (by simp [hm])
  · exact horder.2.1.2
  · exact hevents.2.1.2
  · exact fun m hm => hlatest m (by simp [hm])
  · exact fun snapshot hm => hearlier.applied _ (mem_snapshotSeqs_iff.mpr ⟨snapshot, hm, rfl⟩)

/-- When no event follows a clock tick of a later epoch, a seek synchronises exactly when its
announcement arrives before the ephemeris and a snapshot that a clock tick of the epoch finds. -/
theorem seek_synchronised_iff {deliveries : List Delivery}
    (hdelivery : SeekDelivery config epochId s (messages deliveries))
    (hdelivered : SeekDelivered epochId (messages deliveries))
    (hevents : (messages deliveries).Pairwise EventBeforeLaterTick) :
    Synchronised config epochId (deliverAll config epsilonMs s deliveries) ↔
      SeekAnnouncedFirst epochId (messages deliveries) := by
  constructor
  · intro hsynchronised
    obtain ⟨before, simTime, after, hmessages, hseeking, -, -⟩ := hdelivered
    obtain ⟨pre, post, hpre⟩ := List.append_of_mem hseeking
    have hsplit : messages deliveries = pre ++ .playbackState .seeking epochId ::
        (post ++ .clockTick (some epochId) simTime :: after) := by simp [hmessages, hpre]
    refine ⟨pre, _, hsplit, ?_⟩
    obtain ⟨seq, hphase⟩ : ∃ seq, Phase config epochId seq _
        (deliverAll config epsilonMs s deliveries) := phase_of_seekDelivery hdelivery hevents hsplit
    cases hphase with
    | waiting hnone hwaiting hseq =>
      exact absurd (hwaiting.suspended.symm.trans hsynchronised.resumed) (by simp)
    | running htick hrunning => exact htick
  · rintro ⟨pre, post, hsplit, htick⟩
    obtain ⟨seq, hphase⟩ := phase_of_seekDelivery hdelivery hevents hsplit
    cases hphase with
    | waiting hnone hwaiting hseq => exact absurd htick hnone
    | running htick hrunning => exact hrunning.toSynchronised

/-! ### A seek of one inter-satellite link -/

/-- The messages of the first seek, the ephemeris before or after the announcement. -/
def firstSeek (announcement : List Message) : List Delivery :=
  (announcement ++ [Message.linkStateSnapshot (linkUpSnapshot 1 1 0), .playbackState .playing 1,
    .clockTick (some 1) (some 0), .clockTick (some 1) (some 1)]).map fun message =>
      { message, actual := [] }

theorem seekDelivery_firstSeek {announcement : List Message}
    (h : announcement = [.sessionEphemeris 1, .playbackState .seeking 1] ∨
      announcement = [.playbackState .seeking 1, .sessionEphemeris 1]) :
    SeekDelivery twoSatellites 1 freshEngine (messages (firstSeek announcement)) ∧
    SeekDelivered 1 (messages (firstSeek announcement)) ∧
    (messages (firstSeek announcement)).Pairwise EventBeforeLaterTick := by
  have hmessages : messages (firstSeek announcement) = (announcement ++
      [.linkStateSnapshot (linkUpSnapshot 1 1 0), .playbackState .playing 1,
        .clockTick (some 1) (some 0)]) ++ .clockTick (some 1) (some 1) :: [] := by
    simp [messages, firstSeek, Function.comp_def]
  refine ⟨⟨by decide, ?_, ?_, ?_, ?_⟩, ⟨_, _, _, hmessages, ?_⟩, ?_⟩
  · rcases h with rfl | rfl <;> simp [hmessages, InOrder]
  · intro m hm
    have hwell := wellFormed_linkUpSnapshot 1 1 0
    rcases h with rfl | rfl <;> simp [hmessages] at hm <;>
      rcases hm with rfl | rfl | rfl | rfl | rfl | rfl <;> simp [Sound, hwell]
  · rcases h with rfl | rfl <;> simp [hmessages, publishedEpoch, linkUpSnapshot]
  · intro snapshot hsnapshot
    have hfirst : snapshot = linkUpSnapshot 1 1 0 := by
      rcases h with rfl | rfl <;> simpa [hmessages] using hsnapshot
    subst hfirst
    exact ⟨by decide, by simp [freshEngine]⟩
  · rcases h with rfl | rfl <;> simp [DependenciesIn, linkUpSnapshot]
  · rcases h with rfl | rfl <;> simp [hmessages, EventBeforeLaterTick]

/-- The ephemeris overtakes the announcement of the seek: the Scheduler drops it and stays
suspended although every message of the seek arrived. -/
theorem overtaken_seek_not_synchronised :
    let seek := firstSeek [.sessionEphemeris 1, .playbackState .seeking 1]
    SeekDelivery twoSatellites 1 freshEngine (messages seek) ∧
    SeekDelivered 1 (messages seek) ∧
    (messages seek).Pairwise EventBeforeLaterTick ∧
    (deliverAll twoSatellites 100 freshEngine seek).epochSync.suspended = true ∧
    ¬ Synchronised twoSatellites 1 (deliverAll twoSatellites 100 freshEngine seek) := by
  obtain ⟨hdelivery, hdelivered, hevents⟩ := seekDelivery_firstSeek (.inl rfl)
  have hsuspended : (deliverAll twoSatellites 100 freshEngine
      (firstSeek [.sessionEphemeris 1, .playbackState .seeking 1])).epochSync.suspended = true := by
    decide +kernel
  refine ⟨hdelivery, hdelivered, hevents, hsuspended, ?_⟩
  intro hsynchronised
  exact absurd (hsuspended.symm.trans hsynchronised.resumed) (by simp)

theorem announced_seek_synchronised :
    let seek := firstSeek [.playbackState .seeking 1, .sessionEphemeris 1]
    SeekAnnouncedFirst 1 (messages seek) ∧
    Synchronised twoSatellites 1 (deliverAll twoSatellites 100 freshEngine seek) := by
  obtain ⟨hdelivery, hdelivered, hevents⟩ := seekDelivery_firstSeek (.inr rfl)
  have hfirst : SeekAnnouncedFirst 1
      (messages (firstSeek [.playbackState .seeking 1, .sessionEphemeris 1])) := by
    refine ⟨[], _, rfl, [.sessionEphemeris 1, .linkStateSnapshot (linkUpSnapshot 1 1 0),
      .playbackState .playing 1], _, _, rfl, ?_⟩
    simp [DependenciesIn, linkUpSnapshot]
  exact ⟨hfirst, (seek_synchronised_iff hdelivery hdelivered hevents).mpr hfirst⟩

end NodalArc.SeekSynchronisation
