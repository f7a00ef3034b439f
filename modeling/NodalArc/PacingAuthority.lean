import NodalArc.StatefulProgram

/-! The pacing loop of the OME and the publisher behind it.  The loop puts messages on a queue, the
publisher delivers them in order, and a crash loses what is still queued; a restarted OME goes on
from the last checkpoint that was delivered. -/

namespace NodalArc.PacingAuthority

open StatefulProgram
open StatefulProgram.Program

variable {step epochId : Nat} {recovered : Bool}

/-- The retained scheduling state: the committed step and the sequence last published. -/
structure Checkpoint where
  epochId : Nat
  step : Nat
  snapshotSeq : Nat
  paused : Bool
deriving DecidableEq

inductive Message
  | sessionEphemeris (epochId : Nat)
  | bodySamples (epochId step : Nat)
  | visibilityEvent (step : Nat)
  | clockTick (epochId step : Nat)
  | linkStateSnapshot (seq epochId step : Nat)
  | linkDecisionSnapshot (seq epochId step : Nat)
  | mbbLifecycle (seq epochId step : Nat)
  | checkpoint (ckpt : Checkpoint)
  | replayAnchor (epochId step : Nat)
  | playbackState (epochId : Nat) (paused : Bool)
deriving DecidableEq

def Message.snapshotSeq? : Message → Option Nat
  | .linkStateSnapshot seq _ _ => some seq
  | _ => none

def Message.checkpoint? : Message → Option Checkpoint
  | .checkpoint ckpt => some ckpt
  | _ => none

structure PacingConfig where
  stepSeconds : ℚ
  snapshotIntervalS : ℚ
  anchorIntervalTicks : Nat

/-- What the pacing loop reads of a committed step: how many visibility and lifecycle events it
has, and whether its sim time has reached the next body-sample window. -/
structure StepResult where
  step : Nat
  visibilityEvents : Nat
  lifecycleEvents : Nat
  bodyWindowDue : Bool

variable {result : StepResult}

/-- The variables of the pacing loop, with what it queued. -/
structure Pacing where
  epochId : Nat
  activeEpochId : Nat
  seekPending : Bool
  paused : Bool
  step : Nat
  snapshotSeq : Nat
  lastSnapshotSimS : ℚ
  forceFirstSnapshot : Bool
  lastStep : Nat
  lastEpochId : Nat
  queue : List Message

variable {p : Pacing}

inductive PacingError
  | unpublishedSnapshotSeq
deriving DecidableEq

abbrev PacingM := Program PacingError Pacing

/-! ### Publication -/

def enqueue (messages : List Message) : PacingM Unit :=
  modify fun p => { p with queue := p.queue ++ messages }

variable (config : PacingConfig)

/-- The paired snapshots of a committed step, under the next sequence. -/
def publishLinkAuthority (step epochId : Nat) : PacingM Unit := do
  modify fun p => { p with snapshotSeq := p.snapshotSeq + 1 }
  let p ← get
  enqueue [.linkStateSnapshot p.snapshotSeq epochId step]
  enqueue [.linkDecisionSnapshot p.snapshotSeq epochId step]
  modify fun p =>
    { p with lastSnapshotSimS := step * config.stepSeconds, forceFirstSnapshot := false }

def publishMbbLifecycleEvents (result : StepResult) (epochId : Nat) : PacingM Unit := do
  let p ← get
  enqueue (List.replicate result.lifecycleEvents (.mbbLifecycle p.snapshotSeq epochId result.step))

def publishEpochInvalidationLifecycleEvents (teardowns : Nat) : PacingM Unit := do
  let p ← get
  enqueue (List.replicate teardowns (.mbbLifecycle p.snapshotSeq p.activeEpochId (p.step - 1)))

def publishCheckpoint (step epochId : Nat) : PacingM Unit := do
  let p ← get
  require (0 < p.snapshotSeq) .unpublishedSnapshotSeq
  enqueue [.checkpoint { epochId, step, snapshotSeq := p.snapshotSeq, paused := p.paused }]

/-- The first messages of a session or of a restarted one. -/
def commitStart (recovered : Bool) (result : StepResult) : PacingM Unit := do
  let p ← get
  enqueue [.sessionEphemeris p.epochId, .bodySamples p.epochId result.step]
  publishLinkAuthority config result.step p.epochId
  «when» (recovered = false) (publishMbbLifecycleEvents result p.epochId)
  publishCheckpoint result.step p.epochId
  enqueue [.playbackState p.epochId p.paused]
  «when» (p.paused = false) (enqueue [.clockTick p.epochId result.step])
  modify fun p =>
    { p with
      activeEpochId := p.epochId, step := result.step + 1
      lastStep := result.step, lastEpochId := p.epochId }

/-- One tick.  A step whose epoch a seek has ended meanwhile is abandoned. -/
def tick (result : StepResult) : PacingM Unit := do
  let p ← get
  «when» (p.seekPending = false ∧ p.paused = false) do
    enqueue (List.replicate result.visibilityEvents (.visibilityEvent p.step))
    enqueue [.clockTick p.epochId p.step]
    «when» (result.bodyWindowDue = true) (enqueue [.bodySamples p.epochId p.step])
    «when» (config.snapshotIntervalS ≤ p.step * config.stepSeconds - p.lastSnapshotSimS ∨
        p.forceFirstSnapshot = true ∨ 0 < result.lifecycleEvents)
      (publishLinkAuthority config p.step p.epochId)
    publishMbbLifecycleEvents { result with step := p.step } p.epochId
    publishCheckpoint p.step p.epochId
    «when» (p.step % config.anchorIntervalTicks = 0) (enqueue [.replayAnchor p.epochId p.step])
    modify fun p => { p with step := p.step + 1, lastStep := p.step, lastEpochId := p.epochId }

/-- Take a pending seek.  One that a newer seek overtook publishes nothing of its own. -/
def takeSeek (teardowns : Nat) (overtaken : Bool) (result : StepResult) : PacingM Unit := do
  let p ← get
  «when» (p.seekPending = true) do
    publishEpochInvalidationLifecycleEvents teardowns
    modify fun p => { p with paused := false, step := 0, forceFirstSnapshot := false }
    «when» (overtaken = false) do
      modify fun p => { p with seekPending := false }
      enqueue [.sessionEphemeris p.epochId, .bodySamples p.epochId 0]
      publishLinkAuthority config 0 p.epochId
      publishMbbLifecycleEvents { result with step := 0 } p.epochId
      publishCheckpoint 0 p.epochId
      enqueue [.playbackState p.epochId false, .clockTick p.epochId 0]
      modify fun p =>
        { p with activeEpochId := p.epochId, step := 1, lastStep := 0, lastEpochId := p.epochId }

/-- A pause, a resume or a change of speed commits the last step again. -/
def commitTransition : PacingM Unit := do
  let p ← get
  publishCheckpoint p.lastStep p.lastEpochId

def pauseAtCoverageEnd : PacingM Unit := do
  let p ← get
  «when» (p.seekPending = false) do
    modify fun p => { p with paused := true }
    enqueue [.playbackState p.epochId true]

/-! ### The process and the stream -/

/-- The running process, if there is one, and everything delivered on the stream. -/
structure World where
  running : Option Pacing
  delivered : List Message

variable {w : World}

def retained? (delivered : List Message) : Option Checkpoint :=
  (delivered.filterMap Message.checkpoint?).getLast?

def snapshotSeqs (messages : List Message) : List Nat := messages.filterMap Message.snapshotSeq?

/-- The loop's variables before its first step is committed. -/
def startingFrom (ckpt? : Option Checkpoint) : Pacing where
  epochId := ckpt?.elim 0 Checkpoint.epochId
  activeEpochId := 0
  seekPending := false
  paused := ckpt?.elim false Checkpoint.paused
  step := ckpt?.elim 0 Checkpoint.step
  snapshotSeq := ckpt?.elim 0 Checkpoint.snapshotSeq
  lastSnapshotSimS := -config.snapshotIntervalS
  forceFirstSnapshot := true
  lastStep := 0
  lastEpochId := 0
  queue := []

def deliver (p : Pacing) (delivered : List Message) : World :=
  match p.queue with
  | [] => ⟨some p, delivered⟩
  | message :: queue => ⟨some { p with queue }, delivered ++ [message]⟩

def runProgram (m : PacingM Unit) (p : Pacing) (delivered : List Message) : World :=
  match m.exec p with
  | (.ok _, p) => ⟨some p, delivered⟩
  | (.error _, _) => ⟨none, delivered⟩

/-- Start the OME.  A checkpoint that was never published under a sequence is refused; the step
committed first is the checkpoint's, or step zero. -/
def start (result : StepResult) (delivered : List Message) : World :=
  let ckpt? := retained? delivered
  let p := startingFrom config ckpt?
  if ckpt?.map Checkpoint.snapshotSeq = some 0 then ⟨none, delivered⟩
  else runProgram (commitStart config ckpt?.isSome { result with step := p.step }) p delivered

inductive Action
  | start (result : StepResult)
  | tick (result : StepResult)
  | acceptSeek
  | acceptPause
  | acceptResume
  | takeSeek (teardowns : Nat) (overtaken : Bool) (result : StepResult)
  | commitTransition
  | pauseAtCoverageEnd
  | deliver
  | crash

variable {action : Action}

/-- Commands of the operator change the loop's flags at once. -/
def pacingProgram : Action → PacingM Unit
  | .tick result => tick config result
  | .acceptSeek => modify fun p =>
      { p with epochId := p.epochId + 1, seekPending := true, paused := false }
  | .acceptPause => do
      let p ← get
      «when» (p.seekPending = false) (modify fun p => { p with paused := true })
  | .acceptResume => do
      let p ← get
      «when» (p.seekPending = false) (modify fun p => { p with paused := false })
  | .takeSeek teardowns overtaken result => takeSeek config teardowns overtaken result
  | .commitTransition => commitTransition
  | .pauseAtCoverageEnd => pauseAtCoverageEnd
  | .start _ | .deliver | .crash => pure ()

def act (w : World) (action : Action) : World :=
  match w.running with
  | none =>
      match action with
      | .start result => start config result w.delivered
      | _ => w
  | some p =>
      match action with
      | .crash => ⟨none, w.delivered⟩
      | .deliver => deliver p w.delivered
      | action => runProgram (pacingProgram config action) p w.delivered

def fresh : World := ⟨none, []⟩

/-! ### Stamps in order -/

/-- A later snapshot has a larger sequence, a later checkpoint has seen every earlier one. -/
def InOrder : Message → Message → Prop
  | .linkStateSnapshot seq _ _, .linkStateSnapshot later _ _ => seq < later
  | .linkStateSnapshot seq _ _, .checkpoint later => seq ≤ later.snapshotSeq
  | .checkpoint ckpt, .linkStateSnapshot later _ _ => ckpt.snapshotSeq < later
  | .checkpoint ckpt, .checkpoint later => ckpt.snapshotSeq ≤ later.snapshotSeq
  | _, _ => True

/-- A message stamped while the sequence went from `low` to `high`. -/
def StampedIn (low high : Nat) : Message → Prop
  | .linkStateSnapshot seq _ _ => low < seq ∧ seq ≤ high
  | .checkpoint ckpt => low ≤ ckpt.snapshotSeq ∧ ckpt.snapshotSeq ≤ high ∧ 0 < ckpt.snapshotSeq
  | _ => True

structure Stamped (low high : Nat) (messages : List Message) : Prop where
  bounds : low ≤ high
  range : ∀ message ∈ messages, StampedIn low high message
  order : messages.Pairwise InOrder

variable {config : PacingConfig} {low mid high : Nat} {message later : Message}
    {messages more : List Message}

theorem inOrder_of_stampedIn (h : StampedIn low mid message) (hlater : StampedIn mid high later) :
    InOrder message later := by
  cases message <;> cases later <;> simp only [InOrder, StampedIn] at * <;> omega

theorem StampedIn.mono {low' high' : Nat} (h : StampedIn low high message) (hlow : low' ≤ low)
    (hhigh : high ≤ high') : StampedIn low' high' message := by
  cases message <;> simp only [StampedIn] at * <;> omega

namespace Stamped

theorem nil : Stamped low low [] := ⟨le_rfl, nofun, .nil⟩

theorem append (h : Stamped low mid messages) (hmore : Stamped mid high more) :
    Stamped low high (messages ++ more) where
  bounds := h.bounds.trans hmore.bounds
  range message hmem := by
    rcases List.mem_append.mp hmem with hmem | hmem
    · exact (h.range message hmem).mono le_rfl hmore.bounds
    · exact (hmore.range message hmem).mono h.bounds le_rfl
  order := List.pairwise_append.mpr ⟨h.order, hmore.order, fun message hmem later hlater =>
    inOrder_of_stampedIn (h.range message hmem) (hmore.range later hlater)⟩

theorem of_append_left (h : Stamped low high (messages ++ more)) : Stamped low high messages :=
  ⟨h.bounds, fun message hmem => h.range message (List.mem_append_left _ hmem),
    (List.pairwise_append.mp h.order).1⟩

end Stamped

/-! ### What the loop queues -/

def Queues (p q : Pacing) : Prop :=
  ∃ messages, q.queue = p.queue ++ messages ∧ Stamped p.snapshotSeq q.snapshotSeq messages

instance : Std.Refl Queues where
  refl _ := ⟨[], (List.append_nil _).symm, .nil⟩

instance : IsTrans Pacing Queues where
  trans := by
    rintro p q r ⟨messages, hqueue, hstamped⟩ ⟨more, hmore, hmorestamped⟩
    exact ⟨messages ++ more, by rw [hmore, hqueue, List.append_assoc], hstamped.append hmorestamped⟩

def Unstamped (message : Message) : Prop :=
  message.snapshotSeq? = none ∧ message.checkpoint? = none

theorem stamped_of_unstamped (h : ∀ message ∈ messages, Unstamped message) :
    Stamped low low messages where
  bounds := le_rfl
  range message hmem := by
    have hnone := h message hmem
    cases message <;> simp [Unstamped, Message.snapshotSeq?, Message.checkpoint?, StampedIn] at *
  order := by
    refine List.Pairwise.imp_of_mem ?_ (List.pairwise_of_forall (R := fun _ _ => True) (fun _ _ => trivial))
    intro message later hmem _ _
    have hnone := h message hmem
    cases message <;> simp [Unstamped, Message.snapshotSeq?, Message.checkpoint?, InOrder] at *

theorem queues_of_fields {f : Pacing → Pacing} (hqueue : ∀ p, (f p).queue = p.queue)
    (hseq : ∀ p, (f p).snapshotSeq = p.snapshotSeq) :
    Within Queues (modify f : PacingM Unit) := by
  refine within_modify fun p => ⟨[], by rw [hqueue, List.append_nil], ?_⟩
  rw [hseq]
  exact .nil

theorem queues_enqueue (h : ∀ message ∈ messages, Unstamped message) :
    Within Queues (enqueue messages) :=
  within_modify fun _ => ⟨messages, rfl, stamped_of_unstamped h⟩

theorem queues_publishLinkAuthority :
    Within Queues (publishLinkAuthority config step epochId) := by
  intro p
  simp only [publishLinkAuthority, enqueue, wp_bind, wp_modify, wp_get]
  refine ⟨[.linkStateSnapshot (p.snapshotSeq + 1) epochId step,
    .linkDecisionSnapshot (p.snapshotSeq + 1) epochId step], by simp, Nat.le_succ _, ?_, ?_⟩
  · simp [StampedIn]
  · simp [InOrder]

theorem queues_publishCheckpoint : Within Queues (publishCheckpoint step epochId) := by
  intro p
  simp only [publishCheckpoint, enqueue, wp_bind, wp_get, wp_require, wp_modify]
  refine ⟨fun hpublished => ⟨_, rfl, le_rfl, ?_, List.pairwise_singleton _ _⟩,
    fun _ => Std.Refl.refl p⟩
  simpa [StampedIn] using hpublished

theorem queues_publishMbbLifecycleEvents :
    Within Queues (publishMbbLifecycleEvents result epochId) := by
  refine within_bind within_get fun p => queues_enqueue fun message hmem => ?_
  rw [List.eq_of_mem_replicate hmem]
  exact ⟨rfl, rfl⟩

theorem queues_tick : Within Queues (tick config result) := by
  refine within_bind within_get fun p => within_when fun _ => ?_
  refine within_bind (queues_enqueue ?_) fun _ => within_bind (queues_enqueue ?_) fun _ =>
    within_bind (within_when fun _ => queues_enqueue ?_) fun _ =>
    within_bind (within_when fun _ => queues_publishLinkAuthority) fun _ =>
    within_bind queues_publishMbbLifecycleEvents fun _ =>
    within_bind queues_publishCheckpoint fun _ =>
    within_bind (within_when fun _ => queues_enqueue ?_) fun _ => ?_
  · intro message hmem
    rw [List.eq_of_mem_replicate hmem]
    exact ⟨rfl, rfl⟩
  · simp [Unstamped, Message.snapshotSeq?, Message.checkpoint?]
  · simp [Unstamped, Message.snapshotSeq?, Message.checkpoint?]
  · simp [Unstamped, Message.snapshotSeq?, Message.checkpoint?]
  · exact queues_of_fields (fun _ => rfl) fun _ => rfl

theorem queues_takeSeek {teardowns : Nat} {overtaken : Bool} :
    Within Queues (takeSeek config teardowns overtaken result) := by
  have hinvalidated : Within Queues (publishEpochInvalidationLifecycleEvents teardowns) := by
    refine within_bind within_get fun p => queues_enqueue fun message hmem => ?_
    rw [List.eq_of_mem_replicate hmem]
    exact ⟨rfl, rfl⟩
  refine within_bind within_get fun p => within_when fun _ => within_bind hinvalidated fun _ =>
    within_bind (queues_of_fields (fun _ => rfl) fun _ => rfl) fun _ => within_when fun _ => ?_
  refine within_bind (queues_of_fields (fun _ => rfl) fun _ => rfl) fun _ =>
    within_bind (queues_enqueue ?_) fun _ =>
    within_bind queues_publishLinkAuthority fun _ =>
    within_bind queues_publishMbbLifecycleEvents fun _ =>
    within_bind queues_publishCheckpoint fun _ =>
    within_bind (queues_enqueue ?_) fun _ => ?_
  · simp [Unstamped, Message.snapshotSeq?, Message.checkpoint?]
  · simp [Unstamped, Message.snapshotSeq?, Message.checkpoint?]
  · exact queues_of_fields (fun _ => rfl) fun _ => rfl

theorem queues_commitStart : Within Queues (commitStart config recovered result) := by
  refine within_bind within_get fun p => within_bind (queues_enqueue ?_) fun _ =>
    within_bind queues_publishLinkAuthority fun _ =>
    within_bind (within_when fun _ => queues_publishMbbLifecycleEvents) fun _ =>
    within_bind queues_publishCheckpoint fun _ =>
    within_bind (queues_enqueue ?_) fun _ =>
    within_bind (within_when fun _ => queues_enqueue ?_) fun _ => ?_
  · simp [Unstamped, Message.snapshotSeq?, Message.checkpoint?]
  · simp [Unstamped, Message.snapshotSeq?, Message.checkpoint?]
  · simp [Unstamped, Message.snapshotSeq?, Message.checkpoint?]
  · exact queues_of_fields (fun _ => rfl) fun _ => rfl

theorem queues_pacingProgram : Within Queues (pacingProgram config action) := by
  have hfields {f : Pacing → Pacing} (hqueue : ∀ p, (f p).queue = p.queue)
      (hseq : ∀ p, (f p).snapshotSeq = p.snapshotSeq) :
      Within Queues (do let p ← get; «when» (p.seekPending = false) (modify f) : PacingM Unit) :=
    within_bind within_get fun _ => within_when fun _ => queues_of_fields hqueue hseq
  cases action with
  | tick result => exact queues_tick
  | acceptSeek => exact queues_of_fields (fun _ => rfl) fun _ => rfl
  | acceptPause => exact hfields (fun _ => rfl) fun _ => rfl
  | acceptResume => exact hfields (fun _ => rfl) fun _ => rfl
  | takeSeek teardowns overtaken result => exact queues_takeSeek
  | commitTransition => exact within_bind within_get fun _ => queues_publishCheckpoint
  | pauseAtCoverageEnd =>
    refine within_bind within_get fun _ => within_when fun _ =>
      within_bind (queues_of_fields (fun _ => rfl) fun _ => rfl) fun _ => queues_enqueue ?_
    simp [Unstamped, Message.snapshotSeq?, Message.checkpoint?]
  | start _ => exact within_pure
  | deliver => exact within_pure
  | crash => exact within_pure

theorem returns_pacingProgram (h : 0 < p.snapshotSeq) :
    wp (pacingProgram config action) p (fun _ _ => True) (fun _ _ => False) := by
  cases action with
  | tick result =>
    simp [pacingProgram, tick, enqueue, publishLinkAuthority, publishMbbLifecycleEvents,
      publishCheckpoint, h.ne']
  | takeSeek teardowns overtaken result =>
    simp [pacingProgram, takeSeek, enqueue, publishLinkAuthority, publishMbbLifecycleEvents,
      publishEpochInvalidationLifecycleEvents, publishCheckpoint]
  | commitTransition => simp [pacingProgram, commitTransition, publishCheckpoint, enqueue, h.ne']
  | pauseAtCoverageEnd => simp [pacingProgram, pauseAtCoverageEnd, enqueue]
  | acceptSeek | acceptPause | acceptResume | start | deliver | crash => simp [pacingProgram]

theorem returns_commitStart :
    wp (commitStart config recovered result) p (fun _ q => 0 < q.snapshotSeq ∧
      .linkStateSnapshot (p.snapshotSeq + 1) p.epochId result.step ∈ q.queue)
      (fun _ _ => False) := by
  simp [commitStart, enqueue, publishLinkAuthority, publishMbbLifecycleEvents, publishCheckpoint]

/-! ### Runs -/

variable {delivered : List Message}

def retainedSeq (delivered : List Message) : Nat :=
  (retained? delivered).elim 0 Checkpoint.snapshotSeq

def sinceCheckpoint (delivered : List Message) : List Message :=
  delivered.reverse.takeWhile fun message => message.checkpoint? = none

def Settled (delivered : List Message) : Prop := snapshotSeqs (sinceCheckpoint delivered) = []

instance : Decidable (Settled delivered) := inferInstanceAs (Decidable (_ = _))

def SettledCrash (w : World) : Action → Prop
  | .crash => Settled w.delivered
  | _ => True

/-- Everything delivered and queued is stamped in order, up to the sequence of the loop or, without
one, to the sequence a restart goes on from. -/
def Ordered (w : World) : Prop :=
  match w.running with
  | some p => 0 < p.snapshotSeq ∧ Stamped 0 p.snapshotSeq (w.delivered ++ p.queue)
  | none => Stamped 0 (retainedSeq w.delivered) w.delivered

theorem checkpoint?_of_since (h : message ∈ sinceCheckpoint delivered) : message.checkpoint? = none :=
  of_decide_eq_true (List.all_eq_true.mp List.all_takeWhile message h)

theorem retained_cases (delivered : List Message) :
    (delivered = (sinceCheckpoint delivered).reverse ∧ retained? delivered = none) ∨
      ∃ earlier ckpt, delivered = earlier ++ .checkpoint ckpt :: (sinceCheckpoint delivered).reverse ∧
        retained? delivered = some ckpt := by
  have hnone : (sinceCheckpoint delivered).filterMap Message.checkpoint? = [] :=
    List.filterMap_eq_nil_iff.mpr fun _ => checkpoint?_of_since
  have hretained : retained? delivered = (delivered.reverse.filterMap Message.checkpoint?).head? := by
    rw [retained?, List.getLast?_eq_head?_reverse, List.filterMap_reverse]
  have hsplit : delivered.reverse = sinceCheckpoint delivered ++
      delivered.reverse.dropWhile fun message => message.checkpoint? = none :=
    List.takeWhile_append_dropWhile.symm
  have horiginal {rest : List Message} (h : delivered.reverse = sinceCheckpoint delivered ++ rest) :
      delivered = rest.reverse ++ (sinceCheckpoint delivered).reverse := by
    rw [← List.reverse_append, ← h, List.reverse_reverse]
  cases hrest : delivered.reverse.dropWhile fun message => message.checkpoint? = none with
  | nil =>
    rw [hrest] at hsplit
    refine .inl ⟨horiginal hsplit, ?_⟩
    rw [hretained, hsplit, List.append_nil, hnone]
    rfl
  | cons message earlier =>
    rw [hrest] at hsplit
    have hstop : ¬ message.checkpoint? = none := by
      have hhead := List.head_dropWhile_not (fun message : Message => message.checkpoint? = none)
        (ne_of_eq_of_ne hrest (List.cons_ne_nil message earlier))
      simpa [hrest] using hhead
    cases message with
    | checkpoint ckpt =>
      refine .inr ⟨earlier.reverse, ckpt, ?_, ?_⟩
      · exact (horiginal hsplit).trans (by rw [List.reverse_cons, List.append_assoc]; rfl)
      · rw [hretained, hsplit, List.filterMap_append, hnone]
        rfl
    | _ => exact absurd rfl hstop

theorem retainedSeq_lt_iff (h : Stamped 0 high delivered) {seq : Nat}
    (hmem : .linkStateSnapshot seq epochId step ∈ delivered) :
    retainedSeq delivered < seq ↔ .linkStateSnapshot seq epochId step ∈ sinceCheckpoint delivered := by
  have hrange := h.range _ hmem
  rcases retained_cases delivered with ⟨hsplit, hnone⟩ | ⟨earlier, ckpt, hsplit, hsome⟩
  · rw [retainedSeq, hnone]
    refine iff_of_true hrange.1 ?_
    rw [hsplit] at hmem
    exact List.mem_reverse.mp hmem
  · rw [retainedSeq, hsome]
    have horder := h.order
    rw [hsplit] at horder
    obtain ⟨-, hafter, hbefore⟩ := List.pairwise_append.mp horder
    constructor
    · intro hlt
      rw [hsplit] at hmem
      rcases List.mem_append.mp hmem with hearlier | hmem
      · exact absurd (hbefore _ hearlier _ List.mem_cons_self) (Nat.not_le.mpr hlt)
      · exact List.mem_reverse.mp ((List.mem_cons.mp hmem).resolve_left nofun)
    · exact fun hsince => (List.pairwise_cons.mp hafter).1 _ (List.mem_reverse.mpr hsince)

theorem le_retainedSeq {ckpt : Checkpoint} (h : delivered.Pairwise InOrder)
    (hckpt : .checkpoint ckpt ∈ delivered) : ckpt.snapshotSeq ≤ retainedSeq delivered := by
  have hnot : .checkpoint ckpt ∉ sinceCheckpoint delivered := fun hsince =>
    nomatch checkpoint?_of_since hsince
  rcases retained_cases delivered with ⟨hsplit, -⟩ | ⟨earlier, latest, hsplit, hsome⟩
  · rw [hsplit] at hckpt
    exact absurd (List.mem_reverse.mp hckpt) hnot
  · rw [retainedSeq, hsome]
    rw [hsplit] at h hckpt
    rcases List.mem_append.mp hckpt with hearlier | hckpt
    · exact (List.pairwise_append.mp h).2.2 _ hearlier _ List.mem_cons_self
    · rcases List.mem_cons.mp hckpt with heq | hsince
      · rw [Message.checkpoint.inj heq]
        exact le_rfl
      · exact absurd (List.mem_reverse.mp hsince) hnot

theorem stamped_of_settled (h : Stamped 0 high delivered) (hsettled : Settled delivered) :
    Stamped 0 (retainedSeq delivered) delivered where
  bounds := Nat.zero_le _
  range message hmem := by
    have hrange := h.range message hmem
    cases message with
    | linkStateSnapshot seq epochId step =>
      refine ⟨hrange.1, Nat.not_lt.mp fun hlt => ?_⟩
      have hsince := (retainedSeq_lt_iff h hmem).mp hlt
      exact nomatch List.filterMap_eq_nil_iff.mp hsettled _ hsince
    | checkpoint ckpt => exact ⟨hrange.1, le_retainedSeq h.order hmem, hrange.2.2⟩
    | _ => trivial
  order := h.order

theorem ordered_runProgram {m : PacingM Unit} (hqueues : Within Queues m)
    (hreturns : wp m p (fun _ q => 0 < q.snapshotSeq) (fun _ _ => False))
    (h : Stamped 0 p.snapshotSeq (delivered ++ p.queue)) :
    Ordered (runProgram m p delivered) := by
  have hqueued := hqueues p
  unfold runProgram
  rcases hexec : m.exec p with ⟨_ | _, q⟩
  · rw [wp_of_exec_error hexec] at hreturns
    exact hreturns.elim
  · rw [wp_of_exec_ok hexec] at hreturns hqueued
    obtain ⟨messages, hqueue, hstamped⟩ := hqueued
    refine ⟨hreturns, ?_⟩
    rw [hqueue, ← List.append_assoc]
    exact h.append hstamped

theorem ordered_start (h : Stamped 0 (retainedSeq delivered) delivered) :
    Ordered (start config result delivered) := by
  unfold start
  dsimp only
  split_ifs with hrefused
  · exact h
  · refine ordered_runProgram queues_commitStart ?_ ?_
    · exact wp_imp returns_commitStart fun _ _ h => h.1
    · rw [show (startingFrom config (retained? delivered)).queue = [] from rfl, List.append_nil]
      exact h

theorem ordered_deliver (hpublished : 0 < p.snapshotSeq)
    (h : Stamped 0 p.snapshotSeq (delivered ++ p.queue)) : Ordered (deliver p delivered) := by
  unfold deliver
  cases hqueue : p.queue with
  | nil => exact ⟨hpublished, h⟩
  | cons message queue =>
    refine ⟨hpublished, ?_⟩
    rw [hqueue] at h
    change Stamped 0 p.snapshotSeq ((delivered ++ [message]) ++ queue)
    rw [List.append_assoc]
    exact h

theorem ordered_act (hcrash : SettledCrash w action) (h : Ordered w)
    : Ordered (act config w action) := by
  obtain ⟨_ | p, delivered⟩ := w
  · cases action with
    | start result => exact ordered_start h
    | _ => exact h
  · have hprogram : Ordered (runProgram (pacingProgram config action) p delivered) := by
      refine ordered_runProgram queues_pacingProgram ?_ h.2
      refine wp_mono (wp_and (returns_pacingProgram h.1) (queues_pacingProgram p)) ?_ ?_
      · rintro _ q ⟨-, _, -, hstamped⟩
        exact Nat.lt_of_lt_of_le h.1 hstamped.bounds
      · exact fun _ _ hfalse => hfalse.1
    cases action with
    | crash => exact stamped_of_settled h.2.of_append_left hcrash
    | deliver => exact ordered_deliver h.1 h.2
    | _ => exact hprogram

theorem pairwise_snapshotSeqs (h : messages.Pairwise InOrder) :
    (snapshotSeqs messages).Pairwise (· < ·) := by
  refine List.pairwise_filterMap.mpr (h.imp ?_)
  intro message later horder seq hseq seq' hseq'
  cases message <;> cases hseq
  cases later <;> cases hseq'
  exact horder

def World.pending (w : World) : List Message := w.delivered ++ w.running.elim [] Pacing.queue

theorem exists_snapshot_of_start (h : Stamped 0 high delivered) :
    ∃ epochId step, .linkStateSnapshot (retainedSeq delivered + 1) epochId step ∈
      (start config result delivered).running.elim [] Pacing.queue := by
  have haccepted : ¬ (retained? delivered).map Checkpoint.snapshotSeq = some 0 := by
    intro hzero
    obtain ⟨ckpt, hckpt, hseq⟩ := Option.map_eq_some_iff.mp hzero
    rcases retained_cases delivered with ⟨-, hnone⟩ | ⟨earlier, latest, hsplit, hsome⟩
    · rw [hnone] at hckpt
      cases hckpt
    · obtain rfl := Option.some.inj (hsome.symm.trans hckpt)
      have hmem : .checkpoint latest ∈ delivered := by
        rw [hsplit]
        exact List.mem_append_right _ List.mem_cons_self
      exact (h.range _ hmem).2.2.ne' hseq
  unfold start
  dsimp only
  rw [if_neg haccepted]
  have hreturns : wp (commitStart config (retained? delivered).isSome
      { result with step := (startingFrom config (retained? delivered)).step })
      (startingFrom config (retained? delivered)) _ _ := returns_commitStart
  unfold runProgram
  rcases hexec : (commitStart config (retained? delivered).isSome
      { result with step := (startingFrom config (retained? delivered)).step }).exec
      (startingFrom config (retained? delivered)) with ⟨_ | _, q⟩
  · rw [wp_of_exec_error hexec] at hreturns
    exact hreturns.elim
  · rw [wp_of_exec_ok hexec] at hreturns
    exact ⟨_, _, hreturns.2⟩

theorem delivered_start : (start config result delivered).delivered = delivered := by
  unfold start runProgram
  dsimp only
  split_ifs
  · rfl
  · split <;> rfl

theorem Ordered.increasing (h : Ordered w) : (snapshotSeqs w.pending).Pairwise (· < ·) := by
  obtain ⟨_ | p, delivered⟩ := w
  · rw [World.pending, Option.elim_none, List.append_nil]
    exact pairwise_snapshotSeqs h.order
  · exact pairwise_snapshotSeqs h.2.order

theorem restarted_iff (h : Ordered ⟨some p, delivered⟩) :
    (snapshotSeqs (start config result delivered).pending).Pairwise (· < ·) ↔ Settled delivered := by
  have hstamped := h.2.of_append_left
  constructor
  · intro hincreasing
    refine List.filterMap_eq_nil_iff.mpr fun message hsince => ?_
    cases message with
    | linkStateSnapshot seq epochId step =>
      have hmem : .linkStateSnapshot seq epochId step ∈ delivered :=
        List.mem_reverse.mp ((List.takeWhile_prefix _).subset hsince)
      obtain ⟨_, _, hnext⟩ : ∃ epochId step, .linkStateSnapshot (retainedSeq delivered + 1)
          epochId step ∈ (start config result delivered).running.elim [] Pacing.queue :=
        exists_snapshot_of_start hstamped
      rw [World.pending, delivered_start, snapshotSeqs, List.filterMap_append] at hincreasing
      have hlt : seq < retainedSeq delivered + 1 := (List.pairwise_append.mp hincreasing).2.2
        seq (List.mem_filterMap.mpr ⟨_, hmem, rfl⟩)
        _ (List.mem_filterMap.mpr ⟨_, hnext, rfl⟩)
      exact absurd ((retainedSeq_lt_iff hstamped hmem).mpr hsince)
        (Nat.not_lt.mpr (Nat.le_of_lt_succ hlt))
    | _ => rfl
  · intro hsettled
    exact (ordered_start (stamped_of_settled hstamped hsettled)).increasing

/-- The snapshots a run delivers, as long as every crash found the stream settled; and what a crash
at its end would lead to. -/
theorem snapshot_seq_increases (config : PacingConfig) (actions : List Action)
    (h : HoldsAlong (act config) SettledCrash fresh actions) :
    let w := actions.foldl (act config) fresh
    (snapshotSeqs w.delivered).Pairwise (· < ·) ∧
      (w.running ≠ none → ∀ result,
        (snapshotSeqs (act config (act config w .crash) (.start result)).pending).Pairwise (· < ·) ↔
          Settled w.delivered) := by
  intro w
  have hordered : Ordered w := h.invariant (fun _ _ hcrash hw => ordered_act hcrash hw) .nil
  obtain ⟨running, delivered⟩ := w
  refine ⟨?_, fun hrunning result => ?_⟩
  · have hincreasing := hordered.increasing
    rw [World.pending, snapshotSeqs, List.filterMap_append] at hincreasing
    exact (List.pairwise_append.mp hincreasing).1
  · cases running with
    | none => exact absurd rfl hrunning
    | some p => exact restarted_iff hordered

/-! ### A crash between a snapshot and its checkpoint -/

def everySecond : PacingConfig := ⟨1, 1, 300⟩

def quietStep : StepResult := ⟨0, 0, 0, false⟩

def committedStart : List Action := .start quietStep :: List.replicate 7 .deliver

/-- The OME crashes with a tick's snapshot delivered and its checkpoint still queued, and starts
again. -/
def crashedTick : List Action :=
  committedStart ++ [.tick quietStep, .deliver, .deliver, .crash] ++ committedStart

/-- The restarted OME publishes the sequence of the tick's snapshot again. -/
theorem crash_before_checkpoint_repeats_seq :
    snapshotSeqs (crashedTick.foldl (act everySecond) fresh).delivered = [1, 2, 2] ∧
      ¬ (snapshotSeqs (crashedTick.foldl (act everySecond) fresh).delivered).Pairwise (· < ·) := by
  decide +kernel

theorem crash_after_checkpoint_keeps_order :
    let actions := committedStart ++ [.crash] ++ committedStart
    snapshotSeqs (actions.foldl (act everySecond) fresh).delivered = [1, 2] ∧
      (snapshotSeqs (actions.foldl (act everySecond) fresh).delivered).Pairwise (· < ·) := by
  refine ⟨by decide +kernel, (snapshot_seq_increases everySecond _ ?_).1⟩
  rw [holdsAlong_append, holdsAlong_append]
  have hsettled : Settled (committedStart.foldl (act everySecond) fresh).delivered := by
    decide +kernel
  exact ⟨⟨by simp [committedStart, HoldsAlong, SettledCrash, List.replicate], hsettled, trivial⟩,
    by simp [committedStart, HoldsAlong, SettledCrash, List.replicate]⟩

end NodalArc.PacingAuthority
