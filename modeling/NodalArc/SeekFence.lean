import NodalArc.RestartedScheduler

/-! The fence of a seek.  Handlers, drain wake-ups and the worker take turns in any order; from the
announcement of a seek to its resumption the worker starts no pass, and no intent crosses it. -/

namespace NodalArc.SeekFence

open OrderedDict
open GroundPolicy
open LinkRecord
open NodeAgentBatches
open DispatchActuator
open DecisionEngine
open EngineDeliveries
open RestartedScheduler
open StatefulProgram
open StatefulProgram.Program

variable {config : SchedulerConfig} {epsilonMs : ℚ} {start : Authority} {s t : Engine} {c : Change}
  {actual : List Pair} {simTime : ℚ} {source : IntentSource}

/-- Every link is one that was desired at some time since the last seek. -/
def DesiredSinceSeek (config : SchedulerConfig) (start : Authority) (changes : List Change)
    (links : Dict Pair LinkInfo) : Prop :=
  ∃ pre post, changes = pre ++ post ∧ (∀ c ∈ post, ∀ epochId, c ≠ .cleared epochId) ∧
    ∀ pair info, links.get? pair = some info →
      (replay config start pre).desiredLinks.get? pair = some info

/-- No queued intent is older than the last seek, and none resumes while a seek is under way. -/
structure Fenced (config : SchedulerConfig) (start : Authority) (s : Engine) : Prop where
  authority : s.authority = replay config start s.changes
  fenced : ∀ intent ∈ s.dispatchQueue, DesiredSinceSeek config start s.changes intent.desired ∧
    (s.epochSync.suspended = true → intent.source ≠ .resume)

/-! ### Handlers -/

section Handlers

variable (h : Fenced config start s)

include h

theorem Fenced.congr (hauthority : t.authority = s.authority) (hchanges : t.changes = s.changes)
    (hqueue : t.dispatchQueue ⊆ s.dispatchQueue)
    (hsuspended : t.epochSync.suspended = true → s.epochSync.suspended = true) :
    Fenced config start t where
  authority := by rw [hauthority, hchanges, h.authority]
  fenced intent hintent := by
    obtain ⟨hsince, hheld⟩ := h.fenced intent (hqueue hintent)
    exact ⟨hchanges ▸ hsince, fun ht => hheld (hsuspended ht)⟩

theorem Fenced.changed (hc : ∀ epochId, c ≠ .cleared epochId) :
    Fenced config start (changed config c s) where
  authority := by rw [changed_authority, changed_changes, replay_concat, h.authority]
  fenced intent hintent := by
    obtain ⟨⟨pre, post, hsplit, hpost, hlinks⟩, hheld⟩ := h.fenced intent hintent
    refine ⟨⟨pre, post ++ [c], by simp [hsplit], ?_, hlinks⟩, hheld⟩
    rintro _ hmem
    rcases List.mem_append.mp hmem with hmem | hmem
    · exact hpost _ hmem
    · rw [List.mem_singleton.mp hmem]
      exact hc

theorem Fenced.enqueued {rebaseline : Bool} (hauthority : t.authority = s.authority)
    (hchanges : t.changes = s.changes) (hqueue : t.dispatchQueue =
      s.dispatchQueue ++ [buildDispatchIntent actual s simTime source rebaseline])
    (hsuspended : t.epochSync.suspended = true →
      s.epochSync.suspended = true ∧ source ≠ .resume) : Fenced config start t where
  authority := by rw [hauthority, hchanges, h.authority]
  fenced intent hintent := by
    rcases List.mem_append.mp (hqueue ▸ hintent) with hold | hnew
    · obtain ⟨hsince, hheld⟩ := h.fenced intent hold
      exact ⟨hchanges ▸ hsince, fun ht => hheld (hsuspended ht).1⟩
    · rw [List.mem_singleton.mp hnew]
      refine ⟨⟨s.changes, [], by simp [hchanges], nofun, fun pair info hinfo => ?_⟩,
        fun ht => (hsuspended ht).2⟩
      rw [← h.authority]
      exact (Dict.get?_filter_eq_some_iff.mp hinfo).1

theorem Fenced.wp_handleMessage {m : Message} :
    wp (handleMessage config epsilonMs actual m) s (fun _ => Fenced config start)
      fun _ => Fenced config start := by
  refine handleMessage_invariant _ h (fun _ _ _ ht => ht.congr rfl rfl (fun _ => id) id)
    (fun _ _ _ ht => ht.congr rfl rfl (fun _ => id) id) ?_ ?_ ?_
  · intro sync hsynced
    refine h.congr rfl rfl (fun _ => id) fun hsuspended => ?_
    cases hsynced with
    | buffered hheld | resumed hheld => exact hheld
    | ephemeris | playing => simpa using hsuspended
  · intro t c source happlies ht
    have hchanged : Fenced config start (EngineDeliveries.changed config c t) :=
      ht.changed (by cases happlies <;> nofun)
    refine ⟨fun _ _ => hchanged, fun _ _ _ _ => hchanged.enqueued rfl rfl rfl fun hsuspended => ?_⟩
    -- the intent of a snapshot is queued after the resumption
    cases happlies with
    | folded => exact ⟨hsuspended, by decide⟩
    | replaced hrunning => cases hrunning.symm.trans hsuspended
  · intro e _ _
    exact ⟨by rw [sought, changed_authority, changed_changes, replay_concat, h.authority], nofun⟩

theorem Fenced.wp_onScenarioCommand {command : ScenarioCommand} :
    wp (onScenarioCommand config actual command) s (fun _ => Fenced config start)
      fun _ => Fenced config start := by
  have hoverride : Fenced config start (command.override s) := by
    cases command <;> exact h.congr rfl rfl (fun _ => id) id
  simp only [onScenarioCommand, wp_bind, wp_get, wp_ite, wp_pure, wp_modify]
  refine ⟨fun _ => h, fun _ => ⟨fun _ => hoverride, fun _ => ?_⟩⟩
  cases s.currentSimTime with
  | none => exact h
  | some simTime => exact hoverride.enqueued rfl rfl rfl fun ht => ⟨ht, by decide⟩

end Handlers

/-! ### Runs -/

theorem Fenced.after_step {d : Dispatcher} {next : Step} (h : Fenced config start d.engine) :
    Fenced config start (step config epsilonMs d next).engine := by
  unfold step
  split
  · exact h
  · cases next with
    | message m => exact wp_exec (P := Fenced config start) h.wp_handleMessage
    | scenario command => exact wp_exec (P := Fenced config start) h.wp_onScenarioCommand
    | drainDue =>
      refine wp_exec (m := wakeForDrain _) (P := Fenced config start) ?_
      simp only [wakeForDrain, wp_bind, wp_get]
      cases d.engine.currentSimTime with
      | none => exact h
      | some simTime => exact h.enqueued rfl rfl rfl fun ht => ⟨ht, by decide⟩
    | watchdog epochId =>
      refine wp_exec (m := epochWatchdog epochId) (P := Fenced config start) ?_
      simp only [epochWatchdog, EpochSyncState.markWatchdogTimeout, wp_bind, wp_get, wp_when,
        wp_modify, wp_throw]
      refine ⟨fun hseeking => ?_, fun _ => h⟩
      rw [if_pos hseeking]
      exact h.congr rfl rfl (fun _ => id) id
    | work surroundings verified =>
      simp only [dispatchWorker]
      split
      · exact h
      next first rest hqueue =>
        split
        · exact h.congr rfl rfl (by simp [hqueue]) id
        · exact h.congr rfl rfl (by simp) id

theorem Fenced.scheduler_step {d : Dispatcher} {next : Step} (h : Fenced config start d.engine)
    (hsuspended : d.engine.epochSync.suspended = true) :
    (step config epsilonMs d next).scheduler = d.scheduler := by
  unfold step
  split
  · rfl
  · cases next with
    | work surroundings verified =>
      simp only [dispatchWorker]
      split
      · rfl
      next first rest hqueue =>
        rw [if_pos ⟨hsuspended, (h.fenced first (by simp [hqueue])).2 hsuspended⟩]
    | _ => rfl

/-- In every run of a restarted Scheduler no intent outlives a seek, and while one is under way
nothing the Scheduler does next touches a link. -/
theorem seek_fenced (scheduler : Scheduler) (adopted : Nat) (checkpoint : Option ℚ)
    (steps : List Step) :
    let start := { freshAuthority with objects := adopted }
    let d := run config epsilonMs ⟨{ freshEngine with
      authority := start, currentSimTime := checkpoint }, scheduler, true⟩ steps
    (∀ intent ∈ d.engine.dispatchQueue,
      DesiredSinceSeek config start d.engine.changes intent.desired) ∧
    (d.engine.epochSync.suspended = true →
      ∀ next, (step config epsilonMs d next).scheduler = d.scheduler) := by
  intro start d
  have hfenced : Fenced config start d.engine :=
    List.foldlRecOn (motive := fun d : Dispatcher => Fenced config start d.engine) steps _
      ⟨rfl, nofun⟩ fun _ h _ _ => h.after_step
  exact ⟨fun intent hintent => (hfenced.fenced intent hintent).1,
    fun hsuspended _ => hfenced.scheduler_step hsuspended⟩

end NodalArc.SeekFence
