import NodalArc.ReconcileOutcome

/-! Ready and what stands behind it.  A pass that publishes Ready, and a pass that leaves Ready
standing, have checked the pods, the wiring proofs and the services; that the manifest the proofs
are judged against is still this run's is checked at another read, and not at all by the audit. -/

namespace NodalArc.ReadyTruthful

open StatefulProgram
open Program
open SessionPods
open ReconcilePass
open ReconcileOutcome

variable {call : Call} {E : Exception → PassLog → Prop}

variable {w : World} {α : Type} {runtime : Runtime} {view : SessionPodView} {s₀ s t : PassLog}

/-! ### A pass that leaves Ready standing -/

def Loud (w : World) (t : PassLog) : Prop :=
  (∃ call ∈ t.made, w.faults call ≠ none) ∨ t.published ≠ [] ∨ t.reconciling = true ∨
    t.dropped = true

theorem loud_make {failure : Failure} (h : w.faults call = some failure) : Loud w (s.make call) :=
  .inl (failed_make h)

theorem wp_loud_publish (phase : Phase) : wp (publish w phase) s (fun _ t => Loud w t)
    fun _ t => Loud w t := by
  unfold publish patchPhase
  rw [wp_bind, wp_get, wp_bind, wp_modify, wp_bind, wp_onApi]
  refine wp_ask.mpr ⟨fun _ => .inr (.inl (by simp)), fun failure hfault => ?_⟩
  exact ⟨fun _ _ => loud_make hfault, fun _ => loud_make hfault⟩

theorem wp_loud_runtimeInputs (at' : Resolving) : wp (runtimeInputs w at') s (fun _ t => Quietly s t)
    fun e t => Quietly s t ∧ ((e = .fetchFailed ∧ Loud w t) ∨ e = .valueError) := by
  unfold runtimeInputs
  rw [wp_bind, wp_tryCatch]
  have hmake := quietly_make s (.listUpload at')
  refine wp_ask.mpr ⟨fun _ => ?_, fun failure hfault => ⟨hmake, .inl ⟨rfl, loud_make hfault⟩⟩⟩
  rw [wp_bind]
  refine wp_refuse.mpr ⟨fun resolution _ => ?_, fun _ => ⟨hmake, .inr rfl⟩⟩
  rw [wp_bind]
  exact wp_refuse.mpr ⟨fun verified _ => hmake, fun _ => ⟨hmake, .inr rfl⟩⟩

theorem wp_loud_report {phase : Phase} (hwiring : phase ≠ .wiring) (hready : phase ≠ .ready)
    {Q : α → PassLog → Prop} {result : α} (hQ : ∀ t, Quietly s t → Loud w t → Q result t)
    (hE : ∀ e t, Quietly s t → Loud w t → E e t) :
    wp (do publish w phase; return result : Pass α) s Q E := by
  rw [wp_bind]
  exact wp_mono (wp_and (within_publish hwiring hready s) (wp_loud_publish phase))
    (fun _ t ht => hQ t ht.1 ht.2) fun e t ht => hE e t ht.1 ht.2

theorem wp_loud_ask {Q : Unit → PassLog → Prop} (hQ : w.faults call = none → Q () (s.make call))
    (hE : ∀ failure, w.faults call = some failure → Loud w (s.make call) → E (.failed failure)
      (s.make call)) : wp (ask w call) s Q E :=
  wp_ask.mpr ⟨hQ, fun failure hfault => hE failure hfault (loud_make hfault)⟩

theorem wp_loud_deletePods (call : Token → Call) (uids : List Token) :
    wp (deletePods w call uids) s (fun _ _ => True) fun _ t => Loud w t := by
  induction uids generalizing s with
  | nil => trivial
  | cons uid rest ih =>
    rw [deletePods, wp_bind, deleteObserved, wp_onApi, wp_bind]
    refine wp_loud_ask (fun _ => ?_) fun failure _ hloud => ⟨fun status _ => ?_, fun _ => hloud⟩
    · rw [wp_pure, wp_ite]
      exact ⟨fun _ => trivial, fun _ => ih⟩
    · rw [wp_ite, wp_ite]
      refine ⟨fun _ => ?_, fun _ => ⟨fun _ => ?_, fun _ => hloud⟩⟩ <;> rw [wp_pure, wp_ite] <;>
        exact ⟨fun _ => trivial, fun _ => ih⟩

theorem wp_loud_convergeSelectionFailure : wp (convergeSelectionFailure w) s
    (fun _ t => Loud w t ∨ w.generationLive = false) fun _ t => Loud w t := by
  unfold convergeSelectionFailure
  rw [wp_bind]
  refine wp_loud_ask (fun _ => ?_) fun _ _ hloud => hloud
  rw [wp_ite]
  refine ⟨fun _ => ?_, fun hlive => .inr (Bool.not_eq_true _ ▸ hlive)⟩
  rw [wp_bind]
  refine wp_loud_ask (fun _ => ?_) fun _ _ hloud => hloud
  rw [wp_bind]
  refine wp_imp (wp_loud_deletePods _ _) fun _ t _ => ?_
  exact wp_imp (wp_loud_publish _) fun _ _ hloud => .inl hloud

theorem wp_loud_sessionRuntime : wp (sessionRuntime w) s (fun r t => Quietly s t ∧
      (r = none → Loud w t ∨ (w.prepare = none ∧ w.generationLive = false)) ∧
      ∀ runtime, r = some runtime → runtime.uid = w.cr.uid ∧ runtime.generation = w.cr.generation)
    fun _ t => Quietly s t ∧ Loud w t := by
  unfold sessionRuntime
  split
  · refine wp_loud_report Phase.noConfusion Phase.noConfusion (fun t hst hloud => ?_)
      fun _ t hst hloud => ⟨hst, hloud⟩
    exact ⟨hst, fun _ => .inl hloud, fun _ h => nomatch h⟩
  next runId _ =>
    rw [wp_bind, wp_tryCatch, wp_bind]
    refine wp_mono (wp_loud_runtimeInputs .runtime) (fun inputs s₁ hs₁ => ?_)
      fun e s₁ hs₁ => ?_
    · obtain ⟨resolution, verified⟩ := inputs
      change wp (preparedRuntime w runId resolution verified) s₁ _ _
      unfold preparedRuntime
      split
      next hprepare =>
        rw [wp_bind]
        refine wp_mono (wp_and (within_convergeSelectionFailure s₁)
          wp_loud_convergeSelectionFailure) (fun _ t ht => ?_)
          fun _ t ht => ⟨IsTrans.trans s s₁ t hs₁ ht.1, ht.2⟩
        exact ⟨IsTrans.trans s s₁ t hs₁ ht.1, fun _ => ht.2.imp id fun hlive => ⟨hprepare, hlive⟩,
          fun _ h => nomatch h⟩
      · split
        · refine wp_loud_report Phase.noConfusion Phase.noConfusion (fun t hst hloud => ?_)
            fun _ t hst hloud => ⟨IsTrans.trans s s₁ t hs₁ hst, hloud⟩
          exact ⟨IsTrans.trans s s₁ t hs₁ hst, fun _ => .inl hloud, fun _ h => nomatch h⟩
        · refine ⟨hs₁, (fun h => nomatch h), fun runtime h => ?_⟩
          cases h
          exact ⟨rfl, rfl⟩
    · refine wp_loud_report Phase.noConfusion Phase.noConfusion (fun t hst hloud => ?_)
        fun _ t hst hloud => ⟨IsTrans.trans s s₁ t hs₁.1 hst, hloud⟩
      exact ⟨IsTrans.trans s s₁ t hs₁.1 hst, fun _ => .inl hloud, fun _ h => nomatch h⟩

theorem wp_loud_readyInputs : wp (readyInputs w runtime) s
    (fun inputs t => Quietly s t ∧ (inputs = .unreadable ∨ inputs = .invalid → Loud w t))
    fun _ t => Quietly s t ∧ Loud w t := by
  unfold readyInputs
  rw [wp_tryCatch, wp_bind]
  refine wp_mono (wp_loud_runtimeInputs .ready) (fun inputs s₁ hs₁ => ?_) fun e s₁ hs₁ => ?_
  · refine ⟨hs₁, fun h => ?_⟩
    split at h <;> rcases h with h | h <;> cases h
  · obtain ⟨hquiet, ⟨rfl, hloud⟩ | rfl⟩ := hs₁
    · exact ⟨hquiet, fun _ => hloud⟩
    · refine wp_loud_report Phase.noConfusion Phase.noConfusion (fun t hst hloud => ?_)
        fun _ t hst hloud => ⟨IsTrans.trans s s₁ t hquiet hst, hloud⟩
      exact ⟨IsTrans.trans s s₁ t hquiet hst, fun _ => hloud⟩

/-- What an audit that stays silent has observed. -/
structure AuditFacts (w : World) (runtime : Runtime) (view : SessionPodView) : Prop where
  observed : observeSessionPods runtime.identity (w.pods .audit) = some view
  complete : view.complete = true
  running : view.runningCount = runtime.identity.expectedCount
  wiring : ∀ stored, w.manifest (.wiring .audit) = some stored →
    (∃ wired, wiringComplete stored view = some (true, wired)) ∧
      ∀ service, ServiceProved w .audit service runtime

theorem wp_loud_auditWiring : wp (auditWiring w view) s
    (fun wired t => Quietly s t ∧ (wired = none → Loud w t ∨ w.manifest (.wiring .audit) = none) ∧
      (wired = some true → ∃ stored count, w.manifest (.wiring .audit) = some stored ∧
        wiringComplete stored view = some (true, count)))
    fun _ t => Quietly s t ∧ Loud w t := by
  unfold auditWiring checkWiringComplete
  rw [wp_tryCatch, wp_bind, wp_bind]
  have hmake := quietly_make s (.readManifest (.wiring .audit))
  refine wp_ask.mpr ⟨fun _ => ?_, fun failure hfault => ?_⟩
  · split
    next hnone => exact ⟨hmake, fun _ => .inr hnone, fun h => nomatch h⟩
    next stored hstored =>
      refine wp_refuse.mpr ⟨fun result hresult => ?_, fun _ =>
        ⟨hmake, (fun h => nomatch h), fun h => nomatch h⟩⟩
      obtain ⟨complete, count⟩ := result
      refine ⟨hmake, (fun h => nomatch h), fun h => ⟨stored, count, hstored, ?_⟩⟩
      cases h
      exact hresult
  · split
    · exact ⟨hmake, fun _ => .inl (loud_make hfault), fun h => nomatch h⟩
    next heq => cases heq
    · exact ⟨hmake, loud_make hfault⟩

def Audited (w : World) (runtime : Runtime) (s t : PassLog) : Prop :=
  Extends s t ∧ (Loud w t ∨ ∃ view, AuditFacts w runtime view)

theorem wp_audited_reconcile (h : Starting s₀ s) : wp (reconcileSession w runtime) s
    (fun _ t => Audited w runtime s₀ t ∧ Borne w runtime t)
    fun _ t => Audited w runtime s₀ t ∧ Borne w runtime t := by
  have hend : ∀ t, Reconciles w runtime s₀ t → Audited w runtime s₀ t ∧ Borne w runtime t :=
    fun t ht => ⟨⟨ht.1, .inl (.inr (.inr (.inl ht.2.1)))⟩, ht.2.2⟩
  exact wp_mono (wp_reconcileSession h) (fun _ => hend) fun _ => hend

theorem wp_auditServices (h : Starting s₀ s)
    (hview : observeSessionPods runtime.identity (w.pods .audit) = some view)
    (hcomplete : view.complete = true)
    (hrunning : view.runningCount = runtime.identity.expectedCount) :
    wp (auditServices w runtime view) s (fun _ t => Audited w runtime s₀ t ∧ Borne w runtime t)
      fun _ t => Audited w runtime s₀ t ∧ Borne w runtime t := by
  have hloudly : ∀ t, Starting s₀ t → Loud w t → Audited w runtime s₀ t ∧ Borne w runtime t :=
    fun t ht hloud => ⟨⟨ht.toExtends, .inl hloud⟩, ht.borne⟩
  unfold auditServices
  rw [wp_bind]
  refine wp_mono wp_loud_auditWiring (fun wired s₁ hs₁ => ?_)
    fun _ t ht => hloudly t (h.quietly ht.1) ht.2
  obtain ⟨hquiet, hunread, hwired⟩ := hs₁
  have h₁ := h.quietly hquiet
  split
  · refine ⟨⟨h₁.toExtends, (hunread rfl).imp id fun hnone =>
      ⟨view, hview, hcomplete, hrunning, ?_⟩⟩, h₁.borne⟩
    intro stored hstored
    rw [hnone] at hstored
    cases hstored
  · exact wp_audited_reconcile h₁
  · obtain ⟨stored, count, hstored, hchecked⟩ := hwired rfl
    rw [wp_bind, wp_onApi, wp_bind]
    refine wp_mono (wp_checkPlatformRuntimeReady .audit s₁) (fun ready s₂ hs₂ => ?_)
      fun e s₂ hs₂ => ?_
    · have h₂ := h₁.quietly hs₂.1
      cases ready with
      | false => exact wp_audited_reconcile h₂
      | true =>
        change wp (if statusCarries w runtime then pure false else reconcileSession w runtime) s₂ _ _
        rw [wp_ite]
        refine ⟨fun _ => ⟨⟨h₂.toExtends, .inr ⟨view, hview, hcomplete, hrunning, ?_⟩⟩, h₂.borne⟩,
          fun _ => wp_audited_reconcile h₂⟩
        intro other hother
        rw [hstored] at hother
        cases hother
        exact ⟨⟨count, hchecked⟩, hs₂.2 rfl⟩
    · have h₂ := hloudly s₂ (h₁.quietly hs₂.1) (.inl hs₂.2)
      exact ⟨fun _ _ => h₂, fun _ => h₂⟩

theorem wp_auditReady (h : Starting s₀ s) : wp (auditReady w runtime) s
    (fun _ t => Audited w runtime s₀ t ∧ Borne w runtime t)
    fun _ t => Audited w runtime s₀ t ∧ Borne w runtime t := by
  unfold auditReady
  rw [wp_bind, wp_onApi, wp_bind]
  have hmake := h.quietly (quietly_make s (.listPods .audit))
  refine wp_loud_ask (fun _ => ?_) fun failure _ hloud =>
    ⟨fun _ _ => ⟨⟨hmake.toExtends, .inl hloud⟩, hmake.borne⟩,
      fun _ => ⟨⟨hmake.toExtends, .inl hloud⟩, hmake.borne⟩⟩
  rw [wp_pure, wp_ite]
  refine ⟨fun _ => ?_, fun h => absurd rfl h⟩
  split
  · exact wp_audited_reconcile hmake
  next view hview =>
    rw [wp_ite]
    refine ⟨fun hcurrent => ?_, fun _ => wp_audited_reconcile hmake⟩
    rw [Bool.and_eq_true, decide_eq_true_eq] at hcurrent
    exact wp_auditServices hmake hview hcurrent.1 hcurrent.2

/-! ### Whole passes -/

def Serves (w : World) (runtime : Runtime) : Prop :=
  runtime.uid = w.cr.uid ∧ runtime.generation = w.cr.generation

def Reports (w : World) (t : PassLog) : Prop :=
  Early t ∨ ∃ runtime, t.held = some runtime ∧ Serves w runtime ∧ Borne w runtime t

def Leaves (w : World) (t : PassLog) : Prop :=
  Loud w t ∨ (w.prepare = none ∧ w.generationLive = false) ∨
    ∃ runtime view, t.held = some runtime ∧ Serves w runtime ∧ AuditFacts w runtime view

theorem reports_of_early (h : Early t) : Reports w t := .inl h

theorem reports_of_borne (h : Borne w runtime t) (hserves : Serves w runtime)
    (hheld : t.held = some runtime) : Reports w t := .inr ⟨runtime, hheld, hserves, h⟩

theorem wp_heldRuntime (h : Early s) : wp (heldRuntime w) s
    (fun r t => Early t ∧ (r = none → Loud w t ∨ (w.prepare = none ∧ w.generationLive = false)) ∧
      ∀ runtime, r = some runtime → t.held = some runtime ∧ Serves w runtime)
    fun _ t => Early t ∧ Loud w t := by
  have hcompute : wp (do
      let computed ← sessionRuntime w
      modify fun log => { log with held := computed }
      return computed) s
      (fun r t => Early t ∧ (r = none → Loud w t ∨ (w.prepare = none ∧ w.generationLive = false)) ∧
        ∀ runtime, r = some runtime → t.held = some runtime ∧ Serves w runtime)
      fun _ t => Early t ∧ Loud w t := by
    rw [wp_bind]
    refine wp_mono wp_loud_sessionRuntime (fun computed s₁ hs₁ => ?_)
      fun _ t ht => ⟨h.quietly ht.1, ht.2⟩
    obtain ⟨hquiet, hnone, hserves⟩ := hs₁
    have h₁ := h.quietly hquiet
    exact ⟨⟨h₁.wiring, h₁.ready, h₁.written⟩, hnone, fun runtime heq => ⟨heq, hserves runtime heq⟩⟩
  unfold heldRuntime
  rw [wp_bind, wp_get]
  split
  next runtime hheld =>
    rw [wp_ite]
    refine ⟨fun hserves => ⟨h, (fun heq => nomatch heq), fun other heq => ?_⟩, fun _ => hcompute⟩
    cases heq
    exact ⟨hheld, hserves⟩
  · exact hcompute

theorem wp_driveRuntime (h : Early s) (hheld : s.held = some runtime) (hserves : Serves w runtime) :
    wp (driveRuntime w runtime) s (fun _ t => Borne w runtime t ∧ Reports w t ∧
        (w.cr.status.phase = some .ready → Leaves w t))
      fun _ t => Borne w runtime t ∧ Reports w t ∧
        (w.cr.status.phase = some .ready → Leaves w t) := by
  have hloudly : ∀ t, Early t → Loud w t → Borne w runtime t ∧ Reports w t ∧
      (w.cr.status.phase = some .ready → Leaves w t) := fun t ht hloud =>
    ⟨ht.borne, reports_of_early ht, fun _ => .inl hloud⟩
  have hstart : Starting s s := ⟨Std.Refl.refl s, h⟩
  unfold driveRuntime
  rw [wp_ite]
  refine ⟨fun _ => ?_, fun hphase => ?_⟩
  · rw [wp_bind]
    refine wp_mono wp_loud_readyInputs (fun inputs s₁ hs₁ => ?_)
      fun _ t ht => hloudly t (h.quietly ht.1) ht.2
    have h₁ := hstart.quietly hs₁.1
    split
    · exact hloudly _ ⟨h₁.wiring, h₁.ready, h₁.written⟩ (.inr (.inr (.inr rfl)))
    · exact hloudly _ h₁.toEarly (hs₁.2 (.inl rfl))
    · exact hloudly _ h₁.toEarly (hs₁.2 (.inr rfl))
    · have hend : ∀ t, Audited w runtime s t ∧ Borne w runtime t → Borne w runtime t ∧
          Reports w t ∧ (w.cr.status.phase = some .ready → Leaves w t) := by
        rintro t ⟨⟨hst, haudit⟩, hborne⟩
        have hheld' := hst.held.trans hheld
        refine ⟨hborne, reports_of_borne hborne hserves hheld', fun _ =>
          haudit.imp id fun ⟨view, hfacts⟩ => ?_⟩
        exact .inr ⟨runtime, view, hheld', hserves, hfacts⟩
      exact wp_mono (wp_auditReady h₁) (fun _ => hend) fun _ => hend
  · have hend : ∀ t, Reconciles w runtime s t → Borne w runtime t ∧ Reports w t ∧
        (w.cr.status.phase = some .ready → Leaves w t) := fun t ht =>
      ⟨ht.2.2, reports_of_borne ht.2.2 hserves (ht.1.held.trans hheld), fun heq => absurd heq hphase⟩
    exact wp_mono (wp_reconcileSession hstart) (fun _ => hend) fun _ => hend

theorem wp_heldPass (hserves : Serves w runtime) : wp (driverPass w) (PassLog.start (some runtime))
    (fun _ t => Borne w runtime t) fun _ t => Borne w runtime t := by
  have hstart : Early (PassLog.start (some runtime)) := ⟨List.not_mem_nil, List.not_mem_nil, rfl⟩
  have hmake := hstart.quietly (quietly_make _ .readCr)
  unfold driverPass
  rw [wp_bind, wp_onApi]
  refine wp_loud_ask (fun _ => ?_) fun _ _ _ => ⟨fun _ _ => hmake.borne, fun _ => hmake.borne⟩
  rw [wp_bind]
  refine wp_require.mpr ⟨fun _ => ?_, fun _ => hmake.borne⟩
  unfold driveOnce
  rw [wp_ite]
  refine ⟨fun _ => hmake.borne, fun _ => ?_⟩
  rw [wp_bind, heldRuntime, wp_bind, wp_get]
  change wp (if runtime.uid = w.cr.uid ∧ runtime.generation = w.cr.generation then
    pure (some runtime) else _) _ _ _
  rw [wp_ite]
  have hborne := wp_mono (wp_driveRuntime hmake rfl hserves) (fun _ _ ht => ht.1) fun _ _ ht => ht.1
  exact ⟨fun _ => hborne, fun hnot => absurd hserves hnot⟩

theorem wp_driverPass (held : Option Runtime) : wp (driverPass w) (PassLog.start held)
    (fun _ t => Reports w t ∧ (w.cr.uid = w.driverUid → w.cr.deleting = false →
      w.cr.status.phase = some .ready → Leaves w t))
    fun _ t => Reports w t ∧ (w.cr.uid = w.driverUid → w.cr.deleting = false →
      w.cr.status.phase = some .ready → Leaves w t) := by
  have hstart : Early (PassLog.start held) := ⟨List.not_mem_nil, List.not_mem_nil, rfl⟩
  have hmake := hstart.quietly (quietly_make _ .readCr)
  unfold driverPass
  rw [wp_bind, wp_onApi]
  refine wp_loud_ask (fun _ => ?_) fun failure _ hloud =>
    ⟨fun _ _ => ⟨reports_of_early hmake, fun _ _ _ => .inl hloud⟩,
      fun _ => ⟨reports_of_early hmake, fun _ _ _ => .inl hloud⟩⟩
  rw [wp_bind]
  refine wp_require.mpr ⟨fun _ => ?_, fun hgone =>
    ⟨reports_of_early hmake, fun huid hlive _ => absurd ⟨huid, hlive⟩ hgone⟩⟩
  unfold driveOnce
  rw [wp_ite]
  refine ⟨fun herror => ⟨reports_of_early hmake, fun _ _ hready => ?_⟩, fun _ => ?_⟩
  · rw [herror.1] at hready
    cases hready
  rw [wp_bind]
  refine wp_mono (wp_heldRuntime hmake) (fun r s₁ hs₁ => ?_)
    fun _ t ht => ⟨reports_of_early ht.1, fun _ _ _ => .inl ht.2⟩
  obtain ⟨h₁, hnone, hsome⟩ := hs₁
  split
  · exact ⟨reports_of_early h₁, fun _ _ _ => (hnone rfl).imp id .inl⟩
  next runtime =>
    obtain ⟨hheld, hserves⟩ := hsome runtime rfl
    exact wp_mono (wp_driveRuntime h₁ hheld hserves) (fun _ _ ht => ⟨ht.2.1, fun _ _ => ht.2.2⟩)
      fun _ _ ht => ⟨ht.2.1, fun _ _ => ht.2.2⟩

def after (w : World) (held : Option Runtime) : PassLog :=
  ((driverPass w).exec (PassLog.start held)).2

structure Truthful (w : World) (reader : Reader) (runtime : Runtime) (view : SessionPodView)
    (stored : StoredManifest) : Prop where
  pods : PodsReady view
  run : manifestMatches runtime stored = true
  wiring : ∃ manifest, stored.decode = some manifest ∧ WiringProved manifest view
  services : ∀ service, ServiceProved w reader service runtime
  context : runtime.verification.context.crUid = w.cr.uid ∧
    runtime.verification.context.crGeneration = w.cr.generation

/-- A pass over a Ready session, every call of which was answered, that neither published a phase
nor started to reconcile. -/
structure Standing (w : World) (held : Option Runtime) : Prop where
  live : w.cr.uid = w.driverUid ∧ w.cr.deleting = false
  ready : w.cr.status.phase = some .ready
  answered : ∀ call ∈ (after w held).made, w.faults call = none
  unpublished : (after w held).published = []
  unreconciled : (after w held).reconciling = false ∧ (after w held).dropped = false
  prepared : w.prepare ≠ none ∨ w.generationLive = true

theorem Standing.not_loud {held : Option Runtime} (h : Standing w held) : ¬ Loud w (after w held) := by
  rintro (⟨call, hcall, hfault⟩ | hpublished | hreconciling | hdropped)
  · exact hfault (h.answered call hcall)
  · exact hpublished h.unpublished
  · exact absurd hreconciling (by simp [h.unreconciled.1])
  · exact absurd hdropped (by simp [h.unreconciled.2])

theorem reports_after (w : World) (held : Option Runtime) : Reports w (after w held) ∧
    (w.cr.uid = w.driverUid → w.cr.deleting = false → w.cr.status.phase = some .ready →
      Leaves w (after w held)) :=
  wp_exec (P := fun t => Reports w t ∧ (w.cr.uid = w.driverUid → w.cr.deleting = false →
    w.cr.status.phase = some .ready → Leaves w t)) (wp_driverPass held)

theorem serves_context (h : Serves w runtime) : runtime.verification.context.crUid = w.cr.uid ∧
      runtime.verification.context.crGeneration = w.cr.generation :=
  ⟨runtime.bound.1.trans h.1, runtime.bound.2.1.trans h.2⟩

theorem observe_expectedCount {pods : List Pod}
    (h : observeSessionPods runtime.identity pods = some view) :
    view.identity.expectedCount = runtime.identity.expectedCount := by
  rw [(observeSessionPods_spec h).1]

theorem complete_iff : view.complete = true ↔
    view.missingNodeIds = [] ∧ ∀ pod ∈ view.pods, pod.podClass = .current := by
  unfold SessionPodView.complete SessionPodView.current
  rw [Bool.and_eq_true, List.isEmpty_iff, decide_eq_true_eq, eq_comm (a := view.pods.length),
    List.length_filter_eq_length_iff]
  simp

/-- A pass that publishes Ready has everything Ready says, exactly if the manifest its wiring check
read is still this run's; and a Ready session that a pass leaves standing has it exactly if a
manifest of this run is stored and the pods have their networks. -/
theorem ready_truthful_iff (w : World) (held : Option Runtime) :
    (.ready ∈ (after w held).published → ∃ runtime view stored,
      (after w held).held = some runtime ∧ Serves w runtime ∧
      observeSessionPods runtime.identity (w.pods .reconcile) = some view ∧
      w.manifest (.wiring .reconcile) = some stored ∧
      (Truthful w .reconcile runtime view stored ↔ manifestMatches runtime stored = true)) ∧
    (Standing w held → ∃ runtime view,
      (after w held).held = some runtime ∧ Serves w runtime ∧
      observeSessionPods runtime.identity (w.pods .audit) = some view ∧
      ((∃ stored, w.manifest (.wiring .audit) = some stored ∧
          Truthful w .audit runtime view stored) ↔
        (∃ stored, w.manifest (.wiring .audit) = some stored ∧
          manifestMatches runtime stored = true) ∧ ∀ pod ∈ view.pods, pod.provisioned = true)) := by
  obtain ⟨hreports, hleaves⟩ := reports_after w held
  constructor
  · intro hready
    rcases hreports with hearly | ⟨runtime, hheld, hserves, hearly | ⟨view, hview, hreported⟩⟩
    · exact absurd hready hearly.ready
    · exact absurd hready hearly.ready
    have hprovisioned := (hreported.wiring (.inr hready)).1
    have hfacts := hreported.ready hready
    obtain ⟨stored, wired, hstored, hcomplete⟩ := hfacts.wiring
    have hcount := observe_expectedCount hview
    refine ⟨runtime, view, stored, hheld, hserves, hview, hstored, fun h => h.run, fun hrun => ?_⟩
    exact ⟨podsReady_of_counts hview hprovisioned.classes hprovisioned.missing
        (hcount ▸ hprovisioned.networks) (hcount ▸ hfacts.running), hrun,
      wiringProved_of_complete hview hprovisioned.missing hcomplete, hfacts.services,
      serves_context hserves⟩
  · intro hstanding
    rcases hleaves hstanding.live.1 hstanding.live.2 hstanding.ready with
      hloud | ⟨hprepare, hlive⟩ | ⟨runtime, view, hheld, hserves, hfacts⟩
    · exact absurd hloud hstanding.not_loud
    · rcases hstanding.prepared with h | h
      · exact absurd hprepare h
      · exact absurd h (by simp [hlive])
    refine ⟨runtime, view, hheld, hserves, hfacts.observed, ?_, ?_⟩
    · rintro ⟨stored, hstored, htruthful⟩
      exact ⟨⟨stored, hstored, htruthful.run⟩, htruthful.pods.provisioned⟩
    · rintro ⟨⟨stored, hstored, hrun⟩, hprovisioned⟩
      obtain ⟨⟨wired, hcomplete⟩, hservices⟩ := hfacts.wiring stored hstored
      obtain ⟨hmissing, hclasses⟩ := complete_iff.mp hfacts.complete
      have hcount := observe_expectedCount hfacts.observed
      have hlength := length_current hfacts.observed hmissing
      have hnetworks : view.identity.expectedCount ≤ view.provisionedCount := by
        rw [← hlength, SessionPodView.provisionedCount, List.filter_eq_self.mpr]
        exact fun pod hpod => hprovisioned pod (SessionPodView.mem_current.mp hpod).1
      refine ⟨stored, hstored, podsReady_of_counts hfacts.observed hclasses hmissing hnetworks ?_,
        hrun, wiringProved_of_complete hfacts.observed hmissing hcomplete, hservices,
        serves_context hserves⟩
      rw [hcount, hfacts.running]

/-- A pass over a wired and running node publishes Ready, and truthfully; so does a Ready session it
leaves standing. -/
theorem oneNode_ready_truthful :
    (.ready ∈ (after (OneNode.world .wiring) none).published ∧ ∃ runtime view stored,
      (after (OneNode.world .wiring) none).held = some runtime ∧
      Serves (OneNode.world .wiring) runtime ∧
      observeSessionPods runtime.identity ((OneNode.world .wiring).pods .reconcile) = some view ∧
      (OneNode.world .wiring).manifest (.wiring .reconcile) = some stored ∧
      (Truthful (OneNode.world .wiring) .reconcile runtime view stored ↔
        manifestMatches runtime stored = true)) ∧
    (Standing (OneNode.world .ready) none ∧ ∃ runtime view,
      (after (OneNode.world .ready) none).held = some runtime ∧
      Serves (OneNode.world .ready) runtime ∧
      observeSessionPods runtime.identity ((OneNode.world .ready).pods .audit) = some view ∧
      ((∃ stored, (OneNode.world .ready).manifest (.wiring .audit) = some stored ∧
          Truthful (OneNode.world .ready) .audit runtime view stored) ↔
        (∃ stored, (OneNode.world .ready).manifest (.wiring .audit) = some stored ∧
          manifestMatches runtime stored = true) ∧
            ∀ pod ∈ view.pods, pod.provisioned = true)) := by
  have hready : .ready ∈ (after (OneNode.world .wiring) none).published := by decide +kernel
  have hstanding : Standing (OneNode.world .ready) none :=
    ⟨⟨rfl, rfl⟩, rfl, fun _ _ => rfl, by decide +kernel, by decide +kernel, .inr rfl⟩
  exact ⟨⟨hready, (ready_truthful_iff (OneNode.world .wiring) none).1 hready⟩, hstanding,
    (ready_truthful_iff (OneNode.world .ready) none).2 hstanding⟩

/-- The one-node session, Ready, after its manifest was replaced or deleted. -/
def withManifest (stored : Option StoredManifest) : World :=
  { OneNode.world .ready with manifest := fun _ => stored }

/-- A Ready session stands although its manifest was deleted, or names another run in its data. -/
theorem ready_stands_without_manifest :
    (Standing (withManifest none) none ∧
      ¬ ∃ runtime view stored, (withManifest none).manifest (.wiring .audit) = some stored ∧
        Truthful (withManifest none) .audit runtime view stored) ∧
    (Standing (withManifest (some { OneNode.manifest with sessionId := some 8 })) none ∧
      ∀ runtime, (after (withManifest (some { OneNode.manifest with sessionId := some 8 }))
          none).held = some runtime →
        ¬ ∃ view stored, (withManifest (some { OneNode.manifest with sessionId := some 8 })).manifest
            (.wiring .audit) = some stored ∧
          Truthful (withManifest (some { OneNode.manifest with sessionId := some 8 })) .audit runtime
            view stored) := by
  refine ⟨⟨⟨⟨rfl, rfl⟩, rfl, fun _ _ => rfl, by decide +kernel, by decide +kernel, .inr rfl⟩, ?_⟩,
    ⟨⟨rfl, rfl⟩, rfl, fun _ _ => rfl, by decide +kernel, by decide +kernel, .inr rfl⟩, ?_⟩
  · rintro ⟨runtime, view, stored, hstored, -⟩
    cases hstored
  · rintro runtime hheld ⟨view, stored, hstored, htruthful⟩
    have hrun := htruthful.run
    cases hstored
    have hlabel : ((after (withManifest (some { OneNode.manifest with sessionId := some 8 }))
        none).held.map fun runtime => runtime.identity.runLabel) = some 7 := by decide +kernel
    rw [hheld, Option.map_some, Option.some.injEq] at hlabel
    simp [manifestMatches, hlabel] at hrun

end NodalArc.ReadyTruthful
