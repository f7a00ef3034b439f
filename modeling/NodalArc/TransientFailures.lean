import NodalArc.ManifestPlacement

/-! One transient failure of one Kubernetes call in a pass, everything else succeeding. -/

namespace NodalArc.TransientFailures

open OrderedDict
open StatefulProgram
open Program
open SessionPods
open ReconcilePass
open ReconcileOutcome
open ReadyTruthful
open ManifestPlacement

variable {requeue : Bool} {call listing : Call} {E : Exception → PassLog → Prop} {pods : List Pod}
  {node : NodeId} {t : PassLog} {phase : Phase} {p : Prop} {reader : Reader} {service : Service}
  {identity : SessionPodIdentity} {view : SessionPodView}

def Transient : Failure → Prop
  | .api status => (500 ≤ status ∧ status < 600) ∨ status = 409
  | .http => True
  | .os => True

def OnlyFails (w : World) (c : Call) (f : Failure) : Prop :=
  ∀ call, w.faults call = if call = c then some f else none

/-- The runtime `_session_runtime` computes when nothing is refused. -/
def computedRuntime (w : World) : Option Runtime := do
  let runId ← w.sessionRunId
  let resolution ← w.resolve .runtime
  let verified ← w.verify .runtime
  let selection ← w.prepare
  let identity ← SessionPodIdentity.forSession ⟨w.crName, w.cr.uid⟩ (w.sanitize runId) selection
    resolution.nodeIds
  return boundRuntime w runId resolution verified identity

/-- The runtime a pass uses: the one the driver holds, if it serves the generation, or a new one. -/
def usedRuntime (w : World) (held : Option Runtime) : Option Runtime :=
  match held with
  | some runtime =>
      if runtime.uid = w.cr.uid ∧ runtime.generation = w.cr.generation then some runtime
      else computedRuntime w
  | none => computedRuntime w

/-- Nothing but a call can fail in the pass: the CR is live, its session resolves and can be
deployed and wired, and what is read is what the Operator accepts. -/
structure Succeeds (w : World) (held : Option Runtime) (runtime : Runtime) : Prop where
  live : w.cr.uid = w.driverUid ∧ w.cr.deleting = false
  used : usedRuntime w held = some runtime
  resolves : w.resolve .ready ≠ none ∧ w.verify .ready ≠ none
  observes : ∀ reader, observeSessionPods runtime.identity (w.pods reader) ≠ none
  deploys : w.agents ≠ [] ∧ w.deployable = true ∧ w.budgetKept = true
  artifacts : ∀ name, w.artifactMatches name = true
  writes : w.placedBudgetKept = true ∧ w.wireable = true ∧ w.addressed = true
  wires : ∀ view stored, observeSessionPods runtime.identity (w.pods .reconcile) = some view →
    w.manifest (.wiring .reconcile) = some stored → wiringComplete stored view ≠ none

def Ensuring : Call → Prop
  | .listAgents | .createArtifact _ | .readArtifact _ | .readSecret | .createSecret | .listServers
  | .createPod _ | .readPod _ | .deleteBlocking _ | .patchProgress _ => True
  | _ => False

def Publishing : Call → Prop
  | .listPlacedServers | .listAddresses | .createManifest | .replaceManifest => True
  | _ => False

/-- A failure that the pass takes as an answer or never sees: a 409 on a create or a delete, an
unread proof in the Ready audit, which goes through the reconciler, and a heartbeat's message, whose
failure ends the heartbeat thread only. -/
def Absorbed (c : Call) (f : Failure) : Prop :=
  (f = .api 409 ∧ match c with
    | .createArtifact _ | .createSecret | .createPod _ | .createManifest | .createRuntimeConfig
    | .deletePod _ | .deleteBlocking _ => True
    | _ => False) ∨ match c with
    | .readProof .audit _ | .patchHeartbeat _ => True
    | _ => False

/-- A conflict on the create of a pod whose name another session's pod or a terminating one holds. -/
def Blocked (w : World) (identity : SessionPodIdentity) (c : Call) (f : Failure) : Prop :=
  f = .api 409 ∧ ∃ node, c = .createPod node ∧ (identity.classify (w.blocking node) = .foreign ∨
    identity.classify (w.blocking node) = .terminating)

/-- The handlers that take every exception for a refusal: around the runtime's inputs, around the
ensure pipeline for what is not an `ApiException`, a blocked pod among it, and around the manifest's
publication. -/
def Swallows (w : World) (identity : SessionPodIdentity) (c : Call) (f : Failure) : Prop :=
  c = .listUpload .runtime ∨ (Ensuring c ∧ ∀ status, f ≠ .api status) ∨
    Blocked w identity c f ∨ (Publishing c ∧ ¬ (c = .createManifest ∧ f = .api 409))

section Safe

variable {α β : Type} {w : World} {c : Call} {f : Failure} {K : Call → Prop}
    {X : Exception → Prop} {s : PassLog}

/-- A part of a pass publishes no Error; it returns without the failure, or after taking it for an
answer, and raises it from one of the calls `K` or raises an exception of `X`. -/
def Safe (c : Call) (f : Failure) (K : Call → Prop) (X : Exception → Prop) (m : Pass α) : Prop :=
  ∀ s : PassLog, .error ∉ s.published → wp m s
    (fun _ t => .error ∉ t.published ∧ (c ∈ t.made → c ∈ s.made ∨ Absorbed c f))
    fun e t => .error ∉ t.published ∧ ((e = .failed f ∧ K c) ∨ X e)

theorem safe_pure {a : α} : Safe c f K X (pure a) := fun _ hs => ⟨hs, .inl⟩

variable {runtime : Runtime} {m : Pass α}

theorem safe_bind {g : α → Pass β} (hm : Safe c f K X m)
    (hg : ∀ a, Safe c f K X (g a)) : Safe c f K X (m >>= g) := by
  intro s hs
  rw [wp_bind]
  refine wp_imp (hm s hs) fun a t ht => ?_
  refine wp_imp (hg a t ht.1) fun b u hu => ⟨hu.1, fun hc => ?_⟩
  rcases hu.2 hc with hc | habsorbed
  · exact ht.2 hc
  · exact .inr habsorbed

theorem wp_ask_failing (honly : OnlyFails w c f) {Q : Unit → PassLog → Prop}
    (hQ : call ≠ c → Q () (s.make call)) (hE : call = c → E (.failed f) (s.make call)) :
    wp (ask w call) s Q E := by
  refine wp_ask.mpr ⟨fun hok => hQ fun heq => ?_, fun failure hfault => ?_⟩
  · rw [honly, if_pos heq] at hok
    cases hok
  · by_cases heq : call = c
    · rw [honly, if_pos heq] at hfault
      cases hfault
      exact hE heq
    · rw [honly, if_neg heq] at hfault
      cases hfault

theorem mem_make (hne : call ≠ c) (hc : c ∈ (s.make call).made) : c ∈ s.made := by
  rcases List.mem_append.mp hc with hc | hc
  · exact hc
  · exact absurd (List.mem_singleton.mp hc).symm hne

theorem safe_ask (honly : OnlyFails w c f) (h : K call) : Safe c f K X (ask w call) := by
  intro s hs
  refine wp_ask_failing honly (fun hne => ⟨hs, fun hc => .inl (mem_make hne hc)⟩) fun heq => ?_
  exact ⟨hs, .inl ⟨rfl, heq ▸ h⟩⟩

theorem safe_ite [Decidable p] {m n : Pass α} (hm : p → Safe c f K X m)
    (hn : ¬ p → Safe c f K X n) : Safe c f K X (if p then m else n) := fun s hs =>
  wp_ite.mpr ⟨fun hp => hm hp s hs, fun hp => hn hp s hs⟩

theorem safe_when [Decidable p] {m : Pass Unit} (hm : Safe c f K X m) :
    Safe c f K X («when» p m) := fun s hs => wp_when.mpr ⟨fun _ => hm s hs, fun _ => ⟨hs, .inl⟩⟩

theorem safe_require [Decidable p] {e : Exception} (h : p) :
    Safe c f K X (require p e : Pass Unit) := fun _ hs =>
  wp_require.mpr ⟨fun _ => ⟨hs, .inl⟩, fun hp => absurd h hp⟩

theorem safe_mono {K' : Call → Prop} {X' : Exception → Prop} (h : Safe c f K X m)
    (hK : K c → K' c) (hX : ∀ e, X e → X' e) : Safe c f K' X' m := fun s hs =>
  wp_mono (h s hs) (fun _ _ ht => ht) fun e _ ht => ⟨ht.1, ht.2.imp (fun h => ⟨h.1, hK h.2⟩) (hX e)⟩

theorem safe_onApi {handler : Nat → Pass α} (hm : Safe c f K X m)
    (hX : ∀ e, X e → e.isApi = false) (hhandler : ∀ status, f = .api status → K c →
      (Absorbed c f ∧ Safe c f K X (handler status)) ∨
        handler status = throw (.failed (.api status))) : Safe c f K X (onApi m handler) := by
  intro s hs
  rw [wp_onApi]
  refine wp_mono (hm s hs) (fun _ _ ht => ht) fun e t ht => ⟨fun status heq => ?_, fun _ => ht⟩
  rcases ht.2 with ⟨rfl, hK⟩ | hx
  · cases heq
    rcases hhandler status rfl hK with ⟨habsorbed, hsafe⟩ | hthrow
    · refine wp_mono (hsafe t ht.1) (fun _ u hu => ⟨hu.1, fun _ => .inr habsorbed⟩)
        fun _ _ hu => hu
    · rw [hthrow]
      exact ht
  · rw [heq] at hx
    exact absurd (hX _ hx) (by simp [Exception.isApi])

theorem transient_ne_404 {status : Nat} (h : Transient (.api status)) : status ≠ 404 := by
  rcases h with h | h
  · omega
  · omega

theorem safe_patchPhase (honly : OnlyFails w c f) (hf : Transient f) {call : Nat → Call}
    (hX : ∀ e, X e → e.isApi = false) (hphase : phase ≠ .error) (hK : ∀ n, K (call n)) :
    Safe c f K X (patchPhase w call phase) := by
  intro s hs
  unfold patchPhase
  rw [wp_bind, wp_get, wp_bind, wp_modify, wp_bind]
  refine wp_imp (safe_onApi (safe_ask honly (hK s.patches)) hX (fun status heq _ => .inr ?_)
    { s with patches := s.patches + 1 } hs) fun _ t ht => ⟨?_, ht.2⟩
  · rw [if_neg (transient_ne_404 (heq ▸ hf))]
  · intro herror
    rcases List.mem_append.mp herror with herror | herror
    · exact ht.1 herror
    · exact hphase (List.mem_singleton.mp herror).symm

/-! ### The parts of a pass -/

/-- No exception but the failure itself. -/
abbrev Nothing : Exception → Prop := fun _ => False

variable (honly : OnlyFails w c f) (hf : Transient f)

include honly hf

theorem safe_publish (hphase : phase ≠ .error) :
    Safe c f (fun _ => True) Nothing (publish w phase) :=
  safe_patchPhase honly hf (fun _ h => h.elim) hphase fun _ => trivial

theorem safe_progress (hX : ∀ e, X e → e.isApi = false) : Safe c f Ensuring X (progress w) :=
  safe_patchPhase honly hf hX Phase.noConfusion fun _ => trivial

omit hf in
theorem safe_create {found : Pass Unit} (h : K call) (habsorbed : f = .api 409 → Absorbed call f)
    (hfound : call = c → f = .api 409 → Safe c f K X found) : Safe c f K X (onApi (ask w call) fun status =>
      if status = 409 then found else throw (.failed (.api status))) := by
  intro s hs
  rw [wp_onApi]
  refine wp_ask_failing honly (fun hne => ⟨hs, fun hc => .inl (mem_make hne hc)⟩) fun heq => ?_
  refine ⟨fun status hstatus => ?_, fun _ => ⟨hs, .inl ⟨rfl, heq ▸ h⟩⟩⟩
  rw [wp_ite]
  refine ⟨fun h409 => ?_, fun _ => ⟨hs, .inl ⟨hstatus.symm, heq ▸ h⟩⟩⟩
  have hfailure : f = .api 409 := by
    cases hstatus
    rw [h409]
  have habs : Absorbed c f := heq ▸ habsorbed hfailure
  exact wp_imp (hfound heq hfailure (s.make call) hs) fun _ t ht => ⟨ht.1, fun _ => .inr habs⟩

omit hf in
theorem safe_ensureImmutableConfigMap {name : Token} (hmatches : w.artifactMatches name = true) :
    Safe c f Ensuring X (ensureImmutableConfigMap w name) := by
  refine safe_create honly trivial (fun h => .inl ⟨h, trivial⟩) fun _ _ => ?_
  exact safe_bind (safe_ask honly trivial) fun _ => safe_require hmatches

omit hf in
theorem safe_ensureArtifacts (hmatches : ∀ name, w.artifactMatches name = true) :
    Safe c f Ensuring X (ensureArtifacts w) := by
  intro s hs
  unfold ensureArtifacts
  rw [wp_bind]
  refine wp_imp (wp_foldlM (fun _ first t => .error ∉ t.published ∧
      (first = none → c ∈ t.made → c ∈ s.made ∨ Absorbed c f) ∧
      ∀ e, first = some e → (e = .failed f ∧ Ensuring c) ∨ X e) ?_
      ⟨hs, fun _ => .inl, fun _ h => nomatch h⟩) ?_
  · intro pre name post first t _ ht
    rw [wp_bind, wp_attempt]
    have hsafe : Safe c f Ensuring X (ensureImmutableConfigMap w name) :=
      safe_ensureImmutableConfigMap honly (hmatches name)
    refine wp_mono (hsafe t ht.1) (fun _ u hu => ?_) fun e u hu => ?_
    · refine ⟨hu.1, fun hnone hc => ?_, fun e heq => ht.2.2 e ?_⟩
      · rw [Option.orElse_eq_orElse, Option.orElse_eq_or, Option.or_none] at hnone
        rcases hu.2 hc with hc | habsorbed
        · exact ht.2.1 hnone hc
        · exact .inr habsorbed
      · rwa [Option.orElse_eq_orElse, Option.orElse_eq_or, Option.or_none] at heq
    · refine ⟨hu.1, fun hnone => ?_, fun e' heq => ?_⟩
      · cases first <;> cases hnone
      · cases first with
        | none =>
          cases heq
          exact hu.2
        | some _ =>
          cases heq
          exact ht.2.2 _ rfl
  · intro first t ht
    split
    next e => exact ⟨ht.1, ht.2.2 e rfl⟩
    · exact ⟨ht.1, ht.2.1 rfl⟩

/-- The exception that waits for a Secret of an earlier CR to go. -/
abbrev Waiting : Exception → Prop := fun e => e = .retryable

omit honly hf in
theorem waiting_not_api (e : Exception) (h : Waiting e) : e.isApi = false := by
  rw [h]
  rfl

theorem safe_createTerminalSshKeys : Safe c f Ensuring Waiting (createTerminalSshKeys w) := by
  intro s hs
  unfold createTerminalSshKeys
  rw [wp_bind, wp_onApi, wp_bind]
  refine wp_ask_failing honly (fun hne => ?_) fun heq => ?_
  · have hmade : c ∈ (s.make .readSecret).made → c ∈ s.made ∨ Absorbed c f :=
      fun hc => .inl (mem_make hne hc)
    have hcreate : wp (onApi (ask w .createSecret) fun status =>
        if status = 409 then pure () else throw (.failed (.api status))) (s.make .readSecret)
        (fun _ t => .error ∉ t.published ∧ (c ∈ t.made → c ∈ s.made ∨ Absorbed c f))
        fun e t => .error ∉ t.published ∧ ((e = .failed f ∧ Ensuring c) ∨ Waiting e) := by
      refine wp_imp (safe_create honly trivial (fun h => .inl ⟨h, trivial⟩) (fun _ _ => safe_pure)
        (s.make .readSecret) hs) fun _ t ht => ⟨ht.1, fun hc => ?_⟩
      rcases ht.2 hc with hc | habsorbed
      · exact hmade hc
      · exact .inr habsorbed
    split
    · refine ⟨fun status hstatus => ?_, fun h => nomatch h⟩
      cases hstatus
      exact hcreate
    · exact ⟨hs, hmade⟩
    · exact ⟨(fun _ h => nomatch h), fun _ => ⟨hs, .inr rfl⟩⟩
  · refine ⟨fun status hstatus => ?_, fun _ => ⟨hs, .inl ⟨rfl, heq ▸ trivial⟩⟩⟩
    cases hstatus
    rw [if_neg (transient_ne_404 hf)]
    exact ⟨hs, .inl ⟨rfl, heq ▸ trivial⟩⟩

omit hf in
theorem safe_checkQueueCapacity {kept : Bool} (h : K listing) (hkept : kept = true) :
    Safe c f K X (checkQueueCapacity w listing kept) :=
  safe_ite (fun _ => safe_bind (safe_ask honly h) fun _ => safe_require hkept) fun _ => safe_pure

theorem safe_ensureSessionConfigMaps (hdeploys : w.agents ≠ [] ∧ w.deployable = true ∧
    w.budgetKept = true) (hmatches : ∀ name, w.artifactMatches name = true) :
    Safe c f Ensuring Waiting (ensureSessionConfigMaps w) := by
  have hprogress : Safe c f Ensuring Waiting (progress w) := safe_progress honly hf waiting_not_api
  refine safe_bind hprogress fun _ => ?_
  refine safe_bind (safe_ask honly trivial) fun _ => ?_
  refine safe_bind (safe_require hdeploys.1) fun _ => ?_
  refine safe_bind hprogress fun _ => ?_
  refine safe_bind hprogress fun _ => ?_
  refine safe_bind hprogress fun _ => ?_
  refine safe_bind hprogress fun _ => ?_
  refine safe_bind (safe_require hdeploys.2.1) fun _ => ?_
  refine safe_bind hprogress fun _ => ?_
  refine safe_bind hprogress fun _ => ?_
  refine safe_bind (safe_ensureArtifacts honly hmatches) fun _ => ?_
  refine safe_bind hprogress fun _ => ?_
  refine safe_bind (safe_createTerminalSshKeys honly hf) fun _ => ?_
  refine safe_bind hprogress fun _ => ?_
  refine safe_bind hprogress fun _ => ?_
  exact safe_checkQueueCapacity honly trivial hdeploys.2.2

theorem safe_deleteObserved (h : K call) (habsorbed : f = .api 409 → Absorbed call f) :
    Safe c f K X (deleteObserved w call) := by
  intro s hs
  unfold deleteObserved
  rw [wp_onApi, wp_bind]
  refine wp_ask_failing honly (fun hne => ⟨hs, fun hc => .inl (mem_make hne hc)⟩) fun heq => ?_
  refine ⟨fun status hstatus => ?_, fun _ => ⟨hs, .inl ⟨rfl, heq ▸ h⟩⟩⟩
  cases hstatus
  rw [if_neg (transient_ne_404 hf), wp_ite]
  refine ⟨fun h409 => ⟨hs, fun _ => .inr (heq ▸ habsorbed ?_)⟩, fun _ =>
    ⟨hs, .inl ⟨rfl, heq ▸ h⟩⟩⟩
  rw [h409]

theorem safe_heartbeat {alive : Bool} : Safe c f K X (heartbeat w alive node) := by
  have hbeats : ∀ n, Safe c f (fun call => ∃ n, call = .patchHeartbeat n) Nothing (beats w n) := by
    intro n
    induction n with
    | zero => exact safe_pure
    | succ n ih =>
      refine safe_bind (safe_patchPhase honly hf ?_ Phase.noConfusion fun n => ⟨n, rfl⟩) fun _ => ih
      exact fun _ h => h.elim
  refine safe_ite (fun _ s hs => ?_) fun _ => safe_pure
  rw [wp_bind, wp_attempt]
  refine wp_mono (hbeats _ s hs) (fun _ _ ht => ht) fun e t ht => ⟨ht.1, fun _ => .inr ?_⟩
  obtain ⟨n, rfl⟩ := (ht.2.resolve_right id).2
  exact .inr trivial

theorem safe_createWorkloadPod (hblocked : ¬ Blocked w identity c f) :
    Safe c f Ensuring X (createWorkloadPod w identity node) := by
  refine safe_create honly trivial (fun h => .inl ⟨h, trivial⟩) fun heq h409 => ?_
  refine safe_bind (safe_ask honly trivial) fun _ => ?_
  split
  · exact safe_pure
  next h => exact absurd ⟨h409, node, heq.symm, .inl h⟩ hblocked
  next h => exact absurd ⟨h409, node, heq.symm, .inr h⟩ hblocked
  · exact safe_bind (safe_deleteObserved honly hf trivial fun h => .inl ⟨h, trivial⟩)
      fun _ => safe_pure
  · exact safe_bind (safe_deleteObserved honly hf trivial fun h => .inl ⟨h, trivial⟩)
      fun _ => safe_pure

theorem wp_createOne {total : Nat} {creation : Creation} (hblocked : ¬ Blocked w identity c f)
    (ht : .error ∉ t.published ∧ (creation.failures = [] → c ∈ t.made → c ∈ s.made ∨ Absorbed c f)
      ∧ ∀ e ∈ creation.failures, e = .failed f ∧ Ensuring c) :
    wp (createOne w identity total creation node) t (fun creation t => .error ∉ t.published ∧
      (creation.failures = [] → c ∈ t.made → c ∈ s.made ∨ Absorbed c f) ∧
      ∀ e ∈ creation.failures, e = .failed f ∧ Ensuring c) fun _ _ => False := by
  have hcreate : Safe c f Ensuring Nothing (createWorkloadPod w identity node) :=
    safe_createWorkloadPod honly hf hblocked
  have hprogress : Safe c f Ensuring Nothing (if (creation.created + 1) % 25 = 0 ∨
      creation.created + 1 = total then progress w else pure ()) :=
    safe_ite (fun _ => safe_progress honly hf fun _ h => h.elim) fun _ => safe_pure
  have hkept : ∀ e, (e = .failed f ∧ Ensuring c) ∨ Nothing e → ∀ e' ∈ creation.failures ++ [e],
      e' = .failed f ∧ Ensuring c := by
    intro e he e' hmem
    rcases List.mem_append.mp hmem with hmem | hmem
    · exact ht.2.2 e' hmem
    · rw [List.mem_singleton.mp hmem]
      exact he.resolve_right id
  unfold createOne
  rw [wp_bind]
  refine wp_mono (safe_heartbeat (K := fun _ => False) (X := Nothing) honly hf t ht.1)
    (fun alive t' ht' => ?_) fun e t' ht' => ht'.2.elim And.right id
  have hmade : creation.failures = [] → c ∈ t'.made → c ∈ s.made ∨ Absorbed c f :=
    fun hnone hc => (ht'.2 hc).elim (ht.2.1 hnone) .inr
  rw [wp_bind, wp_attempt]
  refine wp_mono (hcreate t' ht'.1) (fun _ u hu => ?_) fun e u hu => ?_
  · change wp (attempt _ >>= _) u _ _
    rw [wp_bind, wp_attempt]
    refine wp_mono (hprogress u hu.1) (fun _ v hv => ?_) fun e v hv => ?_
    · refine ⟨hv.1, fun hnone hc => ?_, ?_⟩
      · rcases hv.2 hc with hc | habsorbed
        · rcases hu.2 hc with hc | habsorbed
          · exact hmade (by simpa using hnone) hc
          · exact .inr habsorbed
        · exact .inr habsorbed
      · simpa using ht.2.2
    · exact ⟨hv.1, fun hnone => absurd hnone (by simp), hkept e hv.2⟩
  · exact ⟨hu.1, fun hnone => absurd hnone (by simp), hkept e hu.2⟩

theorem safe_ensureSessionPods (hapi : Ensuring c → ∃ status, f = .api status)
    (hblocked : ¬ Blocked w runtime.identity c f) :
    Safe c f Ensuring Nothing (ensureSessionPods w runtime) := by
  refine safe_bind (safe_progress honly hf fun _ h => h.elim) fun _ => ?_
  intro s hs
  rw [wp_bind]
  refine wp_mono (wp_foldlM (fun _ (creation : Creation) t => .error ∉ t.published ∧
      (creation.failures = [] → c ∈ t.made → c ∈ s.made ∨ Absorbed c f) ∧
      ∀ e ∈ creation.failures, e = .failed f ∧ Ensuring c)
      (fun pre node post creation t _ ht => wp_createOne honly hf hblocked ht)
      ⟨hs, fun _ => .inl, fun _ h => nomatch h⟩) (fun creation t ht => ?_) fun _ _ h => h.elim
  split
  next hnone => exact ⟨ht.1, ht.2.1 hnone⟩
  next e rest hfailures =>
    rw [hfailures] at ht
    have hensuring := (ht.2.2 e List.mem_cons_self).2
    obtain ⟨status, hstatus⟩ := hapi hensuring
    have hall : (e :: rest).all Exception.isApi = true := by
      rw [List.all_eq_true]
      intro e' he'
      rw [(ht.2.2 e' he').1, hstatus]
      rfl
    rw [if_pos hall]
    exact ⟨ht.1, .inl (ht.2.2 e List.mem_cons_self)⟩

/-! ### Whole passes -/

/-- The end of a pass: no Error is published, an exception is raised or a requeue asked for, or the
failure was not met or taken for an answer. -/
def Ends (c : Call) (f : Failure) (m : Pass Bool) : Prop :=
  ∀ s : PassLog, .error ∉ s.published → (c ∈ s.made → Absorbed c f) → wp m s
    (fun requeue t => .error ∉ t.published ∧ (requeue = true ∨ (c ∈ t.made → Absorbed c f)))
    fun e t => .error ∉ t.published ∧ e ≠ .gone

omit honly hf in
theorem ends_pure : Ends c f (pure requeue) := fun _ hs hc => ⟨hs, .inr hc⟩

omit honly hf in
theorem ends_bind {g : α → Pass Bool} (hm : Safe c f K X m) (hX : ∀ e, X e → e ≠ .gone)
    (hg : ∀ a, Ends c f (g a)) : Ends c f (m >>= g) := by
  intro s hs hc
  rw [wp_bind]
  refine wp_mono (hm s hs) (fun a t ht => hg a t ht.1 fun hmade => ?_) fun e t ht => ⟨ht.1, ?_⟩
  · rcases ht.2 hmade with hmade | habsorbed
    · exact hc hmade
    · exact habsorbed
  · rcases ht.2 with ⟨rfl, -⟩ | hx
    · exact Exception.noConfusion
    · exact hX e hx

omit honly hf in
theorem ends_ite [Decidable p] {m n : Pass Bool} (hm : p → Ends c f m) (hn : ¬ p → Ends c f n)
    : Ends c f (if p then m else n) := fun s hs hc =>
  wp_ite.mpr ⟨fun hp => hm hp s hs hc, fun hp => hn hp s hs hc⟩

theorem ends_report (hphase : phase ≠ .error) : Ends c f (do publish w phase; return requeue) :=
  ends_bind (safe_publish honly hf hphase) (fun _ h => h.elim) fun _ => ends_pure

theorem wp_requeue (hphase : phase ≠ .error) (ht : .error ∉ t.published)
    : wp (do publish w phase; return true : Pass Bool) t
      (fun requeue u => .error ∉ u.published ∧ (requeue = true ∨ (c ∈ u.made → Absorbed c f)))
      fun e u => .error ∉ u.published ∧ e ≠ .gone := by
  rw [wp_bind]
  refine wp_mono (safe_publish honly hf hphase t ht) (fun _ u hu => ⟨hu.1, .inl rfl⟩)
    fun e u hu => ⟨hu.1, ?_⟩
  rcases hu.2 with ⟨rfl, -⟩ | hx
  · exact Exception.noConfusion
  · exact hx.elim

theorem ends_deploy (hapi : Ensuring c → ∃ status, f = .api status)
    (hdeploys : w.agents ≠ [] ∧ w.deployable = true ∧ w.budgetKept = true)
    (hmatches : ∀ name, w.artifactMatches name = true)
    (hblocked : ¬ Blocked w runtime.identity c f) : Ends c f (deploy w runtime) := by
  refine ends_bind (safe_publish honly hf Phase.noConfusion) (fun _ h => h.elim) fun _ => ?_
  intro s hs hc
  have hensure : Safe c f Ensuring Waiting (do
      ensureSessionConfigMaps w
      ensureSessionPods w runtime) :=
    safe_bind (safe_ensureSessionConfigMaps honly hf hdeploys hmatches) fun _ =>
      safe_mono (safe_ensureSessionPods honly hf hapi hblocked) id fun _ h => h.elim
  rw [wp_bind, wp_attempt]
  refine wp_mono (hensure s hs) (fun _ t ht => ?_) fun e t ht => ?_
  · refine ends_report honly hf Phase.noConfusion t ht.1 fun hmade => ?_
    exact (ht.2 hmade).elim hc id
  · rcases ht.2 with ⟨rfl, hensuring⟩ | rfl
    · obtain ⟨status, rfl⟩ := hapi hensuring
      exact wp_requeue honly hf Phase.noConfusion ht.1
    · exact wp_requeue honly hf Phase.noConfusion ht.1

/-- A check that answers `false` after the failure, where that is `excused`, or raises. -/
def Checks (c : Call) (f : Failure) (excused : Prop) (m : Pass Bool) : Prop :=
  ∀ s : PassLog, .error ∉ s.published → wp m s
    (fun passed t => .error ∉ t.published ∧
      (c ∈ t.made → c ∈ s.made ∨ Absorbed c f ∨ (passed = false ∧ excused)))
    fun e t => .error ∉ t.published ∧ e ≠ .gone

def Requeues (m : Pass Bool) : Prop :=
  ∀ s : PassLog, .error ∉ s.published → wp m s
    (fun requeue t => .error ∉ t.published ∧ requeue = true)
    fun e t => .error ∉ t.published ∧ e ≠ .gone

section Checks

variable {excused : Prop} {m n : Pass Bool}

omit honly hf

theorem checks_pure {passed : Bool} : Checks c f excused (pure passed) := fun _ hs => ⟨hs, .inl⟩

theorem checks_bind {part : Pass α} {g : α → Pass Bool} (hpart : Safe c f K Nothing part)
    (hg : ∀ a, Checks c f excused (g a)) : Checks c f excused (part >>= g) := by
  intro s hs
  rw [wp_bind]
  refine wp_mono (hpart s hs) (fun a t ht => ?_) fun e t ht => ⟨ht.1, ?_⟩
  · refine wp_imp (hg a t ht.1) fun passed u hu => ⟨hu.1, fun hc => ?_⟩
    rcases hu.2 hc with hc | hrest
    · exact (ht.2 hc).imp_right .inl
    · exact .inr hrest
  · rcases ht.2 with ⟨rfl, -⟩ | hx
    · exact Exception.noConfusion
    · exact hx.elim

theorem checks_and (hm : Checks c f excused m) (hn : Checks c f excused n) :
    Checks c f excused (do if ← m then n else pure false) := by
  intro s hs
  rw [wp_bind]
  refine wp_imp (hm s hs) fun passed t ht => ?_
  cases passed with
  | false => exact ht
  | true =>
    refine wp_imp (hn t ht.1) fun passed u hu => ⟨hu.1, fun hc => ?_⟩
    rcases hu.2 hc with hc | hrest
    · rcases ht.2 hc with hc | habsorbed | ⟨hfalse, -⟩
      · exact .inl hc
      · exact .inr (.inl habsorbed)
      · cases hfalse
    · exact .inr hrest

theorem ends_checked {k : Bool → Pass Bool} (hm : Checks c f True m) (htrue : Ends c f (k true))
    (hfalse : Requeues (k false)) : Ends c f (m >>= k) := by
  intro s hs hc
  rw [wp_bind]
  refine wp_imp (hm s hs) fun passed t ht => ?_
  cases passed with
  | false => exact wp_imp (hfalse t ht.1) fun _ u hu => ⟨hu.1, .inl hu.2⟩
  | true =>
    refine htrue t ht.1 fun hmade => ?_
    rcases ht.2 hmade with hmade | habsorbed | ⟨h, -⟩
    · exact hc hmade
    · exact habsorbed
    · cases h

end Checks

/-- The exception that reports failed patches together. -/
abbrev Rolling : Exception → Prop := fun e => e = .runtimeError

omit hf in
theorem safe_rollSessionServices {patch : Token → Call} {deployments : List Deployment}
    {runtimeHash runId : Option Token} : Safe c f (fun _ => True) Rolling
      (rollSessionServices w listing patch deployments runtimeHash runId) := by
  refine safe_bind (safe_ask honly trivial) fun _ => ?_
  intro s hs
  rw [wp_bind]
  refine wp_imp (wp_foldlM (fun _ (failures : Nat) t => .error ∉ t.published ∧
      (failures = 0 → c ∈ t.made → c ∈ s.made ∨ Absorbed c f)) ?_ ⟨hs, fun _ => .inl⟩) ?_
  · intro pre deployment post failures t _ ht
    rw [wp_ite]
    refine ⟨fun _ => ht, fun _ => ?_⟩
    rw [wp_onApi, wp_bind]
    refine wp_ask_failing honly (fun hne => ?_) fun _ => ?_
    · exact ⟨ht.1, fun hzero hc => ht.2 hzero (mem_make hne hc)⟩
    · exact ⟨fun status _ => ⟨ht.1, fun hzero => absurd hzero (by omega)⟩,
        fun _ => ⟨ht.1, .inl ⟨rfl, trivial⟩⟩⟩
  · intro failures t ht
    exact wp_require.mpr ⟨fun hzero => ⟨ht.1, ht.2 hzero⟩, fun _ => ⟨ht.1, .inr rfl⟩⟩

omit honly hf in
theorem checks_onApi {m : Pass Bool} (hm : Safe c f (fun _ => True) Rolling m) :
    Checks c f True (onApi m fun _ => pure false) := by
  intro s hs
  rw [wp_onApi]
  refine wp_mono (hm s hs) (fun _ t ht => ⟨ht.1, fun hc => (ht.2 hc).imp_right .inl⟩) fun e t ht => ?_
  refine ⟨fun _ _ => ⟨ht.1, fun _ => .inr (.inr ⟨rfl, trivial⟩)⟩, fun _ => ⟨ht.1, ?_⟩⟩
  rcases ht.2 with ⟨rfl, -⟩ | rfl
  · exact Exception.noConfusion
  · exact Exception.noConfusion

theorem checks_retireOtherRuns : Checks c f True (retireOtherRuns w runtime) := by
  have hretire : Safe c f (fun _ => True) Rolling (do
      ask w .listServices
      «when» (servicesOnOtherRun w.services runtime.sessionRunId ≠ []) (retireSessionServices w)
      return true : Pass Bool) := by
    refine safe_bind (safe_ask honly trivial) fun _ => ?_
    refine safe_bind (safe_when ?_) fun _ => safe_pure
    refine safe_bind (safe_onApi (safe_ask honly trivial) ?_ fun status heq _ => .inr ?_) fun _ => ?_
    · rintro e rfl
      rfl
    · rw [if_neg (transient_ne_404 (heq ▸ hf))]
    · exact safe_rollSessionServices honly
  exact checks_onApi hretire

omit honly hf in
theorem placement_of_provisioned
    (hview : observeSessionPods runtime.identity pods = some view) (h : Provisioned runtime view)
    : ∃ placement hosts, view.placement = some placement ∧
      hostsOf runtime.resolution.nodeIds placement = some hosts := by
  have hidentity := (observeSessionPods_spec hview).1
  have hplaced : ∀ id ∈ view.identity.expectedNodeIds, id ∈ Dict.ofList
      (view.current.filterMap fun pod => pod.server.map fun server => (pod.nodeId, server)) := by
    intro id hid
    obtain ⟨pod, hpod, rfl⟩ := SessionPodView.missingNodeIds_eq_nil.mp h.missing id hid
    have hnetwork : pod.provisioned = true := by
      refine forall_of_filter_length ?_ pod hpod
      rw [length_current hview h.missing, hidentity]
      exact h.networks
    unfold ObservedPod.provisioned at hnetwork
    rw [Bool.and_eq_true, Option.isSome_iff_exists] at hnetwork
    obtain ⟨⟨server, hserver⟩, -⟩ := hnetwork
    exact Dict.mem_ofList_iff.mpr ⟨server, List.mem_filterMap.mpr ⟨pod, hpod, by simp [hserver]⟩⟩
  refine ⟨_, _, if_pos hplaced, if_pos fun id hid => hplaced _ ?_⟩
  rw [hidentity]
  exact canonical_mem_expected hid

omit hf in
theorem safe_storeManifest (hpublishing : Publishing c → c = .createManifest ∧ f = .api 409) :
    Safe c f (fun call => Publishing call ∧ call ≠ .createManifest) Nothing
      (onApi (ask w .createManifest) fun status =>
        if status = 409 then ask w .replaceManifest else throw (.failed (.api status))) := by
  intro s hs
  rw [wp_onApi]
  refine wp_ask_failing honly (fun hne => ⟨hs, fun hc => .inl (mem_make hne hc)⟩) fun heq => ?_
  subst heq
  obtain ⟨-, rfl⟩ := hpublishing trivial
  refine ⟨fun status hstatus => ?_, fun h => nomatch h⟩
  cases hstatus
  rw [if_pos rfl]
  refine wp_ask_failing honly (fun _ => ⟨hs, fun _ => .inr (.inl ⟨rfl, trivial⟩)⟩) fun h => nomatch h

omit hf in
theorem safe_writeWiringManifest (hpublishing : Publishing c → c = .createManifest ∧ f = .api 409)
    (hwrites : w.placedBudgetKept = true ∧ w.wireable = true ∧ w.addressed = true)
    (hview : observeSessionPods runtime.identity pods = some view)
    (hprovisioned : Provisioned runtime view) :
    Safe c f (fun call => Publishing call ∧ call ≠ .createManifest) Nothing
      (writeWiringManifest w runtime view) := by
  obtain ⟨placement, hosts, hplacement, hhosts⟩ := placement_of_provisioned hview hprovisioned
  unfold writeWiringManifest
  simp only [hplacement, refuse, pure_bind, hhosts]
  refine safe_bind (safe_checkQueueCapacity honly ⟨trivial, Call.noConfusion⟩ hwrites.1) fun _ => ?_
  refine safe_bind (safe_require hwrites.2.1) fun _ => ?_
  refine safe_bind (safe_ask honly ⟨trivial, Call.noConfusion⟩) fun _ => ?_
  refine safe_bind (safe_require hwrites.2.2) fun _ => ?_
  exact safe_bind (safe_storeManifest honly hpublishing) fun _ _ hs => ⟨hs, .inl⟩

theorem ends_publishManifest (hpublishing : Publishing c → c = .createManifest ∧ f = .api 409)
    (hwrites : w.placedBudgetKept = true ∧ w.wireable = true ∧ w.addressed = true)
    (hview : observeSessionPods runtime.identity pods = some view)
    (hprovisioned : Provisioned runtime view) : Ends c f (publishManifest w runtime view) := by
  refine ends_bind (safe_publish honly hf Phase.noConfusion) (fun _ h => h.elim) fun _ => ?_
  intro s hs hc
  rw [wp_bind, wp_attempt]
  refine wp_mono (safe_writeWiringManifest honly hpublishing hwrites hview hprovisioned s hs)
    (fun _ t ht => ?_) fun e t ht => ?_
  · refine ends_report honly hf Phase.noConfusion t ht.1 fun hmade => ?_
    exact (ht.2 hmade).elim hc id
  · rcases ht.2 with ⟨-, hcall⟩ | hx
    · exact absurd (hpublishing hcall.1).1 hcall.2
    · exact hx.elim

theorem checks_startServices : Checks c f True (startServices w runtime) := by
  have hmatches : Safe c f (fun _ => True) Rolling (runtimeSessionConfigMatches w) := by
    refine safe_onApi (safe_bind (safe_ask honly trivial) fun _ => ?_) (fun _ h => by rw [h]; rfl)
      fun status heq _ => .inr ?_
    · split
      · exact safe_pure
      · exact safe_pure
    · rw [if_neg (transient_ne_404 (heq ▸ hf))]
  have hstart : Safe c f (fun _ => True) Rolling (do
      let current ← runtimeSessionConfigMatches w
      «when» (current = false) <| onApi (ask w .createRuntimeConfig) fun status =>
        if status = 409 then ask w .replaceRuntimeConfig else throw (.failed (.api status))
      rollSessionServices w .listRolled .patchRolled w.rolled
        (some runtime.verification.runtimeHash) (some runtime.sessionRunId)
      return true : Pass Bool) := by
    refine safe_bind hmatches fun _ => ?_
    refine safe_bind (safe_when ?_) fun _ => ?_
    · exact safe_create honly trivial (fun h => .inl ⟨h, trivial⟩) fun _ _ =>
        safe_ask honly trivial
    · exact safe_bind (safe_rollSessionServices honly) fun _ => safe_pure
  exact checks_onApi hstart

omit hf in
/-- An unread proof of the audit is taken for an answer; the reconciler's is excused by its requeue. -/
theorem checks_podProved {pod : ServicePod} :
    Checks c f (reader = .reconcile) (podProved w reader service runtime pod) := by
  intro s hs
  unfold podProved
  split
  next name uid _ _ =>
    rw [if_neg (not_not_intro runtime.bound.2.2), wp_tryCatch, wp_bind]
    refine wp_ask_failing honly (fun hne => ?_) fun heq => ⟨hs, fun _ => .inr ?_⟩
    · split
      · exact ⟨hs, fun hc => .inl (mem_make hne hc)⟩
      · exact ⟨hs, fun hc => .inl (mem_make hne hc)⟩
    · cases reader with
      | audit => exact .inl (.inr (heq ▸ trivial))
      | reconcile => exact .inr ⟨rfl, rfl⟩
  · exact ⟨hs, .inl⟩

omit hf in
theorem checks_allProved (pods : List ServicePod) :
    Checks c f (reader = .reconcile) (allProved w reader service runtime pods) := by
  induction pods with
  | nil => exact checks_pure
  | cons pod rest ih => exact checks_and (checks_podProved honly) ih

omit hf in
theorem checks_serviceReady :
    Checks c f (reader = .reconcile) (serviceReady w reader service runtime) := by
  refine checks_bind (safe_ask (K := fun _ => True) honly trivial) fun _ => ?_
  split
  · split
    · refine checks_bind (safe_ask (K := fun _ => True) honly trivial) fun _ => ?_
      split
      · exact checks_allProved honly _
      · exact checks_pure
    · exact checks_pure
  · exact checks_pure

omit hf in
theorem checks_platform :
    Checks c f (reader = .reconcile) (checkPlatformRuntimeReady w reader runtime) :=
  checks_and (checks_serviceReady honly) (checks_serviceReady honly)

omit hf in
/-- The platform check of either reader: an `ApiException` leaves no answer. -/
theorem wp_platform {Q : Option Bool → PassLog → Prop}
    (hs : .error ∉ s.published) (hnone : ∀ t : PassLog, .error ∉ t.published → Q none t)
    (hsome : ∀ passed, ∀ t : PassLog, .error ∉ t.published → (c ∈ t.made → c ∈ s.made ∨ Absorbed c
      f ∨ (passed = false ∧ reader = .reconcile)) → Q (some passed) t)
    (hE : ∀ e, ∀ t : PassLog, .error ∉ t.published → e ≠ .gone → E e t) :
    wp (onApi (do return some (← checkPlatformRuntimeReady w reader runtime)) fun _ => pure none) s
      Q E := by
  rw [wp_onApi, wp_bind]
  refine wp_mono (checks_platform honly s hs) (fun passed t ht => hsome passed t ht.1 ht.2)
    fun e t ht => ⟨fun _ _ => hnone t ht.1, fun _ => hE e t ht.1 ht.2⟩

theorem ends_finishSession : Ends c f (finishSession w runtime) := by
  refine ends_checked (checks_startServices honly hf) ?_ fun _ hs => ⟨hs, rfl⟩
  intro s hs hc
  change wp (onApi _ _ >>= _) s _ _
  rw [wp_bind]
  refine wp_platform honly hs (fun t ht => ⟨ht, .inl rfl⟩) (fun passed t ht hmade => ?_)
    fun e t ht he => ⟨ht, he⟩
  cases passed with
  | false => exact wp_requeue honly hf Phase.noConfusion ht
  | true =>
    refine ends_report honly hf Phase.noConfusion t ht fun h => ?_
    rcases hmade h with h | habsorbed | ⟨h, -⟩
    · exact hc h
    · exact habsorbed
    · cases h

omit hf in
theorem wp_wiringAnswer (hs : .error ∉ s.published)
    (hwires : ∀ stored, w.manifest (.wiring .reconcile) = some stored → wiringComplete stored view
      ≠ none) :
    wp (reconcilerWiring w view) s (fun check t => .error ∉ t.published ∧ match check with
      | .unread => True
      | .invalid => False
      | .checked _ _ => c ∈ t.made → c ∈ s.made) fun e t => .error ∉ t.published ∧ e ≠ .gone := by
  unfold reconcilerWiring checkWiringComplete
  rw [wp_tryCatch, wp_bind, wp_bind]
  refine wp_ask_failing honly (fun hne => ?_) fun _ => ?_
  · split
    · exact ⟨hs, trivial⟩
    next stored hstored =>
      refine wp_refuse.mpr ⟨fun answer _ => ⟨hs, mem_make hne⟩, fun hnone => ?_⟩
      exact absurd hnone (hwires stored hstored)
  · cases f with
    | api status => exact ⟨hs, trivial⟩
    | http => exact ⟨hs, Exception.noConfusion⟩
    | os => exact ⟨hs, Exception.noConfusion⟩

theorem ends_reconcileWired
    (hwires : ∀ stored, w.manifest (.wiring .reconcile) = some stored → wiringComplete stored view
      ≠ none) : Ends c f (reconcileWired w runtime view) := by
  intro s hs hc
  unfold reconcileWired
  rw [wp_bind]
  refine wp_imp (wp_wiringAnswer honly hs hwires) fun check t ht => ?_
  cases check with
  | unread => exact ⟨ht.1, .inl rfl⟩
  | invalid => exact ht.2.elim
  | checked complete wired =>
    have hmade : c ∈ t.made → Absorbed c f := fun h => hc (ht.2 h)
    cases complete with
    | false => exact ends_report honly hf Phase.noConfusion t ht.1 hmade
    | true =>
      refine ends_ite (fun _ => ends_report honly hf Phase.noConfusion)
        (fun _ => ends_finishSession honly hf) t ht.1 hmade

theorem safe_manifestCurrent : Safe c f (fun _ => True) Nothing (manifestCurrent w runtime) := by
  refine safe_onApi (safe_bind (safe_ask honly trivial) fun _ => ?_) (fun _ h => h.elim)
    fun status heq _ => .inr ?_
  · split
    · exact safe_pure
    · exact safe_pure
  · rw [if_neg (transient_ne_404 (heq ▸ hf))]

theorem safe_deletePods {call : Token → Call} (habsorbed : ∀ uid, f = .api 409 → Absorbed (call uid) f)
    (uids : List Token) : Safe c f (fun _ => True) X (deletePods w call uids) := by
  induction uids with
  | nil => exact safe_pure
  | cons uid rest ih =>
    refine safe_bind (safe_deleteObserved honly hf trivial (habsorbed uid)) fun conflicted => ?_
    exact safe_ite (fun _ => safe_pure) fun _ => ih

variable {held : Option Runtime}

omit hf in
theorem wp_auditAnswer (hs : .error ∉ s.published) :
    wp (auditWiring w view) s (fun wired t => .error ∉ t.published ∧
      (wired = none ∨ (c ∈ t.made → c ∈ s.made))) fun e t => .error ∉ t.published ∧ e ≠ .gone := by
  unfold auditWiring checkWiringComplete
  rw [wp_tryCatch, wp_bind, wp_bind]
  refine wp_ask_failing honly (fun hne => ?_) fun _ => ?_
  · split
    · exact ⟨hs, .inl rfl⟩
    · exact wp_refuse.mpr ⟨fun _ _ => ⟨hs, .inr (mem_make hne)⟩, fun _ => ⟨hs, .inr (mem_make hne)⟩⟩
  · cases f with
    | api status => exact ⟨hs, .inl rfl⟩
    | http => exact ⟨hs, Exception.noConfusion⟩
    | os => exact ⟨hs, Exception.noConfusion⟩

omit hf in
/-- The inputs of a Ready session: an upload that could not be read is reported as such. -/
theorem wp_readyAnswer (hs : .error ∉ s.published) (h : Succeeds w held runtime) :
    wp (readyInputs w runtime) s (fun inputs t => .error ∉ t.published ∧
      (inputs ≠ .unreadable → c ∈ t.made → c ∈ s.made)) fun _ _ => False := by
  unfold readyInputs runtimeInputs
  rw [wp_tryCatch, wp_bind, wp_bind, wp_tryCatch]
  refine wp_ask_failing honly (fun hne => ?_) fun _ => ⟨hs, fun h => absurd rfl h⟩
  rw [wp_bind]
  refine wp_refuse.mpr ⟨fun resolution _ => ?_, fun hnone => absurd hnone h.resolves.1⟩
  rw [wp_bind]
  exact wp_refuse.mpr ⟨fun verified _ => ⟨hs, fun _ => mem_make hne⟩,
    fun hnone => absurd hnone h.resolves.2⟩

omit hf in
theorem wp_sessionRuntime (hupload : c ≠ .listUpload .runtime)
    (hcomputed : computedRuntime w = some runtime) :
    wp (sessionRuntime w) s (fun computed t => computed = some runtime ∧
      t = s.make (.listUpload .runtime)) fun _ _ => False := by
  unfold computedRuntime at hcomputed
  obtain ⟨runId, hrunId, hcomputed⟩ := Option.bind_eq_some_iff.mp hcomputed
  obtain ⟨resolution, hresolution, hcomputed⟩ := Option.bind_eq_some_iff.mp hcomputed
  obtain ⟨verified, hverified, hcomputed⟩ := Option.bind_eq_some_iff.mp hcomputed
  obtain ⟨selection, hselection, hcomputed⟩ := Option.bind_eq_some_iff.mp hcomputed
  obtain ⟨identity, hidentity, hcomputed⟩ := Option.bind_eq_some_iff.mp hcomputed
  unfold sessionRuntime runtimeInputs
  simp only [hrunId, hresolution, hverified, refuse, pure_bind]
  rw [wp_bind, wp_tryCatch, wp_bind, wp_bind, wp_tryCatch]
  refine wp_ask_failing honly (fun _ => ?_) fun heq => absurd heq.symm hupload
  change wp (preparedRuntime w runId resolution verified) _ _ _
  unfold preparedRuntime
  simp only [hselection, hidentity]
  exact ⟨hcomputed, rfl⟩

omit hf in
theorem wp_usedRuntime (hupload : c ≠ .listUpload .runtime)
    (hused : usedRuntime w held = some runtime) (hheld : s.held = held) (hs : .error ∉ s.published) :
    wp (heldRuntime w) s (fun used t => used = some runtime ∧ .error ∉ t.published ∧
      (c ∈ t.made → c ∈ s.made)) fun _ _ => False := by
  have hcompute : computedRuntime w = some runtime → wp (do
      let computed ← sessionRuntime w
      modify fun log => { log with held := computed }
      return computed : Pass (Option Runtime)) s (fun used t => used = some runtime ∧
        .error ∉ t.published ∧ (c ∈ t.made → c ∈ s.made)) fun _ _ => False := by
    intro hcomputed
    rw [wp_bind]
    refine wp_imp (wp_sessionRuntime honly hupload hcomputed) fun computed t ht => ?_
    rw [wp_bind, wp_modify]
    obtain ⟨hsome, rfl⟩ := ht
    exact ⟨hsome, hs, mem_make hupload.symm⟩
  unfold heldRuntime usedRuntime at *
  rw [wp_bind, wp_get, hheld]
  cases held with
  | none => exact hcompute hused
  | some kept =>
    rw [wp_ite]
    refine ⟨fun hserves => ?_, fun hserves => ?_⟩
    · simp only [hserves, and_self, if_true] at hused
      exact ⟨hused, hs, id⟩
    · simp only [hserves, if_false] at hused
      exact hcompute hused

section Succeeding

variable (h : Succeeds w held runtime) (hswallows : ¬ Swallows w runtime.identity c f)

include h hswallows

theorem ends_reconcileView
    (hview : observeSessionPods runtime.identity (w.pods .reconcile) = some view) :
    Ends c f (reconcileView w runtime view) := by
  have hapi : Ensuring c → ∃ status, f = .api status := by
    intro hensuring
    by_contra hnone
    exact hswallows (.inr (.inl ⟨hensuring, fun status heq => hnone ⟨status, heq⟩⟩))
  have hpublishing : Publishing c → c = .createManifest ∧ f = .api 409 := by
    intro hpublishing
    by_contra hnot
    exact hswallows (.inr (.inr (.inr ⟨hpublishing, hnot⟩)))
  unfold reconcileView
  refine ends_ite (fun _ => ends_report honly hf Phase.noConfusion) fun hforeign => ?_
  refine ends_ite (fun _ => ?_) fun hdeletable => ?_
  · have hdelete : Safe c f (fun _ => True) Nothing
        (deletePods w .deletePod (view.deletable.map ObservedPod.uid)) :=
      safe_deletePods honly hf (fun _ h => .inl ⟨h, trivial⟩) _
    exact ends_bind hdelete (fun _ h => h.elim) fun _ => ends_report honly hf Phase.noConfusion
  refine ends_ite (fun _ => ends_report honly hf Phase.noConfusion) fun hterminating => ?_
  refine ends_ite (fun _ => ends_deploy honly hf hapi h.deploys h.artifacts
    fun hblocked => hswallows (.inr (.inr (.inl hblocked)))) fun hmissing => ?_
  refine ends_ite (fun _ => ends_report honly hf Phase.noConfusion) fun hnetworks => ?_
  have hprovisioned : Provisioned runtime view :=
    ⟨forall_current (not_not.mp hforeign) (not_not.mp hdeletable) (not_not.mp hterminating),
      not_not.mp hmissing, not_lt.mp hnetworks⟩
  refine ends_bind (safe_manifestCurrent honly hf) (fun _ h => h.elim) fun current => ?_
  exact ends_ite (fun _ => ends_reconcileWired honly hf fun stored => h.wires view stored hview)
    fun _ => ends_publishManifest honly hf hpublishing h.writes hview hprovisioned

theorem ends_reconcileSession :
    Ends c f (reconcileSession w runtime) := by
  refine ends_bind (K := fun _ => True) (X := Nothing) (fun s hs => ⟨hs, .inl⟩) (fun _ h => h.elim)
    fun _ => ?_
  refine ends_checked (checks_retireOtherRuns honly hf) ?_ fun _ hs => ⟨hs, rfl⟩
  refine ends_ite (fun _ => ?_) fun h => absurd rfl h
  refine ends_bind (safe_ask (K := fun _ => True) (X := Nothing) honly trivial) (fun _ h => h.elim)
    fun _ => ?_
  obtain ⟨view, hview⟩ := Option.ne_none_iff_exists'.mp (h.observes .reconcile)
  rw [hview]
  exact ends_reconcileView honly hf h hswallows hview

/-! ### The Ready audit -/

theorem ends_auditServices : Ends c f (auditServices w runtime view) := by
  have hreconcile := ends_reconcileSession honly hf h hswallows
  intro s hs hc
  unfold auditServices
  rw [wp_bind]
  refine wp_imp (wp_auditAnswer honly hs) fun wired t ht => ?_
  have hmade : wired ≠ none → c ∈ t.made → Absorbed c f := fun hsome h =>
    hc (ht.2.resolve_left hsome h)
  match wired with
  | none => exact ⟨ht.1, .inl rfl⟩
  | some false => exact hreconcile t ht.1 (hmade nofun)
  | some true =>
    change wp (onApi _ _ >>= _) t _ _
    rw [wp_bind]
    refine wp_platform honly ht.1 (fun u hu => ⟨hu, .inl rfl⟩) (fun passed u hu hplatform => ?_)
      fun e u hu he => ⟨hu, he⟩
    have hmet : c ∈ u.made → Absorbed c f := by
      intro hcall
      rcases hplatform hcall with hcall | habsorbed | ⟨-, hreader⟩
      · exact hmade nofun hcall
      · exact habsorbed
      · cases hreader
    cases passed with
    | false => exact hreconcile u hu hmet
    | true => exact ends_ite (fun _ => ends_pure) (fun _ => hreconcile) u hu hmet

theorem ends_auditReady :
    Ends c f (auditReady w runtime) := by
  have hreconcile := ends_reconcileSession honly hf h hswallows
  have hlisted : Checks c f True (onApi (do
      ask w (.listPods .audit)
      return true) fun _ => pure false) :=
    checks_onApi (safe_bind (safe_ask honly trivial) fun _ => safe_pure)
  refine ends_checked hlisted ?_ fun _ hs => ⟨hs, rfl⟩
  refine ends_ite (fun _ => ?_) fun h => absurd rfl h
  obtain ⟨view, hview⟩ := Option.ne_none_iff_exists'.mp (h.observes .audit)
  rw [hview]
  exact ends_ite (fun _ => ends_auditServices honly hf h hswallows) fun _ => hreconcile

theorem ends_driveRuntime :
    Ends c f (driveRuntime w runtime) := by
  refine ends_ite (fun _ => ?_) fun _ => ends_reconcileSession honly hf h hswallows
  intro s hs hc
  rw [wp_bind]
  refine wp_mono (wp_readyAnswer honly hs h) (fun inputs t ht => ?_) fun _ _ h => h.elim
  cases inputs with
  | changed => exact ⟨ht.1, .inl rfl⟩
  | unreadable => exact ⟨ht.1, .inl rfl⟩
  | invalid => exact ⟨ht.1, .inr fun hmade => hc (ht.2 nofun hmade)⟩
  | current =>
    exact ends_auditReady honly hf h hswallows t ht.1 fun hmade => hc (ht.2 nofun hmade)

/-! ### The runtime and the pass -/

theorem ends_driverPass :
    wp (driverPass w) (PassLog.start held)
      (fun requeue t => .error ∉ t.published ∧ (requeue = true ∨ (c ∈ t.made → Absorbed c f)))
      fun e t => .error ∉ t.published ∧ e ≠ .gone := by
  have hupload : c ≠ .listUpload .runtime := fun heq => hswallows (.inl heq)
  have hstart : .error ∉ (PassLog.start held).published := List.not_mem_nil
  unfold driverPass
  rw [wp_bind, wp_onApi]
  refine wp_ask_failing honly (fun hne => ?_) fun _ => ?_
  · rw [wp_bind]
    refine wp_require.mpr ⟨fun _ => ?_, fun hlive => absurd h.live hlive⟩
    have hmade : c ∉ ((PassLog.start held).make .readCr).made := fun hc =>
      List.not_mem_nil (mem_make hne hc)
    unfold driveOnce
    rw [wp_ite]
    refine ⟨fun _ => ⟨hstart, .inr fun hc => absurd hc hmade⟩, fun _ => ?_⟩
    rw [wp_bind]
    refine wp_mono (wp_usedRuntime honly hupload h.used rfl hstart) (fun used t ht => ?_)
      fun _ _ h => h.elim
    obtain ⟨rfl, hnoError, hcalls⟩ := ht
    exact ends_driveRuntime honly hf h hswallows t hnoError fun hc => absurd (hcalls hc) hmade
  · refine ⟨fun status heq => ?_, fun _ => ⟨hstart, Exception.noConfusion⟩⟩
    cases heq
    rw [if_neg (transient_ne_404 hf)]
    exact ⟨hstart, Exception.noConfusion⟩

end Succeeding

end Safe

/-- Whether the driver makes another pass by itself: the pass asked for a requeue or raised. -/
def reschedules (w : World) (held : Option Runtime) : Bool :=
  match ((driverPass w).exec (PassLog.start held)).1 with
  | .ok requeue => requeue
  | .error .gone => false
  | .error _ => true

/-- A transient failure of one call, everything else succeeding, publishes no Error, and the driver
makes another pass, except that a conflict of a create or a delete is an answer and an unread proof
in the audit leads to the reconciler.  The handlers that take any exception for a refusal are left
out. -/
theorem transient_failure_retried (w : World) (held : Option Runtime) (runtime : Runtime) (c : Call)
    (f : Failure) (honly : OnlyFails w c f) (hf : Transient f) (h : Succeeds w held runtime)
    (hswallows : ¬ Swallows w runtime.identity c f) : .error ∉ (after w held).published ∧
      (c ∈ (after w held).made → reschedules w held = true ∨ Absorbed c f) := by
  have hpass := ends_driverPass honly hf h hswallows
  unfold reschedules after
  unfold wp at hpass
  cases hexec : (driverPass w).exec (PassLog.start held) with
  | mk result log =>
    rw [hexec] at hpass
    cases result with
    | ok requeue =>
      refine ⟨hpass.1, fun hc => ?_⟩
      rcases hpass.2 with hrequeue | habsorbed
      · exact .inl hrequeue
      · exact .inr (habsorbed hc)
    | error e =>
      refine ⟨hpass.1, fun _ => .inl ?_⟩
      cases e with
      | gone => exact absurd rfl hpass.2
      | _ => rfl

def failing (w : World) (c : Call) (f : Failure) : World :=
  { w with faults := fun call => if call = c then some f else none }

def oneNode (phase : Phase) (pods : List Pod) : World :=
  { OneNode.world phase with pods := fun _ => pods }

theorem oneNode_succeeds (phase : Phase) (pods : List Pod) (c : Call) (f : Failure)
    (hobserves : observeSessionPods OneNode.runtime.identity pods ≠ none)
    (hwires : (observeSessionPods OneNode.runtime.identity pods).bind
      (wiringComplete OneNode.manifest) ≠ none) :
    Succeeds (failing (oneNode phase pods) c f) none OneNode.runtime where
  live := ⟨rfl, rfl⟩
  used := rfl
  resolves := ⟨Option.some_ne_none _, Option.some_ne_none _⟩
  observes := fun _ => hobserves
  deploys := ⟨List.cons_ne_nil _ _, rfl, rfl⟩
  artifacts := fun _ => rfl
  writes := ⟨rfl, rfl, rfl⟩
  wires := by
    intro view stored hview hstored
    obtain rfl : OneNode.manifest = stored := Option.some.inj hstored
    change observeSessionPods OneNode.runtime.identity pods = some view at hview
    rwa [hview] at hwires

/-- The manifest cannot be read while a Ready session is audited. -/
theorem oneNode_audit_retried : reschedules (failing (oneNode .ready [OneNode.pod])
    (.readManifest (.wiring .audit)) (.api 503)) none = true := by
  have h := transient_failure_retried
    (failing (oneNode .ready [OneNode.pod]) (.readManifest (.wiring .audit)) (.api 503)) none
    OneNode.runtime (.readManifest (.wiring .audit)) (.api 503) (fun _ => rfl)
    (.inl ⟨by decide, by decide⟩)
    (oneNode_succeeds _ _ _ _ (by decide +kernel) (by decide +kernel))
    (by rintro (h | ⟨h, -⟩ | ⟨h, -⟩ | ⟨h, -⟩) <;> cases h)
  refine (h.2 (by decide +kernel)).resolve_right ?_
  rintro (⟨h, -⟩ | h) <;> cases h

/-- A conflict while the one pod is created and a heartbeat's message that fails end the pass without
a requeue, and the upload's list that fails while the runtime is computed publishes Error. -/
theorem conflict_without_requeue :
    (∀ c f, Succeeds (failing (oneNode .pending []) c f) none OneNode.runtime) ∧
    (∀ failed ∈ [(Call.createPod OneNode.node, Failure.api 409), (.patchHeartbeat 12, .api 503)],
      failed.1 ∈ (after (failing (oneNode .pending []) failed.1 failed.2) none).made ∧
      reschedules (failing (oneNode .pending []) failed.1 failed.2) none = false) ∧
    .error ∈ (after (failing (oneNode .pending []) (.listUpload .runtime) (.api 503))
      none).published := by
  refine ⟨fun c f => oneNode_succeeds _ _ _ _ ?_ ?_, ?_, ?_⟩ <;> decide +kernel

end NodalArc.TransientFailures
