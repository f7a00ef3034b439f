import NodalArc.ReconcilePass

/-! What a reconcile can do.  Every part of it but two publishes no phase beyond Creating and writes
no manifest; the two are followed in full, with the observations they rest on. -/

namespace NodalArc.ReconcileOutcome

open OrderedDict
open StatefulProgram
open Program
open SessionPods
open ReconcilePass

variable {wired : Nat} {phase : Phase} {stored : StoredManifest}

/-- How a pass moves: it makes calls, publishes phases and may enter the reconciler. -/
structure Extends (s t : PassLog) : Prop where
  made : s.made ⊆ t.made
  published : s.published <+: t.published
  reconciling : s.reconciling = true → t.reconciling = true
  held : t.held = s.held
  dropped : t.dropped = s.dropped

/-- A move that publishes neither Wiring nor Ready and writes no manifest. -/
structure Quietly (s t : PassLog) : Prop extends Extends s t where
  wiring : .wiring ∈ t.published → .wiring ∈ s.published
  ready : .ready ∈ t.published → .ready ∈ s.published
  written : t.written = s.written

theorem Extends.trans {s t u : PassLog} (h : Extends s t) (h' : Extends t u) : Extends s u where
  made := fun _ hx => h'.made (h.made hx)
  published := h.published.trans h'.published
  reconciling := fun hr => h'.reconciling (h.reconciling hr)
  held := h'.held.trans h.held
  dropped := h'.dropped.trans h.dropped

instance : Std.Refl Extends := ⟨fun _ => ⟨fun _ h => h, List.prefix_rfl, id, rfl, rfl⟩⟩

instance : IsTrans PassLog Extends := ⟨fun _ _ _ h h' => h.trans h'⟩

instance : Std.Refl Quietly := ⟨fun s => ⟨Std.Refl.refl s, id, id, rfl⟩⟩

instance : IsTrans PassLog Quietly := ⟨fun _ _ _ h h' =>
  ⟨h.toExtends.trans h'.toExtends, fun hw => h.wiring (h'.wiring hw), fun hr => h.ready (h'.ready hr),
    h'.written.trans h.written⟩⟩

variable {w : World} {α : Type} {runtime : Runtime} {view : SessionPodView}

theorem quietly_make (s : PassLog) (call : Call) : Quietly s (s.make call) :=
  ⟨⟨List.subset_append_left _ _, List.prefix_rfl, id, rfl, rfl⟩, id, id, rfl⟩

theorem failed_make {s : PassLog} {call : Call} {failure : Failure}
    (h : w.faults call = some failure) : ∃ c ∈ (s.make call).made, w.faults c ≠ none :=
  ⟨call, by simp [PassLog.make], by simp [h]⟩

theorem within_ask (call : Call) : Within Quietly (ask w call) := fun s =>
  wp_ask.mpr ⟨fun _ => quietly_make s call, fun _ _ => quietly_make s call⟩

section Parts

variable {R : PassLog → PassLog → Prop} [Std.Refl R] [IsTrans PassLog R]

theorem within_onApi {m : Pass α} {handler : Nat → Pass α} (h : Within R m)
    (hhandler : ∀ status, Within R (handler status)) : Within R (onApi m handler) := by
  refine within_tryCatch h fun e => ?_
  split
  · exact hhandler _
  · exact within_throw

theorem within_attempt {m : Pass Unit} (h : Within R m) : Within R (attempt m) :=
  within_tryCatch (within_bind h fun _ => within_pure) fun _ => within_pure

end Parts

theorem extends_publish (s : PassLog) (phase : Phase) :
    Extends s { s with published := s.published ++ [phase] } :=
  ⟨fun _ h => h, List.prefix_append _ _, id, rfl, rfl⟩

theorem extends_patches (s : PassLog) (n : Nat) : Quietly s { s with patches := n } :=
  ⟨⟨fun _ h => h, List.prefix_rfl, id, rfl, rfl⟩, id, id, rfl⟩

theorem quietly_publish (hwiring : phase ≠ .wiring) (hready : phase ≠ .ready) (s : PassLog)
    : Quietly s { s with published := s.published ++ [phase] } := by
  refine ⟨extends_publish s phase, fun h => ?_, fun h => ?_, rfl⟩
  · rcases List.mem_append.mp h with h | h
    · exact h
    · exact absurd (List.mem_singleton.mp h).symm hwiring
  · rcases List.mem_append.mp h with h | h
    · exact h
    · exact absurd (List.mem_singleton.mp h).symm hready

theorem within_patchPhase {call : Nat → Call} (hwiring : phase ≠ .wiring)
    (hready : phase ≠ .ready) : Within Quietly (patchPhase w call phase) := by
  refine within_bind within_get fun log => ?_
  refine within_bind (within_modify fun s => extends_patches s _) fun _ => ?_
  refine within_bind (within_onApi (within_ask _) fun _ => within_throw) fun _ => ?_
  exact within_modify (quietly_publish hwiring hready)

theorem within_publish (hwiring : phase ≠ .wiring) (hready : phase ≠ .ready) :
    Within Quietly (publish w phase) := within_patchPhase hwiring hready

theorem within_progress : Within Quietly (progress w) :=
  within_patchPhase Phase.noConfusion Phase.noConfusion

theorem within_report (hwiring : phase ≠ .wiring) (hready : phase ≠ .ready) (result : α)
    : Within Quietly (do publish w phase; return result : Pass α) :=
  within_bind (within_publish hwiring hready) fun _ => within_pure

theorem within_deleteObserved (call : Call) : Within Quietly (deleteObserved w call) := by
  refine within_onApi (within_bind (within_ask call) fun _ => within_pure) fun status => ?_
  refine within_ite (fun _ => within_pure) fun _ => ?_
  exact within_ite (fun _ => within_pure) fun _ => within_throw

theorem within_deletePods (call : Token → Call) (uids : List Token) :
    Within Quietly (deletePods w call uids) := by
  induction uids with
  | nil => exact within_pure
  | cons uid rest ih =>
    refine within_bind (within_deleteObserved _) fun conflicted => ?_
    exact within_ite (fun _ => within_pure) fun _ => ih

theorem within_convergeSelectionFailure : Within Quietly (convergeSelectionFailure w) := by
  refine within_bind (within_ask _) fun _ => ?_
  refine within_ite (fun _ => ?_) fun _ => within_pure
  refine within_bind (within_ask _) fun _ => ?_
  refine within_bind (within_deletePods _ _) fun _ => ?_
  refine within_publish ?_ ?_ <;> split <;> exact Phase.noConfusion

theorem within_rollSessionServices (listing : Call) (patch : Token → Call)
    (deployments : List Deployment) (runtimeHash runId : Option Token) :
    Within Quietly (rollSessionServices w listing patch deployments runtimeHash runId) := by
  refine within_bind (within_ask _) fun _ => ?_
  refine within_bind (within_foldlM fun failures deployment _ => ?_) fun failures => ?_
  · refine within_ite (fun _ => within_pure) fun _ => ?_
    exact within_onApi (within_bind (within_ask _) fun _ => within_pure) fun _ => within_pure
  · exact within_require

theorem within_retireOtherRuns : Within Quietly (retireOtherRuns w runtime) := by
  refine within_onApi ?_ fun _ => within_pure
  refine within_bind (within_ask _) fun _ => ?_
  refine within_bind (within_when fun _ => ?_) fun _ => within_pure
  refine within_bind (within_onApi (within_ask _) fun _ => ?_) fun _ => ?_
  · exact within_ite (fun _ => within_pure) fun _ => within_throw
  · exact within_rollSessionServices _ _ _ _ _

theorem within_ensureImmutableConfigMap (name : Token) :
    Within Quietly (ensureImmutableConfigMap w name) := by
  refine within_onApi (within_ask _) fun status => ?_
  refine within_ite (fun _ => ?_) fun _ => within_throw
  exact within_bind (within_ask _) fun _ => within_require

theorem within_ensureArtifacts : Within Quietly (ensureArtifacts w) := by
  refine within_bind (within_foldlM fun first name _ => ?_) fun failure => ?_
  · exact within_bind (within_attempt (within_ensureImmutableConfigMap name)) fun _ => within_pure
  · split
    · exact within_throw
    · exact within_pure

theorem within_createTerminalSshKeys : Within Quietly (createTerminalSshKeys w) := by
  refine within_bind (within_onApi ?_ fun status => ?_) fun found => ?_
  · refine within_bind (within_ask _) fun _ => ?_
    split
    · exact within_throw
    · exact within_pure
    · exact within_throw
  · exact within_ite (fun _ => within_pure) fun _ => within_throw
  · refine within_ite (fun _ => within_pure) fun _ => ?_
    refine within_onApi (within_ask _) fun status => ?_
    exact within_ite (fun _ => within_pure) fun _ => within_throw

theorem within_checkQueueCapacity (listing : Call) (kept : Bool) :
    Within Quietly (checkQueueCapacity w listing kept) := by
  refine within_ite (fun _ => ?_) fun _ => within_pure
  exact within_bind (within_ask _) fun _ => within_require

theorem within_ensureSessionConfigMaps : Within Quietly (ensureSessionConfigMaps w) := by
  refine within_bind within_progress fun _ => ?_
  refine within_bind (within_ask _) fun _ => ?_
  refine within_bind within_require fun _ => ?_
  refine within_bind within_progress fun _ => ?_
  refine within_bind within_progress fun _ => ?_
  refine within_bind within_progress fun _ => ?_
  refine within_bind within_progress fun _ => ?_
  refine within_bind within_require fun _ => ?_
  refine within_bind within_progress fun _ => ?_
  refine within_bind within_progress fun _ => ?_
  refine within_bind within_ensureArtifacts fun _ => ?_
  refine within_bind within_progress fun _ => ?_
  refine within_bind within_createTerminalSshKeys fun _ => ?_
  refine within_bind within_progress fun _ => ?_
  refine within_bind within_progress fun _ => ?_
  exact within_checkQueueCapacity _ _

theorem within_createWorkloadPod (identity : SessionPodIdentity) (node : NodeId) :
    Within Quietly (createWorkloadPod w identity node) := by
  refine within_onApi (within_ask _) fun status => ?_
  refine within_ite (fun _ => ?_) fun _ => within_throw
  refine within_bind (within_ask _) fun _ => ?_
  split
  · exact within_pure
  · exact within_throw
  · exact within_throw
  · exact within_bind (within_deleteObserved _) fun _ => within_pure
  · exact within_bind (within_deleteObserved _) fun _ => within_pure

theorem within_heartbeat (alive : Bool) (node : NodeId) : Within Quietly (heartbeat w alive node) := by
  have hbeats : ∀ n, Within Quietly (beats w n) := by
    intro n
    induction n with
    | zero => exact within_pure
    | succ n ih => exact within_bind (within_patchPhase Phase.noConfusion Phase.noConfusion) fun _ => ih
  refine within_ite (fun _ => ?_) fun _ => within_pure
  exact within_bind (within_attempt (hbeats _)) fun _ => within_pure

theorem within_createOne (identity : SessionPodIdentity) (total : Nat) (creation : Creation)
    (node : NodeId) : Within Quietly (createOne w identity total creation node) := by
  refine within_bind (within_heartbeat creation.alive node) fun alive => ?_
  refine within_bind (within_attempt (within_createWorkloadPod identity node)) fun failure => ?_
  split
  · exact within_pure
  · refine within_bind (within_attempt (within_ite (fun _ => within_progress) fun _ => ?_))
      fun _ => within_pure
    exact within_pure

theorem within_ensureSessionPods : Within Quietly (ensureSessionPods w runtime) := by
  refine within_bind within_progress fun _ => ?_
  refine within_bind (within_foldlM fun creation node _ => within_createOne _ _ _ _)
    fun creation => ?_
  split
  · exact within_pure
  · exact within_throw

theorem within_deploy : Within Quietly (deploy w runtime) := by
  refine within_bind (within_publish Phase.noConfusion Phase.noConfusion) fun _ => ?_
  refine within_bind (within_attempt (within_bind within_ensureSessionConfigMaps fun _ =>
    within_ensureSessionPods)) fun failure => ?_
  split
  · exact within_report Phase.noConfusion Phase.noConfusion _
  · exact within_report Phase.noConfusion Phase.noConfusion _
  · exact within_bind within_convergeSelectionFailure fun _ => within_pure
  · exact within_report Phase.noConfusion Phase.noConfusion _
  · exact within_report Phase.noConfusion Phase.noConfusion _

theorem within_startServices : Within Quietly (startServices w runtime) := by
  refine within_onApi ?_ fun _ => within_pure
  refine within_bind (within_onApi ?_ fun _ => ?_) fun current => ?_
  · refine within_bind (within_ask _) fun _ => ?_
    split <;> exact within_pure
  · exact within_ite (fun _ => within_pure) fun _ => within_throw
  · refine within_bind (within_when fun _ => within_onApi (within_ask _) fun _ => ?_) fun _ => ?_
    · exact within_ite (fun _ => within_ask _) fun _ => within_throw
    · exact within_bind (within_rollSessionServices _ _ _ _ _) fun _ => within_pure

/-! ### What the checks establish -/

/-- A pod carries the ready row of a manifest node. -/
structure Proves (manifest : WiringManifest) (id : NodeId) (pod : ObservedPod)
    (row : NodeWiringStatus) : Prop where
  carried : pod.wiringProof = some (.row row)
  node : row.nodeId = id
  named : canonicalNodeId id = pod.nodeId
  uid : row.podUid = pod.uid
  ready : row.readyFor manifest = true

/-- The manifest has a node for every expected one; each of its nodes has a pod that proves it, and
each pod proves one of its nodes. -/
structure WiringProved (manifest : WiringManifest) (view : SessionPodView) : Prop where
  count : manifest.hosts.keys.length = view.identity.expectedCount
  nodes : ∀ id ∈ manifest.hosts.keys, ∃ pod ∈ view.current, ∃ row, Proves manifest id pod row
  pods : ∀ pod ∈ view.current, ∃ id ∈ manifest.hosts.keys, ∃ row, Proves manifest id pod row

/-- Every row kept is the row of one of the pods, and names that pod and its node. -/
def RowsOf (pods : List ObservedPod) (rows : Dict NodeId NodeWiringStatus) : Prop :=
  ∀ id row, rows.get? id = some row → row.nodeId = id ∧ ∃ pod ∈ pods,
    pod.wiringProof = some (.row row) ∧ canonicalNodeId id = pod.nodeId ∧ row.podUid = pod.uid

theorem rowsOf_wiringRows {pods : List ObservedPod} {rows : Dict NodeId NodeWiringStatus}
    (h : wiringRows pods = some rows) : RowsOf pods rows := by
  -- the rows come from the pods read so far, which are some of all the pods
  suffices hrows : ∀ all, pods ⊆ all → RowsOf all rows from hrows pods (List.Subset.refl _)
  intro all hall
  unfold wiringRows at h
  have hbefore : RowsOf all ∅ := by
    intro id row hrow
    cases hrow
  generalize (∅ : Dict NodeId NodeWiringStatus) = before at h hbefore
  induction pods generalizing before with
  | nil =>
    cases h
    exact hbefore
  | cons pod rest ih =>
    rw [List.foldlM_cons] at h
    obtain ⟨hpod, hrest⟩ := List.cons_subset.mp hall
    split at h
    · exact ih hrest before h hbefore
    · cases h
    next row hproof =>
      split at h
      · cases h
      next hnames =>
        push Not at hnames
        refine ih hrest _ h fun id kept hkept => ?_
        rw [Dict.get?_insert] at hkept
        split at hkept
        next hid =>
          cases hkept
          subst hid
          exact ⟨rfl, pod, hpod, hproof, hnames.1, hnames.2⟩
        · exact hbefore id kept hkept

theorem guard_eq_some {c : Prop} [Decidable c] {u : Unit} (h : (guard c : Option Unit) = some u) :
    c := by
  by_contra hc
  simp [guard, hc] at h

theorem wiringComplete_inv (h : wiringComplete stored view = some (true, wired)) : ∃ manifest rows,
      stored.decode = some manifest ∧ manifest.hosts.keys.length = view.identity.expectedCount ∧
      wiringRows view.current = some rows ∧
      ∀ id ∈ manifest.hosts.keys, ∃ row, rows.get? id = some row ∧ row.readyFor manifest = true := by
  unfold wiringComplete at h
  simp only [Option.bind_eq_bind, Option.bind_eq_some_iff] at h
  obtain ⟨manifest, hdecode, _, hcount, rows, hrows, h⟩ := h
  have hcount := guard_eq_some hcount
  refine ⟨manifest, rows, hdecode, hcount, hrows, fun id hid => ?_⟩
  split at h
  · cases h
  simp only [Option.bind_eq_some_iff] at h
  obtain ⟨_, _, _, _, h⟩ := h
  have hready := (Prod.mk.inj (Option.some.inj h)).1
  rw [decide_eq_true_eq, ← hcount] at hready
  have hall := forall_of_filter_length hready.ge id hid
  rw [Option.any_eq_true] at hall
  obtain ⟨row, hrow, hok⟩ := hall
  exact ⟨row, (Dict.get?_filter_eq_some_iff.mp hrow).1, hok⟩

theorem exists_preimage {β γ : Type*} {xs : List β} {ys : List γ} (hnodup : xs.Nodup)
    (hlength : ys.length = xs.length) {P : β → γ → Prop}
    (hinj : ∀ x x' y, P x y → P x' y → x = x') (h : ∀ x ∈ xs, ∃ y ∈ ys, P x y) :
    ∀ y ∈ ys, ∃ x ∈ xs, P x y := by
  classical
  choose f hf hP using h
  have himage : (xs.attach.map fun x => f x.1 x.2).Nodup := by
    refine (List.nodup_map_iff_inj_on (List.nodup_attach.mpr hnodup)).mpr fun x _ x' _ heq => ?_
    refine Subtype.ext (hinj x.1 x'.1 _ (hP x.1 x.2) ?_)
    rw [heq]
    exact hP x'.1 x'.2
  have hsub : (xs.attach.map fun x => f x.1 x.2) ⊆ ys := by
    intro y hy
    obtain ⟨x, -, rfl⟩ := List.mem_map.mp hy
    exact hf x.1 x.2
  have hperm := (List.subperm_of_subset himage hsub).perm_of_length_le (by simp [hlength])
  intro y hy
  obtain ⟨x, -, rfl⟩ := List.mem_map.mp (hperm.mem_iff.mpr hy)
  exact ⟨x.1, x.2, hP x.1 x.2⟩

theorem wiringProved_of_complete {identity : SessionPodIdentity} {listed : List Pod}
    (hview : observeSessionPods identity listed = some view) (hmissing : view.missingNodeIds = [])
    (h : wiringComplete stored view = some (true, wired)) :
    ∃ manifest, stored.decode = some manifest ∧ WiringProved manifest view := by
  obtain ⟨manifest, rows, hdecode, hcount, hrows, hready⟩ := wiringComplete_inv h
  have hnodes : ∀ id ∈ manifest.hosts.keys, ∃ pod ∈ view.current, ∃ row,
      Proves manifest id pod row := by
    intro id hid
    obtain ⟨row, hrow, hok⟩ := hready id hid
    obtain ⟨hnode, pod, hpod, hcarried, hnamed, huid⟩ := rowsOf_wiringRows hrows id row hrow
    exact ⟨pod, hpod, row, hcarried, hnode, hnamed, huid, hok⟩
  refine ⟨manifest, hdecode, hcount, hnodes, ?_⟩
  refine exists_preimage manifest.hosts.keys_nodup ?_ ?_ hnodes
  · rw [length_current hview hmissing, hcount]
  · rintro id id' pod ⟨row, hproves⟩ ⟨row', hproves'⟩
    have heq := hproves.carried.symm.trans hproves'.carried
    injection heq with heq
    injection heq with heq
    rw [← hproves.node, ← hproves'.node, heq]

/-- Every pod listed for a service shows this generation's proof, bound to its own uid. -/
def ServiceProved (w : World) (reader : Reader) (service : Service) (runtime : Runtime) : Prop :=
  ∀ pod ∈ w.servicePods reader service, ∃ name uid, pod.name = some name ∧ pod.uid = some uid ∧
    w.proof reader name = some (expectedProof service runtime uid)

theorem wp_podProved (reader : Reader) (service : Service) (pod : ServicePod) (s : PassLog) :
    wp (podProved w reader service runtime pod) s
      (fun proved t => Quietly s t ∧ (proved = true → ∃ name uid, pod.name = some name ∧
        pod.uid = some uid ∧ w.proof reader name = some (expectedProof service runtime uid)))
      fun _ _ => False := by
  unfold podProved
  split
  next name uid hname huid =>
    rw [wp_ite]
    refine ⟨fun hne => absurd runtime.bound.2.2 hne, fun _ => ?_⟩
    rw [wp_tryCatch, wp_bind]
    refine wp_ask.mpr ⟨fun _ => ?_, fun _ _ => ⟨quietly_make s _, fun h => nomatch h⟩⟩
    split
    · exact ⟨quietly_make s _, fun h => nomatch h⟩
    next shown hshown =>
      refine ⟨quietly_make s _, fun h => ?_⟩
      rw [decide_eq_true_eq] at h
      exact ⟨name, uid, hname, huid, h ▸ hshown⟩
  · exact ⟨Std.Refl.refl s, fun h => nomatch h⟩

theorem wp_allProved (reader : Reader) (service : Service) (pods : List ServicePod) (s : PassLog) :
    wp (allProved w reader service runtime pods) s
      (fun proved t => Quietly s t ∧ (proved = true → ∀ pod ∈ pods, ∃ name uid,
        pod.name = some name ∧ pod.uid = some uid ∧
          w.proof reader name = some (expectedProof service runtime uid)))
      fun _ _ => False := by
  induction pods generalizing s with
  | nil => exact ⟨Std.Refl.refl s, fun _ pod hpod => nomatch hpod⟩
  | cons pod rest ih =>
    rw [allProved, wp_bind]
    refine wp_imp (wp_podProved reader service pod s) fun proved t ⟨hst, hproved⟩ => ?_
    rw [wp_ite]
    refine ⟨fun hok => wp_imp (ih t) fun all u ⟨htu, hall⟩ => ?_, fun _ => ⟨hst, fun h => nomatch h⟩⟩
    exact ⟨IsTrans.trans s t u hst htu, fun heq =>
      List.forall_mem_cons.mpr ⟨hproved hok, hall heq⟩⟩

/-- Only a failed call makes a service's check raise. -/
theorem wp_serviceReady (reader : Reader) (service : Service) (s : PassLog) :
    wp (serviceReady w reader service runtime) s
      (fun ready t => Quietly s t ∧ (ready = true → ServiceProved w reader service runtime))
      fun _ t => Quietly s t ∧ ∃ call ∈ t.made, w.faults call ≠ none := by
  unfold serviceReady
  rw [wp_bind]
  refine wp_ask.mpr ⟨fun _ => ?_, fun _ hfault => ⟨quietly_make s _, failed_make hfault⟩⟩
  have hasked := quietly_make s (.listDeployments reader service)
  split
  · rw [wp_ite]
    refine ⟨fun _ => ?_, fun _ => ⟨hasked, fun h => nomatch h⟩⟩
    rw [wp_bind]
    have hlisted := IsTrans.trans _ _ _ hasked (quietly_make _ (.listServicePods reader service))
    refine wp_ask.mpr ⟨fun _ => ?_, fun _ hfault => ⟨hlisted, failed_make hfault⟩⟩
    rw [wp_ite]
    refine ⟨fun _ => ?_, fun _ => ⟨hlisted, fun h => nomatch h⟩⟩
    exact wp_mono (wp_allProved reader service _ _)
      (fun _ t ht => ⟨IsTrans.trans s _ t hlisted ht.1, ht.2⟩) fun _ _ h => h.elim
  · exact ⟨hasked, fun h => nomatch h⟩

theorem wp_checkPlatformRuntimeReady (reader : Reader) (s : PassLog) :
    wp (checkPlatformRuntimeReady w reader runtime) s (fun ready t => Quietly s t ∧
        (ready = true → ∀ service, ServiceProved w reader service runtime))
      fun _ t => Quietly s t ∧ ∃ call ∈ t.made, w.faults call ≠ none := by
  unfold checkPlatformRuntimeReady
  rw [wp_bind]
  refine wp_imp (wp_serviceReady reader .ome s) fun ome t ⟨hst, home⟩ => ?_
  rw [wp_ite]
  refine ⟨fun hok => ?_, fun _ => ⟨hst, fun h => nomatch h⟩⟩
  refine wp_mono (wp_serviceReady reader .scheduler t) (fun ready u ⟨htu, h⟩ => ?_)
    fun _ u hu => ⟨IsTrans.trans s t u hst hu.1, hu.2⟩
  refine ⟨IsTrans.trans s t u hst htu, fun heq service => ?_⟩
  cases service with
  | ome => exact home hok
  | scheduler => exact h heq

/-! ### The reconciler -/

/-- Every session pod is current, none is missing and every one has a network. -/
structure Provisioned (runtime : Runtime) (view : SessionPodView) : Prop where
  classes : ∀ pod ∈ view.pods, pod.podClass = .current
  missing : view.missingNodeIds = []
  networks : runtime.identity.expectedCount ≤ view.provisionedCount

def PlacedManifest (w : World) (runtime : Runtime) (view : SessionPodView)
    (stored : StoredManifest) : Prop :=
  ∃ placement hosts, view.placement = some placement ∧
    hostsOf runtime.resolution.nodeIds placement = some hosts ∧
    stored = writtenManifest w runtime hosts

/-- The manifest that stands after a pass beyond the manifest check: the one the pass wrote for the
placement it observed, or the one it found to be this run's. -/
def Manifested (w : World) (runtime : Runtime) (view : SessionPodView) (t : PassLog) : Prop :=
  (∃ stored, t.written = some stored ∧ PlacedManifest w runtime view stored) ∨
  (t.written = none ∧
    ∃ stored, w.manifest .matching = some stored ∧ manifestMatches runtime stored = true)

/-- What a pass has observed when it publishes Ready. -/
structure ReadyFacts (w : World) (runtime : Runtime) (view : SessionPodView) : Prop where
  running : runtime.identity.expectedCount ≤ view.runningCount
  matching : ∃ stored, w.manifest .matching = some stored ∧ manifestMatches runtime stored = true
  wiring : ∃ stored wired, w.manifest (.wiring .reconcile) = some stored ∧
    wiringComplete stored view = some (true, wired)
  services : ∀ service, ServiceProved w .reconcile service runtime

/-- A log in which no phase beyond Creating was published and no manifest written. -/
structure Early (s : PassLog) : Prop where
  wiring : .wiring ∉ s.published
  ready : .ready ∉ s.published
  written : s.written = none

/-- What a log holds about the phases beyond the manifest check. -/
structure Reported (w : World) (runtime : Runtime) (view : SessionPodView) (t : PassLog) :
    Prop where
  wiring : .wiring ∈ t.published ∨ .ready ∈ t.published →
    Provisioned runtime view ∧ Manifested w runtime view t
  ready : .ready ∈ t.published → ReadyFacts w runtime view
  written : ∀ stored, t.written = some stored → PlacedManifest w runtime view stored

/-- An early log that a pass has reached from `s₀`. -/
structure Starting (s₀ s : PassLog) : Prop extends Extends s₀ s, Early s

/-- What a reconcile begun at `s₀` leaves. -/
def Follows (w : World) (runtime : Runtime) (view : SessionPodView) (s₀ t : PassLog) : Prop :=
  Extends s₀ t ∧ Reported w runtime view t

variable {s₀ s t : PassLog}

theorem Early.quietly (h : Early s) (hst : Quietly s t) : Early t :=
  ⟨fun hw => h.wiring (hst.wiring hw), fun hr => h.ready (hst.ready hr), hst.written.trans h.written⟩

theorem Early.reported (h : Early s) : Reported w runtime view s where
  wiring := fun hpublished => hpublished.elim (absurd · h.wiring) (absurd · h.ready)
  ready := fun hready => absurd hready h.ready
  written := fun stored hstored => by
    rw [h.written] at hstored
    cases hstored

theorem Starting.quietly (h : Starting s₀ s) (hst : Quietly s t) : Starting s₀ t :=
  ⟨h.toExtends.trans hst.toExtends, h.toEarly.quietly hst⟩

theorem Starting.follows (h : Starting s₀ s) : Follows w runtime view s₀ s :=
  ⟨h.toExtends, h.toEarly.reported⟩

theorem wp_starting {m : Pass α} (hm : Within Quietly m) (h : Starting s₀ s) :
    wp m s (fun _ t => Starting s₀ t) fun _ t => Starting s₀ t :=
  hm.wp s (fun _ _ hst => h.quietly hst) fun _ _ hst => h.quietly hst

theorem wp_follows {m : Pass α} (hm : Within Quietly m) (h : Starting s₀ s) :
    wp m s (fun _ => Follows w runtime view s₀) fun _ => Follows w runtime view s₀ :=
  wp_mono (wp_starting hm h) (fun _ _ ht => ht.follows) fun _ _ ht => ht.follows

theorem wp_publish {Q : Unit → PassLog → Prop} {E : Exception → PassLog → Prop}
    (hQ : ∀ t, Quietly s t → Q () { t with published := t.published ++ [phase] })
    (hE : ∀ e t, Quietly s t → E e t) : wp (publish w phase) s Q E := by
  unfold publish patchPhase
  rw [wp_bind, wp_get, wp_bind, wp_modify, wp_bind]
  have hpatches := extends_patches s (s.patches + 1)
  refine Within.wp (within_onApi (within_ask _) fun _ => within_throw) _ (fun _ t hst => ?_)
    fun e t hst => hE e t (IsTrans.trans s _ t hpatches hst)
  exact hQ t (IsTrans.trans s _ t hpatches hst)

theorem wp_manifestCurrent : wp (manifestCurrent w runtime) s
    (fun current t => Quietly s t ∧ (current = true → ∃ stored, w.manifest .matching = some stored ∧
      manifestMatches runtime stored = true)) fun _ t => Quietly s t := by
  unfold manifestCurrent
  rw [wp_onApi, wp_bind]
  refine wp_ask.mpr ⟨fun _ => ?_, fun failure _ => ⟨fun status _ => ?_, fun _ => quietly_make s _⟩⟩
  · split
    · exact ⟨quietly_make s _, fun h => nomatch h⟩
    next stored hstored => exact ⟨quietly_make s _, fun h => ⟨stored, hstored, h⟩⟩
  · rw [wp_ite]
    exact ⟨fun _ => ⟨quietly_make s _, fun h => nomatch h⟩, fun _ => quietly_make s _⟩

theorem wp_writeWiringManifest (h : Starting s₀ s) : wp (writeWiringManifest w runtime view) s
    (fun _ t => ∃ u stored, Starting s₀ u ∧ PlacedManifest w runtime view stored ∧
      t = { u with written := some stored }) fun _ t => Starting s₀ t := by
  unfold writeWiringManifest
  rw [wp_bind]
  refine wp_refuse.mpr ⟨fun placement hplacement => ?_, fun _ => h⟩
  rw [wp_bind]
  refine wp_imp (wp_starting (within_checkQueueCapacity _ _) h) fun _ s₁ h₁ => ?_
  rw [wp_bind]
  refine wp_require.mpr ⟨fun _ => ?_, fun _ => h₁⟩
  rw [wp_bind]
  refine wp_refuse.mpr ⟨fun hosts hhosts => ?_, fun _ => h₁⟩
  rw [wp_bind]
  refine wp_imp (wp_starting (within_ask _) h₁) fun _ s₂ h₂ => ?_
  rw [wp_bind]
  refine wp_require.mpr ⟨fun _ => ?_, fun _ => h₂⟩
  rw [wp_bind]
  refine wp_imp (wp_starting (within_onApi (within_ask _) fun _ => ?_) h₂) fun _ s₃ h₃ => ?_
  · exact within_ite (fun _ => within_ask _) fun _ => within_throw
  · exact ⟨s₃, writtenManifest w runtime hosts, h₃, ⟨placement, hosts, hplacement, hhosts, rfl⟩, rfl⟩

variable (h : Starting s₀ s) (hview : Provisioned runtime view)

include h hview

theorem wp_publishManifest :
    wp (publishManifest w runtime view) s (fun _ => Follows w runtime view s₀)
      fun _ => Follows w runtime view s₀ := by
  unfold publishManifest
  rw [wp_bind]
  refine wp_mono (wp_starting (within_publish Phase.noConfusion Phase.noConfusion) h)
    (fun _ s₁ h₁ => ?_) fun _ _ ht => ht.follows
  rw [wp_bind, wp_attempt]
  refine wp_mono (wp_writeWiringManifest h₁) (fun _ s₂ hwritten => ?_) fun e s₂ h₂ => ?_
  · obtain ⟨u, stored, hu, hplaced, rfl⟩ := hwritten
    change wp (do publish w .wiring; return false : Pass Bool) _ _ _
    rw [wp_bind]
    have hextends : ∀ t, Quietly { u with written := some stored } t → Extends s₀ t := fun t hst =>
      hu.toExtends.trans ⟨hst.made, hst.published, hst.reconciling, hst.held, hst.dropped⟩
    have honly : ∀ t, Quietly { u with written := some stored } t → ∀ other,
        t.written = some other → PlacedManifest w runtime view other := by
      intro t hst other hother
      rw [hst.written] at hother
      cases hother
      exact hplaced
    refine wp_publish (fun t hst => ?_) fun e t hst => ?_
    · refine ⟨(hextends t hst).trans (extends_publish t _), fun _ => ⟨hview, .inl ?_⟩, (fun hr =>
        absurd hr (by simpa using fun hready => hu.ready (hst.ready hready))), honly t hst⟩
      exact ⟨stored, hst.written, hplaced⟩
    · exact ⟨hextends t hst, fun hpublished => absurd hpublished (not_or.mpr
        ⟨fun hw => hu.wiring (hst.wiring hw), fun hr => hu.ready (hst.ready hr)⟩),
        (fun hr => absurd (hst.ready hr) hu.ready), honly t hst⟩
  · split
    · exact wp_follows (within_report Phase.noConfusion Phase.noConfusion _) h₂
    · exact wp_follows (within_report Phase.noConfusion Phase.noConfusion _) h₂
    next heq => cases heq

theorem wp_report {result : Bool}
    (hmatching : ∃ stored, w.manifest .matching = some stored ∧ manifestMatches runtime stored =
      true) (hready : phase = .ready → ReadyFacts w runtime view) :
    wp (do publish w phase; return result : Pass Bool) s (fun _ => Follows w runtime view s₀)
      fun _ => Follows w runtime view s₀ := by
  rw [wp_bind]
  refine wp_publish (fun t hst => ?_) fun e t hst => (h.quietly hst).follows
  have ht := h.quietly hst
  refine ⟨ht.toExtends.trans (extends_publish t _),
    fun _ => ⟨hview, .inr ⟨ht.written, hmatching⟩⟩, fun hr => hready ?_, ht.reported.written⟩
  rcases List.mem_append.mp hr with hr | hr
  · exact absurd hr ht.ready
  · exact (List.mem_singleton.mp hr).symm

theorem wp_finishSession (hrunning : runtime.identity.expectedCount ≤ view.runningCount)
    (hmatching : ∃ stored, w.manifest .matching = some stored ∧ manifestMatches runtime stored = true)
    (hwiring : ∃ stored wired, w.manifest (.wiring .reconcile) = some stored ∧
      wiringComplete stored view = some (true, wired)) :
    wp (finishSession w runtime) s (fun _ => Follows w runtime view s₀)
      fun _ => Follows w runtime view s₀ := by
  unfold finishSession
  rw [wp_bind]
  refine wp_mono (wp_starting within_startServices h) (fun started s₁ h₁ => ?_)
    fun _ _ ht => ht.follows
  rw [wp_ite]
  refine ⟨fun _ => ?_, fun _ => h₁.follows⟩
  rw [wp_bind, wp_onApi, wp_bind]
  refine wp_mono (wp_checkPlatformRuntimeReady .reconcile s₁) (fun ready s₂ hs₂ => ?_)
    fun e s₂ hs₂ => ⟨fun _ _ => (h₁.quietly hs₂.1).follows, fun _ => (h₁.quietly hs₂.1).follows⟩
  have h₂ := h₁.quietly hs₂.1
  cases ready with
  | false => exact wp_report h₂ hview hmatching fun heq => nomatch heq
  | true => exact wp_report h₂ hview hmatching fun _ => ⟨hrunning, hmatching, hwiring, hs₂.2 rfl⟩

omit h hview

theorem wp_reconcilerWiring : wp (reconcilerWiring w view) s
    (fun check t => Quietly s t ∧ ∀ wired, check = .checked true wired → ∃ stored,
      w.manifest (.wiring .reconcile) = some stored ∧
        wiringComplete stored view = some (true, wired)) fun _ t => Quietly s t := by
  unfold reconcilerWiring checkWiringComplete
  rw [wp_tryCatch, wp_bind, wp_bind]
  have hmake := quietly_make s (.readManifest (.wiring .reconcile))
  refine wp_ask.mpr ⟨fun _ => ?_, fun failure _ => ?_⟩
  · split
    · exact ⟨hmake, fun _ h => nomatch h⟩
    next stored hstored =>
      refine wp_refuse.mpr ⟨fun result hresult => ?_, fun _ => ⟨hmake, fun _ h => nomatch h⟩⟩
      refine ⟨hmake, fun wired heq => ⟨stored, hstored, ?_⟩⟩
      obtain ⟨complete, count⟩ := result
      cases heq
      exact hresult
  · split
    · exact ⟨hmake, fun _ h => nomatch h⟩
    · exact ⟨hmake, fun _ h => nomatch h⟩
    · exact hmake

theorem wp_reconcileWired (h : Starting s₀ s) (hview : Provisioned runtime view)
    (hmatching : ∃ stored, w.manifest .matching = some stored ∧
      manifestMatches runtime stored = true) :
    wp (reconcileWired w runtime view) s (fun _ => Follows w runtime view s₀)
      fun _ => Follows w runtime view s₀ := by
  unfold reconcileWired
  rw [wp_bind]
  refine wp_mono wp_reconcilerWiring (fun check s₁ hs₁ => ?_) fun _ _ hst => (h.quietly hst).follows
  have h₁ := h.quietly hs₁.1
  split
  · exact h₁.follows
  · exact wp_follows (within_report Phase.noConfusion Phase.noConfusion _) h₁
  · exact wp_report h₁ hview hmatching fun heq => nomatch heq
  next wired =>
    rw [wp_ite]
    refine ⟨fun _ => wp_report h₁ hview hmatching (fun heq => nomatch heq), fun hrunning => ?_⟩
    obtain ⟨stored, hstored, hcomplete⟩ := hs₁.2 wired rfl
    exact wp_finishSession h₁ hview (not_lt.mp hrunning) hmatching ⟨stored, wired, hstored, hcomplete⟩

theorem forall_current (hforeign : view.foreign = []) (hdeletable : view.deletable = [])
    (hterminating : view.terminating = []) : ∀ pod ∈ view.pods, pod.podClass = .current := by
  intro pod hpod
  have h₁ := SessionPodView.ofClass_eq_nil.mp hforeign pod hpod
  have h₂ := SessionPodView.ofClass_eq_nil.mp hdeletable pod hpod
  have h₃ := SessionPodView.ofClass_eq_nil.mp hterminating pod hpod
  cases hclass : pod.podClass <;> simp_all

theorem wp_reconcileView (h : Starting s₀ s) : wp (reconcileView w runtime view) s
    (fun _ => Follows w runtime view s₀) fun _ => Follows w runtime view s₀ := by
  unfold reconcileView
  rw [wp_ite]
  refine ⟨fun _ => wp_follows (within_report Phase.noConfusion Phase.noConfusion _) h,
    fun hforeign => ?_⟩
  rw [wp_ite]
  refine ⟨fun _ => ?_, fun hdeletable => ?_⟩
  · exact wp_follows (within_bind (within_deletePods _ _) fun _ =>
      within_report Phase.noConfusion Phase.noConfusion _) h
  rw [wp_ite]
  refine ⟨fun _ => wp_follows (within_report Phase.noConfusion Phase.noConfusion _) h,
    fun hterminating => ?_⟩
  rw [wp_ite]
  refine ⟨fun _ => wp_follows within_deploy h, fun hmissing => ?_⟩
  rw [wp_ite]
  refine ⟨fun _ => wp_follows (within_report Phase.noConfusion Phase.noConfusion _) h,
    fun hnetworks => ?_⟩
  have hview : Provisioned runtime view :=
    ⟨forall_current (not_not.mp hforeign) (not_not.mp hdeletable) (not_not.mp hterminating),
      not_not.mp hmissing, not_lt.mp hnetworks⟩
  rw [wp_bind]
  refine wp_mono wp_manifestCurrent (fun current s₁ hs₁ => ?_) fun _ _ hst => (h.quietly hst).follows
  have h₁ := h.quietly hs₁.1
  rw [wp_ite]
  exact ⟨fun hcurrent => wp_reconcileWired h₁ hview (hs₁.2 hcurrent),
    fun _ => wp_publishManifest h₁ hview⟩

/-- What a pass reports when it ends: nothing beyond Creating, or a phase that the observation of
the session pods and the checks of the pass bear out. -/
def Borne (w : World) (runtime : Runtime) (t : PassLog) : Prop :=
  Early t ∨ ∃ view, observeSessionPods runtime.identity (w.pods .reconcile) = some view ∧
    Reported w runtime view t

theorem Early.borne (h : Early s) : Borne w runtime s := .inl h

/-- A reconcile begun at `s₀` entered the reconciler and its reports are borne out. -/
def Reconciles (w : World) (runtime : Runtime) (s₀ t : PassLog) : Prop :=
  Extends s₀ t ∧ t.reconciling = true ∧ Borne w runtime t

theorem wp_reconcileSession (h : Starting s₀ s) : wp (reconcileSession w runtime) s
    (fun _ => Reconciles w runtime s₀) fun _ => Reconciles w runtime s₀ := by
  unfold reconcileSession
  rw [wp_bind, wp_modify]
  let entered : PassLog := { s with reconciling := true }
  have hextends : Extends s₀ entered :=
    ⟨h.made, h.published, fun _ => rfl, h.held, h.dropped⟩
  have hentered : Starting entered entered := ⟨Std.Refl.refl _, h.wiring, h.ready, h.written⟩
  have hearly : ∀ t, Starting entered t → Reconciles w runtime s₀ t := fun t ht =>
    ⟨hextends.trans ht.toExtends, ht.reconciling rfl, .inl ht.toEarly⟩
  rw [wp_bind]
  refine wp_mono (wp_starting within_retireOtherRuns hentered) (fun retired s₁ h₁ => ?_)
    fun _ => hearly
  rw [wp_ite]
  refine ⟨fun _ => ?_, fun _ => hearly s₁ h₁⟩
  rw [wp_bind]
  refine wp_mono (wp_starting (within_ask _) h₁) (fun _ s₂ h₂ => ?_) fun _ => hearly
  split
  · exact wp_mono (wp_starting (within_report Phase.noConfusion Phase.noConfusion _) h₂)
      (fun _ => hearly) fun _ => hearly
  next view hview =>
    have hfollows : ∀ t, Follows w runtime view entered t → Reconciles w runtime s₀ t := fun t ht =>
      ⟨hextends.trans ht.1, ht.1.reconciling rfl, .inr ⟨view, hview, ht.2⟩⟩
    exact wp_mono (wp_reconcileView h₂) (fun _ => hfollows) fun _ => hfollows

end NodalArc.ReconcileOutcome
