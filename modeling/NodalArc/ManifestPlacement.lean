import NodalArc.ReadyTruthful

/-! The stored manifest and the servers the pods run on, over the passes of one generation while
pods come and go.  The manifest check compares identities and counts, never the placement. -/

namespace NodalArc.ManifestPlacement

open OrderedDict
open StatefulProgram
open SessionPods
open ReconcilePass
open ReconcileOutcome
open ReadyTruthful

structure Cluster where
  pods : List Pod
  manifest : Option StoredManifest

variable {cluster : Cluster}

/-- Pods are created, deleted or evicted, or the driver runs a pass. -/
inductive Event
  | podsChange (pods : List Pod)
  | pass (answers : World)

def worldOf (answers : World) (cluster : Cluster) : World :=
  { answers with
    faults := fun _ => none
    pods := fun _ => cluster.pods
    manifest := fun _ => cluster.manifest }

variable (runtime : Runtime)

/-- The log of a pass by the driver that holds the generation's runtime. -/
def passLog (answers : World) (cluster : Cluster) : PassLog :=
  after (worldOf answers cluster) (some runtime)

def step (cluster : Cluster) : Event → Cluster
  | .podsChange pods => { cluster with pods := pods }
  | .pass answers =>
      { cluster with manifest := (passLog runtime answers cluster).written <|> cluster.manifest }

def hostsIn (stored : StoredManifest) : Option (Dict NodeId Token) :=
  match stored.payload with
  | .document document => document.nodes
  | _ => none

/-- A manifest places every node on the server that node's current pod runs on. -/
def Follows (pods : List Pod) (stored : StoredManifest) : Prop :=
  ∃ view hosts, observeSessionPods runtime.identity pods = some view ∧ hostsIn stored = some hosts ∧
    ∀ id ∈ runtime.resolution.nodeIds, ∃ pod ∈ view.current, pod.nodeId = canonicalNodeId id ∧
      pod.server ≠ none ∧ hosts.get? id = pod.server

/-- A pass that goes beyond the manifest check leaves a manifest that follows the pods. -/
def PassFollows (cluster : Cluster) : Event → Prop
  | .podsChange _ => True
  | .pass answers =>
      .wiring ∈ (passLog runtime answers cluster).published ∨
        .ready ∈ (passLog runtime answers cluster).published →
      ∃ stored, (step runtime cluster (.pass answers)).manifest = some stored ∧
        Follows runtime cluster.pods stored

/-- Every scheduled current pod runs where a stored manifest of this run places its node. -/
def OnNamedServers (manifest : Option StoredManifest) (pods : List Pod) : Prop :=
  ∀ stored hosts, manifest = some stored → manifestMatches runtime stored = true →
    hostsIn stored = some hosts → ∀ pod ∈ pods, runtime.identity.classify pod = .current →
      ∀ id ∈ runtime.resolution.nodeIds, canonicalNodeId id = canonicalNodeId pod.nodeLabel →
        ∀ server, pod.server = some server → hosts.get? id = some server

/-- Passes are of this generation and find the scheduled current pods on the servers that a stored
manifest of this run names.  What pods do between two passes does not matter. -/
def Keeps (cluster : Cluster) : Event → Prop
  | .podsChange _ => True
  | .pass answers =>
      Serves answers runtime ∧ OnNamedServers runtime cluster.manifest cluster.pods

/-- A stored manifest of this run names servers at all. -/
def NamesHosts (cluster : Cluster) : Prop :=
  ∀ stored, cluster.manifest = some stored → manifestMatches runtime stored = true →
    ∃ hosts, hostsIn stored = some hosts

variable {runtime : Runtime} {w : World} {view : SessionPodView} {pods : List Pod}
    {placement hosts : Dict NodeId Token} {stored : StoredManifest}

/-! ### Placements -/

theorem exists_placed {id : NodeId} {server : Token} (h : view.placement = some placement)
    (hget : placement.get? id = some server) :
    ∃ pod ∈ view.current, pod.nodeId = id ∧ pod.server = some server := by
  unfold SessionPodView.placement at h
  simp only at h
  split at h
  · cases h
    obtain ⟨pod, hpod, hserver⟩ := List.mem_filterMap.mp (Dict.mem_of_get?_ofList hget)
    obtain ⟨found, hfound, heq⟩ := Option.map_eq_some_iff.mp hserver
    cases heq
    exact ⟨pod, hpod, rfl, hfound⟩
  · cases h

theorem hostsOf_spec {nodeIds : List NodeId} (h : hostsOf nodeIds placement = some hosts) :
    ∀ id ∈ nodeIds, ∃ server,
      placement.get? (canonicalNodeId id) = some server ∧ hosts.get? id = some server := by
  intro id hid
  unfold hostsOf at h
  split at h
  next hplaced =>
    cases h
    obtain ⟨server, hserver⟩ := Dict.mem_iff.mp (hplaced id hid)
    refine ⟨server, hserver, ?_⟩
    rw [Dict.get?_ofList_filterMap, if_pos hid, hserver]
  · cases h

theorem canonical_mem_expected {id : NodeId} (hid : id ∈ runtime.resolution.nodeIds) :
    canonicalNodeId id ∈ runtime.identity.expectedNodeIds := by
  rw [runtime.expected]
  exact List.mem_map_of_mem hid

variable (hview : observeSessionPods runtime.identity pods = some view)

include hview

theorem exists_listed {pod : ObservedPod} (hpod : pod ∈ view.current) : ∃ listed ∈ pods,
      runtime.identity.classify listed = .current ∧
      canonicalNodeId listed.nodeLabel = pod.nodeId ∧ listed.server = pod.server := by
  obtain ⟨hmem, hclass⟩ := SessionPodView.mem_current.mp hpod
  rw [(observeSessionPods_spec hview).2, List.mem_map] at hmem
  obtain ⟨listed, hlisted, rfl⟩ := hmem
  exact ⟨listed, hlisted, hclass, rfl, rfl⟩

/-! ### One pass -/

theorem follows_of_placedManifest (h : PlacedManifest w runtime view stored) :
    Follows runtime pods stored ∧ ∃ hosts, hostsIn stored = some hosts := by
  obtain ⟨placement, hosts, hplacement, hhosts, rfl⟩ := h
  refine ⟨⟨view, hosts, hview, rfl, fun id hid => ?_⟩, hosts, rfl⟩
  obtain ⟨server, hplaced, hhost⟩ := hostsOf_spec hhosts id hid
  obtain ⟨pod, hpod, hnode, hserver⟩ := exists_placed hplacement hplaced
  exact ⟨pod, hpod, hnode, by simp [hserver], by rw [hhost, hserver]⟩

omit hview

theorem follows_of_named (hhosts : hostsIn stored = some hosts)
    (hnamed : OnNamedServers runtime (some stored) cluster.pods)
    (hview : observeSessionPods runtime.identity cluster.pods = some view)
    (hprovisioned : Provisioned runtime view)
    (hmatches : manifestMatches runtime stored = true) : Follows runtime cluster.pods stored := by
  refine ⟨view, hosts, hview, hhosts, fun id hid => ?_⟩
  have hidentity := (observeSessionPods_spec hview).1
  obtain ⟨pod, hpod, hnode⟩ := SessionPodView.missingNodeIds_eq_nil.mp hprovisioned.missing
    (canonicalNodeId id) (hidentity ▸ canonical_mem_expected hid)
  have hlength := length_current hview hprovisioned.missing
  have hnetwork : pod.provisioned = true := by
    refine forall_of_filter_length ?_ pod hpod
    rw [hlength, hidentity]
    exact hprovisioned.networks
  obtain ⟨listed, hlisted, hclass, hlabel, hserver⟩ := exists_listed hview hpod
  unfold ObservedPod.provisioned at hnetwork
  rw [Bool.and_eq_true, Option.isSome_iff_exists] at hnetwork
  obtain ⟨⟨server, hscheduled⟩, -⟩ := hnetwork
  refine ⟨pod, hpod, hnode, by simp [hscheduled], ?_⟩
  rw [hscheduled]
  exact hnamed stored hosts rfl hmatches hhosts listed hlisted hclass id hid
    (hnode.symm.trans hlabel.symm) server (hserver.trans hscheduled)

theorem borne_pass {answers : World} (hserves : Serves answers runtime) :
    Borne (worldOf answers cluster) runtime (passLog runtime answers cluster) :=
  wp_exec (P := fun t => Borne (worldOf answers cluster) runtime t) (wp_heldPass hserves)

theorem follows_after {log : PassLog} (h : NamesHosts runtime cluster)
    (hnamed : OnNamedServers runtime cluster.manifest cluster.pods)
    (hpods : w.pods .reconcile = cluster.pods) (hread : w.manifest .matching = cluster.manifest)
    (hborne : Borne w runtime log) : (.wiring ∈ log.published ∨ .ready ∈ log.published →
      ∃ stored, (log.written <|> cluster.manifest) = some stored ∧
        Follows runtime cluster.pods stored) ∧
    NamesHosts runtime { cluster with manifest := log.written <|> cluster.manifest } := by
  rcases hborne with hearly | ⟨view, hview, hreported⟩
  · rw [hearly.written]
    exact ⟨fun hpublished => absurd hpublished (not_or.mpr ⟨hearly.wiring, hearly.ready⟩), h⟩
  rw [hpods] at hview
  cases hwritten : log.written with
  | none =>
    refine ⟨fun hpublished => ?_, h⟩
    obtain ⟨hprovisioned, ⟨stored, hstored, -⟩ | ⟨-, stored, hstored, hmatches⟩⟩ :=
      hreported.wiring hpublished
    · rw [hwritten] at hstored
      cases hstored
    · rw [hread] at hstored
      obtain ⟨hosts, hhosts⟩ := h stored hstored hmatches
      rw [hstored] at hnamed
      exact ⟨stored, hstored, follows_of_named hhosts hnamed hview hprovisioned hmatches⟩
  | some stored =>
    obtain ⟨hfollows, hhosts⟩ :=
      follows_of_placedManifest hview (hreported.written stored hwritten)
    refine ⟨fun _ => ⟨stored, rfl, hfollows⟩, fun other hother _ => ?_⟩
    cases hother
    exact hhosts

/-- One event that meets the condition: a pass that reports beyond the manifest check is right. -/
theorem follows_step {event : Event} (h : NamesHosts runtime cluster)
    (hkeeps : Keeps runtime cluster event) :
    PassFollows runtime cluster event ∧ NamesHosts runtime (step runtime cluster event) := by
  cases event with
  | podsChange pods => exact ⟨trivial, h⟩
  | pass answers => exact follows_after h hkeeps.2 rfl rfl (borne_pass hkeeps.1)

/-! ### Whole runs -/

/-- The one-node session's pod as the pipeline creates it, not wired yet, on a given server. -/
def podOn (uid server : Token) : Pod :=
  { OneNode.pod with uid := uid, server := some server, wiringProof := none }

def unwritten : Cluster := ⟨[podOn 42 51], none⟩

def wandering : List Event :=
  [.pass (OneNode.world .creating), .podsChange [podOn 43 53], .podsChange [podOn 44 51],
    .pass (OneNode.world .wiring)]

def moved : List Event :=
  [.pass (OneNode.world .creating), .podsChange [podOn 43 53], .pass (OneNode.world .wiring)]

theorem written_host : ((step OneNode.runtime unwritten
    (.pass (OneNode.world .creating))).manifest.bind hostsIn).map (fun hosts =>
      hosts.get? OneNode.node) = some (some 51) := by
  decide +kernel

end NodalArc.ManifestPlacement
