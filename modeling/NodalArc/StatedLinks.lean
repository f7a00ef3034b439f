import NodalArc.EngineDeliveries

/-! What the orbital engine's messages state about each pair, and that the desired links hold
exactly that after a snapshot or an event. -/

namespace NodalArc.StatedLinks

open OrderedDict
open GroundPolicy
open LinkRecord
open NodeAgentBatches
open DecisionEngine
open EngineDeliveries
open StatefulProgram
open StatefulProgram.Program

variable {t : Authority} {built : Dict Pair LinkInfo × Dict Pair OmeState} {info : LinkInfo}
  {link : LinkState} {read : List LinkState} {batch : List VisibilityEvent} {pair : Pair}

/-- What is stated of an up pair: its interfaces and the contact of its pass. -/
structure Statement where
  interfaces : String × String
  contact : Option Contact
deriving DecidableEq

def statement (info : LinkInfo) : Statement where
  interfaces := (info.interfaceA, info.interfaceB)
  contact := info.contact

def stated (a : Authority) (pair : Pair) : Option Statement :=
  (a.desiredLinks.get? pair).map statement

def Backed (a : Authority) : Prop :=
  ∀ pair ∈ a.desiredLinks, ∃ view, a.omeView.get? pair = some view ∧
    view.visible = true ∧ view.scheduled = true

theorem authoritySubsetViolation_eq_nil_iff {a : Authority} :
    authoritySubsetViolation a = [] ↔ Backed a := by
  simp only [authoritySubsetViolation, List.filter_eq_nil_iff, Dict.mem_keys_iff, Backed]
  refine forall₂_congr fun pair _ => ?_
  cases a.omeView.get? pair <;> simp

variable {config : SchedulerConfig} {a : Authority} {snapshot : LinkStateSnapshot} {c : Change}

/-! ### Snapshots -/

section Snapshots

variable (config)

/-- A snapshot whose entries name distinct pairs and can all be built. -/
structure WellFormed (snapshot : LinkStateSnapshot) : Prop where
  distinct : (snapshot.links.map LinkState.pair).Nodup
  built : ∀ link ∈ snapshot.links, ∃ info,
    desiredLinkFromSnapshotLink config 0 snapshot link = .ok info

def linkStates (snapshot : LinkStateSnapshot) (link : LinkState) : Option Statement :=
  match desiredLinkFromSnapshotLink config 0 snapshot link with
  | .ok (some info) => some (statement info)
  | _ => none

/-- What a snapshot states of a pair; a pair it does not list is down. -/
def snapshotStates (snapshot : LinkStateSnapshot) (pair : Pair) : Option Statement :=
  (snapshot.links.find? fun link => link.pair = pair).bind (linkStates config snapshot)

theorem desiredLinkFromSnapshotLink_objectId (snapshot : LinkStateSnapshot) (objectId : Nat)
    (link : LinkState) : desiredLinkFromSnapshotLink config objectId snapshot link =
      (desiredLinkFromSnapshotLink config 0 snapshot link).map
        (Option.map fun info => { info with objectId }) := by
  simp only [desiredLinkFromSnapshotLink]
  split_ifs with hdown htime
  · rfl
  · rfl
  · cases requireOmeGeometry .linkStateSnapshot link.pair link.rangeKm link.latencyAToBMs
        link.latencyBToAMs with
    | error e => rfl
    | ok geometry =>
      cases interfacesOf config .linkStateSnapshot link.pair link.linkType link.gsTerminalIndex
          link.satTerminalIndex with
      | error e => rfl
      | ok interfaces =>
        cases contactOf config .linkStateSnapshot link.pair link.contactOpenedAt
            snapshot.epochId with
        | error e => rfl
        | ok contact => rfl

theorem up_of_desiredLinkFromSnapshotLink {objectId : Nat}
    (h : desiredLinkFromSnapshotLink config objectId snapshot link = .ok (some info)) :
    link.carrier = .up := by
  by_contra hdown
  simp [desiredLinkFromSnapshotLink, hdown] at h

end Snapshots

/-- The entries of a snapshot read so far, each under its own pair. -/
structure Read (config : SchedulerConfig) (snapshot : LinkStateSnapshot) (read : List LinkState)
    (built : Dict Pair LinkInfo × Dict Pair OmeState) : Prop where
  links : ∀ pair, (built.1.get? pair).map statement =
    (read.find? fun link => link.pair = pair).bind (linkStates config snapshot)
  view : ∀ link ∈ read, built.2.get? link.pair = some link.omeState

theorem find?_concat (hfresh : link.pair ∉ read.map LinkState.pair) :
    (read ++ [link]).find? (fun l => l.pair = pair) =
      if link.pair = pair then some link else read.find? fun l => l.pair = pair := by
  rw [List.find?_append]
  split_ifs with h
  · have hnone : read.find? (fun l => l.pair = pair) = none := by
      rw [List.find?_eq_none]
      intro l hl
      have hne : l.pair ≠ link.pair := fun heq => hfresh (heq ▸ List.mem_map_of_mem hl)
      simpa [← h] using hne
    simp [hnone, h]
  · simp [h]

theorem Read.concat {built' : Dict Pair LinkInfo × Dict Pair OmeState} (info : Option LinkInfo)
    (hread : Read config snapshot read built) (hfresh : link.pair ∉ read.map LinkState.pair)
    (hinfo : linkStates config snapshot link = info.map statement)
    (hlinks : ∀ pair, built'.1.get? pair = if pair = link.pair then (info <|> built.1.get? pair)
      else built.1.get? pair) (hview : built'.2 = built.2.insert link.pair link.omeState) :
    Read config snapshot (read ++ [link]) built' where
  links pair := by
    rw [hlinks, find?_concat hfresh]
    by_cases h : pair = link.pair
    · subst h
      have hnone : built.1.get? link.pair = none := by
        have hold := hread.links link.pair
        rw [List.find?_eq_none.mpr] at hold
        · simpa using hold
        · intro l hl
          have hne : l.pair ≠ link.pair := fun heq => hfresh (heq ▸ List.mem_map_of_mem hl)
          simpa using hne
      simp [hnone, hinfo]
    · rw [if_neg h, if_neg (Ne.symm h)]
      exact hread.links pair
  view l hl := by
    rw [hview, Dict.get?_insert]
    rcases List.mem_append.mp hl with hl | hl
    · have hne : l.pair ≠ link.pair := fun heq => hfresh (heq ▸ List.mem_map_of_mem hl)
      rw [if_neg hne]
      exact hread.view l hl
    · obtain rfl : l = link := by simpa using hl
      simp

theorem wp_readLink {E : EngineError → Authority → Prop}
    (hbuilt : ∃ info, desiredLinkFromSnapshotLink config 0 snapshot link = .ok info)
    (hfresh : link.pair ∉ read.map LinkState.pair) (hread : Read config snapshot read built) :
    wp (readLink config snapshot built link) a
      (fun built' t => Read config snapshot (read ++ [link]) built' ∧
        t.lastSnapshotSeq = a.lastSnapshotSeq ∧ t.lastSnapshotSimTime = a.lastSnapshotSimTime ∧
        t.lastSnapshotEpochId = a.lastSnapshotEpochId) E := by
  obtain ⟨info, hinfo⟩ := hbuilt
  have hobject := desiredLinkFromSnapshotLink_objectId config snapshot a.objects link
  have hstates : linkStates config snapshot link = info.map statement := by
    unfold linkStates
    rw [hinfo]
    cases info <;> rfl
  simp only [readLink, wp_bind, wp_get, wp_lift, hobject, hinfo]
  cases info with
  | none =>
    refine ⟨?_, by simp [Except.map]⟩
    rintro _ ⟨⟩
    exact ⟨hread.concat none hfresh hstates (by simp) rfl, rfl, rfl, rfl⟩
  | some info =>
    refine ⟨?_, by simp [Except.map]⟩
    rintro _ ⟨⟩
    refine ⟨hread.concat (some { info with objectId := a.objects }) hfresh hstates ?_ rfl,
      rfl, rfl, rfl⟩
    intro pair
    simp

/-- What a well-formed snapshot leaves, whatever it replaces. -/
structure Replaced (config : SchedulerConfig) (snapshot : LinkStateSnapshot) (t : Authority) :
    Prop where
  states : stated t = snapshotStates config snapshot
  backed : Backed t
  seq : t.lastSnapshotSeq = snapshot.snapshotSeq
  simTime : t.lastSnapshotSimTime = some snapshot.simTime
  epochId : t.lastSnapshotEpochId = snapshot.epochId

theorem Read.backed (hread : Read config snapshot snapshot.links built) :
    Backed { a with desiredLinks := built.1, omeView := built.2 } := by
  intro pair hpair
  obtain ⟨info, hinfo⟩ := Dict.mem_iff.mp hpair
  have hlink := hread.links pair
  rw [hinfo] at hlink
  cases hfind : snapshot.links.find? fun link => link.pair = pair with
  | none => simp [hfind] at hlink
  | some link =>
    have hpairs : link.pair = pair := by simpa using List.find?_some hfind
    have hview := hread.view link (List.mem_of_find?_eq_some hfind)
    refine ⟨link.omeState, hpairs ▸ hview, ?_⟩
    have hup : link.carrier = .up := by
      simp only [hfind, Option.bind_some, linkStates] at hlink
      split at hlink
      · exact up_of_desiredLinkFromSnapshotLink config ‹_›
      · cases hlink
    simp [LinkState.omeState, hup]

theorem wp_replaced (hsnapshot : WellFormed config snapshot) :
    wp ((Change.replaced snapshot).apply config) a (fun _ => Replaced config snapshot)
      (fun _ _ => False) := by
  simp only [Change.apply, replaceDesired, assertAuthoritySubsetFailLoud, wp_bind, wp_modify,
    wp_get, wp_require, authoritySubsetViolation_eq_nil_iff]
  refine wp_imp (wp_foldlM (fun read built t => Read config snapshot read built ∧
    t.lastSnapshotSeq = snapshot.snapshotSeq ∧ t.lastSnapshotSimTime = some snapshot.simTime ∧
    t.lastSnapshotEpochId = snapshot.epochId) ?_ ?_) ?_
  · rintro pre link post built t hlinks ⟨hread, hseq, htime, hepoch⟩
    have hfresh : link.pair ∉ pre.map LinkState.pair := by
      have hdistinct := hsnapshot.distinct
      rw [hlinks, List.map_append, List.map_cons, List.nodup_append] at hdistinct
      exact fun hmem => hdistinct.2.2 _ hmem _ List.mem_cons_self rfl
    refine wp_imp (wp_readLink (hsnapshot.built link (by simp [hlinks])) hfresh hread) ?_
    rintro built' t' ⟨hread', hseq', htime', hepoch'⟩
    exact ⟨hread', hseq'.trans hseq, htime'.trans htime, hepoch'.trans hepoch⟩
  · exact ⟨⟨fun _ => rfl, fun _ h => by cases h⟩, rfl, rfl, rfl⟩
  · rintro built t ⟨hread, hseq, htime, hepoch⟩
    exact ⟨fun hbacked => ⟨funext hread.links, hbacked, hseq, htime, hepoch⟩,
      fun hviolation => hviolation hread.backed⟩

/-! ### Events -/

section Events

variable {vis : VisibilityEvent} {epochId : Nat}

def Up (vis : VisibilityEvent) : Prop := vis.visible = true ∧ vis.scheduled = true

instance : DecidablePred Up := fun _ => inferInstanceAs (Decidable (_ ∧ _))

def opened (config : SchedulerConfig) (epochId : Nat) (vis : VisibilityEvent) : Option Statement :=
  match desiredLinkFromVisibility config 0 epochId vis with
  | .ok info => some (statement info)
  | .error _ => none

/-- An event of a pair that is up continues its pass; one of a pair that is down opens a pass. -/
def stateEvent (config : SchedulerConfig) (epochId : Nat) (states : Pair → Option Statement)
    (vis : VisibilityEvent) : Pair → Option Statement :=
  Function.update states vis.pair
    (if Up vis then (states vis.pair <|> opened config epochId vis) else none)

/-- The event can be built if it opens a pass. -/
def Foldable (config : SchedulerConfig) (epochId : Nat) (states : Pair → Option Statement)
    (vis : VisibilityEvent) : Prop :=
  Up vis → states vis.pair = none → ∃ info, desiredLinkFromVisibility config 0 epochId vis = .ok info

section StateEvent

variable {states : Pair → Option Statement}

theorem stateEvent_opens (hup : Up vis) (hnone : states vis.pair = none)
    (hinfo : desiredLinkFromVisibility config 0 epochId vis = .ok info) :
    stateEvent config epochId states vis =
      Function.update states vis.pair (some (statement info)) := by
  simp [stateEvent, hup, hnone, opened, hinfo]

theorem stateEvent_continues {held : Statement} (hup : Up vis)
    (hheld : states vis.pair = some held) : stateEvent config epochId states vis = states := by
  have hvalue : (states vis.pair <|> opened config epochId vis) = states vis.pair := by
    simp [hheld]
  rw [stateEvent, if_pos hup, hvalue, Function.update_eq_self]

theorem stateEvent_closes (hdown : ¬ Up vis) :
    stateEvent config epochId states vis = Function.update states vis.pair none := by
  simp [stateEvent, hdown]

end StateEvent

theorem desiredLinkFromVisibility_objectId (objectId : Nat) (vis : VisibilityEvent) :
    desiredLinkFromVisibility config objectId epochId vis =
      (desiredLinkFromVisibility config 0 epochId vis).map fun info => { info with objectId } := by
  simp only [desiredLinkFromVisibility]
  cases requireOmeGeometry .visibilityEvent vis.pair (some vis.rangeKm) vis.latencyAToBMs
      vis.latencyBToAMs with
  | error e => rfl
  | ok geometry =>
    cases interfacesOf config .visibilityEvent vis.pair vis.linkType vis.gsTerminalIndex
        vis.satTerminalIndex with
    | error e => rfl
    | ok interfaces =>
      cases contactOf config .visibilityEvent vis.pair vis.contactOpenedAt epochId with
      | error e => rfl
      | ok contact => rfl

theorem stated_eq_none_iff : stated a pair = none ↔ pair ∉ a.desiredLinks := by
  simp [stated, Dict.get?_eq_none_iff]

theorem stated_insert (ht : t.desiredLinks = a.desiredLinks.insert pair info) :
    stated t = Function.update (stated a) pair (some (statement info)) := by
  funext p
  by_cases h : p = pair <;> simp [stated, ht, h]

theorem stated_erase (ht : t.desiredLinks = a.desiredLinks.erase pair) :
    stated t = Function.update (stated a) pair none := by
  funext p
  by_cases h : p = pair <;> simp [stated, ht, h]

theorem Backed.update (pair : Pair) (h : Backed a)
    (hlinks : ∀ p, p ≠ pair → p ∈ t.desiredLinks → p ∈ a.desiredLinks)
    (hview : ∀ p, p ≠ pair → t.omeView.get? p = a.omeView.get? p)
    (hpair : pair ∈ t.desiredLinks → ∃ view, t.omeView.get? pair = some view ∧ view.visible = true
      ∧ view.scheduled = true) : Backed t := by
  intro p hp
  by_cases heq : p = pair
  · subst heq
    exact hpair hp
  · rw [hview p heq]
    exact h p (hlinks p heq hp)

theorem wp_applyEventToDesired (hnew : ∀ t ∈ a.lastSnapshotSimTime, t < vis.simTime)
    (hfold : Foldable config a.lastSnapshotEpochId (stated a) vis) (hbacked : Backed a) :
    wp (applyEventToDesired config vis) a
      (fun _ t => stated t = stateEvent config a.lastSnapshotEpochId (stated a) vis ∧ Backed t)
      (fun _ _ => False) := by
  simp only [applyEventToDesired, wp_bind, wp_get, wp_when, wp_modify, wp_ite, wp_lift]
  refine ⟨fun _ => ⟨fun hup => ⟨fun hpair => ?_, fun hheld => ?_⟩, fun hdown => ?_⟩,
    fun hstale => absurd hnew hstale⟩
  · -- the event opens a pass
    have hnone : stated a vis.pair = none := stated_eq_none_iff.mpr hpair
    obtain ⟨info, hinfo⟩ := hfold hup hnone
    have hobject : desiredLinkFromVisibility config a.objects a.lastSnapshotEpochId vis =
        .ok { info with objectId := a.objects } := by
      rw [desiredLinkFromVisibility_objectId, hinfo]
      rfl
    rw [hobject]
    refine ⟨?_, by simp⟩
    rintro _ ⟨⟩
    refine ⟨?_, hbacked.update vis.pair ?_ ?_ ?_⟩
    · rw [stateEvent_opens hup hnone hinfo, stated_insert (a := a) rfl]
      rfl
    · intro p hp hmem
      simpa [hp, setTeardown] using hmem
    · intro p hp
      simp [hp, setTeardown]
    · intro _
      exact ⟨vis.omeState, by simp [setTeardown], hup⟩
  · -- the event continues the pass of a pair that is up
    obtain ⟨info, hinfo⟩ := Dict.mem_iff.mp (not_not.mp hheld)
    have hstated : stated a vis.pair = some (statement info) := by simp [stated, hinfo]
    refine ⟨?_, hbacked.update vis.pair ?_ ?_ ?_⟩
    · rw [stateEvent_continues hup hstated]
      rfl
    · exact fun p _ hmem => hmem
    · intro p hp
      simp [hp, setTeardown]
    · intro _
      exact ⟨vis.omeState, by simp [setTeardown], hup⟩
  · have hclosed : ∀ t : Authority, t.desiredLinks = a.desiredLinks.erase vis.pair →
        t.omeView = a.omeView.insert vis.pair vis.omeState →
        stated t = stateEvent config a.lastSnapshotEpochId (stated a) vis ∧ Backed t := by
      intro t hlinks hview
      refine ⟨?_, hbacked.update vis.pair ?_ ?_ ?_⟩
      · rw [stateEvent_closes hdown, stated_erase hlinks]
      · intro p hp hmem
        simpa [hlinks, hp] using hmem
      · intro p hp
        simp [hview, hp]
      · intro hmem
        simp [hlinks] at hmem
    exact ⟨fun _ => hclosed _ rfl rfl, fun _ => hclosed _ rfl rfl⟩

def Newer (a : Authority) (vis : VisibilityEvent) : Prop :=
  ∀ t ∈ a.lastSnapshotSimTime, t < vis.simTime

instance : DecidablePred (Newer a) := fun _ => inferInstanceAs (Decidable (∀ _ ∈ _, _))

def stateEvents (config : SchedulerConfig) (epochId : Nat) :
    (Pair → Option Statement) → List VisibilityEvent → Pair → Option Statement :=
  List.foldl (stateEvent config epochId)

def FoldableAll (config : SchedulerConfig) (epochId : Nat) :
    (Pair → Option Statement) → List VisibilityEvent → Prop :=
  HoldsAlong (stateEvent config epochId) (Foldable config epochId)

theorem foldableAll_append {states : Pair → Option Statement} {xs ys : List VisibilityEvent} :
    FoldableAll config epochId states (xs ++ ys) ↔ FoldableAll config epochId states xs ∧
      FoldableAll config epochId (stateEvents config epochId states xs) ys := holdsAlong_append

theorem newer_iff_of_sameSnapshot (h : SameSnapshot a t) (vis : VisibilityEvent) :
    Newer t vis ↔ Newer a vis := by simp only [Newer, h.2.1]

theorem wp_applyEventsToDesired
    (hfold : FoldableAll config a.lastSnapshotEpochId (stated a) (batch.filter (Newer a)))
    (hbacked : Backed a) : wp (applyEventsToDesired config batch) a
      (fun _ t => stated t = stateEvents config a.lastSnapshotEpochId (stated a)
        (batch.filter (Newer a)) ∧ Backed t) (fun _ _ => False) := by
  induction batch generalizing a with
  | nil => exact ⟨rfl, hbacked⟩
  | cons vis rest ih =>
    rw [applyEventsToDesired, List.forM_cons, wp_bind]
    by_cases hnew : Newer a vis
    · rw [List.filter_cons_of_pos (by simpa using hnew)] at hfold ⊢
      have hsame : wp (applyEventToDesired config vis) a (fun _ => SameSnapshot a)
          (fun _ => SameSnapshot a) := sameSnapshot_applyEventToDesired vis a
      refine wp_mono (wp_and (wp_applyEventToDesired hnew hfold.1 hbacked) hsame) ?_ ?_
      · rintro _ t ⟨⟨hstated, hbacked'⟩, hsame⟩
        have hfilter : rest.filter (Newer t) = rest.filter (Newer a) :=
          List.filter_congr fun v _ => by simpa using newer_iff_of_sameSnapshot hsame v
        have hrest := ih (a := t) (by rw [hfilter, hsame.2.2, hstated]; exact hfold.2) hbacked'
        rw [hfilter, hsame.2.2, hstated] at hrest
        exact hrest
      · rintro _ _ ⟨hfalse, -⟩
        exact hfalse
    · rw [List.filter_cons_of_neg (by simpa using hnew)] at hfold ⊢
      have hskip : wp (applyEventToDesired config vis) a (fun _ t => t = a)
          (fun _ _ => False) := by
        simp only [applyEventToDesired, wp_bind, wp_get, wp_when]
        exact ⟨fun h => absurd h hnew, fun _ => trivial⟩
      refine wp_imp hskip ?_
      rintro _ _ rfl
      exact ih hfold hbacked

theorem wp_folded
    (hfold : FoldableAll config a.lastSnapshotEpochId (stated a) (batch.filter (Newer a)))
    (hbacked : Backed a) : wp ((Change.folded batch).apply config) a
      (fun _ t => stated t = stateEvents config a.lastSnapshotEpochId (stated a)
        (batch.filter (Newer a)) ∧ Backed t) (fun _ _ => False) := by
  simp only [Change.apply, assertAuthoritySubsetFailLoud, publishFoldDiagnostics, wp_bind, wp_get,
    wp_require, wp_modify, authoritySubsetViolation_eq_nil_iff]
  refine wp_imp (wp_applyEventsToDesired hfold hbacked) ?_
  rintro _ t ⟨hstated, hbacked'⟩
  exact ⟨fun _ => ⟨hstated, hbacked'⟩, fun hviolation => hviolation hbacked'⟩

end Events

theorem outcome_of_wp {P : Authority → Prop}
    (h : wp (c.apply config) a (fun _ => P) (fun _ _ => False)) :
    Change.outcome config c a = .ok () ∧ P (Change.after config c a) := by
  unfold Change.outcome Change.after
  unfold wp at h
  split at h
  · simp_all
  · exact h.elim

theorem sameSnapshot_replay (batches : List (List VisibilityEvent)) (a : Authority) :
    SameSnapshot a (replay config a (batches.map .folded)) := by
  induction batches generalizing a with
  | nil => exact Std.Refl.refl a
  | cons batch rest ih => exact IsTrans.trans a _ _ (sameSnapshot_folded batch a) (ih _)

theorem replay_folded {batches : List (List VisibilityEvent)}
    (hfold : FoldableAll config a.lastSnapshotEpochId (stated a)
      (batches.flatten.filter (Newer a))) (hbacked : Backed a) :
    stated (replay config a (batches.map .folded)) =
        stateEvents config a.lastSnapshotEpochId (stated a) (batches.flatten.filter (Newer a)) ∧
      Backed (replay config a (batches.map .folded)) := by
  induction batches generalizing a with
  | nil => exact ⟨rfl, hbacked⟩
  | cons batch rest ih =>
    rw [List.flatten_cons, List.filter_append, foldableAll_append] at hfold
    obtain ⟨-, hstated, hbacked'⟩ := outcome_of_wp (wp_folded hfold.1 hbacked)
    have hsame : SameSnapshot a (Change.after config (.folded batch) a) :=
      sameSnapshot_folded batch a
    have hfilter : rest.flatten.filter (Newer (Change.after config (.folded batch) a)) =
        rest.flatten.filter (Newer a) :=
      List.filter_congr fun v _ => by simpa using newer_iff_of_sameSnapshot hsame v
    have hrest := @ih (Change.after config (.folded batch) a)
      (by rw [hfilter, hsame.2.2, hstated]; exact hfold.2) hbacked'
    rw [hfilter, hsame.2.2, hstated] at hrest
    rw [List.flatten_cons, List.filter_append]
    exact ⟨hrest.1.trans List.foldl_append.symm, hrest.2⟩

/-! ### A session of one inter-satellite link -/

/-- Two satellites and the fixed link between them. -/
def twoSatellites : SchedulerConfig where
  mbbDispatch := false
  gsCapacities := ∅
  satCapacities := .ofList [("sat1", 1), ("sat2", 1)]
  gsHandoverModes := ∅
  longDelayBoundsS := ∅
  interfaceMap := .ofList [(("sat1", "sat2"), ("isl0", "isl1"))]
  interfaceRates := [("sat1", "isl0"), ("sat2", "isl1")]
  agentAddr := fun node => node
  linkLocality := fun _ _ => .crossNode
  maxLatencyAgeS := 10

def linkUpSnapshot (epochId snapshotSeq : Nat) (simTime : ℚ) : LinkStateSnapshot where
  simTime := simTime
  snapshotSeq := snapshotSeq
  epochId := epochId
  links := [{
    nodeA := "sat1", nodeB := "sat2", adminUp := true, carrier := .up, rangeKm := some 600,
    latencyAToBMs := some 2, latencyBToAMs := some 2, linkType := .isl, gsTerminalIndex := none,
    satTerminalIndex := none, schedulingState := .active, contactOpenedAt := none,
    simTime := simTime }]

theorem desiredLink_linkUpSnapshot (epochId snapshotSeq : Nat) (simTime : ℚ) (link : LinkState)
    (hlink : link ∈ (linkUpSnapshot epochId snapshotSeq simTime).links) :
    ∃ info, desiredLinkFromSnapshotLink twoSatellites 0
        (linkUpSnapshot epochId snapshotSeq simTime) link = .ok (some info) ∧
      statement info = { interfaces := ("isl0", "isl1"), contact := none } := by
  obtain rfl := List.mem_singleton.mp hlink
  rw [desiredLinkFromSnapshotLink, if_neg (by simp), if_neg (by simp [linkUpSnapshot])]
  exact ⟨_, rfl, rfl⟩

theorem wellFormed_linkUpSnapshot (epochId snapshotSeq : Nat) (simTime : ℚ) :
    WellFormed twoSatellites (linkUpSnapshot epochId snapshotSeq simTime) where
  distinct := List.nodup_singleton _
  built link hlink := by
    obtain ⟨info, hinfo, -⟩ := desiredLink_linkUpSnapshot epochId snapshotSeq simTime link hlink
    exact ⟨some info, hinfo⟩

def linkUp : Pair → Option Statement :=
  Function.update (fun _ => none) ("sat1", "sat2")
    (some { interfaces := ("isl0", "isl1"), contact := none })

theorem snapshotStates_linkUpSnapshot (epochId snapshotSeq : Nat) (simTime : ℚ) :
    snapshotStates twoSatellites (linkUpSnapshot epochId snapshotSeq simTime) = linkUp := by
  funext pair
  by_cases hpair : pair = ("sat1", "sat2")
  · subst hpair
    obtain ⟨info, hinfo, hstatement⟩ := desiredLink_linkUpSnapshot epochId snapshotSeq simTime _
      List.mem_cons_self
    simp only [snapshotStates, linkUpSnapshot, linkUp, List.find?_cons, LinkState.pair] at hinfo ⊢
    simp [linkStates, hinfo, hstatement]
  · simp [snapshotStates, linkUpSnapshot, linkUp, LinkState.pair, hpair, Ne.symm hpair]

def linkEvent (simTime : ℚ) (up : Bool) : VisibilityEvent where
  publishedIn := 0
  simTime := simTime
  nodeA := "sat1"
  nodeB := "sat2"
  visible := up
  scheduled := up
  rangeKm := 600
  latencyAToBMs := some 2
  latencyBToAMs := some 2
  linkType := .isl
  gsTerminalIndex := none
  satTerminalIndex := none
  schedulingState := .active
  contactOpenedAt := none

theorem foldable_linkEvent (states : Pair → Option Statement) (simTime : ℚ) (up : Bool) :
    Foldable twoSatellites 0 states (linkEvent simTime up) := fun _ _ => ⟨_, rfl⟩

theorem backed_freshAuthority : Backed freshAuthority := by
  intro pair hpair
  simp [freshAuthority] at hpair

end NodalArc.StatedLinks
