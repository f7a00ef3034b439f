import NodalArc.DecisionEngine
import NodalArc.CloseRounds

/-! What a restarted Scheduler adopts of the long-delay contacts its predecessor left in the kernel.
It surveys both ends of every fixed long-delay link and every access terminal of a node with
long-delay ground peers.  A contact both ends carry with admission open is adopted as it stands;
any other carried contact is stopped at the ends that carry it, and drains. -/

namespace NodalArc.LongDelayAdoption

open OrderedDict
open GroundPolicy
open LinkRecord
open ContactDrain
open Actuation
open NodeAgentBatches
open DispatchActuator
open Reconcile
open HeldRecords
open CommandRules
open DecisionEngine
open StatefulProgram
open StatefulProgram.Program

/-! ### Classification -/

/-- A contact found in the kernel.  `receiveMs` is the delay of each carrying end's receive queue;
`carried` names what each end of a recovered contact carries, and its `contact` is the oldest. -/
inductive FoundContact
  | adoptedOpen (contact : Contact) (receiveMs : Dict NodeId ℚ)
  | recovered (contact : Contact) (carried : Dict NodeId Contact) (receiveMs : Dict NodeId ℚ)

def FoundContact.contact : FoundContact → Contact
  | .adoptedOpen contact _ => contact
  | .recovered contact _ _ => contact

def FoundContact.receiveMs : FoundContact → Dict NodeId ℚ
  | .adoptedOpen _ receiveMs => receiveMs
  | .recovered _ _ receiveMs => receiveMs

def carriedContacts (ends : List (NodeId × EndSurvey)) : Dict NodeId Contact :=
  .ofList (ends.filterMap fun e => e.2.carriedContactId.map fun contact => (e.1, contact))

def receiveDelays (ends : List (NodeId × EndSurvey)) : Dict NodeId ℚ :=
  .ofList (ends.filterMap fun e => e.2.carriedContactId.map fun _ => (e.1, e.2.receiveLatencyMs))

/-- What is adopted of a pair, from the survey of each end. -/
def classifySurveyedPair (pair : Pair) (surveys : Dict NodeId EndSurvey) :
    Except SchedulerError (Option FoundContact) :=
  match surveys.get? pair.1, surveys.get? pair.2 with
  | some surveyA, some surveyB =>
      let ends := [(pair.1, surveyA), (pair.2, surveyB)]
      let carried := carriedContacts ends
      match carried.values.dedup.insertionSort Contact.Earlier with
      | [] => .ok none
      | oldest :: newer =>
          if carried.keys.length = 2 ∧ newer = [] ∧ ∀ e ∈ ends, e.2.admissionStopped = false then
            .ok (some (.adoptedOpen oldest (receiveDelays ends)))
          else .ok (some (.recovered oldest carried (receiveDelays ends)))
  | _, _ => .error (.missingSurvey pair)

/-- A long-delay ground pass: the interface of each node and the survey of each end that carries
it. -/
structure GroundPass where
  interfaces : Dict NodeId String := ∅
  surveys : Dict NodeId EndSurvey := ∅

abbrev GroundPasses := Dict (Pair × Contact) GroundPass

/-- One surveyed terminal joins the pass it carries.  A ground terminal links to a peer chosen per
pass, so the two ends of a pass are found by the contact and the peer each end records. -/
def addReport (passes : GroundPasses) (report : Terminal × EndSurvey) :
    Except SchedulerError GroundPasses :=
  let (nodeId, interface) := report.1
  match report.2.carriedContactId, report.2.carriedPeer with
  | none, _ => .ok passes
  | some _, none => .error (.carriedContactWithoutPeer report.1)
  | some contact, some (peerNode, peerInterface) =>
      let pair := orderedPair nodeId peerNode
      let found := passes.getD (pair, contact) {}
      if found.interfaces.getD nodeId interface ≠ interface then
        .error (.contactNamesTwoInterfaces pair contact)
      else
        let interfaces := found.interfaces.insert nodeId interface
        .ok (passes.insert (pair, contact) {
          interfaces := if peerNode ∈ interfaces then interfaces
            else interfaces.insert peerNode peerInterface
          surveys := found.surveys.insert nodeId report.2 })

/-- The ground passes the surveyed terminals carry, by pair and contact. -/
def groundContacts (reports : Dict Terminal EndSurvey) : Except SchedulerError GroundPasses :=
  (reports.entries.insertionSort fun x y => pairLe x.1 y.1).foldlM addReport ∅

/-- The record of a found contact.  Its delays are those the kernel's queues carry: the second
node's queue delays what the first node transmits. -/
def adoptedLinkInfo (pair : Pair) (interfaces : String × String) (found : FoundContact)
    (linkType : LinkType) : ActiveLinkInfo where
  objectId := 0
  interfaceA := interfaces.1
  interfaceB := interfaces.2
  latencyAToBMs := found.receiveMs.getD pair.2 0
  latencyBToAMs := found.receiveMs.getD pair.1 0
  linkType := linkType
  rangeKm := none
  authoritySimTime := none
  authoritySource := none
  authoritySequence := none
  contact := some found.contact
  drain := none

/-- A found contact under the record it becomes. -/
structure Adoption where
  key : RecordKey
  info : ActiveLinkInfo
  found : FoundContact

variable {a : Adoption}

/-- A survey without the key asked for is a `KeyError`. -/
def lookupReport {K V : Type} [DecidableEq K] (reports : Dict K V) (key : K) (node : NodeId) :
    Except SchedulerError V :=
  match reports.get? key with
  | some report => .ok report
  | none => .error (.keyError node)

variable (config : SchedulerConfig) (surroundings : Surroundings)

def fixedPairs : List Pair := config.longDelayBoundsS.keys.filter (· ∈ config.interfaceMap)

def groundPairs : List Pair := config.longDelayBoundsS.keys.filter (· ∉ config.interfaceMap)

def fixedAdoption (reports : Dict Terminal EndSurvey) (pair : Pair) :
    Except SchedulerError (List Adoption) := do
  let interfaces ← lookupReport config.interfaceMap pair pair.1
  let surveyA ← lookupReport reports (pair.1, interfaces.1) pair.1
  let surveyB ← lookupReport reports (pair.2, interfaces.2) pair.2
  match ← classifySurveyedPair pair (.ofList [(pair.1, surveyA), (pair.2, surveyB)]) with
  | none => return []
  | some found =>
      return [{ key := .current pair, info := adoptedLinkInfo pair interfaces found .isl, found }]

def fixedAdoptions (reports : Dict Terminal EndSurvey) : Except SchedulerError (List Adoption) := do
  let adoptions ← (sortedPairs (fixedPairs config)).mapM (fixedAdoption config reports)
  return adoptions.flatten

def emptySurvey : EndSurvey where
  carriedContactId := none
  admissionStopped := false
  receiveLatencyMs := 0
  carriedPeer := none

/-- One ground pass as a record of its pair. -/
def groundFound (pass : (Pair × Contact) × GroundPass) :
    Except SchedulerError (Pair × ActiveLinkInfo × FoundContact) := do
  let ((pair, contact), found) := pass
  if pair ∉ groundPairs config then throw (.contactOfUnclassedPair pair contact)
  let classified ← classifySurveyedPair pair (.ofList [
    (pair.1, found.surveys.getD pair.1 emptySurvey),
    (pair.2, found.surveys.getD pair.2 emptySurvey)])
  match classified with
  | none => throw (.missingSurvey pair)
  | some classified => do
      let interfaceA ← lookupReport found.interfaces pair.1 pair.1
      let interfaceB ← lookupReport found.interfaces pair.2 pair.2
      return (pair, adoptedLinkInfo pair (interfaceA, interfaceB) classified .ground, classified)

def FoundContact.isOpen : FoundContact → Bool
  | .adoptedOpen _ _ => true
  | .recovered _ _ _ => false

/-- The latest pass of a pair is its current contact; its older passes are overlapping records and
must all be ending. -/
def pairAdoptions (pair : Pair) (passes : List (ActiveLinkInfo × FoundContact)) :
    Except SchedulerError (List Adoption) :=
  match (passes.insertionSort fun x y => x.2.contact.Earlier y.2.contact).reverse with
  | [] => .ok []
  | latest :: older =>
      match older.reverse.find? fun pass => pass.2.isOpen with
      | some pass => .error (.openContactOlderThanAnother pair pass.2.contact)
      | none => .ok ({ key := .current pair, info := latest.1, found := latest.2 } ::
          older.reverse.map fun pass =>
            { key := .overlap pair pass.2.contact, info := pass.1, found := pass.2 })

def groundAdoptions (reports : Dict Terminal EndSurvey) :
    Except SchedulerError (List Adoption) := do
  let passes ← groundContacts reports
  let found ← passes.entries.mapM (groundFound config)
  let adoptions ← (sortedSet (found.map Prod.fst)).mapM fun pair =>
    pairAdoptions pair ((found.filter fun f => f.1 = pair).map Prod.snd)
  return adoptions.flatten

/-! ### Surveys -/

def surveyEntry (pair : Pair) (own peer : Terminal) (linkType : LinkType) (locality : Locality) :
    AgentAddr × Entry :=
  (config.agentAddr own.1,
    { pair, nodeId := own.1, interface := own.2, peerNodeId := peer.1, peerInterface := peer.2
      linkType, locality, contactId := none })

def fixedSurveyEntries (pair : Pair) : Except SchedulerError BatchPlan := do
  let interfaces ← lookupReport config.interfaceMap pair pair.1
  let endA := (pair.1, interfaces.1)
  let endB := (pair.2, interfaces.2)
  return [surveyEntry config pair endA endB .isl (config.locality pair),
    surveyEntry config pair endB endA .isl (config.locality pair)]

def surveyFrame (requested : List Pair) (linkType : LinkType) : CommandFrame where
  operation := .kernelSurvey
  stage := none
  requested := requested
  linkType := fun _ => some linkType
  causes := []

/-- Read what the asked ends carry.  A survey that is not answered for all of them refuses the
start. -/
def survey (requested : List Pair) (linkType : LinkType) (plan : BatchPlan) :
    SchedulerM (Dict Terminal EndSurvey) := do
  let surveyed ← sendCommand config surroundings (surveyFrame requested linkType)
    (inAgentOrder plan)
  require (∀ key ∈ requested, key ∈ surveyed.succeededPairs) .surveyFailed
  return surveyed.surveys

def surveyLongDelayEnds : SchedulerM (List Adoption) :=
  if fixedPairs config = [] then pure []
  else do
    let requested := sortedPairs (fixedPairs config)
    let entries ← lift (requested.mapM (fixedSurveyEntries config))
    let reports ← survey config surroundings requested .isl entries.flatten
    lift (fixedAdoptions config reports)

/-- The access terminals of the nodes with long-delay ground peers. -/
def groundTerminals : List Terminal :=
  let nodes := (groundPairs config).flatMap fun pair => [pair.1, pair.2]
  sortedSet (config.interfaceRates.filter fun terminal => terminal.1 ∈ nodes ∧
    ("term".toList.isPrefixOf terminal.2.toList || "gnd".toList.isPrefixOf terminal.2.toList))

def surveyGroundTerminals : SchedulerM (List Adoption) :=
  if groundPairs config = [] then pure []
  else do
    -- the peer of a pass is what the survey finds, so an entry names its own terminal only
    let reports ← survey config surroundings (groundTerminals config) .ground
      ((groundTerminals config).map fun terminal =>
        surveyEntry config terminal terminal ("", "") .ground .sameNode)
    lift (groundAdoptions config reports)

/-! ### Recovered contacts -/

/-- A recovered contact to stop at the ends that carry it. -/
structure Recovery where
  key : RecordKey
  info : ActiveLinkInfo
  carried : Dict NodeId Contact

variable {r : Recovery}

def Adoption.recovery? (adoption : Adoption) : Option Recovery :=
  match adoption.found with
  | .adoptedOpen _ _ => none
  | .recovered _ carried _ => some { key := adoption.key, info := adoption.info, carried }

/-- A record joins the round unless one of its pair is in it. -/
def addToSplit (split : List Recovery × List Recovery) (record : Recovery) :
    List Recovery × List Recovery :=
  if record.key.pair ∈ split.1.map (fun r => r.key.pair) then (split.1, split.2 ++ [record])
  else (split.1 ++ [record], split.2)

def splitRound (records : List Recovery) : List Recovery × List Recovery :=
  records.foldl addToSplit ([], [])

theorem splitRound_perm (records : List Recovery) :
    ((splitRound records).1 ++ (splitRound records).2).Perm records := by
  induction records using List.reverseRecOn with
  | nil => exact List.Perm.refl _
  | append_singleton records record ih =>
    rw [splitRound, List.foldl_append, List.foldl_cons, List.foldl_nil]
    change ((addToSplit (splitRound records) record).1 ++
      (addToSplit (splitRound records) record).2).Perm _
    unfold addToSplit
    split
    · rw [← List.append_assoc]
      exact ih.append_right [record]
    · rw [List.append_assoc, List.singleton_append]
      refine List.perm_middle.trans ?_
      exact (List.Perm.cons record ih).trans (List.perm_append_singleton record records).symm

theorem splitRound_cons_ne_nil (record : Recovery) (records : List Recovery) :
    (splitRound (record :: records)).1 ≠ [] := by
  have hkept : ∀ (records : List Recovery) (split : List Recovery × List Recovery), split.1 ≠ [] →
      (records.foldl addToSplit split).1 ≠ [] := by
    intro records
    induction records with
    | nil => exact fun _ h => h
    | cons next records ih =>
      intro split hsplit
      rw [List.foldl_cons]
      apply ih
      unfold addToSplit
      split
      · exact hsplit
      · simp
  exact hkept records ([record], []) (List.cons_ne_nil _ _)

/-- Contacts of one pair stop in separate commands, as each names its own contact. -/
def recoveryRounds : List Recovery → List (List Recovery)
  | [] => []
  | record :: records =>
      (splitRound (record :: records)).1 :: recoveryRounds (splitRound (record :: records)).2
termination_by records => records.length
decreasing_by
  have hlength := (splitRound_perm (record :: records)).length_eq
  have hsome := List.length_pos_iff.mpr (splitRound_cons_ne_nil record records)
  rw [List.length_append] at hlength
  omega

/-- The STOP of a round names each end that carries a contact and the contact it carries. -/
def recoveryStage (batch : List Recovery) : DownStage where
  stage := .stopAdmission
  ends := .ofList (batch.map fun r => (r.key.pair, r.carried.keys))
  contactIds := .ofList (batch.flatMap fun r =>
    (endTerminals r.key.pair r.info.toLinkInfo).filterMap fun terminal =>
      (r.carried.get? terminal.1).map fun contact => (terminal, contact))
  causes := []
  downReasons := ∅

/-- A stopped contact drains for the resolver's bound on its one-way delay. -/
def settleRecovered (stopped : ActuationResult) (stoppedMono : ℚ) (r : Recovery) :
    SchedulerM Unit := do
  recordStageLosses stopped r.key.pair r.info.toLinkInfo .stopAdmission
  let bound ← lift (lookupReport config.longDelayBoundsS r.key.pair r.key.pair.1)
  let drain ← lift (recoverDrain r.key.pair r.info r.carried stoppedMono bound)
  modify (setRecord r.key { r.info with drain := some drain })

/-- Stop one round of recovered contacts.  A stop that fails refuses the start. -/
def recoverRound (batch : List Recovery) : SchedulerM Unit := do
  let links : Dict Pair ActiveLinkInfo := .ofList (batch.map fun r => (r.key.pair, r.info))
  let pairs := batch.map fun r => r.key.pair
  let stopped ← sendBatchDown config surroundings links pairs (recoveryStage batch)
  require (∀ pair ∈ pairs, pair ∈ stopped.succeededPairs) .recoveredStopFailed
  let stoppedMono ← monotonic surroundings
  forM batch (settleRecovered config stopped stoppedMono)

def recoverLongDelayContacts (records : List Recovery) : SchedulerM Unit :=
  forM (recoveryRounds records) (recoverRound config surroundings)

theorem mem_of_mem_recoveryRounds {records batch : List Recovery}
    (hbatch : batch ∈ recoveryRounds records) (hr : r ∈ batch) : r ∈ records := by
  induction records using recoveryRounds.induct with
  | case1 => simp [recoveryRounds] at hbatch
  | case2 record records ih =>
    rw [recoveryRounds, List.mem_cons] at hbatch
    have hperm := splitRound_perm (record :: records)
    rcases hbatch with rfl | hbatch
    · exact hperm.subset (List.mem_append_left _ hr)
    · exact hperm.subset (List.mem_append_right _ (ih hbatch))

/-! ### Adoption -/

def numbered (adoptions : List Adoption) : List Adoption :=
  adoptions.zipIdx.map fun a => { a.1 with info := { a.1.info with objectId := a.2 } }

def adoptRecords (adoptions : List Adoption) (s : Scheduler) : Scheduler :=
  adoptions.foldl (fun s adoption => setRecord adoption.key adoption.info s) s

/-- Adopt the long-delay contacts the kernel carries, before anything else is done.  What is
returned is the number of records adopted. -/
def adoptLongDelayState : SchedulerM Nat := do
  let fixed ← surveyLongDelayEnds config surroundings
  let ground ← surveyGroundTerminals config surroundings
  let adoptions := numbered (fixed ++ ground)
  modify (adoptRecords adoptions)
  recoverLongDelayContacts config surroundings (adoptions.filterMap Adoption.recovery?)
  modify (rebaselineActiveCounts config)
  return adoptions.length

/-! ### What is found -/

variable {config surroundings} {pair : Pair} {contact : Contact} {found : FoundContact}

def FoundContact.Names (contact : Contact) : FoundContact → Prop
  | .adoptedOpen found _ => found = contact
  | .recovered found carried _ => found = contact ∧ ∀ d ∈ carried.values, d = contact

theorem FoundContact.Names.contact_eq (h : found.Names contact) : found.contact = contact := by
  cases found with
  | adoptedOpen => exact h
  | recovered => exact h.1

theorem mem_values_ofList {K V : Type} [DecidableEq K] {entries : List (K × V)} {v : V}
    (h : v ∈ (Dict.ofList entries).values) : ∃ k, (k, v) ∈ entries := by
  obtain ⟨⟨k, _⟩, hentry, rfl⟩ := List.mem_map.mp h
  exact ⟨k, Dict.mem_of_get?_ofList (Dict.get?_eq_some_iff.mpr hentry)⟩

theorem mem_carriedContacts {ends : List (NodeId × EndSurvey)} {d : Contact}
    (h : d ∈ (carriedContacts ends).values) : ∃ e ∈ ends, e.2.carriedContactId = some d := by
  obtain ⟨node, hmem⟩ := mem_values_ofList h
  obtain ⟨e, he, hcarried⟩ := List.mem_filterMap.mp hmem
  obtain ⟨_, hcontact, heq⟩ := Option.map_eq_some_iff.mp hcarried
  rw [← (Prod.mk.inj heq).2]
  exact ⟨e, he, hcontact⟩

theorem names_of_classifySurveyedPair {surveys : Dict NodeId EndSurvey}
    (h : classifySurveyedPair pair surveys = .ok (some found))
    (hcarried : ∀ node survey, surveys.get? node = some survey →
      ∀ d, survey.carriedContactId = some d → d = contact) : found.Names contact := by
  unfold classifySurveyedPair at h
  split at h
  next surveyA surveyB hA hB =>
    have hvalues : ∀ d ∈ (carriedContacts [(pair.1, surveyA), (pair.2, surveyB)]).values,
        d = contact := by
      intro d hd
      obtain ⟨e, he, hcontact⟩ := mem_carriedContacts hd
      rcases List.mem_pair.mp he with rfl | rfl
      · exact hcarried pair.1 surveyA hA d hcontact
      · exact hcarried pair.2 surveyB hB d hcontact
    dsimp only at h
    split at h
    next => cases h
    next oldest newer hsorted =>
      have holdest : oldest = contact := by
        refine hvalues oldest (List.mem_dedup.mp ((List.perm_insertionSort Contact.Earlier _).subset ?_))
        rw [hsorted]
        exact List.mem_cons_self
      split at h
      · rw [← Option.some.inj (Except.ok.inj h)]
        exact holdest
      · rw [← Option.some.inj (Except.ok.inj h)]
        exact ⟨holdest, hvalues⟩
  next => cases h

def OwnContact (passes : GroundPasses) : Prop :=
  ∀ key pass, passes.get? key = some pass → ∀ node survey, pass.surveys.get? node = some survey →
    survey.carriedContactId = some key.2

theorem ownContact_groundContacts {reports : Dict Terminal EndSurvey} {passes : GroundPasses}
    (h : groundContacts reports = .ok passes) : OwnContact passes := by
  refine foldlM_invariant OwnContact (fun report _ passes passes' hown hadd => ?_) h
    fun _ _ hnone => nomatch hnone
  unfold addReport at hadd
  dsimp only at hadd
  split at hadd
  next => rwa [← Except.ok.inj hadd]
  next => cases hadd
  next contact peerNode peerInterface hcontact hpeer =>
    split at hadd
    · cases hadd
    · rw [← Except.ok.inj hadd]
      intro key pass hpass node survey hsurvey
      rw [Dict.get?_insert] at hpass
      split at hpass
      next heq =>
        subst heq
        rw [← Option.some.inj hpass] at hsurvey
        rw [Dict.get?_insert] at hsurvey
        split at hsurvey
        · rw [← Option.some.inj hsurvey]
          exact hcontact
        · rw [Dict.getD] at hsurvey
          cases hfound : passes.get? (orderedPair report.1.1 peerNode, contact) with
          | none => simp [hfound] at hsurvey
          | some old =>
            rw [hfound] at hsurvey
            exact hown _ old hfound node survey hsurvey
      next => exact hown key pass hpass node survey hsurvey

structure GroundRecord (config : SchedulerConfig) (key : Pair × Contact)
    (record : Pair × ActiveLinkInfo × FoundContact) : Prop where
  pair : record.1 = key.1
  ground : key.1 ∈ groundPairs config
  names : record.2.2.Names key.2
  contact : record.2.1.contact = some record.2.2.contact
  isOpen : record.2.1.drain = none

theorem groundRecord_of_groundFound {key : Pair × Contact} {pass : GroundPass}
    {record : Pair × ActiveLinkInfo × FoundContact}
    (hown : ∀ node survey, pass.surveys.get? node = some survey →
      survey.carriedContactId = some key.2)
    (h : groundFound config (key, pass) = .ok record) : GroundRecord config key record := by
  simp only [groundFound] at h
  split at h
  next => cases h
  next hground =>
    obtain ⟨classified, hclassified, h⟩ := bind_eq_ok_iff.mp h
    cases classified with
    | none => cases h
    | some classified =>
      obtain ⟨interfaceA, -, h⟩ := bind_eq_ok_iff.mp h
      obtain ⟨interfaceB, -, h⟩ := bind_eq_ok_iff.mp h
      have hnames : classified.Names key.2 := by
        refine names_of_classifySurveyedPair hclassified fun node survey hsurvey d hd => ?_
        have hcarries : ∀ n, (pass.surveys.getD n emptySurvey).carriedContactId = some d →
            d = key.2 := by
          intro n hn
          rw [Dict.getD] at hn
          cases hget : pass.surveys.get? n with
          | none => simp [hget, emptySurvey] at hn
          | some surveyed =>
            rw [hget] at hn
            exact Option.some.inj (hn.symm.trans (hown n surveyed hget))
        rcases List.mem_pair.mp (Dict.mem_of_get?_ofList hsurvey) with heq | heq
        · obtain ⟨rfl, rfl⟩ := Prod.mk.inj heq
          exact hcarries _ hd
        · obtain ⟨rfl, rfl⟩ := Prod.mk.inj heq
          exact hcarries _ hd
      rw [← Except.ok.inj h]
      exact ⟨rfl, not_not.mp hground, hnames, rfl, rfl⟩

/-- An adopted record is of a long-delay pair and open, and an overlapping one is found under its own
contact. -/
structure Adoption.Sound (config : SchedulerConfig) (a : Adoption) : Prop where
  longDelay : config.longDelay a.key.pair = true
  contact : a.info.contact = some a.found.contact
  isOpen : a.info.drain = none
  names : ∀ pair contact, a.key = .overlap pair contact → a.found.Names contact

def Apart (adoptions : List Adoption) : Prop :=
  ∀ a ∈ adoptions, ∀ b ∈ adoptions, ∀ pair contact, a.key = .current pair →
    b.key = .overlap pair contact → a.found.contact ≠ contact

section PairAdoptions

variable {passes : List (ActiveLinkInfo × FoundContact)} {adoptions : List Adoption}
  (h : pairAdoptions pair passes = .ok adoptions)

include h

theorem exists_pass_of_pairAdoptions (ha : a ∈ adoptions) :
    ∃ pass ∈ passes, a.info = pass.1 ∧ a.found = pass.2 ∧
      (a.key = .current pair ∨ a.key = .overlap pair pass.2.contact) := by
  have hsub : ∀ pass ∈ (passes.insertionSort fun x y => x.2.contact.Earlier y.2.contact).reverse,
      pass ∈ passes := fun pass hpass => by simpa using hpass
  unfold pairAdoptions at h
  split at h
  next =>
    rw [← Except.ok.inj h] at ha
    cases ha
  next latest older hpasses =>
    rw [hpasses] at hsub
    split at h
    next => cases h
    next =>
      rw [← Except.ok.inj h] at ha
      rcases List.mem_cons.mp ha with rfl | ha
      · exact ⟨latest, hsub latest List.mem_cons_self, rfl, rfl, .inl rfl⟩
      · obtain ⟨pass, hpass, rfl⟩ := List.mem_map.mp ha
        exact ⟨pass, hsub pass (List.mem_cons_of_mem _ (List.mem_reverse.mp hpass)), rfl, rfl,
          .inr rfl⟩

theorem apart_of_pairAdoptions (hcontacts : (passes.map fun pass => pass.2.contact).Nodup) :
    Apart adoptions := by
  have hperm : ((passes.insertionSort fun x y => x.2.contact.Earlier y.2.contact).reverse.map
      fun pass => pass.2.contact).Nodup :=
    (((List.reverse_perm _).trans (List.perm_insertionSort _ _)).map _).nodup_iff.mpr hcontacts
  unfold pairAdoptions at h
  split at h
  next =>
    rw [← Except.ok.inj h]
    exact fun _ ha => nomatch ha
  next latest older hpasses =>
    rw [hpasses, List.map_cons, List.nodup_cons] at hperm
    split at h
    next => cases h
    next =>
      rw [← Except.ok.inj h]
      intro a ha b hb pair' contact hcurrent hoverlap
      have hlatest : a.found = latest.2 := by
        rcases List.mem_cons.mp ha with rfl | ha
        · rfl
        · obtain ⟨pass, -, rfl⟩ := List.mem_map.mp ha
          cases hcurrent
      have holder : contact ∈ older.map fun pass => pass.2.contact := by
        rcases List.mem_cons.mp hb with rfl | hb
        · cases hoverlap
        · obtain ⟨pass, hpass, rfl⟩ := List.mem_map.mp hb
          rw [← (RecordKey.overlap.inj hoverlap).2]
          exact List.mem_map_of_mem (List.mem_reverse.mp hpass)
      rw [hlatest]
      exact fun heq => hperm.1 (heq ▸ holder)

end PairAdoptions

section GroundAdoptions

variable {reports : Dict Terminal EndSurvey} {adoptions : List Adoption}
  (h : groundAdoptions config reports = .ok adoptions)

include h

theorem exists_records_of_groundAdoptions :
    ∃ records : List (Pair × ActiveLinkInfo × FoundContact),
      (∀ record ∈ records, ∃ contact, GroundRecord config (record.1, contact) record) ∧
      (records.map fun record => (record.1, record.2.2.contact)).Nodup ∧
      ∀ a ∈ adoptions, ∃ pair own, a ∈ own ∧
        pairAdoptions pair ((records.filter fun record => record.1 = pair).map Prod.snd) =
          .ok own := by
  obtain ⟨passes, hpasses, h⟩ := bind_eq_ok_iff.mp h
  obtain ⟨records, hrecords, h⟩ := bind_eq_ok_iff.mp h
  obtain ⟨owns, howns, h⟩ := bind_eq_ok_iff.mp h
  have hown := ownContact_groundContacts hpasses
  have hfound : ∀ pass ∈ passes.entries, ∀ record, groundFound config pass = .ok record →
      GroundRecord config pass.1 record := fun pass hpass record hrecord =>
    groundRecord_of_groundFound (hown pass.1 pass.2 (Dict.get?_eq_some_iff.mpr hpass)) hrecord
  refine ⟨records, fun record hrecord => ?_, ?_, fun a ha => ?_⟩
  · obtain ⟨pass, hpass, hrecord⟩ := exists_of_mem_mapM hrecords hrecord
    have hground := hfound pass hpass record hrecord
    exact ⟨pass.1.2, by rw [hground.pair]; exact hground⟩
  · have hkeys : records.map (fun record => (record.1, record.2.2.contact)) = passes.keys := by
      refine map_eq_of_mapM hrecords fun pass hpass record hrecord => ?_
      have hground := hfound pass hpass record hrecord
      rw [hground.pair, hground.names.contact_eq]
    rw [hkeys]
    exact passes.keys_nodup
  · rw [← Except.ok.inj h] at ha
    obtain ⟨own, hmem, ha⟩ := List.mem_flatten.mp ha
    obtain ⟨pair, -, hpair⟩ := exists_of_mem_mapM howns hmem
    exact ⟨pair, own, ha, hpair⟩

theorem sound_groundAdoptions (ha : a ∈ adoptions) :
    a.Sound config ∧ a.key.pair ∈ groundPairs config := by
  obtain ⟨records, hrecords, -, howns⟩ := exists_records_of_groundAdoptions h
  obtain ⟨pair, own, hown, hpair⟩ := howns a ha
  obtain ⟨pass, hpass, hinfo, hfound, hkey⟩ := exists_pass_of_pairAdoptions hpair hown
  obtain ⟨record, hrecord, rfl⟩ := List.mem_map.mp hpass
  obtain ⟨hmem, hfirst⟩ := List.mem_filter.mp hrecord
  obtain rfl := of_decide_eq_true hfirst
  obtain ⟨contact, hground⟩ := hrecords record hmem
  have hkeyPair : a.key.pair = record.1 := by
    rcases hkey with hkey | hkey <;> rw [hkey] <;> rfl
  have hlong : record.1 ∈ groundPairs config := hground.ground
  refine ⟨⟨?_, ?_, ?_, fun pair' contact' hoverlap => ?_⟩, by rwa [hkeyPair]⟩
  · rw [hkeyPair]
    exact decide_eq_true (List.mem_filter.mp hlong).1
  · rw [hinfo, hfound]
    exact hground.contact
  · rw [hinfo]
    exact hground.isOpen
  · rw [hfound]
    rcases hkey with hkey | hkey
    · cases hkey.symm.trans hoverlap
    · rw [← (RecordKey.overlap.inj (hkey.symm.trans hoverlap)).2, hground.names.contact_eq]
      exact hground.names

theorem apart_groundAdoptions : Apart adoptions := by
  obtain ⟨records, hrecords, hnodup, howns⟩ := exists_records_of_groundAdoptions h
  intro a ha b hb pair contact hcurrent hoverlap
  obtain ⟨pairA, ownA, hownA, hpairA⟩ := howns a ha
  obtain ⟨pairB, ownB, hownB, hpairB⟩ := howns b hb
  -- both adoptions are of the one pair, so they come from one list of passes
  have hA : pairA = pair := by
    obtain ⟨_, -, -, -, hkey⟩ := exists_pass_of_pairAdoptions hpairA hownA
    rcases hkey with hkey | hkey
    · exact RecordKey.current.inj (hkey.symm.trans hcurrent)
    · cases hkey.symm.trans hcurrent
  have hB : pairB = pair := by
    obtain ⟨_, -, -, -, hkey⟩ := exists_pass_of_pairAdoptions hpairB hownB
    rcases hkey with hkey | hkey
    · cases hkey.symm.trans hoverlap
    · exact (RecordKey.overlap.inj (hkey.symm.trans hoverlap)).1
  subst hA hB
  obtain rfl := Except.ok.inj (hpairA.symm.trans hpairB)
  refine apart_of_pairAdoptions hpairA ?_ a hownA b hownB pairB contact hcurrent hoverlap
  have hcontacts : ((records.filter fun record => record.1 = pairB).map
      fun record => (record.1, record.2.2.contact)).Nodup :=
    hnodup.sublist (List.filter_sublist.map _)
  have hsecond := List.Nodup.map_on (f := Prod.snd) ?_ hcontacts
  · simpa [List.map_map, Function.comp_def] using hsecond
  · intro x hx y hy hxy
    obtain ⟨_, hrecord, rfl⟩ := List.mem_map.mp hx
    obtain ⟨_, hrecord', rfl⟩ := List.mem_map.mp hy
    have hfirst := of_decide_eq_true (List.mem_filter.mp hrecord).2
    have hfirst' := of_decide_eq_true (List.mem_filter.mp hrecord').2
    exact Prod.ext (hfirst.trans hfirst'.symm) hxy

end GroundAdoptions

theorem sound_fixedAdoptions {reports : Dict Terminal EndSurvey} {adoptions : List Adoption}
    (h : fixedAdoptions config reports = .ok adoptions) (ha : a ∈ adoptions) :
    a.Sound config ∧ ∃ pair ∈ fixedPairs config, a.key = .current pair := by
  obtain ⟨lists, hlists, h⟩ := bind_eq_ok_iff.mp h
  rw [← Except.ok.inj h] at ha
  obtain ⟨own, hmem, ha⟩ := List.mem_flatten.mp ha
  obtain ⟨pair, hpair, hown⟩ := exists_of_mem_mapM hlists hmem
  have hfixed : pair ∈ fixedPairs config := by simpa [sortedPairs] using hpair
  obtain ⟨interfaces, -, hown⟩ := bind_eq_ok_iff.mp hown
  obtain ⟨surveyA, -, hown⟩ := bind_eq_ok_iff.mp hown
  obtain ⟨surveyB, -, hown⟩ := bind_eq_ok_iff.mp hown
  obtain ⟨classified, -, hown⟩ := bind_eq_ok_iff.mp hown
  cases classified with
  | none =>
    rw [← Except.ok.inj hown] at ha
    cases ha
  | some found =>
    rw [← Except.ok.inj hown] at ha
    obtain rfl := List.mem_singleton.mp ha
    exact ⟨⟨decide_eq_true (List.mem_filter.mp hfixed).1, rfl, rfl, fun _ _ h => by cases h⟩,
      pair, hfixed, rfl⟩

/-- Everything a survey can yield. -/
structure Sound (config : SchedulerConfig) (adoptions : List Adoption) : Prop where
  each : ∀ a ∈ adoptions, a.Sound config
  apart : Apart adoptions

theorem sound_append {fixed ground : List Adoption}
    (hfixed : ∀ a ∈ fixed, a.Sound config ∧ ∃ pair ∈ fixedPairs config, a.key = .current pair)
    (hground : ∀ a ∈ ground, a.Sound config ∧ a.key.pair ∈ groundPairs config)
    (hapart : Apart ground) : Sound config (fixed ++ ground) where
  each a ha := by
    rcases List.mem_append.mp ha with ha | ha
    · exact (hfixed a ha).1
    · exact (hground a ha).1
  apart a ha b hb pair contact hcurrent hoverlap := by
    rcases List.mem_append.mp hb with hb | hb
    · obtain ⟨-, _, -, hkey⟩ := hfixed b hb
      cases hkey.symm.trans hoverlap
    · have hpair : pair ∈ groundPairs config := by
        have := (hground b hb).2
        rwa [hoverlap] at this
      rcases List.mem_append.mp ha with ha | ha
      · obtain ⟨-, pair', hfixed, hkey⟩ := hfixed a ha
        obtain rfl := RecordKey.current.inj (hkey.symm.trans hcurrent)
        exact absurd (of_decide_eq_true (List.mem_filter.mp hfixed).2)
          (of_decide_eq_true (List.mem_filter.mp hpair).2)
      · exact hapart a ha b hb pair contact hcurrent hoverlap

theorem mem_numbered {adoptions : List Adoption} (ha : a ∈ numbered adoptions) :
    ∃ b ∈ adoptions, a.key = b.key ∧ a.found = b.found ∧ a.info.contact = b.info.contact ∧
      a.info.drain = b.info.drain := by
  obtain ⟨⟨b, i⟩, hb, rfl⟩ := List.mem_map.mp ha
  exact ⟨b, (List.mem_zipIdx hb).2.2 ▸ List.getElem_mem _, rfl, rfl, rfl, rfl⟩

theorem sound_numbered {adoptions : List Adoption} (h : Sound config adoptions) :
    Sound config (numbered adoptions) where
  each a ha := by
    obtain ⟨b, hb, hkey, hfound, hcontact, hdrain⟩ := mem_numbered ha
    have hsound := h.each b hb
    exact ⟨hkey ▸ hsound.longDelay, by rw [hcontact, hfound]; exact hsound.contact,
      hdrain.trans hsound.isOpen, by rw [hkey, hfound]; exact hsound.names⟩
  apart a ha b hb pair contact hcurrent hoverlap := by
    obtain ⟨a', ha', hkey, hfound, -⟩ := mem_numbered ha
    obtain ⟨b', hb', hkey', -⟩ := mem_numbered hb
    rw [hfound]
    exact h.apart a' ha' b' hb' pair contact (hkey.symm.trans hcurrent) (hkey'.symm.trans hoverlap)

/-! ### What is held after adoption -/

section Held

variable {s t : Scheduler} {adoptions : List Adoption}

/-- Every record is an adopted one, and what its drain names its ends were found carrying. -/
def Tracks (adoptions : List Adoption) (s : Scheduler) : Prop :=
  RecordsIn (fun key info => ∃ a ∈ adoptions, a.key = key ∧ info.contact = a.info.contact ∧
    ∀ drain, info.drain = some drain → ∃ r, a.recovery? = some r ∧
      ∀ e ∈ drain.ends, e.contactId ∈ r.carried.values) s

theorem tracks_adoptRecords (hopen : ∀ a ∈ adoptions, a.info.drain = none)
    (hnone : ∀ key, record? s key = none) : Tracks adoptions (adoptRecords adoptions s) := by
  have hfold : ∀ (rest : List Adoption) (s : Scheduler), (∀ a ∈ rest, a ∈ adoptions) →
      Tracks adoptions s → Tracks adoptions (adoptRecords rest s) := by
    intro rest
    induction rest with
    | nil => exact fun _ _ h => h
    | cons a rest ih =>
      intro s hrest hs
      refine ih (setRecord a.key a.info s) (fun b hb => hrest b (List.mem_cons_of_mem _ hb)) ?_
      have ha := hrest a List.mem_cons_self
      refine hs.set ⟨a, ha, rfl, rfl, fun drain hdrain => ?_⟩
      rw [hopen a ha] at hdrain
      cases hdrain
  refine hfold adoptions s (fun _ ha => ha) fun key info hinfo => ?_
  rw [hnone] at hinfo
  cases hinfo

theorem carried_of_recoverDrain {info : ActiveLinkInfo} {carried : Dict NodeId Contact}
    {stoppedMono bound : ℚ} {drain : Drain} {e : DrainingEnd}
    (h : recoverDrain pair info carried stoppedMono bound = .ok drain) (he : e ∈ drain.ends) :
    e.contactId ∈ carried.values := by
  unfold recoverDrain at h
  dsimp only at h
  split at h
  · rw [← Except.ok.inj h] at he
    obtain ⟨terminal, -, hend⟩ := List.mem_filterMap.mp he
    obtain ⟨contact, hcontact, rfl⟩ := Option.map_eq_some_iff.mp hend
    exact List.mem_map_of_mem (Dict.get?_eq_some_iff.mp hcontact)
  · cases h

theorem wp_settleRecovered {stopped : ActuationResult} {stoppedMono : ℚ}
    (hr : r ∈ adoptions.filterMap Adoption.recovery?) (h : Tracks adoptions s) :
    wp (settleRecovered config stopped stoppedMono r) s (fun _ => Tracks adoptions)
      (fun _ _ => True) := by
  obtain ⟨a, ha, hrecovery⟩ := List.mem_filterMap.mp hr
  have hsame : a.key = r.key ∧ r.info = a.info := by
    unfold Adoption.recovery? at hrecovery
    split at hrecovery
    · cases hrecovery
    · rw [← Option.some.inj hrecovery]
      exact ⟨rfl, rfl⟩
  rw [settleRecovered, wp_bind]
  refine wp_recordStageLosses (fun losses => ?_) fun _ _ => trivial
  simp only [wp_bind, wp_lift, wp_modify]
  refine ⟨fun bound _ => ⟨fun drain hdrain => ?_, fun _ _ => trivial⟩, fun _ _ => trivial⟩
  refine RecordsIn.set (h.congr fun _ => record?_losses) ⟨a, ha, hsame.1, ?_, ?_⟩
  · rw [← hsame.2]
  · rintro _ ⟨⟩
    exact ⟨r, hrecovery, fun e he => carried_of_recoverDrain hdrain he⟩

theorem wp_recoverLongDelayContacts (h : Tracks adoptions s) :
    wp (recoverLongDelayContacts config surroundings (adoptions.filterMap Adoption.recovery?)) s
      (fun _ => Tracks adoptions) (fun _ _ => True) := by
  refine wp_forM_invariant (Tracks adoptions) (fun batch hbatch t ht => ?_) h
  rw [recoverRound, wp_bind]
  refine wp_mono (sameRecords_sendBatchDown t) (fun stopped u hu => ?_) fun _ _ _ => trivial
  simp only [wp_bind, wp_require, wp_monotonic]
  refine ⟨fun _ => ?_, fun _ => trivial⟩
  refine wp_forM_invariant (Tracks adoptions) (fun r hr v hv => ?_) ?_
  · exact wp_settleRecovered (mem_of_mem_recoveryRounds hbatch hr) hv
  · exact (ht.congr hu).congr fun _ => record?_afterReading

/-- What a Scheduler holds once it adopted: long-delay records alone, each overlapping one draining
under its own contact, which is not its pair's current one. -/
structure Adopted (config : SchedulerConfig) (s : Scheduler) : Prop where
  longDelay : ∀ key info, record? s key = some info →
    config.longDelay key.pair = true
  named : ∀ pair contact info, record? s (.overlap pair contact) = some info →
    info.contact = some contact ∧
      ∀ drain, info.drain = some drain → ∀ e ∈ drain.ends, e.contactId = contact
  apart : ∀ pair contact info, record? s (.current pair) = some info →
    info.contact = some contact → record? s (.overlap pair contact) = none

theorem adopted_of_tracks (hsound : Sound config adoptions) (h : Tracks adoptions s) :
    Adopted config s where
  longDelay key info hinfo := by
    obtain ⟨a, ha, rfl, -⟩ := h key info hinfo
    exact (hsound.each a ha).longDelay
  named pair contact info hinfo := by
    obtain ⟨a, ha, hkey, hcontact, hdrains⟩ := h _ info hinfo
    have hnames := (hsound.each a ha).names pair contact hkey
    refine ⟨?_, fun drain hdrain e he => ?_⟩
    · rw [hcontact, (hsound.each a ha).contact, hnames.contact_eq]
    · obtain ⟨r, hr, hends⟩ := hdrains drain hdrain
      have hcarried := hends e he
      unfold Adoption.recovery? at hr
      split at hr
      · cases hr
      next found carried receiveMs hfound =>
        rw [hfound] at hnames
        rw [← Option.some.inj hr] at hcarried
        exact hnames.2 _ hcarried
  apart pair contact info hinfo hcontact := by
    obtain ⟨a, ha, hkey, hsame, -⟩ := h _ info hinfo
    by_contra hsome
    obtain ⟨info', hinfo'⟩ := Option.ne_none_iff_exists'.mp hsome
    obtain ⟨b, hb, hkey', -⟩ := h _ info' hinfo'
    refine hsound.apart a ha b hb pair contact hkey hkey' ?_
    rw [hsame, (hsound.each a ha).contact] at hcontact
    exact Option.some.inj hcontact

theorem sameRecords_survey {requested : List Pair} {linkType : LinkType} {plan : BatchPlan} :
    Within SameRecords (survey config surroundings requested linkType plan) := by
  intro s
  simp only [survey, wp_bind, wp_sendCommand, wp_require, wp_pure]
  exact ⟨fun _ _ => record?_afterCommand, fun _ _ => record?_afterCommand⟩

theorem wp_adoptLongDelayState (hnone : ∀ key, record? s key = none) :
    wp (adoptLongDelayState config surroundings) s (fun _ => Adopted config)
      (fun _ _ => True) := by
  have hfixed : wp (surveyLongDelayEnds config surroundings) s
      (fun fixed t => SameRecords s t ∧ ∀ a ∈ fixed, a.Sound config ∧
        ∃ pair ∈ fixedPairs config, a.key = .current pair) (fun _ _ => True) := by
    unfold surveyLongDelayEnds
    rw [wp_ite]
    refine ⟨fun _ => ⟨fun _ => rfl, fun _ h => nomatch h⟩, fun _ => ?_⟩
    rw [wp_bind, wp_lift]
    refine ⟨fun entries _ => ?_, fun _ _ => trivial⟩
    rw [wp_bind]
    refine wp_mono (sameRecords_survey s) (fun reports t ht => ?_) fun _ _ _ => trivial
    rw [wp_lift]
    exact ⟨fun fixed hfixed => ⟨ht, fun a ha => sound_fixedAdoptions hfixed ha⟩,
      fun _ _ => trivial⟩
  have hground : ∀ t, wp (surveyGroundTerminals config surroundings) t
      (fun ground u => SameRecords t u ∧
        (∀ a ∈ ground, a.Sound config ∧ a.key.pair ∈ groundPairs config) ∧ Apart ground)
      (fun _ _ => True) := by
    intro t
    unfold surveyGroundTerminals
    rw [wp_ite]
    refine ⟨fun _ => ⟨fun _ => rfl, fun _ h => (nomatch h), fun _ h => (nomatch h)⟩, fun _ => ?_⟩
    rw [wp_bind]
    refine wp_mono (sameRecords_survey t) (fun reports u hu => ?_) fun _ _ _ => trivial
    rw [wp_lift]
    exact ⟨fun ground hground => ⟨hu, fun a ha => sound_groundAdoptions hground ha,
      apart_groundAdoptions hground⟩, fun _ _ => trivial⟩
  rw [adoptLongDelayState, wp_bind]
  refine wp_imp hfixed ?_
  rintro fixed t ⟨ht, hfixedSound⟩
  rw [wp_bind]
  refine wp_imp (hground t) ?_
  rintro ground u ⟨hu, hgroundSound, hapart⟩
  have hsound := sound_numbered (sound_append hfixedSound hgroundSound hapart)
  simp only [wp_bind, wp_modify]
  refine wp_imp (wp_recoverLongDelayContacts (tracks_adoptRecords
    (fun a ha => (hsound.each a ha).isOpen) fun key => ?_)) fun _ v hv => ?_
  · rw [hu key, ht key, hnone key]
  · obtain ⟨_, _, heq⟩ := rebaselineActiveCounts_eq config v
    rw [wp_pure, heq]
    exact adopted_of_tracks hsound (hv.congr fun _ => record?_congr rfl rfl)

end Held

end NodalArc.LongDelayAdoption
