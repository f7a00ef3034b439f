import NodalArc.FirstFit
import NodalArc.LinkRuleCandidates

/-! Interfaces for fixed links: every end of a candidate takes the first free interface of a
terminal that its rule selects. -/

namespace NodalArc.FixedInterfaces

open OrderedDict
open StatefulProgram
open LinkRuleCandidates
open FirstFit

inductive TerminalSelector (Id : Type)
  | all (children : List (TerminalSelector Id))
  | any (children : List (TerminalSelector Id))
  | not (child : TerminalSelector Id)
  | role (role : MountRole)
  | medium (medium : TerminalMedium)
  | mount (mount : Id)

structure ResolvedLinkCandidate (Id : Type) where
  ruleId : Id
  kind : LinkLabel
  terminalRoles : MountRole × MountRole
  terminalMedium : Option TerminalMedium
  nodeA : Id
  nodeB : Id
  interfaces : Option (String × String)
  topologyMode : TopologyMode
  priority : Nat
  endpointSegments : Id × Id
deriving DecidableEq

inductive ResolutionError (Id : Type)
  | candidates (e : CandidateError Id)
  | unknown (id : Id)
  | needsInterface (ruleId nodeId : Id) (eligible : List String)
  | surfaceToSurface (ruleId : Id)
  | groundEndpoints (nodeA nodeB : Id)
  | neitherEndpoint (ruleId nodeId : Id)
  | delayRefused (ruleId : Id)
  | notFixedCapable (nodeId : Id) (name : String)
  | limits (e : LimitError Id)
deriving DecidableEq

variable {Id ρ : Type} [LinearOrder Id] [LinearOrder ρ]

mutual

def terminalMatches (block : ResolvedTerminalBlock Id) : TerminalSelector Id → Bool
  | .all children => allMatch block children
  | .any children => anyMatches block children
  | .not child => !terminalMatches block child
  | .role role => block.endpointRole = role
  | .medium medium => block.medium = medium
  | .mount mount => block.terminalId = mount

def allMatch (block : ResolvedTerminalBlock Id) : List (TerminalSelector Id) → Bool
  | [] => true
  | child :: children => terminalMatches block child && allMatch block children

def anyMatches (block : ResolvedTerminalBlock Id) : List (TerminalSelector Id) → Bool
  | [] => false
  | child :: children => terminalMatches block child || anyMatches block children

end

def ruleById (s : ResolvedSession Id) (ruleId : Id) : Option (ResolvedLinkRule Id) :=
  s.linkRules.find? fun rule => rule.ruleId = ruleId

def isFixedCapable (name : String) : Bool := "isl".toList.isPrefixOf name.toList

def eligibleFixedInterfaces (node : ResolvedNode Id) (rule : ResolvedLinkRule Id)
    (selectors : TerminalSelector Id × TerminalSelector Id) : List String :=
  let sideSelectors := (if node.nodeId ∈ rule.left.nodeIds then [selectors.1] else []) ++
    if node.nodeId ∈ rule.right.nodeIds then [selectors.2] else []
  let eligible := (node.wanInterfaces.filter fun iface =>
    (node.terminalInventory.find? (·.terminalId = iface.terminalId)).any fun block =>
      sideSelectors.any (terminalMatches block)).map ResolvedWanInterface.name
  if rule.kind = .access then eligible else eligible.filter isFixedCapable

/-- The interface of one end, and the used interfaces with it. -/
def fixedIface (selectors : Id → TerminalSelector Id × TerminalSelector Id)
    (used : Dict Id (List String)) (node : ResolvedNode Id) (rule : ResolvedLinkRule Id) :
    Except (ResolutionError Id) (String × Dict Id (List String)) :=
  let eligible := eligibleFixedInterfaces node rule (selectors rule.ruleId)
  match eligible.find? (· ∉ used.getD node.nodeId []) with
  | some name => .ok (name, used.insert node.nodeId (name :: used.getD node.nodeId []))
  | none => .error (.needsInterface rule.ruleId node.nodeId eligible)

def validateAccessCandidateEndpoints (left right : ResolvedNode Id) (ruleId : Id) :
    Except (ResolutionError Id) Unit :=
  if left.groundStation && right.groundStation && left.referenceBody ≠ right.referenceBody then
    .error (.surfaceToSurface ruleId)
  else if left.groundStation = right.groundStation then
    .error (.groundEndpoints left.nodeId right.nodeId)
  else .ok ()

/-- The role of the first endpoint that has the node. -/
def roleFor (candidate : DeclaredLinkCandidate Id) (rule : ResolvedLinkRule Id) (nodeId : Id) :
    Except (ResolutionError Id) MountRole :=
  if nodeId ∈ rule.left.nodeIds then .ok candidate.terminalRoles.1
  else if nodeId ∈ rule.right.nodeIds then .ok candidate.terminalRoles.2
  else .error (.neitherEndpoint rule.ruleId nodeId)

section Program

/-- The nodes and rules, the authored selectors of each rule, and whether the delays of a link
stay on one side of the long-delay bound. -/
structure Authored (Id : Type) where
  session : ResolvedSession Id
  selectors : Id → TerminalSelector Id × TerminalSelector Id
  delayKept : Id → ResolvedNode Id × MountRole → ResolvedNode Id × MountRole → Bool

variable (authored : Authored Id)

/-- The interfaces of a candidate, and the used interfaces with them. -/
def candidateInterfaces (used : Dict Id (List String)) (candidate : DeclaredLinkCandidate Id)
    (left right : ResolvedNode Id) (rule : ResolvedLinkRule Id) :
    Except (ResolutionError Id) (Option (String × String) × Dict Id (List String)) :=
  if candidate.kind = .access then do
    validateAccessCandidateEndpoints left right candidate.ruleId
    return (none, used)
  else do
    let (ifaceA, used) ← fixedIface authored.selectors used left rule
    let (ifaceB, used) ← fixedIface authored.selectors used right rule
    return (some (ifaceA, ifaceB), used)

def lookup {α : Type} (found : Option α) (id : Id) : Except (ResolutionError Id) α :=
  found.elim (.error (.unknown id)) .ok

def resolveCandidate (state : Dict Id (List String) × List (ResolvedLinkCandidate Id))
    (candidate : DeclaredLinkCandidate Id) :
    Except (ResolutionError Id) (Dict Id (List String) × List (ResolvedLinkCandidate Id)) := do
  let left ← lookup (nodeById authored.session candidate.pair.1) candidate.pair.1
  let right ← lookup (nodeById authored.session candidate.pair.2) candidate.pair.2
  let rule ← lookup (ruleById authored.session candidate.ruleId) candidate.ruleId
  let (interfaces, used) ← candidateInterfaces authored state.1 candidate left right rule
  let roleA ← roleFor candidate rule candidate.pair.1
  let roleB ← roleFor candidate rule candidate.pair.2
  if !authored.delayKept candidate.ruleId (left, roleA) (right, roleB) then
    .error (.delayRefused candidate.ruleId)
  else .ok (used, state.2 ++ [{
    ruleId := candidate.ruleId, kind := candidate.kind, terminalRoles := (roleA, roleB)
    terminalMedium := candidate.terminalMedium, nodeA := candidate.pair.1, nodeB := candidate.pair.2
    interfaces, topologyMode := candidate.topologyMode, priority := candidate.priority
    endpointSegments := candidate.endpointSegments }])

/-- The interfaces of a candidate, each with its node. -/
def usedEnds (candidate : ResolvedLinkCandidate Id) : List (Id × String) :=
  match candidate.interfaces with
  | some (ifaceA, ifaceB) => [(candidate.nodeA, ifaceA), (candidate.nodeB, ifaceB)]
  | none => []

def validateFixedInterfaceCapacity (candidates : List (ResolvedLinkCandidate Id)) :
    Except (ResolutionError Id) Unit :=
  let capable : Id × String → Bool := fun (nodeId, name) =>
    isFixedCapable name && (nodeById authored.session nodeId).any fun node =>
      node.wanInterfaces.any fun iface => iface.name = name
  match (candidates.flatMap usedEnds).find? fun used => !capable used with
  | some (nodeId, name) => .error (.notFixedCapable nodeId name)
  | none => .ok ()

def resolveLinkCandidates (pairRank : Option (Id × Id → Option ρ)) (limits : Option CandidateLimits) :
    Except (ResolutionError Id) (List (ResolvedLinkCandidate Id)) := do
  let declared ← (generateDeclaredLinkCandidates authored.session pairRank).mapError .candidates
  let resolved ← declared.foldlM (resolveCandidate authored) (∅, [])
  validateFixedInterfaceCapacity authored resolved.2
  (enforceCandidateLimits limits (resolved.2.map ResolvedLinkCandidate.ruleId)).mapError .limits
  return resolved.2

end Program

/-- A pair has its nodes in the two endpoint sets, one way round or the other. -/
def Joins (rule : ResolvedLinkRule Id) (pair : Id × Id) : Prop :=
  pair.1 ∈ rule.left.nodeIds ∧ pair.2 ∈ rule.right.nodeIds ∨
    pair.1 ∈ rule.right.nodeIds ∧ pair.2 ∈ rule.left.nodeIds

section Declared

variable {s : ResolvedSession Id} {pairRank : Option (Id × Id → Option ρ)}
  {rule : ResolvedLinkRule Id} {items : List ((Id × Id) × Nat)} {item : (Id × Id) × Nat}
  {pairs : List (Id × Id)} {pair : Id × Id}

theorem joins_pairOf {a b : Id} (h : Joins rule (a, b)) : Joins rule (pairOf a b) := by
  unfold pairOf
  split
  · exact h
  · exact h.symm.imp And.symm And.symm

theorem joins_of_rawPairs (h : rawPairs s rule = .ok pairs) (hpair : pair ∈ pairs) :
    Joins rule pair := by
  unfold rawPairs at h
  split at h
  · obtain ⟨authored, -, h⟩ := exists_of_mem_mapM h hpair
    unfold explicitRuntimePair at h
    split at h
    · split at h <;> cases h
      exact joins_pairOf ‹_›
    · split at h
      · split at h <;> cases h
        exact joins_pairOf (.inr ‹_›)
      · cases h
  · cases h
    obtain ⟨a, ha, b, hb, -, rfl⟩ := exists_of_mem_crossProductPairs hpair
    exact joins_pairOf (.inl ⟨ha, hb⟩)

theorem joins_of_rulePairs (h : rulePairs s pairRank rule = .ok items) (hitem : item ∈ items) :
    Joins rule item.1 := by
  obtain ⟨-, rfl⟩ | ⟨henabled, pairs, hraw, happly⟩ := rulePairs_eq_ok h
  · cases hitem
  refine joins_of_rawPairs hraw ?_
  have hunique : ∀ {item : (Id × Id) × Nat},
      item ∈ (StableSort.sortOn (pairKey s) pairs.dedup).zipIdx → item.1 ∈ pairs := fun h =>
    List.mem_dedup.mp (StableSort.sortOn_perm.mem_iff.mp (List.fst_mem_of_mem_zipIdx h))
  cases htopology : rule.topology with
  | nearestN n pos =>
    obtain ⟨seen, kept, hseen, hkept, hgreedy⟩ := nearest_of_rulePairs htopology henabled h
    simp only [rawPairs, htopology] at hraw
    cases hraw
    exact (hseen _).mp (hgreedy.kept_seen (hkept.mem_iff.mpr (List.mem_map_of_mem hitem)))
  | nearestVisible =>
    simp only [applyStaticTopology, htopology] at happly
    cases happly
  | visibleCandidates | explicitPairs _ =>
    simp only [applyStaticTopology, htopology] at happly
    cases happly
    exact hunique hitem

theorem exists_of_mem_generate {declared : List (DeclaredLinkCandidate Id)}
    {candidate : DeclaredLinkCandidate Id} (h : generateDeclaredLinkCandidates s pairRank = .ok declared)
    (hmem : candidate ∈ declared) :
    ∃ rule item, ruleById s candidate.ruleId = some rule ∧ Joins rule item.1 ∧
      candidate = candidateOf rule item := by
  obtain ⟨-, rfl, -⟩ := generate_eq_ok h
  obtain ⟨rule, hrule, hmem⟩ := List.mem_flatMap.mp hmem
  unfold LinkRuleCandidates.declared at hmem
  split at hmem
  case h_2 => cases hmem
  case h_1 items hitems =>
    obtain ⟨item, hitem, rfl⟩ := List.mem_map.mp hmem
    refine ⟨rule, item, ?_, joins_of_rulePairs hitems hitem, rfl⟩
    cases hfound : ruleById s rule.ruleId with
    | none => simpa using List.find?_eq_none.mp hfound rule hrule
    | some found =>
      have hid : found.ruleId = rule.ruleId := by simpa using List.find?_some hfound
      exact hfound.trans (congrArg some
        (List.inj_on_of_nodup_map s.ruleIds_nodup (List.mem_of_find?_eq_some hfound) hrule hid))

end Declared

/-- The fixed ends of a declared candidate: a node and the rule it needs an interface for. -/
def fixedEnds (candidate : DeclaredLinkCandidate Id) : List (Id × Id) :=
  if candidate.kind = .access then []
  else [(candidate.pair.1, candidate.ruleId), (candidate.pair.2, candidate.ruleId)]

/-- The interfaces an end may take. -/
def slots (authored : Authored Id) (fixedEnd : Id × Id) : List (Id × String) :=
  match nodeById authored.session fixedEnd.1, ruleById authored.session fixedEnd.2 with
  | some node, some rule =>
      (eligibleFixedInterfaces node rule (authored.selectors rule.ruleId)).map (fixedEnd.1, ·)
  | _, _ => []

/-- The interfaces given so far, to the ends so far, are the used ones. -/
structure Allotted (authored : Authored Id) (used : Dict Id (List String)) (ends : List (Id × Id))
    (given : List ((Id × Id) × (Id × String))) : Prop where
  fits : Fits (slots authored) ends given
  used : ∀ nodeId name, name ∈ used.getD nodeId [] ↔ (nodeId, name) ∈ given.map Prod.snd

section Allotment

variable {authored : Authored Id} {used used' : Dict Id (List String)} {ends : List (Id × Id)}
  {given : List ((Id × Id) × (Id × String))} {node : ResolvedNode Id} {rule : ResolvedLinkRule Id}
  {nodeId ruleId : Id} {name : String}

theorem slots_of_known (hnode : nodeById authored.session nodeId = some node)
    (hrule : ruleById authored.session ruleId = some rule) :
    node.nodeId = nodeId ∧ rule.ruleId = ruleId ∧ slots authored (nodeId, ruleId) =
      (eligibleFixedInterfaces node rule (authored.selectors rule.ruleId)).map (nodeId, ·) := by
  refine ⟨by simpa using List.find?_some hnode, by simpa using List.find?_some hrule, ?_⟩
  simp only [slots, hnode, hrule]

theorem Allotted.fixedIface_ok (h : Allotted authored used ends given)
    (hnode : nodeById authored.session nodeId = some node)
    (hrule : ruleById authored.session ruleId = some rule)
    (hok : fixedIface authored.selectors used node rule = .ok (name, used')) :
    Allotted authored used' (ends ++ [(nodeId, ruleId)]) (given ++ [((nodeId, ruleId), (nodeId, name))]) := by
  obtain ⟨rfl, -, hslots⟩ := slots_of_known hnode hrule
  simp only [fixedIface] at hok
  split at hok <;> cases hok
  case h_1 hfound =>
    have hfree : name ∉ used.getD node.nodeId [] := by simpa using List.find?_some hfound
    refine ⟨h.fits.concat ?_ (mt (h.used _ _).mpr hfree), fun nodeId' name' => ?_⟩
    · rw [hslots]
      exact List.mem_map_of_mem (List.mem_of_find?_eq_some hfound)
    · simp only [Dict.getD, Dict.get?_insert, List.map_append, List.mem_append, ← h.used]
      split <;> simp_all [Dict.getD, or_comm]

theorem Allotted.full_of_fixedIface_error (h : Allotted authored used ends given)
    (hnode : nodeById authored.session nodeId = some node)
    (hrule : ruleById authored.session ruleId = some rule) {e : ResolutionError Id}
    (herror : fixedIface authored.selectors used node rule = .error e) :
    slots authored (nodeId, ruleId) ⊆ given.map Prod.snd := by
  obtain ⟨rfl, -, hslots⟩ := slots_of_known hnode hrule
  simp only [fixedIface] at herror
  split at herror <;> cases herror
  case h_2 hnone =>
    rw [hslots]
    intro slot hs
    obtain ⟨name, hname, rfl⟩ := List.mem_map.mp hs
    exact (h.used _ _).mp (by simpa using List.find?_eq_none.mp hnone name hname)

/-- The interfaces of a candidate, each with the end it serves. -/
def grants (candidate : ResolvedLinkCandidate Id) : List ((Id × Id) × (Id × String)) :=
  (usedEnds candidate).map fun used => ((used.1, candidate.ruleId), used)

/-- A candidate has the pair and the rule of its declaration, the roles of its nodes, and, when it
is fixed, two interfaces. -/
def ResolvedFrom (authored : Authored Id) (declared : DeclaredLinkCandidate Id)
    (candidate : ResolvedLinkCandidate Id) : Prop :=
  candidate.ruleId = declared.ruleId ∧ (candidate.nodeA, candidate.nodeB) = declared.pair ∧
    (∀ rule, ruleById authored.session declared.ruleId = some rule →
      roleFor declared rule candidate.nodeA = .ok candidate.terminalRoles.1 ∧
      roleFor declared rule candidate.nodeB = .ok candidate.terminalRoles.2) ∧
    candidate.kind = declared.kind ∧ (candidate.kind ≠ .access → ∃ a b, candidate.interfaces = some (a, b))

variable {declared : DeclaredLinkCandidate Id} {out out' : List (ResolvedLinkCandidate Id)}
  {left right : ResolvedNode Id}

omit [LinearOrder Id] in
theorem lookup_eq_ok {α : Type} {found : Option α} {id : Id} {a : α} :
    lookup found id = .ok a ↔ found = some a := by
  cases found <;> simp [lookup]

theorem Allotted.resolveCandidate_ok (h : Allotted authored used ends (out.flatMap grants))
    (hok : resolveCandidate authored (used, out) declared = .ok (used', out')) :
    Allotted authored used' (ends ++ fixedEnds declared) (out'.flatMap grants) ∧
      ∃ candidate, out' = out ++ [candidate] ∧ ResolvedFrom authored declared candidate := by
  obtain ⟨left, hleft, hok⟩ := bind_eq_ok_iff.mp hok
  obtain ⟨right, hright, hok⟩ := bind_eq_ok_iff.mp hok
  obtain ⟨rule, hrule, hok⟩ := bind_eq_ok_iff.mp hok
  obtain ⟨⟨interfaces, used₂⟩, hinterfaces, hok⟩ := bind_eq_ok_iff.mp hok
  obtain ⟨roleA, hroleA, hok⟩ := bind_eq_ok_iff.mp hok
  obtain ⟨roleB, hroleB, hok⟩ := bind_eq_ok_iff.mp hok
  rw [lookup_eq_ok] at hleft hright hrule
  split at hok <;> cases hok
  rw [List.flatMap_append]
  unfold candidateInterfaces at hinterfaces
  split at hinterfaces
  case isTrue haccess =>
    obtain ⟨_, -, hinterfaces⟩ := bind_eq_ok_iff.mp hinterfaces
    cases hinterfaces
    refine ⟨?_, _, rfl, rfl, rfl, ?_, rfl, fun hkind => absurd haccess hkind⟩
    · simpa [fixedEnds, haccess, grants, usedEnds] using h
    · rw [hrule]
      rintro _ ⟨⟩
      exact ⟨hroleA, hroleB⟩
  case isFalse hfixed =>
    obtain ⟨⟨a, used₁⟩, ha, hinterfaces⟩ := bind_eq_ok_iff.mp hinterfaces
    obtain ⟨⟨b, used₃⟩, hb, hinterfaces⟩ := bind_eq_ok_iff.mp hinterfaces
    cases hinterfaces
    have hboth := (h.fixedIface_ok hleft hrule ha).fixedIface_ok hright hrule hb
    refine ⟨?_, _, rfl, rfl, rfl, ?_, rfl, fun _ => ⟨a, b, rfl⟩⟩
    · simpa [fixedEnds, hfixed, grants, usedEnds] using hboth
    · rw [hrule]
      rintro _ ⟨⟩
      exact ⟨hroleA, hroleB⟩

theorem candidateInterfaces_of_needsInterface {eligible : List String}
    (h : resolveCandidate authored (used, out) declared =
      .error (.needsInterface ruleId nodeId eligible)) :
    ∃ left right rule, nodeById authored.session declared.pair.1 = some left ∧
      nodeById authored.session declared.pair.2 = some right ∧
      ruleById authored.session declared.ruleId = some rule ∧
      candidateInterfaces authored used declared left right rule =
        .error (.needsInterface ruleId nodeId eligible) := by
  have hlookup : ∀ {α : Type} {found : Option α} {id : Id},
      lookup found id ≠ .error (.needsInterface ruleId nodeId eligible) := by
    intro α found id
    cases found <;> simp [lookup]
  have hrole : ∀ {rule : ResolvedLinkRule Id} {id : Id},
      roleFor declared rule id ≠ .error (.needsInterface ruleId nodeId eligible) := by
    intro rule id
    unfold roleFor
    split
    · nofun
    · split <;> nofun
  obtain ⟨left, hleft, h⟩ := (bind_eq_error_iff.mp h).resolve_left hlookup
  obtain ⟨right, hright, h⟩ := (bind_eq_error_iff.mp h).resolve_left hlookup
  obtain ⟨rule, hrule, h⟩ := (bind_eq_error_iff.mp h).resolve_left hlookup
  refine ⟨left, right, rule, lookup_eq_ok.mp hleft, lookup_eq_ok.mp hright, lookup_eq_ok.mp hrule, ?_⟩
  refine (bind_eq_error_iff.mp h).resolve_right ?_
  rintro ⟨_, -, h⟩
  obtain ⟨_, -, h⟩ := (bind_eq_error_iff.mp h).resolve_left hrole
  obtain ⟨_, -, h⟩ := (bind_eq_error_iff.mp h).resolve_left hrole
  split at h <;> cases h

theorem Allotted.not_fits_of_needsInterface (h : Allotted authored used ends given) {rest : List (Id × Id)}
    {all : List ((Id × Id) × (Id × String))} {eligible : List String}
    (hnarrow : Narrowing (slots authored) (ends ++ (fixedEnds declared ++ rest)))
    (herror : resolveCandidate authored (used, out) declared =
      .error (.needsInterface ruleId nodeId eligible)) :
    ¬ Fits (slots authored) (ends ++ (fixedEnds declared ++ rest)) all := by
  obtain ⟨left, right, rule, hleft, hright, hrule, herror⟩ :=
    candidateInterfaces_of_needsInterface herror
  unfold candidateInterfaces at herror
  split at herror
  case isTrue haccess =>
    rcases bind_eq_error_iff.mp herror with herror | ⟨_, -, herror⟩
    · unfold validateAccessCandidateEndpoints at herror
      split at herror
      · cases herror
      · split at herror <;> cases herror
    · cases herror
  case isFalse hfixed =>
    rw [fixedEnds, if_neg hfixed] at hnarrow ⊢
    rcases bind_eq_error_iff.mp herror with herror | ⟨⟨a, used₁⟩, ha, herror⟩
    · exact not_fits_of_full h.fits hnarrow (h.full_of_fixedIface_error hleft hrule herror)
    · have h₁ := h.fixedIface_ok hleft hrule ha
      have herror := (bind_eq_error_iff.mp herror).resolve_right fun ⟨_, _, h⟩ => by cases h
      rw [List.cons_append, List.append_cons] at hnarrow ⊢
      exact not_fits_of_full h₁.fits hnarrow (h₁.full_of_fixedIface_error hright hrule herror)

variable {candidates : List (DeclaredLinkCandidate Id)}

theorem Allotted.foldlM_ok (h : Allotted authored used ends (out.flatMap grants))
    (hok : candidates.foldlM (resolveCandidate authored) (used, out) = .ok (used', out')) :
    Allotted authored used' (ends ++ candidates.flatMap fixedEnds) (out'.flatMap grants) ∧
      ∀ candidate ∈ out', candidate ∈ out ∨
        ∃ declared ∈ candidates, ResolvedFrom authored declared candidate := by
  induction candidates generalizing used ends out with
  | nil =>
    cases hok
    rw [List.flatMap_nil, List.append_nil]
    exact ⟨h, fun candidate => .inl⟩
  | cons declared candidates ih =>
    rw [List.foldlM_cons] at hok
    obtain ⟨⟨used₁, out₁⟩, hstep, hok⟩ := bind_eq_ok_iff.mp hok
    obtain ⟨h₁, resolved, rfl, hresolved⟩ := h.resolveCandidate_ok hstep
    obtain ⟨h', hout⟩ := ih h₁ hok
    rw [List.flatMap_cons, ← List.append_assoc]
    refine ⟨h', fun candidate hc => ?_⟩
    rcases hout candidate hc with hc | ⟨d, hd, hfrom⟩
    · rcases List.mem_append.mp hc with hc | hc
      · exact .inl hc
      · exact .inr ⟨declared, List.mem_cons_self, List.mem_singleton.mp hc ▸ hresolved⟩
    · exact .inr ⟨d, List.mem_cons_of_mem _ hd, hfrom⟩

theorem Allotted.not_fits_of_foldlM_error (h : Allotted authored used ends (out.flatMap grants))
    {all : List ((Id × Id) × (Id × String))} {eligible : List String}
    (hnarrow : Narrowing (slots authored) (ends ++ candidates.flatMap fixedEnds))
    (herror : candidates.foldlM (resolveCandidate authored) (used, out) =
      .error (.needsInterface ruleId nodeId eligible)) :
    ¬ Fits (slots authored) (ends ++ candidates.flatMap fixedEnds) all := by
  induction candidates generalizing used ends out with
  | nil => cases herror
  | cons declared candidates ih =>
    rw [List.foldlM_cons] at herror
    rw [List.flatMap_cons] at hnarrow ⊢
    rcases bind_eq_error_iff.mp herror with herror | ⟨⟨used₁, out₁⟩, hstep, herror⟩
    · exact h.not_fits_of_needsInterface hnarrow herror
    · rw [← List.append_assoc] at hnarrow ⊢
      exact ih (h.resolveCandidate_ok hstep).1 hnarrow herror

theorem allotted_empty : Allotted authored ∅ [] (([] : List (ResolvedLinkCandidate Id)).flatMap grants) :=
  ⟨⟨.nil, .nil, nofun⟩, fun _ _ => ⟨nofun, nofun⟩⟩

end Allotment

section Results

variable {authored : Authored Id} {pairRank : Option (Id × Id → Option ρ)}
  {limits : Option CandidateLimits} {declared : List (DeclaredLinkCandidate Id)}
  {candidates : List (ResolvedLinkCandidate Id)} {rule : ResolvedLinkRule Id} {nodeId : Id} {name : String}

/-- Where the interface sets of ends that share an interface grow in the order of the candidates,
an end finds no interface only when no assignment of interfaces serves all ends. -/
theorem needsInterface_only_when_impossible {all : List ((Id × Id) × (Id × String))}
    (hdeclared : generateDeclaredLinkCandidates authored.session pairRank = .ok declared)
    (hnarrow : Narrowing (slots authored) (declared.flatMap fixedEnds))
    (hfits : Fits (slots authored) (declared.flatMap fixedEnds) all) (ruleId : Id)
    (eligible : List String) :
    resolveLinkCandidates authored pairRank limits ≠
      .error (.needsInterface ruleId nodeId eligible) := by
  intro herror
  rw [resolveLinkCandidates, hdeclared] at herror
  obtain ⟨_, ⟨⟩, herror⟩ := (bind_eq_error_iff.mp herror).resolve_left nofun
  rcases bind_eq_error_iff.mp herror with herror | ⟨resolved, -, herror⟩
  · exact allotted_empty.not_fits_of_foldlM_error hnarrow herror hfits
  -- the checks after the loop raise other errors
  · rcases bind_eq_error_iff.mp herror with herror | ⟨_, -, herror⟩
    · simp only [validateFixedInterfaceCapacity] at herror
      split at herror <;> cases herror
    · rcases bind_eq_error_iff.mp herror with herror | ⟨_, -, herror⟩
      · cases hlimits : enforceCandidateLimits limits (resolved.2.map ResolvedLinkCandidate.ruleId)
        all_goals
          rw [hlimits] at herror
          cases herror
      · cases herror

/-- The interface belongs to a terminal of the node that the selector matches. -/
def Mounted (authored : Authored Id) (selector : TerminalSelector Id) (nodeId : Id) (name : String) :
    Prop :=
  ∃ node ∈ authored.session.nodes, node.nodeId = nodeId ∧
    ∃ iface ∈ node.wanInterfaces, iface.name = name ∧
      ∃ block ∈ node.terminalInventory, block.terminalId = iface.terminalId ∧
        terminalMatches block selector

/-- The node is in the first endpoint's set with an interface its selector allows. -/
def PlaysLeft (authored : Authored Id) (rule : ResolvedLinkRule Id) (nodeId : Id) (name : String) : Prop :=
  nodeId ∈ rule.left.nodeIds ∧ Mounted authored (authored.selectors rule.ruleId).1 nodeId name

def PlaysRight (authored : Authored Id) (rule : ResolvedLinkRule Id) (nodeId : Id) (name : String) : Prop :=
  nodeId ∈ rule.right.nodeIds ∧ Mounted authored (authored.selectors rule.ruleId).2 nodeId name

instance (selector : TerminalSelector Id) : Decidable (Mounted authored selector nodeId name) :=
  inferInstanceAs (Decidable (∃ _ ∈ _, _ ∧ ∃ _ ∈ _, _ ∧ ∃ _ ∈ _, _))

/-- When the node is in both endpoint sets, the endpoints have one role and their selectors match
the same of its terminals. -/
def OneMount (authored : Authored Id) (rule : ResolvedLinkRule Id) (nodeId : Id) : Prop :=
  nodeId ∈ rule.left.nodeIds → nodeId ∈ rule.right.nodeIds →
    rule.left.terminalRole = rule.right.terminalRole ∧
    ∀ selector, Mounted authored (authored.selectors rule.ruleId).1 nodeId selector ↔
      Mounted authored (authored.selectors rule.ruleId).2 nodeId selector

theorem plays_of_mem_slots (hrule : ruleById authored.session rule.ruleId = some rule)
    (h : (nodeId, name) ∈ slots authored (nodeId, rule.ruleId)) :
    PlaysLeft authored rule nodeId name ∨ PlaysRight authored rule nodeId name := by
  cases hnode : nodeById authored.session nodeId with
  | none => simp [slots, hnode] at h
  | some node =>
    obtain ⟨rfl, -, hslots⟩ := slots_of_known hnode hrule
    rw [hslots] at h
    obtain ⟨_, hname, ⟨⟩⟩ := List.mem_map.mp h
    have hname : name ∈ (node.wanInterfaces.filter fun iface =>
        (node.terminalInventory.find? (·.terminalId = iface.terminalId)).any fun block =>
          ((if node.nodeId ∈ rule.left.nodeIds then [(authored.selectors rule.ruleId).1] else []) ++
            if node.nodeId ∈ rule.right.nodeIds then [(authored.selectors rule.ruleId).2]
            else []).any (terminalMatches block)).map ResolvedWanInterface.name := by
      simp only [eligibleFixedInterfaces] at hname
      split at hname
      · exact hname
      · exact (List.mem_filter.mp hname).1
    obtain ⟨iface, hiface, rfl⟩ := List.mem_map.mp hname
    obtain ⟨hiface, hblock⟩ := List.mem_filter.mp hiface
    obtain ⟨block, hfound, hmatch⟩ := Option.any_eq_true _ _ |>.mp hblock
    have hmounted : ∀ selector, terminalMatches block selector →
        Mounted authored selector node.nodeId iface.name := fun selector h =>
      ⟨node, List.mem_of_find?_eq_some hnode, rfl, iface, hiface, rfl, block,
        List.mem_of_find?_eq_some hfound, by simpa using List.find?_some hfound, h⟩
    rw [List.any_append, Bool.or_eq_true] at hmatch
    refine hmatch.imp (fun h => ?_) (fun h => ?_)
    all_goals
      split at h
      · exact ⟨‹_›, hmounted _ (by simpa using h)⟩
      · cases h

theorem OneMount.playsLeft (h : OneMount authored rule nodeId) (hmem : nodeId ∈ rule.left.nodeIds)
    (hplays : PlaysLeft authored rule nodeId name ∨ PlaysRight authored rule nodeId name) :
    PlaysLeft authored rule nodeId name := by
  rcases hplays with hplays | ⟨hright, hmounted⟩
  · exact hplays
  · exact ⟨hmem, ((h hmem hright).2 name).mpr hmounted⟩

theorem OneMount.playsRight (h : OneMount authored rule nodeId) (hmem : nodeId ∈ rule.right.nodeIds)
    (hplays : PlaysLeft authored rule nodeId name ∨ PlaysRight authored rule nodeId name) :
    PlaysRight authored rule nodeId name := by
  rcases hplays with ⟨hleft, hmounted⟩ | hplays
  · exact ⟨hmem, ((h hleft hmem).2 name).mp hmounted⟩
  · exact hplays

theorem OneMount.roleFor_eq {item : (Id × Id) × Nat} {role : MountRole}
    (h : OneMount authored rule nodeId) (hrole : roleFor (candidateOf rule item) rule nodeId = .ok role) :
    (nodeId ∈ rule.left.nodeIds → role = rule.left.terminalRole) ∧
      (nodeId ∈ rule.right.nodeIds → role = rule.right.terminalRole) := by
  unfold roleFor at hrole
  split at hrole
  case isTrue hleft =>
    cases hrole
    exact ⟨fun _ => rfl, fun hright => (h hleft hright).1⟩
  case isFalse hleft =>
    split at hrole <;> cases hrole
    exact ⟨fun hmem => absurd hmem hleft, fun _ => rfl⟩

/-- Every fixed interface serves one candidate, and each end of a candidate has an interface of a
terminal that its rule selects on a side with the node; where the sides agree on a node in both,
one end plays the first endpoint and the other the second, with their roles. -/
theorem fixed_links_use_declared_mounts
    (h : resolveLinkCandidates authored pairRank limits = .ok candidates) :
    (candidates.flatMap usedEnds).Nodup ∧
    ∀ candidate ∈ candidates, candidate.kind ≠ .access → ∃ rule a b,
      ruleById authored.session candidate.ruleId = some rule ∧ candidate.interfaces = some (a, b) ∧
      (PlaysLeft authored rule candidate.nodeA a ∨ PlaysRight authored rule candidate.nodeA a) ∧
      (PlaysLeft authored rule candidate.nodeB b ∨ PlaysRight authored rule candidate.nodeB b) ∧
      (OneMount authored rule candidate.nodeA → OneMount authored rule candidate.nodeB →
        PlaysLeft authored rule candidate.nodeA a ∧ PlaysRight authored rule candidate.nodeB b ∧
          candidate.terminalRoles = (rule.left.terminalRole, rule.right.terminalRole) ∨
        PlaysRight authored rule candidate.nodeA a ∧ PlaysLeft authored rule candidate.nodeB b ∧
          candidate.terminalRoles = (rule.right.terminalRole, rule.left.terminalRole)) := by
  obtain ⟨declared, hdeclared, h⟩ := bind_eq_ok_iff.mp h
  obtain ⟨⟨used, out⟩, hfold, h⟩ := bind_eq_ok_iff.mp h
  obtain ⟨_, -, h⟩ := bind_eq_ok_iff.mp h
  obtain ⟨_, -, h⟩ := bind_eq_ok_iff.mp h
  cases h
  have hgenerate : generateDeclaredLinkCandidates authored.session pairRank = .ok declared := by
    cases hg : generateDeclaredLinkCandidates authored.session pairRank <;> rw [hg] at hdeclared <;>
      cases hdeclared
    rfl
  obtain ⟨hallotted, hfrom⟩ := allotted_empty.foldlM_ok hfold
  constructor
  · have hnodup := hallotted.fits.nodup
    simpa [grants, List.map_flatMap, Function.comp_def] using hnodup
  intro candidate hmem hfixed
  obtain ⟨d, hd, hruleId, hpair, hroles, hkind, hinterfaces⟩ :=
    (hfrom candidate hmem).resolve_left List.not_mem_nil
  obtain ⟨rule, item, hrule, hjoins, rfl⟩ := exists_of_mem_generate hgenerate hd
  obtain ⟨a, b, hinterfaces⟩ := hinterfaces hfixed
  obtain ⟨hroleA, hroleB⟩ := hroles rule hrule
  have hown : ∀ used ∈ usedEnds candidate, used ∈ slots authored (used.1, rule.ruleId) := by
    intro used hu
    have := hallotted.fits.own ((used.1, candidate.ruleId), used)
      (List.mem_flatMap.mpr ⟨candidate, hmem, List.mem_map_of_mem hu⟩)
    rwa [hruleId] at this
  have hA := plays_of_mem_slots hrule (hown (candidate.nodeA, a) (by simp [usedEnds, hinterfaces]))
  have hB := plays_of_mem_slots hrule (hown (candidate.nodeB, b) (by simp [usedEnds, hinterfaces]))
  refine ⟨rule, a, b, hruleId ▸ hrule, hinterfaces, hA, hB, fun honeA honeB => ?_⟩
  obtain ⟨hleftA, hrightA⟩ := honeA.roleFor_eq hroleA
  obtain ⟨hleftB, hrightB⟩ := honeB.roleFor_eq hroleB
  have hpair : (candidate.nodeA, candidate.nodeB) = item.1 := hpair
  rw [← hpair] at hjoins
  rcases hjoins with ⟨hmemA, hmemB⟩ | ⟨hmemA, hmemB⟩
  · exact .inl ⟨honeA.playsLeft hmemA hA, honeB.playsRight hmemB hB,
      Prod.ext (hleftA hmemA) (hrightB hmemB)⟩
  · exact .inr ⟨honeA.playsRight hmemA hA, honeB.playsLeft hmemB hB,
      Prod.ext (hrightA hmemA) (hleftB hmemB)⟩

/-- Nodes 1 and 2 have a fore (10) and an aft (11) terminal, node 3 has a fore one. -/
def foreAndAft (rules : List (ResolvedLinkRule Nat))
    (nodup : (rules.map ResolvedLinkRule.ruleId).Nodup) : Authored Nat where
  session :=
    { nodes := [⟨1, 1, 0, false, none, [⟨10, .isl, .optical⟩, ⟨11, .isl, .optical⟩],
          [⟨"isl0", 10⟩, ⟨"isl1", 11⟩]⟩,
        ⟨2, 2, 0, false, none, [⟨10, .isl, .optical⟩, ⟨11, .isl, .optical⟩],
          [⟨"isl0", 10⟩, ⟨"isl1", 11⟩]⟩,
        ⟨3, 3, 0, false, none, [⟨10, .isl, .optical⟩], [⟨"isl0", 10⟩]⟩]
      linkRules := rules
      nodeIds_nodup := by decide
      ruleIds_nodup := nodup }
  selectors := fun ruleId =>
    (.all [.role .isl, .mount 10], .all [.role .isl, .mount (if ruleId = 100 then 11 else 10)])
  delayKept := fun _ _ _ => true

/-- Nodes 1 and 2, from the fore terminal of one to the aft terminal of the other. -/
def alongTrack : ResolvedLinkRule Nat :=
  ⟨100, .isl, true, ⟨0, .isl, none, [1, 2], by decide⟩, ⟨0, .isl, none, [1, 2], by decide⟩,
    .visibleCandidates⟩

/-- Nodes 1 and 3, from fore terminal to fore terminal. -/
def ahead : ResolvedLinkRule Nat :=
  ⟨101, .isl, true, ⟨0, .isl, none, [1], by decide⟩, ⟨0, .isl, none, [3], by decide⟩,
    .visibleCandidates⟩

theorem fore_meets_fore : let authored := foreAndAft [alongTrack] (by decide)
    resolveLinkCandidates authored (none : Option (Nat × Nat → Option Nat)) none =
        .ok [⟨100, .isl, (.isl, .isl), none, 1, 2, some ("isl0", "isl0"), .visibleCandidates, 0, (0, 0)⟩] ∧
      ¬ PlaysRight authored alongTrack 1 "isl0" ∧ ¬ PlaysRight authored alongTrack 2 "isl0" := by
  refine ⟨by decide +kernel, fun h => ?_, fun h => ?_⟩
  · exact absurd h.2 (by decide +kernel)
  · exact absurd h.2 (by decide +kernel)

theorem broad_rule_takes_last_interface :
    resolveLinkCandidates (foreAndAft [alongTrack, ahead] (by decide))
        (none : Option (Nat × Nat → Option Nat)) none = .error (.needsInterface 101 1 ["isl0"]) ∧
      (resolveLinkCandidates (foreAndAft [ahead, alongTrack] (by decide))
        (none : Option (Nat × Nat → Option Nat)) none).isOk ∧
      ∃ all, Fits (slots (foreAndAft [alongTrack, ahead] (by decide)))
        [(1, 100), (2, 100), (1, 101), (3, 101)] all := by
  refine ⟨by decide +kernel, by decide +kernel, [((1, 100), (1, "isl1")), ((2, 100), (2, "isl0")),
    ((1, 101), (1, "isl0")), ((3, 101), (3, "isl0"))], by decide, by decide, by decide +kernel⟩

theorem narrow_rule_first_is_served : let authored := foreAndAft [ahead, alongTrack] (by decide)
    resolveLinkCandidates authored (none : Option (Nat × Nat → Option Nat)) none ≠
      .error (.needsInterface 100 1 ["isl0", "isl1"]) := by
  intro authored
  have hdeclared : generateDeclaredLinkCandidates authored.session
      (none : Option (Nat × Nat → Option Nat)) = .ok
        [⟨(1, 3), 101, .isl, (.isl, .isl), none, .visibleCandidates, 0, (0, 0)⟩,
          ⟨(1, 2), 100, .isl, (.isl, .isl), none, .visibleCandidates, 0, (0, 0)⟩] := by decide +kernel
  have hfits : Fits (slots authored) [(1, 101), (3, 101), (1, 100), (2, 100)]
      [((1, 101), (1, "isl0")), ((3, 101), (3, "isl0")), ((1, 100), (1, "isl1")),
        ((2, 100), (2, "isl0"))] := ⟨by decide, by decide, by decide +kernel⟩
  have hnarrow : Narrowing (slots authored) [(1, 101), (3, 101), (1, 100), (2, 100)] := by
    unfold Narrowing List.Disjoint
    decide +kernel
  exact needsInterface_only_when_impossible hdeclared hnarrow hfits 100 _

theorem ahead_joins_fore_to_fore : let authored := foreAndAft [ahead] (by decide)
    let resolved : List (ResolvedLinkCandidate Nat) :=
      [⟨101, .isl, (.isl, .isl), none, 1, 3, some ("isl0", "isl0"), .visibleCandidates, 0, (0, 0)⟩]
    resolveLinkCandidates authored (none : Option (Nat × Nat → Option Nat)) none = .ok resolved ∧
      (resolved.flatMap usedEnds).Nodup ∧
      ∃ rule a b, PlaysLeft authored rule 1 a ∧ PlaysRight authored rule 3 b := by
  intro authored resolved
  have hresolved : resolveLinkCandidates authored (none : Option (Nat × Nat → Option Nat)) none =
    .ok resolved := by decide +kernel
  obtain ⟨hnodup, hfixed⟩ := fixed_links_use_declared_mounts hresolved
  refine ⟨hresolved, hnodup, ?_⟩
  obtain ⟨rule, a, b, hrule, -, -, -, horiented⟩ := hfixed _ List.mem_cons_self nofun
  obtain rfl : ahead = rule := Option.some.inj hrule
  rcases horiented nofun nofun with h | h
  · exact ⟨ahead, a, b, h.1, h.2.1⟩
  · exact absurd h.1.1 (by decide)

end Results

end NodalArc.FixedInterfaces
