import NodalArc.GroundCandidates

/-! Invariants of the terminal bookkeeping inside one tick of the ground allocator. -/

namespace NodalArc.GroundAllocatorInvariant

open OrderedDict
open StatefulProgram
open GroundPolicy
open GroundAllocator
open GroundCandidates

/-- A candidate with terminal indices of the station's pool and of the satellite's pool for the
station's reference body. -/
def Placed (ctx : AllocationContext) (c : Candidate) (indices : Indices) : Prop :=
  ∃ pool body, ctx.gsTerminalPools.get? c.gsId = some pool ∧ indices.1 ∈ pool ∧
    ctx.config.gsReferenceBodies.get? c.gsId = some body ∧
    indices.2 ∈ satellitePool ctx.satTerminalPools c.satId body

/-- A candidate holds terminal indices in the bookkeeping. -/
structure Holds (ctx : AllocationContext) (b : TerminalBook) (c : Candidate)
    (indices : Indices) : Prop where
  mem : c ∈ ctx.candidates
  get : b.newAssociations.get? c.pair = some indices

/-- One end of the associations: the terminals in use at a node are those its associations hold, no
two of which share one, and the index by node lists exactly the associations. -/
structure EndOccupancy (ctx : AllocationContext) (b : TerminalBook) (node : Candidate → NodeId)
    (terminal : Indices → Int) (occupied : NodeId → Finset Int) (listed : NodeId → List Pair) :
    Prop where
  occupied_iff : ∀ nodeId index, index ∈ occupied nodeId ↔
    ∃ c indices, Holds ctx b c indices ∧ node c = nodeId ∧ terminal indices = index
  exclusive : ∀ c d ci di, Holds ctx b c ci → Holds ctx b d di → node c = node d →
    terminal ci = terminal di → c = d
  listed_iff : ∀ nodeId pair, pair ∈ listed nodeId ↔
    pair ∈ b.newAssociations ∧ ∃ c ∈ ctx.candidates, c.pair = pair ∧ node c = nodeId
  listed_nodup : ∀ nodeId, (listed nodeId).Nodup

/-- The bookkeeping of the associations, which are candidates on terminals of their pools. -/
structure Occupancy (ctx : AllocationContext) (b : TerminalBook) : Prop where
  candidate : ∀ pair ∈ b.newAssociations, ∃ c ∈ ctx.candidates, c.pair = pair
  placed : ∀ c indices, Holds ctx b c indices → Placed ctx c indices
  gs : EndOccupancy ctx b Candidate.gsId Prod.fst b.gsOccupied b.assocByGs
  sat : EndOccupancy ctx b Candidate.satId Prod.snd b.satOccupied b.assocBySat

section Occupancy

variable {ctx : AllocationContext} {b : TerminalBook} {c d : Candidate} {indices di : Indices}
    {pair : Pair} {nodeId id : NodeId} {index held : Int} {node : Candidate → NodeId}
    {terminal : Indices → Int} {occupied : NodeId → Finset Int} {listed : NodeId → List Pair}

theorem occupancy_initial (ctx : AllocationContext) :
    Occupancy ctx Allocation.initial.toTerminalBook := by
  have hnot : ∀ pair, pair ∉ Allocation.initial.newAssociations := fun _ => Dict.not_mem_empty
  have hholds : ∀ c indices, ¬ Holds ctx Allocation.initial.toTerminalBook c indices :=
    fun c indices h => hnot c.pair (Dict.mem_of_get? h.get)
  have hend : ∀ node terminal, EndOccupancy ctx Allocation.initial.toTerminalBook node terminal
      (fun _ => ∅) (fun _ => []) := fun node terminal =>
    { occupied_iff := fun nodeId index => by simp [hholds]
      exclusive := fun c d ci di h => absurd h (hholds c ci)
      listed_iff := fun nodeId pair => by simp [hnot]
      listed_nodup := fun nodeId => List.nodup_nil }
  exact ⟨fun pair h => absurd h (hnot pair), fun c indices h => absurd h (hholds c indices),
    hend _ _, hend _ _⟩

theorem holds_occupy_iff (hctx : ContextFacts ctx) (hc : c ∈ ctx.candidates) :
    Holds ctx (b.occupy c.pair c.gsId c.satId indices) d di ↔
      (d = c ∧ di = indices) ∨ (d.pair ≠ c.pair ∧ Holds ctx b d di) := by
  constructor
  · rintro ⟨hd, hget⟩
    simp only [TerminalBook.occupy, Dict.get?_insert] at hget
    split at hget
    · rename_i heq
      exact Or.inl ⟨hctx.candidate_unique d hd c hc heq, (Option.some.inj hget).symm⟩
    · rename_i hne
      exact Or.inr ⟨hne, hd, hget⟩
  · rintro (⟨rfl, rfl⟩ | ⟨hne, hd, hget⟩)
    · exact ⟨hc, by simp [TerminalBook.occupy]⟩
    · exact ⟨hd, by simp [TerminalBook.occupy, hne, hget]⟩

theorem mem_update_insert :
    index ∈ Function.update occupied nodeId (insert held (occupied nodeId)) id ↔
    (id = nodeId ∧ index = held) ∨ index ∈ occupied id := by
  by_cases hid : id = nodeId
  · subst hid
    simp
  · simp [hid]

theorem mem_update_append {p : Pair} : pair ∈ Function.update listed nodeId
      (if p ∈ listed nodeId then listed nodeId else listed nodeId ++ [p]) id ↔
    (id = nodeId ∧ pair = p) ∨ pair ∈ listed id := by
  by_cases hid : id = nodeId
  · subst hid
    by_cases hp : p ∈ listed id
    · simpa [hp] using fun heq => heq ▸ hp
    · simp [hp, or_comm]
  · simp [hid]

theorem EndOccupancy.occupy (hctx : ContextFacts ctx)
    (h : EndOccupancy ctx b node terminal occupied listed) (hc : c ∈ ctx.candidates)
    (hnew : c.pair ∉ b.newAssociations) (hfree : terminal indices ∉ occupied (node c)) :
    EndOccupancy ctx (b.occupy c.pair c.gsId c.satId indices) node terminal
      (Function.update occupied (node c) (insert (terminal indices) (occupied (node c))))
      (Function.update listed (node c)
        (if c.pair ∈ listed (node c) then listed (node c) else listed (node c) ++ [c.pair])) := by
  constructor
  case occupied_iff =>
    intro nodeId index
    rw [mem_update_insert, h.occupied_iff]
    simp only [holds_occupy_iff hctx hc]
    constructor
    · rintro (⟨rfl, rfl⟩ | ⟨d, di, hd, hends⟩)
      · exact ⟨c, indices, .inl ⟨rfl, rfl⟩, rfl, rfl⟩
      · have hne : d.pair ≠ c.pair := fun heq => hnew (heq ▸ Dict.mem_of_get? hd.get)
        exact ⟨d, di, .inr ⟨hne, hd⟩, hends⟩
    · rintro ⟨d, di, ⟨rfl, rfl⟩ | ⟨-, hd⟩, hends⟩
      · exact .inl ⟨hends.1.symm, hends.2.symm⟩
      · exact .inr ⟨d, di, hd, hends⟩
  case exclusive =>
    -- the candidate's own terminal was free
    have hother : ∀ d di, Holds ctx b d di → node d = node c → terminal di ≠ terminal indices :=
      fun d di hd hnode heq => hfree (heq ▸ hnode ▸ (h.occupied_iff _ _).mpr ⟨d, di, hd, rfl, rfl⟩)
    intro d e di ei hd he hnode hterminal
    rcases (holds_occupy_iff hctx hc).mp hd with ⟨rfl, rfl⟩ | ⟨-, hd'⟩ <;>
      rcases (holds_occupy_iff hctx hc).mp he with ⟨rfl, rfl⟩ | ⟨-, he'⟩
    · rfl
    · exact absurd hterminal.symm (hother e ei he' hnode.symm)
    · exact absurd hterminal (hother d di hd' hnode)
    · exact h.exclusive d e di ei hd' he' hnode hterminal
  case listed_iff =>
    intro nodeId pair
    rw [mem_update_append, h.listed_iff, TerminalBook.occupy, Dict.mem_insert]
    constructor
    · rintro (⟨rfl, rfl⟩ | ⟨hmem, hd⟩)
      · exact ⟨.inl rfl, c, hc, rfl, rfl⟩
      · exact ⟨.inr hmem, hd⟩
    · rintro ⟨rfl | hmem, d, hd, hpair, hnode⟩
      · exact .inl ⟨hctx.candidate_unique d hd c hc hpair ▸ hnode.symm, rfl⟩
      · exact .inr ⟨hmem, d, hd, hpair, hnode⟩
  case listed_nodup =>
    intro nodeId
    have hnotIn : c.pair ∉ listed (node c) := fun hin => hnew ((h.listed_iff _ _).mp hin).1
    rw [if_neg hnotIn]
    by_cases hnode : nodeId = node c
    · subst hnode
      rw [Function.update_self]
      exact List.nodup_append.mpr ⟨h.listed_nodup _, List.nodup_singleton _, by
        rintro a ha b hb rfl
        exact hnotIn (List.mem_singleton.mp hb ▸ ha)⟩
    · simpa [Function.update_of_ne hnode] using h.listed_nodup nodeId

theorem Occupancy.occupy (hctx : ContextFacts ctx) (h : Occupancy ctx b)
    (hc : c ∈ ctx.candidates) (hnew : c.pair ∉ b.newAssociations)
    (hplaced : Placed ctx c indices) (hgs : indices.1 ∉ b.gsOccupied c.gsId)
    (hsat : indices.2 ∉ b.satOccupied c.satId) :
    Occupancy ctx (b.occupy c.pair c.gsId c.satId indices) where
  candidate := fun pair hpair => (Dict.mem_insert.mp hpair).elim
    (fun heq => ⟨c, hc, heq.symm⟩) (h.candidate pair)
  placed := fun d di hd => by
    rcases (holds_occupy_iff hctx hc).mp hd with ⟨rfl, rfl⟩ | ⟨-, hd⟩
    · exact hplaced
    · exact h.placed d di hd
  gs := h.gs.occupy hctx hc hnew hgs
  sat := h.sat.occupy hctx hc hnew hsat

theorem holds_vacate_iff (hctx : ContextFacts ctx) (hc : c ∈ ctx.candidates) :
    Holds ctx (b.vacate c.pair c.gsId c.satId indices) d di ↔ d ≠ c ∧ Holds ctx b d di := by
  constructor
  · rintro ⟨hd, hget⟩
    simp only [TerminalBook.vacate, Dict.get?_erase] at hget
    split at hget
    · cases hget
    · rename_i hne
      exact ⟨fun heq => hne (heq ▸ rfl), hd, hget⟩
  · rintro ⟨hne, hd, hget⟩
    have hpair : d.pair ≠ c.pair := fun heq => hne (hctx.candidate_unique d hd c hc heq)
    exact ⟨hd, by simp [TerminalBook.vacate, hpair, hget]⟩

theorem mem_update_erase :
    index ∈ Function.update occupied nodeId ((occupied nodeId).erase held) id ↔
      ¬ (id = nodeId ∧ index = held) ∧ index ∈ occupied id := by
  by_cases hid : id = nodeId
  · subst hid
    simp
  · simp [hid]

theorem mem_update_filter {p : Pair} :
    pair ∈ Function.update listed nodeId ((listed nodeId).filter (· ≠ p)) id ↔
      ¬ (id = nodeId ∧ pair = p) ∧ pair ∈ listed id := by
  by_cases hid : id = nodeId
  · subst hid
    simp [and_comm]
  · simp [hid]

theorem EndOccupancy.vacate (hctx : ContextFacts ctx)
    (h : EndOccupancy ctx b node terminal occupied listed) (hc : Holds ctx b c indices) :
    EndOccupancy ctx (b.vacate c.pair c.gsId c.satId indices) node terminal
      (Function.update occupied (node c) ((occupied (node c)).erase (terminal indices)))
      (Function.update listed (node c) ((listed (node c)).filter (· ≠ c.pair))) := by
  constructor
  case occupied_iff =>
    intro nodeId index
    rw [mem_update_erase, h.occupied_iff]
    simp only [holds_vacate_iff hctx hc.mem]
    constructor
    · rintro ⟨hother, d, di, hd, hnode, hterminal⟩
      refine ⟨d, di, ⟨?_, hd⟩, hnode, hterminal⟩
      rintro rfl
      obtain rfl := Option.some.inj (hd.get.symm.trans hc.get)
      exact hother ⟨hnode.symm, hterminal.symm⟩
    · rintro ⟨d, di, ⟨hne, hd⟩, rfl, rfl⟩
      exact ⟨fun heq => hne (h.exclusive d c di indices hd hc heq.1 heq.2), d, di, hd, rfl, rfl⟩
  case exclusive =>
    intro d e di ei hd he
    exact h.exclusive d e di ei ((holds_vacate_iff hctx hc.mem).mp hd).2
      ((holds_vacate_iff hctx hc.mem).mp he).2
  case listed_iff =>
    intro nodeId pair
    rw [mem_update_filter, h.listed_iff, TerminalBook.vacate, Dict.mem_erase]
    constructor
    · rintro ⟨hother, hmem, d, hd, rfl, rfl⟩
      refine ⟨⟨fun heq => hother ⟨?_, heq⟩, hmem⟩, d, hd, rfl, rfl⟩
      rw [hctx.candidate_unique d hd c hc.mem heq]
    · rintro ⟨⟨hne, hmem⟩, hd⟩
      exact ⟨fun heq => hne heq.2, hmem, hd⟩
  case listed_nodup =>
    intro nodeId
    by_cases hnode : nodeId = node c
    · subst hnode
      simpa using (h.listed_nodup (node c)).filter _
    · simpa [Function.update_of_ne hnode] using h.listed_nodup nodeId

theorem Occupancy.vacate (hctx : ContextFacts ctx) (h : Occupancy ctx b)
    (hc : Holds ctx b c indices) : Occupancy ctx (b.vacate c.pair c.gsId c.satId indices) where
  candidate := fun pair hpair => h.candidate pair (Dict.mem_erase.mp hpair).2
  placed := fun d di hd => h.placed d di ((holds_vacate_iff hctx hc.mem).mp hd).2
  gs := h.gs.vacate hctx hc
  sat := h.sat.vacate hctx hc

theorem EndOccupancy.setTeardown {teardown : MbbTeardown}
    (h : EndOccupancy ctx b node terminal occupied listed) :
    EndOccupancy ctx (b.setTeardown pair teardown) node terminal occupied listed where
  occupied_iff := fun nodeId index => (h.occupied_iff nodeId index).trans
    ⟨fun ⟨d, di, hd, hends⟩ => ⟨d, di, ⟨hd.mem, hd.get⟩, hends⟩,
      fun ⟨d, di, hd, hends⟩ => ⟨d, di, ⟨hd.mem, hd.get⟩, hends⟩⟩
  exclusive := fun d e di ei hd he => h.exclusive d e di ei ⟨hd.mem, hd.get⟩ ⟨he.mem, he.get⟩
  listed_iff := h.listed_iff
  listed_nodup := h.listed_nodup

theorem Occupancy.setTeardown {teardown : MbbTeardown} (h : Occupancy ctx b) :
    Occupancy ctx (b.setTeardown pair teardown) where
  candidate := h.candidate
  placed := fun d di hd => h.placed d di ⟨hd.mem, hd.get⟩
  gs := h.gs.setTeardown
  sat := h.sat.setTeardown

end Occupancy

/-! ### Teardowns in flight -/

/-- Every teardown in flight is associated next to a steady successor of the same
make-before-break station, and a station has at most one of them. -/
structure Overlaps (ctx : AllocationContext) (b : TerminalBook) : Prop where
  associated : ∀ pair ∈ b.newPendingTeardowns, pair ∈ b.newAssociations
  successor : ∀ pair teardown, b.newPendingTeardowns.get? pair = some teardown →
    teardown.successorPair ∈ b.newAssociations ∧
      teardown.successorPair ∉ b.newPendingTeardowns
  sameStation : ∀ pair teardown, b.newPendingTeardowns.get? pair = some teardown →
    ∃ c ∈ ctx.candidates, ∃ d ∈ ctx.candidates, c.pair = pair ∧
      d.pair = teardown.successorPair ∧ c.gsId = d.gsId ∧
      ctx.config.gsHandoverModes.get? c.gsId = some .mbb
  unique : ∀ c ∈ ctx.candidates, ∀ d ∈ ctx.candidates, c.pair ∈ b.newPendingTeardowns →
    d.pair ∈ b.newPendingTeardowns → c.gsId = d.gsId → c = d

section Overlaps

variable {ctx : AllocationContext} {b : TerminalBook} {c d : Candidate} {indices : Indices}
    {pair : Pair} {gsId : NodeId}

theorem mem_protectedMbbPairs_iff : pair ∈ b.protectedMbbPairs ↔ pair ∈ b.newPendingTeardowns ∨
      ∃ old teardown, b.newPendingTeardowns.get? old = some teardown ∧
        teardown.successorPair = pair := by
  simp [TerminalBook.protectedMbbPairs, Dict.mem_keys_iff, Dict.values, Dict.get?_eq_some_iff]

theorem Overlaps.occupy (h : Overlaps ctx b) :
    Overlaps ctx (b.occupy c.pair c.gsId c.satId indices) where
  associated := fun pair hp => Dict.mem_insert.mpr (Or.inr (h.associated pair hp))
  successor := fun pair teardown hp =>
    ⟨Dict.mem_insert.mpr (Or.inr (h.successor pair teardown hp).1),
      (h.successor pair teardown hp).2⟩
  sameStation := h.sameStation
  unique := h.unique

theorem Overlaps.vacate (h : Overlaps ctx b) (hfree : c.pair ∉ b.protectedMbbPairs) :
    Overlaps ctx (b.vacate c.pair c.gsId c.satId indices) := by
  rw [mem_protectedMbbPairs_iff, not_or] at hfree
  obtain ⟨hnotPending, hnotSuccessor⟩ := hfree
  have hget : ∀ pair teardown,
      (b.vacate c.pair c.gsId c.satId indices).newPendingTeardowns.get? pair = some teardown →
      b.newPendingTeardowns.get? pair = some teardown := by
    intro pair teardown hp
    simp only [TerminalBook.vacate, Dict.get?_erase] at hp
    split at hp
    · cases hp
    · exact hp
  constructor
  case associated =>
    intro pair hp
    obtain ⟨hne, hp⟩ := Dict.mem_erase.mp hp
    exact Dict.mem_erase.mpr ⟨hne, h.associated pair hp⟩
  case successor =>
    intro pair teardown hp
    have hp := hget pair teardown hp
    obtain ⟨hassociated, hsteady⟩ := h.successor pair teardown hp
    refine ⟨Dict.mem_erase.mpr ⟨?_, hassociated⟩, fun hin => hsteady (Dict.mem_erase.mp hin).2⟩
    exact fun heq => hnotSuccessor ⟨pair, teardown, hp, heq⟩
  case sameStation =>
    exact fun pair teardown hp => h.sameStation pair teardown (hget pair teardown hp)
  case unique =>
    intro c' hc' d' hd' hc hd
    exact h.unique c' hc' d' hd' (Dict.mem_erase.mp hc).2 (Dict.mem_erase.mp hd).2

theorem Overlaps.setTeardown {step : Int} (hctx : ContextFacts ctx) (h : Overlaps ctx b)
    (hc : c ∈ ctx.candidates) (hd : d ∈ ctx.candidates) (hgs : c.gsId = d.gsId)
    (hmode : ctx.config.gsHandoverModes.get? c.gsId = some .mbb)
    (hold : c.pair ∈ b.newAssociations) (hnew : d.pair ∈ b.newAssociations)
    (hsteady : d.pair ∉ b.newPendingTeardowns) (hne : c ≠ d)
    (hfree : ∀ e ∈ ctx.candidates, e.gsId = c.gsId → e.pair ∉ b.newPendingTeardowns) :
    Overlaps ctx (b.setTeardown c.pair ⟨step, d.pair⟩) := by
  have hpairs : d.pair ≠ c.pair := fun heq => hne (hctx.candidate_unique d hd c hc heq).symm
  constructor
  case associated =>
    intro pair hp
    rcases Dict.mem_insert.mp hp with rfl | hp
    · exact hold
    · exact h.associated pair hp
  case successor =>
    intro pair teardown hp
    simp only [TerminalBook.setTeardown, Dict.get?_insert, Dict.mem_insert, not_or] at hp ⊢
    split at hp
    · obtain rfl := Option.some.inj hp
      exact ⟨hnew, hpairs, hsteady⟩
    · obtain ⟨hassociated, hsteady'⟩ := h.successor pair teardown hp
      refine ⟨hassociated, ?_, hsteady'⟩
      intro heq
      obtain ⟨e, he, e', he', hepair, he'pair, hegs, -⟩ := h.sameStation pair teardown hp
      have hce : e' = c := hctx.candidate_unique e' he' c hc (he'pair.trans heq)
      exact hfree e he (hegs.trans (hce ▸ rfl)) (hepair ▸ Dict.mem_of_get? hp)
  case sameStation =>
    intro pair teardown hp
    simp only [TerminalBook.setTeardown, Dict.get?_insert] at hp
    split at hp
    · obtain rfl := Option.some.inj hp
      rename_i heq
      exact ⟨c, hc, d, hd, heq.symm, rfl, hgs, hmode⟩
    · exact h.sameStation pair teardown hp
  case unique =>
    intro e he f hf hein hfin hegs
    rcases Dict.mem_insert.mp hein with heq | hein <;>
      rcases Dict.mem_insert.mp hfin with hfeq | hfin
    · exact hctx.candidate_unique e he f hf (heq.trans hfeq.symm)
    · have hec := hctx.candidate_unique e he c hc heq
      exact absurd hfin (hfree f hf (hegs.symm.trans (hec ▸ rfl)))
    · have hfc := hctx.candidate_unique f hf c hc hfeq
      exact absurd hein (hfree e he (hegs.trans (hfc ▸ rfl)))
    · exact h.unique e he f hf hein hfin hegs

end Overlaps

/-! ### Steady associations -/

/-- The associations of a station that are not in teardown may fill its pool, except for the
reserve of a make-before-break station. -/
def steadyLimit (config : GroundConfig) (gsId : NodeId) : Int :=
  (config.gsTerminalIndices.getD gsId []).length -
    (if config.gsHandoverModes.get? gsId = some .mbb then config.gsMbbReserve.getD gsId 0 else 0)

section Steady

variable {ctx : AllocationContext} {b : TerminalBook} {c : Candidate} {indices : Indices}
    {pair : Pair} {gsId : NodeId}

theorem steadyLimit_eq_ok (hctx : ContextFacts ctx) {limit : Int}
    (h : ctx.steadyLimit gsId = .ok limit) : limit = steadyLimit ctx.config gsId := by
  simp only [AllocationContext.steadyLimit, AllocationContext.terminalCount,
    AllocationContext.mbbReserveFor, AllocationContext.handoverModeFor, bind_eq_ok_iff,
    lookupNode_eq_ok_iff, hctx.gsPools] at h
  obtain ⟨tc, ⟨pool, hpool, htc⟩, reserve, ⟨mode, hmode, hreserve⟩, hlimit⟩ := h
  obtain rfl := Except.ok.inj htc
  obtain rfl := Except.ok.inj hlimit
  rw [steadyLimit, Dict.getD, hpool, hmode]
  cases mode with
  | mbb =>
    rw [lookupNode_eq_ok_iff] at hreserve
    simp [Dict.getD, hreserve]
  | bbm =>
    obtain rfl := Except.ok.inj hreserve
    simp

theorem length_filter_ne_of_mem {l : List Pair} (hl : l.Nodup) (h : pair ∈ l) :
    (l.filter (· ≠ pair)).length + 1 = l.length := by
  have herase : l.filter (· ≠ pair) = l.erase pair := by
    rw [hl.erase_eq_filter]
    exact List.filter_congr fun p _ => by simp [bne, beq_eq_decide]
  have hpos := List.length_pos_of_mem h
  rw [herase, List.length_erase_of_mem h]
  omega

theorem Occupancy.steady_nodup (h : Occupancy ctx b) (gsId : NodeId) :
    (b.steadyPairsForGs gsId).Nodup := (h.gs.listed_nodup gsId).filter _

theorem mem_steadyPairsForGs_iff : pair ∈ b.steadyPairsForGs gsId ↔
    pair ∈ b.assocByGs gsId ∧ pair ∉ b.newPendingTeardowns := by
  simp [TerminalBook.steadyPairsForGs]

theorem length_steady_occupy_le (b : TerminalBook) (c : Candidate) (indices : Indices)
    (gsId : NodeId) : ((b.occupy c.pair c.gsId c.satId indices).steadyPairsForGs gsId).length ≤
      (b.steadyPairsForGs gsId).length + if gsId = c.gsId then 1 else 0 := by
  have hsteady : (b.occupy c.pair c.gsId c.satId indices).steadyPairsForGs gsId =
      ((b.occupy c.pair c.gsId c.satId indices).assocByGs gsId).filter
        (· ∉ b.newPendingTeardowns) := rfl
  rw [hsteady, TerminalBook.steadyPairsForGs]
  by_cases hg : gsId = c.gsId
  · subst hg
    simp only [TerminalBook.occupy, Function.update_self, if_true]
    split
    · omega
    · rw [List.filter_append, List.length_append]
      have hone := List.length_filter_le (fun p => decide (p ∉ b.newPendingTeardowns)) [c.pair]
      simp only [List.length_singleton] at hone
      omega
  · simp [TerminalBook.occupy, hg]

theorem steady_setTeardown (teardown : MbbTeardown) :
    (b.setTeardown pair teardown).steadyPairsForGs gsId =
      (b.steadyPairsForGs gsId).filter (· ≠ pair) := by
  simp only [TerminalBook.steadyPairsForGs, TerminalBook.setTeardown, List.filter_filter]
  refine List.filter_congr fun p _ => ?_
  simp [Dict.mem_insert]

theorem steady_vacate (hctx : ContextFacts ctx) (h : Occupancy ctx b) (hc : c ∈ ctx.candidates) :
    (b.vacate c.pair c.gsId c.satId indices).steadyPairsForGs gsId =
      (b.steadyPairsForGs gsId).filter (· ≠ c.pair) := by
  by_cases hg : gsId = c.gsId
  · subst hg
    simp only [TerminalBook.steadyPairsForGs, TerminalBook.vacate, Function.update_self,
      List.filter_filter]
    refine List.filter_congr fun p _ => ?_
    by_cases hp : p = c.pair <;> simp [Dict.mem_erase, hp]
  · simp only [TerminalBook.steadyPairsForGs, TerminalBook.vacate, Function.update_of_ne hg,
      List.filter_filter]
    refine List.filter_congr fun p hp => ?_
    have hne : p ≠ c.pair := by
      rintro rfl
      obtain ⟨-, d, hd, hpair, hdg⟩ := (h.gs.listed_iff _ _).mp hp
      exact hg (hdg ▸ hctx.candidate_unique d hd c hc hpair ▸ rfl)
    simp [Dict.mem_erase, hne]

end Steady

/-- The invariant of the candidate passes. -/
structure TickInvariant (ctx : AllocationContext) (b : TerminalBook) : Prop where
  occupancy : Occupancy ctx b
  overlaps : Overlaps ctx b
  steady : ∀ gsId, ((b.steadyPairsForGs gsId).length : Int) ≤ steadyLimit ctx.config gsId

section TickInvariant

variable {ctx : AllocationContext} {b : TerminalBook} {c incumbent : Candidate}
    {indices : Indices}

variable (hctx : ContextFacts ctx) (h : TickInvariant ctx b)

include hctx h

theorem TickInvariant.vacate (hc : Holds ctx b c indices) (hfree : c.pair ∉ b.protectedMbbPairs) :
    TickInvariant ctx (b.vacate c.pair c.gsId c.satId indices) where
  occupancy := h.occupancy.vacate hctx hc
  overlaps := h.overlaps.vacate hfree
  steady := fun gsId => by
    rw [steady_vacate hctx h.occupancy hc.mem]
    have := List.length_filter_le (fun p => decide (p ≠ c.pair)) (b.steadyPairsForGs gsId)
    have := h.steady gsId
    omega

theorem TickInvariant.occupy (hc : c ∈ ctx.candidates) (hnew : c.pair ∉ b.newAssociations)
    (hplaced : Placed ctx c indices) (hgs : indices.1 ∉ b.gsOccupied c.gsId)
    (hsat : indices.2 ∉ b.satOccupied c.satId)
    (hroom : ((b.steadyPairsForGs c.gsId).length : Int) < steadyLimit ctx.config c.gsId) :
    TickInvariant ctx (b.occupy c.pair c.gsId c.satId indices) where
  occupancy := h.occupancy.occupy hctx hc hnew hplaced hgs hsat
  overlaps := h.overlaps.occupy
  steady := fun gsId => by
    have hlen := length_steady_occupy_le b c indices gsId
    have hold := h.steady gsId
    by_cases hg : gsId = c.gsId
    · subst hg
      simp only [if_true] at hlen
      omega
    · simp only [hg, if_false] at hlen
      omega

/-- Make-before-break: the incumbent becomes a teardown as its successor is associated, so the
number of steady associations stays. -/
theorem TickInvariant.startOverlap {step : Int} (hc : c ∈ ctx.candidates)
    (hnew : c.pair ∉ b.newAssociations)
    (hplaced : Placed ctx c indices) (hgs : indices.1 ∉ b.gsOccupied c.gsId)
    (hsat : indices.2 ∉ b.satOccupied c.satId) (hi : incumbent ∈ ctx.candidates)
    (hsteady : incumbent.pair ∈ b.steadyPairsForGs c.gsId) (hstation : incumbent.gsId = c.gsId)
    (hmode : ctx.config.gsHandoverModes.get? c.gsId = some .mbb)
    (hfree : ∀ e ∈ ctx.candidates, e.gsId = c.gsId → e.pair ∉ b.newPendingTeardowns) :
    TickInvariant ctx ((b.occupy c.pair c.gsId c.satId indices).setTeardown incumbent.pair
      ⟨step, c.pair⟩) := by
  have hassociated : incumbent.pair ∈ b.newAssociations :=
    ((h.occupancy.gs.listed_iff _ _).mp (mem_steadyPairsForGs_iff.mp hsteady).1).1
  have hne : incumbent ≠ c := fun heq => hnew (heq ▸ hassociated)
  have hoccupied := h.occupancy.occupy hctx hc hnew hplaced hgs hsat
  refine ⟨hoccupied.setTeardown, ?_, ?_⟩
  · refine h.overlaps.occupy.setTeardown hctx hi hc hstation (hstation ▸ hmode) ?_ ?_ ?_ hne ?_
    · exact Dict.mem_insert.mpr (Or.inr hassociated)
    · exact Dict.mem_insert.mpr (Or.inl rfl)
    · exact fun hin => hnew (h.overlaps.associated _ hin)
    · exact fun e he heg => hfree e he (heg.trans hstation)
  · intro gsId
    rw [steady_setTeardown]
    have hlen := length_steady_occupy_le b c indices gsId
    have hold := h.steady gsId
    by_cases hg : gsId = c.gsId
    · subst hg
      have hmem : incumbent.pair ∈
          (b.occupy c.pair c.gsId c.satId indices).steadyPairsForGs c.gsId := by
        refine mem_steadyPairsForGs_iff.mpr ⟨?_, (mem_steadyPairsForGs_iff.mp hsteady).2⟩
        exact (hoccupied.gs.listed_iff _ _).mpr
          ⟨Dict.mem_insert.mpr (Or.inr hassociated), incumbent, hi, rfl, hstation⟩
      have hfilter := length_filter_ne_of_mem (hoccupied.steady_nodup c.gsId) hmem
      simp only [if_true] at hlen
      omega
    · have hfilter := List.length_filter_le (fun p => decide (p ≠ incumbent.pair))
        ((b.occupy c.pair c.gsId c.satId indices).steadyPairsForGs gsId)
      simp only [hg, if_false] at hlen
      omega

end TickInvariant

end NodalArc.GroundAllocatorInvariant
