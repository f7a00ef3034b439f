import NodalArc.NodeAgentBatches

/-! Which entries the batch plans hold: every entry is for a requested pair, at one of the pair's
own ends, and every requested link has its entries. -/

namespace NodalArc.BatchEntries

open OrderedDict
open GroundPolicy
open LinkRecord
open ContactDrain
open DispatchPlanner
open Actuation
open NodeAgentBatches
open StatefulProgram

variable {desired : Dict Pair LinkInfo} {contact : Option Contact} {terminal : Terminal}

variable {config : SchedulerConfig} {env : Surroundings} {pair : Pair} {info : LinkInfo}
    {ends : List PlannedEnd} {e : PlannedEnd} {plan : BatchPlan} {planned : AgentAddr × Entry}
    {stage : Stage} {pairs : List Pair}

/-! ### Ends -/

theorem requiredGroundEndpoints_eq_ok {g : GroundEndpoints}
    (h : requiredGroundEndpoints config pair info = .ok g) :
    (g.gsId = pair.1 ∧ g.satId = pair.2 ∧ g.gsIface = info.interfaceA ∧
      g.satIface = info.interfaceB) ∨
    (g.gsId = pair.2 ∧ g.satId = pair.1 ∧ g.gsIface = info.interfaceB ∧
      g.satIface = info.interfaceA) := by
  unfold requiredGroundEndpoints groundEndpoints at h
  split_ifs at h
  · cases h
    exact .inl ⟨rfl, rfl, rfl, rfl⟩
  · cases h
    exact .inr ⟨rfl, rfl, rfl, rfl⟩

section LinkEnds

variable (h : linkEnds config pair info = .ok ends)

include h

theorem linkEnds_cases :
    ∃ own peer : Terminal, (own ∈ endTerminals pair info ∧ peer ∈ endTerminals pair info ∧
      ∀ terminal ∈ endTerminals pair info, terminal = own ∨ terminal = peer) ∧
      ((∃ agent agent', ends = [⟨agent, own, peer⟩, ⟨agent', peer, own⟩]) ∨
        (∃ agent, ends = [⟨agent, own, peer⟩]) ∧ info.linkType = .ground ∧ info.contact = none ∧
          config.locality pair = .sameNode) := by
  unfold linkEnds at h
  cases htype : info.linkType with
  | isl =>
    rw [htype] at h
    refine ⟨(pair.1, info.interfaceA), (pair.2, info.interfaceB), by simp [endTerminals], ?_⟩
    exact .inl ⟨_, _, (Except.ok.inj h).symm⟩
  | ground =>
    rw [htype] at h
    obtain ⟨g, hg, h⟩ := bind_eq_ok_iff.mp h
    have hends : ((g.gsId, g.gsIface) ∈ endTerminals pair info ∧
        (g.satId, g.satIface) ∈ endTerminals pair info) ∧ ∀ terminal ∈ endTerminals pair info,
          terminal = (g.gsId, g.gsIface) ∨ terminal = (g.satId, g.satIface) := by
      rcases requiredGroundEndpoints_eq_ok hg with ⟨h1, h2, h3, h4⟩ | ⟨h1, h2, h3, h4⟩ <;>
        simp [endTerminals, h1, h2, h3, h4, or_comm]
    dsimp only at h
    split_ifs at h with hcontact hlocality
    · exact ⟨_, _, ⟨hends.1.1, hends.1.2, hends.2⟩, .inl ⟨_, _, (Except.ok.inj h).symm⟩⟩
    · exact ⟨_, _, ⟨hends.1.1, hends.1.2, hends.2⟩,
        .inr ⟨⟨_, (Except.ok.inj h).symm⟩, rfl, not_ne_iff.mp hcontact, hlocality⟩⟩
    · exact ⟨_, _, ⟨hends.1.2, hends.1.1, fun t ht => (hends.2 t ht).symm⟩,
        .inl ⟨_, _, (Except.ok.inj h).symm⟩⟩

theorem own_mem_of_linkEnds (he : e ∈ ends) :
    e.own ∈ endTerminals pair info ∧ e.peer ∈ endTerminals pair info := by
  obtain ⟨own, peer, ⟨hown, hpeer, -⟩, ⟨_, _, rfl⟩ | ⟨⟨_, rfl⟩, -⟩⟩ := linkEnds_cases h
  · rcases List.mem_pair.mp he with rfl | rfl
    · exact ⟨hown, hpeer⟩
    · exact ⟨hpeer, hown⟩
  · obtain rfl := List.mem_singleton.mp he
    exact ⟨hown, hpeer⟩

theorem exists_linkEnd_of_contact
    (hcontact : info.contact ≠ none) (hterminal : terminal ∈ endTerminals pair info)
    : ∃ e ∈ ends, e.own = terminal := by
  obtain ⟨own, peer, ⟨-, -, hall⟩, ⟨_, _, rfl⟩ | ⟨-, -, hnone, -⟩⟩ := linkEnds_cases h
  · rcases hall terminal hterminal with rfl | rfl
    · exact ⟨_, List.mem_cons_self, rfl⟩
    · exact ⟨_, List.mem_cons_of_mem _ List.mem_cons_self, rfl⟩
  · exact absurd hnone hcontact

theorem linkEnds_ne_nil : ends ≠ [] := by
  obtain ⟨_, _, -, ⟨_, _, rfl⟩ | ⟨⟨_, rfl⟩, -⟩⟩ := linkEnds_cases h
  · exact List.cons_ne_nil _ _
  · exact List.cons_ne_nil _ _

end LinkEnds

@[simp] theorem pair_entry : (e.entry config pair info contact).2.pair = pair := rfl

theorem ends_entry_subset (h : terminal ∈ (e.entry config pair info contact).2.ends) :
    terminal = e.own ∨ terminal = e.peer := by
  unfold Entry.ends at h
  split at h
  · exact List.mem_pair.mp h
  · exact .inl (List.mem_singleton.mp h)

theorem own_mem_ends : e.own ∈ (e.entry config pair info contact).2.ends := by
  unfold Entry.ends
  split
  · exact List.mem_cons_self
  · exact List.mem_cons_self

theorem exists_entry_on (h : linkEnds config pair info = .ok ends)
    (hterminal : terminal ∈ endTerminals pair info) :
    ∃ e ∈ ends, terminal ∈ (e.entry config pair info info.contact).2.ends := by
  obtain ⟨own, peer, ⟨-, -, hall⟩, ⟨_, _, rfl⟩ | ⟨⟨_, rfl⟩, hground, hnone, hsame⟩⟩ :=
    linkEnds_cases h
  · rcases hall terminal hterminal with rfl | rfl
    · exact ⟨_, List.mem_cons_self, own_mem_ends⟩
    · exact ⟨_, List.mem_cons_of_mem _ List.mem_cons_self, own_mem_ends⟩
  · refine ⟨_, List.mem_cons_self, ?_⟩
    rw [Entry.ends, if_pos ⟨hground, hsame, hnone⟩]
    exact List.mem_pair.mpr (hall terminal hterminal)

/-! ### LinkUps -/

theorem linkUpEntries_eq_ok (h : linkUpEntries config env stage pair info = .ok plan) :
    ¬ (info.contact = none ∧ stage ≠ .open) ∧ ∃ ends, linkEnds config pair info = .ok ends ∧
      plan = ends.map fun e => e.entry config pair info info.contact := by
  unfold linkUpEntries at h
  split at h
  · cases h
  · rename_i hcontact
    obtain ⟨_, -, h⟩ := bind_eq_ok_iff.mp h
    obtain ⟨ends, hends, h⟩ := bind_eq_ok_iff.mp h
    obtain ⟨_, -, h⟩ := bind_eq_ok_iff.mp h
    exact ⟨hcontact, ends, hends, (Except.ok.inj h).symm⟩

variable (h : buildLinkUpBatchPlan config env stage desired pairs = .ok plan)

include h

theorem entry_of_linkUp
    (hplanned : planned ∈ plan) : ∃ pair ∈ pairs, ∃ info ends e, desired.get? pair = some info ∧
      ¬ (info.contact = none ∧ stage ≠ .open) ∧ linkEnds config pair info = .ok ends ∧ e ∈ ends ∧
      planned = e.entry config pair info info.contact := by
  obtain ⟨plans, hplans, h⟩ := bind_eq_ok_iff.mp h
  rw [← Except.ok.inj h] at hplanned
  obtain ⟨entries, hentries, hmem⟩ := List.mem_flatten.mp hplanned
  obtain ⟨pair, hpair, hbuilt⟩ := exists_of_mem_mapM hplans hentries
  cases hinfo : desired.get? pair with
  | none =>
    rw [hinfo] at hbuilt
    cases hbuilt
  | some info =>
    rw [hinfo] at hbuilt
    obtain ⟨hcontact, ends, hends, rfl⟩ := linkUpEntries_eq_ok hbuilt
    obtain ⟨e, he, rfl⟩ := List.mem_map.mp hmem
    exact ⟨pair, hpair, info, ends, e, hinfo, hcontact, hends, he, rfl⟩

theorem wanted_of_linkUp (hplanned : planned ∈ plan) : planned.2.pair ∈ pairs ∧
      ∀ terminal ∈ planned.2.ends, terminal ∈ wantedTerminals desired planned.2.pair := by
  obtain ⟨pair, hpair, info, ends, e, hinfo, -, hends, he, rfl⟩ := entry_of_linkUp h hplanned
  refine ⟨hpair, fun terminal hterminal => ?_⟩
  rw [pair_entry, wantedTerminals, hinfo]
  rcases ends_entry_subset hterminal with rfl | rfl
  · exact (own_mem_of_linkEnds hends he).1
  · exact (own_mem_of_linkEnds hends he).2

theorem exists_linkUp_entry (hpair : pair ∈ pairs) : ∃ info ends, desired.get? pair = some info ∧
      linkEnds config pair info = .ok ends ∧
      ∀ e ∈ ends, e.entry config pair info info.contact ∈ plan := by
  obtain ⟨plans, hplans, h⟩ := bind_eq_ok_iff.mp h
  obtain ⟨entries, hentries, hbuilt⟩ := exists_ok_of_mapM hplans hpair
  cases hinfo : desired.get? pair with
  | none =>
    rw [hinfo] at hbuilt
    cases hbuilt
  | some info =>
    rw [hinfo] at hbuilt
    obtain ⟨-, ends, hends, rfl⟩ := linkUpEntries_eq_ok hbuilt
    refine ⟨info, ends, rfl, hends, fun e he => ?_⟩
    rw [← Except.ok.inj h]
    exact List.mem_flatten.mpr ⟨_, hentries, List.mem_map_of_mem he⟩

theorem exists_planned_of_linkUp (hpair : pair ∈ pairs) :
    ∃ planned ∈ plan, planned.2.pair = pair := by
  obtain ⟨_, ends, -, hends, hentries⟩ := exists_linkUp_entry h hpair
  obtain ⟨e, he⟩ := List.exists_mem_of_ne_nil ends (linkEnds_ne_nil hends)
  exact ⟨_, hentries e he, rfl⟩

omit h

theorem contact_of_prepare (h : buildLinkUpBatchPlan config env .prepare desired pairs = .ok plan)
    (hplanned : planned ∈ plan) : planned.2.contactId ≠ none := by
  obtain ⟨_, -, info, _, _, -, hcontact, -, -, rfl⟩ := entry_of_linkUp h hplanned
  exact fun hnone => hcontact ⟨hnone, by decide⟩

/-! ### LinkDowns -/

section Down

variable {named : NamedEnds} {contactIds : Dict Terminal Contact} {held : ActiveLinkInfo}
    {links : Dict Pair ActiveLinkInfo}

def selectedEnds (named : NamedEnds) (pair : Pair) (ends : List PlannedEnd) : List PlannedEnd :=
  match named.get? pair with
  | none => ends
  | some closing => ends.filter fun e => e.own.1 ∈ closing

theorem mem_of_mem_selectedEnds (h : e ∈ selectedEnds named pair ends) : e ∈ ends := by
  unfold selectedEnds at h
  split at h
  · exact h
  · exact (List.mem_filter.mp h).1

theorem linkDownEntries_eq_ok
    (h : linkDownEntries config stage named contactIds pair held = .ok plan) :
    checkDownStage stage named pair held = .ok () ∧
    ∃ ends, linkEnds config pair held.toLinkInfo = .ok ends ∧
      plan = (selectedEnds named pair ends).map fun e =>
        e.entry config pair held.toLinkInfo (downContactId contactIds held e.own) := by
  obtain ⟨_, hcheck, h⟩ := bind_eq_ok_iff.mp h
  obtain ⟨ends, hends, h⟩ := bind_eq_ok_iff.mp h
  exact ⟨hcheck, ends, hends, (Except.ok.inj h).symm⟩

theorem entry_of_linkDown
    (h : buildLinkDownBatchPlan config stage named contactIds links pairs = .ok plan) :
    planned ∈ plan ↔ ∃ pair ∈ pairs, ∃ held ends, links.get? pair = some held ∧
      checkDownStage stage named pair held = .ok () ∧
      linkEnds config pair held.toLinkInfo = .ok ends ∧ ∃ e ∈ selectedEnds named pair ends,
      planned = e.entry config pair held.toLinkInfo (downContactId contactIds held e.own) := by
  obtain ⟨plans, hplans, h⟩ := bind_eq_ok_iff.mp h
  rw [← Except.ok.inj h, List.mem_flatten]
  constructor
  · rintro ⟨entries, hentries, hmem⟩
    obtain ⟨pair, hpair, hbuilt⟩ := exists_of_mem_mapM hplans hentries
    cases hheld : links.get? pair with
    | none =>
      rw [hheld] at hbuilt
      obtain rfl := Except.ok.inj hbuilt
      cases hmem
    | some held =>
      rw [hheld] at hbuilt
      obtain ⟨hcheck, ends, hends, rfl⟩ := linkDownEntries_eq_ok hbuilt
      obtain ⟨e, he, rfl⟩ := List.mem_map.mp hmem
      exact ⟨pair, hpair, held, ends, hheld, hcheck, hends, e, he, rfl⟩
  · rintro ⟨pair, hpair, held, ends, hheld, -, hends, e, he, rfl⟩
    obtain ⟨entries, hentries, hbuilt⟩ := exists_ok_of_mapM hplans hpair
    rw [hheld] at hbuilt
    obtain ⟨-, ends', hends', rfl⟩ := linkDownEntries_eq_ok hbuilt
    obtain rfl : ends = ends' := Except.ok.inj (hends.symm.trans hends')
    exact ⟨_, hentries, List.mem_map_of_mem he⟩

theorem built_of_linkDown
    (h : buildLinkDownBatchPlan config stage named contactIds links pairs = .ok plan)
    (hpair : pair ∈ pairs) (hheld : links.get? pair = some held) :
    checkDownStage stage named pair held = .ok () ∧
      ∃ ends, linkEnds config pair held.toLinkInfo = .ok ends := by
  obtain ⟨plans, hplans, -⟩ := bind_eq_ok_iff.mp h
  obtain ⟨entries, -, hbuilt⟩ := exists_ok_of_mapM hplans hpair
  rw [hheld] at hbuilt
  obtain ⟨hcheck, ends, hends, -⟩ := linkDownEntries_eq_ok hbuilt
  exact ⟨hcheck, ends, hends⟩

end Down

end NodalArc.BatchEntries
