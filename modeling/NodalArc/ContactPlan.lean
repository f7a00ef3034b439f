import NodalArc.ContactDrain

/-! What the plan of one reconcile decides for a pair, read off the plan's lists. -/

namespace NodalArc.ContactPlan

open OrderedDict
open GroundPolicy
open LinkRecord
open ContactDrain
open StatefulProgram

variable {actual : Dict Pair ActiveLinkInfo} {desired : Dict Pair LinkInfo} {epochId : Nat}
    {downReasons : Dict Pair String} {plan : LongDelayPlan} {pair : Pair}

def candidates (actual : Dict Pair ActiveLinkInfo) (desired : Dict Pair LinkInfo) : List Pair :=
  sortedPairs (actual.keys ++ desired.keys).dedup

theorem mem_candidates_iff : pair ∈ candidates actual desired ↔ pair ∈ actual ∨ pair ∈ desired := by
  simp only [candidates, sortedPairs, List.mem_insertionSort, List.mem_dedup, List.mem_append,
    Dict.mem_keys_iff]

theorem candidates_nodup : (candidates actual desired).Nodup :=
  (List.perm_insertionSort _ _).nodup_iff.mpr (List.nodup_dedup _)

theorem map_filterMap_sublist {α β γ : Type} {f : α → Option β} {g : β → γ} {h : α → γ}
    {xs : List α} (hkey : ∀ a b, f a = some b → g b = h a) :
    ((xs.filterMap f).map g).Sublist (xs.map h) := by
  induction xs with
  | nil => exact List.Sublist.refl _
  | cons a xs ih =>
    cases ha : f a with
    | none =>
      rw [List.filterMap_cons_none ha]
      exact ih.cons (h a)
    | some b =>
      rw [List.filterMap_cons_some ha, List.map_cons, hkey a b ha]
      exact ih.cons_cons (h a)

theorem map_fst_of_mapM_tag {α β ε : Type} {f : α → Except ε β} {xs : List α}
    {ys : List (α × β)} (h : (xs.mapM fun x => do let y ← f x; return (x, y)) = .ok ys) :
    ys.map Prod.fst = xs := by
  rw [map_eq_of_mapM h (?_ : ∀ x ∈ xs, ∀ y, _ → Prod.fst y = id x), List.map_id]
  intro x _ y hy
  obtain ⟨_, -, hy⟩ := bind_eq_ok_iff.mp hy
  rw [← Except.ok.inj hy]
  rfl

/-- The decisions behind a plan: one for each candidate, as `planPair` makes it. -/
structure Decisions (actual : Dict Pair ActiveLinkInfo) (desired : Dict Pair LinkInfo)
    (epochId : Nat) (downReasons : Dict Pair String) (decisions : List (Pair × PairPlan)) :
    Prop where
  pairs : decisions.map Prod.fst = candidates actual desired
  decided : ∀ d ∈ decisions,
    planPair epochId downReasons d.1 (actual.get? d.1) (desired.get? d.1) = .ok d.2

theorem exists_decisions (h : planLongDelayContacts actual desired epochId downReasons = .ok plan) :
    ∃ decisions, Decisions actual desired epochId downReasons decisions ∧
      plan = .ofDecisions decisions := by
  rw [planLongDelayContacts, bind_eq_ok_iff] at h
  obtain ⟨decisions, hdecisions, hplan⟩ := h
  refine ⟨decisions, ⟨map_fst_of_mapM_tag hdecisions, fun d hd => ?_⟩, ?_⟩
  · obtain ⟨pair, -, hpair⟩ := exists_of_mem_mapM hdecisions hd
    rw [bind_eq_ok_iff] at hpair
    obtain ⟨decision, hdecision, hd⟩ := hpair
    obtain rfl : (pair, decision) = d := by simpa [pure, Except.pure] using hd
    exact hdecision
  · exact (Except.ok.inj hplan).symm

variable {decisions : List (Pair × PairPlan)} {select : PairPlan → Bool}

theorem relocate_ofDecisions : (LongDelayPlan.ofDecisions decisions).relocate =
    decidedPairs decisions fun d => decide (d = .relocate true ∨ d = .relocate false) := rfl

theorem stop_ofDecisions : (LongDelayPlan.ofDecisions decisions).stop =
    decidedPairs decisions PairPlan.stops := rfl

theorem latency_ofDecisions : (LongDelayPlan.ofDecisions decisions).latency =
    decidedPairs decisions fun d => decide (d = .latency) := rfl

theorem opening_ofDecisions : (LongDelayPlan.ofDecisions decisions).opening =
    decidedPairs decisions PairPlan.opens := rfl

variable (h : Decisions actual desired epochId downReasons decisions)

include h

theorem Decisions.mem_decidedPairs_iff :
    pair ∈ decidedPairs decisions select ↔ (pair ∈ actual ∨ pair ∈ desired) ∧
      ∃ d, planPair epochId downReasons pair (actual.get? pair) (desired.get? pair) = .ok d ∧
        select d = true := by
  rw [← mem_candidates_iff, ← h.pairs]
  simp only [decidedPairs, List.mem_map, List.mem_filter]
  constructor
  · rintro ⟨d, ⟨hd, hselect⟩, rfl⟩
    exact ⟨⟨d, hd, rfl⟩, d.2, h.decided d hd, hselect⟩
  · rintro ⟨⟨d, hd, rfl⟩, d', hd', hselect⟩
    have heq : d.2 = d' := Except.ok.inj ((h.decided d hd).symm.trans hd')
    exact ⟨d, ⟨hd, heq ▸ hselect⟩, rfl⟩

theorem Decisions.mem_forced_iff
    {cause : ForcedCause} : (pair, cause) ∈ (LongDelayPlan.ofDecisions decisions).forced ↔
      (pair ∈ actual ∨ pair ∈ desired) ∧
      ∃ d, planPair epochId downReasons pair (actual.get? pair) (desired.get? pair) = .ok d ∧
        d.forced? = some cause := by
  rw [← mem_candidates_iff, ← h.pairs]
  simp only [LongDelayPlan.ofDecisions, List.mem_filterMap, Option.map_eq_some_iff,
    Prod.mk.injEq, List.mem_map]
  constructor
  · rintro ⟨d, hd, cause', hcause, rfl, rfl⟩
    exact ⟨⟨d, hd, rfl⟩, d.2, h.decided d hd, hcause⟩
  · rintro ⟨⟨d, hd, rfl⟩, d', hd', hcause⟩
    have heq : d.2 = d' := Except.ok.inj ((h.decided d hd).symm.trans hd')
    exact ⟨d, hd, cause, heq ▸ hcause, rfl, rfl⟩

theorem Decisions.forced_nodup :
    ((LongDelayPlan.ofDecisions decisions).forced.map Prod.fst).Nodup := by
  have hpairs : (decisions.map Prod.fst).Nodup := h.pairs ▸ candidates_nodup
  refine hpairs.sublist (map_filterMap_sublist fun d b hb => ?_)
  obtain ⟨cause, -, rfl⟩ := Option.map_eq_some_iff.mp hb
  rfl

omit h

/-! ### What a decision says about the contact -/

section Decided

variable {held : Option ActiveLinkInfo} {wanted : Option LinkInfo} {d : PairPlan}

theorem requireContact_eq_ok_iff {info : LinkInfo} {contact : Contact} :
    requireContact pair info = .ok contact ↔ info.contact = some contact := by
  unfold requireContact
  cases info.contact <;> simp

theorem planPair_cases (h : planPair epochId downReasons pair held wanted = .ok d) :
    (held = none ∧ wanted = none ∧ d = .keep) ∨
    (∃ want contact, held = none ∧ wanted = some want ∧ want.contact = some contact ∧ d = .open) ∨
    (∃ info contact, held = some info ∧ wanted = none ∧ info.contact = some contact ∧
      d = if contact.epochId < epochId then .force .seek false
        else if pair ∈ downReasons then .force .scenario false
        else if info.drain = none then .stop else .keep) ∨
    (∃ info contact want wantedContact, held = some info ∧ wanted = some want ∧
      info.contact = some contact ∧ want.contact = some wantedContact ∧
      d = if contact.epochId < epochId then .force .seek true
        else planHeldAndWanted info contact want wantedContact) := by
  match held, wanted with
  | none, none => exact .inl ⟨rfl, rfl, (Except.ok.inj h).symm⟩
  | none, some want =>
    obtain ⟨contact, hcontact, hd⟩ := bind_eq_ok_iff.mp h
    exact .inr (.inl ⟨want, contact, rfl, rfl, requireContact_eq_ok_iff.mp hcontact,
      (Except.ok.inj hd).symm⟩)
  | some info, none =>
    obtain ⟨contact, hcontact, hd⟩ := bind_eq_ok_iff.mp h
    refine .inr (.inr (.inl ⟨info, contact, rfl, rfl, requireContact_eq_ok_iff.mp hcontact, ?_⟩))
    refine Except.ok.inj (hd.symm.trans ?_)
    simp only [apply_ite (Except.ok (ε := SchedulerError)), pure, Except.pure]
  | some info, some want =>
    obtain ⟨contact, hcontact, hrest⟩ := bind_eq_ok_iff.mp h
    obtain ⟨wantedContact, hwanted, hd⟩ := bind_eq_ok_iff.mp hrest
    refine .inr (.inr (.inr ⟨info, contact, want, wantedContact, rfl, rfl,
      requireContact_eq_ok_iff.mp hcontact, requireContact_eq_ok_iff.mp hwanted, ?_⟩))
    refine Except.ok.inj (hd.symm.trans ?_)
    simp only [apply_ite (Except.ok (ε := SchedulerError)), pure, Except.pure]

theorem open_of_stops (h : planPair epochId downReasons pair held wanted = .ok d)
    (hstops : d.stops = true) : d.forced? = none ∧ ∃ info, held = some info ∧ info.drain = none := by
  rcases planPair_cases h with ⟨-, -, rfl⟩ | ⟨_, _, -, -, -, rfl⟩ | ⟨info, contact, rfl, -, -, rfl⟩ |
    ⟨info, contact, want, wantedContact, rfl, -, -, -, rfl⟩
  · cases hstops
  · cases hstops
  · split_ifs at hstops ⊢ with hepoch hdown hdrain
    all_goals first | exact absurd hstops (by decide) | exact ⟨rfl, info, rfl, hdrain⟩
  · unfold planHeldAndWanted at hstops ⊢
    split_ifs at hstops ⊢ with hepoch hrelocate
    all_goals first | exact absurd hstops (by decide) | exact ⟨rfl, info, rfl, of_decide_eq_true hstops⟩

theorem open_of_latency (h : planPair epochId downReasons pair held wanted = .ok .latency) :
    ∃ info want, held = some info ∧ wanted = some want ∧ info.drain = none := by
  rcases planPair_cases h with ⟨-, -, hd⟩ | ⟨_, _, -, -, -, hd⟩ | ⟨info, contact, -, -, -, hd⟩ |
    ⟨info, contact, want, wantedContact, hheld, hwanted, -, -, hd⟩
  · cases hd
  · cases hd
  · split_ifs at hd
  · unfold planHeldAndWanted at hd
    split_ifs at hd with hepoch hmoves hopens
    exact ⟨info, want, hheld, hwanted, not_not.mp fun hdrain => hopens (.inl hdrain)⟩

theorem moved_of_relocates (h : planPair epochId downReasons pair held wanted = .ok d)
    (hrelocates : d = .relocate true ∨ d = .relocate false) : d.forced? = none ∧
      ∃ info want, held = some info ∧ wanted = some want ∧ info.contact ≠ want.contact := by
  refine ⟨by rcases hrelocates with rfl | rfl <;> rfl, ?_⟩
  rcases planPair_cases h with ⟨-, -, rfl⟩ | ⟨_, _, -, -, -, rfl⟩ | ⟨info, contact, rfl, -, -, rfl⟩ |
    ⟨info, contact, want, wantedContact, rfl, rfl, hheld, hwant, rfl⟩
  · simp at hrelocates
  · simp at hrelocates
  · split_ifs at hrelocates <;> simp at hrelocates
  · refine ⟨info, want, rfl, rfl, fun heq => ?_⟩
    have hsame : contact = wantedContact := Option.some.inj (hheld.symm.trans (heq.trans hwant))
    unfold planHeldAndWanted at hrelocates
    split_ifs at hrelocates with hepoch hmoves
    · simp at hrelocates
    · exact hmoves.1 hsame
    all_goals simp at hrelocates

end Decided

end NodalArc.ContactPlan
