import Mathlib

/-! Stable sorting by a key, and the place it gives to an element. -/

namespace NodalArc.StableSort

open scoped List

variable {α β : Type*} [LinearOrder β] (key : α → β)

def sortOn (l : List α) : List α := l.insertionSort fun x y => key x ≤ key y

def Before (l : List α) (x y : α) : Prop := key x < key y ∨ key x = key y ∧ [x, y] <+ l

instance [DecidableEq α] (l : List α) (x y : α) : Decidable (Before key l x y) :=
  inferInstanceAs (Decidable (_ ∨ _))

variable {key} {l : List α} {x y : α}

theorem sortOn_perm : (sortOn key l).Perm l := List.perm_insertionSort _ l

theorem pair_sublist_or (hx : x ∈ l) (hy : y ∈ l) (hne : x ≠ y) : [x, y] <+ l ∨ [y, x] <+ l := by
  obtain ⟨p, q, rfl⟩ := List.append_of_mem hx
  rcases List.mem_append.mp hy with hp | hq
  · exact .inr ((List.singleton_sublist.mpr hp).append (List.singleton_sublist.mpr List.mem_cons_self))
  · have hq := (List.mem_cons.mp hq).resolve_left hne.symm
    exact .inl (((List.singleton_sublist.mpr hq).cons_cons x).trans (List.sublist_append_right p _))

theorem not_pair_sublist (hl : l.Nodup) (hxy : [x, y] <+ l) : ¬ [y, x] <+ l := by
  induction l with
  | nil => cases hxy
  | cons a l ih =>
    obtain ⟨hnew, hl⟩ := List.nodup_cons.mp hl
    intro hyx
    cases hxy with
    | cons _ hxy =>
      cases hyx with
      | cons _ hyx => exact ih hl hxy hyx
      | cons_cons => exact hnew (hxy.subset (List.mem_cons_of_mem _ List.mem_cons_self))
    | cons_cons _ hy =>
      cases hyx with
      | cons _ hyx => exact hnew (hyx.subset (List.mem_cons_of_mem _ List.mem_cons_self))
      | cons_cons => exact hnew (hy.subset List.mem_cons_self)

theorem Before.asymm (hl : l.Nodup) (h : Before key l x y) : ¬ Before key l y x := by
  rintro (hlt | ⟨heq, hyx⟩)
  · rcases h with h | h
    · exact lt_asymm h hlt
    · exact absurd h.1 hlt.ne'
  · rcases h with h | h
    · exact absurd heq h.ne'
    · exact not_pair_sublist hl h.2 hyx

theorem pairwise_sortOn : (sortOn key l).Pairwise fun x y => key x ≤ key y := by
  have : Std.Total fun x y : α => key x ≤ key y := ⟨fun x y => le_total (key x) (key y)⟩
  have : IsTrans α fun x y => key x ≤ key y := ⟨fun _ _ _ => le_trans⟩
  exact List.pairwise_insertionSort _ l

theorem pairwise_before (hl : l.Nodup) : (sortOn key l).Pairwise (Before key l) := by
  have hnodup : (sortOn key l).Nodup := sortOn_perm.nodup_iff.mpr hl
  refine List.pairwise_iff_forall_sublist.mpr fun {x y} hsorted => ?_
  rcases (List.pairwise_iff_forall_sublist.mp pairwise_sortOn hsorted).lt_or_eq with hlt | heq
  · exact .inl hlt
  -- of two elements with one key, the order in the list decides
  · refine .inr ⟨heq, ?_⟩
    have hx := sortOn_perm.subset (hsorted.subset List.mem_cons_self)
    have hy := sortOn_perm.subset (hsorted.subset (List.mem_cons_of_mem _ List.mem_cons_self))
    have hne : x ≠ y := List.pairwise_iff_forall_sublist.mp hnodup hsorted
    refine (pair_sublist_or hx hy hne).resolve_right fun hyx => ?_
    exact not_pair_sublist hnodup hsorted (List.pair_sublist_insertionSort heq.ge hyx)

theorem mem_take_iff {r : α → α → Prop} [DecidableRel r] (hl : l.Pairwise r)
    (hr : ∀ {x y}, r x y → ¬ r y x) (hx : x ∈ l) (k : Nat) :
    x ∈ l.take k ↔ l.countP (fun y => r y x) < k := by
  obtain ⟨p, q, rfl⟩ := List.append_of_mem hx
  obtain ⟨-, hq, hp⟩ := List.pairwise_append.mp hl
  have hself : ¬ r x x := fun h => hr h h
  have hbefore : p.countP (fun y => r y x) = p.length :=
    List.countP_eq_length.mpr fun y hy => decide_eq_true (hp y hy x List.mem_cons_self)
  have hafter : (x :: q).countP (fun y => r y x) = 0 := by
    refine List.countP_eq_zero.mpr fun y hy => ?_
    rcases List.mem_cons.mp hy with rfl | hy
    · simpa using hself
    · simpa using hr ((List.pairwise_cons.mp hq).1 y hy)
  rw [List.countP_append, hbefore, hafter, Nat.add_zero, List.take_append, List.mem_append]
  constructor
  · rintro (h | h)
    · exact absurd (hp x (List.mem_of_mem_take h) x List.mem_cons_self) hself
    · by_contra hle
      rw [Nat.sub_eq_zero_of_le (not_lt.mp hle)] at h
      cases h
  · intro hlt
    obtain ⟨n, hn⟩ := Nat.exists_eq_succ_of_ne_zero (Nat.sub_ne_zero_of_lt hlt)
    right
    rw [hn]
    exact List.mem_cons_self

theorem mem_take_sortOn_iff [DecidableEq α] (hl : l.Nodup) (hx : x ∈ l) (k : Nat) :
    x ∈ (sortOn key l).take k ↔ l.countP (fun y => Before key l y x) < k := by
  have hperm : (sortOn key l).Perm l := sortOn_perm
  rw [← hperm.countP_eq]
  exact mem_take_iff (pairwise_before hl) (Before.asymm hl) (sortOn_perm.mem_iff.mpr hx) k

end NodalArc.StableSort
