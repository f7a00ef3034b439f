import Mathlib

/-! First fit: each demand takes the first of its slots that no earlier demand has taken. -/

namespace NodalArc.FirstFit

variable {ε σ : Type*} (slots : ε → List σ)

/-- Every demand has one of its own slots, and no slot serves two. -/
structure Fits (demands : List ε) (given : List (ε × σ)) : Prop where
  served : (given.map Prod.fst).Perm demands
  nodup : (given.map Prod.snd).Nodup
  own : ∀ taken ∈ given, taken.2 ∈ slots taken.1

def Narrowing (demands : List ε) : Prop :=
  demands.Pairwise fun earlier later =>
    (slots earlier).Disjoint (slots later) ∨ slots earlier ⊆ slots later

variable {slots} {demands rest : List ε} {given all : List (ε × σ)} {demand : ε} {slot : σ}

theorem Fits.concat (h : Fits slots demands given) (hown : slot ∈ slots demand)
    (hfree : slot ∉ given.map Prod.snd) :
    Fits slots (demands ++ [demand]) (given ++ [(demand, slot)]) := by
  refine ⟨?_, ?_, ?_⟩
  · rw [List.map_append]
    exact h.served.append_right _
  · rw [List.map_append]
    refine List.nodup_append.mpr ⟨h.nodup, List.nodup_singleton _, ?_⟩
    rintro x hx _ hslot rfl
    obtain rfl : x = slot := List.mem_singleton.mp hslot
    exact hfree hx
  · intro taken ht
    rcases List.mem_append.mp ht with ht | ht
    · exact h.own taken ht
    · rw [List.mem_singleton.mp ht]
      exact hown

/-- Where slots narrow, a demand finds all of its slots taken only when no assignment serves it
together with the demands before it. -/
theorem not_fits_of_full [DecidableEq σ] (h : Fits slots demands given)
    (hnarrow : Narrowing slots (demands ++ demand :: rest))
    (hfull : slots demand ⊆ given.map Prod.snd) : ¬ Fits slots (demands ++ demand :: rest) all := by
  intro hall
  let inner : ε → Bool := fun other => slots other ⊆ slots demand
  have hcount : ∀ {given : List (ε × σ)} {demands : List ε}, Fits slots demands given →
      ((given.filter fun taken => inner taken.1).map Prod.snd).length = demands.countP inner := by
    intro given demands h
    rw [List.length_map, ← h.served.countP_eq, List.countP_map, List.countP_eq_length_filter]
    rfl
  -- the demands that took the slots have no others, so that they alone fill them
  have htaken : (slots demand).dedup ⊆ (given.filter fun taken => inner taken.1).map Prod.snd := by
    intro slot hs
    rw [List.mem_dedup] at hs
    obtain ⟨taken, ht, rfl⟩ := List.mem_map.mp (hfull hs)
    have hbefore := (List.pairwise_append.mp hnarrow).2.2 taken.1
      (h.served.subset (List.mem_map_of_mem ht)) demand List.mem_cons_self
    have hinner := hbefore.resolve_left fun hdisjoint => hdisjoint (h.own taken ht) hs
    exact List.mem_map_of_mem (List.mem_filter.mpr ⟨ht, by simpa [inner] using hinner⟩)
  have hroom : (all.filter fun taken => inner taken.1).map Prod.snd ⊆ (slots demand).dedup := by
    intro slot hs
    obtain ⟨taken, ht, rfl⟩ := List.mem_map.mp hs
    obtain ⟨ht, hinner⟩ := List.mem_filter.mp ht
    exact List.mem_dedup.mpr (of_decide_eq_true hinner (hall.own taken ht))
  have hlow := (List.subperm_of_subset (List.nodup_dedup _) htaken).length_le
  have hhigh := (List.subperm_of_subset
    (hall.nodup.sublist (List.filter_sublist.map Prod.snd)) hroom).length_le
  have hself : inner demand = true := by simp [inner]
  rw [hcount h] at hlow
  rw [hcount hall, List.countP_append, List.countP_cons, if_pos hself] at hhigh
  omega

end NodalArc.FirstFit
