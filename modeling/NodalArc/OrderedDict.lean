import Mathlib

/-! Finite maps that keep the insertion order of their keys, as a Python `dict` does. -/

namespace NodalArc.OrderedDict

variable {K V W : Type*}

/-- A finite map whose iteration order is the order in which the keys were first inserted.  A key
cannot occur twice. -/
structure Dict (K V : Type*) where
  entries : List (K × V)
  nodup : (entries.map Prod.fst).Nodup
deriving DecidableEq, Repr

/-! The equality tests that membership in a list of names, of pairs of names or of ordered keys
uses, under names of their own. -/

instance lawfulBEqPair : LawfulBEq (String × String) := inferInstance

instance lawfulBEqTriple : LawfulBEq (String × String × String) := inferInstance

instance lawfulBEqOfLinearOrder [LinearOrder K] : LawfulBEq K := inferInstance

namespace Dict

def empty : Dict K V where
  entries := []
  nodup := List.nodup_nil

instance : EmptyCollection (Dict K V) := ⟨empty⟩

instance : Inhabited (Dict K V) := ⟨empty⟩

def keys (d : Dict K V) : List K := d.entries.map Prod.fst

def values (d : Dict K V) : List V := d.entries.map Prod.snd

instance : Membership K (Dict K V) := ⟨fun d k => k ∈ d.keys⟩

instance [DecidableEq K] (k : K) (d : Dict K V) : Decidable (k ∈ d) :=
  inferInstanceAs (Decidable (k ∈ d.keys))

def get? [DecidableEq K] (d : Dict K V) (k : K) : Option V := d.entries.lookup k

def getD [DecidableEq K] (d : Dict K V) (k : K) (fallback : V) : V := (d.get? k).getD fallback

/-- Assignment: an existing key keeps its place, a new key goes to the end. -/
def insertEntry [DecidableEq K] (k : K) (v : V) : List (K × V) → List (K × V)
  | [] => [(k, v)]
  | (k', v') :: rest => if k' = k then (k, v) :: rest else (k', v') :: insertEntry k v rest

theorem map_fst_insertEntry [DecidableEq K] (k : K) (v : V) (entries : List (K × V)) :
    (insertEntry k v entries).map Prod.fst =
      if k ∈ entries.map Prod.fst then entries.map Prod.fst
      else entries.map Prod.fst ++ [k] := by
  induction entries with
  | nil => rfl
  | cons entry rest ih =>
    obtain ⟨k', v'⟩ := entry
    by_cases h : k' = k
    · subst h
      simp [insertEntry]
    · have h' : ¬ k = k' := fun e => h e.symm
      simp only [insertEntry, if_neg h, List.map_cons, ih, List.mem_cons, h', false_or]
      split <;> rfl

def insert [DecidableEq K] (d : Dict K V) (k : K) (v : V) : Dict K V where
  entries := insertEntry k v d.entries
  nodup := by
    rw [map_fst_insertEntry]
    split
    · exact d.nodup
    · rename_i h
      exact List.nodup_append.mpr ⟨d.nodup, List.nodup_singleton k, by
        rintro a ha b hb rfl
        exact h (List.mem_singleton.mp hb ▸ ha)⟩

def filter (d : Dict K V) (p : K → V → Bool) : Dict K V where
  entries := d.entries.filter fun entry => p entry.1 entry.2
  nodup := d.nodup.sublist (List.Sublist.map _ List.filter_sublist)

def erase [DecidableEq K] (d : Dict K V) (k : K) : Dict K V :=
  d.filter fun k' _ => k' ≠ k

def mapValues (d : Dict K V) (f : K → V → W) : Dict K W where
  entries := d.entries.map fun entry => (entry.1, f entry.1 entry.2)
  nodup := by
    have h := d.nodup
    simpa [List.map_map, Function.comp_def] using h

/-- The map built by assigning the pairs of a list one after the other. -/
def ofList [DecidableEq K] (pairs : List (K × V)) : Dict K V :=
  pairs.foldl (fun d entry => d.insert entry.1 entry.2) ∅

def update [DecidableEq K] (d e : Dict K V) : Dict K V :=
  e.entries.foldl (fun d entry => d.insert entry.1 entry.2) d

variable {d : Dict K V} {k k' : K} {v v' : V}

theorem mem_keys_iff : k ∈ d.keys ↔ k ∈ d := Iff.rfl

theorem keys_nodup (d : Dict K V) : d.keys.Nodup := d.nodup

@[simp] theorem keys_empty : (∅ : Dict K V).keys = [] := rfl

@[simp] theorem not_mem_empty : k ∉ (∅ : Dict K V) := List.not_mem_nil

variable [DecidableEq K]

theorem lookup_eq_some_iff {entries : List (K × V)} (h : (entries.map Prod.fst).Nodup) :
    entries.lookup k = some v ↔ (k, v) ∈ entries := by
  induction entries with
  | nil => simp
  | cons entry rest ih =>
    obtain ⟨a, b⟩ := entry
    rw [List.map_cons, List.nodup_cons] at h
    by_cases hk : k = a
    · subst hk
      have hnot : (k, v) ∉ rest := fun hm => h.1 (List.mem_map.mpr ⟨_, hm, rfl⟩)
      simp [hnot, eq_comm]
    · have hb : (k == a) = false := by simpa using hk
      simp [List.lookup_cons, hb, ih h.2, hk]

theorem get?_eq_some_iff : d.get? k = some v ↔ (k, v) ∈ d.entries :=
  lookup_eq_some_iff d.nodup

theorem mem_iff : k ∈ d ↔ ∃ v, d.get? k = some v := by
  change k ∈ d.entries.map Prod.fst ↔ _
  simp [get?_eq_some_iff]

theorem mem_of_get? (h : d.get? k = some v) : k ∈ d := mem_iff.mpr ⟨v, h⟩

theorem get?_eq_none_iff : d.get? k = none ↔ k ∉ d := by
  rw [mem_iff]
  cases d.get? k <;> simp

@[simp] theorem get?_empty : (∅ : Dict K V).get? k = none := rfl

theorem lookup_insertEntry (entries : List (K × V)) :
    (insertEntry k v entries).lookup k' = if k' = k then some v else entries.lookup k' := by
  induction entries with
  | nil =>
    by_cases h : k' = k
    · simp [insertEntry, h]
    · have hb : (k' == k) = false := by simpa using h
      simp [insertEntry, List.lookup_cons, h, hb]
  | cons entry rest ih =>
    obtain ⟨a, b⟩ := entry
    by_cases hak : a = k
    · subst hak
      by_cases h : k' = a
      · simp [insertEntry, h]
      · have hb : (k' == a) = false := by simpa using h
        simp [insertEntry, List.lookup_cons, h, hb]
    · simp only [insertEntry, if_neg hak, List.lookup_cons, ih]
      by_cases h : k' = a
      · subst h
        simp [hak]
      · have hb : (k' == a) = false := by simpa using h
        simp [hb]

@[simp] theorem get?_insert : (d.insert k v).get? k' = if k' = k then some v else d.get? k' :=
  lookup_insertEntry d.entries

@[simp] theorem mem_insert : k' ∈ d.insert k v ↔ k' = k ∨ k' ∈ d := by
  rw [mem_iff, mem_iff, get?_insert]
  by_cases h : k' = k <;> simp [h]

theorem get?_filter_eq_some_iff {p : K → V → Bool} :
    (d.filter p).get? k = some v ↔ d.get? k = some v ∧ p k v = true := by
  simp [get?_eq_some_iff, filter, List.mem_filter]

@[simp] theorem get?_erase : (d.erase k).get? k' = if k' = k then none else d.get? k' := by
  ext v
  rw [erase, get?_filter_eq_some_iff]
  by_cases h : k' = k <;> simp [h]

@[simp] theorem mem_erase : k' ∈ d.erase k ↔ k' ≠ k ∧ k' ∈ d := by
  rw [mem_iff, mem_iff, get?_erase]
  by_cases h : k' = k <;> simp [h]

@[simp] theorem get?_mapValues {f : K → V → W} :
    (d.mapValues f).get? k = (d.get? k).map (f k) := by
  ext w
  simp only [get?_eq_some_iff, Option.map_eq_some_iff, mapValues, List.mem_map, Prod.mk.injEq]
  constructor
  · rintro ⟨⟨a, b⟩, hmem, rfl, rfl⟩
    exact ⟨b, hmem, rfl⟩
  · rintro ⟨b, hmem, rfl⟩
    exact ⟨(k, b), hmem, rfl, rfl⟩

/-! ### Maps built from lists -/

variable {pairs : List (K × V)}

theorem ofList_concat {entry : K × V} :
    ofList (pairs ++ [entry]) = (ofList pairs).insert entry.1 entry.2 := by
  rw [ofList, List.foldl_append]
  rfl

theorem mem_of_get?_ofList (h : (ofList pairs).get? k = some v) : (k, v) ∈ pairs := by
  induction pairs using List.reverseRecOn with
  | nil => cases h
  | append_singleton pairs entry ih =>
    rw [ofList_concat, get?_insert] at h
    rw [List.mem_append, List.mem_singleton]
    split at h
    · rename_i hkey
      exact .inr (Prod.ext hkey (Option.some.inj h).symm)
    · exact .inl (ih h)

theorem mem_ofList_iff : k ∈ ofList pairs ↔ ∃ v, (k, v) ∈ pairs := by
  induction pairs using List.reverseRecOn with
  | nil => simp [ofList]
  | append_singleton pairs entry ih =>
    rw [ofList_concat, mem_insert, ih]
    simp only [List.mem_append, List.mem_singleton, exists_or, or_comm]
    have hentry : k = entry.1 ↔ ∃ v, (k, v) = entry :=
      ⟨fun h => ⟨entry.2, Prod.ext h rfl⟩, fun ⟨v, hv⟩ => hv ▸ rfl⟩
    rw [hentry]

theorem get?_ofList_of_nodup (hkeys : (pairs.map Prod.fst).Nodup) (h : (k, v) ∈ pairs) :
    (ofList pairs).get? k = some v := by
  obtain ⟨w, hw⟩ := mem_iff.mp (mem_ofList_iff.mpr ⟨v, h⟩)
  obtain hentry := List.inj_on_of_nodup_map hkeys (mem_of_get?_ofList hw) h rfl
  rw [hw, (Prod.mk.inj hentry).2]

theorem get?_ofList_filterMap {keys : List K} {f : K → Option V} :
    (ofList (keys.filterMap fun key => (f key).map fun value => (key, value))).get? k =
      if k ∈ keys then f k else none := by
  have hmem : ∀ v, (k, v) ∈ (keys.filterMap fun key => (f key).map fun value => (key, value)) ↔
      k ∈ keys ∧ f k = some v := by
    intro v
    simp only [List.mem_filterMap, Option.map_eq_some_iff, Prod.mk.injEq]
    constructor
    · rintro ⟨_, hkey, _, hvalue, rfl, rfl⟩
      exact ⟨hkey, hvalue⟩
    · rintro ⟨hkey, hvalue⟩
      exact ⟨k, hkey, v, hvalue, rfl, rfl⟩
  by_cases hvalue : ∃ v, k ∈ keys ∧ f k = some v
  · obtain ⟨v, hkey, hv⟩ := hvalue
    obtain ⟨w, hw⟩ := mem_iff.mp (mem_ofList_iff.mpr ⟨v, (hmem v).mpr ⟨hkey, hv⟩⟩)
    rw [hw, if_pos hkey, ((hmem w).mp (mem_of_get?_ofList hw)).2]
  · have hnone : k ∉ ofList (keys.filterMap fun key => (f key).map fun value => (key, value)) :=
      fun h => by
        obtain ⟨v, hv⟩ := mem_ofList_iff.mp h
        exact hvalue ⟨v, (hmem v).mp hv⟩
    rw [get?_eq_none_iff.mpr hnone]
    split_ifs with hkey
    · exact (Option.eq_none_iff_forall_ne_some.mpr fun v hv => hvalue ⟨v, hkey, hv⟩).symm
    · rfl

theorem get?_ofList_map {keys : List K} {f : K → V} :
    (ofList (keys.map fun key => (key, f key))).get? k = if k ∈ keys then some (f k) else none := by
  rw [← List.filterMap_eq_map']
  exact get?_ofList_filterMap (f := fun key => some (f key))

theorem foldl_insert_get? {entries : List (K × V)} (hkeys : (entries.map Prod.fst).Nodup) :
    (entries.foldl (fun d entry => d.insert entry.1 entry.2) d).get? k =
      (entries.lookup k).or (d.get? k) := by
  induction entries generalizing d with
  | nil => rfl
  | cons entry entries ih =>
    obtain ⟨key, value⟩ := entry
    obtain ⟨hfresh, hkeys⟩ := List.nodup_cons.mp hkeys
    rw [List.foldl_cons, ih hkeys, get?_insert, List.lookup_cons]
    by_cases hkey : k = key
    · subst hkey
      have hnone : entries.lookup k = none := by
        refine List.lookup_eq_none_iff.mpr fun entry hentry => bne_iff_ne.mpr ?_
        rintro rfl
        exact hfresh (List.mem_map.mpr ⟨entry, hentry, rfl⟩)
      simp [hnone]
    · simp [hkey, beq_eq_false_iff_ne.mpr hkey]

@[simp] theorem get?_update {e : Dict K V} : (d.update e).get? k = (e.get? k).or (d.get? k) :=
  foldl_insert_get? e.nodup

/-! ### Totals -/

def total (d : Dict K V) (f : K → V → Nat) : Nat := (d.entries.map fun entry => f entry.1 entry.2).sum

variable {e : Dict K V} {f : K → V → Nat}

theorem entries_insert_of_not_mem (h : k ∉ d) : (d.insert k v).entries = d.entries ++ [(k, v)] := by
  have hentries : ∀ entries : List (K × V), k ∉ entries.map Prod.fst →
      insertEntry k v entries = entries ++ [(k, v)] := by
    intro entries
    induction entries with
    | nil => exact fun _ => rfl
    | cons entry rest ih =>
      intro hnot
      rw [List.map_cons, List.mem_cons, not_or] at hnot
      rw [insertEntry, if_neg fun heq => hnot.1 heq.symm, ih hnot.2, List.cons_append]
  exact hentries d.entries h

theorem total_insert_of_not_mem (h : k ∉ d) : (d.insert k v).total f = d.total f + f k v := by
  simp [total, entries_insert_of_not_mem h]

theorem entries_perm (h : ∀ k, d.get? k = e.get? k) : d.entries.Perm e.entries := by
  refine (List.perm_ext_iff_of_nodup d.nodup.of_map e.nodup.of_map).mpr fun entry => ?_
  rw [← get?_eq_some_iff, ← get?_eq_some_iff, h]

theorem total_congr {W : Type*} {e : Dict K W} {g : K → W → Nat}
    (h : ∀ k, (d.get? k).map (f k) = (e.get? k).map (g k)) : d.total f = e.total g := by
  have hperm : (d.mapValues f).entries.Perm (e.mapValues g).entries := by
    refine entries_perm fun k => ?_
    rw [get?_mapValues, get?_mapValues, h]
  have hsum := (hperm.map Prod.snd).sum_eq
  simpa [total, mapValues, List.map_map, Function.comp_def] using hsum

theorem total_erase (h : d.get? k = some v) : (d.erase k).total f + f k v = d.total f := by
  rw [← total_insert_of_not_mem (v := v) (d := d.erase k) fun hmem => (mem_erase.mp hmem).1 rfl]
  refine total_congr fun k' => ?_
  rw [get?_insert, get?_erase]
  split_ifs with heq
  · rw [heq, h]
  · rfl

theorem total_mono {g : K → V → Nat} (h : ∀ k v, d.get? k = some v → f k v ≤ g k v) :
    d.total f ≤ d.total g :=
  List.sum_le_sum fun entry hentry => h entry.1 entry.2 (get?_eq_some_iff.mpr hentry)

theorem total_add_le {g : K → V → Nat} {m n : Nat} (h : d.get? k = some v)
    (hkey : f k v + m ≤ g k v + n)
    (hother : ∀ k' v', k' ≠ k → d.get? k' = some v' → f k' v' ≤ g k' v') :
    d.total f + m ≤ d.total g + n := by
  have hf := total_erase (f := f) h
  have hg := total_erase (f := g) h
  have hrest : (d.erase k).total f ≤ (d.erase k).total g := by
    refine total_mono fun k' v' hv' => ?_
    rw [get?_erase] at hv'
    split_ifs at hv' with heq
    exact hother k' v' heq hv'
  omega

theorem sum_le_total {ks : List K} {w : K → Nat} (hnodup : ks.Nodup)
    (h : ∀ k ∈ ks, ∃ v, d.get? k = some v ∧ w k ≤ f k v) : (ks.map w).sum ≤ d.total f := by
  induction ks generalizing d with
  | nil => exact Nat.zero_le _
  | cons k ks ih =>
    obtain ⟨hnew, hnodup⟩ := List.nodup_cons.mp hnodup
    obtain ⟨v, hv, hle⟩ := h k List.mem_cons_self
    have hrest : (ks.map w).sum ≤ (d.erase k).total f := by
      refine ih hnodup fun k' hk' => ?_
      obtain ⟨v', hv', hle'⟩ := h k' (List.mem_cons_of_mem _ hk')
      refine ⟨v', ?_, hle'⟩
      rw [get?_erase, if_neg]
      · exact hv'
      · rintro rfl
        exact hnew hk'
    have htotal := total_erase (f := f) hv
    rw [List.map_cons, List.sum_cons]
    omega

end Dict

end NodalArc.OrderedDict
