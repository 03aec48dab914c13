import LinkBus.Changes
import LinkBus.Table.Lookup
import Mathlib.Data.List.Induction

/-!
# What tables contain

The keys of a table are those that it finds something for, each listed once and in order. A table
built from a list of entries finds the entries of the list, and the union of two tables finds what
the second one finds and otherwise what the first one does. Sets of indices and collected changes
are the special case without values.
-/

namespace LinkBus

namespace Table

variable {κ α : Type} [Key κ]

/-- The keys of a table are those that it finds a value for. -/
theorem mem_keys {t : Table κ α} {k : κ} : k ∈ t.keys ↔ ∃ v, t.find? k = some v := by
  simp only [keys, List.mem_map, find?_eq_some_iff]
  constructor
  · rintro ⟨e, he, rfl⟩
    exact ⟨e.2, he⟩
  · rintro ⟨v, hv⟩
    exact ⟨(k, v), hv, rfl⟩

/-- A key that is not listed finds nothing. -/
theorem not_mem_keys {t : Table κ α} {k : κ} : k ∉ t.keys ↔ t.find? k = none := by
  rw [mem_keys, Option.eq_none_iff_forall_ne_some]
  simp

/-- A table contains the keys that it finds a value for. -/
theorem contains_iff {t : Table κ α} {k : κ} : t.contains k = true ↔ ∃ v, t.find? k = some v :=
  Option.isSome_iff_exists

/-- The values of a table are what its keys find. -/
theorem mem_values {t : Table κ α} {v : α} : v ∈ t.values ↔ ∃ k, t.find? k = some v := by
  simp only [values, List.mem_map, find?_eq_some_iff]
  constructor
  · rintro ⟨e, he, rfl⟩
    exact ⟨e.1, he⟩
  · rintro ⟨k, hk⟩
    exact ⟨(k, v), hk, rfl⟩

/-- The keys are listed in increasing order. -/
theorem pairwise_keys (t : Table κ α) : t.keys.Pairwise fun a b => Key.code a < Key.code b :=
  List.pairwise_map.2 t.sorted

/-- No key is listed twice. -/
theorem nodup_keys (t : Table κ α) : t.keys.Nodup :=
  t.pairwise_keys.imp fun {a b} h heq => by
    rw [heq] at h
    exact List.lt_irrefl _ h

/-- A table without entries finds nothing. -/
theorem isEmpty_iff {t : Table κ α} : t.isEmpty = true ↔ ∀ k, t.find? k = none := by
  rw [isEmpty, List.isEmpty_iff]
  constructor
  · intro h k
    simp [find?, h]
  · intro h
    rw [List.eq_nil_iff_forall_not_mem]
    intro e he
    have hfound := find?_eq_some_iff.2 he
    rw [h] at hfound
    cases hfound

/-- Keeping some keys keeps what they find. -/
theorem find?_filter_keys (t : Table κ α) (keep : κ → Bool) (k : κ) :
    (t.filter fun k _ => keep k).find? k = if keep k then t.find? k else none := by
  rw [find?_filter]
  cases t.find? k <;> cases keep k <;> rfl

/-- Keeping some keys selects from the list of keys. -/
theorem keys_filter (t : Table κ α) (keep : κ → Bool) :
    (t.filter fun k _ => keep k).keys = t.keys.filter keep := List.filter_map.symm

/-- Keeping some values selects from the list of values. -/
theorem values_filter (t : Table κ α) (keep : α → Bool) :
    (t.filter fun _ v => keep v).values = t.values.filter keep := List.filter_map.symm

variable [DecidableEq κ]

/-- An entry is found after a list of insertions if the list has no other value for its key. -/
theorem find?_foldl_insert_of_mem {l : List (κ × α)} {k : κ} {v : α} (hmem : (k, v) ∈ l)
    (hunique : ∀ w, (k, w) ∈ l → w = v) (t : Table κ α) :
    (l.foldl (fun acc e => acc.insert e.1 e.2) t).find? k = some v := by
  induction l using List.reverseRecOn with
  | nil => cases hmem
  | append_singleton rest e ih =>
    rw [List.foldl_append, List.foldl_cons, List.foldl_nil, find?_insert]
    split
    · next hk =>
      have he : (k, e.2) ∈ rest ++ [e] := by simp [hk]
      rw [hunique e.2 he]
    · next hk =>
      have hrest : (k, v) ∈ rest := by
        rcases List.mem_append.1 hmem with h | h
        · exact h
        · exact absurd (congrArg Prod.fst (List.mem_singleton.1 h)) hk
      exact ih hrest fun w hw => hunique w (List.mem_append_left _ hw)

/-- A list of insertions does not touch the keys that it does not mention. -/
theorem find?_foldl_insert_of_not_mem {l : List (κ × α)} {k : κ} (hnone : ∀ w, (k, w) ∉ l)
    (t : Table κ α) : (l.foldl (fun acc e => acc.insert e.1 e.2) t).find? k = t.find? k := by
  induction l generalizing t with
  | nil => rfl
  | cons e rest ih =>
    have hk : k ≠ e.1 := by
      rintro rfl
      exact hnone e.2 List.mem_cons_self
    rw [List.foldl_cons, ih fun w hw => hnone w (List.mem_cons_of_mem _ hw), find?_insert,
      if_neg hk]

/-- The table of a list with one value for each key finds exactly the entries of the list. -/
theorem find?_ofList_iff {l : List (κ × α)}
    (hunique : ∀ k v w, (k, v) ∈ l → (k, w) ∈ l → v = w) {k : κ} {v : α} :
    (ofList l).find? k = some v ↔ (k, v) ∈ l := by
  constructor
  · intro h
    by_cases hmem : ∃ w, (k, w) ∈ l
    · obtain ⟨w, hw⟩ := hmem
      have hfound := find?_foldl_insert_of_mem hw (fun u hu => hunique k u w hu hw) (empty (κ := κ))
      rw [ofList, hfound] at h
      cases h
      exact hw
    · rw [ofList, find?_foldl_insert_of_not_mem (fun w hw => hmem ⟨w, hw⟩), find?_empty] at h
      cases h
  · intro h
    exact find?_foldl_insert_of_mem h (fun w hw => hunique k w v hw h) _

/-- The keys of the table of a list are the keys that the list mentions. -/
theorem mem_keys_ofList {l : List (κ × α)} {k : κ} : k ∈ (ofList l).keys ↔ ∃ v, (k, v) ∈ l := by
  induction l using List.reverseRecOn with
  | nil => simp [ofList, keys, empty]
  | append_singleton rest e ih =>
    have hstep : ofList (rest ++ [e]) = (ofList rest).insert e.1 e.2 := by simp [ofList]
    rw [mem_keys, hstep, find?_insert]
    rw [mem_keys] at ih
    split
    · next hk =>
      refine ⟨fun _ => ⟨e.2, ?_⟩, fun _ => ⟨e.2, rfl⟩⟩
      simp [hk]
    · next hk =>
      rw [ih]
      simp only [List.mem_append, List.mem_singleton]
      constructor
      · rintro ⟨v, hv⟩
        exact ⟨v, Or.inl hv⟩
      · rintro ⟨v, hv | rfl⟩
        · exact ⟨v, hv⟩
        · exact absurd rfl hk

/-- The union finds what the second table finds, and otherwise what the first one finds. -/
theorem find?_union (s t : Table κ α) (k : κ) :
    (s.union t).find? k = (t.find? k).or (s.find? k) := by
  cases hfound : t.find? k with
  | none =>
    refine find?_foldl_insert_of_not_mem (fun w hw => ?_) s
    rw [find?_eq_some_iff.2 hw] at hfound
    cases hfound
  | some v =>
    refine find?_foldl_insert_of_mem (find?_eq_some_iff.1 hfound) (fun w hw => ?_) s
    rw [find?_eq_some_iff.2 hw] at hfound
    exact Option.some.inj hfound

/-- The keys of a union are the keys of both tables. -/
theorem mem_keys_union {s t : Table κ α} {k : κ} :
    k ∈ (s.union t).keys ↔ k ∈ s.keys ∨ k ∈ t.keys := by
  simp only [mem_keys, find?_union]
  cases t.find? k <;> simp

end Table

namespace IndexSet

/-- Adding an index adds that index only. -/
theorem mem_keys_add {s : IndexSet} {i j : UInt32} :
    j ∈ (s.add i).keys ↔ j = i ∨ j ∈ s.keys := by
  simp only [Table.mem_keys, add, Table.find?_insert]
  split <;> simp [*]

/-- Adding a list of indices adds those indices only. -/
theorem mem_keys_foldl_add {l : List UInt32} {s : IndexSet} {j : UInt32} :
    j ∈ (l.foldl add s).keys ↔ j ∈ l ∨ j ∈ s.keys := by
  induction l generalizing s with
  | nil => simp
  | cons i rest ih => rw [List.foldl_cons, ih, mem_keys_add, List.mem_cons, or_left_comm, or_assoc]

/-- A set is determined by its members. -/
theorem ext_mem {s t : IndexSet} (h : ∀ i, i ∈ s.keys ↔ i ∈ t.keys) : s = t := by
  refine Table.ext_find? fun i => Option.ext fun _ => ?_
  have hi := h i
  simp only [Table.mem_keys] at hi
  exact ⟨fun hs => (hi.1 ⟨_, hs⟩).choose_spec, fun ht => (hi.2 ⟨_, ht⟩).choose_spec⟩

end IndexSet

namespace Changes

/-- Adding an index lists it. -/
@[simp] theorem mem_toList_addIndex {c : Changes} {i j : UInt32} :
    j ∈ (c.addIndex i).toList ↔ j = i ∨ j ∈ c.toList := IndexSet.mem_keys_add

/-- A union lists what either part lists. -/
@[simp] theorem mem_toList_union {a b : Changes} {i : UInt32} :
    i ∈ (a.union b).toList ↔ i ∈ a.toList ∨ i ∈ b.toList := Table.mem_keys_union

/-- Where two reports list the same interfaces, they list them in the same order. -/
theorem filter_toList_eq {a b : Changes} {keep : UInt32 → Bool}
    (h : ∀ i, keep i = true → (i ∈ a.toList ↔ i ∈ b.toList)) :
    a.toList.filter keep = b.toList.filter keep := by
  have hsame : (a.indices.filter fun i _ => keep i) = b.indices.filter fun i _ => keep i := by
    refine IndexSet.ext_mem fun i => ?_
    rw [Table.keys_filter, Table.keys_filter, List.mem_filter, List.mem_filter]
    exact and_congr_left (h i)
  simp only [toList, ← Table.keys_filter, hsame]

/-- The routes changed if they did on either occasion. -/
@[simp] theorem routes_union (a b : Changes) : (a.union b).routes = (a.routes || b.routes) := rfl

/-- Changes are empty if they list no index and leave the routes alone. -/
theorem isEmpty_iff {c : Changes} : c.isEmpty = true ↔ c.toList = [] ∧ c.routes = false := by
  simp [isEmpty, toList, Table.isEmpty, Table.keys]

/-- The indices that were added one by one are listed. -/
theorem mem_toList_foldl_addIndex {l : List UInt32} {c : Changes} {j : UInt32} :
    j ∈ (l.foldl addIndex c).toList ↔ j ∈ l ∨ j ∈ c.toList := by
  induction l generalizing c with
  | nil => simp
  | cons i rest ih =>
    rw [List.foldl_cons, ih, mem_toList_addIndex, List.mem_cons, or_left_comm, or_assoc]

end Changes

end LinkBus
