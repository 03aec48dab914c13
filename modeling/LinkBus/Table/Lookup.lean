import LinkBus.Table

/-!
# Look-ups in a table

The value found for a key is the one listed with it (`find?_eq_some_iff`). From this follow the
equations of look-ups after an insertion, a removal or a selection, and that a table is determined
by its look-ups (`ext_find?`).
-/

namespace LinkBus.Table

variable {κ α : Type} [Key κ]

/-- In a sorted list no two entries share a key. -/
private theorem eq_of_mem_of_code_eq {l : List (κ × α)} (h : l.Pairwise Key.Before) {a b : κ × α}
    (ha : a ∈ l) (hb : b ∈ l) (hab : Key.code a.1 = Key.code b.1) : a = b := by
  induction l with
  | nil => exact absurd ha List.not_mem_nil
  | cons e rest ih =>
    obtain ⟨he, hrest⟩ := List.pairwise_cons.1 h
    rcases List.mem_cons.1 ha with rfl | ha' <;> rcases List.mem_cons.1 hb with rfl | hb'
    · rfl
    · exact absurd hab (he b hb').code_ne
    · exact absurd hab.symm (he a ha').code_ne
    · exact ih hrest ha' hb'

/-- A key finds exactly the value it is listed with. -/
theorem find?_eq_some_iff {t : Table κ α} {k : κ} {v : α} :
    t.find? k = some v ↔ (k, v) ∈ t.entries := by
  constructor
  · intro h
    obtain ⟨e, he, rfl⟩ := Option.map_eq_some_iff.1 h
    have hk := List.find?_some he
    have : e.1 = k := Key.code_injective _ _ (by simpa using hk)
    exact this ▸ List.mem_of_find?_eq_some he
  · intro h
    unfold find?
    cases hf : t.entries.find? fun e => decide (Key.code e.1 = Key.code k) with
    | none =>
      have := List.find?_eq_none.1 hf _ h
      simp at this
    | some e =>
      have hk := List.find?_some hf
      have := eq_of_mem_of_code_eq t.sorted (List.mem_of_find?_eq_some hf) h (by simpa using hk)
      simp [this]

/-- The empty table holds nothing. -/
@[simp] theorem find?_empty (k : κ) : (empty : Table κ α).find? k = none := rfl

/-- What is in a sorted list after an insertion: the new entry, and the old ones with other keys. -/
private theorem mem_insertEntry_iff {l : List (κ × α)} (h : l.Pairwise Key.Before) {k k' : κ}
    {v v' : α} : (k', v') ∈ insertEntry k v l ↔
      (k' = k ∧ v' = v) ∨ (k' ≠ k ∧ (k', v') ∈ l) := by
  induction l with
  | nil => simp [insertEntry]
  | cons e rest ih =>
    obtain ⟨he, hrest⟩ := List.pairwise_cons.1 h
    simp only [insertEntry]
    split
    · next hlt =>
      have hne : ∀ x ∈ e :: rest, x.1 ≠ k := by
        intro x hx hxk
        have : Key.code k < Key.code x.1 := by
          rcases List.mem_cons.1 hx with rfl | hx
          · exact hlt
          · exact List.lt_trans hlt (he x hx)
        exact absurd (hxk ▸ this) (List.lt_irrefl _)
      constructor
      · intro hm
        rcases List.mem_cons.1 hm with hm | hm
        · exact Or.inl (by simpa using hm)
        · exact Or.inr ⟨hne _ hm, hm⟩
      · rintro (⟨rfl, rfl⟩ | ⟨_, hm⟩)
        · exact List.mem_cons_self
        · exact List.mem_cons_of_mem _ hm
    · split
      · next heq =>
        have hke : k = e.1 := Key.code_injective _ _ heq
        have hne : ∀ x ∈ rest, x.1 ≠ k := by
          intro x hx hxk
          have := he x hx
          simp only [Key.Before, hxk, hke] at this
          exact List.lt_irrefl _ this
        constructor
        · intro hm
          rcases List.mem_cons.1 hm with hm | hm
          · exact Or.inl (by simpa using hm)
          · exact Or.inr ⟨hne _ hm, List.mem_cons_of_mem _ hm⟩
        · rintro (⟨rfl, rfl⟩ | ⟨hk, hm⟩)
          · exact List.mem_cons_self
          · rcases List.mem_cons.1 hm with hm | hm
            · exact absurd (by rw [← hm] at hke; exact hke.symm) hk
            · exact List.mem_cons_of_mem _ hm
      · next hne =>
        have hke : e.1 ≠ k := fun h => hne (h ▸ rfl)
        simp only [List.mem_cons, ih hrest]
        constructor
        · rintro (hm | hm | ⟨hk, hm⟩)
          · exact Or.inr ⟨by rw [← hm] at hke; exact hke, Or.inl hm⟩
          · exact Or.inl hm
          · exact Or.inr ⟨hk, Or.inr hm⟩
        · rintro (hm | ⟨hk, hm | hm⟩)
          · exact Or.inr (Or.inl hm)
          · exact Or.inl hm
          · exact Or.inr (Or.inr ⟨hk, hm⟩)

/-- An insertion is found under its key and changes nothing else. -/
theorem find?_insert [DecidableEq κ] (t : Table κ α) (k k' : κ) (v : α) :
    (t.insert k v).find? k' = if k' = k then some v else t.find? k' := by
  apply Option.ext
  intro w
  rw [find?_eq_some_iff]
  show (k', w) ∈ insertEntry k v t.entries ↔ _
  rw [mem_insertEntry_iff t.sorted]
  split
  · next h => simp [h, eq_comm]
  · next h => simp [h, find?_eq_some_iff]

/-- An insertion is found under its key. -/
@[simp] theorem find?_insert_self [DecidableEq κ] (t : Table κ α) (k : κ) (v : α) :
    (t.insert k v).find? k = some v := by simp [find?_insert]

/-- A filter keeps what it accepts. -/
theorem find?_filter (t : Table κ α) (keep : κ → α → Bool) (k : κ) :
    (t.filter keep).find? k = (t.find? k).filter (keep k) := by
  apply Option.ext
  intro w
  rw [find?_eq_some_iff, Option.filter_eq_some_iff, find?_eq_some_iff]
  simp [filter, List.mem_filter]

/-- An erased key is found no more, and nothing else changes. -/
theorem find?_erase [DecidableEq κ] (t : Table κ α) (k k' : κ) :
    (t.erase k).find? k' = if k' = k then none else t.find? k' := by
  unfold erase
  rw [find?_filter]
  split
  · next h => cases t.find? k' <;> simp [h, Option.filter]
  · next h =>
    have : Key.code k' ≠ Key.code k := fun hc => h (Key.code_injective _ _ hc)
    cases t.find? k' <;> simp [this, Option.filter]

/-- Sorted lists with the same entries are equal. -/
private theorem eq_of_sorted_of_mem_iff {l m : List (κ × α)} (hl : l.Pairwise Key.Before)
    (hm : m.Pairwise Key.Before) (h : ∀ e, e ∈ l ↔ e ∈ m) : l = m := by
  induction l generalizing m with
  | nil =>
    cases m with
    | nil => rfl
    | cons b _ => exact absurd ((h b).2 List.mem_cons_self) List.not_mem_nil
  | cons a l' ih =>
    cases m with
    | nil => exact absurd ((h a).1 List.mem_cons_self) List.not_mem_nil
    | cons b m' =>
      obtain ⟨ha, hl'⟩ := List.pairwise_cons.1 hl
      obtain ⟨hb, hm'⟩ := List.pairwise_cons.1 hm
      have hab : a = b := by
        rcases List.mem_cons.1 ((h a).1 List.mem_cons_self) with hab | hmem
        · exact hab
        · rcases List.mem_cons.1 ((h b).2 List.mem_cons_self) with hba | hmem'
          · exact hba.symm
          · exact absurd (List.lt_trans (ha b hmem') (hb a hmem)) (List.lt_irrefl _)
      subst hab
      refine congrArg _ (ih hl' hm' fun e => ⟨fun he => ?_, fun he => ?_⟩)
      · rcases List.mem_cons.1 ((h e).1 (List.mem_cons_of_mem _ he)) with rfl | he'
        · exact absurd (ha _ he) (List.lt_irrefl _)
        · exact he'
      · rcases List.mem_cons.1 ((h e).2 (List.mem_cons_of_mem _ he)) with rfl | he'
        · exact absurd (hb _ he) (List.lt_irrefl _)
        · exact he'

/-- A table is determined by what its keys find. -/
theorem ext_find? {s t : Table κ α} (h : ∀ k, s.find? k = t.find? k) : s = t := by
  have hent : s.entries = t.entries :=
    eq_of_sorted_of_mem_iff s.sorted t.sorted fun e => by
      rw [← find?_eq_some_iff (t := s) (k := e.1) (v := e.2), h, find?_eq_some_iff]
  cases s
  cases t
  simpa using hent

end LinkBus.Table
