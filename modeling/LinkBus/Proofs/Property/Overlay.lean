import LinkBus.Property

/-!
# Laying changes over properties

If two lists of properties have the same names, each once, then laying their difference over the
first gives the second, and there is no difference exactly if they are the same.
-/

namespace LinkBus

/-- In a list of values with different names every name has the value beside it. -/
theorem lookup_of_mem {α : Type} {l : List (String × α)} (hnodup : (l.map Prod.fst).Nodup)
    {e : String × α} (he : e ∈ l) : l.lookup e.1 = some e.2 := by
  induction l with
  | nil => cases he
  | cons f rest ih =>
    rw [List.map_cons, List.nodup_cons] at hnodup
    rw [List.lookup_cons]
    rcases List.mem_cons.1 he with rfl | he
    · rw [beq_self_eq_true]
    · have hne : (e.1 == f.1) = false := by
        rw [beq_eq_false_iff_ne]
        intro heq
        exact hnodup.1 (heq ▸ List.mem_map_of_mem he)
      rw [hne]
      exact ih hnodup.2 he

namespace Properties

variable {old new : Properties}

/-- Two lists of properties have the same names in the same order, each once. -/
structure SameNames (old new : Properties) : Prop where
  /-- The names are the same. -/
  names_eq : old.map Prod.fst = new.map Prod.fst
  /-- No name occurs twice. -/
  nodup : (new.map Prod.fst).Nodup

/-- Every property of a list with different names has its own value. -/
theorem get?_of_mem {m : Properties} (hnodup : (m.map Prod.fst).Nodup)
    {e : String × AnnouncedValue} (he : e ∈ m) : m.get? e.1 = some e.2 :=
  lookup_of_mem hnodup he

/-- The value of a property stands beside its name. -/
theorem mem_of_get? {m : Properties} {name : String} {value : AnnouncedValue}
    (h : m.get? name = some value) : (name, value) ∈ m := by
  obtain ⟨first, last, rfl, _⟩ := List.lookup_eq_some_iff.1 h
  simp

/-- A list without a name has no property of that name. -/
theorem get?_eq_none_iff {m : Properties} {name : String} :
    m.get? name = none ↔ name ∉ m.map Prod.fst := by
  rw [get?, List.lookup_eq_none_iff]
  simp only [List.mem_map, not_exists, not_and, bne_iff_ne, ne_eq]
  exact ⟨fun h e he heq => h e he heq.symm, fun h e he heq => h e he heq.symm⟩

/-- The properties of the difference are those of the second list that are not in the first. -/
theorem mem_difference {e : String × AnnouncedValue} :
    e ∈ difference old new ↔ e ∈ new ∧ old.get? e.1 ≠ some e.2 := by
  simp [difference]

/-- The difference has no name twice. -/
theorem nodup_difference (hnodup : (new.map Prod.fst).Nodup) :
    ((difference old new).map Prod.fst).Nodup :=
  hnodup.sublist (List.filter_sublist.map _)

/-- The difference tells the value of a property exactly if the first list has another one. -/
theorem get?_difference (hnodup : (new.map Prod.fst).Nodup) {name : String}
    {value : AnnouncedValue} :
    (difference old new).get? name = some value ↔
      new.get? name = some value ∧ old.get? name ≠ some value := by
  constructor
  · intro hvalue
    obtain ⟨hnew, hdiffers⟩ := mem_difference.1 (mem_of_get? hvalue)
    exact ⟨get?_of_mem hnodup hnew, hdiffers⟩
  · rintro ⟨hvalue, hdiffers⟩
    exact get?_of_mem (nodup_difference hnodup) (mem_difference.2 ⟨mem_of_get? hvalue, hdiffers⟩)

/-- Laying the difference over the first list gives the second. -/
theorem overlay_difference (h : SameNames old new) : old.overlay (difference old new) = new := by
  have hadded : (difference old new).filter (fun e => (old.get? e.1).isNone) = [] := by
    rw [List.filter_eq_nil_iff]
    intro e he hnone
    rw [Option.isNone_iff_eq_none, get?_eq_none_iff, h.names_eq] at hnone
    exact hnone (List.mem_map_of_mem (mem_difference.1 he).1)
  have hlength : old.length = new.length := by
    rw [← List.length_map (f := Prod.fst), h.names_eq, List.length_map]
  rw [overlay, hadded, List.append_nil]
  apply List.ext_getElem
  · rw [List.length_map, hlength]
  · intro k hk hk'
    rw [List.getElem_map]
    have hk'' : k < old.length := hlength ▸ hk'
    have hname : old[k].1 = new[k].1 := by
      have hmap : (old.map Prod.fst)[k]? = (new.map Prod.fst)[k]? := by rw [h.names_eq]
      simpa [hk', hk''] using hmap
    have hold : old.get? new[k].1 = some old[k].2 := by
      rw [← hname]
      exact get?_of_mem (h.names_eq ▸ h.nodup) (List.getElem_mem hk'')
    rw [hname]
    by_cases hsame : old[k].2 = new[k].2
    · have hnone : (difference old new).get? new[k].1 = none := by
        rw [get?_eq_none_iff, List.mem_map]
        rintro ⟨e, he, heq⟩
        obtain ⟨hmem, hdiffers⟩ := mem_difference.1 he
        have hvalue := get?_of_mem h.nodup hmem
        rw [heq, get?_of_mem h.nodup (List.getElem_mem hk'), Option.some.injEq] at hvalue
        exact hdiffers (by rw [heq, hold, hsame, hvalue])
      rw [hnone, Option.getD_none, hsame]
    · have hmem : new[k] ∈ difference old new := by
        rw [mem_difference, hold]
        exact ⟨List.getElem_mem hk', fun heq => hsame (Option.some.inj heq)⟩
      rw [get?_of_mem (nodup_difference h.nodup) hmem, Option.getD_some]

/-- Every property of the difference has another value in the first list. -/
theorem exists_value_of_mem_difference (h : SameNames old new) {e : String × AnnouncedValue}
    (he : e ∈ difference old new) : ∃ value, old.get? e.1 = some value ∧ value ≠ e.2 := by
  obtain ⟨hmem, hdiffers⟩ := mem_difference.1 he
  cases hvalue : old.get? e.1 with
  | none =>
    rw [get?_eq_none_iff, h.names_eq] at hvalue
    exact absurd (List.mem_map_of_mem hmem) hvalue
  | some value =>
    refine ⟨value, rfl, fun heq => hdiffers ?_⟩
    rw [hvalue, heq]

/-- There is no difference between properties and themselves. -/
theorem difference_self {m : Properties} (hnodup : (m.map Prod.fst).Nodup) :
    difference m m = [] := by
  rw [difference, List.filter_eq_nil_iff]
  intro e he
  simp [get?_of_mem hnodup he]

/-- There is no difference exactly if both lists are the same. -/
theorem difference_eq_nil_iff (h : SameNames old new) : difference old new = [] ↔ old = new := by
  constructor
  · intro hnil
    have hoverlay := overlay_difference h
    rw [hnil] at hoverlay
    rw [← hoverlay, overlay, List.filter_nil, List.append_nil]
    exact (List.map_id' old).symm
  · rintro rfl
    exact difference_self h.nodup

end Properties

end LinkBus
