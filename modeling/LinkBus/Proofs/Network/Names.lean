import LinkBus.Proofs.Network.Run

/-!
# The names that go with numbers

After every update each number in use goes with the name of its link. An interface whose link did
not change is therefore settled: renumbering it changes nothing. So the numbers after an update
depend on what changed only, and not on which unchanged interfaces are reported along with it.
-/

namespace LinkBus

namespace Network

/-- The number in use of an interface goes with the name of its link. -/
def NamesFit (inv : Inventory) (n : Numbering) (i : UInt32) : Prop :=
  ∀ a link, n.holdings.find? i = some a → a.parkedUntil = none → inv.link? i = some link →
    a.name = link.name

/-- An observation of an interface under a name gives its number in use that name. -/
theorem name_note {n : Numbering} {i : UInt32} {name : String} {served : Bool} {now debounce : Nat}
    {a : Holding} (ha : (n.note i (some name) served now debounce).1.holdings.find? i = some a)
    (hinUse : a.parkedUntil = none) : a.name = name := by
  cases served with
  | true =>
    obtain ⟨b, hb, _, hname, _⟩ := n.find?_note_served i (some name) now debounce
    rw [hb, Option.some.injEq] at ha
    exact ha ▸ hname name rfl
  | false =>
    rw [Numbering.find?_note_not_served, Option.map_eq_some_iff] at ha
    obtain ⟨_, _, rfl⟩ := ha
    cases hinUse

/-- After renumbering, the names of the touched interfaces fit, and those of the others if they did
before. -/
theorem namesFit_foldl {inv : Inventory} {i : UInt32} (now debounce : Nat) (touched : List UInt32)
    {n : Numbering} (h : i ∈ touched ∨ NamesFit inv n i) :
    NamesFit inv (touched.foldl (renumberOne inv now debounce) n) i := by
  induction touched generalizing n with
  | nil => exact h.resolve_left List.not_mem_nil
  | cons j rest ih =>
    rw [List.foldl_cons]
    by_cases hi : i = j
    · subst hi
      refine ih (Or.inr fun a link ha hinUse hlink => ?_)
      rw [renumberOne, hlink] at ha
      exact name_note ha hinUse
    · refine ih (h.imp (fun hmem => (List.mem_cons.1 hmem).resolve_left hi)
        fun hfit a link ha => ?_)
      rw [renumberOne, Numbering.find?_note_of_ne hi] at ha
      exact hfit a link ha

/-- An update after which the touched interfaces are renumbered leaves every number in use with the
name of its link. -/
theorem namesFit_renumber {s : Network} {inventory : Inventory} {changes : Changes}
    (hcover : changes.Cover s.inventory inventory)
    (hfit : ∀ i, NamesFit s.inventory s.numbering i) (now debounce : Nat) (i : UInt32) :
    NamesFit inventory ({ s with inventory }.renumber changes now debounce).numbering i := by
  refine namesFit_foldl now debounce changes.toList ?_
  by_cases hi : i ∈ changes.toList
  · exact Or.inl hi
  · refine Or.inr fun a link ha hinUse hlink => ?_
    rw [hcover.link hi] at hlink
    exact hfit i a link ha hinUse hlink

/-- Every update leaves every number in use with the name of its link. -/
theorem namesFit_update {s : Network} (hfit : ∀ i, NamesFit s.inventory s.numbering i) (u : Update)
    (i : UInt32) : NamesFit (s.update u).1.inventory (s.update u).1.numbering i := by
  cases u with
  | deliver messages now debounce =>
    exact namesFit_renumber (s.inventory.cover_deliverAll messages) hfit now debounce i
  | hear events now debounce =>
    exact namesFit_renumber (s.inventory.cover_hearAll events) hfit now debounce i
  | retire now =>
    intro a link ha
    change (s.numbering.retireDue now).1.holdings.find? i = some a at ha
    rw [Numbering.find?_retireDue, Option.filter_eq_some_iff] at ha
    exact hfit i a link ha.1

/-- In every run of updates every number in use goes with the name of its link. -/
theorem namesFit_updateAll (filter : LinkFilter) (updates : List Update) (i : UInt32) :
    NamesFit ((empty filter).updateAll updates).inventory
      ((empty filter).updateAll updates).numbering i := by
  have hall : ∀ i, NamesFit ((empty filter).updateAll updates).inventory
      ((empty filter).updateAll updates).numbering i := by
    refine List.foldlRecOn (motive := fun (s : Network) =>
      ∀ i, NamesFit s.inventory s.numbering i) updates _ (fun i a link ha => ?_)
      fun s hfit u _ => namesFit_update hfit u
    cases ha
  exact hall i

/-! ## Settled interfaces -/

/-- An interface has a number in use, under the name of its link, exactly if it is served. -/
def Settled (inv : Inventory) (n : Numbering) (i : UInt32) : Prop :=
  if inv.serves i = true then
    ∃ a link, n.holdings.find? i = some a ∧ a.parkedUntil = none ∧ inv.link? i = some link ∧
      a.name = link.name
  else n.number? i = none

/-- Renumbering a settled interface changes nothing. -/
theorem renumberOne_of_settled {inv : Inventory} {n : Numbering} {i : UInt32}
    (h : Settled inv n i) (now debounce : Nat) : renumberOne inv now debounce n i = n := by
  unfold Settled at h
  split at h
  · next hserves =>
    obtain ⟨⟨number, _, _⟩, link, ha, rfl, hlink, rfl⟩ := h
    simp only [renumberOne, hlink, hserves, Option.isSome_some, Bool.and_self, Numbering.note, ha]
    exact n.put_eq_self ha
  · next hserves =>
    rw [renumberOne, Bool.eq_false_iff.2 hserves, Bool.and_false]
    exact Numbering.note_of_number?_eq_none h _ now debounce

/-- Renumbering may leave out settled interfaces. -/
theorem foldl_renumberOne_filter {inv : Inventory} {keep : UInt32 → Bool} (now debounce : Nat)
    (touched : List UInt32) {n : Numbering} (h : ∀ i, keep i = false → Settled inv n i) :
    touched.foldl (renumberOne inv now debounce) n =
      (touched.filter keep).foldl (renumberOne inv now debounce) n := by
  induction touched generalizing n with
  | nil => rfl
  | cons j rest ih =>
    rw [List.foldl_cons]
    cases hj : keep j with
    | false =>
      rw [renumberOne_of_settled (h j hj), List.filter_cons_of_neg (by simp [hj])]
      exact ih h
    | true =>
      rw [List.filter_cons_of_pos hj, List.foldl_cons]
      refine ih fun i hi => ?_
      have hne : i ≠ j := by
        rintro rfl
        rw [hi] at hj
        cases hj
      have hsettled := h i hi
      simp only [Settled, Numbering.number?, renumberOne,
        Numbering.find?_note_of_ne hne] at hsettled ⊢
      exact hsettled

namespace Consistent

variable {filter : LinkFilter} {s : Network}

/-- After an update every interface is settled whose link did not change since. -/
theorem settled (h : s.Consistent filter) {i : UInt32}
    (hfit : NamesFit s.inventory s.numbering i) {inventory : Inventory}
    (hform : inventory.WellFormed) (hfilter : inventory.filter = s.inventory.filter)
    (hlink : inventory.link? i = s.inventory.link? i) : Settled inventory s.numbering i := by
  have hserves : inventory.serves i = s.inventory.serves i := by
    rw [Bool.eq_iff_iff, hform.serves_iff, h.wellFormed.serves_iff, hlink, hfilter]
  have hsome := h.isSome_number? i
  rw [Settled, hserves]
  split
  · next hserved =>
    rw [hserved, Option.isSome_iff_exists] at hsome
    obtain ⟨number, hnumber⟩ := hsome
    obtain ⟨a, ha, hnone, _⟩ := Numbering.number?_eq_some_iff.1 hnumber
    obtain ⟨link, hknown, _⟩ := (h.wellFormed.serves_iff i).1 hserved
    exact ⟨a, link, ha, hnone, hlink.trans hknown, hfit a link ha hnone hknown⟩
  · next hserved =>
    rwa [Bool.eq_false_iff.2 hserved, Option.isSome_eq_false_iff,
      Option.isNone_iff_eq_none] at hsome

/-- Two reports that both cover what changed lead to the same numbers. -/
theorem renumber_eq_of_cover (h : s.Consistent filter)
    (hfit : ∀ i, NamesFit s.inventory s.numbering i) {inventory : Inventory}
    (hform : inventory.WellFormed) (hfilter : inventory.filter = s.inventory.filter)
    {a b : Changes} (ha : a.Cover s.inventory inventory) (hb : b.Cover s.inventory inventory)
    (now debounce : Nat) :
    { s with inventory }.renumber a now debounce =
      { s with inventory }.renumber b now debounce := by
  let differs (i : UInt32) : Bool := inventory.link? i != s.inventory.link? i
  have hsettled : ∀ i, differs i = false → Settled inventory s.numbering i := fun i hi =>
    h.settled (hfit i) hform hfilter (by simpa [differs] using hi)
  have hlisted : ∀ {c : Changes}, c.Cover s.inventory inventory → ∀ i, differs i = true →
      i ∈ c.toList := by
    intro c hc i hi
    by_contra hnot
    simp [differs, hc.link hnot] at hi
  have hsame : a.toList.filter differs = b.toList.filter differs :=
    Changes.filter_toList_eq fun i hi => iff_of_true (hlisted ha i hi) (hlisted hb i hi)
  simp only [Network.renumber]
  rw [foldl_renumberOne_filter now debounce a.toList hsettled,
    foldl_renumberOne_filter now debounce b.toList hsettled, hsame]

end Consistent

end Network

end LinkBus
