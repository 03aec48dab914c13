import LinkBus.Numbering
import LinkBus.Proofs.Table.Contents

/-!
# Numbers and their owners

No two interfaces hold one number, and no number above the last one given is held. A later numbering
never moves a number that was given before to another interface: whoever holds it held it already.
Observing an interface decides whether it has a number in use, and touches no other interface.
-/

namespace LinkBus.Numbering

/-- Numbers lie between one and the last one given, and each has one holder. -/
structure Sound (n : Numbering) : Prop where
  /-- Numbers start at one. -/
  pos : ∀ {i a}, n.holdings.find? i = some a → 0 < a.number
  /-- No number is above the last one given. -/
  le_last : ∀ {i a}, n.holdings.find? i = some a → a.number ≤ n.last
  /-- A number has one holder. -/
  unique : ∀ {i j a b}, n.holdings.find? i = some a → n.holdings.find? j = some b →
    a.number = b.number → i = j

/-- A numbering may have come out of another one: an interface that holds an old number held it
already. -/
structure Follows (new old : Numbering) : Prop where
  /-- Numbers are only given, never taken back. -/
  last_le : old.last ≤ new.last
  /-- Who holds an old number held it already. -/
  held : ∀ {i a}, new.holdings.find? i = some a → a.number ≤ old.last →
    ∃ b, old.holdings.find? i = some b ∧ b.number = a.number

/-- Every numbering follows itself. -/
theorem Follows.refl (n : Numbering) : n.Follows n :=
  ⟨Nat.le_refl _, fun h _ => ⟨_, h, rfl⟩⟩

/-- What follows a follower follows the first numbering. -/
theorem Follows.trans {first second third : Numbering} (h₂ : third.Follows second)
    (h₁ : second.Follows first) : third.Follows first where
  last_le := Nat.le_trans h₁.last_le h₂.last_le
  held hheld hle := by
    obtain ⟨b, hb, hsame⟩ := h₂.held hheld (Nat.le_trans hle h₁.last_le)
    obtain ⟨c, hc, hsame'⟩ := h₁.held hb (by omega)
    exact ⟨c, hc, by omega⟩

/-- The empty numbering is sound. -/
theorem sound_empty : Sound {} where
  pos h := by cases h
  le_last h := by cases h
  unique h := by cases h

variable {n : Numbering}

/-! ## Single operations -/

/-- Changing what is known of a holding, but not its number, keeps numbers sound. -/
theorem Sound.put (h : n.Sound) {i : UInt32} {a b : Holding} (ha : n.holdings.find? i = some a)
    (hnumber : b.number = a.number) : (n.put i b).Sound := by
  have hfound : ∀ {j c}, (n.put i b).holdings.find? j = some c →
      ∃ d, n.holdings.find? j = some d ∧ d.number = c.number := by
    intro j c hc
    rw [Numbering.put, Table.find?_insert] at hc
    split at hc
    · next hj =>
      cases hc
      exact ⟨a, hj ▸ ha, hnumber.symm⟩
    · exact ⟨c, hc, rfl⟩
  constructor
  · intro j c hc
    obtain ⟨d, hd, hsame⟩ := hfound hc
    exact hsame ▸ h.pos hd
  · intro j c hc
    obtain ⟨d, hd, hsame⟩ := hfound hc
    exact hsame ▸ h.le_last hd
  · intro j k c c' hc hc' heq
    obtain ⟨d, hd, hsame⟩ := hfound hc
    obtain ⟨d', hd', hsame'⟩ := hfound hc'
    exact h.unique hd hd' (by omega)

/-- Changing what is known of a holding, but not its number, moves no number. -/
theorem follows_put {i : UInt32} {a b : Holding} (ha : n.holdings.find? i = some a)
    (hnumber : b.number = a.number) : (n.put i b).Follows n where
  last_le := Nat.le_refl _
  held {j c} hc _ := by
    rw [Numbering.put, Table.find?_insert] at hc
    split at hc
    · next hj =>
      cases hc
      exact ⟨a, hj ▸ ha, hnumber.symm⟩
    · exact ⟨c, hc, rfl⟩

/-- What is found after the next number was given. -/
theorem find?_giveNext (n : Numbering) (i j : UInt32) (name : String) :
    (n.giveNext i name).1.holdings.find? j =
      if j = i then some { number := n.last + 1, name } else n.holdings.find? j :=
  Table.find?_insert ..

/-- Giving the next number keeps numbers sound. -/
theorem Sound.giveNext (h : n.Sound) (i : UInt32) (name : String) :
    (n.giveNext i name).1.Sound := by
  have hlast : (n.giveNext i name).1.last = n.last + 1 := rfl
  constructor
  · intro j a ha
    rw [find?_giveNext] at ha
    split at ha
    · cases ha
      exact Nat.succ_pos _
    · exact h.pos ha
  · intro j a ha
    rw [find?_giveNext] at ha
    split at ha
    · cases ha
      exact Nat.le_refl _
    · have := h.le_last ha
      omega
  · intro j k a b ha hb heq
    rw [find?_giveNext] at ha hb
    split at ha <;> split at hb
    · next hj hk => rw [hj, hk]
    · have := h.le_last hb
      cases ha
      simp only at heq
      omega
    · have := h.le_last ha
      cases hb
      simp only at heq
      omega
    · exact h.unique ha hb heq

/-- Giving the next number moves no number that was given before. -/
theorem follows_giveNext (n : Numbering) (i : UInt32) (name : String) :
    (n.giveNext i name).1.Follows n where
  last_le := Nat.le_succ _
  held {j a} ha hle := by
    rw [find?_giveNext] at ha
    split at ha
    · cases ha
      simp only at hle
      omega
    · exact ⟨a, ha, rfl⟩

/-- Retiring numbers keeps the others as they are. -/
theorem find?_retireDue (n : Numbering) (now : Nat) (i : UInt32) :
    (n.retireDue now).1.holdings.find? i = (n.holdings.find? i).filter fun a => !isDue now a :=
  Table.find?_filter ..

/-- Retiring numbers keeps numbers sound. -/
theorem Sound.retireDue (h : n.Sound) (now : Nat) : (n.retireDue now).1.Sound := by
  have hkept : ∀ {i a}, (n.retireDue now).1.holdings.find? i = some a →
      n.holdings.find? i = some a := by
    intro i a ha
    rw [find?_retireDue, Option.filter_eq_some_iff] at ha
    exact ha.1
  exact ⟨fun ha => h.pos (hkept ha), fun ha => h.le_last (hkept ha),
    fun ha hb => h.unique (hkept ha) (hkept hb)⟩

/-- Retiring numbers moves none. -/
theorem follows_retireDue (n : Numbering) (now : Nat) : (n.retireDue now).1.Follows n where
  last_le := Nat.le_refl _
  held {i a} ha _ := by
    rw [find?_retireDue, Option.filter_eq_some_iff] at ha
    exact ⟨a, ha.1, rfl⟩

/-! ## Observations -/

/-- An observation changes nothing, changes what is known of a holding but not its number, or gives
the next number. -/
theorem note_cases (n : Numbering) (i : UInt32) (name : Option String) (served : Bool)
    (now debounce : Nat) :
    (n.note i name served now debounce).1 = n ∨
      (∃ a b, n.holdings.find? i = some a ∧ b.number = a.number ∧
        (n.note i name served now debounce).1 = n.put i b) ∨
      ∃ known, (n.note i name served now debounce).1 = (n.giveNext i known).1 := by
  unfold note
  split
  · next a hfound =>
    split
    · exact Or.inr (Or.inl ⟨a, { a with name := name.getD a.name }, hfound, rfl, rfl⟩)
    · split
      · exact Or.inr (Or.inl ⟨a, { a with parkedUntil := none }, hfound, rfl, rfl⟩)
      · exact Or.inr (Or.inr ⟨_, rfl⟩)
  · next a hfound =>
    split
    · exact Or.inl rfl
    · exact Or.inr (Or.inl ⟨a, { a with parkedUntil := some (now + debounce) }, hfound, rfl, rfl⟩)
  · exact Or.inr (Or.inr ⟨_, rfl⟩)
  · exact Or.inl rfl

/-- Observations keep numbers sound. -/
theorem Sound.note (h : n.Sound) (i : UInt32) (name : Option String) (served : Bool)
    (now debounce : Nat) : (n.note i name served now debounce).1.Sound := by
  rcases n.note_cases i name served now debounce with heq | ⟨a, b, ha, hb, heq⟩ | ⟨known, heq⟩
  · rwa [heq]
  · rw [heq]
    exact h.put ha hb
  · rw [heq]
    exact h.giveNext i known

/-- Observations move no number that was given before. -/
theorem follows_note (n : Numbering) (i : UInt32) (name : Option String) (served : Bool)
    (now debounce : Nat) : (n.note i name served now debounce).1.Follows n := by
  rcases n.note_cases i name served now debounce with heq | ⟨a, b, ha, hb, heq⟩ | ⟨known, heq⟩
  · rw [heq]
    exact .refl n
  · rw [heq]
    exact follows_put ha hb
  · rw [heq]
    exact follows_giveNext n i known

/-- An observation touches no other interface. -/
theorem find?_note_of_ne {i j : UInt32} (hne : j ≠ i) (name : Option String) (served : Bool)
    (now debounce : Nat) :
    (n.note i name served now debounce).1.holdings.find? j = n.holdings.find? j := by
  rcases n.note_cases i name served now debounce with heq | ⟨a, b, _, _, heq⟩ | ⟨known, heq⟩
  · rw [heq]
  · rw [heq, put, Table.find?_insert, if_neg hne]
  · rw [heq, find?_giveNext, if_neg hne]

/-- An interface that is seen to be served keeps its number if that is in use, or parked under the
same name; otherwise it gets the next one. Either way the number is in use then, under the name that
was seen. -/
theorem find?_note_served (n : Numbering) (i : UInt32) (name : Option String)
    (now debounce : Nat) :
    ∃ b, (n.note i name true now debounce).1.holdings.find? i = some b ∧ b.parkedUntil = none ∧
      (∀ known, name = some known → b.name = known) ∧
      ((∃ a, n.holdings.find? i = some a ∧ b.number = a.number ∧
          (a.parkedUntil = none ∨ name.all (· == a.name) = true)) ∨
        (b.number = n.last + 1 ∧ ∀ a, n.holdings.find? i = some a →
          a.parkedUntil ≠ none ∧ name.all (· == a.name) = false)) := by
  have hgiven : ∀ known, name = some known → name.getD "" = known := by
    rintro known rfl
    rfl
  cases hfound : n.holdings.find? i with
  | none =>
    simp only [note, hfound, find?_giveNext, if_true]
    exact ⟨_, rfl, rfl, hgiven, Or.inr ⟨rfl, fun a ha => by cases ha⟩⟩
  | some a =>
    cases hparked : a.parkedUntil with
    | none =>
      simp only [note, hfound, hparked, put, Table.find?_insert_self]
      refine ⟨_, rfl, rfl, ?_, Or.inl ⟨a, rfl, rfl, Or.inl hparked⟩⟩
      rintro known rfl
      rfl
    | some deadline =>
      cases hsame : name.all (· == a.name) with
      | true =>
        simp only [note, hfound, hparked, hsame, put, Table.find?_insert_self, if_true]
        refine ⟨_, rfl, rfl, ?_, Or.inl ⟨a, rfl, rfl, Or.inr hsame⟩⟩
        rintro known rfl
        exact (beq_iff_eq.1 hsame).symm
      | false =>
        simp only [note, hfound, hparked, hsame, find?_giveNext, if_true, Bool.false_eq_true,
          if_false]
        refine ⟨_, rfl, rfl, hgiven, Or.inr ⟨rfl, ?_⟩⟩
        rintro _ ⟨⟩
        exact ⟨by simp [hparked], hsame⟩

/-- An interface that is seen not to be served keeps what it holds, and a number in use is parked
until the end of the window. -/
theorem find?_note_not_served (n : Numbering) (i : UInt32) (name : Option String)
    (now debounce : Nat) :
    (n.note i name false now debounce).1.holdings.find? i = (n.holdings.find? i).map fun a =>
      { a with parkedUntil := some (a.parkedUntil.getD (now + debounce)) } := by
  cases hfound : n.holdings.find? i with
  | none => simp only [note, hfound, Option.map_none]
  | some a =>
    cases hparked : a.parkedUntil with
    | none => simp [note, hfound, hparked, put]
    | some deadline =>
      simp only [note, hfound, hparked, Option.map_some, Option.getD_some]
      rw [← hparked]

/-- It does not matter under which name an interface is seen not to be served. -/
theorem note_not_served_congr (n : Numbering) (i : UInt32) (name other : Option String)
    (now debounce : Nat) :
    n.note i name false now debounce = n.note i other false now debounce := by
  unfold note
  cases n.holdings.find? i <;> rfl

/-! ## Numbers in use -/

/-- The number in use for an interface is that of its holding, unless it is parked. -/
theorem number?_eq_some_iff {i : UInt32} {number : Nat} :
    n.number? i = some number ↔
      ∃ a, n.holdings.find? i = some a ∧ a.parkedUntil = none ∧ a.number = number := by
  simp only [number?, Option.map_eq_some_iff, Option.filter_eq_some_iff, Holding.inUse,
    Option.isNone_iff_eq_none, and_assoc]

/-- Storing what is known already changes nothing. -/
theorem put_eq_self {i : UInt32} {a : Holding} (ha : n.holdings.find? i = some a) :
    n.put i a = n := by
  have hsame : n.holdings.insert i a = n.holdings := Table.ext_find? fun j => by
    rw [Table.find?_insert]
    split
    · next hj => rw [hj, ha]
    · rfl
  rw [put, hsame]

/-- An interface without a number in use may be seen not to be served: this changes nothing. -/
theorem note_of_number?_eq_none {i : UInt32} (h : n.number? i = none) (name : Option String)
    (now debounce : Nat) : (n.note i name false now debounce).1 = n := by
  cases hfound : n.holdings.find? i with
  | none => simp only [note, hfound]
  | some a =>
    cases hparked : a.parkedUntil with
    | none =>
      rw [number?_eq_some_iff.2 ⟨a, hfound, hparked, rfl⟩] at h
      cases h
    | some deadline => simp only [note, hfound, hparked]

/-- A number in use has one user. -/
theorem Sound.number?_inj (h : n.Sound) {i j : UInt32} {number : Nat}
    (hi : n.number? i = some number) (hj : n.number? j = some number) : i = j := by
  obtain ⟨a, ha, _, hsame⟩ := number?_eq_some_iff.1 hi
  obtain ⟨b, hb, _, hsame'⟩ := number?_eq_some_iff.1 hj
  exact h.unique ha hb (by omega)

/-- The user of a number is the interface that has it in use. -/
theorem Sound.holder?_eq_some_iff (h : n.Sound) {number : Nat} {i : UInt32} :
    n.holder? number = some i ↔ n.number? i = some number := by
  have hentry : ∀ e : UInt32 × Holding, e ∈ n.holdings.entries →
      ((e.2.number == number && e.2.inUse) = true ↔ n.number? e.1 = some number) := by
    intro e he
    rw [number?, Table.find?_eq_some_iff.2 he]
    cases hparked : e.2.parkedUntil <;> simp [Holding.inUse, Option.filter, hparked]
  constructor
  · intro hholder
    obtain ⟨e, he, rfl⟩ := Option.map_eq_some_iff.1 hholder
    have htest := List.find?_some he
    exact (hentry e (List.mem_of_find?_eq_some he)).1 htest
  · intro hnumber
    obtain ⟨a, ha, _, _⟩ := number?_eq_some_iff.1 hnumber
    have hmem := Table.find?_eq_some_iff.1 ha
    cases hfound : n.holdings.entries.find? fun e => e.2.number == number && e.2.inUse with
    | none =>
      have hnot := List.find?_eq_none.1 hfound _ hmem
      exact absurd ((hentry _ hmem).2 hnumber) hnot
    | some e =>
      have htest := List.find?_some hfound
      have he := (hentry e (List.mem_of_find?_eq_some hfound)).1 htest
      rw [holder?, hfound, Option.map_some, h.number?_inj he hnumber]

/-- An interface has a number in use after an observation exactly if it was seen to be served. -/
theorem isSome_number?_note (n : Numbering) (i : UInt32) (name : Option String) (served : Bool)
    (now debounce : Nat) :
    ((n.note i name served now debounce).1.number? i).isSome = served := by
  cases served with
  | true =>
    obtain ⟨b, hb, hinUse, _⟩ := n.find?_note_served i name now debounce
    exact Option.isSome_iff_exists.2 ⟨_, number?_eq_some_iff.2 ⟨b, hb, hinUse, rfl⟩⟩
  | false =>
    rw [number?, find?_note_not_served]
    cases n.holdings.find? i <;> rfl

/-- Retiring numbers leaves those in use alone. -/
theorem number?_retireDue (n : Numbering) (now : Nat) (i : UInt32) :
    (n.retireDue now).1.number? i = n.number? i := by
  apply Option.ext
  intro number
  rw [number?_eq_some_iff, number?_eq_some_iff]
  simp only [find?_retireDue, Option.filter_eq_some_iff]
  constructor
  · rintro ⟨a, ⟨ha, _⟩, hsame⟩
    exact ⟨a, ha, hsame⟩
  · rintro ⟨a, ha, hparked, hsame⟩
    exact ⟨a, ⟨ha, by simp [isDue, hparked]⟩, hparked, hsame⟩

end LinkBus.Numbering
