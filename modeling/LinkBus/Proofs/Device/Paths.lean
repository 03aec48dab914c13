import LinkBus.Device.Paths
import LinkBus.Proofs.Text.Digits

/-!
# Different objects have different paths

The digits of different numbers differ, so the paths of one kind differ if their numbers do. The
paths of two kinds differ behind what all of them begin with, and the paths of the manager and of
the settings object do not end in a digit.
-/

namespace LinkBus

namespace PathKind

/-- The characters of a path. -/
theorem toList_path (kind : PathKind) (number : Nat) :
    (kind.path number).toList = kind.stem.toList ++ Text.decimal number := by
  rw [path, String.toList_append, String.toList_ofList]

/-- Where the kinds of paths start to differ. -/
def branching : Nat := 35

/-- A text that begins like a path begins like one kind of path only, and goes on in one way. -/
theorem stem_append_inj {kind kind' : PathKind} {rest rest' : List Char} :
    kind.stem.toList ++ rest = kind'.stem.toList ++ rest' ↔ kind = kind' ∧ rest = rest' := by
  have htake : ∀ (k : PathKind) (r : List Char),
      (k.stem.toList ++ r).take branching = k.stem.toList.take branching := by
    intro k r
    have hlength : branching ≤ k.stem.toList.length := by
      cases k <;> decide
    rw [List.take_append_of_le_length hlength]
  constructor
  · intro h
    have hstem : kind.stem.toList.take branching = kind'.stem.toList.take branching := by
      rw [← htake kind rest, ← htake kind' rest', h]
    have hkind : kind = kind' := by
      revert hstem
      cases kind <;> cases kind' <;> decide
    subst hkind
    exact ⟨rfl, List.append_cancel_left h⟩
  · rintro ⟨rfl, rfl⟩
    rfl

/-- Two objects have the same path only if they have the same kind of path and the same number. -/
@[simp] theorem path_inj {kind kind' : PathKind} {m n : Nat} :
    kind.path m = kind'.path n ↔ kind = kind' ∧ m = n := by
  rw [← String.toList_inj, toList_path, toList_path, stem_append_inj, Text.decimal_inj]

/-- The path of an object ends in a digit. -/
theorem getLast?_path (kind : PathKind) (number : Nat) :
    (kind.path number).toList.getLast? = some (Text.lowerDigit (number % 10)) := by
  rw [toList_path, List.getLast?_append, Text.getLast?_decimal, Option.some_or]

/-- A text that ends in no digit is not the path of a device's object. -/
theorem path_ne {text : String} (h : ∀ d : Fin 10, text.toList.getLast? ≠ some (Text.lowerDigit d))
    (kind : PathKind) (number : Nat) : kind.path number ≠ text := by
  intro heq
  have hlast : number % 10 < 10 := Nat.mod_lt number (by decide)
  exact h ⟨number % 10, hlast⟩ (heq ▸ getLast?_path kind number)

/-- No object of a device has the path of the manager. -/
@[simp] theorem path_ne_managerPath (kind : PathKind) (number : Nat) :
    kind.path number ≠ managerPath :=
  path_ne (by decide) kind number

/-- No object of a device has the path of the settings object. -/
@[simp] theorem path_ne_settingsPath (kind : PathKind) (number : Nat) :
    kind.path number ≠ settingsPath :=
  path_ne (by decide) kind number

end PathKind

namespace ObjectPaths

/-- The path of the object of a kind. -/
def ofKind (paths : ObjectPaths) : PathKind → String
  | .device => paths.device
  | .ip4 => paths.ip4
  | .ip6 => paths.ip6
  | .active => paths.active
  | .settings => paths.settings

/-- The paths of a number are those of its kinds. -/
@[simp] theorem ofKind_ofNumber (number : Nat) (kind : PathKind) :
    (ofNumber number).ofKind kind = kind.path number := by
  cases kind <;> rfl

end ObjectPaths

end LinkBus
