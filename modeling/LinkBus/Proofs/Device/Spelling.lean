import LinkBus.Proofs.Device.Paths
import LinkBus.Proofs.Text.Words

/-!
# Spellings of object paths

The number of an object is read back from each of its paths. A path names a number in more than one
way: zeros and a plus sign may stand before the digits. Such a spelling is not the path of any
object, but it is read as the number all the same. Nothing else is read as a number.
-/

namespace LinkBus

/-- The path of a kind with zeros and perhaps a plus sign before the digits of the number. -/
def PathKind.spelled (kind : PathKind) (plus : Bool) (zeros number : Nat) : String :=
  kind.stem ++ String.ofList (Text.padded plus zeros number)

namespace PathKind

/-- The characters of a spelling. -/
theorem toList_spelled (kind : PathKind) (plus : Bool) (zeros number : Nat) :
    (kind.spelled plus zeros number).toList =
      kind.stem.toList ++ Text.padded plus zeros number := by
  rw [spelled, String.toList_append, String.toList_ofList]

/-- A path is spelled without a plus sign and zeros. -/
theorem spelled_eq_path_iff {kind kind' : PathKind} {plus : Bool} {zeros m n : Nat} :
    kind.spelled plus zeros m = kind'.path n ↔
      kind = kind' ∧ plus = false ∧ zeros = 0 ∧ m = n := by
  rw [← String.toList_inj, toList_spelled, toList_path, stem_append_inj,
    Text.padded_eq_decimal_iff]

/-- Of a text that begins like a kind of path what follows is looked at. -/
theorem findSome?_stripStart? (kind : PathKind) (rest : List Char) :
    (all.findSome? fun k => Text.stripStart? k.stem.toList (kind.stem.toList ++ rest)) =
      some rest := by
  have hsome : (all.findSome? fun k =>
      Text.stripStart? k.stem.toList (kind.stem.toList ++ rest)).isSome := by
    rw [List.findSome?_isSome_iff]
    refine ⟨kind, by cases kind <;> decide, ?_⟩
    rw [Text.stripStart?_eq_some_iff.2 rfl, Option.isSome_some]
  obtain ⟨found, hfound⟩ := Option.isSome_iff_exists.1 hsome
  obtain ⟨k, _, hk⟩ := List.exists_of_findSome?_eq_some hfound
  rw [hfound, (stem_append_inj.1 (Text.stripStart?_eq_some_iff.1 hk)).2]

end PathKind

/-- A number is read from its spellings, and from nothing else. -/
theorem numberOfPath?_eq_some_iff {path : String} {number : Nat} :
    numberOfPath? path = some number ↔
      number < numberBound ∧ ∃ kind plus zeros, path = PathKind.spelled kind plus zeros number := by
  rw [numberOfPath?, Option.bind_eq_some_iff]
  constructor
  · rintro ⟨rest, hrest, hnumber⟩
    obtain ⟨kind, _, hkind⟩ := List.exists_of_findSome?_eq_some hrest
    obtain ⟨hbound, plus, zeros, rfl⟩ := Text.readUnsigned?_eq_some_iff.1 hnumber
    refine ⟨hbound, kind, plus, zeros, ?_⟩
    rw [← String.toList_inj, PathKind.toList_spelled]
    exact Text.stripStart?_eq_some_iff.1 hkind
  · rintro ⟨hbound, kind, plus, zeros, rfl⟩
    refine ⟨Text.padded plus zeros number, ?_,
      Text.readUnsigned?_eq_some_iff.2 ⟨hbound, plus, zeros, rfl⟩⟩
    rw [PathKind.toList_spelled]
    exact kind.findSome?_stripStart? _

/-- The number of an object is read back from its path. -/
theorem numberOfPath?_path {number : Nat} (hbound : number < numberBound) (kind : PathKind) :
    numberOfPath? (kind.path number) = some number :=
  numberOfPath?_eq_some_iff.2 ⟨hbound, kind, false, 0,
    (PathKind.spelled_eq_path_iff.2 ⟨rfl, rfl, rfl, rfl⟩).symm⟩

/-- A text is read as a number exactly if it is one of the five paths of that number of 64 bits but
for zeros and a plus sign before the digits. Each of the five paths is read back, and with any such
addition a text is the path of nothing. -/
theorem numbers_read_from_spellings (path : String) (number : Nat) :
    (numberOfPath? path = some number ↔
      number < numberBound ∧ ∃ kind plus zeros, path = PathKind.spelled kind plus zeros number) ∧
    (number < numberBound → ∀ kind,
      numberOfPath? ((ObjectPaths.ofNumber number).ofKind kind) = some number) ∧
    ∀ kind plus zeros, path = PathKind.spelled kind plus zeros number →
      ((∃ kind' number', path = (ObjectPaths.ofNumber number').ofKind kind') ↔
        plus = false ∧ zeros = 0) := by
  refine ⟨numberOfPath?_eq_some_iff, fun hbound kind => ?_, fun kind plus zeros hpath => ?_⟩
  · rw [ObjectPaths.ofKind_ofNumber, numberOfPath?_path hbound]
  · subst hpath
    simp only [ObjectPaths.ofKind_ofNumber, PathKind.spelled_eq_path_iff]
    constructor
    · rintro ⟨_, _, _, hplus, hzeros, _⟩
      exact ⟨hplus, hzeros⟩
    · rintro ⟨hplus, hzeros⟩
      exact ⟨kind, number, rfl, hplus, hzeros, rfl⟩

/-- A zero before the digit makes a text that is no path, but is read like the path of the first
device. -/
theorem zero_before_number_overlooked :
    numberOfPath? "/org/freedesktop/NetworkManager/Devices/01" = some 1 ∧
      ∀ (number : Nat) (kind : PathKind),
        (ObjectPaths.ofNumber number).ofKind kind ≠
          "/org/freedesktop/NetworkManager/Devices/01" := by
  have hspelled : "/org/freedesktop/NetworkManager/Devices/01" =
      PathKind.device.spelled false 1 1 := by
    rw [← String.toList_inj, PathKind.toList_spelled, Text.padded, Text.decimal_of_lt (by decide)]
    decide
  rw [hspelled]
  refine ⟨numberOfPath?_eq_some_iff.2 ⟨by decide, .device, false, 1, rfl⟩, fun number kind h => ?_⟩
  rw [ObjectPaths.ofKind_ofNumber, eq_comm, PathKind.spelled_eq_path_iff] at h
  exact absurd h.2.2.1 (by decide)

end LinkBus
