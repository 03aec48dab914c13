import LinkBus.Proofs.Network.Run
import LinkBus.Proofs.Numbering.Parking

/-!
# What updates observe

An update leads the numbering of a network through steps: each touched interface is observed as it
is after the update, in index order, or the numbers that are due are retired. So what is known of
courses of a numbering is known of runs of a network, and no more numbers are retired along a run
than were parked along it.
-/

namespace LinkBus.Network

/-- The observations that bring the numbers of the touched interfaces in line with an inventory. -/
def observations (inventory : Inventory) (changes : Changes) (now debounce : Nat) :
    List NumberingStep :=
  changes.toList.map fun index =>
    let link := inventory.link? index
    .note index (link.map Link.name) (link.isSome && inventory.serves index) now debounce

/-- The steps through which an update leads the numbering. -/
def steps (s : Network) (u : Update) : List NumberingStep :=
  match u with
  | .deliver _ now debounce => observations (s.update u).1.inventory (s.update u).2 now debounce
  | .hear _ now debounce => observations (s.update u).1.inventory (s.update u).2 now debounce
  | .retire now => [.retire now]

/-- The steps through which updates lead the numbering, one update after the other. -/
def stepsAll (s : Network) : List Update → List NumberingStep
  | [] => []
  | u :: rest => s.steps u ++ (s.update u).1.stepsAll rest

/-- The numbers that updates park. -/
def parkings (s : Network) (updates : List Update) : List Nat :=
  Numbering.gather Numbering.parkedBy s.numbering (s.stepsAll updates)

/-- The interfaces whose number updates retire. -/
def retirements (s : Network) (updates : List Update) : List UInt32 :=
  Numbering.gather Numbering.retiredBy s.numbering (s.stepsAll updates)

variable (s : Network)

/-- Renumbering takes the observations one after the other. -/
theorem numbering_renumber (changes : Changes) (now debounce : Nat) :
    (s.renumber changes now debounce).numbering =
      s.numbering.stepAll (observations s.inventory changes now debounce) := by
  rw [Numbering.stepAll, observations, List.foldl_map]
  rfl

/-- An update leads the numbering through its steps. -/
theorem numbering_update (u : Update) :
    (s.update u).1.numbering = s.numbering.stepAll (s.steps u) := by
  cases u with
  | deliver messages now debounce =>
    exact numbering_renumber { s with inventory := (s.inventory.deliverAll messages).1 }
      (s.inventory.deliverAll messages).2 now debounce
  | hear events now debounce =>
    exact numbering_renumber { s with inventory := (s.inventory.hearAll events).1 }
      (s.inventory.hearAll events).2 now debounce
  | retire now => rfl

/-- Updates lead the numbering through their steps. -/
theorem numbering_updateAll (updates : List Update) :
    (s.updateAll updates).numbering = s.numbering.stepAll (s.stepsAll updates) := by
  induction updates generalizing s with
  | nil => rfl
  | cons u rest ih =>
    have hfirst := s.numbering_update u
    have hrest := ih (s.update u).1
    rw [hfirst] at hrest
    rw [stepsAll, Numbering.stepAll_append, ← hrest]
    rfl

/-- The steps of updates are taken one update after the other. -/
theorem stepsAll_append (first later : List Update) :
    s.stepsAll (first ++ later) = s.stepsAll first ++ (s.updateAll first).stepsAll later := by
  induction first generalizing s with
  | nil => rfl
  | cons u rest ih =>
    have hrest := ih (s.update u).1
    rw [List.cons_append, stepsAll, stepsAll, hrest, List.append_assoc]
    rfl

/-- What later updates park comes after what the first ones park. -/
theorem parkings_append (first later : List Update) :
    s.parkings (first ++ later) = s.parkings first ++ (s.updateAll first).parkings later := by
  rw [parkings, stepsAll_append, Numbering.gather_append, ← numbering_updateAll]
  rfl

/-- Along a run no more numbers stay parked or are retired than were parked at first or since. -/
theorem length_retirements_le (updates : List Update) :
    (s.updateAll updates).numbering.parked.length + (s.retirements updates).length ≤
      s.numbering.parked.length + (s.parkings updates).length := by
  rw [numbering_updateAll]
  exact s.numbering.length_parked_stepAll (s.stepsAll updates)

end LinkBus.Network
