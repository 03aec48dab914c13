import LinkBus.Network
import Mathlib.Data.List.TakeWhile

/-!
# Batches

Messages that arrive are put into batches: the first opens a batch, which holds all messages that
arrive before the window after the first is over, and the next one opens another batch.
-/

namespace LinkBus

variable {α : Type} {window : Nat} {first a : Nat × α} {rest arrivals : List (Nat × α)}

/-- Puts arrivals into batches. -/
def batches (window : Nat) : List (Nat × α) → List (List (Nat × α))
  | [] => []
  | first :: rest =>
    (first :: rest.takeWhile fun a => a.1 < first.1 + window) ::
      batches window (rest.dropWhile fun a => a.1 < first.1 + window)
termination_by arrivals => arrivals.length
decreasing_by exact Nat.lt_succ_of_le (List.dropWhile_sublist _).length_le

/-- No message is lost, repeated or moved. -/
theorem flatten_batches (window : Nat) (arrivals : List (Nat × α)) :
    (batches window arrivals).flatten = arrivals := by
  fun_induction batches window arrivals with
  | case1 => rfl
  | case2 first rest ih =>
    rw [List.flatten_cons, ih, List.cons_append, List.takeWhile_append_dropWhile]

/-- There is a batch as soon as something arrives. -/
theorem batches_eq_nil_iff : batches window arrivals = [] ↔ arrivals = [] := by
  constructor
  · intro h
    rw [← flatten_batches window arrivals, h, List.flatten_nil]
  · rintro rfl
    rw [batches]

/-- Where nothing is left to drop, all is taken. -/
theorem takeWhile_eq_self_of_dropWhile_eq_nil {p : Nat × α → Bool} (h : rest.dropWhile p = []) :
    rest.takeWhile p = rest :=
  List.takeWhile_eq_self_iff.2 (List.dropWhile_eq_nil_iff.1 h)

/-- Where something is left to drop, not all is taken. -/
theorem length_takeWhile_ne_of_dropWhile_ne_nil {p : Nat × α → Bool} (h : rest.dropWhile p ≠ []) :
    (rest.takeWhile p).length ≠ rest.length := by
  have hsplit : rest.takeWhile p ++ rest.dropWhile p = rest := List.takeWhile_append_dropWhile
  have hlength := congrArg List.length hsplit
  rw [List.length_append] at hlength
  have hpos := List.length_pos_iff.2 h
  omega

/-- What arrives last does not concern the first batch once that is over. -/
theorem batches_concat_of_dropWhile_ne_nil
    (h : (rest.dropWhile fun a => a.1 < first.1 + window) ≠ []) :
    batches window (first :: rest ++ [a]) =
      (first :: rest.takeWhile fun a => a.1 < first.1 + window) ::
        batches window ((rest.dropWhile fun a => a.1 < first.1 + window) ++ [a]) := by
  rw [List.cons_append, batches, List.takeWhile_append,
    if_neg (length_takeWhile_ne_of_dropWhile_ne_nil h), List.dropWhile_append,
    if_neg (mt List.isEmpty_iff.1 h)]

/-- A message that arrives while the first batch is the only one either is put into it or opens the
second one. -/
theorem batches_concat_of_dropWhile_eq_nil
    (h : (rest.dropWhile fun a => a.1 < first.1 + window) = []) :
    batches window (first :: rest ++ [a]) =
      if a.1 < first.1 + window then [first :: (rest ++ [a])] else [first :: rest, [a]] := by
  rw [List.cons_append, batches, List.takeWhile_append, List.dropWhile_append,
    takeWhile_eq_self_of_dropWhile_eq_nil h, h, if_pos rfl, if_pos List.isEmpty_nil]
  by_cases ha : a.1 < first.1 + window <;> simp [ha, batches]

/-- A message that arrives after the window of every batch opens another one. -/
theorem batches_concat_of_over
    (h : ∀ first rest, first :: rest ∈ batches window arrivals → first.1 + window ≤ a.1) :
    batches window (arrivals ++ [a]) = batches window arrivals ++ [[a]] := by
  fun_induction batches window arrivals with
  | case1 => simp [batches]
  | case2 first rest ih =>
    have hover : ¬ a.1 < first.1 + window := Nat.not_lt.2 (h _ _ List.mem_cons_self)
    have ih := ih fun first' rest' hmem => h first' rest' (List.mem_cons_of_mem _ hmem)
    by_cases hrest : (rest.dropWhile fun a => a.1 < first.1 + window) = []
    · rw [batches_concat_of_dropWhile_eq_nil hrest, if_neg hover, hrest,
        takeWhile_eq_self_of_dropWhile_eq_nil hrest, batches]
      rfl
    · rw [batches_concat_of_dropWhile_ne_nil hrest, ih, List.cons_append]

/-- A message that arrives within the window of the last batch is put into it. -/
theorem batches_concat_of_within {before : List (List (Nat × α))}
    (h : batches window arrivals = before ++ [first :: rest]) (ha : a.1 < first.1 + window) :
    batches window (arrivals ++ [a]) = before ++ [first :: (rest ++ [a])] := by
  fun_induction batches window arrivals generalizing before with
  | case1 => simp at h
  | case2 first' rest' ih =>
    by_cases hrest : (rest'.dropWhile fun a => a.1 < first'.1 + window) = []
    · -- the first batch is the last one
      rw [hrest, takeWhile_eq_self_of_dropWhile_eq_nil hrest, batches] at h
      obtain ⟨rfl, hlast⟩ := List.append_inj' ((List.nil_append _).trans h) rfl
      obtain ⟨rfl, rfl⟩ := List.cons.inj (List.cons.inj hlast).1
      rw [batches_concat_of_dropWhile_eq_nil hrest, if_pos ha, List.nil_append]
    · rw [batches_concat_of_dropWhile_ne_nil hrest]
      cases before with
      | nil => exact absurd (batches_eq_nil_iff.1 (List.cons.inj h).2) hrest
      | cons g before =>
        obtain ⟨rfl, hlater⟩ := List.cons_eq_cons.1 h
        rw [ih hlater, List.cons_append]

end LinkBus
