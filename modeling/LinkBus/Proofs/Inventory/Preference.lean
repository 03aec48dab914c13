import LinkBus.Proofs.Inventory.Form
import Mathlib.Data.List.Lex

/-!
# Preferred routes

The route with the smallest rank among several is one of them, no other one has a smaller rank, and
there is one unless there are none. In an inventory in form every known route is a default route, so
that an interface has a preferred route of a family exactly if it has any.
-/

namespace LinkBus

namespace Inventory

/-- A preferred route is one of those that it was chosen from. -/
theorem mem_of_minByRank {rank : Route → List Nat} {routes : List Route} {best : Route}
    (h : minByRank rank routes = some best) : best ∈ routes := by
  induction routes generalizing best with
  | nil => cases h
  | cons r rest ih =>
    rw [minByRank] at h
    split at h
    · cases h
      exact List.mem_cons_self
    · next found hfound =>
      split at h
      · cases h
        exact List.mem_cons_of_mem _ (ih hfound)
      · cases h
        exact List.mem_cons_self

/-- A preferred route is found unless there is none to choose from. -/
theorem minByRank_eq_none_iff {rank : Route → List Nat} {routes : List Route} :
    minByRank rank routes = none ↔ routes = [] := by
  cases routes with
  | nil => simp [minByRank]
  | cons r rest =>
    rw [minByRank]
    split
    · simp
    · split <;> simp

/-- No route that was to choose from has a smaller rank than the preferred one. -/
theorem rank_le_of_minByRank {rank : Route → List Nat} {routes : List Route} {best : Route}
    (h : minByRank rank routes = some best) {r : Route} (hr : r ∈ routes) :
    rank best ≤ rank r := by
  induction routes generalizing best with
  | nil => cases hr
  | cons first rest ih =>
    rw [minByRank] at h
    split at h
    · next hnone =>
      cases h
      rw [minByRank_eq_none_iff.1 hnone, List.mem_singleton] at hr
      exact (congrArg rank hr).ge
    · next found hfound =>
      split at h
      · next hlt =>
        cases h
        rcases List.mem_cons.1 hr with rfl | hrest
        · exact hlt.le
        · exact ih hfound hrest
      · next hle =>
        cases h
        rcases List.mem_cons.1 hr with rfl | hrest
        · exact le_rfl
        · exact (not_lt.1 hle).trans (ih hfound hrest)

namespace WellFormed

variable {inv : Inventory}

/-- Every known route is a default route. -/
theorem mem_defaultRoutes (h : inv.WellFormed) {family : Family} {r : Route} :
    r ∈ inv.defaultRoutes family ↔ r ∈ inv.routes.values ∧ r.family = family := by
  rw [defaultRoutes, List.mem_filter, Bool.and_eq_true, beq_iff_eq]
  refine ⟨fun ⟨hknown, hfamily, _⟩ => ⟨hknown, hfamily⟩, fun ⟨hknown, hfamily⟩ => ?_⟩
  obtain ⟨k, hk⟩ := Table.mem_values.1 hknown
  exact ⟨hknown, hfamily, by simp [Route.isDefault, (h.route_place hk).2.1]⟩

/-- An interface has a preferred route of a family exactly if it has any. -/
theorem isSome_routeVia?_iff (h : inv.WellFormed) {index : UInt32} {family : Family} :
    (inv.routeVia? index family).isSome = true ↔
      ∃ r ∈ inv.routes.values, r.family = family ∧ r.oif = some index := by
  rw [Option.isSome_iff_ne_none, routeVia?, ne_eq, minByRank_eq_none_iff,
    List.eq_nil_iff_forall_not_mem, not_forall_not]
  simp only [List.mem_filter, h.mem_defaultRoutes, beq_iff_eq, and_assoc]

end WellFormed

end Inventory

end LinkBus
