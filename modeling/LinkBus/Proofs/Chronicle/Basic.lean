import LinkBus.Proofs.Network.Transition

/-!
# Chronicles of a bus

A chronicle starts when a network is introduced to the bus. From then on updates of the network and
plans alternate in any order, and each plan is told the changes since the plan before. The memory of
the planner always fits the network that was announced last, and without a reported change this is
still the network of the moment.
-/

namespace LinkBus

/-- What happens in a chronicle: the network is updated, or a plan is made and carried out. -/
inductive Action
  | update (u : Update)
  | plan
  deriving DecidableEq, Repr

/-- A plan together with the network that it was made for. -/
structure Announcement where
  /-- The network at the time of the plan. -/
  network : Network
  /-- The steps of the plan. -/
  steps : List BusStep

/-- A network, the memory of the planner, and all that was announced so far. -/
structure Chronicle where
  /-- The network of the moment. -/
  network : Network
  /-- The memory of the planner. -/
  memo : BusMemo
  /-- What changed since the last plan. -/
  pending : Changes
  /-- The network that was introduced. -/
  origin : Network
  /-- The plans since then, in order. -/
  plans : List Announcement

namespace Chronicle

/-- A network is introduced to the bus. -/
def start (s : Network) : Chronicle where
  network := s
  memo := (BusMemo.introduce s).1
  pending := .none
  origin := s
  plans := []

/-- The steps of the plan that would be made now. -/
def nextSteps (c : Chronicle) : List BusStep := (c.memo.advance c.network c.pending).2

/-- One action. -/
def act (c : Chronicle) : Action → Chronicle
  | .update u =>
    { c with
      network := (c.network.update u).1
      pending := c.pending.union (c.network.update u).2 }
  | .plan =>
    { c with
      memo := (c.memo.advance c.network c.pending).1
      pending := .none
      plans := c.plans ++ [⟨c.network, c.nextSteps⟩] }

/-- Actions, one after the other. -/
def actAll (c : Chronicle) (actions : List Action) : Chronicle := actions.foldl act c

/-- The network of the last plan, or the one that was introduced. -/
def announced (c : Chronicle) : Network :=
  (c.plans.getLast?.map Announcement.network).getD c.origin

/-- What was carried out on the bus since the introduction, in order. -/
def steps (c : Chronicle) : List BusStep :=
  (BusMemo.introduce c.origin).2 ++ c.plans.flatMap Announcement.steps

/-- A chronicle that starts with any network and takes any course. -/
def ofRun (filter : LinkFilter) (setup : List Update) (actions : List Action) : Chronicle :=
  (start ((Network.empty filter).updateAll setup)).actAll actions

/-- The memory fits the announced network, the network of the moment came out of it, and the changes
that were reported cover all that happened. -/
structure Faithful (filter : LinkFilter) (c : Chronicle) : Prop where
  /-- The planner remembers the announced network. -/
  memo_eq : c.memo = .remember c.announced
  /-- The network of the moment came out of the announced one. -/
  succession : Network.Succession filter c.announced c.network
  /-- Without a change the network is still the announced one. -/
  network_eq : c.pending.isEmpty = true → c.network = c.announced

end Chronicle

/-- A union is empty only if both parts are. -/
theorem Changes.isEmpty_union {a b : Changes} (h : (a.union b).isEmpty = true) :
    a.isEmpty = true ∧ b.isEmpty = true := by
  obtain ⟨hlist, hroutes⟩ := isEmpty_iff.1 h
  rw [routes_union, Bool.or_eq_false_iff] at hroutes
  have hnone : ∀ i, i ∉ a.toList ∧ i ∉ b.toList := by
    intro i
    have hi : i ∉ (a.union b).toList := by simp [hlist]
    rwa [mem_toList_union, not_or] at hi
  exact ⟨isEmpty_iff.2 ⟨List.eq_nil_iff_forall_not_mem.2 fun i => (hnone i).1, hroutes.1⟩,
    isEmpty_iff.2 ⟨List.eq_nil_iff_forall_not_mem.2 fun i => (hnone i).2, hroutes.2⟩⟩

namespace Chronicle

variable {filter : LinkFilter} {c : Chronicle}

/-- Planning announces the network of the moment. -/
@[simp] theorem announced_plan (c : Chronicle) : (c.act .plan).announced = c.network := by
  simp [act, announced]

/-- Planning adds the steps of the plan. -/
@[simp] theorem steps_plan (c : Chronicle) : (c.act .plan).steps = c.steps ++ c.nextSteps := by
  simp [act, steps]

/-- Without a change nothing is planned. -/
theorem nextSteps_of_isEmpty (h : c.pending.isEmpty = true) : c.nextSteps = [] := by
  rw [nextSteps, BusMemo.advance, if_pos h]

namespace Faithful

/-- A chronicle starts in order. -/
theorem start {s : Network} (h : s.Consistent filter) : Faithful filter (Chronicle.start s) :=
  ⟨rfl, .refl h, fun _ => rfl⟩

/-- What is planned on a change leads from the announced network to that of the moment. -/
theorem nextSteps_eq (h : c.Faithful filter) (hchanged : c.pending.isEmpty = false) :
    ∃ indices : List UInt32, indices.Nodup ∧
      (∀ i, i ∈ indices ↔
        (∃ d, c.announced.device? i = some d) ∨ ∃ d, c.network.device? i = some d) ∧
      c.nextSteps = indices.flatMap (c.announced.block c.network) ++
        c.announced.overviewBlock c.network := by
  obtain ⟨indices, hnodup, hmem, hadvance⟩ :=
    c.announced.advance_remember c.network hchanged
  refine ⟨indices, hnodup, hmem, ?_⟩
  rw [nextSteps, h.memo_eq, hadvance]

/-- Every action leaves a chronicle in order. -/
theorem act (h : c.Faithful filter) (a : Action) : (c.act a).Faithful filter := by
  cases a with
  | update u =>
    refine ⟨h.memo_eq, h.succession.update u, fun hempty => ?_⟩
    obtain ⟨hpending, hreported⟩ := Changes.isEmpty_union hempty
    change (c.network.update u).1 = c.announced
    rw [h.succession.after.update_of_isEmpty hreported, h.network_eq hpending]
  | plan =>
    refine ⟨?_, ?_, fun _ => c.announced_plan.symm⟩
    · rw [announced_plan]
      change (c.memo.advance c.network c.pending).1 = _
      cases hchanged : c.pending.isEmpty with
      | true => rw [BusMemo.advance, if_pos hchanged, h.memo_eq, h.network_eq hchanged]
      | false =>
        obtain ⟨_, _, _, hadvance⟩ := c.announced.advance_remember c.network hchanged
        rw [h.memo_eq, hadvance]
    · rw [announced_plan]
      exact .refl h.succession.after

/-- A chronicle is in order at all times. -/
theorem actAll (h : c.Faithful filter) (actions : List Action) :
    (c.actAll actions).Faithful filter :=
  List.foldlRecOn actions _ h fun _ hmid a _ => hmid.act a

/-- Every chronicle of an actual network is in order. -/
theorem ofRun (filter : LinkFilter) (setup : List Update) (actions : List Action) :
    (Chronicle.ofRun filter setup actions).Faithful filter :=
  (start ((Network.consistent_empty filter).updateAll setup)).actAll actions

end Faithful

/-- Whatever holds of every introduction and is kept by every action of a chronicle in order, holds
of every chronicle. -/
theorem ofRun_induction {motive : Chronicle → Prop} (filter : LinkFilter)
    (hstart : ∀ s : Network, s.Consistent filter → motive (start s))
    (hact : ∀ (c : Chronicle) (a : Action), c.Faithful filter → motive c → motive (c.act a))
    (setup : List Update) (actions : List Action) : motive (ofRun filter setup actions) := by
  have hconsistent := (Network.consistent_empty filter).updateAll setup
  have hboth : (ofRun filter setup actions).Faithful filter ∧
      motive (ofRun filter setup actions) :=
    List.foldlRecOn (motive := fun c => c.Faithful filter ∧ motive c) actions act
      ⟨.start hconsistent, hstart _ hconsistent⟩
      fun c ⟨hfaithful, hc⟩ a _ => ⟨hfaithful.act a, hact c a hfaithful hc⟩
  exact hboth.2

end Chronicle

end LinkBus
