import LinkBus.Proofs.Chronicle.Mirror
import LinkBus.Proofs.Network.Hiding

/-!
# Links that are not served leave no trace on the bus

What is announced depends on nothing but the devices and the overview. These are the same without
the links that are never served, so leaving out all events about such links changes no plan, even if
fewer changes are reported then and fewer plans are made.
-/

namespace LinkBus

/-- An action without the events about hidden links. -/
def Action.without (hidden : UInt32 → Bool) : Action → Action
  | update u => .update (u.without hidden)
  | plan => .plan

/-- The update that an action is, if it is one. -/
def Action.update? : Action → Option Update
  | update u => some u
  | plan => none

namespace BusMemo

variable {s t : Network}

/-- The memory depends on the devices and the overview only. -/
theorem remember_congr (hdevices : s.devices = t.devices) (hoverview : s.overview = t.overview) :
    remember s = remember t := by
  simp only [remember, hdevices, hoverview]

/-- What is announced depends on the devices and the overview only. -/
theorem advance_congr (hdevices : s.devices = t.devices) (hoverview : s.overview = t.overview)
    (memo : BusMemo) (changes : Changes) : memo.advance s changes = memo.advance t changes := by
  simp only [advance, deviceTable, remember_congr hdevices hoverview, hdevices, hoverview]

/-- What is announced does not depend on which changes are reported, as long as there are any. -/
theorem advance_eq_of_isEmpty_eq_false {a b : Changes} (ha : a.isEmpty = false)
    (hb : b.isEmpty = false) (memo : BusMemo) (s : Network) :
    memo.advance s a = memo.advance s b := by
  simp only [advance, ha, hb]

end BusMemo

namespace Chronicle

/-- One action, where a plan is made only if a change was reported since the last one. -/
def actOnChange (c : Chronicle) : Action → Chronicle
  | .update u => c.act (.update u)
  | .plan => if c.pending.isEmpty then c else c.act .plan

/-- A chronicle that starts with any network and in which plans are made on changes. -/
def ofRunOnChange (filter : LinkFilter) (setup : List Update) (actions : List Action) :
    Chronicle :=
  actions.foldl actOnChange (start ((Network.empty filter).updateAll setup))

/-- The plans that have any steps, in order. -/
def effectivePlans (c : Chronicle) : List (List BusStep) :=
  (c.plans.map Announcement.steps).filter fun steps => !steps.isEmpty

variable {filter : LinkFilter} {hidden : UInt32 → Bool} {c d : Chronicle}

namespace Faithful

/-- What is planned does not depend on what is reported to have changed. -/
theorem nextSteps_eq_advance (h : c.Faithful filter) :
    c.nextSteps = (c.memo.advance c.network (Changes.none.addRoutes)).2 := by
  cases hchanged : c.pending.isEmpty with
  | false => exact congrArg Prod.snd (BusMemo.advance_eq_of_isEmpty_eq_false hchanged rfl _ _)
  | true =>
    let alerted : Chronicle := { c with pending := Changes.none.addRoutes }
    have halerted : alerted.Faithful filter :=
      ⟨h.memo_eq, h.succession, fun hempty => by cases hempty⟩
    have hnone : alerted.nextSteps = [] := by
      rw [halerted.nextSteps_eq_nil_iff]
      change (∀ i, (c.network.device? i).map Device.appearance =
          (c.announced.device? i).map Device.appearance) ∧
        c.network.overview.properties = c.announced.overview.properties ∧
        c.network.overview.connectionsProperty = c.announced.overview.connectionsProperty
      rw [h.network_eq hchanged]
      exact ⟨fun _ => rfl, rfl, rfl⟩
    rw [nextSteps_of_isEmpty hchanged]
    exact hnone.symm

/-- A chronicle stays in order if plans are made on changes only. -/
theorem actOnChange (h : c.Faithful filter) (a : Action) :
    (c.actOnChange a).Faithful filter := by
  cases a with
  | update u => exact h.act (.update u)
  | plan =>
    rw [Chronicle.actOnChange]
    split
    · exact h
    · exact h.act .plan

/-- Every chronicle of an actual network in which plans are made on changes is in order. -/
theorem ofRunOnChange (filter : LinkFilter) (setup : List Update) (actions : List Action) :
    (Chronicle.ofRunOnChange filter setup actions).Faithful filter :=
  List.foldlRecOn actions _ (start ((Network.consistent_empty filter).updateAll setup))
    fun _ hmid a _ => hmid.actOnChange a

/-- When it was time for a plan, the network of the moment is remembered. -/
theorem memo_plan (h : c.Faithful filter) :
    (c.actOnChange .plan).memo = .remember c.network := by
  rw [Chronicle.actOnChange]
  split
  · next hempty => rw [h.memo_eq, h.network_eq hempty]
  · rw [(h.act .plan).memo_eq, announced_plan]

end Faithful

/-- When it was time for a plan, it counts if it has any steps. -/
theorem effectivePlans_plan :
    (c.actOnChange .plan).effectivePlans =
      c.effectivePlans ++ [c.nextSteps].filter fun steps => !steps.isEmpty := by
  rw [actOnChange]
  split
  · next hempty =>
    rw [nextSteps_of_isEmpty hempty]
    exact (List.append_nil _).symm
  · rw [effectivePlans, effectivePlans, ← List.filter_append]
    simp [act]

/-- Actions are taken one after the other. -/
theorem ofRunOnChange_concat (filter : LinkFilter) (setup : List Update) (actions : List Action)
    (a : Action) : ofRunOnChange filter setup (actions ++ [a]) =
      (ofRunOnChange filter setup actions).actOnChange a := by
  simp [ofRunOnChange]

/-- The network of a chronicle is what its updates made of it. -/
theorem network_ofRunOnChange (filter : LinkFilter) (setup : List Update) (actions : List Action) :
    (ofRunOnChange filter setup actions).network =
      (Network.empty filter).updateAll (setup ++ actions.filterMap Action.update?) := by
  induction actions using List.reverseRecOn with
  | nil => rw [List.filterMap_nil, List.append_nil]; rfl
  | append_singleton rest a ih =>
    rw [ofRunOnChange_concat, List.filterMap_append, ← List.append_assoc,
      Network.updateAll_append, ← ih]
    cases a with
    | update u => rfl
    | plan =>
      rw [actOnChange]
      split <;> rfl

/-- The network of an introduction is what the updates before it made. -/
theorem origin_ofRunOnChange (filter : LinkFilter) (setup : List Update) (actions : List Action) :
    (ofRunOnChange filter setup actions).origin = (Network.empty filter).updateAll setup := by
  refine List.foldlRecOn (motive := fun (c : Chronicle) =>
    c.origin = (Network.empty filter).updateAll setup) actions _ rfl fun c hc a _ => ?_
  cases a with
  | update u => exact hc
  | plan =>
    rw [actOnChange]
    split
    · exact hc
    · exact hc

/-- The updates among actions are the same whether events are left out of actions or of updates. -/
theorem filterMap_update?_without (hidden : UInt32 → Bool) (actions : List Action) :
    (actions.map (Action.without hidden)).filterMap Action.update? =
      (actions.filterMap Action.update?).map (Update.without hidden) := by
  rw [List.filterMap_map, List.map_filterMap]
  refine List.filterMap_congr fun a _ => ?_
  cases a <;> rfl

/-- A chronicle without the events about hidden links that are never served has the network without
them. -/
theorem network_without {setup : List Update} {actions : List Action}
    (h : Network.ServesNever filter hidden (setup ++ actions.filterMap Action.update?)) :
    (ofRunOnChange filter (setup.map (Update.without hidden))
      (actions.map (Action.without hidden))).network =
        (ofRunOnChange filter setup actions).network.without hidden := by
  rw [network_ofRunOnChange, network_ofRunOnChange, filterMap_update?_without, ← List.map_append,
    Network.updateAll_without h]

/-- Two chronicles whose networks differ in hidden links that are not served, with the same memory,
plan the same. -/
theorem Faithful.nextSteps_without (hc : c.Faithful filter) (hd : d.Faithful filter)
    (hnone : c.network.inventory.ServesNone hidden)
    (hnetwork : d.network = c.network.without hidden) (hmemo : d.memo = c.memo) :
    d.nextSteps = c.nextSteps := by
  rw [hd.nextSteps_eq_advance, hc.nextSteps_eq_advance, hnetwork, hmemo,
    BusMemo.advance_congr (Network.devices_without hnone) (Network.overview_without hnone)]

/-- A chronicle without the events about hidden links that are never served has the same memory and
the same plans. -/
theorem memo_effectivePlans_without {setup : List Update} {actions : List Action}
    (h : Network.ServesNever filter hidden (setup ++ actions.filterMap Action.update?)) :
    let c := ofRunOnChange filter setup actions
    let d := ofRunOnChange filter (setup.map (Update.without hidden))
      (actions.map (Action.without hidden))
    d.memo = c.memo ∧ d.effectivePlans = c.effectivePlans := by
  induction actions using List.reverseRecOn with
  | nil =>
    have hsetup : Network.ServesNever filter hidden setup := h.of_prefix (List.prefix_append _ _)
    have hnone := hsetup setup List.prefix_rfl
    refine ⟨?_, rfl⟩
    change BusMemo.remember _ = BusMemo.remember _
    rw [Network.updateAll_without hsetup,
      BusMemo.remember_congr (Network.devices_without hnone) (Network.overview_without hnone)]
  | append_singleton rest a ih =>
    have hprefix : setup ++ rest.filterMap Action.update? <+:
        setup ++ (rest ++ [a]).filterMap Action.update? := by
      rw [List.filterMap_append, ← List.append_assoc]
      exact List.prefix_append _ _
    have hrest := h.of_prefix hprefix
    obtain ⟨hmemo, hplans⟩ := ih hrest
    have hnetwork := network_without hrest
    have hnone : (ofRunOnChange filter setup rest).network.inventory.ServesNone hidden := by
      rw [network_ofRunOnChange]
      exact hrest _ List.prefix_rfl
    have hc := Faithful.ofRunOnChange filter setup rest
    have hd := Faithful.ofRunOnChange filter (setup.map (Update.without hidden))
      (rest.map (Action.without hidden))
    simp only [List.map_append, List.map_cons, List.map_nil, ofRunOnChange_concat]
    cases a with
    | update u => exact ⟨hmemo, hplans⟩
    | plan =>
      -- One of the two may see no change and make no plan. Then the other one has no steps.
      refine ⟨?_, ?_⟩
      · rw [Action.without, hd.memo_plan, hc.memo_plan, hnetwork,
          BusMemo.remember_congr (Network.devices_without hnone) (Network.overview_without hnone)]
      · rw [Action.without, effectivePlans_plan, effectivePlans_plan, hplans,
          hc.nextSteps_without hd hnone hnetwork hmemo]

/-- Take any run of a network in which some links are not served after any update, a planner that is
introduced to it at some moment, and plans that are made from then on at any moments where a change
was reported since the last one. The run without all events about those links has the same
introduction and the same plans that have any steps, in the same order. After every update the
devices, the overview and the numbers of all interfaces are the same. -/
theorem unserved_links_invisible (filter : LinkFilter) (hidden : UInt32 → Bool)
    (setup : List Update) (actions : List Action)
    (h : Network.ServesNever filter hidden (setup ++ actions.filterMap Action.update?)) :
    let c := ofRunOnChange filter setup actions
    let d := ofRunOnChange filter (setup.map (Update.without hidden))
      (actions.map (Action.without hidden))
    BusMemo.introduce d.origin = BusMemo.introduce c.origin ∧
      d.effectivePlans = c.effectivePlans ∧
      ∀ first, first <+: setup ++ actions.filterMap Action.update? →
        let s := (Network.empty filter).updateAll first
        let t := (Network.empty filter).updateAll (first.map (Update.without hidden))
        t.devices = s.devices ∧ t.overview = s.overview ∧ t.numbering = s.numbering := by
  intro c d
  have hviews : ∀ first, first <+: setup ++ actions.filterMap Action.update? →
      let s := (Network.empty filter).updateAll first
      let t := (Network.empty filter).updateAll (first.map (Update.without hidden))
      t.devices = s.devices ∧ t.overview = s.overview ∧ t.numbering = s.numbering := by
    intro first hfirst s t
    have hnetwork : t = s.without hidden := Network.updateAll_without (h.of_prefix hfirst)
    have hnone := h first hfirst
    rw [hnetwork]
    exact ⟨Network.devices_without hnone, Network.overview_without hnone, rfl⟩
  refine ⟨?_, (memo_effectivePlans_without h).2, hviews⟩
  obtain ⟨hdevices, hoverview, _⟩ := hviews setup (List.prefix_append _ _)
  rw [origin_ofRunOnChange, origin_ofRunOnChange, BusMemo.introduce, BusMemo.introduce,
    BusMemo.remember_congr hdevices hoverview, hdevices]

/-- An Ethernet link that is up, and leads everywhere. -/
def uplink : List Update :=
  [.deliver [.snapshot
    [.newLink { index := 2, name := some "eth0", layerType := 1, flags := 0x10003 },
      .newAddress { index := 2, address := .v4 0xc0a80102, prefixLen := 24 },
      .newRoute { family := .v4, oif := some 2, metric := 100 }]] 0 500]

/-- A tunnel that comes up, and leads everywhere by a better route. -/
def tunnelUp : Update :=
  .hear [.newLink { index := 3, name := some "wg0", layerType := 0xfffe, flags := 0x10003 },
    .newAddress { index := 3, address := .v4 0x0a080002, prefixLen := 24 },
    .newRoute { family := .v4, oif := some 3, metric := 50 }] 10 500

/-- A tunnel that comes up beside an Ethernet link is known then, with a route that is better than
that of the link, but it is invisible. -/
theorem unserved_links_invisible_tunnel :
    let hidden : UInt32 → Bool := (· == 3)
    let c := ofRunOnChange {} uplink [.update tunnelUp, .plan]
    let d := ofRunOnChange {} (uplink.map (Update.without hidden))
      [.update (tunnelUp.without hidden), .plan]
    Network.ServesNever {} hidden (uplink ++ [tunnelUp]) ∧
      (((Network.empty {}).updateAll (uplink ++ [tunnelUp])).inventory.link? 3).isSome = true ∧
      ((Network.empty {}).updateAll (uplink ++ [tunnelUp])).inventory.serves 2 = true ∧
      d.effectivePlans = c.effectivePlans ∧
      ((Network.empty {}).updateAll ((uplink ++ [tunnelUp]).map (Update.without hidden))).devices =
        ((Network.empty {}).updateAll (uplink ++ [tunnelUp])).devices := by
  intro hidden c d
  have hunserved : ∀ first ∈ (uplink ++ [tunnelUp]).inits,
      ((Network.empty {}).updateAll first).inventory.serves 3 = false := by decide
  have hnever : Network.ServesNever {} hidden (uplink ++ [tunnelUp]) := by
    intro first hfirst i hi
    rw [eq_of_beq hi]
    exact hunserved first (List.mem_inits _ _ |>.2 hfirst)
  obtain ⟨_, hplans, hviews⟩ := unserved_links_invisible {} hidden uplink [.update tunnelUp, .plan]
    hnever
  exact ⟨hnever, by decide, by decide, hplans, (hviews _ List.prefix_rfl).1⟩

end Chronicle

end LinkBus
