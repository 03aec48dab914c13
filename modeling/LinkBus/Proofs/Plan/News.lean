import LinkBus.Proofs.Device.Paths
import LinkBus.Proofs.Network.Transition
import LinkBus.Proofs.Plan.Objects

/-!
# News of one object

Whoever follows one object hears when it is registered and unregistered, and what signals tell of
its state. A block has such news only of objects that end in a number of its interface. No two
interfaces have a number in common, so all that a plan has to say about an object is said by a
single block.
-/

namespace LinkBus

/-- What becomes of an object: it is registered for a network, something is told of it, or it is
unregistered. -/
inductive ObjectNews (α : Type)
  | registered (s : Network)
  | told (a : α)
  | unregistered

/-- What a piece of news tells. -/
def ObjectNews.told? {α : Type} : ObjectNews α → Option α
  | told a => some a
  | _ => none

/-- Whether a signal tells the state of a device or of a connection. -/
def Signal.tellsState : Signal → Bool
  | deviceStateChanged .. | activeStateChanged .. => true
  | _ => false

/-- What is followed: an object, and what signals tell of its state. -/
structure Topic (α : Type) where
  /-- The object. -/
  object : BusObject
  /-- What a signal tells of its state. -/
  told? : Signal → Option α
  /-- Only signals about states at the path of the object tell of its state. -/
  state_of_told : ∀ {signal a}, told? signal = some a →
    signal.tellsState = true ∧ signal.subject.1 = object.path

/-- A step has to do with objects that end in a number. -/
def BusStep.IsAbout (number : Nat) : BusStep → Prop
  | register o | unregister o => o.number = number
  | emit signal => ∃ kind : PathKind, signal.subject.1 = kind.path number

namespace Topic

variable {α : Type} (t : Topic α) (s : Network)

/-- The news of a step. -/
def news? : BusStep → Option (ObjectNews α)
  | .register o => if o = t.object then some (.registered s) else none
  | .unregister o => if o = t.object then some .unregistered else none
  | .emit signal => (t.told? signal).map .told

/-- The news of steps that are made for a network. -/
def news (steps : List BusStep) : List (ObjectNews α) := steps.filterMap (t.news? s)

/-- What a step tells of the state of the object. -/
def toldBy? : BusStep → Option α
  | .emit signal => t.told? signal
  | _ => none

/-- What steps tell of the state of the object. -/
def told (steps : List BusStep) : List α := steps.filterMap t.toldBy?

variable {t s}

/-- Without a step there are no news. -/
@[simp] theorem news_nil : t.news s [] = [] := rfl

/-- The news of steps come one after the other. -/
@[simp] theorem news_append (first second : List BusStep) :
    t.news s (first ++ second) = t.news s first ++ t.news s second :=
  List.filterMap_append

/-- Steps have no news if none of them has any. -/
theorem news_eq_nil {steps : List BusStep} (h : ∀ step ∈ steps, t.news? s step = none) :
    t.news s steps = [] :=
  List.filterMap_eq_nil_iff.2 h

/-- The first signal is told first. -/
theorem told_emit_cons (signal : Signal) (rest : List BusStep) :
    t.told (.emit signal :: rest) = (t.told? signal).toList ++ t.told rest := by
  cases htold : t.told? signal <;> simp [told, toldBy?, htold]

/-- Steps tell one after the other. -/
@[simp] theorem told_append (first second : List BusStep) :
    t.told (first ++ second) = t.told first ++ t.told second :=
  List.filterMap_append

/-- Steps tell nothing if none of them does. -/
theorem told_eq_nil {steps : List BusStep}
    (h : ∀ step ∈ steps, ∃ signal, step = .emit signal ∧ t.told? signal = none) :
    t.told steps = [] := by
  refine List.filterMap_eq_nil_iff.2 fun step hstep => ?_
  obtain ⟨signal, rfl, hnone⟩ := h step hstep
  exact hnone

/-- Steps that are all signals tell and do nothing else. -/
theorem news_of_signals {steps : List BusStep} (h : ∀ step ∈ steps, ∃ signal, step = .emit signal) :
    t.news s steps = (t.told steps).map .told := by
  rw [news, told, List.map_filterMap]
  refine List.filterMap_congr fun step hstep => ?_
  obtain ⟨signal, rfl⟩ := h step hstep
  rfl

/-- What steps tell is part of their news. -/
theorem told_eq_filterMap_news (s : Network) (steps : List BusStep) :
    t.told steps = (t.news s steps).filterMap ObjectNews.told? := by
  rw [told, news, List.filterMap_filterMap]
  refine List.filterMap_congr fun step _ => ?_
  cases step with
  | register o =>
    simp only [toldBy?, news?]
    split <;> rfl
  | unregister o =>
    simp only [toldBy?, news?]
    split <;> rfl
  | emit signal =>
    simp only [toldBy?, news?]
    cases t.told? signal <;> rfl

/-- Of steps for different objects, the one for the object that is followed is news. -/
theorem news_map {step : BusObject → BusStep} {x : ObjectNews α}
    (hstep : ∀ o, t.news? s (step o) = if o = t.object then some x else none)
    {os : List BusObject} (hnodup : os.Nodup) :
    t.news s (os.map step) = if t.object ∈ os then [x] else [] := by
  induction os with
  | nil => rfl
  | cons o rest ih =>
    obtain ⟨ho, hrest⟩ := List.nodup_cons.1 hnodup
    rw [news] at ih ⊢
    rw [List.map_cons, List.filterMap_cons, hstep, ih hrest]
    by_cases hobject : o = t.object
    · subst hobject
      simp [ho]
    · simp [hobject, Ne.symm hobject]

/-- Of all objects that are registered, one is news. -/
theorem news_register {os : List BusObject} (hnodup : os.Nodup) :
    t.news s (os.map .register) = if t.object ∈ os then [.registered s] else [] :=
  news_map (fun _ => rfl) hnodup

/-- Of all objects that are unregistered, one is news. -/
theorem news_unregister {os : List BusObject} (hnodup : os.Nodup) :
    t.news s (os.map .unregister) = if t.object ∈ os then [.unregistered] else [] :=
  news_map (fun _ => rfl) hnodup

/-- Signals about anything else than states are no news. -/
theorem news?_emit_eq_none {signal : Signal} (h : signal.tellsState = false) :
    t.news? s (.emit signal) = none := by
  rw [news?, Option.map_eq_none_iff, Option.eq_none_iff_forall_ne_some]
  intro a ha
  rw [(t.state_of_told ha).1] at h
  cases h

/-- Only steps that have to do with the number of the object are news of it. -/
theorem news?_eq_none_of_isAbout {number : Nat} {step : BusStep} (h : step.IsAbout number)
    (hne : number ≠ t.object.number) : t.news? s step = none := by
  cases step with
  | register o => exact if_neg fun heq => hne (by rw [← h, heq])
  | unregister o => exact if_neg fun heq => hne (by rw [← h, heq])
  | emit signal =>
    rw [news?, Option.map_eq_none_iff, Option.eq_none_iff_forall_ne_some]
    intro a ha
    obtain ⟨kind, hkind⟩ := h
    rw [(t.state_of_told ha).2, BusObject.path, PathKind.path_inj] at hkind
    exact hne hkind.2.symm

/-- Steps that have to do with another number than that of the object have no news of it. -/
theorem news_eq_nil_of_isAbout {number : Nat} {steps : List BusStep}
    (h : ∀ step ∈ steps, step.IsAbout number) (hne : number ≠ t.object.number) :
    t.news s steps = [] :=
  news_eq_nil fun step hstep => news?_eq_none_of_isAbout (h step hstep) hne

end Topic

/-! ## What blocks are about -/

namespace DeviceMemo

variable {a b : DeviceMemo} {step : BusStep}

/-- The objects of a connection end in the number of the device. -/
theorem number_of_mem_connectionObjects {o : BusObject} (h : o ∈ a.connectionObjects) :
    o.number = a.number := by
  simp only [connectionObjects, List.mem_cons, List.not_mem_nil, or_false] at h
  rcases h with rfl | rfl | rfl <;> rfl

/-- All steps for a device that appears have to do with its number. -/
theorem isAbout_appear (hpaths : a.paths = .ofNumber a.number) (h : step ∈ a.appear) :
    step.IsAbout a.number := by
  simp only [appear, objects, List.map_append, List.mem_append, List.map_cons, List.map_nil,
    List.mem_cons, List.not_mem_nil, or_false, hpaths] at h
  rcases h with (((rfl | rfl) | h) | rfl | rfl) | h
  · rfl
  · rfl
  · obtain ⟨o, ho, rfl⟩ := List.mem_map.1 h
    exact number_of_mem_connectionObjects (List.mem_ite_nil_right.1 ho).2
  · exact ⟨.settings, rfl⟩
  · exact ⟨.device, rfl⟩
  · obtain ⟨_, _, rfl⟩ := List.mem_map.1 h
    exact ⟨.active, rfl⟩

/-- All steps for a device that disappears have to do with its number. -/
theorem isAbout_disappear (hpaths : a.paths = .ofNumber a.number) (h : step ∈ a.disappear) :
    step.IsAbout a.number := by
  simp only [disappear, List.mem_append, List.mem_cons, List.not_mem_nil, or_false, hpaths] at h
  rcases h with ((rfl | rfl) | h) | rfl | rfl
  · exact ⟨.device, rfl⟩
  · exact ⟨.settings, rfl⟩
  · obtain ⟨_, h⟩ := List.mem_ite_nil_right.1 h
    obtain ⟨o, ho, rfl⟩ := List.mem_map.1 h
    exact number_of_mem_connectionObjects ho
  · rfl
  · rfl

/-- All steps for a device that stays have to do with its number. -/
theorem isAbout_stay {condition : DeviceCondition} (hmedium : a.medium = b.medium)
    (hpaths : b.paths = .ofNumber b.number) (h : step ∈ a.stay b condition) :
    step.IsAbout b.number := by
  rw [stay_eq _ hmedium hpaths, List.mem_append, List.mem_append] at h
  rcases h with h | h | h
  · obtain ⟨_, h⟩ := List.mem_ite_nil_right.1 h
    obtain ⟨o, ho, rfl⟩ := List.mem_map.1 h
    exact number_of_mem_connectionObjects ho
  · rcases mem_staySignals hpaths h with
      ⟨_, _, _, rfl⟩ | ⟨_, _, _, rfl⟩ | ⟨role, _, _, _, _, _, hstep⟩
    · exact ⟨.device, rfl⟩
    · exact ⟨.active, rfl⟩
    · obtain ⟨_, rfl⟩ := mem_propertySignal.1 hstep
      exact ⟨role.pathKind, rfl⟩
  · obtain ⟨_, h⟩ := List.mem_ite_nil_right.1 h
    obtain ⟨o, ho, rfl⟩ := List.mem_map.1 h
    exact number_of_mem_connectionObjects ho

end DeviceMemo

namespace Network

variable {old new : Network} {i : UInt32} {step : BusStep}

/-- All steps of the block of an interface have to do with a number that the interface uses. -/
theorem exists_isAbout_of_mem_block (h : step ∈ old.block new i) :
    ∃ number, old.Uses new i number ∧ step.IsAbout number := by
  unfold block at h
  cases hold : old.device? i with
  | none =>
    cases hnew : new.device? i with
    | none =>
      rw [hold, hnew] at h
      cases h
    | some e =>
      rw [hold, hnew] at h
      exact ⟨_, Or.inr (number?_of_device? hnew),
        DeviceMemo.isAbout_appear (a := .ofDevice e) (wellFormed_of_device? hnew).paths_eq h⟩
  | some d =>
    have hdform := wellFormed_of_device? hold
    have huses : old.Uses new i d.paths.number := Or.inl (number?_of_device? hold)
    cases hnew : new.device? i with
    | none =>
      rw [hold, hnew] at h
      exact ⟨_, huses, DeviceMemo.isAbout_disappear (a := .ofDevice d) hdform.paths_eq h⟩
    | some e =>
      have heform := wellFormed_of_device? hnew
      have huses' : old.Uses new i e.paths.number := Or.inr (number?_of_device? hnew)
      rw [hold, hnew, Option.map_some, BusMemo.deviceSteps] at h
      split at h
      · next hstays =>
        exact ⟨_, huses', DeviceMemo.isAbout_stay (b := .ofDevice e) hstays.2 heform.paths_eq h⟩
      · rcases List.mem_append.1 h with h | h
        · exact ⟨_, huses, DeviceMemo.isAbout_disappear (a := .ofDevice d) hdform.paths_eq h⟩
        · exact ⟨_, huses', DeviceMemo.isAbout_appear (a := .ofDevice e) heform.paths_eq h⟩

variable {α : Type} {t : Topic α} {s : Network}

/-- The block of an interface that does not use the number of an object has no news of it. -/
theorem news_block_eq_nil (h : ¬ old.Uses new i t.object.number) :
    t.news s (old.block new i) = [] := by
  apply Topic.news_eq_nil
  intro step hstep
  obtain ⟨number, huses, habout⟩ := exists_isAbout_of_mem_block hstep
  exact Topic.news?_eq_none_of_isAbout habout fun heq => h (heq ▸ huses)

/-- The signals about the overview are no news of any object. -/
theorem news_overviewBlock (old new : Network) : t.news s (old.overviewBlock new) = [] := by
  apply Topic.news_eq_nil
  intro step hstep
  rcases OverviewMemo.mem_change.1 hstep with hstep | ⟨_, rfl⟩ | hstep
  · obtain ⟨_, rfl⟩ := DeviceMemo.mem_propertySignal.1 hstep
    exact Topic.news?_emit_eq_none rfl
  · exact Topic.news?_emit_eq_none rfl
  · obtain ⟨_, rfl⟩ := DeviceMemo.mem_propertySignal.1 hstep
    exact Topic.news?_emit_eq_none rfl

/-- Of several blocks only the one of the only interface that uses the number of an object has news
of it. -/
theorem news_flatMap (honly : ∀ j, old.Uses new j t.object.number → j = i) {indices : List UInt32}
    (hnodup : indices.Nodup) :
    t.news s (indices.flatMap (old.block new)) =
      if i ∈ indices then t.news s (old.block new i) else [] := by
  induction indices with
  | nil => rfl
  | cons j rest ih =>
    obtain ⟨hj, hrest⟩ := List.nodup_cons.1 hnodup
    rw [List.flatMap_cons, Topic.news_append, ih hrest]
    by_cases hi : i = j
    · subst hi
      rw [if_neg hj, if_pos List.mem_cons_self, List.append_nil]
    · rw [news_block_eq_nil fun huses => hi (honly j huses).symm, List.nil_append]
      simp only [List.mem_cons, hi, false_or]

end Network

/-! ## The news of a block -/

namespace DeviceMemo

/-- The signal about the state of the connection that a new device comes with. -/
def arrivalSignals (a : DeviceMemo) : List BusStep :=
  a.active.toList.map fun active =>
    .emit (.activeStateChanged a.paths.active active.1 .none)

/-- The signals about the states that a device that stays and its connection pass through. -/
def passageSignals (old new : DeviceMemo) (condition : DeviceCondition) : List BusStep :=
  stateSignals new.paths.device (condition.reason new.state) old.state
    (old.state.passage new.state) ++ activeSignals old new

variable {α : Type} {t : Topic α} {s : Network} {d e : Device}

/-- A device that appears has its objects registered, and then tells the state of its connection. -/
theorem news_appear (he : e.WellFormed) :
    t.news s (ofDevice e).appear =
      (if t.object ∈ e.busObjects then [.registered s] else []) ++
        (t.told (ofDevice e).arrivalSignals).map .told := by
  have hannounced : t.news s [.emit (.newConnection (ofDevice e).paths.settings),
      .emit (.deviceAdded (ofDevice e).paths.device)] = [] := by
    apply Topic.news_eq_nil
    intro step hstep
    simp only [List.mem_cons, List.not_mem_nil, or_false] at hstep
    rcases hstep with rfl | rfl <;> exact Topic.news?_emit_eq_none rfl
  have hsignals : t.news s (ofDevice e).arrivalSignals =
      (t.told (ofDevice e).arrivalSignals).map .told := by
    apply Topic.news_of_signals
    intro step hstep
    obtain ⟨_, _, rfl⟩ := List.mem_map.1 hstep
    exact ⟨_, rfl⟩
  rw [appear, Topic.news_append, Topic.news_append, Topic.news_register (nodup_objects _),
    hannounced, List.append_nil, ← arrivalSignals, hsignals]
  simp only [mem_objects he]

/-- A device that disappears has its objects unregistered, and tells nothing. -/
theorem news_disappear (hd : d.WellFormed) :
    t.news s (ofDevice d).disappear =
      if t.object ∈ d.busObjects then [.unregistered] else [] := by
  have hsignals : t.news s [.emit (.deviceRemoved (ofDevice d).paths.device),
      .emit (.connectionRemoved (ofDevice d).paths.settings)] = [] := by
    apply Topic.news_eq_nil
    intro step hstep
    simp only [List.mem_cons, List.not_mem_nil, or_false] at hstep
    rcases hstep with rfl | rfl <;> exact Topic.news?_emit_eq_none rfl
  rw [disappear_eq, Topic.news_append, hsignals, List.nil_append,
    Topic.news_unregister (nodup_departing _)]
  simp only [mem_departing, mem_objects hd]

/-- A device that stays has an object if it had it, unless the object belongs to a connection that
came or went. -/
theorem mem_connectionObjects_iff (hnumber : d.paths.number = e.paths.number)
    (hmedium : d.medium = e.medium) {o : BusObject} :
    (d.state.isConnected = false ∧ e.state.isConnected = true ∧ o ∈ (ofDevice e).connectionObjects
      ↔ o ∉ d.busObjects ∧ o ∈ e.busObjects) ∧
    (d.state.isConnected = true ∧ e.state.isConnected = false ∧ o ∈ (ofDevice e).connectionObjects
      ↔ o ∈ d.busObjects ∧ o ∉ e.busObjects) := by
  have hapart := ne_of_mem_connectionObjects (a := ofDevice e) (o := o)
  rw [mem_busObjects_of_eq hnumber hmedium, Device.mem_busObjects]
  cases d.state.isConnected <;> cases e.state.isConnected <;> simp only [Bool.false_eq_true] <;>
    tauto

/-- A device that stays has the objects of a new connection registered first and those of a lost one
unregistered last, and tells in between the states that it and its connection pass through. -/
theorem news_stay (hd : d.WellFormed) (he : e.WellFormed)
    (hnumber : d.paths.number = e.paths.number) (hmedium : d.medium = e.medium)
    (condition : DeviceCondition) :
    t.news s ((ofDevice d).stay (ofDevice e) condition) =
      (if t.object ∉ d.busObjects ∧ t.object ∈ e.busObjects then [.registered s] else []) ++
      (t.told ((ofDevice d).passageSignals (ofDevice e) condition)).map .told ++
      (if t.object ∈ d.busObjects ∧ t.object ∉ e.busObjects then [.unregistered] else []) := by
  have hnodup : (ofDevice e).connectionObjects.Nodup := by simp [connectionObjects]
  obtain ⟨hgains, hloses⟩ := mem_connectionObjects_iff (o := t.object) hnumber hmedium
  have hproperties : t.news s
      ((faces (ofDevice e).medium).flatMap ((ofDevice d).faceSignal (ofDevice e))) = [] := by
    apply Topic.news_eq_nil
    intro step hstep
    obtain ⟨f, _, hstep⟩ := List.mem_flatMap.1 hstep
    obtain ⟨_, _, _, _, hstep⟩ := mem_keptPropertySignal hstep
    obtain ⟨_, rfl⟩ := mem_propertySignal.1 hstep
    exact Topic.news?_emit_eq_none rfl
  have hsignals : t.news s ((ofDevice d).passageSignals (ofDevice e) condition) =
      (t.told ((ofDevice d).passageSignals (ofDevice e) condition)).map .told := by
    apply Topic.news_of_signals
    intro step hstep
    rcases List.mem_append.1 hstep with hstep | hstep
    · obtain ⟨_, _, rfl⟩ := mem_stateSignals hstep
      exact ⟨_, rfl⟩
    · obtain ⟨_, _, _, rfl⟩ := mem_activeSignals hstep
      exact ⟨_, rfl⟩
  have hregister : t.news s (if !d.state.isConnected && e.state.isConnected then
      (ofDevice e).connectionObjects.map .register else []) =
        if t.object ∉ d.busObjects ∧ t.object ∈ e.busObjects then [.registered s] else [] := by
    rw [← if_congr hgains rfl rfl]
    cases d.state.isConnected <;> cases e.state.isConnected <;>
      simp [Topic.news_register hnodup]
  have hunregister : t.news s (if d.state.isConnected && !e.state.isConnected then
      (ofDevice e).connectionObjects.map .unregister else []) =
        if t.object ∈ d.busObjects ∧ t.object ∉ e.busObjects then [.unregistered] else [] := by
    rw [← if_congr hloses rfl rfl]
    cases d.state.isConnected <;> cases e.state.isConnected <;>
      simp [Topic.news_unregister hnodup]
  rw [stay_eq _ hmedium he.paths_eq, staySignals, ← List.append_assoc (stateSignals _ _ _ _),
    ← passageSignals, isConnected_ofDevice hd, isConnected_ofDevice he]
  simp only [Topic.news_append, hregister, hunregister, hproperties, hsignals, List.append_assoc,
    List.nil_append]

end DeviceMemo

end LinkBus
