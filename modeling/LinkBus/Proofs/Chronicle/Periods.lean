import LinkBus.Proofs.Chronicle.Objects
import LinkBus.Proofs.Plan.Differences
import LinkBus.Proofs.Plan.News

/-!
# The periods of an object

Each registration of an object begins a period, which lasts until the object is unregistered. What
holds of the periods of an object in every chronicle follows from what holds of one device at a
time: of a device that has the object and appears, stays or disappears.
-/

namespace LinkBus

/-- A time during which an object is registered. -/
structure Period (α : Type) where
  /-- The network for which the object was registered. -/
  network : Network
  /-- What was told of the object since then, in order. -/
  told : List α
  /-- Whether the object was unregistered again. -/
  ended : Bool

namespace Period

variable {α : Type}

/-- The periods of an object after one more piece of news; the latest period comes first. -/
def extend : List (Period α) → ObjectNews α → List (Period α)
  | periods, .registered s => ⟨s, [], false⟩ :: periods
  | p :: rest, .told a => (if p.ended then p else { p with told := p.told ++ [a] }) :: rest
  | p :: rest, .unregistered => { p with ended := true } :: rest
  | [], _ => []

/-- While a period lasts, it takes up all that is told. -/
theorem foldl_extend_told (s : Network) (told more : List α) (rest : List (Period α)) :
    (more.map ObjectNews.told).foldl extend (⟨s, told, false⟩ :: rest) =
      ⟨s, told ++ more, false⟩ :: rest := by
  induction more generalizing told with
  | nil => rw [List.append_nil]; rfl
  | cons a more ih =>
    rw [List.map_cons, List.foldl_cons, extend, if_neg Bool.false_ne_true, ih, List.append_assoc,
      List.singleton_append]

/-- What is told between periods belongs to none. -/
theorem foldl_extend_told_of_ended {periods : List (Period α)}
    (h : ∀ p ∈ periods, p.ended = true) (more : List α) :
    (more.map ObjectNews.told).foldl extend periods = periods := by
  induction more with
  | nil => rfl
  | cons a more ih =>
    have hone : extend periods (.told a) = periods := by
      cases periods with
      | nil => rfl
      | cons p rest => rw [extend, if_pos (h p List.mem_cons_self)]
    rw [List.map_cons, List.foldl_cons, hone, ih]

end Period

/-- Some network shows the device. -/
def Device.IsShown (d : Device) : Prop := ∃ (s : Network) (i : UInt32), s.device? i = some d

/-- A device that is shown is well formed. -/
theorem Device.IsShown.wellFormed {d : Device} (h : d.IsShown) : d.WellFormed := by
  obtain ⟨_, _, hd⟩ := h
  exact Network.wellFormed_of_device? hd

namespace Topic

variable {α : Type} {t : Topic α}

/-- What goes on in the periods of an object, device by device. A period goes on from the device
that the object was registered for to the one that has it now, and when it ends all has been
told. -/
structure Course (t : Topic α) (GoesOn : Device → List α → Device → Prop)
    (Ends : Device → List α → Prop) : Prop where
  /-- A period begins with an introduction, where nothing is told. -/
  introduced {e : Device} (he : e.IsShown) (hoe : t.object ∈ e.busObjects) : GoesOn e [] e
  /-- A period begins with a device that appears. -/
  appears {e : Device} (he : e.IsShown) (hoe : t.object ∈ e.busObjects) :
    GoesOn e (t.told (DeviceMemo.ofDevice e).arrivalSignals) e
  /-- A period begins with a device that stays and gets the object. -/
  gains {d e : Device} (hd : d.IsShown) (he : e.IsShown) (hnumber : d.paths.number = e.paths.number)
    (hmedium : d.medium = e.medium) (hod : t.object ∉ d.busObjects)
    (hoe : t.object ∈ e.busObjects) :
    GoesOn e (t.told ((DeviceMemo.ofDevice d).passageSignals (.ofDevice e) e.condition)) e
  /-- A period goes on with a device that stays and keeps the object. -/
  stays {first d e : Device} {told : List α} (hd : d.IsShown) (he : e.IsShown)
    (hnumber : d.paths.number = e.paths.number) (hmedium : d.medium = e.medium)
    (hod : t.object ∈ d.busObjects) (hoe : t.object ∈ e.busObjects) (h : GoesOn first told d) :
    GoesOn first
      (told ++ t.told ((DeviceMemo.ofDevice d).passageSignals (.ofDevice e) e.condition)) e
  /-- A period ends with a device that stays and loses the object. -/
  loses {first d e : Device} {told : List α} (hd : d.IsShown) (he : e.IsShown)
    (hnumber : d.paths.number = e.paths.number) (hmedium : d.medium = e.medium)
    (hod : t.object ∈ d.busObjects) (hoe : t.object ∉ e.busObjects) (h : GoesOn first told d) :
    Ends first
      (told ++ t.told ((DeviceMemo.ofDevice d).passageSignals (.ofDevice e) e.condition))
  /-- A period ends with a device that disappears. -/
  disappears {first d : Device} {told : List α} (hd : d.IsShown) (hod : t.object ∈ d.busObjects)
    (h : GoesOn first told d) : Ends first told

variable {GoesOn : Device → List α → Device → Prop} {Ends : Device → List α → Prop}

/-- A period is over and went its course. -/
def IsOver (t : Topic α) (Ends : Device → List α → Prop) (p : Period α) : Prop :=
  p.ended = true ∧ ∃ first ∈ p.network.devices, t.object ∈ first.busObjects ∧ Ends first p.told

/-- All periods of an object went their course up to the device that has the object now, if there is
one: then the latest period goes on, otherwise all are over. -/
inductive Tracks (t : Topic α) (GoesOn : Device → List α → Device → Prop)
    (Ends : Device → List α → Prop) : Option Device → List (Period α) → Prop
  | absent {periods : List (Period α)} (hover : ∀ p ∈ periods, t.IsOver Ends p) :
      Tracks t GoesOn Ends none periods
  | present {s : Network} {told : List α} {first d : Device} {rest : List (Period α)}
      (hfirst : first ∈ s.devices) (hobject : t.object ∈ first.busObjects)
      (hgoes : GoesOn first told d) (hover : ∀ p ∈ rest, t.IsOver Ends p) :
      Tracks t GoesOn Ends (some d) (⟨s, told, false⟩ :: rest)

/-- A device, if it has the object. -/
def holder? (t : Topic α) (d : Option Device) : Option Device :=
  d.filter fun d => decide (t.object ∈ d.busObjects)

/-- A device that has the object holds it. -/
theorem holder?_of_mem {d : Device} (h : t.object ∈ d.busObjects) :
    t.holder? (some d) = some d := by
  simp [holder?, h]

/-- A device that does not have the object does not hold it. -/
theorem holder?_of_not_mem {d : Device} (h : t.object ∉ d.busObjects) :
    t.holder? (some d) = none := by
  simp [holder?, h]

namespace Tracks

variable {periods : List (Period α)} {s : Network} {i : UInt32} {d e : Device}

/-- What is told while no device has the object changes nothing. -/
theorem told (h : t.Tracks GoesOn Ends none periods) (more : List α) :
    t.Tracks GoesOn Ends none ((more.map ObjectNews.told).foldl Period.extend periods) := by
  cases h with
  | absent hover =>
    rw [Period.foldl_extend_told_of_ended fun p hp => (hover p hp).1]
    exact .absent hover

/-- A period begins. -/
theorem begin (h : t.Tracks GoesOn Ends none periods) (he : s.device? i = some e)
    (hoe : t.object ∈ e.busObjects) {more : List α} (hgoes : GoesOn e more e) :
    t.Tracks GoesOn Ends (some e)
      ((.registered s :: more.map ObjectNews.told).foldl Period.extend periods) := by
  cases h with
  | absent hover =>
    rw [List.foldl_cons, Period.extend, Period.foldl_extend_told, List.nil_append]
    exact .present (Network.mem_devices_of_device? he) hoe hgoes hover

/-- The latest period goes on while things are told. -/
theorem goOn (h : t.Tracks GoesOn Ends (some d) periods) {more : List α}
    (hgoes : ∀ {first told}, GoesOn first told d → GoesOn first (told ++ more) e) :
    t.Tracks GoesOn Ends (some e) ((more.map ObjectNews.told).foldl Period.extend periods) := by
  cases h with
  | present hfirst hobject hgoing hover =>
    rw [Period.foldl_extend_told]
    exact .present hfirst hobject (hgoes hgoing) hover

/-- The latest period ends after things are told. -/
theorem finish (h : t.Tracks GoesOn Ends (some d) periods) {more : List α}
    (hends : ∀ {first told}, GoesOn first told d → Ends first (told ++ more)) :
    t.Tracks GoesOn Ends none
      ((more.map ObjectNews.told ++ [ObjectNews.unregistered]).foldl Period.extend periods) := by
  cases h with
  | present hfirst hobject hgoing hover =>
    rw [List.foldl_append, Period.foldl_extend_told]
    refine .absent fun p hp => ?_
    rcases List.mem_cons.1 hp with rfl | hp
    · exact ⟨rfl, _, hfirst, hobject, hends hgoing⟩
    · exact hover p hp

end Tracks

namespace Course

variable {periods : List (Period α)} {s new : Network} {i : UInt32} {d e : Device}

/-- An introduction begins a period of an object that a device has. -/
theorem tracks_introduced (h : t.Course GoesOn Ends) (he : s.device? i = some e)
    (hoe : t.object ∈ e.busObjects) :
    t.Tracks GoesOn Ends (some e) ([ObjectNews.registered s].foldl Period.extend []) := by
  have hnone : t.Tracks GoesOn Ends none [] := .absent fun p hp => absurd hp List.not_mem_nil
  have hbegun := hnone.begin he hoe (h.introduced ⟨s, i, he⟩ hoe)
  exact hbegun

/-- A device that disappears ends the period of an object that it has. -/
theorem tracks_disappear (h : t.Course GoesOn Ends) (hd : d.IsShown)
    (hperiods : t.Tracks GoesOn Ends (t.holder? (some d)) periods) :
    t.Tracks GoesOn Ends none
      ((t.news new (DeviceMemo.ofDevice d).disappear).foldl Period.extend periods) := by
  rw [DeviceMemo.news_disappear hd.wellFormed]
  by_cases hod : t.object ∈ d.busObjects
  · rw [if_pos hod]
    rw [holder?_of_mem hod] at hperiods
    have hends : ∀ {first told}, GoesOn first told d → Ends first (told ++ []) := by
      intro first told hgoing
      rw [List.append_nil]
      exact h.disappears hd hod hgoing
    exact hperiods.finish hends
  · rw [if_neg hod]
    rwa [holder?_of_not_mem hod] at hperiods

/-- A device that appears begins a period of an object that it has. -/
theorem tracks_appear (h : t.Course GoesOn Ends) (he : new.device? i = some e)
    (hperiods : t.Tracks GoesOn Ends none periods) :
    t.Tracks GoesOn Ends (t.holder? (some e))
      ((t.news new (DeviceMemo.ofDevice e).appear).foldl Period.extend periods) := by
  have hshown : e.IsShown := ⟨new, i, he⟩
  rw [DeviceMemo.news_appear hshown.wellFormed]
  by_cases hoe : t.object ∈ e.busObjects
  · rw [if_pos hoe, holder?_of_mem hoe]
    exact hperiods.begin he hoe (h.appears hshown hoe)
  · rw [if_neg hoe, holder?_of_not_mem hoe]
    exact hperiods.told _

/-- A device that stays begins the period of an object that it gets, ends that of one that it loses,
and goes on with the others. -/
theorem tracks_stay (h : t.Course GoesOn Ends) (hd : d.IsShown) (he : new.device? i = some e)
    (hnumber : d.paths.number = e.paths.number) (hmedium : d.medium = e.medium)
    (hperiods : t.Tracks GoesOn Ends (t.holder? (some d)) periods) :
    t.Tracks GoesOn Ends (t.holder? (some e))
      ((t.news new ((DeviceMemo.ofDevice d).stay (.ofDevice e) e.condition)).foldl Period.extend
        periods) := by
  have hshown : e.IsShown := ⟨new, i, he⟩
  rw [DeviceMemo.news_stay hd.wellFormed hshown.wellFormed hnumber hmedium]
  by_cases hod : t.object ∈ d.busObjects
  · rw [holder?_of_mem hod] at hperiods
    by_cases hoe : t.object ∈ e.busObjects
    · rw [if_neg (by simp [hod]), if_neg (by simp [hoe]), holder?_of_mem hoe, List.nil_append,
        List.append_nil]
      exact hperiods.goOn (h.stays hd hshown hnumber hmedium hod hoe)
    · rw [if_neg (by simp [hod]), if_pos ⟨hod, hoe⟩, holder?_of_not_mem hoe, List.nil_append]
      exact hperiods.finish (h.loses hd hshown hnumber hmedium hod hoe)
  · rw [holder?_of_not_mem hod] at hperiods
    by_cases hoe : t.object ∈ e.busObjects
    · rw [if_pos ⟨hod, hoe⟩, if_neg (by simp [hod]), holder?_of_mem hoe, List.append_nil]
      exact hperiods.begin he hoe (h.gains hd hshown hnumber hmedium hod hoe)
    · rw [if_neg (by simp [hoe]), if_neg (by simp [hod]), holder?_of_not_mem hoe, List.nil_append,
        List.append_nil]
      exact hperiods.told _

/-- The block of an interface leads the periods from its old device to its new one. -/
theorem tracks_block (h : t.Course GoesOn Ends) {old : Network}
    (hperiods : t.Tracks GoesOn Ends (t.holder? (old.device? i)) periods) :
    t.Tracks GoesOn Ends (t.holder? (new.device? i))
      ((t.news new (old.block new i)).foldl Period.extend periods) := by
  cases hold : old.device? i with
  | none =>
    rw [hold] at hperiods
    rw [Network.block, hold]
    cases hnew : new.device? i with
    | none => exact hperiods
    | some e => exact h.tracks_appear hnew hperiods
  | some d =>
    rw [hold] at hperiods
    have hd : d.IsShown := ⟨old, i, hold⟩
    cases hnew : new.device? i with
    | none =>
      rw [Network.block, hold, hnew]
      exact h.tracks_disappear hd hperiods
    | some e =>
      rw [Network.block, hold, hnew, Option.map_some, BusMemo.deviceSteps]
      split
      · next hstays => exact h.tracks_stay hd hnew hstays.1 hstays.2 hperiods
      · rw [Topic.news_append, List.foldl_append]
        exact h.tracks_appear hnew (h.tracks_disappear hd hperiods)

end Course

end Topic

/-! ## Periods in a chronicle -/

namespace Network

variable {filter : LinkFilter} {s old new : Network} {number : Nat}

/-- No other interface than one uses a number. -/
def OnlyAt (s : Network) (number : Nat) (i : UInt32) : Prop :=
  ∀ j, s.numbering.number? j = some number → j = i

/-- At most one interface uses a number before and after. -/
theorem Succession.exists_onlyAt (h : Succession filter old new) (number : Nat) :
    ∃ i, old.OnlyAt number i ∧ new.OnlyAt number i := by
  by_cases hsome : ∃ i, old.Uses new i number
  · obtain ⟨i, hi⟩ := hsome
    exact ⟨i, fun j hj => h.uses_inj (Or.inl hj) hi, fun j hj => h.uses_inj (Or.inr hj) hi⟩
  · rw [not_exists] at hsome
    exact ⟨0, fun j hj => absurd (Or.inl hj) (hsome j), fun j hj => absurd (Or.inr hj) (hsome j)⟩

variable {α : Type} {t : Topic α}

/-- The device that has an object is that of the only interface that uses its number. -/
theorem OnlyAt.holder?_eq {i j : UInt32} (hi : s.OnlyAt t.object.number i)
    (hj : s.OnlyAt t.object.number j) : t.holder? (s.device? i) = t.holder? (s.device? j) := by
  by_cases hsame : i = j
  · rw [hsame]
  · have hnone : ∀ {k l}, k ≠ l → s.OnlyAt t.object.number l → t.holder? (s.device? k) = none := by
      intro k l hne hl
      rw [Topic.holder?, Option.filter_eq_none_iff]
      intro d hd hobject
      refine hne (hl k ?_)
      rw [number?_of_device? hd, Device.number_of_mem_busObjects (of_decide_eq_true hobject)]
    rw [hnone hsame hj, hnone (Ne.symm hsame) hi]

end Network

namespace Chronicle

variable {α : Type} {filter : LinkFilter} {c : Chronicle} {t : Topic α}

/-- All news of an object since the introduction. -/
def news (c : Chronicle) (t : Topic α) : List (ObjectNews α) :=
  t.news c.origin (BusMemo.introduce c.origin).2 ++
    c.plans.flatMap fun a => t.news a.network a.steps

/-- The periods of an object, the latest first. -/
def periods (c : Chronicle) (t : Topic α) : List (Period α) := (c.news t).foldl Period.extend []

/-- Planning brings news for the network of the moment. -/
theorem periods_plan (c : Chronicle) (t : Topic α) :
    (c.act .plan).periods t = (t.news c.network c.nextSteps).foldl Period.extend (c.periods t) := by
  simp [periods, news, act]

/-- The news of an object in a plan are those of the block of the only interface that uses its
number. -/
theorem Faithful.news_nextSteps (h : c.Faithful filter) {i : UInt32}
    (hold : c.announced.OnlyAt t.object.number i) (hnew : c.network.OnlyAt t.object.number i) :
    t.news c.network c.nextSteps = t.news c.network (c.announced.block c.network i) := by
  cases hchanged : c.pending.isEmpty with
  | true =>
    have hblock : c.announced.block c.announced i = [] := (Network.block_eq_nil_iff _ _ _).2 rfl
    rw [nextSteps_of_isEmpty hchanged, h.network_eq hchanged, hblock]
  | false =>
    obtain ⟨indices, hnodup, hmem, hsteps⟩ := h.nextSteps_eq hchanged
    have honly : ∀ j, c.announced.Uses c.network j t.object.number → j = i := by
      rintro j (hj | hj)
      · exact hold j hj
      · exact hnew j hj
    rw [hsteps, Topic.news_append, Network.news_overviewBlock, List.append_nil,
      Network.news_flatMap honly hnodup]
    split
    · rfl
    · next hi =>
      rw [hmem, not_or, not_exists, not_exists] at hi
      rw [Network.block, Option.eq_none_iff_forall_ne_some.2 hi.1,
        Option.eq_none_iff_forall_ne_some.2 hi.2]
      rfl

/-- The news of an object in a plan are those of the steps for the announced device that has its
number. -/
theorem Faithful.news_of_device (h : c.Faithful filter) {d : Device} (hd : d ∈ c.announced.devices)
    (hnumber : d.paths.number = t.object.number) :
    t.news c.network c.nextSteps = t.news c.network
      (BusMemo.deviceSteps (some (.ofDevice d)) (c.network.device? d.index)) := by
  rw [Network.mem_devices_iff_device?] at hd
  have huses : c.announced.numbering.number? d.index = some t.object.number := by
    rw [Network.number?_of_device? hd, hnumber]
  have hold : c.announced.OnlyAt t.object.number d.index :=
    fun j hj => h.succession.before.sound.number?_inj hj huses
  have hnew : c.network.OnlyAt t.object.number d.index :=
    fun j hj => (h.succession.number?_inj huses hj).symm
  rw [h.news_nextSteps hold hnew, Network.block, hd, Option.map_some]

/-- The news of an object in a plan are those of the steps for a device that stays. -/
theorem Faithful.news_of_stays (h : c.Faithful filter) {d e : Device}
    (hd : d ∈ c.announced.devices) (he : e ∈ c.network.devices)
    (hobject : d.paths.number = t.object.number) (hnumber : d.paths.number = e.paths.number)
    (hmedium : d.medium = e.medium) :
    t.news c.network c.nextSteps =
      t.news c.network ((DeviceMemo.ofDevice d).stay (.ofDevice e) e.condition) := by
  rw [h.news_of_device hd hobject]
  rw [Network.mem_devices_iff_device?] at hd he
  have hindex : d.index = e.index := by
    refine h.succession.number?_inj (Network.number?_of_device? hd) ?_
    rw [Network.number?_of_device? he, hnumber]
  rw [hindex, he, BusMemo.deviceSteps]
  simp only [DeviceMemo.number_ofDevice, DeviceMemo.medium_ofDevice, hnumber, hmedium, and_self,
    if_true]

/-- Of the state of an object a plan tells what the device that stays and its connection pass
through. -/
theorem Faithful.told_of_stays (h : c.Faithful filter) {d e : Device}
    (hd : d ∈ c.announced.devices) (he : e ∈ c.network.devices)
    (hobject : d.paths.number = t.object.number) (hnumber : d.paths.number = e.paths.number)
    (hmedium : d.medium = e.medium) :
    t.told c.nextSteps =
      t.told ((DeviceMemo.ofDevice d).passageSignals (.ofDevice e) e.condition) := by
  have hdform : d.WellFormed := Network.wellFormed_of_device? (Network.mem_devices_iff_device?.1 hd)
  have heform : e.WellFormed := Network.wellFormed_of_device? (Network.mem_devices_iff_device?.1 he)
  have hregistered : ∀ (condition : Prop) [Decidable condition] (x : ObjectNews α), x.told? = none →
      (if condition then [x] else []).filterMap ObjectNews.told? = [] := by
    intro condition _ x hx
    split <;> simp [hx]
  have htold : ∀ l : List α, (l.map ObjectNews.told).filterMap ObjectNews.told? = l := by
    intro l
    rw [List.filterMap_map]
    exact List.filterMap_some
  rw [t.told_eq_filterMap_news c.network, h.news_of_stays hd he hobject hnumber hmedium,
    DeviceMemo.news_stay hdform heform hnumber hmedium, List.filterMap_append,
    List.filterMap_append, htold, hregistered _ _ rfl, hregistered _ _ rfl, List.nil_append,
    List.append_nil]

end Chronicle

namespace Topic.Course

open Chronicle

variable {α : Type} {filter : LinkFilter} {t : Topic α}
  {GoesOn : Device → List α → Device → Prop} {Ends : Device → List α → Prop}

/-- An introduction begins the periods of the objects that the devices have. -/
theorem tracks_start (h : t.Course GoesOn Ends) {s : Network} (hs : s.Consistent filter)
    {i : UInt32} (hi : s.OnlyAt t.object.number i) :
    t.Tracks GoesOn Ends (t.holder? (s.device? i)) ((start s).periods t) := by
  have hperiods : (start s).periods t =
      (t.news s (BusMemo.introduce s).2).foldl Period.extend [] := by
    simp [periods, Chronicle.news, start]
  rw [hperiods, Network.introduce_eq, Topic.news_register (Network.nodup_introduced hs)]
  by_cases hobject : t.object ∈ s.introduced
  · obtain ⟨e, he, hoe⟩ := Network.mem_introduced.1 hobject
    rw [Network.mem_devices_iff_device?] at he
    have hindex : e.index = i := by
      refine hi _ ?_
      rw [Network.number?_of_device? he, Device.number_of_mem_busObjects hoe]
    rw [hindex] at he
    rw [if_pos hobject, he, Topic.holder?_of_mem hoe]
    exact h.tracks_introduced he hoe
  · have hnone : t.holder? (s.device? i) = none := by
      rw [Topic.holder?, Option.filter_eq_none_iff]
      intro e he hoe
      exact hobject (Network.mem_introduced.2
        ⟨e, Network.mem_devices_of_device? he, of_decide_eq_true hoe⟩)
    rw [if_neg hobject, hnone]
    exact .absent fun p hp => absurd hp List.not_mem_nil

/-- In every chronicle all periods of an object go their course. -/
theorem tracks_ofRun (h : t.Course GoesOn Ends) (filter : LinkFilter) (setup : List Update)
    (actions : List Action) {i : UInt32}
    (hi : (ofRun filter setup actions).announced.OnlyAt t.object.number i) :
    t.Tracks GoesOn Ends (t.holder? ((ofRun filter setup actions).announced.device? i))
      ((ofRun filter setup actions).periods t) := by
  revert i
  refine ofRun_induction (motive := fun c => ∀ {i}, c.announced.OnlyAt t.object.number i →
    t.Tracks GoesOn Ends (t.holder? (c.announced.device? i)) (c.periods t))
    filter ?_ ?_ setup actions
  · intro s hs i hi
    exact h.tracks_start hs hi
  · intro c a hfaithful hc i hi
    cases a with
    | update u => exact hc hi
    | plan =>
      obtain ⟨j, hold, hnew⟩ := hfaithful.succession.exists_onlyAt t.object.number
      rw [announced_plan] at hi ⊢
      rw [hi.holder?_eq hnew, periods_plan, hfaithful.news_nextSteps hold hnew]
      exact h.tracks_block (hc hold)

/-- Each period of an object went its course: from a device that had the object when it was
registered to its end or, if it goes on, to the device that has the object now. -/
theorem of_mem_periods (h : t.Course GoesOn Ends) {setup : List Update}
    {actions : List Action} {p : Period α} (hp : p ∈ (ofRun filter setup actions).periods t) :
    ∃ first ∈ p.network.devices, t.object ∈ first.busObjects ∧
      (p.ended = true → Ends first p.told) ∧
      (p.ended = false → ∃ d ∈ (ofRun filter setup actions).announced.devices,
        t.object ∈ d.busObjects ∧ GoesOn first p.told d) := by
  have hfaithful := Faithful.ofRun filter setup actions
  obtain ⟨i, hi, -⟩ := hfaithful.succession.exists_onlyAt t.object.number
  have htracks := h.tracks_ofRun filter setup actions hi
  generalize hdevice : t.holder? ((ofRun filter setup actions).announced.device? i) = d at htracks
  have hover : ∀ {q}, t.IsOver Ends q → ∃ first ∈ q.network.devices, t.object ∈ first.busObjects ∧
      (q.ended = true → Ends first q.told) ∧
      (q.ended = false → ∃ d ∈ (ofRun filter setup actions).announced.devices,
        t.object ∈ d.busObjects ∧ GoesOn first q.told d) := by
    rintro q ⟨hended, first, hfirst, hobject, hends⟩
    exact ⟨first, hfirst, hobject, fun _ => hends, fun hgoing => by simp [hended] at hgoing⟩
  generalize hlist : (ofRun filter setup actions).periods t = periods at htracks hp
  cases htracks with
  | absent hall => exact hover (hall p hp)
  | present hfirst hobject hgoes hall =>
    rcases List.mem_cons.1 hp with rfl | hp
    · obtain ⟨hd, hod⟩ := Option.filter_eq_some_iff.1 hdevice
      exact ⟨_, hfirst, hobject, fun hended => (nomatch hended), fun _ =>
        ⟨_, Network.mem_devices_of_device? hd, of_decide_eq_true hod, hgoes⟩⟩
    · exact hover (hall p hp)

end Topic.Course

end LinkBus
