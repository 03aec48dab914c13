import LinkBus.Proofs.Chronicle.Periods

/-!
# The announced states of a connection

While the object of a connection is registered, the state that was told of it last is the state of
the connection. How its end is told depends on what becomes of the device. If the device stays, the
connection is told to be deactivating and deactivated before its object is unregistered. If the
device disappears or gets another medium or number, the object is unregistered and nothing is told.
-/

namespace LinkBus

/-- What is told of a connection: its state, and why. -/
structure ConnectionNews where
  /-- The state that the connection is in now. -/
  state : ActiveState
  /-- Why it is in this state. -/
  reason : ActiveReason
  deriving DecidableEq, Repr

namespace ConnectionNews

/-- Whether the connection is told to end. -/
def isEnding (x : ConnectionNews) : Bool := x.state == .deactivating || x.state == .deactivated

/-- What is told of a connection that its device has lost. -/
def ending : List ConnectionNews :=
  [⟨.deactivating, .deviceDisconnected⟩, ⟨.deactivated, .deviceDisconnected⟩]

/-- What is told of the connection of a device that stays, from its old state to its new one. -/
def passage : Option ActiveState → Option ActiveState → List ConnectionNews
  | some _, none => ending
  | old, some new => if old = some new then [] else [⟨new, .none⟩]
  | none, none => []

/-- The state that was told last, or the first state if nothing was told. -/
def lastState (first : Option ActiveState) (told : List ConnectionNews) : Option ActiveState :=
  (told.getLast?.map state).or first

/-- What was told of a connection since its first state, while it lasts. -/
structure Lasting (first : Option ActiveState) (told : List ConnectionNews)
    (now : Option ActiveState) : Prop where
  /-- The connection was not told to end. -/
  unended : ∀ x ∈ told, x.isEnding = false
  /-- The state that was told last is the one of the connection. -/
  upToDate : lastState first told = now

namespace Lasting

variable {first old : Option ActiveState} {new : ActiveState} {told : List ConnectionNews}

/-- At first nothing needs to be told. -/
theorem refl (first : Option ActiveState) : Lasting first [] first :=
  ⟨fun _ hx => absurd hx List.not_mem_nil, rfl⟩

/-- A connection lasts while its state is told. -/
theorem concat (h : Lasting first told old) (hnew : new = .activating ∨ new = .activated)
    (reason : ActiveReason) : Lasting first (told ++ [⟨new, reason⟩]) (some new) := by
  refine ⟨fun x hx => ?_, by simp [lastState]⟩
  rcases List.mem_append.1 hx with hx | hx
  · exact h.unended x hx
  · obtain rfl := List.mem_singleton.1 hx
    rcases hnew with rfl | rfl <;> rfl

/-- A connection lasts on the passage to another state. -/
theorem append_passage (h : Lasting first told old)
    (hnew : new = .activating ∨ new = .activated) :
    Lasting first (told ++ passage old (some new)) (some new) := by
  by_cases hsame : old = some new
  · subst hsame
    simpa [passage] using h
  · have hpassage : passage old (some new) = [⟨new, .none⟩] := by
      cases old with
      | none => rfl
      | some state => exact if_neg hsame
    rw [hpassage]
    exact h.concat hnew .none

end Lasting

end ConnectionNews

/-- What a signal at a path tells of the state of a connection. -/
def Signal.connectionNews? (path : String) : Signal → Option ConnectionNews
  | activeStateChanged path' state reason => if path' = path then some ⟨state, reason⟩ else none
  | _ => none

/-- The state of a device's connection, if there is one. -/
def Device.connectionState (d : Device) : Option ActiveState := d.active.map ActiveConnection.state

/-- A connection that is shown is about to be activated or is activated. -/
theorem Device.IsShown.connectionState {d : Device} (h : d.IsShown) {state : ActiveState}
    (hstate : d.connectionState = some state) : state = .activating ∨ state = .activated := by
  obtain ⟨s, i, hd⟩ := h
  obtain ⟨_, link, number, _, _, rfl⟩ :=
    Network.device_eq_ok_iff.1 (Network.device?_eq_some_iff.1 hd)
  obtain ⟨active, hactive, rfl⟩ := Option.map_eq_some_iff.1 hstate
  obtain ⟨_, hactive⟩ := Option.ite_none_right_eq_some.1 hactive
  rw [← Option.some.inj hactive, Network.activeConnection]
  split <;> simp

namespace Topic

/-- The states of the connection with a number. -/
def connectionStates (number : Nat) : Topic ConnectionNews where
  object := ⟨.activeConnection, number⟩
  told? := Signal.connectionNews? (PathKind.active.path number)
  state_of_told {signal a} h := by
    unfold Signal.connectionNews? at h
    split at h
    · obtain ⟨rfl, _⟩ := Option.ite_none_right_eq_some.1 h
      exact ⟨rfl, rfl⟩
    · cases h

variable {number : Nat} {d e : Device}

/-- A device has the object of a connection with its number while it has a connection. -/
theorem connectionStates_mem_busObjects (hd : d.WellFormed) :
    (connectionStates number).object ∈ d.busObjects ↔
      d.paths.number = number ∧ d.connectionState.isSome = true := by
  rw [Device.mem_busObjects, Device.connectionState, Option.isSome_map, hd.isSome_active]
  constructor
  · rintro ((h | h) | ⟨hconnected, h⟩)
    · cases h
    · cases h
    · have hnumber := DeviceMemo.number_of_mem_connectionObjects h
      exact ⟨hnumber.symm, hconnected⟩
  · rintro ⟨rfl, hconnected⟩
    exact Or.inr ⟨hconnected, by simp [connectionStates, DeviceMemo.connectionObjects]⟩

/-- A signal about the state of the connection is told. -/
theorem connectionStates_told_emit (he : e.WellFormed) (hnumber : e.paths.number = number)
    (state : ActiveState) (reason : ActiveReason) (rest : List BusStep) :
    (connectionStates number).told
        (.emit (.activeStateChanged (DeviceMemo.ofDevice e).paths.active state reason) :: rest) =
      ⟨state, reason⟩ :: (connectionStates number).told rest := by
  have hpath : (DeviceMemo.ofDevice e).paths.active = PathKind.active.path number := by
    change e.paths.active = _
    rw [he.paths_eq, hnumber]
    rfl
  have hone : (connectionStates number).told?
      (.activeStateChanged (PathKind.active.path number) state reason) = some ⟨state, reason⟩ :=
    if_pos rfl
  rw [hpath, told_emit_cons, hone]
  rfl

/-- A new device tells the state of the connection that it comes with. -/
theorem connectionStates_told_arrivalSignals (he : e.WellFormed)
    (hnumber : e.paths.number = number) :
    (connectionStates number).told (DeviceMemo.ofDevice e).arrivalSignals =
      ConnectionNews.passage none e.connectionState := by
  unfold DeviceMemo.arrivalSignals Device.connectionState DeviceMemo.ofDevice
  cases hactive : e.active with
  | none => rfl
  | some active => exact connectionStates_told_emit he hnumber active.state .none []

/-- A device that stays tells the passage of its connection. -/
theorem connectionStates_told_passageSignals (he : e.WellFormed) (hnumber : e.paths.number = number)
    (condition : DeviceCondition) :
    (connectionStates number).told
        ((DeviceMemo.ofDevice d).passageSignals (.ofDevice e) condition) =
      ConnectionNews.passage d.connectionState e.connectionState := by
  have hstates : ∀ path reason old states,
      (connectionStates number).told (DeviceMemo.stateSignals path reason old states) = [] := by
    intro path reason old states
    refine told_eq_nil fun step hstep => ?_
    obtain ⟨_, _, rfl⟩ := DeviceMemo.mem_stateSignals hstep
    exact ⟨_, rfl, rfl⟩
  have hemit : ∀ state reason rest, (connectionStates number).told
      (.emit (.activeStateChanged e.paths.active state reason) :: rest) =
        ⟨state, reason⟩ :: (connectionStates number).told rest :=
    connectionStates_told_emit he hnumber
  rw [DeviceMemo.passageSignals, told_append, hstates, List.nil_append]
  unfold DeviceMemo.activeSignals Device.connectionState DeviceMemo.ofDevice
  cases d.active with
  | none =>
    cases e.active with
    | none => rfl
    | some new => exact hemit new.state .none []
  | some old =>
    cases e.active with
    | none =>
      change (connectionStates number).told [.emit _, .emit _] = ConnectionNews.ending
      rw [hemit, hemit]
      rfl
    | some new =>
      change (connectionStates number).told (if some old.state = some new.state then [] else _) =
        if some old.state = some new.state then [] else _
      split
      · rfl
      · exact hemit new.state .none []

/-- The states of a connection go on while it lasts. At its end it may be told to end or not. -/
theorem connectionStates_course (number : Nat) :
    (connectionStates number).Course
      (fun first told d => ConnectionNews.Lasting first.connectionState told d.connectionState)
      (fun first told => ∃ before last, ConnectionNews.Lasting first.connectionState before last ∧
        (told = before ∨ told = before ++ ConnectionNews.ending)) := by
  -- A device that has the object has a connection, which is not about to end.
  have hstate : ∀ {e : Device}, e.IsShown → (connectionStates number).object ∈ e.busObjects →
      e.paths.number = number ∧ ∃ state, e.connectionState = some state ∧
        (state = .activating ∨ state = .activated) := by
    intro e he hoe
    obtain ⟨hnumber, hsome⟩ := (connectionStates_mem_busObjects he.wellFormed).1 hoe
    obtain ⟨state, hstate⟩ := Option.isSome_iff_exists.1 hsome
    exact ⟨hnumber, state, hstate, he.connectionState hstate⟩
  have hnone : ∀ {d : Device}, d.IsShown → d.paths.number = number →
      (connectionStates number).object ∉ d.busObjects → d.connectionState = none := by
    intro d hd hnumber hod
    rw [connectionStates_mem_busObjects hd.wellFormed] at hod
    simpa [hnumber] using hod
  have hbegins : ∀ {state : ActiveState}, state = .activating ∨ state = .activated →
      ConnectionNews.Lasting (some state) (ConnectionNews.passage none (some state)) (some state) :=
    fun hactive => (ConnectionNews.Lasting.refl _).concat hactive .none
  constructor
  case introduced =>
    intro e he hoe
    exact .refl e.connectionState
  case appears =>
    intro e he hoe
    obtain ⟨hnumber, state, hstate, hactive⟩ := hstate he hoe
    rw [connectionStates_told_arrivalSignals he.wellFormed hnumber, hstate]
    exact hbegins hactive
  case gains =>
    intro d e hd he hnumber hmedium hod hoe
    obtain ⟨hnumber', state, hstate, hactive⟩ := hstate he hoe
    rw [connectionStates_told_passageSignals he.wellFormed hnumber', hstate,
      hnone hd (hnumber.trans hnumber') hod]
    exact hbegins hactive
  case stays =>
    intro first d e told hd he hnumber hmedium hod hoe hgoes
    obtain ⟨hnumber', state, hstate, hactive⟩ := hstate he hoe
    rw [connectionStates_told_passageSignals he.wellFormed hnumber', hstate]
    exact hgoes.append_passage hactive
  case loses =>
    intro first d e told hd he hnumber hmedium hod hoe hgoes
    obtain ⟨hnumber', state, hstate, _⟩ := hstate hd hod
    have hnumber'' : e.paths.number = number := hnumber.symm.trans hnumber'
    rw [connectionStates_told_passageSignals he.wellFormed hnumber'', hstate,
      hnone he hnumber'' hoe]
    exact ⟨told, d.connectionState, hgoes, Or.inr rfl⟩
  case disappears =>
    intro first d told hd hod hgoes
    exact ⟨told, d.connectionState, hgoes, Or.inl rfl⟩

end Topic

/-! ## What becomes of a connection in a plan -/

namespace ConnectionNews

/-- The news of a connection whose device stays. -/
def ofPassage (s : Network) :
    Option ActiveState → Option ActiveState → List (ObjectNews ConnectionNews)
  | none, none => []
  | none, some new => [.registered s, .told ⟨new, .none⟩]
  | some old, some new => if old = new then [] else [.told ⟨new, .none⟩]
  | some _, none => ending.map .told ++ [.unregistered]

/-- The news of a connection between its device before and after. The connection of a device that
gets another medium or disappears leaves without a word, and that of a device that appears comes as
a new one. -/
def between (s : Network) (before after : Option Device) : List (ObjectNews ConnectionNews) :=
  let old := before.bind Device.connectionState
  let new := after.bind Device.connectionState
  if before.map Device.medium = after.map Device.medium then ofPassage s old new
  else (if old.isSome then [.unregistered] else []) ++ ofPassage s none new

/-- Without a device that stays, the old connection leaves and the new one comes. -/
theorem between_of_not_kept (s : Network) {before after : Option Device}
    (h : ∀ d ∈ before, ∀ e ∈ after, d.medium ≠ e.medium) :
    between s before after =
      (if (before.bind Device.connectionState).isSome then [.unregistered] else []) ++
        ofPassage s none (after.bind Device.connectionState) := by
  cases before with
  | none => exact ite_self _
  | some d =>
    refine if_neg ?_
    cases after with
    | none => exact Option.some_ne_none _
    | some e => exact fun hmedium => h d rfl e rfl (Option.some.inj hmedium)

end ConnectionNews

namespace Device

variable {number : Nat} {d : Device}

/-- A device, if it has a number. -/
def numbered? (number : Nat) (d : Option Device) : Option Device :=
  d.filter fun d => decide (d.paths.number = number)

/-- Without a device there is none with the number. -/
theorem numbered?_none (number : Nat) : numbered? number none = none := rfl

/-- A device with the number is kept. -/
theorem numbered?_of_eq (h : d.paths.number = number) : numbered? number (some d) = some d := by
  simp [numbered?, h]

/-- A device with another number is left out. -/
theorem numbered?_of_ne (h : d.paths.number ≠ number) : numbered? number (some d) = none := by
  simp [numbered?, h]

end Device

namespace DeviceMemo

variable {s : Network} {d e : Device}

/-- The news of a connection from a device that appears. -/
theorem connectionNews_appear (he : e.WellFormed) (number : Nat) :
    (Topic.connectionStates number).news s (ofDevice e).appear =
      ConnectionNews.ofPassage s none
        ((Device.numbered? number (some e)).bind Device.connectionState) := by
  by_cases hnumber : e.paths.number = number
  · rw [Device.numbered?_of_eq hnumber, Option.bind_some, news_appear he,
      Topic.connectionStates_told_arrivalSignals he hnumber]
    simp only [Topic.connectionStates_mem_busObjects he, hnumber, true_and]
    cases e.connectionState <;> rfl
  · rw [Device.numbered?_of_ne hnumber]
    exact Topic.news_eq_nil_of_isAbout
      (fun _ => isAbout_appear (a := .ofDevice e) he.paths_eq) hnumber

/-- The news of a connection from a device that disappears. -/
theorem connectionNews_disappear (hd : d.WellFormed) (number : Nat) :
    (Topic.connectionStates number).news s (ofDevice d).disappear =
      if ((Device.numbered? number (some d)).bind Device.connectionState).isSome then
        [.unregistered] else [] := by
  by_cases hnumber : d.paths.number = number
  · rw [Device.numbered?_of_eq hnumber, Option.bind_some, news_disappear hd]
    simp only [Topic.connectionStates_mem_busObjects hd, hnumber, true_and]
  · rw [Device.numbered?_of_ne hnumber]
    exact Topic.news_eq_nil_of_isAbout
      (fun _ => isAbout_disappear (a := .ofDevice d) hd.paths_eq) hnumber

/-- The news of a connection from a device that stays. -/
theorem connectionNews_stay (hd : d.WellFormed) (he : e.WellFormed)
    (hsame : d.paths.number = e.paths.number) (hmedium : d.medium = e.medium)
    (condition : DeviceCondition) (number : Nat) :
    (Topic.connectionStates number).news s ((ofDevice d).stay (ofDevice e) condition) =
      ConnectionNews.between s (Device.numbered? number (some d))
        (Device.numbered? number (some e)) := by
  by_cases hnumber : e.paths.number = number
  · have hkept : ConnectionNews.between s (some d) (some e) =
        ConnectionNews.ofPassage s d.connectionState e.connectionState :=
      if_pos (congrArg some hmedium)
    rw [Device.numbered?_of_eq hnumber, Device.numbered?_of_eq (hsame.trans hnumber), hkept,
      news_stay hd he hsame hmedium, Topic.connectionStates_told_passageSignals he hnumber]
    simp only [Topic.connectionStates_mem_busObjects hd, Topic.connectionStates_mem_busObjects he,
      hsame, hnumber, true_and]
    cases d.connectionState with
    | none => cases e.connectionState <;> rfl
    | some old =>
      cases e.connectionState with
      | none => rfl
      | some new =>
        simp only [Option.isSome_some, not_true_eq_false, false_and, and_false, if_false,
          ConnectionNews.passage, ConnectionNews.ofPassage, Option.some.injEq]
        split <;> rfl
  · rw [Device.numbered?_of_ne hnumber, Device.numbered?_of_ne (hsame.trans_ne hnumber)]
    exact Topic.news_eq_nil_of_isAbout
      (fun _ => isAbout_stay (b := .ofDevice e) hmedium he.paths_eq) hnumber

end DeviceMemo

namespace Network

variable {filter : LinkFilter} {s : Network} {number : Nat} {i : UInt32}

/-- The device with a number is that of the only interface that uses it, if it has this number. -/
theorem OnlyAt.deviceNumbered_eq (hs : s.Consistent filter) (hi : s.OnlyAt number i) :
    (s.deviceNumbered number).toOption = Device.numbered? number (s.device? i) := by
  have htoOption : ∀ d, (s.deviceNumbered number).toOption = some d ↔
      s.deviceNumbered number = .ok d := by
    intro d
    cases s.deviceNumbered number <;> simp [Except.toOption]
  refine Option.ext fun d => ?_
  rw [htoOption, hs.deviceNumbered_eq_ok_iff, Device.numbered?, Option.filter_eq_some_iff,
    decide_eq_true_iff]
  refine and_congr_left fun hnumber => ⟨fun hd => ?_, mem_devices_of_device?⟩
  rw [mem_devices_iff_device?] at hd
  rw [← hi d.index (by rw [number?_of_device? hd, hnumber]), hd]

/-- The news of a connection in the block of an interface are those between the devices with its
number that the interface has before and after. -/
theorem connectionNews_block (old new : Network) (number : Nat) (i : UInt32) :
    (Topic.connectionStates number).news new (old.block new i) =
      ConnectionNews.between new (Device.numbered? number (old.device? i))
        (Device.numbered? number (new.device? i)) := by
  unfold block
  cases hold : old.device? i with
  | none =>
    rw [Device.numbered?_none,
      ConnectionNews.between_of_not_kept new fun d hd => (Option.not_mem_none d hd).elim]
    cases hnew : new.device? i with
    | none => rfl
    | some e => exact DeviceMemo.connectionNews_appear (wellFormed_of_device? hnew) number
  | some d =>
    have hdform := wellFormed_of_device? hold
    cases hnew : new.device? i with
    | none =>
      rw [Device.numbered?_none,
        ConnectionNews.between_of_not_kept new fun _ _ e he => (Option.not_mem_none e he).elim]
      exact (DeviceMemo.connectionNews_disappear hdform number).trans (List.append_nil _).symm
    | some e =>
      have heform := wellFormed_of_device? hnew
      rw [Option.map_some, BusMemo.deviceSteps]
      split
      · next hstays =>
        exact DeviceMemo.connectionNews_stay hdform heform hstays.1 hstays.2 _ number
      · next hreplaced =>
        rw [Topic.news_append, DeviceMemo.connectionNews_disappear hdform,
          DeviceMemo.connectionNews_appear heform, ConnectionNews.between_of_not_kept new]
        intro d' hd' e' he' hmedium
        obtain ⟨hd', hnumber⟩ := Option.filter_eq_some_iff.1 hd'
        obtain ⟨he', hnumber'⟩ := Option.filter_eq_some_iff.1 he'
        cases hd'
        cases he'
        have hsame := (of_decide_eq_true hnumber).trans (of_decide_eq_true hnumber').symm
        exact hreplaced ⟨hsame, hmedium⟩

end Network

namespace Chronicle

/-- The news of a connection in a plan are those between the announced device with its number and
the one of the moment. -/
theorem Faithful.connectionNews_nextSteps {filter : LinkFilter} {c : Chronicle}
    (h : c.Faithful filter) (number : Nat) :
    (Topic.connectionStates number).news c.network c.nextSteps =
      ConnectionNews.between c.network (c.announced.deviceNumbered number).toOption
        (c.network.deviceNumbered number).toOption := by
  obtain ⟨i, hold, hnew⟩ := h.succession.exists_onlyAt number
  rw [h.news_nextSteps (t := Topic.connectionStates number) hold hnew,
    Network.connectionNews_block, hold.deviceNumbered_eq h.succession.before,
    hnew.deviceNumbered_eq h.succession.after]

/-- In every chronicle, the state that was told last of a registered connection is its state, the
one for which it was registered if nothing was told, and it was not told to end. When it is
unregistered, it either was told to be deactivating and then deactivated, or it was never told to
end. A plan tells both right before it unregisters the connection of a device that stays, and
nothing when the device disappears or gets another medium. -/
theorem connection_states_told (filter : LinkFilter) (setup : List Update) (actions : List Action)
    (number : Nat) :
    let c := ofRun filter setup actions
    let topic := Topic.connectionStates number
    (∀ p ∈ c.periods topic, ∃ first ∈ p.network.devices,
      first.paths.number = number ∧ first.connectionState.isSome = true ∧
      (p.ended = false → ∃ d ∈ c.announced.devices,
        d.paths.number = number ∧ d.connectionState.isSome = true ∧
        ConnectionNews.Lasting first.connectionState p.told d.connectionState) ∧
      (p.ended = true → ∃ before last,
        ConnectionNews.Lasting first.connectionState before last ∧
        (p.told = before ∨ p.told = before ++ ConnectionNews.ending))) ∧
    topic.news c.network c.nextSteps =
      ConnectionNews.between c.network (c.announced.deviceNumbered number).toOption
        (c.network.deviceNumbered number).toOption := by
  intro c topic
  have hobject : ∀ {s : Network} {d : Device}, d ∈ s.devices → topic.object ∈ d.busObjects →
      d.paths.number = number ∧ d.connectionState.isSome = true := by
    intro s d hd hod
    rw [Network.mem_devices_iff_device?] at hd
    exact (Topic.connectionStates_mem_busObjects (Network.wellFormed_of_device? hd)).1 hod
  refine ⟨fun p hp => ?_, (Faithful.ofRun filter setup actions).connectionNews_nextSteps number⟩
  obtain ⟨first, hfirst, hobjectFirst, hends, hgoes⟩ :=
    (Topic.connectionStates_course number).of_mem_periods hp
  obtain ⟨hnumber, hsome⟩ := hobject hfirst hobjectFirst
  refine ⟨first, hfirst, hnumber, hsome, fun hgoing => ?_, hends⟩
  obtain ⟨d, hd, hod, hlasting⟩ := hgoes hgoing
  obtain ⟨hnumber', hsome'⟩ := hobject hd hod
  exact ⟨d, hd, hnumber', hsome', hlasting⟩

/-- A chronicle in which a wired link with an address is told of, and is then deleted. -/
def deleted : Chronicle :=
  ofRun {} []
    [.update (.hear
      [.newLink
          { index := 2, name := some "eth0", layerType := 1, flags := 65539, oper := some .up },
        .newAddress { index := 2, address := .v4 0xc0000205, prefixLen := 24 }] 0 500), .plan,
      .update (.hear [.delLink { index := 2 }] 10 500)]

/-- The connection of a deleted link was told to be activated. The plan unregisters its object and
does not tell that it ended. -/
theorem deleted_connection_not_ended :
    let topic := Topic.connectionStates 1
    ((deleted.periods topic).map fun p => (p.told, p.ended)) = [([⟨.activated, .none⟩], false)] ∧
      .unregister topic.object ∈ deleted.nextSteps ∧ topic.told deleted.nextSteps = [] ∧
      (((deleted.act .plan).periods topic).map fun p => (p.told, p.ended)) =
        [([⟨.activated, .none⟩], true)] := by
  decide +kernel

end Chronicle

end LinkBus
