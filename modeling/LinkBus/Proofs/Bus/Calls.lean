import LinkBus.Proofs.Bus.Commands

/-!
# Calls

Of all calls on the bus, those of five methods carry out commands, and no other call requests
anything. A desk serves the objects of a network to clients: in any order the network is updated,
plans are carried out, and clients call. At any time the commands of clients reach shown devices
only, and the calls leave no trace: the network, its numbers, the memory of what was announced and
the served objects are what they would be without them.
-/

namespace LinkBus.Bus

/-- A call on the bus is a command: it goes to an object that takes the command. -/
def Command.IsCall (t : Tree) (path interface member : String) (arguments : Body) :
    Command → Prop
  | disconnect number => ∃ o, t.served? path = some o ∧ o.number = number ∧
      .announced .device ∈ o.interfaces ∧ interface = PropertyInterface.device.name ∧
      member = "Disconnect"
  | activate connection device => path = managerPath ∧ interface = PropertyInterface.manager.name ∧
      member = "ActivateConnection" ∧
      ∃ object, arguments = [.path connection, .path device, .path object]
  | addAndActivate device => path = managerPath ∧ interface = PropertyInterface.manager.name ∧
      member = "AddAndActivateConnection" ∧
      ∃ settings object,
        arguments = [.dict .text (.dict .text .variant) settings, .path device, .path object]
  | deactivate active => path = managerPath ∧ interface = PropertyInterface.manager.name ∧
      member = "DeactivateConnection" ∧ arguments = [.path active]
  | enable up => path = managerPath ∧ interface = PropertyInterface.manager.name ∧
      member = "Enable" ∧ arguments = [.flag up]

variable {t : Tree} {c : Context} {control : LinkSwitch} {path interface member : String}
  {arguments : Body}

/-! ## Commands are carried out -/

/-- At a path the manager, the settings object or the object of a device is served. -/
theorem Tree.served?_cases {o : ServedObject} (h : t.served? path = some o) :
    (path = managerPath ∧ o = ⟨0, [.announced .manager]⟩) ∨
      (path = settingsPath ∧ o = ⟨0, [.announced .settings]⟩) ∨
      ∃ b ∈ t.objects, b.path = path ∧ o = ⟨b.number, interfacesOf b.role⟩ := by
  unfold Tree.served? at h
  split at h
  · next hpath => exact .inl ⟨hpath, (Option.some.inj h).symm⟩
  · split at h
    · next hpath => exact .inr (.inl ⟨hpath, (Option.some.inj h).symm⟩)
    · obtain ⟨b, hb, rfl⟩ := Option.map_eq_some_iff.1 h
      have hpath := List.find?_some hb
      exact .inr (.inr ⟨b, List.mem_of_find?_eq_some hb, beq_iff_eq.1 hpath, rfl⟩)

/-- Whatever is served has a node. -/
theorem Tree.hasNode_of_served? {o : ServedObject} (h : t.served? path = some o) :
    t.hasNode path = true := by
  simp only [hasNode, nodes, Bool.or_eq_true, List.contains_iff_mem, List.mem_append]
  right
  rcases served?_cases h with ⟨rfl, _⟩ | ⟨rfl, _⟩ | ⟨b, hb, rfl, _⟩
  · exact .inl (.inl List.mem_cons_self)
  · exact .inl (.inl (List.mem_cons_of_mem _ List.mem_cons_self))
  · exact .inr (List.mem_map_of_mem hb)

/-- The outcome of a method that may be missing. -/
def orUnknown (member : String) (reply : Option Response) : Response :=
  reply.getD (unknownMethod member)

/-- A call of an interface that is served at a path is answered by a method of it. -/
theorem Tree.call_of_served {o : ServedObject} {i : Interface} (hserved : t.served? path = some o)
    (hfind : (o.interfaces.find? fun j => j.name == i.name) = some i)
    (hcommon : i.name ∉ commonInterfaces objectManagerNode) :
    t.call c control path i.name member arguments =
      orUnknown member (i.method? c control o.number member arguments) := by
  have hproperties : i.name ≠ propertiesInterface :=
    fun h => hcommon (by simp [commonInterfaces, h])
  have hpeer : i.name ≠ peerInterface := fun h => hcommon (by simp [commonInterfaces, h])
  have hintrospectable : i.name ≠ introspectableInterface :=
    fun h => hcommon (by simp [commonInterfaces, h])
  have hmanager : i.name ≠ objectManagerInterface :=
    fun h => hcommon (by simp [commonInterfaces, h])
  have hmethod : t.method? c control path i.name member arguments =
      some (i.method? c control o.number member arguments) := by
    unfold Tree.method?
    rw [if_neg hproperties, if_neg hintrospectable, if_neg (fun h => hmanager h.1), hserved,
      Option.bind_some, hfind]
    rfl
  rw [Tree.call, if_neg hpeer, if_pos (hasNode_of_served? hserved), hmethod]
  cases i.method? c control o.number member arguments <;> rfl

/-- The manager answers every call to it. -/
theorem Tree.call_manager (t : Tree) (c : Context) (control : LinkSwitch) (member : String)
    (arguments : Body) :
    t.call c control managerPath PropertyInterface.manager.name member arguments =
      orUnknown member (managerMethod? c control member arguments) :=
  call_of_served (i := .announced .manager) rfl rfl (by decide)

/-- A device answers every call to it. -/
theorem Tree.call_device {o : ServedObject} (hserved : t.served? path = some o)
    (hdevice : .announced .device ∈ o.interfaces) :
    t.call c control path PropertyInterface.device.name member arguments =
      orUnknown member (deviceMethod? c control o.number member) := by
  refine call_of_served (i := .announced .device) hserved ?_ (by decide)
  rcases served?_cases hserved with ⟨_, rfl⟩ | ⟨_, rfl⟩ | ⟨b, _, _, rfl⟩
  · simp at hdevice
  · simp at hdevice
  · cases hrole : b.role <;> simp_all [interfacesOf]

/-- A look-up that fails as a bus error does so at once. -/
theorem ofFailable_mapError {α : Type} (found : Except LookupFault α) :
    Outcome.ofFailable (found.mapError LookupFault.toFailure) =
      .ofExcept (found.mapError fun fault => fault.toFailure.toBusError) := by
  cases found <;> rfl

/-- A command with one target turns it on or off and tells what there is to tell. -/
theorem Command.perform_of_found {command : Command} {found : Except LookupFault Device}
    (h : command.targets c = (indexOf found).map ([·])) :
    command.perform (fun _ => c) control .inTurn = (do
      let d ← .ofExcept (found.mapError fun fault => fault.toFailure.toBusError)
      switchLink c control d.index command.up
      .ofExcept (command.report c [d.index])) := by
  rw [perform, h]
  cases found with
  | error fault => rfl
  | ok d =>
    change (switchLink c control d.index command.up >>= fun _ => pure ()) >>= (fun _ => _) = _
    rw [bind_assoc]
    rfl

/-- Turning the device at a path on or off and telling of it. -/
theorem switchAt_tell (c : Context) (control : LinkSwitch) (path : String) (up : Bool)
    (tell : Device → Body) :
    (switchAt c control path up >>= fun d => pure (tell d)) = (do
      let d ← .ofExcept ((c.network.deviceAt path).mapError fun fault => fault.toFailure.toBusError)
      switchLink c control d.index up
      .ofExcept (((c.network.device d.index).mapError fun fault =>
        fault.toFailure.toBusError).map tell)) := by
  have htell : ∀ found : Except LookupFault Device,
      (Outcome.ofFailable (found.mapError LookupFault.toFailure) >>= fun d => pure (tell d)) =
        .ofExcept ((found.mapError fun fault => fault.toFailure.toBusError).map tell) := by
    rintro (_ | _) <;> rfl
  simp only [switchAt, resolve, bind_assoc, htell]
  rw [ofFailable_mapError]

/-- Turning several interfaces on or off in one network, one after the other. -/
theorem switchTargets_const (c : Context) (control : LinkSwitch) (up : Bool)
    (indices : List UInt32) :
    switchTargets (fun _ => c) control .inTurn up indices = switchEach c control up indices := by
  induction indices with
  | nil => rfl
  | cons index rest ih =>
    rw [switchTargets, switchEach, ih]
    rfl

/-- Calls of the five methods carry out commands. -/
theorem Command.call_eq_perform {command : Command}
    (h : command.IsCall t path interface member arguments) :
    t.call c control path interface member arguments =
      command.perform (fun _ => c) control .inTurn := by
  cases command with
  | disconnect number =>
    obtain ⟨o, hserved, rfl, hdevice, rfl, rfl⟩ := h
    rw [Tree.call_device hserved hdevice, perform_of_found rfl]
    rfl
  | activate connection device =>
    obtain ⟨rfl, rfl, rfl, object, rfl⟩ := h
    rw [Tree.call_manager, perform_of_found rfl]
    exact switchAt_tell c control _ true _
  | addAndActivate device =>
    obtain ⟨rfl, rfl, rfl, settings, object, rfl⟩ := h
    rw [Tree.call_manager, perform_of_found rfl]
    exact switchAt_tell c control _ true _
  | deactivate active =>
    obtain ⟨rfl, rfl, rfl, rfl⟩ := h
    rw [Tree.call_manager, perform_of_found rfl, ← ofFailable_mapError]
    rfl
  | enable up =>
    obtain ⟨rfl, rfl, rfl, rfl⟩ := h
    simp only [Tree.call_manager, perform, switchTargets_const]
    rfl

/-! ## Nothing else requests anything -/

/-- A reply without requests. -/
def IsQuiet (reply : Option Response) : Prop := ∀ r ∈ reply, r.requests = []

/-- Reading properties requests nothing. -/
theorem isQuiet_propertiesMethod? (t : Tree) (c : Context) (path member : String)
    (arguments : Body) : IsQuiet (t.propertiesMethod? c path member arguments) := by
  intro r hr
  unfold Tree.propertiesMethod? at hr
  repeat' split at hr
  all_goals cases hr <;> rfl

/-- The settings object requests nothing. -/
theorem isQuiet_settingsMethod? (c : Context) (member : String) (arguments : Body) :
    IsQuiet (settingsMethod? c member arguments) := by
  intro r hr
  unfold settingsMethod? at hr
  repeat' split at hr
  all_goals cases hr <;> rfl

/-- The settings of a connection request nothing. -/
theorem isQuiet_settingsConnectionMethod? (c : Context) (number : Nat) (member : String)
    (arguments : Body) : IsQuiet (settingsConnectionMethod? c number member arguments) := by
  intro r hr
  unfold settingsConnectionMethod? at hr
  repeat' split at hr
  all_goals cases hr <;> rfl

/-- The further interface of a wireless device requests nothing. -/
theorem isQuiet_wirelessMethod? (member : String) : IsQuiet (wirelessMethod? member) := by
  intro r hr
  unfold wirelessMethod? at hr
  repeat' split at hr
  all_goals cases hr <;> rfl

/-- Work that may fail, and goes on with the like, requests nothing. -/
theorem requests_ofFailable_bind {α β : Type} (found : Except Failure α) {next : α → Outcome β}
    (h : ∀ a, (next a).requests = []) : (Outcome.ofFailable found >>= next).requests = [] := by
  cases found with
  | error failure => rfl
  | ok a => exact h a

/-- A device requests nothing but to be turned off. -/
theorem deviceMethod?_cases {r : Response} {number : Nat}
    (h : deviceMethod? c control number member = some r) :
    r.requests = [] ∨ member = "Disconnect" := by
  unfold deviceMethod? at h
  split at h
  · exact .inr rfl
  all_goals cases h <;> exact .inl rfl

/-- The manager requests something only for one of its commands. -/
theorem managerMethod?_cases (t : Tree) {r : Response}
    (h : managerMethod? c control member arguments = some r) : r.requests = [] ∨
      ∃ command : Command,
        command.IsCall t managerPath PropertyInterface.manager.name member arguments := by
  unfold managerMethod? at h
  split at h
  case h_3 =>
    refine .inl ?_
    split at h
    · cases h
      exact requests_ofFailable_bind _ fun _ => requests_ofFailable_bind _ fun _ => rfl
    · cases h
      rfl
  case h_4 =>
    split at h
    · exact .inr ⟨.activate _ _, rfl, rfl, rfl, _, rfl⟩
    · cases h
      exact .inl rfl
  case h_5 =>
    split at h
    · exact .inr ⟨.addAndActivate _, rfl, rfl, rfl, _, _, rfl⟩
    · cases h
      exact .inl rfl
  case h_6 =>
    split at h
    · exact .inr ⟨.deactivate _, rfl, rfl, rfl, rfl⟩
    · cases h
      exact .inl rfl
  case h_7 =>
    split at h
    · exact .inr ⟨.enable _, rfl, rfl, rfl, rfl⟩
    · cases h
      exact .inl rfl
  all_goals cases h <;> exact .inl rfl

/-- A served object requests something only for a command. -/
theorem Interface.method?_cases {o : ServedObject} {i : Interface} {r : Response}
    (hserved : t.served? path = some o) (hi : i ∈ o.interfaces)
    (h : i.method? c control o.number member arguments = some r) : r.requests = [] ∨
      ∃ command : Command, command.IsCall t path i.name member arguments := by
  cases i with
  | settingsConnection => exact .inl (isQuiet_settingsConnectionMethod? _ _ _ _ r h)
  | announced interface =>
    cases interface with
    | manager =>
      rcases Tree.served?_cases hserved with ⟨rfl, _⟩ | ⟨_, rfl⟩ | ⟨b, _, _, rfl⟩
      · exact managerMethod?_cases t h
      · simp at hi
      · cases hrole : b.role <;> simp [hrole, interfacesOf] at hi
    | settings => exact .inl (isQuiet_settingsMethod? _ _ _ r h)
    | device =>
      rcases deviceMethod?_cases h with hquiet | rfl
      · exact .inl hquiet
      · exact .inr ⟨.disconnect o.number, o, hserved, rfl, hi, rfl, rfl⟩
    | specific medium =>
      cases medium with
      | wireless => exact .inl (isQuiet_wirelessMethod? _ r h)
      | wired => cases h
      | generic => cases h
    | ip4Config => cases h
    | ip6Config => cases h
    | activeConnection => cases h

/-- A call that is no command requests nothing. -/
theorem Tree.requests_call
    (h : ∀ command : Command, ¬ command.IsCall t path interface member arguments) :
    (t.call c control path interface member arguments).requests = [] := by
  unfold Tree.call
  split
  · split <;> rfl
  · split
    · split
      · rfl
      · rfl
      · next r hr =>
        unfold Tree.method? at hr
        split at hr
        · exact isQuiet_propertiesMethod? t c path member arguments r (Option.some.inj hr)
        · split at hr
          · cases hr
          · split at hr
            · split at hr <;> cases hr
              rfl
            · obtain ⟨o, hserved, hfind⟩ := Option.bind_eq_some_iff.1 hr
              obtain ⟨i, hi, hmethod⟩ := Option.map_eq_some_iff.1 hfind
              have hname : i.name = interface := beq_iff_eq.1 (List.find?_some hi :)
              subst hname
              rcases Interface.method?_cases hserved (List.mem_of_find?_eq_some hi) hmethod with
                hquiet | ⟨command, hcall⟩
              · exact hquiet
              · exact absurd hcall (h command)
    · rfl

/-! ## Desks -/

/-- What happens at a desk: the side of the network acts, or a client calls. -/
inductive Turn
  | act (a : Action)
  | call (path interface member : String) (arguments : Body)

/-- Whether a client calls. -/
def Turn.isCall : Turn → Bool
  | act _ => false
  | call .. => true

/-- A chronicle with the objects that are served, the files of the host, and the replies to all
calls so far. -/
structure Desk where
  /-- The network, what was announced of it, and what changed since. -/
  chronicle : Chronicle
  /-- The objects that are served. -/
  tree : Tree
  /-- The bytes of the host name file. -/
  hostname : Option (List UInt8)
  /-- The bytes of the resolver files. -/
  resolv : List (Option (List UInt8))
  /-- The replies to the calls so far. -/
  replies : List Response

namespace Desk

/-- What the served objects see. -/
def context (d : Desk) : Context := ⟨d.chronicle.network, d.hostname, d.resolv⟩

/-- A desk begins by serving all objects of what it sees. -/
def opened (c : Context) : Desk where
  chronicle := .start c.network
  tree := (Presence.introduce c).1.tree
  hostname := c.hostname
  resolv := c.resolv
  replies := []

/-- The reply to a call. -/
def reply (d : Desk) (control : LinkSwitch) (path interface member : String) (arguments : Body) :
    Response :=
  d.tree.call d.context control path interface member arguments

/-- One turn. A plan is carried out on the served objects. -/
def turn (control : LinkSwitch) (d : Desk) : Turn → Desk
  | .act (.update u) => { d with chronicle := d.chronicle.act (.update u) }
  | .act .plan =>
    { d with
      chronicle := d.chronicle.act .plan
      tree := (d.tree.carryOutAll d.context d.chronicle.nextSteps).1 }
  | .call path interface member arguments =>
    { d with replies := d.replies ++ [d.reply control path interface member arguments] }

/-- Turns, one after the other. -/
def turnAll (control : LinkSwitch) (d : Desk) (turns : List Turn) : Desk :=
  turns.foldl (turn control) d

/-- Two desks differ in nothing but the replies they gave. -/
structure SameButReplies (d d' : Desk) : Prop where
  /-- The network, the numbers, and the memory of what was announced are the same. -/
  chronicle : d.chronicle = d'.chronicle
  /-- The same objects are served. -/
  tree : d.tree = d'.tree
  /-- The host has the same name. -/
  hostname : d.hostname = d'.hostname
  /-- The resolver files are the same. -/
  resolv : d.resolv = d'.resolv

variable {control : LinkSwitch} {d d' : Desk}

/-- Desks that differ in replies alone do so after every act. -/
theorem SameButReplies.act (h : d.SameButReplies d') (a : Action) :
    (d.turn control (.act a)).SameButReplies (d'.turn control (.act a)) := by
  obtain ⟨chronicle, tree, hostname, resolv, replies⟩ := d
  obtain ⟨_, _, _, _, replies'⟩ := d'
  obtain ⟨rfl, rfl, rfl, rfl⟩ := h
  cases a <;> exact ⟨rfl, rfl, rfl, rfl⟩

/-- A call changes nothing but the replies. -/
theorem SameButReplies.call (h : d.SameButReplies d') (path interface member : String)
    (arguments : Body) :
    (d.turn control (.call path interface member arguments)).SameButReplies d' :=
  ⟨h.chronicle, h.tree, h.hostname, h.resolv⟩

/-- Calls leave no trace, at any time and in any number. -/
theorem SameButReplies.turnAll (h : d.SameButReplies d') (turns : List Turn) :
    (d.turnAll control turns).SameButReplies
      (d'.turnAll control (turns.filter fun t => !t.isCall)) := by
  induction turns generalizing d d' with
  | nil => exact h
  | cons t rest ih =>
    cases t with
    | act a => exact ih (h.act a)
    | call path interface member arguments => exact ih (h.call path interface member arguments)

/-- The network of a desk went through actions alone. -/
theorem consistent_turnAll {filter : LinkFilter} (h : d.chronicle.Faithful filter)
    (turns : List Turn) : (d.turnAll control turns).chronicle.network.Consistent filter := by
  have hfaithful : (d.turnAll control turns).chronicle.Faithful filter := by
    refine List.foldlRecOn (motive := fun d : Desk => d.chronicle.Faithful filter) turns _ h
      fun d hd t _ => ?_
    match t with
    | .act (.update u) => exact hd.act (.update u)
    | .act .plan => exact hd.act .plan
    | .call .. => exact hd
  exact hfaithful.succession.after

/-- At a desk that has taken any turns, commands are carried out in order, also if the desk takes
turns between the looks of a command at the network, and however the work on several interfaces
overlaps. A call of one of the five methods carries out its command, and every other call requests
nothing. No call leaves a trace but its reply. -/
theorem commands_reach_shown_devices (filter : LinkFilter) (setup : List Update)
    (hostname : Option (List UInt8)) (resolv : List (Option (List UInt8))) (control : LinkSwitch) :
    let after (turns : List Turn) : Desk :=
      (opened ⟨(Network.empty filter).updateAll setup, hostname, resolv⟩).turnAll control turns
    (∀ (moments : Look → List Turn) (overlap : Overlap) (command : Command),
      command.Orderly (fun l => (after (moments l)).context) control overlap) ∧
    (∀ turns path interface member arguments,
      let d := after turns
      (∀ command : Command, command.IsCall d.tree path interface member arguments →
        d.reply control path interface member arguments =
          command.perform (fun _ => d.context) control .inTurn) ∧
      ((∀ command : Command, ¬ command.IsCall d.tree path interface member arguments) →
        (d.reply control path interface member arguments).requests = [])) ∧
    ∀ turns, (after turns).SameButReplies (after (turns.filter fun t => !t.isCall)) := by
  intro after
  have hconsistent : ∀ turns, (after turns).chronicle.network.Consistent filter :=
    consistent_turnAll (.start ((Network.consistent_empty filter).updateAll setup))
  refine ⟨fun moments overlap command => ?_, fun turns path interface member arguments => ?_,
    fun turns => ?_⟩
  · exact command.orderly (fun l => hconsistent (moments l)) control overlap
  · exact ⟨fun command hcall => command.call_eq_perform hcall, Tree.requests_call⟩
  · exact SameButReplies.turnAll ⟨rfl, rfl, rfl, rfl⟩ turns

end Desk

end LinkBus.Bus
