import LinkBus.Bus.Presence
import LinkBus.Proofs.Chronicle.Basic

/-!
# Commands

Five methods let a client turn devices on or off. Each of them finds its targets among the shown
devices, turns these on or off, and may then tell paths of the device. For each of these purposes
the network is looked at anew, and it may have changed in between. Where there are several targets,
the next one need not wait for the answer about the one before. Every request is for an interface
that was meant when the targets were looked for and was shown when it was checked, goes in the
direction of the command, and is the only one for its interface. Without a target nothing is
requested and the command fails, and it fails with every request that fails. No other call requests
anything, and no call touches the network or what is announced of it.
-/

namespace LinkBus.Bus

/-- Work in sequence can be grouped in any way, and work that does nothing can be left out. -/
instance : LawfulMonad Outcome := .mk' Outcome
  (fun x => by
    obtain ⟨requests, _ | a⟩ := x
    · rfl
    · simp [Functor.map, Outcome.andThen])
  (fun a f => by simp [bind, pure, Outcome.andThen])
  (fun x f g => by
    obtain ⟨requests, _ | a⟩ := x
    · rfl
    · cases h : (f a).result <;> simp [bind, Outcome.andThen, h, List.append_assoc])

/-! ## Commands and what they mean -/

/-- What a client can tell devices to do. -/
inductive Command
  | disconnect (number : Nat)
  | activate (connection device : String)
  | addAndActivate (device : String)
  | deactivate (active : String)
  | enable (up : Bool)
  deriving DecidableEq, Repr

/-- What a command looks at the network for: its targets, whether an interface is still shown, and
the paths to tell. -/
inductive Look
  | aim
  | check (index : UInt32)
  | report

/-- An object path names an interface: it ends in the number of the interface, which is shown. -/
def Names (s : Network) (path : String) (index : UInt32) : Prop :=
  ∃ number, numberOfPath? path = some number ∧ s.shows index = true ∧
    s.numbering.number? index = some number

/-- What is asked for a path or a number by the manager: the interface of the device. -/
def indexOf (found : Except LookupFault Device) : Except BusError UInt32 :=
  (found.mapError fun fault => fault.toFailure.toBusError).map Device.index

namespace Command

/-- Whether the command turns devices on. -/
def up : Command → Bool
  | disconnect _ | deactivate _ => false
  | activate .. | addAndActivate _ => true
  | enable up => up

/-- Whether the command is meant for one device, and not for all. -/
def hasTarget : Command → Bool
  | enable _ => false
  | _ => true

/-- Which interfaces are meant by a command. -/
def Means (s : Network) : Command → UInt32 → Prop
  | disconnect number, index => s.shows index = true ∧ s.numbering.number? index = some number
  | activate connection device, index => Names s (activationTarget device connection) index
  | addAndActivate device, index => Names s device index
  | deactivate active, index => Names s active index
  | enable _, index => s.shows index = true

/-- The interfaces that a command is carried out on. -/
def targets (c : Context) : Command → Except BusError (List UInt32)
  | disconnect number => (indexOf (c.network.deviceNumbered number)).map ([·])
  | activate connection device =>
    (indexOf (c.network.deviceAt (activationTarget device connection))).map ([·])
  | addAndActivate device => (indexOf (c.network.deviceAt device)).map ([·])
  | deactivate active => (indexOf (c.network.deviceAt active)).map ([·])
  | enable _ => .ok c.network.shown

/-- What the reply tells of the target. -/
def report (c : Context) : Command → List UInt32 → Except BusError Body
  | activate .., [index] =>
    (c.network.device index |>.mapError fun fault => fault.toFailure.toBusError).map fun d =>
      [.path d.paths.active]
  | addAndActivate _, [index] =>
    (c.network.device index |>.mapError fun fault => fault.toFailure.toBusError).map fun d =>
      [.path d.paths.settings, .path d.paths.active]
  | _, _ => .ok []

end Command

/-- How the work on several interfaces overlaps. -/
structure Overlap where
  /-- The next interface is not kept waiting for the outcome at this one. -/
  goesOn : UInt32 → Bool
  /-- A failure at this interface comes before those at the next ones. -/
  comesFirst : UInt32 → Bool

/-- Work in sequence: each interface waits for the outcome at the one before. -/
def Overlap.inTurn : Overlap := ⟨fun _ => false, fun _ => true⟩

/-- The outcome of work that overlaps. It fails with each of its parts. -/
def Outcome.beside (first second : Outcome Unit) (comesFirst : Bool) : Outcome Unit where
  requests := first.requests ++ second.requests
  result :=
    match first.result, second.result with
    | .ok (), result => result
    | .error error, .ok () => .error error
    | .error error, .error error' => .error (if comesFirst then error else error')

/-- Turns interfaces on or off, up to a failure that the next ones have waited for. Each is checked
in the network of its moment. -/
def switchTargets (look : Look → Context) (control : LinkSwitch) (overlap : Overlap) (up : Bool) :
    List UInt32 → Outcome Unit
  | [] => pure ()
  | index :: rest =>
    let own := switchLink (look (.check index)) control index up
    let others := switchTargets look control overlap up rest
    if overlap.goesOn index then own.beside others (overlap.comesFirst index)
    else own >>= fun _ => others

/-- Carries out a command. -/
def Command.perform (look : Look → Context) (control : LinkSwitch) (overlap : Overlap)
    (command : Command) : Response := do
  let targets ← .ofExcept (command.targets (look .aim))
  switchTargets look control overlap command.up targets
  .ofExcept (command.report (look .report) targets)

/-! ## Requests -/

section Requests

variable {look : Look → Context} {control : LinkSwitch} {overlap : Overlap} {up : Bool}

/-- Requests of work in sequence are those of the first part, and those of the second if the first
part succeeds. -/
theorem Outcome.requests_bind {α β : Type} (first : Outcome α) (next : α → Outcome β) :
    (first >>= next).requests =
      first.requests ++ match first.result with
        | .ok a => (next a).requests
        | .error _ => [] := by
  obtain ⟨requests, _ | a⟩ := first
  · exact (List.append_nil _).symm
  · rfl

/-- Work in sequence fails with its first part, and otherwise ends like its second part. -/
theorem Outcome.result_bind {α β : Type} (first : Outcome α) (next : α → Outcome β) :
    (first >>= next).result = match first.result with
        | .ok a => (next a).result
        | .error error => .error error := by
  obtain ⟨requests, _ | a⟩ := first <;> rfl

/-- An interface is turned on or off only if it is shown, and the outcome is that of the request. -/
theorem switchLink_cases (c : Context) (control : LinkSwitch) (index : UInt32) (up : Bool) :
    (c.network.shows index = true ∧ (switchLink c control index up).requests = [⟨index, up⟩] ∧
      (switchLink c control index up).result =
        (control ⟨index, up⟩).mapError Failure.toBusError) ∨
    (c.network.shows index = false ∧ (switchLink c control index up).requests = [] ∧
      ∃ error, (switchLink c control index up).result = .error error) := by
  unfold switchLink
  cases hshows : c.network.shows index with
  | true => exact .inl ⟨rfl, rfl, rfl⟩
  | false => exact .inr ⟨rfl, rfl, _, rfl⟩

/-- Work that overlaps fails with each of its parts. -/
theorem Outcome.exists_error_beside {first second : Outcome Unit} (comesFirst : Bool)
    (h : (∃ error, first.result = .error error) ∨ ∃ error, second.result = .error error) :
    ∃ error, (first.beside second comesFirst).result = .error error := by
  obtain ⟨_, _ | _⟩ := first
  · obtain ⟨_, _ | _⟩ := second <;> exact ⟨_, rfl⟩
  · obtain ⟨error, herror⟩ := h.resolve_left nofun
    exact ⟨error, herror⟩

/-- The requests are those for the first interface, and those for the others unless these have waited
for a failure. -/
theorem requests_switchTargets_cons (look : Look → Context) (control : LinkSwitch)
    (overlap : Overlap) (up : Bool) (index : UInt32) (rest : List UInt32) :
    (switchTargets look control overlap up (index :: rest)).requests =
      (switchLink (look (.check index)) control index up).requests ++
        if overlap.goesOn index || (switchLink (look (.check index)) control index up).result.isOk
        then (switchTargets look control overlap up rest).requests else [] := by
  rw [switchTargets]
  cases overlap.goesOn index with
  | true => rfl
  | false =>
    simp only [Bool.false_or, Bool.false_eq_true, if_false, Outcome.requests_bind]
    cases (switchLink (look (.check index)) control index up).result <;> rfl

/-- Each request is for an interface that was shown when it was checked. -/
theorem of_mem_switchTargets {indices : List UInt32} {r : LinkRequest}
    (h : r ∈ (switchTargets look control overlap up indices).requests) :
    (look (.check r.index)).network.shows r.index = true ∧ r.up = up := by
  induction indices with
  | nil => cases h
  | cons index rest ih =>
    rw [requests_switchTargets_cons, List.mem_append] at h
    rcases h with hfirst | hrest
    · rcases switchLink_cases (look (.check index)) control index up with
        ⟨hshows, hrequests, _⟩ | ⟨_, hrequests, _⟩
      · rw [hrequests, List.mem_singleton] at hfirst
        subst hfirst
        exact ⟨hshows, rfl⟩
      · rw [hrequests] at hfirst
        cases hfirst
    · split at hrest
      · exact ih hrest
      · cases hrest

/-- The requests are for some of the interfaces, in the same order. -/
theorem switchTargets_sublist (look : Look → Context) (control : LinkSwitch) (overlap : Overlap)
    (up : Bool) (indices : List UInt32) :
    List.Sublist ((switchTargets look control overlap up indices).requests.map LinkRequest.index)
      indices := by
  induction indices with
  | nil => exact .slnil
  | cons index rest ih =>
    have hrest : ∀ b : Bool, List.Sublist
        ((if b then (switchTargets look control overlap up rest).requests else []).map
          LinkRequest.index) rest := by
      rintro (_ | _)
      · exact List.nil_sublist rest
      · exact ih
    rw [requests_switchTargets_cons, List.map_append]
    rcases switchLink_cases (look (.check index)) control index up with
      ⟨_, hrequests, _⟩ | ⟨_, hrequests, _⟩
    · rw [hrequests]
      exact (hrest _).cons_cons index
    · rw [hrequests]
      exact (hrest _).cons index

/-- With a failed request all of the work fails. -/
theorem exists_error_switchTargets {indices : List UInt32} {r : LinkRequest} {failure : Failure}
    (h : r ∈ (switchTargets look control overlap up indices).requests)
    (hcontrol : control r = .error failure) :
    ∃ error, (switchTargets look control overlap up indices).result = .error error := by
  induction indices with
  | nil => cases h
  | cons index rest ih =>
    have hfailed : (∃ error, (switchLink (look (.check index)) control index up).result =
        .error error) ∨
          ∃ error, (switchTargets look control overlap up rest).result = .error error := by
      rw [requests_switchTargets_cons, List.mem_append] at h
      rcases h with hfirst | hrest
      · rcases switchLink_cases (look (.check index)) control index up with
          ⟨_, hrequests, hresult⟩ | ⟨_, _, hrefused⟩
        · rw [hrequests, List.mem_singleton] at hfirst
          subst hfirst
          exact .inl ⟨failure.toBusError, by rw [hresult, hcontrol]; rfl⟩
        · exact .inl hrefused
      · split at hrest
        · exact .inr (ih hrest)
        · cases hrest
    rw [switchTargets]
    split
    · exact Outcome.exists_error_beside _ hfailed
    · rw [Outcome.result_bind]
      rcases hfailed with ⟨error, herror⟩ | hrest
      · exact ⟨error, by rw [herror]⟩
      · split
        · exact hrest
        · exact ⟨_, rfl⟩

/-- A single interface has no other one to wait for. -/
theorem switchTargets_singleton (look : Look → Context) (control : LinkSwitch) (overlap : Overlap)
    (up : Bool) (index : UInt32) :
    switchTargets look control overlap up [index] =
      switchLink (look (.check index)) control index up := by
  rw [switchTargets, switchTargets]
  obtain ⟨requests, _ | _⟩ := switchLink (look (.check index)) control index up
  all_goals
    split
    · simp [Outcome.beside, pure]
    · simp [bind, Outcome.andThen, pure]

/-- In sequence, a failed request is the outcome of all. -/
theorem result_switchTargets_of_error {indices : List UInt32} {r : LinkRequest} {failure : Failure}
    (hturn : ∀ i, overlap.goesOn i = false)
    (h : r ∈ (switchTargets look control overlap up indices).requests)
    (hcontrol : control r = .error failure) :
    (switchTargets look control overlap up indices).result = .error failure.toBusError := by
  induction indices with
  | nil => cases h
  | cons index rest ih =>
    rw [switchTargets, hturn index, if_neg Bool.false_ne_true] at h ⊢
    rw [Outcome.requests_bind, List.mem_append] at h
    rw [Outcome.result_bind]
    rcases h with hfirst | hrest
    · rcases switchLink_cases (look (.check index)) control index up with
        ⟨_, hrequests, hresult⟩ | ⟨_, hrequests, _⟩
      · rw [hrequests, List.mem_singleton] at hfirst
        subst hfirst
        rw [hresult, hcontrol]
        rfl
      · rw [hrequests] at hfirst
        cases hfirst
    · split at hrest
      · exact ih hrest
      · cases hrest

/-- If every interface is still shown and every request is granted, all are turned on or off. -/
theorem switchTargets_of_granted {indices : List UInt32}
    (h : ∀ i ∈ indices, (look (.check i)).network.shows i = true ∧ control ⟨i, up⟩ = .ok ()) :
    switchTargets look control overlap up indices =
      { requests := indices.map (⟨·, up⟩), result := .ok () } := by
  induction indices with
  | nil => rfl
  | cons index rest ih =>
    obtain ⟨hshows, hgranted⟩ := h index List.mem_cons_self
    rw [switchTargets, ih fun i hi => h i (List.mem_cons_of_mem _ hi), switchLink, if_pos hshows,
      hgranted]
    split <;> rfl

end Requests

/-! ## Targets -/

section Targets

variable {filter : LinkFilter} {s : Network}

/-- The interface of a device with a number is the shown one with this number. -/
theorem indexOf_deviceNumbered (h : s.Consistent filter) {number : Nat} {i : UInt32} :
    indexOf (s.deviceNumbered number) = .ok i ↔
      s.shows i = true ∧ s.numbering.number? i = some number := by
  unfold Network.deviceNumbered
  split
  · next j hj =>
    rw [Option.filter_eq_some_iff, h.sound.holder?_eq_some_iff] at hj
    obtain ⟨hnumber, hshows⟩ := hj
    obtain ⟨d, hd⟩ := Network.exists_device_iff.2 hshows
    have hindex : indexOf (s.device j) = .ok j := by
      rw [hd]
      exact congrArg Except.ok (Network.index_of_device hd)
    rw [hindex, Except.ok.injEq]
    constructor
    · rintro rfl
      exact ⟨hshows, hnumber⟩
    · rintro ⟨_, hi⟩
      exact h.sound.number?_inj hnumber hi
  · next hnone =>
    refine ⟨fun hok => (nomatch hok), fun ⟨hshows, hnumber⟩ => ?_⟩
    rw [h.sound.holder?_eq_some_iff.2 hnumber] at hnone
    simp [Option.filter, hshows] at hnone

/-- The interface of the device at a path is the one that the path names. -/
theorem indexOf_deviceAt (h : s.Consistent filter) {path : String} {i : UInt32} :
    indexOf (s.deviceAt path) = .ok i ↔ Names s path i := by
  unfold Network.deviceAt Names
  cases hnumber : numberOfPath? path with
  | none => exact ⟨fun hok => (nomatch hok), fun ⟨_, hsome, _⟩ => (nomatch hsome)⟩
  | some number =>
    rw [indexOf_deviceNumbered h]
    simp

/-- A command is carried out on exactly the interfaces that are meant, once on each. If it is meant
for one device and there is none, it fails. -/
structure Command.Aims (c : Context) (command : Command) (indices : List UInt32) : Prop where
  /-- The interfaces are the ones that are meant. -/
  mem_iff : ∀ i, i ∈ indices ↔ command.Means c.network i
  /-- None is listed twice. -/
  nodup : indices.Nodup
  /-- There is one target where one is needed. -/
  target : command.hasTarget = true → ∃ i, indices = [i]

/-- A look-up of one interface either finds the one that is meant, or none is. -/
theorem Command.aims_of_lookup {c : Context} {command : Command} {found : Except BusError UInt32}
    (hfound : ∀ i, found = .ok i ↔ command.Means c.network i) :
    (∃ indices, found.map ([·]) = .ok indices ∧ command.Aims c indices) ∨
      (∃ error, found.map ([·]) = .error error ∧ ∀ i, ¬ command.Means c.network i) := by
  cases found with
  | error error => exact .inr ⟨error, rfl, fun i hi => nomatch (hfound i).2 hi⟩
  | ok j =>
    refine .inl ⟨[j], rfl, fun i => ?_, List.nodup_singleton j, fun _ => ⟨j, rfl⟩⟩
    rw [List.mem_singleton, ← hfound, Except.ok.injEq, eq_comm]

/-- A command finds the interfaces that are meant, or none is. -/
theorem Command.aims_or_misses {c : Context} (h : c.network.Consistent filter)
    (command : Command) :
    (∃ indices, command.targets c = .ok indices ∧ command.Aims c indices) ∨
      (∃ error, command.targets c = .error error ∧ ∀ i, ¬ command.Means c.network i) := by
  cases command with
  | disconnect number => exact aims_of_lookup fun i => indexOf_deviceNumbered h
  | activate connection device => exact aims_of_lookup fun i => indexOf_deviceAt h
  | addAndActivate device => exact aims_of_lookup fun i => indexOf_deviceAt h
  | deactivate active => exact aims_of_lookup fun i => indexOf_deviceAt h
  | enable up =>
    exact .inl ⟨c.network.shown, rfl, fun i => Network.mem_shown, h.nodup_shown,
      fun hnone => nomatch hnone⟩

end Targets

/-! ## Carrying out commands -/

/-- How a command is carried out. -/
structure Command.Orderly (look : Look → Context) (control : LinkSwitch) (overlap : Overlap)
    (command : Command) : Prop where
  /-- Each request is for an interface that was meant and was shown when it was checked, and goes in
  the direction of the command. -/
  meant : ∀ r ∈ (command.perform look control overlap).requests,
    command.Means (look .aim).network r.index ∧
      r.index ∈ (look (.check r.index)).network.shown ∧ r.up = command.up
  /-- No interface is asked for twice. -/
  once : ((command.perform look control overlap).requests.map LinkRequest.index).Nodup
  /-- Without a target nothing is requested, and the command fails. -/
  aimless : command.hasTarget = true → (∀ i, ¬ command.Means (look .aim).network i) →
    (command.perform look control overlap).requests = [] ∧
      ∃ error, (command.perform look control overlap).result = .error error
  /-- With a request that fails the command fails, and if there is no other request beside it, it
  fails with the same error. -/
  failing : ∀ r ∈ (command.perform look control overlap).requests, ∀ failure,
    control r = .error failure →
      (∃ error, (command.perform look control overlap).result = .error error) ∧
        (command.hasTarget = true ∨ (∀ i, overlap.goesOn i = false) →
          (command.perform look control overlap).result = .error failure.toBusError)
  /-- If all that is meant is still shown and all requests are granted, all is requested. -/
  thorough : (∀ i, command.Means (look .aim).network i →
      i ∈ (look (.check i)).network.shown ∧ control ⟨i, command.up⟩ = .ok ()) →
    ∀ i, command.Means (look .aim).network i →
      ⟨i, command.up⟩ ∈ (command.perform look control overlap).requests

section Perform

variable {look : Look → Context} {control : LinkSwitch} {overlap : Overlap} {command : Command}

/-- A command that finds no targets fails without a request. -/
theorem Command.perform_of_error {error : BusError}
    (h : command.targets (look .aim) = .error error) :
    (command.perform look control overlap).requests = [] ∧
      (command.perform look control overlap).result = .error error := by
  rw [perform, h]
  exact ⟨rfl, rfl⟩

/-- The requests of a command are those for its targets. -/
theorem Command.requests_perform {indices : List UInt32}
    (h : command.targets (look .aim) = .ok indices) :
    (command.perform look control overlap).requests =
      (switchTargets look control overlap command.up indices).requests := by
  rw [perform, h, Outcome.requests_bind]
  change [] ++ (switchTargets look control overlap command.up indices >>= fun _ =>
    Outcome.ofExcept (command.report (look .report) indices)).requests = _
  rw [List.nil_append, Outcome.requests_bind]
  cases (switchTargets look control overlap command.up indices).result <;> exact List.append_nil _

/-- A command fails where turning its targets on or off fails. -/
theorem Command.result_perform_of_error {indices : List UInt32} {error : BusError}
    (h : command.targets (look .aim) = .ok indices)
    (herror : (switchTargets look control overlap command.up indices).result = .error error) :
    (command.perform look control overlap).result = .error error := by
  rw [perform, h, Outcome.result_bind]
  change (switchTargets look control overlap command.up indices >>= fun _ =>
    Outcome.ofExcept (command.report (look .report) indices)).result = _
  rw [Outcome.result_bind, herror]

/-- A request without another one beside it decides the outcome by its failure. -/
theorem Command.Aims.result_of_alone {indices : List UInt32}
    (haims : command.Aims (look .aim) indices)
    (halone : command.hasTarget = true ∨ ∀ i, overlap.goesOn i = false) {r : LinkRequest}
    (hr : r ∈ (switchTargets look control overlap command.up indices).requests)
    {failure : Failure} (hfailure : control r = .error failure) :
    (switchTargets look control overlap command.up indices).result =
      .error failure.toBusError := by
  rcases halone with htarget | hturn
  · obtain ⟨i, rfl⟩ := haims.target htarget
    rw [switchTargets_singleton, ← switchTargets_singleton look control .inTurn] at hr ⊢
    exact result_switchTargets_of_error (fun _ => rfl) hr hfailure
  · exact result_switchTargets_of_error hturn hr hfailure

/-- Commands are carried out in order, wherever the network changes in between. -/
theorem Command.orderly {filter : LinkFilter} (h : ∀ l, (look l).network.Consistent filter)
    (control : LinkSwitch) (overlap : Overlap) (command : Command) :
    command.Orderly look control overlap := by
  rcases command.aims_or_misses (h .aim) with ⟨indices, htargets, haims⟩ | ⟨error, htargets, hnone⟩
  · have hrequests : (command.perform look control overlap).requests =
        (switchTargets look control overlap command.up indices).requests := requests_perform htargets
    have hsublist := switchTargets_sublist look control overlap command.up indices
    refine ⟨fun r hr => ?_, ?_, fun htarget hnone => ?_, fun r hr failure hfailure => ?_,
      fun hall i hi => ?_⟩
    · rw [hrequests] at hr
      obtain ⟨hshows, hup⟩ := of_mem_switchTargets hr
      have hmem : r.index ∈ indices := hsublist.subset (List.mem_map_of_mem hr)
      exact ⟨(haims.mem_iff r.index).1 hmem, Network.mem_shown.2 hshows, hup⟩
    · rw [hrequests]
      exact haims.nodup.sublist hsublist
    · obtain ⟨i, rfl⟩ := haims.target htarget
      exact absurd ((haims.mem_iff i).1 List.mem_cons_self) (hnone i)
    · rw [hrequests] at hr
      obtain ⟨error, herror⟩ := exists_error_switchTargets hr hfailure
      refine ⟨⟨error, result_perform_of_error htargets herror⟩, fun halone => ?_⟩
      exact result_perform_of_error htargets (haims.result_of_alone halone hr hfailure)
    · have hgranted : ∀ j ∈ indices, (look (.check j)).network.shows j = true ∧
          control ⟨j, command.up⟩ = .ok () := fun j hj =>
        ⟨Network.mem_shown.1 (hall j ((haims.mem_iff j).1 hj)).1,
          (hall j ((haims.mem_iff j).1 hj)).2⟩
      rw [hrequests, switchTargets_of_granted hgranted]
      exact List.mem_map_of_mem ((haims.mem_iff i).2 hi)
  · obtain ⟨hrequests, hresult⟩ : (command.perform look control overlap).requests = [] ∧
        (command.perform look control overlap).result = .error error := perform_of_error htargets
    refine ⟨?_, ?_, fun _ _ => ⟨hrequests, error, hresult⟩, ?_, fun _ i hi => absurd hi (hnone i)⟩
    all_goals simp [hrequests]

end Perform

end LinkBus.Bus
