import LinkBus.Proofs.Bus.Calls

/-!
# Turning all devices on or off

The command for all devices stops at the first failure that the next device has waited for. Devices
behind it get no request, although they are shown and their requests might have been granted. Apart
from that each device gets one request, and the command fails exactly if one of the requests does.
-/

namespace LinkBus.Bus

/-! ## How far the command gets -/

/-- The outcome at an interface is a failure, and the next ones have waited for it. -/
def haltsAt (control : LinkSwitch) (overlap : Overlap) (up : Bool) (index : UInt32) : Bool :=
  !overlap.goesOn index && !(control ⟨index, up⟩).isOk

/-- The interfaces up to the first one at which something holds, that one included. -/
def upTo (stops : UInt32 → Bool) : List UInt32 → List UInt32
  | [] => []
  | index :: rest => index :: if stops index then [] else upTo stops rest

/-- Everything is reached exactly if nothing stops before the last. -/
theorem upTo_eq_self_iff {stops : UInt32 → Bool} {indices : List UInt32} :
    upTo stops indices = indices ↔ ∀ i ∈ indices.dropLast, stops i = false := by
  induction indices with
  | nil => simp [upTo]
  | cons index rest ih =>
    cases rest with
    | nil => simp [upTo]
    | cons next rest =>
      rw [upTo, List.cons_inj_right, List.dropLast_cons_cons, List.forall_mem_cons]
      cases hstops : stops index with
      | true => simp
      | false => simpa using ih

section Enable

variable {c : Context} {control : LinkSwitch} {overlap : Overlap} {up : Bool}

/-- A shown interface is requested, and the outcome is that of the request. -/
theorem switchLink_of_shows (control : LinkSwitch) (up : Bool) {index : UInt32}
    (h : c.network.shows index = true) :
    switchLink c control index up =
      ⟨[⟨index, up⟩], (control ⟨index, up⟩).mapError Failure.toBusError⟩ :=
  if_pos h

/-- The requests for shown interfaces are those up to the first halt. -/
theorem requests_switchTargets_of_shows {indices : List UInt32}
    (h : ∀ i ∈ indices, c.network.shows i = true) :
    (switchTargets (fun _ => c) control overlap up indices).requests =
      (upTo (haltsAt control overlap up) indices).map (⟨·, up⟩) := by
  induction indices with
  | nil => rfl
  | cons index rest ih =>
    have hrest := ih fun i hi => h i (List.mem_cons_of_mem _ hi)
    have hlink := switchLink_of_shows control up (h index List.mem_cons_self)
    rw [requests_switchTargets_cons, hrest, hlink, upTo, List.map_cons, haltsAt]
    cases overlap.goesOn index <;> cases control ⟨index, up⟩ <;> rfl

/-- An error of overlapping work is one of its parts. -/
theorem Outcome.error_of_beside {first second : Outcome Unit} {comesFirst : Bool} {error : BusError}
    (h : (first.beside second comesFirst).result = .error error) :
    first.result = .error error ∨ second.result = .error error := by
  obtain ⟨_, _ | _⟩ := first
  · obtain ⟨_, _ | _⟩ := second
    · cases comesFirst
      · exact .inr h
      · exact .inl h
    · exact .inl h
  · exact .inr h

/-- An error is that of the first interface, or of the others where these have had their turn. -/
theorem error_of_switchTargets_cons {index : UInt32} {rest : List UInt32} {error : BusError}
    (h : (switchTargets (fun _ => c) control overlap up (index :: rest)).result = .error error) :
    (switchLink c control index up).result = .error error ∨
      (overlap.goesOn index || (switchLink c control index up).result.isOk) = true ∧
        (switchTargets (fun _ => c) control overlap up rest).result = .error error := by
  rw [switchTargets] at h
  cases hgoes : overlap.goesOn index with
  | true =>
    rw [hgoes, if_pos rfl] at h
    exact (Outcome.error_of_beside h).imp_right fun hrest => ⟨rfl, hrest⟩
  | false =>
    rw [hgoes, if_neg Bool.false_ne_true, Outcome.result_bind] at h
    cases hresult : (switchLink c control index up).result with
    | error error' => exact .inl (by rw [hresult] at h; exact h)
    | ok a => exact .inr ⟨rfl, by rw [hresult] at h; exact h⟩

/-- Work on shown interfaces fails only with one of its requests. -/
theorem exists_failed_request {indices : List UInt32} {error : BusError}
    (h : ∀ i ∈ indices, c.network.shows i = true)
    (herror : (switchTargets (fun _ => c) control overlap up indices).result = .error error) :
    ∃ r ∈ (switchTargets (fun _ => c) control overlap up indices).requests,
      ∃ failure, control r = .error failure ∧ error = failure.toBusError := by
  induction indices with
  | nil => cases herror
  | cons index rest ih =>
    have hlink := switchLink_of_shows control up (h index List.mem_cons_self)
    rw [requests_switchTargets_cons]
    rcases error_of_switchTargets_cons herror with hown | ⟨hturn, hrest⟩
    · rw [hlink] at hown ⊢
      cases hcontrol : control ⟨index, up⟩ with
      | error failure =>
        rw [hcontrol] at hown
        exact ⟨_, List.mem_append_left _ List.mem_cons_self, failure, hcontrol,
          (Except.error.inj hown).symm⟩
      | ok a =>
        rw [hcontrol] at hown
        cases hown
    · obtain ⟨r, hr, hfailed⟩ := ih (fun i hi => h i (List.mem_cons_of_mem _ hi)) hrest
      rw [if_pos hturn]
      exact ⟨r, List.mem_append_right _ hr, hfailed⟩

/-- The command for all devices has nothing to tell, so it fails only with the work on them. -/
theorem result_perform_enable {error : BusError} :
    ((Command.enable up).perform (fun _ => c) control overlap).result = .error error ↔
      (switchTargets (fun _ => c) control overlap up c.network.shown).result = .error error := by
  rw [Command.perform, Outcome.result_bind]
  change (switchTargets (fun _ => c) control overlap up c.network.shown >>= fun _ =>
    Outcome.ofExcept (.ok [])).result = _ ↔ _
  rw [Outcome.result_bind]
  cases (switchTargets (fun _ => c) control overlap up c.network.shown).result with
  | error error' => rw [Except.error.injEq, Except.error.injEq]
  | ok a => simp [Outcome.ofExcept]

end Enable

/-! ## The command for all devices -/

/-- **The command for all devices** in any network requests each shown interface once, up to the
first failure that the next ones have waited for. It gets to all of them exactly if no such failure
comes before the last one. It fails exactly if one of its requests fails, and with the error of one
that does. The call on the bus is the command that waits at each interface. -/
theorem enable_requests_up_to_halt (filter : LinkFilter) (setup : List Update)
    (hostname : Option (List UInt8)) (resolv : List (Option (List UInt8))) (control : LinkSwitch)
    (overlap : Overlap) (up : Bool) :
    let c : Context := ⟨(Network.empty filter).updateAll setup, hostname, resolv⟩
    let outcome := (Command.enable up).perform (fun _ => c) control overlap
    (outcome.requests = (upTo (haltsAt control overlap up) c.network.shown).map (⟨·, up⟩) ∧
      c.network.shown.Nodup) ∧
    (outcome.requests = c.network.shown.map (⟨·, up⟩) ↔
      ∀ i ∈ c.network.shown.dropLast, haltsAt control overlap up i = false) ∧
    ((∃ error, outcome.result = .error error) ↔
      ∃ r ∈ outcome.requests, ∃ failure, control r = .error failure) ∧
    (∀ error, outcome.result = .error error →
      ∃ r ∈ outcome.requests, ∃ failure, control r = .error failure ∧ error = failure.toBusError) ∧
    ∀ t : Tree, t.call c control managerPath PropertyInterface.manager.name "Enable" [.flag up] =
      (Command.enable up).perform (fun _ => c) control .inTurn := by
  intro c outcome
  have hconsistent : c.network.Consistent filter :=
    (Network.consistent_empty filter).updateAll setup
  have hshows : ∀ i ∈ c.network.shown, c.network.shows i = true := fun i => Network.mem_shown.1
  have hperform : outcome.requests =
      (switchTargets (fun _ => c) control overlap up c.network.shown).requests :=
    Command.requests_perform rfl
  have hrequests := hperform.trans (requests_switchTargets_of_shows hshows)
  have herror : ∀ error, outcome.result = .error error →
      ∃ r ∈ outcome.requests, ∃ failure, control r = .error failure ∧
        error = failure.toBusError := by
    intro error h
    rw [hperform]
    exact exists_failed_request hshows (result_perform_enable.1 h)
  refine ⟨⟨hrequests, hconsistent.nodup_shown⟩, ?_, ⟨?_, ?_⟩, herror, fun t => ?_⟩
  · rw [hrequests, ← upTo_eq_self_iff]
    exact (List.map_injective_iff.2 fun _ _ h => congrArg LinkRequest.index h).eq_iff
  · rintro ⟨error, h⟩
    obtain ⟨r, hr, failure, hcontrol, -⟩ := herror error h
    exact ⟨r, hr, failure, hcontrol⟩
  · rintro ⟨r, hr, failure, hcontrol⟩
    rw [hperform] at hr
    obtain ⟨error, h⟩ := exists_error_switchTargets hr hcontrol
    exact ⟨error, result_perform_enable.2 h⟩
  · exact Command.call_eq_perform ⟨rfl, rfl, rfl, rfl⟩

/-- A wired link that is up. -/
def wiredReport (index : UInt32) (name : String) : LinkReport :=
  { index, name := some name, layerType := 1, flags := 0x10003, oper := some .up }

/-- A network of two wired links. -/
def twoDevices : Context where
  network := (Network.empty {}).updateAll
    [.hear [.newLink (wiredReport 2 "eth0"), .newLink (wiredReport 3 "eth1")] 0 500]

/-- A kernel that refuses to change the first device, and would change any other. -/
def refusingFirst : LinkSwitch := fun r => if r.index = 2 then .error (.rejected 1) else .ok ()

/-- Where the first device is refused, the second one is not turned off, although it is shown and
its request would be granted. -/
theorem refused_device_hides_next :
    twoDevices.network.shown = [2, 3] ∧ refusingFirst ⟨3, false⟩ = .ok () ∧
      (switchAll twoDevices refusingFirst false).requests = [⟨2, false⟩] ∧
      ¬ ∀ i ∈ twoDevices.network.shown,
        (switchAll twoDevices refusingFirst false).requests.count ⟨i, false⟩ = 1 := by
  have hshown : twoDevices.network.shown = [2, 3] := by decide
  have hrequests : (switchAll twoDevices refusingFirst false).requests = [⟨2, false⟩] := by
    decide
  refine ⟨hshown, rfl, hrequests, fun hall => ?_⟩
  have hsecond := hall 3 (by rw [hshown]; decide)
  rw [hrequests] at hsecond
  exact absurd hsecond (by decide)

end LinkBus.Bus
