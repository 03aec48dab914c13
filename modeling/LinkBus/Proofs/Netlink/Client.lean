import LinkBus.Netlink.Client

/-!
# What a client keeps

Whatever a client asks for, its settings stay as they were. What it sends is refused with an error
number, if at all.
-/

namespace LinkBus.Netlink

/-- A kernel refuses a request with an error number. -/
theorem Kernel.errno_of_send {kernel : Kernel} {bytes : List UInt8} {failure : Failure}
    (h : (kernel.send bytes).2 = .error failure) : ∃ errno, failure = .io (.errno errno) := by
  unfold Kernel.send at h
  simp only at h
  split at h
  · cases h
  · next errno _ =>
    cases h
    exact ⟨errno, rfl⟩

namespace Client

/-- Waiting until a request can be sent concerns the readiness alone. -/
theorem awaitSend_eq (c : Client) :
    c.awaitSend = { c with readiness := c.awaitSend.readiness } := by
  unfold awaitSend
  split <;> rfl

/-- A client that has waited can send. -/
theorem send_awaitSend (c : Client) : c.awaitSend.readiness.send = true := by
  unfold awaitSend
  split
  · assumption
  · rfl

/-- Waiting until a request can be sent changes no settings. -/
@[simp] theorem settings_awaitSend (c : Client) : c.awaitSend.settings = c.settings := by
  rw [awaitSend_eq]

/-- Asking changes no settings. -/
@[simp] theorem settings_ask {σ α : Type} (c : Client) (patient : Bool) (request : Wire.Request)
    (step : UInt32 → σ → Wire.Frame → Waiting σ α) (start : σ) :
    (c.ask patient request step start).1.settings = c.settings := by
  simp only [ask]
  repeat' split
  all_goals simp

/-- Dumping one table after the other changes no settings. -/
@[simp] theorem settings_dumpAll (c : Client) (patient : Bool) (events : List Event)
    (requests : List Wire.Request) :
    (c.dumpAll patient events requests).1.settings = c.settings := by
  induction requests generalizing c events with
  | nil => rfl
  | cons request rest ih =>
    have hask := c.settings_ask patient request dumpFrame []
    rw [dumpAll]
    generalize c.ask patient request dumpFrame [] = asked at hask ⊢
    rcases asked with ⟨c', _ | _ | more⟩
    · exact hask
    · exact hask
    · exact (ih _ _).trans hask

/-- Dumping changes no settings. -/
@[simp] theorem settings_dump (c : Client) : c.dump.1.settings = c.settings := by
  have hall := c.settings_dumpAll (c.settings.startupTimeout.toNat ≠ 0) []
    [.dumpLinks, .dumpAddresses, .dumpRoutes]
  rw [dump]
  generalize c.dumpAll _ [] [.dumpLinks, .dumpAddresses, .dumpRoutes] = dumped at hall ⊢
  rcases dumped with ⟨c', _ | result⟩ <;> exact hall

end Client

end LinkBus.Netlink
