import LinkBus.Device.State

/-!
# Conditions and states

What the condition of a device must be for each of its states. A device is unavailable without a
link that is switched on and carries, and connected if it has such a link and an address; no
condition puts it in a passing state.
-/

namespace LinkBus

namespace DeviceCondition

/-- Some address can be used or may be usable later. -/
def HasAddress (condition : DeviceCondition) : Prop :=
  0 < condition.usable ∨ 0 < condition.tentative

instance (condition : DeviceCondition) : Decidable condition.HasAddress :=
  inferInstanceAs (Decidable (_ ∨ _))

variable (condition : DeviceCondition)

/-- A device is unavailable if its link is switched off or does not carry. Otherwise its addresses
decide. -/
theorem state_cases :
    (condition.switchedOn = false ∨ condition.carrier = false) ∧ condition.state = .unavailable ∨
      (condition.switchedOn = true ∧ condition.carrier = true) ∧
        (condition.HasAddress ∧ (condition.state = .activated ∨ condition.state = .ipConfig) ∨
          ¬ condition.HasAddress ∧ condition.state = .disconnected) := by
  obtain ⟨switchedOn, carrier, usable, tentative⟩ := condition
  simp only [state, HasAddress]
  cases switchedOn
  · exact Or.inl ⟨Or.inl rfl, rfl⟩
  · cases carrier
    · exact Or.inl ⟨Or.inr rfl, rfl⟩
    · refine Or.inr ⟨⟨rfl, rfl⟩, ?_⟩
      by_cases husable : 0 < usable
      · exact Or.inl ⟨Or.inl husable, Or.inl (by simp [husable])⟩
      · by_cases htentative : 0 < tentative
        · exact Or.inl ⟨Or.inr htentative, Or.inr (by simp [husable, htentative])⟩
        · exact Or.inr ⟨not_or.2 ⟨husable, htentative⟩, by simp [husable, htentative]⟩

variable {condition : DeviceCondition}

/-- A device is unavailable if and only if its link is switched off or does not carry. -/
theorem state_eq_unavailable_iff :
    condition.state = .unavailable ↔ condition.switchedOn = false ∨ condition.carrier = false := by
  rcases condition.state_cases with
    ⟨hlost, hstate⟩ | ⟨⟨hon, hcarrier⟩, ⟨-, hstate | hstate⟩ | ⟨-, hstate⟩⟩
  · exact iff_of_true hstate hlost
  all_goals simp [*]

/-- A device is disconnected if and only if its link is switched on and carries and it has no
address. -/
theorem state_eq_disconnected_iff :
    condition.state = .disconnected ↔
      condition.switchedOn = true ∧ condition.carrier = true ∧ ¬ condition.HasAddress := by
  rcases condition.state_cases with
    ⟨hlost, hstate⟩ | ⟨⟨hon, hcarrier⟩, ⟨hsome, hstate | hstate⟩ | ⟨hnone, hstate⟩⟩
  · rcases hlost with hlost | hlost <;> simp [hstate, hlost]
  all_goals simp [*]

/-- A device is connected if and only if its link is switched on and carries and it has an address.
-/
theorem isConnected_state_iff :
    condition.state.isConnected = true ↔
      condition.switchedOn = true ∧ condition.carrier = true ∧ condition.HasAddress := by
  rcases condition.state_cases with
    ⟨hlost, hstate⟩ | ⟨⟨hon, hcarrier⟩, ⟨hsome, hstate | hstate⟩ | ⟨hnone, hstate⟩⟩
  · rcases hlost with hlost | hlost <;> simp [hstate, hlost, DeviceState.isConnected]
  all_goals simp [DeviceState.isConnected, *]

/-- No condition puts a device in a passing state. -/
theorem state_ne_deactivating (condition : DeviceCondition) :
    condition.state ≠ .deactivating := by
  rcases condition.state_cases with
    ⟨-, hstate⟩ | ⟨-, ⟨-, hstate | hstate⟩ | ⟨-, hstate⟩⟩ <;> simp [hstate]

end DeviceCondition

end LinkBus
