/-!
The tone is a signal with two states. Listeners hear about changes only.
-/

namespace Chip8.Tone

/-- What is heard when a signal at `old` is set to `new`: nothing unless it changes. -/
def transition (old new : Bool) : Option Bool := if new == old then none else some new

/-- A tone signal and the names of its listeners, in the order in which they subscribed. -/
structure Switch (ℓ : Type) where
  active : Bool := false
  listeners : List ℓ := []

namespace Switch

variable {ℓ : Type}

/-- Add a listener; one that is added twice hears everything twice. -/
def subscribe (t : Switch ℓ) (listener : ℓ) : Switch ℓ :=
  { t with listeners := t.listeners ++ [listener] }

/-- Set the signal. The answer is what each listener hears. -/
def set (t : Switch ℓ) (on : Bool) : List (ℓ × Bool) × Switch ℓ :=
  match transition t.active on with
  | none => ([], t)
  | some heard => (t.listeners.map (·, heard), { t with active := on })

/-- Setting a signal leaves it as it was set. -/
theorem active_set (t : Switch ℓ) (on : Bool) : (t.set on).2.active = on := by
  unfold set transition
  split <;> rename_i h <;> split at h <;> simp_all

end Switch

end Chip8.Tone
