/-! # Results of operations that may fail

  An operation that is built from others succeeds exactly if they do.
-/

namespace RegistryProbe

variable {ε α β : Type}

/-- What follows a success goes on with its result. -/
theorem ok_bind (a : α) (next : α → Except ε β) : (.ok a : Except ε α) >>= next = next a := rfl

/-- Nothing follows a failure. -/
theorem error_bind (e : ε) (next : α → Except ε β) :
    (.error e : Except ε α) >>= next = .error e := rfl

/-- Two operations in a row succeed if both do. -/
theorem ok_bind_iff {first : Except ε α} {next : α → Except ε β} {b : β} :
    first >>= next = .ok b ↔ ∃ a, first = .ok a ∧ next a = .ok b := by
  cases first <;> simp [bind, Except.bind]

theorem ok_map_iff {first : Except ε α} {f : α → β} {b : β} :
    first.map f = .ok b ↔ ∃ a, first = .ok a ∧ f a = b := by
  cases first <;> simp [Except.map]

theorem error_map_iff {first : Except ε α} {f : α → β} {e : ε} :
    first.map f = .error e ↔ first = .error e := by
  cases first <;> simp [Except.map]

end RegistryProbe
