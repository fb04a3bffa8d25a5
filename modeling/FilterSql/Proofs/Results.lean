/-! Steps that may fail, one after another. -/

namespace FilterSql

variable {ε ε' α β : Type}

theorem map_ok_iff {x : Except ε α} {f : α → β} {b : β} :
    x.map f = .ok b ↔ ∃ a, x = .ok a ∧ f a = b := by
  cases x <;> simp [Except.map]

theorem map_error_iff {x : Except ε α} {f : α → β} {e : ε} : x.map f = .error e ↔ x = .error e := by
  cases x <;> simp [Except.map]

theorem mapError_ok_iff {x : Except ε α} {f : ε → ε'} {a : α} : x.mapError f = .ok a ↔ x = .ok a := by
  cases x <;> constructor <;> rintro ⟨⟩ <;> rfl

theorem mapError_error_iff {x : Except ε α} {f : ε → ε'} {e : ε'} :
    x.mapError f = .error e ↔ ∃ cause, x = .error cause ∧ f cause = e := by
  constructor
  · cases x <;> rintro ⟨⟩
    exact ⟨_, rfl, rfl⟩
  · rintro ⟨cause, rfl, rfl⟩
    rfl

theorem bind_ok_iff {x : Except ε α} {next : α → Except ε β} {b : β} :
    x.bind next = .ok b ↔ ∃ a, x = .ok a ∧ next a = .ok b := by
  cases x <;> simp [Except.bind]

end FilterSql
