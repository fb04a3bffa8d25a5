import FilterSql.Proofs.OpenGroups

/-!
Positions in errors. An error of the reader that has a position has that of a token of the text, and what
it says is true of that token and of those around it.
-/

namespace FilterSql

namespace FilterError

def position? : FilterError → Option Nat
  | unexpectedToken token => some token.position
  | unclosedGroup position | unknownOperator _ position | missingValue _ position
  | tooDeep position | tooManyConnectives position => some position
  | _ => none

/-- What an error says of the token at its position, and of the tokens before and behind it. -/
def Describes (before : List (Placed Token)) (t : Placed Token) (behind : List (Placed Token)) :
    FilterError → Prop
  | unexpectedToken token => token = t ∧
      (unexpectedToken token).message =
        "unexpected token " ++ t.value.shown ++ atPosition t.position
  | unclosedGroup _ => t.value = .opening
  | unknownOperator word _ => t.value = .identifier word ∧
      ∃ front start path, before = front ++ [⟨start, .identifier path⟩]
  | missingValue op _ => t.value = .operator op ∧ op ≠ .present ∧
      ∀ next ∈ behind.head?, next.value = .closing ∨ ∃ c, next.value = .connective c
  | tooDeep _ => t.value = .opening ∧ ∀ n, StillOpen n (before.map Placed.value) ↔ n = 64
  | tooManyConnectives _ => (∃ c, t.value = .connective c) ∧
      connectiveCount (before.map Placed.value) = 256
  | _ => False

end FilterError

theorem Progress.Refuses.describes {p : Progress} {taken rest : List (Placed Token)}
    {e : FilterError} {position : Nat} (refused : p.Refuses rest.head? e)
    (reaches : Reaches taken p) (depth : p.groups.length ≤ maxDepth)
    (count : p.connectives ≤ maxConnectives) (placed : e.position? = some position) :
    ∃ before t behind, taken ++ rest = before ++ t :: behind ∧ t.position = position ∧
      e.Describes before t behind := by
  generalize next : rest.head? = head at refused
  cases refused with
  | ended => cases placed
  | unexpected _ t =>
    obtain ⟨behind, rfl⟩ := List.head?_eq_some_iff.mp next
    cases placed
    exact ⟨taken, t, behind, rfl, rfl, rfl, rfl⟩
  | @tooDeep groups _ _ _ full =>
    obtain ⟨behind, rfl⟩ := List.head?_eq_some_iff.mp next
    cases placed
    have open64 : groups.length = 64 := Nat.le_antisymm depth full
    refine ⟨taken, _, behind, rfl, rfl, rfl, ?_⟩
    rw [← open64]
    exact reaches.layers.stillOpen.iff_eq
  | unknownOperator word =>
    obtain ⟨behind, rfl⟩ := List.head?_eq_some_iff.mp next
    cases placed
    obtain ⟨front, start, ended⟩ := reaches.operator
    exact ⟨taken, _, behind, rfl, rfl, rfl, front, start, _, ended⟩
  | @missingValue _ _ _ _ _ op _ ends =>
    subst next
    cases placed
    obtain ⟨valued, front, rfl⟩ := reaches.value
    refine ⟨front, ⟨position, .operator op⟩, rest, ?_, rfl, rfl, valued, ends⟩
    rw [List.append_assoc, List.singleton_append]
  | tooManyConnectives full =>
    obtain ⟨behind, rfl⟩ := List.head?_eq_some_iff.mp next
    cases placed
    refine ⟨taken, _, behind, rfl, rfl, ⟨_, rfl⟩, ?_⟩
    rw [← reaches.counts.2]
    exact Nat.le_antisymm count full
  | @unclosedGroup g _ _ _ _ _ =>
    cases placed
    cases reaches.layers with
    | @within _ _ _ front inner _ _ =>
      refine ⟨front, ⟨g.position, .opening⟩, inner ++ rest, ?_, rfl, rfl⟩
      rw [List.append_assoc, List.cons_append]

/-- A token stands in its text at its byte offset, with the characters that give it alone. -/
theorem Tokens.stands {s : String} {t : Placed Token} (h : t ∈ (ofText s).tokens) :
    ∃ before chars after, s = before ++ (chars ++ after) ∧ before.utf8ByteSize = t.position ∧
      ofText chars = ⟨[⟨0, t.value⟩], []⟩ := by
  obtain ⟨⟨start, outcome⟩, found, kept⟩ := List.mem_filterMap.mp h
  obtain ⟨parts, cut⟩ := exists_cut s.toList
  rw [lexemes_cut cut] at found
  obtain ⟨before, chars, after, whole, offset, alone⟩ := cut.stands found
  cases outcome <;> cases kept
  refine ⟨String.ofList before, String.ofList chars, String.ofList after, ?_, ?_, ?_⟩
  · rw [← String.ofList_append, ← String.ofList_append, ← whole, String.ofList_toList]
  · rw [utf8ByteSize_ofList, offset, Nat.zero_add]
  · rw [ofText_eq_iff, String.toList_ofList, alone]
    rfl

/-- Where reading fails with a position, a token stands there in the text, and the error tells the truth
about it. An unexpected token is shown as it is. A word in an operator's place comes right behind an
attribute. An operator that misses its value takes one, and behind it comes nothing, a connective or a
closing parenthesis. The parenthesis that is too deep opens within 64 that are open there, and the
connective that is too much is the 257th. -/
theorem error_positions_are_truthful (p : Precedence) (s : String) (e : FilterError) (position : Nat)
    (failed : Filter.ofText p s = .error e) (placed : e.position? = some position) :
    ∃ before t behind, (Tokens.ofText s).tokens = before ++ t :: behind ∧ t.position = position ∧
      e.Describes before t behind ∧
      ∃ front chars back, s = front ++ (chars ++ back) ∧ front.utf8ByteSize = position ∧
        Tokens.ofText chars = ⟨[⟨0, t.value⟩], []⟩ := by
  obtain rfl | rfl | unread := ofText_error failed
  · cases placed
  · cases placed
  obtain ⟨taken, rest, reached, cut, reaches, depth, count, refused⟩ := exists_stop unread
  obtain ⟨before, t, behind, whole, rfl, described⟩ :=
    refused.describes reaches depth count placed
  rw [← cut] at whole
  exact ⟨before, t, behind, whole, rfl, described, Tokens.stands (by simp [whole])⟩

/-- The text before the operator has a character of two bytes. -/
theorem error_positions_are_truthful_unvalued :
    let s := "(a eq \"é\" or b gt)"
    Filter.ofText .leftToRight s = .error (.missingValue .greater 16) ∧
      ∃ before t behind, (Tokens.ofText s).tokens = before ++ t :: behind ∧ t.position = 16 ∧
        (FilterError.missingValue .greater 16).Describes before t behind ∧
        ∃ front chars back, s = front ++ (chars ++ back) ∧ front.utf8ByteSize = 16 ∧
          Tokens.ofText chars = ⟨[⟨0, t.value⟩], []⟩ := by
  intro s
  have failed : Filter.ofText .leftToRight s = .error (.missingValue .greater 16) := by
    decide +kernel
  exact ⟨failed, error_positions_are_truthful .leftToRight s _ 16 failed rfl⟩

end FilterSql
