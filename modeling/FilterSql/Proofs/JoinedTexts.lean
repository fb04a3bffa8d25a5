import FilterSql.Proofs.LexemeParts

/-!
Texts joined by a blank. A blank ends every lexeme but a text that misses its closing quote, so what
stands before the blank and what stands after it are read as if each were alone.
-/

namespace FilterSql

/-- The same thing further on in a text. -/
def Placed.moved {α : Type} (offset : Nat) (p : Placed α) : Placed α :=
  ⟨offset + p.position, p.value⟩

/-! ## Parts of joined texts -/

theorem outcomes_moved (offset position : Nat) (parts : List Part) :
    outcomes (offset + position) parts = (outcomes position parts).map (Placed.moved offset) := by
  induction parts generalizing position with
  | nil => rfl
  | cons part parts ih =>
    cases part with
    | blank c => rw [outcomes, outcomes, Nat.add_assoc, ih]
    | lexeme chars outcome =>
      rw [outcomes, outcomes, List.map_cons, Nat.add_assoc, ih]
      rfl

theorem outcomes_append (position : Nat) (parts more : List Part) :
    outcomes position (parts ++ more) = outcomes position parts ++
      outcomes (position + byteLength (parts.flatMap Part.chars)) more := by
  induction parts generalizing position with
  | nil => rfl
  | cons part parts ih =>
    cases part with
    | blank c =>
      rw [List.cons_append, outcomes, outcomes, ih, List.flatMap_cons, byteLength_append,
        Nat.add_assoc]
      rfl
    | lexeme chars outcome =>
      rw [List.cons_append, outcomes, outcomes, ih, List.flatMap_cons, byteLength_append,
        Nat.add_assoc, List.cons_append]
      rfl

theorem mem_outcomes {chars : List Char} {outcome : Except Mistake Token} {parts : List Part}
    (h : .lexeme chars outcome ∈ parts) (position : Nat) :
    ∃ start, ⟨start, outcome⟩ ∈ outcomes position parts := by
  induction parts generalizing position with
  | nil => cases h
  | cons part parts ih =>
    rcases List.mem_cons.mp h with rfl | later
    · exact ⟨position, List.mem_cons_self ..⟩
    · cases part with
      | blank c => exact ih later _
      | lexeme chars' outcome' =>
        obtain ⟨start, found⟩ := ih later (position + byteLength chars')
        exact ⟨start, List.mem_cons_of_mem _ found⟩

/-- Parts of a text stay its parts when it goes on with a blank, unless it misses a closing quote. -/
theorem Cut.append {cs r : List Char} {parts more : List Part} (cut : Cut cs parts)
    (ended : ∀ chars, .lexeme chars (.error .unterminatedText) ∉ parts) (follows : Follows r [])
    (next : Cut r more) : Cut (cs ++ r) (parts ++ more) := by
  induction cut with
  | nil => exact next
  | blank isBlank _ ih =>
    exact .blank isBlank (ih fun chars member => ended chars (List.mem_cons_of_mem _ member))
  | @lexeme c front rest outcome parts solid read _ ih =>
    have here : outcome ≠ .error .unterminatedText := by
      rintro rfl
      exact ended _ (List.mem_cons_self ..)
    have goesOn : Follows (rest ++ r) rest := by
      have further := follows_append rest follows
      rwa [List.append_nil] at further
    have later := ih fun chars member => ended chars (List.mem_cons_of_mem _ member)
    have made := Cut.lexeme solid (Lexeme.read_follows read here goesOn) later
    rwa [← List.append_assoc, ← List.cons_append] at made

/-- The lexemes of two texts with a blank between them are those of the first and, further on, those
of the second. -/
theorem lexemes_joined {cs ds : List Char} {w : Char} (blank : Text.isBlank w = true)
    (ended : ∀ p ∈ lexemes 0 cs, p.value ≠ .error .unterminatedText) :
    lexemes 0 (cs ++ w :: ds) =
      lexemes 0 cs ++ (lexemes 0 ds).map (Placed.moved (byteLength (cs ++ [w]))) := by
  obtain ⟨parts, cut⟩ := exists_cut cs
  obtain ⟨more, next⟩ := exists_cut ds
  have whole : ∀ chars, .lexeme chars (.error .unterminatedText) ∉ parts := by
    intro chars member
    obtain ⟨start, found⟩ := mem_outcomes member 0
    rw [← lexemes_cut cut] at found
    exact ended _ found rfl
  have follows : Follows (w :: ds) [] := by
    intro c hc
    cases hc
    exact .inr blank
  have joined := cut.append whole follows (.blank blank next)
  have size : byteLength (cs ++ [w]) = byteLength cs + w.utf8Size := byteLength_append cs [w]
  rw [lexemes_cut joined, lexemes_cut cut, lexemes_cut next, outcomes_append, cut.chars, outcomes,
    Nat.zero_add, ← size, ← outcomes_moved, Nat.add_zero]

namespace Tokens

theorem token?_moved (offset : Nat) (p : Placed (Except Mistake Token)) :
    token? (p.moved offset) = (token? p).map (Placed.moved offset) := by
  obtain ⟨position, outcome⟩ := p
  cases outcome <;> rfl

theorem mistake?_moved (offset : Nat) (p : Placed (Except Mistake Token)) :
    mistake? (p.moved offset) = (mistake? p).map (Placed.moved offset) := by
  obtain ⟨position, outcome⟩ := p
  cases outcome <;> rfl

theorem mistake_of_mem {found : List (Placed (Except Mistake Token))} {start : Nat}
    {mistake : Mistake} (h : ⟨start, .error mistake⟩ ∈ found) :
    ⟨start, mistake⟩ ∈ found.filterMap mistake? :=
  List.mem_filterMap.mpr ⟨_, h, rfl⟩

/-- A blank between two texts keeps them apart: of each the same tokens and the same mistakes are read
as when it stands alone, those of the second as much further on as there is text before it. Only a
quote that is missing in the first text reaches over the blank. -/
theorem blank_keeps_texts_apart (a b : String) (w : Char) (blank : Text.isBlank w = true)
    (ended : ∀ m ∈ (ofText a).mistakes, m.value ≠ .unterminatedText) :
    ofText (a ++ String.singleton w ++ b) =
      ⟨(ofText a).tokens ++
          (ofText b).tokens.map (Placed.moved (a ++ String.singleton w).utf8ByteSize),
        (ofText a).mistakes ++
          (ofText b).mistakes.map (Placed.moved (a ++ String.singleton w).utf8ByteSize)⟩ := by
  have chars : (a ++ String.singleton w ++ b).toList = a.toList ++ w :: b.toList := by simp
  have size : (a ++ String.singleton w).utf8ByteSize = byteLength (a.toList ++ [w]) := by
    rw [← utf8ByteSize_ofList]
    simp
  have whole : ∀ p ∈ lexemes 0 a.toList, p.value ≠ .error .unterminatedText := by
    rintro ⟨start, outcome⟩ member rfl
    exact ended _ (mistake_of_mem member) rfl
  simp only [ofText, chars, lexemes_joined blank whole, size, List.filterMap_append,
    List.filterMap_map, Function.comp_def, token?_moved, mistake?_moved, List.map_filterMap]

/-- An exponent that is cut short before a line break does not take the digit after it. -/
theorem blank_keeps_texts_apart_exponent :
    ofText "é eq 1e-\n5) \"x" =
      ⟨[⟨3, .operator .equal⟩, ⟨10, .literal (.number (.integer 5))⟩, ⟨11, .closing⟩],
        [⟨0, .unexpectedCharacter 'é'⟩, ⟨6, .invalidNumber "1e-"⟩, ⟨13, .unterminatedText⟩]⟩ := by
  have first : ofText "é eq 1e-" = ⟨[⟨3, .operator .equal⟩],
      [⟨0, .unexpectedCharacter 'é'⟩, ⟨6, .invalidNumber "1e-"⟩]⟩ := by decide +kernel
  have second : ofText "5) \"x" = ⟨[⟨0, .literal (.number (.integer 5))⟩, ⟨1, .closing⟩],
      [⟨3, .unterminatedText⟩]⟩ := by decide +kernel
  have joined := blank_keeps_texts_apart "é eq 1e-" "5) \"x" '\n' (by decide) (by simp [first])
  rw [first, second] at joined
  exact joined

end Tokens

end FilterSql
