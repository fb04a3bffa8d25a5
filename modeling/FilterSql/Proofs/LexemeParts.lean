import FilterSql.Proofs.SpelledTokens

/-!
Texts cut into blanks and lexemes. A lexeme is settled by its own characters and at most one more, so
cut out of its text it still gives what it gave there; and the lexemes of a text, with the blanks
between them, are all of it.
-/

namespace FilterSql

/-! ## What settles a lexeme -/

/-- Another way for a text to go on: with the same character as before, with a blank, or not at all. -/
def Follows (r rest : List Char) : Prop :=
  ∀ c ∈ r.head?, rest.head? = some c ∨ Text.isBlank c = true

theorem follows_nil (rest : List Char) : Follows [] rest := by
  intro c hc
  cases hc

theorem follows_append (front : List Char) {r rest : List Char} (h : Follows r rest) :
    Follows (front ++ r) (front ++ rest) := by
  cases front with
  | nil => exact h
  | cons d front =>
    intro c hc
    exact .inl hc

theorem follows_refl (rest : List Char) : Follows rest rest := by
  intro c hc
  exact .inl hc

/-- No other way to go on starts with a solid character that the first one does not start with. -/
theorem Follows.head_ne {r rest : List Char} (h : Follows r rest) {c : Char}
    (solid : Text.isBlank c = false) (ne : rest.head? ≠ some c) : r.head? ≠ some c := by
  intro same
  rcases h c same with same' | blank
  · exact ne same'
  · rw [solid] at blank
    cases blank

/-- What is taken from the front of this text stays the same however the text goes on after it. -/
def SettledAt {α : Type} (taken : List Char → α) (left : List Char → List Char) (cs : List Char) :
    Prop :=
  ∃ front, cs = front ++ left cs ∧
    ∀ r, Follows r (left cs) → taken (front ++ r) = taken cs ∧ left (front ++ r) = r

def Settled {α : Type} (taken : List Char → α) (left : List Char → List Char) : Prop :=
  ∀ cs, SettledAt taken left cs

/-- Where nothing is taken, it is the way to go on that decides so. -/
theorem settledAt_nothing {α : Type} {taken : List Char → α} {left : List Char → List Char}
    {cs : List Char} {x : α} (h : ∀ r, Follows r cs → (taken r, left r) = (x, r)) :
    SettledAt taken left cs := by
  obtain ⟨here, rest⟩ := Prod.mk.inj (h cs (follows_refl cs))
  refine ⟨[], by rw [rest, List.nil_append], ?_⟩
  intro r follows
  rw [rest] at follows
  obtain ⟨there, rest'⟩ := Prod.mk.inj (h r follows)
  rw [List.nil_append, here]
  exact ⟨there, rest'⟩

/-- Taking one thing after another is settled when both are. -/
theorem Settled.seq {α β γ : Type} {taken : List Char → α} {taken' : List Char → β}
    {left left' : List Char → List Char} (h : Settled taken left) (h' : Settled taken' left')
    (f : α → β → γ) :
    Settled (fun cs => f (taken cs) (taken' (left cs))) (fun cs => left' (left cs)) := by
  intro cs
  obtain ⟨front, cut, settled⟩ := h cs
  obtain ⟨front', cut', settled'⟩ := h' (left cs)
  refine ⟨front ++ front', ?_, ?_⟩
  · rw [List.append_assoc, ← cut', ← cut]
  · intro r follows
    have goesOn : Follows (front' ++ r) (left cs) := by
      rw [cut']
      exact follows_append front' follows
    obtain ⟨first, rest⟩ := settled (front' ++ r) goesOn
    obtain ⟨second, rest'⟩ := settled' r follows
    simp only [List.append_assoc, first, rest, second, rest', and_self]

theorem span_settled {p : Char → Bool} (solid : ∀ c, Text.isBlank c = true → p c = false) :
    Settled (List.takeWhile p) (List.dropWhile p) := by
  intro cs
  refine ⟨cs.takeWhile p, List.takeWhile_append_dropWhile.symm, ?_⟩
  intro r follows
  have inside : ∀ c ∈ cs.takeWhile p, p c = true := List.all_eq_true.mp List.all_takeWhile
  have outside : ∀ c ∈ r.head?, p c = false := by
    intro c hc
    rcases follows c hc with same | blank
    · have stop := List.head?_dropWhile_not p cs
      rw [same] at stop
      exact stop
    · exact solid c blank
  exact span_append inside outside

theorem not_isNameChar_of_isBlank {c : Char} (h : Text.isBlank c = true) :
    Text.isNameChar c = false := by
  cases name : Text.isNameChar c with
  | false => rfl
  | true =>
    have solid := not_blank_of_isNameChar name
    rw [h] at solid
    cases solid

theorem names_settled : Settled (List.takeWhile Text.isNameChar) (List.dropWhile Text.isNameChar) :=
  span_settled fun _ => not_isNameChar_of_isBlank

theorem digits_settled : Settled (List.takeWhile Char.isDigit) (List.dropWhile Char.isDigit) := by
  apply span_settled
  intro c blank
  cases digit : c.isDigit with
  | false => rfl
  | true =>
    have outside := not_isNameChar_of_isBlank blank
    rw [isNameChar_of_isDigit digit] at outside
    cases outside

namespace NumberRun

theorem takeFraction_of_ne {cs : List Char} (ne : cs.head? ≠ some '.') :
    takeFraction cs = (none, cs) := by
  unfold takeFraction
  split
  · exact absurd rfl ne
  · rfl

theorem takeSign_of_ne {cs : List Char} (plus : cs.head? ≠ some '+') (minus : cs.head? ≠ some '-') :
    takeSign cs = (none, cs) := by
  unfold takeSign
  split
  · exact absurd rfl plus
  · exact absurd rfl minus
  · rfl

theorem takeExponent_of_ne {cs : List Char} (small : cs.head? ≠ some 'e')
    (large : cs.head? ≠ some 'E') : takeExponent cs = (none, cs) := by
  cases cs with
  | nil => rfl
  | cons c cs =>
    have notSmall : c ≠ 'e' := fun same => small (congrArg some same)
    have notLarge : c ≠ 'E' := fun same => large (congrArg some same)
    simp [takeExponent, notSmall, notLarge]

theorem takeExponent_mark {mark : Char} (h : mark = 'e' ∨ mark = 'E') (cs : List Char) :
    takeExponent (mark :: cs) =
      (some ⟨(takeSign cs).1, (takeSign cs).2.takeWhile Char.isDigit⟩,
        (takeSign cs).2.dropWhile Char.isDigit) := by
  rcases h with rfl | rfl
  · rfl
  · rfl

theorem takeFraction_settled :
    Settled (fun cs => (takeFraction cs).1) (fun cs => (takeFraction cs).2) := by
  intro cs
  by_cases point : cs.head? = some '.'
  · obtain ⟨rest, rfl⟩ := List.head?_eq_some_iff.mp point
    obtain ⟨front, cut, settled⟩ := digits_settled rest
    refine ⟨'.' :: front, congrArg ('.' :: ·) cut, ?_⟩
    intro r follows
    obtain ⟨taken, left⟩ := settled r follows
    exact ⟨congrArg some taken, left⟩
  · apply settledAt_nothing
    intro r follows
    exact takeFraction_of_ne (follows.head_ne (by decide) point)

theorem takeSign_settled : Settled (fun cs => (takeSign cs).1) (fun cs => (takeSign cs).2) := by
  intro cs
  by_cases plus : cs.head? = some '+'
  · obtain ⟨rest, rfl⟩ := List.head?_eq_some_iff.mp plus
    exact ⟨['+'], rfl, fun r _ => ⟨rfl, rfl⟩⟩
  by_cases minus : cs.head? = some '-'
  · obtain ⟨rest, rfl⟩ := List.head?_eq_some_iff.mp minus
    exact ⟨['-'], rfl, fun r _ => ⟨rfl, rfl⟩⟩
  · apply settledAt_nothing
    intro r follows
    exact takeSign_of_ne (follows.head_ne (by decide) plus) (follows.head_ne (by decide) minus)

theorem takeExponent_settled :
    Settled (fun cs => (takeExponent cs).1) (fun cs => (takeExponent cs).2) := by
  have signed := takeSign_settled.seq digits_settled ExponentPart.mk
  intro cs
  have marked (mark : Char) (isMark : mark = 'e' ∨ mark = 'E') (rest : List Char) :
      SettledAt (fun cs => (takeExponent cs).1) (fun cs => (takeExponent cs).2) (mark :: rest) := by
    obtain ⟨front, cut, settled⟩ := signed rest
    refine ⟨mark :: front, ?_, ?_⟩
    · simp only [takeExponent_mark isMark]
      exact congrArg (mark :: ·) cut
    · intro r follows
      simp only [List.cons_append, takeExponent_mark isMark] at follows ⊢
      obtain ⟨taken, left⟩ := settled r follows
      exact ⟨congrArg some taken, left⟩
  by_cases small : cs.head? = some 'e'
  · obtain ⟨rest, rfl⟩ := List.head?_eq_some_iff.mp small
    exact marked 'e' (.inl rfl) rest
  by_cases large : cs.head? = some 'E'
  · obtain ⟨rest, rfl⟩ := List.head?_eq_some_iff.mp large
    exact marked 'E' (.inr rfl) rest
  · apply settledAt_nothing
    intro r follows
    exact takeExponent_of_ne (follows.head_ne (by decide) small) (follows.head_ne (by decide) large)

theorem take_settled (c : Char) : Settled (fun cs => (take c cs).1) (fun cs => (take c cs).2) := by
  have parts := (digits_settled.seq takeFraction_settled Prod.mk).seq takeExponent_settled Prod.mk
  exact parts.seq names_settled fun (parts : (List Char × Option (List Char)) × Option ExponentPart)
    glued => NumberRun.mk (c == '-') ((if c == '-' then [] else [c]) ++ parts.1.1) parts.1.2 parts.2
      glued

end NumberRun

namespace Lexeme

theorem takeQuoted_plain {c : Char} (notQuote : c ≠ '"') (notEscape : c ≠ '\\') (cs : List Char) :
    takeQuoted (c :: cs) = (takeQuoted cs).map fun (text, rest) => (c :: text, rest) := by
  rw [takeQuoted]
  · exact notQuote
  · intro same
    exact absurd same notEscape
  · intro d r same
    exact absurd same notEscape

theorem takeQuoted_settled {cs text rest : List Char} (h : takeQuoted cs = some (text, rest)) :
    ∃ front, cs = front ++ rest ∧ ∀ r, takeQuoted (front ++ r) = some (text, r) := by
  fun_induction takeQuoted cs generalizing text rest with
  | case1 => simp at h
  | case2 cs =>
    simp only [Option.some.injEq, Prod.mk.injEq] at h
    obtain ⟨rfl, rfl⟩ := h
    exact ⟨['"'], rfl, fun r => rfl⟩
  | case3 => simp at h
  | case4 c cs ih =>
    simp only [Option.map_eq_some_iff, Prod.mk.injEq, Prod.exists] at h
    obtain ⟨t, r, found, rfl, rfl⟩ := h
    obtain ⟨front, rfl, settled⟩ := ih found
    refine ⟨'\\' :: c :: front, rfl, ?_⟩
    intro r
    simp [takeQuoted, settled]
  | case5 c cs notQuote notLone notEscape ih =>
    have solid : c ≠ '\\' := by
      intro same
      cases cs with
      | nil => exact notLone same rfl
      | cons d r => exact notEscape d r same rfl
    simp only [Option.map_eq_some_iff, Prod.mk.injEq, Prod.exists] at h
    obtain ⟨t, r, found, rfl, rfl⟩ := h
    obtain ⟨front, rfl, settled⟩ := ih found
    refine ⟨c :: front, rfl, ?_⟩
    intro r
    rw [List.cons_append, takeQuoted_plain notQuote solid, settled]
    rfl

/-- A character alone decides how its lexeme is read. -/
theorem read_cases (c : Char) :
    (∃ outcome, outcome ≠ .error .unterminatedText ∧ read c = fun cs => ⟨outcome, cs⟩) ∨
      read c = quoted ∨ read c = number c ∨ read c = word c := by
  by_cases opening : c = '('
  · exact .inl ⟨.ok .opening, by simp, by funext cs; simp [read, opening]⟩
  by_cases closing : c = ')'
  · exact .inl ⟨.ok .closing, by simp, by funext cs; simp [read, closing]⟩
  by_cases quote : c = '"'
  · exact .inr (.inl (by funext cs; simp [read, quote]))
  by_cases start : c.isDigit = true ∨ c = '-'
  · exact .inr (.inr (.inl (funext (read_number start))))
  by_cases letter : Text.isNameStart c = true
  · exact .inr (.inr (.inr (funext (read_word letter))))
  · refine .inl ⟨.error (.unexpectedCharacter c), by simp, ?_⟩
    funext cs
    simp_all [read]

/-- The lexeme misses its end and takes the whole text, or it is settled where it ends. -/
def Bounded (read : List Char → Lexeme) (cs : List Char) : Prop :=
  (read cs).outcome = .error .unterminatedText ∧ (read cs).rest = [] ∨
    (read cs).outcome ≠ .error .unterminatedText ∧
      SettledAt (fun cs => (read cs).outcome) (fun cs => (read cs).rest) cs

theorem quoted_bounded (cs : List Char) : Bounded quoted cs := by
  cases found : takeQuoted cs with
  | none => exact .inl (by simp [quoted, found])
  | some taken =>
    obtain ⟨text, rest⟩ := taken
    obtain ⟨front, cut, settled⟩ := takeQuoted_settled found
    refine .inr ⟨by simp [quoted, found], front, by simpa [quoted, found] using cut, ?_⟩
    intro r _
    simp [quoted, found, settled]

theorem number_bounded (c : Char) (cs : List Char) : Bounded (number c) cs := by
  have outcome (cs : List Char) : (number c cs).outcome =
      if (NumberRun.take c cs).1.isValid then .ok (.literal (.number (NumberRun.take c cs).1.number))
      else .error (.invalidNumber (NumberRun.take c cs).1.spelling) := by
    simp only [number]
    split <;> rfl
  have rest (cs : List Char) : (number c cs).rest = (NumberRun.take c cs).2 := by
    simp only [number]
    split <;> rfl
  obtain ⟨front, cut, settled⟩ := NumberRun.take_settled c cs
  refine .inr ⟨?_, front, ?_, ?_⟩
  · rw [outcome]
    split <;> simp
  · simpa only [rest] using cut
  · intro r follows
    simp only [outcome, rest] at follows ⊢
    obtain ⟨taken, left⟩ := settled r follows
    dsimp only at taken
    rw [taken]
    exact ⟨rfl, left⟩

theorem word_bounded (c : Char) (cs : List Char) : Bounded (word c) cs := by
  obtain ⟨front, cut, settled⟩ := names_settled cs
  refine .inr ⟨by simp [word], front, cut, ?_⟩
  intro r follows
  obtain ⟨taken, left⟩ := settled r follows
  simp only [word, taken, true_and]
  exact left

theorem read_bounded (c : Char) (cs : List Char) : Bounded (read c) cs := by
  obtain ⟨outcome, ended, shape⟩ | shape | shape | shape := read_cases c
  · rw [shape]
    exact .inr ⟨ended, [], rfl, fun r _ => ⟨rfl, rfl⟩⟩
  · rw [shape]
    exact quoted_bounded cs
  · rw [shape]
    exact number_bounded c cs
  · rw [shape]
    exact word_bounded c cs

theorem read_unterminated {c : Char} {cs rest : List Char}
    (h : read c cs = ⟨.error .unterminatedText, rest⟩) : rest = [] := by
  rcases read_bounded c cs with ⟨-, ended⟩ | ⟨goesOn, -⟩
  · rw [h] at ended
    exact ended
  · rw [h] at goesOn
    exact absurd rfl goesOn

/-- A lexeme that has its end is read the same however the text goes on. -/
theorem read_follows {c : Char} {front rest r : List Char} {outcome : Except Mistake Token}
    (h : read c (front ++ rest) = ⟨outcome, rest⟩) (ended : outcome ≠ .error .unterminatedText)
    (follows : Follows r rest) : read c (front ++ r) = ⟨outcome, r⟩ := by
  rcases read_bounded c (front ++ rest) with ⟨unended, -⟩ | ⟨-, front', cut, settled⟩
  · rw [h] at unended
    exact absurd unended ended
  · simp only [h] at cut settled
    obtain rfl := List.append_cancel_right cut
    obtain ⟨same, left⟩ := settled r follows
    calc read c (front ++ r)
      _ = ⟨(read c (front ++ r)).outcome, (read c (front ++ r)).rest⟩ := rfl
      _ = ⟨outcome, r⟩ := by rw [same, left]

/-- A lexeme taken out of its text is read as it was read there. -/
theorem read_alone {c : Char} {front rest : List Char} {outcome : Except Mistake Token}
    (h : read c (front ++ rest) = ⟨outcome, rest⟩) : read c front = ⟨outcome, []⟩ := by
  by_cases ended : outcome = .error .unterminatedText
  · subst ended
    obtain rfl := read_unterminated h
    rwa [List.append_nil] at h
  · have alone := read_follows h ended (follows_nil rest)
    rwa [List.append_nil] at alone

end Lexeme

/-! ## Cutting a text -/

/-- A part of a text: a blank, or a lexeme with what it gives. -/
inductive Part
  | blank (c : Char)
  | lexeme (chars : List Char) (outcome : Except Mistake Token)

def Part.chars : Part → List Char
  | blank c => [c]
  | lexeme chars _ => chars

/-- What the lexemes among the parts give, where the first part starts at the given byte offset. -/
def outcomes (position : Nat) : List Part → List (Placed (Except Mistake Token))
  | [] => []
  | .blank c :: parts => outcomes (position + c.utf8Size) parts
  | .lexeme chars outcome :: parts =>
    ⟨position, outcome⟩ :: outcomes (position + byteLength chars) parts

/-- The parts of a text, each lexeme read where it stands. -/
inductive Cut : List Char → List Part → Prop
  | nil : Cut [] []
  | blank {c : Char} {cs : List Char} {parts : List Part} (isBlank : Text.isBlank c = true) :
      Cut cs parts → Cut (c :: cs) (.blank c :: parts)
  | lexeme {c : Char} {front rest : List Char} {outcome : Except Mistake Token}
      {parts : List Part} (solid : Text.isBlank c = false)
      (read : Lexeme.read c (front ++ rest) = ⟨outcome, rest⟩) :
      Cut rest parts → Cut (c :: (front ++ rest)) (.lexeme (c :: front) outcome :: parts)

theorem exists_cut (cs : List Char) : ∃ parts, Cut cs parts := by
  fun_induction lexemes 0 cs with
  | case1 => exact ⟨[], .nil⟩
  | case2 position c cs blank ih =>
    obtain ⟨parts, cut⟩ := ih
    exact ⟨.blank c :: parts, .blank blank cut⟩
  | case3 position c cs solid lexeme taken ih =>
    obtain ⟨parts, cut⟩ := ih
    obtain ⟨front, whole⟩ := Lexeme.read_suffix c cs
    have read : Lexeme.read c (front ++ lexeme.rest) = ⟨lexeme.outcome, lexeme.rest⟩ := by
      rw [whole]
    have made := Cut.lexeme (by simpa using solid) read cut
    rw [whole] at made
    exact ⟨_, made⟩

theorem lexemes_lexeme {c : Char} {front rest : List Char} {outcome : Except Mistake Token}
    (solid : Text.isBlank c = false) (read : Lexeme.read c (front ++ rest) = ⟨outcome, rest⟩)
    (position : Nat) :
    lexemes position (c :: (front ++ rest)) =
      ⟨position, outcome⟩ :: lexemes (position + byteLength (c :: front)) rest := by
  have taken : (c :: (front ++ rest)).take ((front ++ rest).length + 1 - rest.length) =
      c :: front := by
    rw [← List.cons_append]
    apply List.take_left'
    simp
    omega
  rw [lexemes, if_neg (by simp [solid])]
  simp only [read, taken]

theorem lexemes_cut {cs : List Char} {parts : List Part} (cut : Cut cs parts) (position : Nat) :
    lexemes position cs = outcomes position parts := by
  induction cut generalizing position with
  | nil => rw [lexemes, outcomes]
  | blank isBlank _ ih => rw [lexemes_blank position isBlank, outcomes, ih]
  | lexeme solid read _ ih => rw [lexemes_lexeme solid read, outcomes, ih]

/-! ## Byte offsets -/

theorem byteLength_append (cs ds : List Char) :
    byteLength (cs ++ ds) = byteLength cs + byteLength ds := by
  induction cs with
  | nil => simp [byteLength]
  | cons c cs ih => simp [byteLength, ih, Nat.add_assoc]

theorem byteLength_pos {cs : List Char} (h : cs ≠ []) : 0 < byteLength cs := by
  obtain ⟨c, cs, rfl⟩ := List.exists_cons_of_ne_nil h
  have positive := c.utf8Size_pos
  rw [byteLength]
  omega

theorem utf8ByteSize_ofList (cs : List Char) :
    (String.ofList cs).utf8ByteSize = byteLength cs := by
  induction cs with
  | nil => rfl
  | cons c cs ih =>
    rw [String.ofList_cons, String.utf8ByteSize_append, String.utf8ByteSize_singleton, ih, byteLength]

/-! ## What is true of all parts -/

namespace Cut

variable {cs : List Char} {parts : List Part}

theorem chars (cut : Cut cs parts) : parts.flatMap Part.chars = cs := by
  induction cut with
  | nil => rfl
  | blank _ _ ih => rw [List.flatMap_cons, ih, Part.chars, List.singleton_append]
  | lexeme _ _ _ ih => rw [List.flatMap_cons, ih, Part.chars, List.cons_append]

theorem isBlank (cut : Cut cs parts) {c : Char} (h : .blank c ∈ parts) :
    Text.isBlank c = true := by
  induction cut with
  | nil => cases h
  | blank here _ ih =>
    rcases List.mem_cons.mp h with same | later
    · cases same
      exact here
    · exact ih later
  | lexeme _ _ _ ih =>
    rcases List.mem_cons.mp h with same | later
    · cases same
    · exact ih later

/-- A lexeme taken out of the text is read as it was read there. -/
theorem read_alone (cut : Cut cs parts) {chars : List Char} {outcome : Except Mistake Token}
    (h : .lexeme chars outcome ∈ parts) :
    ∃ c front, chars = c :: front ∧ Text.isBlank c = false ∧
      Lexeme.read c front = ⟨outcome, []⟩ := by
  induction cut with
  | nil => cases h
  | blank _ _ ih =>
    rcases List.mem_cons.mp h with same | later
    · cases same
    · exact ih later
  | @lexeme c front rest outcome' parts solid read _ ih =>
    rcases List.mem_cons.mp h with same | later
    · cases same
      exact ⟨c, front, rfl, solid, Lexeme.read_alone read⟩
    · exact ih later

/-- A lexeme is all that its characters give when nothing stands around them. -/
theorem alone (cut : Cut cs parts) {chars : List Char} {outcome : Except Mistake Token}
    (h : .lexeme chars outcome ∈ parts) :
    chars ≠ [] ∧ lexemes 0 chars = [⟨0, outcome⟩] := by
  obtain ⟨c, front, rfl, solid, read⟩ := cut.read_alone h
  obtain ⟨next, shape⟩ := lexemes_solid 0 solid front
  rw [read, lexemes] at shape
  exact ⟨List.cons_ne_nil _ _, shape⟩

theorem eq_nil (cut : Cut [] parts) : parts = [] := by
  cases cut
  rfl

/-- Nothing stands after a text that misses its closing quote. -/
theorem unterminated_last (cut : Cut cs parts) {chars : List Char} {before after : List Part}
    (h : parts = before ++ .lexeme chars (.error .unterminatedText) :: after) : after = [] := by
  induction cut generalizing before with
  | nil => simp at h
  | blank _ _ ih =>
    cases before with
    | nil => cases h
    | cons part before => exact ih (List.cons.inj h).2
  | @lexeme c front rest outcome parts _ read later ih =>
    cases before with
    | cons part before => exact ih (List.cons.inj h).2
    | nil =>
      obtain ⟨same, rfl⟩ := List.cons.inj h
      cases same
      obtain rfl := Lexeme.read_unterminated read
      exact later.eq_nil

theorem unterminated_once (cut : Cut cs parts) (position : Nat) :
    (((outcomes position parts).filterMap Tokens.mistake?).map Placed.value).count
      .unterminatedText ≤ 1 := by
  induction cut generalizing position with
  | nil => simp [outcomes]
  | blank _ _ ih => exact ih _
  | @lexeme c front rest outcome parts _ read later ih =>
    cases outcome with
    | ok token => exact ih _
    | error mistake =>
      by_cases ended : mistake = .unterminatedText
      · subst ended
        obtain rfl := Lexeme.read_unterminated read
        obtain rfl := later.eq_nil
        simp [outcomes, Tokens.mistake?]
      · have rest := ih (position + byteLength (c :: front))
        simpa [outcomes, Tokens.mistake?, List.count_cons, ended] using rest

/-- Every lexeme stands in the text where its offset says, with the characters that give it alone. -/
theorem stands (cut : Cut cs parts) {position : Nat} {found : Placed (Except Mistake Token)}
    (h : found ∈ outcomes position parts) :
    ∃ before chars after, cs = before ++ (chars ++ after) ∧
      found.position = position + byteLength before ∧ lexemes 0 chars = [⟨0, found.value⟩] := by
  induction cut generalizing position with
  | nil => simp [outcomes] at h
  | @blank c cs parts _ _ ih =>
    obtain ⟨before, chars, after, rfl, start, alone⟩ := ih h
    refine ⟨c :: before, chars, after, rfl, ?_, alone⟩
    rw [start, byteLength, Nat.add_assoc]
  | @lexeme c front rest outcome parts solid read later ih =>
    rcases List.mem_cons.mp h with rfl | further
    · have alone := (Cut.lexeme solid read later).alone (List.mem_cons_self ..)
      exact ⟨[], c :: front, rest, rfl, rfl, alone.2⟩
    · obtain ⟨before, chars, after, rfl, start, alone⟩ := ih further
      refine ⟨c :: front ++ before, chars, after, by simp, ?_, alone⟩
      rw [byteLength_append]
      omega

/-- Every lexeme starts where a character of the text does. -/
theorem boundary (cut : Cut cs parts) {position : Nat} {found : Placed (Except Mistake Token)}
    (h : found ∈ outcomes position parts) :
    ∃ before after, cs = before ++ after ∧ after ≠ [] ∧
      found.position = position + byteLength before := by
  obtain ⟨before, chars, after, rfl, start, alone⟩ := cut.stands h
  refine ⟨before, chars ++ after, rfl, ?_, start⟩
  intro none
  obtain ⟨rfl, -⟩ := List.append_eq_nil_iff.mp none
  simp [lexemes] at alone

/-- Every lexeme starts after the one before it. -/
theorem increasing (cut : Cut cs parts) (position : Nat) :
    ((outcomes position parts).map Placed.position).Pairwise (· < ·) := by
  induction cut generalizing position with
  | nil => exact .nil
  | blank _ _ ih => exact ih _
  | @lexeme c front rest outcome parts _ _ later ih =>
    refine List.pairwise_cons.mpr ⟨?_, ih _⟩
    intro start hs
    obtain ⟨found, member, rfl⟩ := List.mem_map.mp hs
    obtain ⟨before, after, -, -, start⟩ := later.boundary member
    have positive := byteLength_pos (List.cons_ne_nil c front)
    dsimp only
    omega

/-- Every lexeme has a character of its own that is not blank. -/
theorem length_le (cut : Cut cs parts) (position : Nat) :
    (outcomes position parts).length ≤ cs.countP fun c => !Text.isBlank c := by
  induction cut generalizing position with
  | nil => simp [outcomes]
  | @blank c cs parts isBlank _ ih =>
    have rest := ih (position + c.utf8Size)
    simpa [outcomes, List.countP_cons, isBlank] using rest
  | @lexeme c front rest outcome parts solid _ _ ih =>
    have rest := ih (position + byteLength (c :: front))
    simp only [outcomes, List.length_cons, List.countP_cons, List.countP_append, solid]
    simp
    omega

end Cut

/-! ## Tokens and mistakes -/

/-- A token as a lexeme gives it. -/
def Placed.found (t : Placed Token) : Placed (Except Mistake Token) :=
  ⟨t.position, .ok t.value⟩

namespace Tokens

theorem found_of_clean {found : List (Placed (Except Mistake Token))}
    (clean : found.filterMap mistake? = []) : found = (found.filterMap token?).map Placed.found := by
  induction found with
  | nil => rfl
  | cons p found ih =>
    obtain ⟨position, outcome⟩ := p
    cases outcome with
    | ok token => exact congrArg (_ :: ·) (ih clean)
    | error mistake => cases clean

/-- The tokens of a text without mistakes are all its lexemes. -/
theorem ofText_eq_iff {s : String} {ts : List (Placed Token)} :
    ofText s = ⟨ts, []⟩ ↔ lexemes 0 s.toList = ts.map Placed.found := by
  constructor
  · intro lexed
    obtain ⟨tokens, clean⟩ := Tokens.mk.inj lexed
    rw [← tokens]
    exact found_of_clean clean
  · intro found
    have tokens : ts.filterMap (token? ∘ Placed.found) = ts := List.filterMap_some
    have mistakes : ts.filterMap (mistake? ∘ Placed.found) = [] := List.filterMap_none ts
    simp only [ofText, found, List.filterMap_map, tokens, mistakes]

/-- What a text gives that is a single lexeme. -/
def ofOutcome : Except Mistake Token → Tokens
  | .ok token => ⟨[⟨0, token⟩], []⟩
  | .error mistake => ⟨[], [⟨0, mistake⟩]⟩

theorem length_parts (found : List (Placed (Except Mistake Token))) :
    (found.filterMap token?).length + (found.filterMap mistake?).length = found.length := by
  induction found with
  | nil => rfl
  | cons p found ih =>
    obtain ⟨position, outcome⟩ := p
    cases outcome with
    | ok token =>
      simp [List.filterMap_cons, token?, mistake?]
      omega
    | error mistake =>
      simp [List.filterMap_cons, token?, mistake?]
      omega

/-- Between its blanks a text is made of lexemes, each of which gives one token or one mistake, the
same that it gives alone, at the byte offset where it starts. So offsets grow from one lexeme to the
next, each is the start of a character, there are no more lexemes than characters that are not blank,
and a text that misses its closing quote ends everything. -/
theorem text_is_blanks_and_lexemes (s : String) :
    ∃ parts : List Part, parts.flatMap Part.chars = s.toList ∧
      (∀ c, .blank c ∈ parts → Text.isBlank c = true) ∧
      (∀ chars outcome, .lexeme chars outcome ∈ parts →
        chars ≠ [] ∧ ofText (String.ofList chars) = ofOutcome outcome) ∧
      (ofText s).tokens = (outcomes 0 parts).filterMap token? ∧
      (ofText s).mistakes = (outcomes 0 parts).filterMap mistake? ∧
      ((outcomes 0 parts).map Placed.position).Pairwise (· < ·) ∧
      (∀ found ∈ outcomes 0 parts, String.Pos.Raw.IsValid s ⟨found.position⟩ ∧
        found.position < s.utf8ByteSize) ∧
      (ofText s).tokens.length + (ofText s).mistakes.length ≤
        s.toList.countP (fun c => !Text.isBlank c) ∧
      ((ofText s).mistakes.map Placed.value).count .unterminatedText ≤ 1 ∧
      ∀ before chars after, parts = before ++ .lexeme chars (.error .unterminatedText) :: after →
        after = [] := by
  obtain ⟨parts, cut⟩ := exists_cut s.toList
  have found := lexemes_cut cut 0
  refine ⟨parts, cut.chars, fun c => cut.isBlank, ?_, ?_, ?_, cut.increasing 0, ?_, ?_, ?_, ?_⟩
  · intro chars outcome member
    obtain ⟨solid, alone⟩ := cut.alone member
    refine ⟨solid, ?_⟩
    simp only [ofText, String.toList_ofList, alone]
    cases outcome <;> rfl
  · simp only [ofText, found]
  · simp only [ofText, found]
  · intro p member
    obtain ⟨before, after, whole, solid, start⟩ := cut.boundary member
    have text : s = String.ofList before ++ String.ofList after := by
      rw [← String.ofList_append, ← whole, String.ofList_toList]
    have size := byteLength_pos solid
    rw [Nat.zero_add, ← utf8ByteSize_ofList] at start
    rw [← utf8ByteSize_ofList] at size
    refine ⟨String.Pos.Raw.isValid_iff_exists_append.mpr ⟨_, _, text, ?_⟩, ?_⟩
    · rw [start]
      rfl
    · rw [text, String.utf8ByteSize_append]
      omega
  · simp only [ofText, found, length_parts]
    exact cut.length_le 0
  · simp only [ofText, found]
    exact cut.unterminated_once 0
  · intro before chars after
    exact cut.unterminated_last

end Tokens

end FilterSql
