import FilterSql.Proofs.ParserSteps
import FilterSql.Proofs.ExactDecimal

/-! What the tokens of a text can be, and when there are none. -/

namespace FilterSql

/-! ## Tokens that a text can have -/

/-- The words that are no identifiers, however their letters are cased. -/
def reservedWords : List String :=
  Operator.all.map Operator.keyword ++
    [Connective.and.keyword, Connective.or.keyword, Literal.booleanText true,
      Literal.booleanText false]

def Number.Lexable : Number → Prop
  | integer n => -2 ^ 63 ≤ n ∧ n < 2 ^ 63
  | decimal x => x.code.val ≤ Binary64.infinityCode

/-- A quoted text is a timestamp where it reads as an instant, and a text where it does not. -/
def Literal.Lexable : Literal → Prop
  | text s => Instant.ofText? s = none
  | number n => n.Lexable
  | boolean _ => True
  | timestamp raw instant => Instant.ofText? raw = some instant

def IsIdentifier (name : String) : Prop :=
  Text.isName name = true ∧ name.toLower ∉ reservedWords

def Token.Lexable : Token → Prop
  | identifier name => IsIdentifier name
  | literal value => value.Lexable
  | _ => True

instance : DecidablePred IsIdentifier := fun name =>
  inferInstanceAs (Decidable (Text.isName name = true ∧ name.toLower ∉ reservedWords))

instance : DecidablePred Number.Lexable
  | .integer n => inferInstanceAs (Decidable (-2 ^ 63 ≤ n ∧ n < 2 ^ 63))
  | .decimal x => inferInstanceAs (Decidable (x.code.val ≤ Binary64.infinityCode))

instance : DecidablePred Literal.Lexable
  | .text s => inferInstanceAs (Decidable (Instant.ofText? s = none))
  | .number n => inferInstanceAs (Decidable n.Lexable)
  | .boolean _ => isTrue trivial
  | .timestamp raw instant => inferInstanceAs (Decidable (Instant.ofText? raw = some instant))

theorem Literal.ofQuoted_lexable (s : String) : (ofQuoted s).Lexable := by
  unfold ofQuoted
  split
  · assumption
  · assumption

theorem NumberRun.number_lexable (r : NumberRun) : r.number.Lexable := by
  have value : r.numeral.value.code.val ≤ Binary64.infinityCode :=
    Binary64.ofDecimal_code_le _ _ _
  unfold number
  split
  · split
    · rename_i fits
      simpa [fitsWord, Number.Lexable] using fits
    · exact value
  · exact value

theorem Operator.ofWord?_eq_none {word : String} :
    Operator.ofWord? word = none ↔ word.toLower ∉ Operator.all.map Operator.keyword := by
  simp [Operator.ofWord?, List.find?_eq_none]

theorem Token.ofWord_lexable {word : String} (name : Text.isName word = true) :
    (ofWord word).Lexable := by
  unfold ofWord
  split
  · trivial
  · rename_i notOperator
    rw [Operator.ofWord?_eq_none] at notOperator
    dsimp only
    split
    · trivial
    split
    · trivial
    split
    · trivial
    split
    · trivial
    · refine ⟨name, ?_⟩
      simp_all [reservedWords, Connective.keyword, Literal.booleanText]

theorem Lexeme.word_isName {c : Char} (start : Text.isNameStart c = true) (cs : List Char) :
    Text.isName (String.ofList (c :: cs.takeWhile Text.isNameChar)) = true := by
  simp [Text.isName, Text.isNameChars, start, List.all_takeWhile]

/-- Whatever a lexeme gives is a token that a text can have. -/
theorem Lexeme.read_lexable {c : Char} {cs : List Char} {t : Token}
    (h : (read c cs).outcome = .ok t) : t.Lexable := by
  unfold read at h
  split at h
  · cases h
    trivial
  split at h
  · cases h
    trivial
  split at h
  · unfold quoted at h
    split at h
    · cases h
      exact Literal.ofQuoted_lexable _
    · cases h
  split at h
  · simp only [number] at h
    split at h
    · cases h
      exact NumberRun.number_lexable _
    · cases h
  split at h
  · rename_i start
    cases h
    exact Token.ofWord_lexable (word_isName start cs)
  · cases h

theorem lexemes_lexable (position : Nat) (cs : List Char) {start : Nat} {t : Token}
    (h : ⟨start, .ok t⟩ ∈ lexemes position cs) : t.Lexable := by
  fun_induction lexemes position cs with
  | case1 => simp at h
  | case2 position c cs blank ih => exact ih h
  | case3 position c cs solid lexeme taken ih =>
    rcases List.mem_cons.mp h with here | later
    · exact Lexeme.read_lexable (congrArg Placed.value here).symm
    · exact ih later

/-! ## Lexing -/

theorem lexemes_blank (position : Nat) {c : Char} (h : Text.isBlank c = true) (cs : List Char) :
    lexemes position (c :: cs) = lexemes (position + c.utf8Size) cs := by
  rw [lexemes, if_pos h]

theorem lexemes_solid (position : Nat) {c : Char} (h : Text.isBlank c = false) (cs : List Char) :
    ∃ next, lexemes position (c :: cs) =
      ⟨position, (Lexeme.read c cs).outcome⟩ :: lexemes next (Lexeme.read c cs).rest := by
  rw [lexemes, if_neg (by simp [h])]
  exact ⟨_, rfl⟩

theorem lexemes_eq_nil_iff (position : Nat) (cs : List Char) :
    lexemes position cs = [] ↔ cs.all Text.isBlank = true := by
  induction cs generalizing position with
  | nil => simp [lexemes]
  | cons c cs ih =>
    cases blank : Text.isBlank c with
    | true => rw [lexemes_blank position blank, ih, List.all_cons, blank, Bool.true_and]
    | false =>
      obtain ⟨next, shape⟩ := lexemes_solid position blank cs
      simp [shape, blank]

namespace Tokens

theorem parts_eq_nil_iff (found : List (Placed (Except Mistake Token))) :
    found.filterMap token? = [] ∧ found.filterMap mistake? = [] ↔ found = [] := by
  cases found with
  | nil => simp
  | cons p rest =>
    obtain ⟨position, outcome⟩ := p
    cases outcome <;> simp [token?, mistake?]

theorem lexable {s : String} {t : Placed Token} (h : t ∈ (ofText s).tokens) : t.value.Lexable := by
  obtain ⟨⟨position, outcome⟩, found, kept⟩ := List.mem_filterMap.mp h
  cases outcome with
  | ok token =>
    cases kept
    exact lexemes_lexable 0 s.toList found
  | error mistake => cases kept

/-- A text without mistakes has tokens unless it is blank. -/
theorem tokens_eq_nil_iff {s : String} (clean : (ofText s).mistakes = []) :
    (ofText s).tokens = [] ↔ Text.allBlank s = true := by
  have parts := parts_eq_nil_iff (lexemes 0 s.toList)
  rw [lexemes_eq_nil_iff] at parts
  constructor
  · intro absent
    exact parts.mp ⟨absent, clean⟩
  · intro blank
    exact (parts.mpr blank).1

end Tokens

/-- The check for tokens stops no text that has passed the checks before it. -/
theorem Filter.lexed_of_clean {s : String} (clean : (Tokens.ofText s).mistakes = [])
    (solid : Text.allBlank s = false) : Filter.lexed s = .ok (Tokens.ofText s).tokens := by
  have some : (Tokens.ofText s).tokens ≠ [] := by
    rw [ne_eq, Tokens.tokens_eq_nil_iff clean, solid]
    exact Bool.false_ne_true
  simp [Filter.lexed, clean, solid, some]

theorem Filter.lexed_of_mistakes {s : String} (wrong : (Tokens.ofText s).mistakes ≠ [])
    (solid : Text.allBlank s = false) :
    Filter.lexed s = .error (.lexical (Tokens.ofText s).mistakes) := by
  simp [Filter.lexed, wrong, solid]

theorem Filter.lexed_of_blank {s : String} (blank : Text.allBlank s = true) :
    Filter.lexed s = .error .empty := by
  simp [Filter.lexed, blank]

theorem Phrase.clean_of_ofText_ok {s : String} {phrase : Phrase}
    (h : Phrase.ofText s = .ok phrase) :
    (Tokens.ofText s).mistakes = [] ∧ Text.allBlank s = false := by
  cases blank : Text.allBlank s with
  | true =>
    rw [Phrase.ofText, Filter.lexed_of_blank blank] at h
    cases h
  | false =>
    refine ⟨?_, rfl⟩
    by_cases clean : (Tokens.ofText s).mistakes = []
    · exact clean
    · rw [Phrase.ofText, Filter.lexed_of_mistakes clean blank] at h
      cases h

theorem ofText_of_clean {s : String} (clean : (Tokens.ofText s).mistakes = [])
    (solid : Text.allBlank s = false) (p : Precedence) :
    Filter.ofText p s = Filter.ofTokens p (Tokens.ofText s).tokens := by
  rw [Filter.ofText, Filter.lexed_of_clean clean solid]
  rfl

end FilterSql
