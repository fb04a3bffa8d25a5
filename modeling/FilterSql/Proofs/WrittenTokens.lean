import FilterSql.Proofs.InstantText
import FilterSql.Proofs.LexemeParts
import Mathlib.Data.List.Forall2

/-!
Tokens written in free layout: reserved words in any case, whole numbers with zeros in front, quoted
texts of any characters, and blanks wherever someone likes, as long as words and numbers do not touch.
Whatever the layout, the text gives back the tokens, each where its spelling starts.
-/

namespace FilterSql

/-! ## Reserved words in any case -/

/-- The word, with each of its letters in either case. -/
def Recased (chars : List Char) (word : String) : Prop :=
  List.Forall₂ (fun c letter => c = letter ∨ c = letter.toUpper) chars word.toList

instance (chars : List Char) (word : String) : Decidable (Recased chars word) :=
  inferInstanceAs (Decidable (List.Forall₂ _ chars word.toList))

theorem toLower_of_isLower {c : Char} (h : c.isLower = true) : c.toLower = c := by
  delta Char.isLower at h
  simp only [Bool.and_eq_true, decide_eq_true_eq] at h
  have notUpper : ¬(c.val ≥ 'A'.val ∧ c.val ≤ 'Z'.val) := by
    simp [UInt32.le_iff_toNat_le] at h ⊢
    omega
  delta Char.toLower
  rw [dif_neg notUpper]

/-- The capital of a small letter is a letter, and its small form is the letter again. -/
theorem toUpper_of_isLower {c : Char} (h : c.isLower = true) :
    c.toUpper.isUpper = true ∧ c.toUpper.toLower = c := by
  delta Char.isLower at h
  simp only [Bool.and_eq_true, decide_eq_true_eq] at h
  delta Char.toUpper Char.isUpper Char.toLower
  rw [dif_pos h]
  have upper : c.val + ('A'.val - 'a'.val) ≥ 'A'.val ∧ c.val + ('A'.val - 'a'.val) ≤ 'Z'.val := by
    simp [UInt32.le_iff_toNat_le] at h ⊢
    omega
  rw [dif_pos upper]
  refine ⟨by simpa using upper, ?_⟩
  apply Char.ext
  grind

theorem isNameStart_of_isUpper {c : Char} (h : c.isUpper = true) : Text.isNameStart c = true := by
  have letter : c.isAlpha = true := by
    delta Char.isAlpha
    rw [h, Bool.true_or]
  rw [Text.isNameStart, letter, Bool.true_or]

theorem isNameStart_of_isLower {c : Char} (h : c.isLower = true) : Text.isNameStart c = true := by
  have letter : c.isAlpha = true := by
    delta Char.isAlpha
    rw [h, Bool.or_true]
  rw [Text.isNameStart, letter, Bool.true_or]

theorem reserved_letters {word : String} (h : word ∈ reservedWords) :
    word.toList ≠ [] ∧ ∀ c ∈ word.toList, c.isLower = true := by
  have checked : reservedWords.all (fun word =>
      !word.toList.isEmpty && word.toList.all Char.isLower) = true := rfl
  simpa using List.all_eq_true.mp checked word h

namespace Recased

variable {chars : List Char} {word : String}

theorem letters (cased : Recased chars word) (lower : ∀ c ∈ word.toList, c.isLower = true) :
    chars.map Char.toLower = word.toList ∧ ∀ c ∈ chars, Text.isNameStart c = true := by
  unfold Recased at cased
  generalize word.toList = letters at cased lower
  induction cased with
  | nil => exact ⟨rfl, by simp⟩
  | @cons c letter chars letters same _ ih =>
    obtain ⟨folded, starts⟩ := ih fun d hd => lower d (List.mem_cons_of_mem _ hd)
    have here := lower letter (List.mem_cons_self ..)
    obtain ⟨upper, back⟩ := toUpper_of_isLower here
    rw [List.map_cons, folded, List.forall_mem_cons]
    rcases same with rfl | rfl
    · rw [toLower_of_isLower here]
      exact ⟨rfl, isNameStart_of_isLower here, starts⟩
    · rw [back]
      exact ⟨rfl, isNameStart_of_isUpper upper, starts⟩

variable (cased : Recased chars word) (reserved : word ∈ reservedWords)
include cased reserved

theorem toLower : (String.ofList chars).toLower = word := by
  obtain ⟨folded, -⟩ := cased.letters (reserved_letters reserved).2
  have mapped : (String.ofList chars).toLower = (String.ofList chars).map Char.toLower := rfl
  apply String.toList_inj.mp
  rw [mapped, String.toList_map, String.toList_ofList, folded]

theorem isName : Text.isName (String.ofList chars) = true := by
  obtain ⟨solid, lower⟩ := reserved_letters reserved
  obtain ⟨folded, starts⟩ := cased.letters lower
  cases chars with
  | nil => exact absurd folded.symm solid
  | cons c cs =>
    rw [List.forall_mem_cons] at starts
    simp only [Text.isName, String.toList_ofList, Text.isNameChars, starts.1, Bool.true_and,
      List.all_eq_true]
    intro d hd
    exact isNameChar_of_isNameStart (starts.2 d hd)

end Recased

/-- A reserved word means the same in any case. -/
theorem Token.ofWord_recased {chars : List Char} {word : String} (cased : Recased chars word)
    (reserved : word ∈ reservedWords) : ofWord (String.ofList chars) = ofWord word := by
  have folded := cased.toLower reserved
  have lower : word.toLower = word := by
    have same : Recased word.toList word := List.forall₂_same.mpr fun c _ => .inl rfl
    have folded' := same.toLower reserved
    rwa [String.ofList_toList] at folded'
  have operator : Operator.ofWord? (String.ofList chars) = Operator.ofWord? word := by
    rw [Operator.ofWord?, Operator.ofWord?, folded, lower]
  simp only [ofWord, operator, folded, lower]
  split
  · rfl
  · rename_i notOperator
    rw [Operator.ofWord?_eq_none, lower] at notOperator
    -- A reserved word that is no operator takes one of the four branches before the last.
    have other := (List.mem_append.mp reserved).resolve_left notOperator
    simp only [List.mem_cons, List.not_mem_nil, or_false] at other
    rcases other with rfl | rfl | rfl | rfl <;> rfl

/-! ## Spellings -/

/-- The ways to write a token other than a decimal fraction. -/
inductive Spells : List Char → Token → Prop
  | identifier {name : String} (free : IsIdentifier name) : Spells name.toList (.identifier name)
  | operator {op : Operator} {chars : List Char} (cased : Recased chars op.keyword) :
      Spells chars (.operator op)
  | connective {c : Connective} {chars : List Char} (cased : Recased chars c.keyword) :
      Spells chars (.connective c)
  | boolean {b : Bool} {chars : List Char} (cased : Recased chars (Literal.booleanText b)) :
      Spells chars (.literal (.boolean b))
  | integer (zeros : Nat) {n : Int} (fits : -2 ^ 63 ≤ n ∧ n < 2 ^ 63) :
      Spells ((if n < 0 then ['-'] else []) ++ List.replicate zeros '0' ++ Nat.toDigits 10 n.natAbs)
        (.literal (.number (.integer n)))
  | text {s : String} (undated : ∀ instant, ¬InstantText s.toList instant) :
      Spells (Literal.quoted s).toList (.literal (.text s))
  | timestamp {raw : String} {instant : Instant} (dated : InstantText raw.toList instant) :
      Spells (Literal.quoted raw).toList (.literal (.timestamp raw instant))
  | opening : Spells ['('] .opening
  | closing : Spells [')'] .closing

/-- Words and numbers; every other token shows by itself where it starts and ends. -/
def Token.isBare : Token → Bool
  | literal value => !value.isTextual
  | opening | closing => false
  | _ => true

theorem readsAs_recased {chars : List Char} {word : String} {t : Token}
    (cased : Recased chars word) (reserved : word ∈ reservedWords)
    (meant : Token.ofWord word = t) : ReadsAs chars t := by
  have reads := readsAs_word (cased.isName reserved) ((Token.ofWord_recased cased reserved).trans meant)
  rwa [String.toList_ofList] at reads

namespace Spells

variable {chars : List Char} {t : Token}

/-- A spelling is a lexeme of its own. What follows only matters after a word or a number. -/
theorem read (h : Spells chars t) {rest : List Char} (ends : t.isBare = true → Ends rest) :
    ∃ c front, chars = c :: front ∧ Text.isBlank c = false ∧
      Lexeme.read c (front ++ rest) = ⟨.ok t, rest⟩ := by
  cases h with
  | identifier free => exact readsAs_word free.1 (Token.ofWord_identifier free) rest (ends rfl)
  | @operator op _ cased =>
    exact readsAs_recased cased (by cases op <;> decide) (Token.ofWord_keyword op) rest (ends rfl)
  | @connective c _ cased =>
    exact readsAs_recased cased (by cases c <;> decide) (Token.ofWord_connective c) rest (ends rfl)
  | @boolean b _ cased =>
    exact readsAs_recased cased (by cases b <;> decide) (Token.ofWord_boolean b) rest (ends rfl)
  | @integer zeros n fits =>
    have reads := readsAs_run (Number.integerRun_plain zeros n)
    have spelled : (Number.integerRun zeros n).spelling.toList =
        (if n < 0 then ['-'] else []) ++ List.replicate zeros '0' ++ Nat.toDigits 10 n.natAbs := by
      simp [NumberRun.spelling_toList, Number.integerRun, NumberRun.fractionChars,
        NumberRun.exponentChars]
    rw [Number.integerRun_number zeros fits, spelled] at reads
    exact reads rest (ends rfl)
  | text undated =>
    rw [← Instant.ofText?_eq_none_iff] at undated
    exact Literal.read_quoted (Literal.ofQuoted_of_undated undated) rest
  | timestamp dated =>
    rw [← Instant.ofText?_iff] at dated
    exact Literal.read_quoted (Literal.ofQuoted_of_dated dated) rest
  | opening => exact ⟨'(', [], rfl, by decide, rfl⟩
  | closing => exact ⟨')', [], rfl, by decide, rfl⟩

/-- A token that is neither a word nor a number ends whatever stands before it. -/
theorem ends (h : Spells chars t) (shows : t.isBare = false) (rest : List Char) :
    Ends (chars ++ rest) := by
  have quoted (s : String) : Ends ((Literal.quoted s).toList ++ rest) := by
    rw [Literal.quoted, String.toList_ofList]
    exact ends_cons (by decide) _
  cases h with
  | text => exact quoted _
  | timestamp => exact quoted _
  | opening => exact ends_cons (by decide) rest
  | closing => exact ends_cons (by decide) rest
  | identifier | operator | connective | boolean | integer => cases shows

end Spells

/-! ## Layouts -/

/-- A token in a text: the blanks before it, and one of its spellings. -/
structure Written where
  gap : List Char
  chars : List Char
  token : Token
  blank : ∀ c ∈ gap, Text.isBlank c = true
  spells : Spells chars token

namespace Written

/-- Only two words or numbers need a blank between them. -/
def Apart (before after : Written) : Prop :=
  before.token.isBare = true → after.token.isBare = true → after.gap ≠ []

/-- All tokens with their gaps, one after another. -/
def text (ws : List Written) : List Char :=
  ws.flatMap fun w => w.gap ++ w.chars

/-- The tokens with the byte offsets where their spellings start. -/
def places (position : Nat) : List Written → List (Placed Token)
  | [] => []
  | w :: ws =>
    ⟨position + byteLength w.gap, w.token⟩ ::
      places (position + byteLength w.gap + byteLength w.chars) ws

theorem text_cons (w : Written) (ws : List Written) (tail : List Char) :
    text (w :: ws) ++ tail = w.gap ++ (w.chars ++ (text ws ++ tail)) := by
  simp [text]

end Written

theorem ends_blanks {gap rest : List Char} (blank : ∀ c ∈ gap, Text.isBlank c = true)
    (ends : gap = [] → Ends rest) : Ends (gap ++ rest) := by
  cases gap with
  | nil => exact ends rfl
  | cons c gap => exact ends_cons (not_isNameChar_of_isBlank (blank c (List.mem_cons_self ..))) _

theorem lexemes_blanks (position : Nat) {gap : List Char} (rest : List Char)
    (blank : ∀ c ∈ gap, Text.isBlank c = true) :
    lexemes position (gap ++ rest) = lexemes (position + byteLength gap) rest := by
  induction gap generalizing position with
  | nil => rfl
  | cons c gap ih =>
    rw [List.forall_mem_cons] at blank
    rw [List.cons_append, lexemes_blank position blank.1, ih _ blank.2, byteLength, Nat.add_assoc]

namespace Written

variable {ws : List Written} {tail : List Char}

/-- What follows a word or a number ends it. -/
theorem ends_text {w : Written} (apart : (w :: ws).IsChain Apart)
    (blank : ∀ c ∈ tail, Text.isBlank c = true) (bare : w.token.isBare = true) :
    Ends (text ws ++ tail) := by
  cases ws with
  | nil =>
    have ends := ends_blanks blank fun _ => ends_nil
    rwa [List.append_nil] at ends
  | cons next ws =>
    rw [text_cons]
    apply ends_blanks next.blank
    intro touching
    have shows : next.token.isBare = false := by
      cases nextBare : next.token.isBare with
      | false => rfl
      | true => exact absurd touching ((List.isChain_cons_cons.mp apart).1 bare nextBare)
    exact next.spells.ends shows _

theorem lexemes_text (apart : ws.IsChain Apart) (blank : ∀ c ∈ tail, Text.isBlank c = true)
    (position : Nat) :
    lexemes position (text ws ++ tail) = (places position ws).map Placed.found := by
  induction ws generalizing position with
  | nil =>
    have all : tail.all Text.isBlank = true := List.all_eq_true.mpr blank
    exact (lexemes_eq_nil_iff position tail).mpr all
  | cons w ws ih =>
    obtain ⟨c, front, spelled, solid, read⟩ := w.spells.read (ends_text apart blank)
    rw [text_cons, lexemes_blanks position _ w.blank, spelled, List.cons_append,
      lexemes_lexeme solid read, ih apart.of_cons]
    simp only [places, List.map_cons, Placed.found, spelled]

theorem ofText_text (apart : ws.IsChain Apart) (blank : ∀ c ∈ tail, Text.isBlank c = true) :
    Tokens.ofText (String.ofList (text ws ++ tail)) = ⟨places 0 ws, []⟩ := by
  rw [Tokens.ofText_eq_iff, String.toList_ofList]
  exact lexemes_text apart blank 0

theorem ofText_quoted {s : String} {value : Literal}
    (spells : Spells (Literal.quoted s).toList (.literal value)) :
    Tokens.ofText (Literal.quoted s) = ⟨[⟨0, .literal value⟩], []⟩ := by
  let alone : Written := ⟨[], _, _, by simp, spells⟩
  have read := @ofText_text [alone] [] (.singleton alone) (by simp)
  simpa [text, places, alone, byteLength] using read

theorem places_tokens (ws : List Written) (position : Nat) :
    (places position ws).map Placed.value = ws.map token := by
  induction ws generalizing position with
  | nil => rfl
  | cons w ws ih => rw [places, List.map_cons, List.map_cons, ih]

/-- Tokens written in any layout are read back from it, with no mistakes and each at the byte offset
where its spelling starts. A quoted text stays as it is, and is a timestamp exactly when it is the text
of an instant. -/
theorem written_tokens_read_back (ws : List Written) (tail : List Char)
    (apart : ws.IsChain Apart) (blank : ∀ c ∈ tail, Text.isBlank c = true) :
    Tokens.ofText (String.ofList (text ws ++ tail)) = ⟨places 0 ws, []⟩ ∧
      (places 0 ws).map Placed.value = ws.map token ∧
      ∀ s : String,
        (∀ instant, InstantText s.toList instant →
          Tokens.ofText (Literal.quoted s) = ⟨[⟨0, .literal (.timestamp s instant)⟩], []⟩) ∧
        ((∀ instant, ¬InstantText s.toList instant) →
          Tokens.ofText (Literal.quoted s) = ⟨[⟨0, .literal (.text s)⟩], []⟩) := by
  refine ⟨ofText_text apart blank, places_tokens ws 0, ?_⟩
  intro s
  constructor
  · intro instant dated
    exact ofText_quoted (.timestamp dated)
  · intro undated
    exact ofText_quoted (.text undated)

/-- Brackets and quoted texts touch their neighbours; elsewhere there is one blank, a tab among them, and
an ideographic space at the end. The leap second is read in universal time. -/
theorem written_tokens_read_back_glued :
    Tokens.ofText "(e.q eQ\"a\\\"\\\\é\"OR\t-007\"1999-12-31T23:59:60-00:30\")\u3000" =
      ⟨[⟨0, .opening⟩, ⟨1, .identifier "e.q"⟩, ⟨5, .operator .equal⟩,
        ⟨7, .literal (.text "a\"\\é")⟩, ⟨16, .connective .or⟩, ⟨19, .literal (.number (.integer (-7)))⟩,
        ⟨23, .literal (.timestamp "1999-12-31T23:59:60-00:30" ⟨⟨2000, 1, 1⟩, 29, 60, 0⟩)⟩,
        ⟨50, .closing⟩], []⟩ := by
  have undated : Instant.ofText? "a\"\\é" = none := by decide +kernel
  have dated : Instant.ofText? "1999-12-31T23:59:60-00:30" = some ⟨⟨2000, 1, 1⟩, 29, 60, 0⟩ := by
    decide +kernel
  let ws : List Written :=
    [⟨[], _, _, by simp, .opening⟩,
     ⟨[], _, _, by simp, @Spells.identifier "e.q" (by decide +kernel)⟩,
     ⟨[' '], ['e', 'Q'], _, List.forall_mem_singleton.mpr rfl, @Spells.operator .equal _ (by decide)⟩,
     ⟨[], _, _, by simp, .text (Instant.ofText?_eq_none_iff.mp undated)⟩,
     ⟨[], ['O', 'R'], _, by simp, @Spells.connective .or _ (by decide)⟩,
     ⟨['\t'], _, _, List.forall_mem_singleton.mpr rfl, @Spells.integer 2 (-7) (by decide)⟩,
     ⟨[], _, _, by simp, .timestamp (Instant.ofText?_iff.mp dated)⟩,
     ⟨[], _, _, by simp, .closing⟩]
  have apart : ws.IsChain Apart := by simp [ws, Apart, Token.isBare, Literal.isTextual]
  obtain ⟨read, -, -⟩ := written_tokens_read_back ws ['\u3000'] apart
    (List.forall_mem_singleton.mpr rfl)
  exact read

end Written

end FilterSql
