import FilterSql.Proofs.NumberText
import Mathlib.Computability.Language
import Mathlib.Data.Nat.Digits.Defs

/-!
Numbers in a text. From a digit or a minus sign on, the lexer takes the longest text that has the shape of a
number with name characters glued on. It gives a number if that text is a numeral, and one mistake if it is
not; a whole number that fits a signed word of 64 bits is exact.
-/

namespace FilterSql

/-! ## Shapes of numbers -/

/-- Groups of digits, at least so many of them. -/
def digitGroup (least : Nat) : Language Char :=
  {ds | least ≤ ds.length ∧ ∀ d ∈ ds, d.isDigit = true}

/-- `-?D(.D)?([eE][+-]?D)?`, where `D` is a group of at least so many digits. -/
def numberShape (least : Nat) : Language Char :=
  (1 + {['-']}) * digitGroup least * (1 + {['.']} * digitGroup least) *
    (1 + {['e'], ['E']} * (1 + {['+'], ['-']}) * digitGroup least)

def nameChars : Language Char :=
  {ns | ∀ c ∈ ns, Text.isNameChar c = true}

/-- A number in which digits may be missing, and the name characters glued to it. -/
def numberRun : Language Char :=
  numberShape 0 * nameChars

def numeralText : Language Char :=
  numberShape 1

/-- The number that the digits write in base ten. -/
def decimalValue (digits : List Char) : Nat :=
  Nat.ofDigits 10 (digits.reverse.map fun d => d.toNat - '0'.toNat)

/-- The texts of whole numbers: digits, zeros in front allowed, after an optional minus sign. -/
inductive WritesWhole : List Char → Int → Prop
  | positive {digits : List Char} (group : digits ∈ digitGroup 1) :
      WritesWhole digits (decimalValue digits)
  | negative {digits : List Char} (group : digits ∈ digitGroup 1) :
      WritesWhole ('-' :: digits) (-decimalValue digits)

theorem digitsValue_eq_decimalValue (digits : List Char) :
    digitsValue digits = decimalValue digits := by
  induction digits using List.reverseRecOn with
  | nil => rfl
  | append_singleton digits d ih =>
    simp only [decimalValue, List.reverse_append, List.reverse_singleton, List.singleton_append,
      List.map_cons, Nat.ofDigits_cons] at ih ⊢
    rw [← ih]
    simp [digitsValue, Nat.add_comm]

theorem mem_digitGroup_one {ds : List Char} :
    ds ∈ digitGroup 1 ↔ ds ≠ [] ∧ ∀ d ∈ ds, d.isDigit = true := by
  rw [← List.length_pos_iff]
  rfl

theorem mem_digitGroup_zero {ds : List Char} :
    ds ∈ digitGroup 0 ↔ ∀ d ∈ ds, d.isDigit = true :=
  and_iff_right (Nat.zero_le _)

theorem mem_fractionShape {least : Nat} {text : List Char} :
    text ∈ (1 + {['.']} * digitGroup least : Language Char) ↔
      ∃ fraction, text = NumberRun.fractionChars fraction ∧ ∀ ds ∈ fraction, ds ∈ digitGroup least := by
  rw [Language.mem_add, Language.mem_one, Language.mem_mul]
  constructor
  · rintro (rfl | ⟨point, rfl, ds, group, rfl⟩)
    · exact ⟨none, rfl, by simp⟩
    · exact ⟨some ds, rfl, by simpa using group⟩
  · rintro ⟨fraction, rfl, groups⟩
    cases fraction with
    | none => exact .inl rfl
    | some ds => exact .inr ⟨['.'], rfl, ds, groups ds rfl, rfl⟩

theorem mem_markShape {text : List Char} :
    text ∈ ({['e'], ['E']} : Language Char) ↔ ∃ mark, text = [mark] ∧ (mark = 'e' ∨ mark = 'E') := by
  constructor
  · rintro (rfl | rfl)
    · exact ⟨'e', rfl, .inl rfl⟩
    · exact ⟨'E', rfl, .inr rfl⟩
  · rintro ⟨mark, rfl, rfl | rfl⟩
    · exact .inl rfl
    · exact .inr rfl

theorem mem_signShape {text : List Char} :
    text ∈ (1 + {['+'], ['-']} : Language Char) ↔
      ∃ sign : Option Char, text = sign.toList ∧ ∀ c ∈ sign, c = '+' ∨ c = '-' := by
  rw [Language.mem_add, Language.mem_one]
  constructor
  · rintro (rfl | rfl | rfl)
    · exact ⟨none, rfl, by simp⟩
    · exact ⟨some '+', rfl, by simp⟩
    · exact ⟨some '-', rfl, by simp⟩
  · rintro ⟨sign, rfl, signed⟩
    cases sign with
    | none => exact .inl rfl
    | some c =>
      rcases signed c rfl with rfl | rfl
      · exact .inr (.inl rfl)
      · exact .inr (.inr rfl)

theorem mem_exponentShape {least : Nat} {text : List Char} :
    text ∈ (1 + {['e'], ['E']} * (1 + {['+'], ['-']}) * digitGroup least : Language Char) ↔
      ∃ exponent, ExponentText text exponent ∧ ∀ e ∈ exponent, e.digits ∈ digitGroup least ∧
        ∀ c ∈ e.sign, c = '+' ∨ c = '-' := by
  rw [Language.mem_add, Language.mem_one]
  simp only [Language.mem_mul, mem_markShape, mem_signShape]
  constructor
  · rintro (rfl | ⟨_, ⟨_, ⟨mark, rfl, isMark⟩, _, ⟨sign, rfl, signed⟩, rfl⟩, ds, group, rfl⟩)
    · exact ⟨none, .none, by simp⟩
    · refine ⟨some ⟨sign, ds⟩, .some isMark ⟨sign, ds⟩, ?_⟩
      rintro e ⟨⟩
      exact ⟨group, signed⟩
  · rintro ⟨exponent, written, parts⟩
    cases written with
    | none => exact .inl rfl
    | some isMark e =>
      obtain ⟨group, signed⟩ := parts e rfl
      exact .inr ⟨_, ⟨_, ⟨_, rfl, isMark⟩, _, ⟨e.sign, rfl, signed⟩, rfl⟩, e.digits, group, rfl⟩

namespace NumberRun

/-- Groups of at least so many digits wherever digits stand. -/
structure Grouped (least : Nat) (r : NumberRun) : Prop where
  whole : r.whole ∈ digitGroup least
  fraction : ∀ ds ∈ r.fraction, ds ∈ digitGroup least
  exponent : ∀ e ∈ r.exponent, e.digits ∈ digitGroup least ∧ ∀ c ∈ e.sign, c = '+' ∨ c = '-'

theorem mem_numberShape {least : Nat} {text : List Char} :
    text ∈ numberShape least ↔ ∃ r, Grouped least r ∧ r.glued = [] ∧ r.HasText text := by
  have signs (sign : List Char) : sign ∈ (1 + {['-']} : Language Char) ↔
      ∃ negative : Bool, sign = if negative then ['-'] else [] := by
    rw [Language.mem_add, Language.mem_one, Bool.exists_bool]
    exact Iff.rfl
  constructor
  · rintro ⟨_, ⟨_, ⟨sign, isSign, whole, group, rfl⟩, fractionText, isFraction, rfl⟩, exponentText,
      isExponent, rfl⟩
    obtain ⟨negative, rfl⟩ := (signs sign).mp isSign
    obtain ⟨fraction, rfl, fractionGroups⟩ := mem_fractionShape.mp isFraction
    obtain ⟨exponent, written, exponentGroups⟩ := mem_exponentShape.mp isExponent
    exact ⟨⟨negative, whole, fraction, exponent, []⟩, ⟨group, fractionGroups, exponentGroups⟩, rfl,
      exponentText, written, by simp⟩
  · rintro ⟨r, grouped, unglued, exponentText, written, rfl⟩
    refine ⟨_, ⟨_, ⟨_, (signs _).mpr ⟨r.negative, rfl⟩, r.whole, grouped.whole, rfl⟩, _,
      mem_fractionShape.mpr ⟨r.fraction, rfl, grouped.fraction⟩, rfl⟩, exponentText,
      mem_exponentShape.mpr ⟨r.exponent, written, grouped.exponent⟩, ?_⟩
    simp [unglued]

theorem grouped_zero_iff {r : NumberRun} :
    Grouped 0 r ∧ (∀ c ∈ r.glued, Text.isNameChar c = true) ↔ r.Formed := by
  constructor
  · rintro ⟨⟨whole, fraction, exponent⟩, glued⟩
    exact ⟨mem_digitGroup_zero.mp whole, fun ds here => mem_digitGroup_zero.mp (fraction ds here),
      fun e here => mem_digitGroup_zero.mp (exponent e here).1, fun e here => (exponent e here).2, glued⟩
  · rintro ⟨whole, fraction, exponent, sign, glued⟩
    exact ⟨⟨mem_digitGroup_zero.mpr whole, fun ds here => mem_digitGroup_zero.mpr (fraction ds here),
      fun e here => ⟨mem_digitGroup_zero.mpr (exponent e here), sign e here⟩⟩, glued⟩

theorem grouped_one_iff {r : NumberRun} : Grouped 1 r ∧ r.glued = [] ↔ r.Plain := by
  constructor
  · rintro ⟨⟨whole, fraction, exponent⟩, glued⟩
    obtain ⟨wholeNe, digits⟩ := mem_digitGroup_one.mp whole
    exact ⟨wholeNe, digits, fun ds here => mem_digitGroup_one.mp (fraction ds here),
      fun e here => mem_digitGroup_one.mp (exponent e here).1, fun e here => (exponent e here).2, glued⟩
  · rintro ⟨wholeNe, digits, fraction, exponent, sign, glued⟩
    exact ⟨⟨mem_digitGroup_one.mpr ⟨wholeNe, digits⟩,
      fun ds here => mem_digitGroup_one.mpr (fraction ds here),
      fun e here => ⟨mem_digitGroup_one.mpr (exponent e here), sign e here⟩⟩, glued⟩

/-- The texts of numerals are those of the runs that a number fills. -/
theorem mem_numeralText {text : List Char} :
    text ∈ numeralText ↔ ∃ r : NumberRun, r.Plain ∧ r.HasText text := by
  rw [numeralText, mem_numberShape]
  simp only [← and_assoc, grouped_one_iff]

theorem mem_numberRun {text : List Char} :
    text ∈ numberRun ↔ ∃ r : NumberRun, r.Formed ∧ r.HasText text := by
  constructor
  · rintro ⟨front, isNumber, glued, names, rfl⟩
    obtain ⟨r, grouped, unglued, exponentText, written, rfl⟩ := mem_numberShape.mp isNumber
    refine ⟨⟨r.negative, r.whole, r.fraction, r.exponent, glued⟩, grouped_zero_iff.mp ⟨⟨grouped.whole,
      grouped.fraction, grouped.exponent⟩, names⟩, exponentText, written, ?_⟩
    simp [unglued]
  · rintro ⟨r, formed, exponentText, written, rfl⟩
    obtain ⟨grouped, names⟩ := grouped_zero_iff.mpr formed
    refine ⟨_, mem_numberShape.mpr ⟨⟨r.negative, r.whole, r.fraction, r.exponent, []⟩, ⟨grouped.whole,
      grouped.fraction, grouped.exponent⟩, rfl, exponentText, written, rfl⟩, r.glued, names, ?_⟩
    simp

/-! ## The longest run -/

theorem fractionChars_names {fraction : Option (List Char)}
    (digits : ∀ ds ∈ fraction, ∀ c ∈ ds, c.isDigit = true) :
    ∀ c ∈ fractionChars fraction, Text.isNameChar c = true := by
  cases fraction with
  | none => simp [fractionChars]
  | some ds =>
    refine List.forall_mem_cons.mpr ⟨by decide, ?_⟩
    intro c hc
    exact isNameChar_of_isDigit (digits ds rfl c hc)

theorem mark_name {mark : Char} (isMark : mark = 'e' ∨ mark = 'E') :
    ∀ c ∈ [mark], Text.isNameChar c = true := by
  refine List.forall_mem_singleton.mpr ?_
  rcases isMark with rfl | rfl <;> decide

/-- Behind the first character of a run, all characters but the sign of its exponent go into names. -/
theorem Formed.inner_sign {r : NumberRun} (formed : r.Formed) {a b : List Char} {d : Char}
    (written : r.HasText (a ++ d :: b)) (solid : a ≠ []) (outside : Text.isNameChar d = false) :
    (d = '+' ∨ d = '-') ∧ ∃ mark, (mark = 'e' ∨ mark = 'E') ∧
      a = (if r.negative then ['-'] else []) ++ (r.whole ++ (fractionChars r.fraction ++ [mark])) := by
  obtain ⟨negative, whole, fraction, exponent, glued⟩ := r
  obtain ⟨wholeDigits, fractionDigits, exponentDigits, signed, names⟩ := formed
  obtain ⟨exponentText, marked, text⟩ := written
  dsimp only at *
  obtain ⟨a₁, rfl, text₁⟩ : ∃ a', a = (if negative then ['-'] else []) ++ a' ∧
      whole ++ (fractionChars fraction ++ (exponentText ++ glued)) = a' ++ d :: b := by
    cases negative with
    | false => exact ⟨a, rfl, text.symm⟩
    | true =>
      obtain ⟨e, a', rfl⟩ := List.exists_cons_of_ne_nil solid
      obtain ⟨rfl, rest⟩ := List.cons.inj text
      exact ⟨a', rfl, rest.symm⟩
  obtain ⟨a₂, rfl, text₂⟩ :=
    exists_after (fun c hc => isNameChar_of_isDigit (wholeDigits c hc)) outside text₁
  obtain ⟨a₃, rfl, text₃⟩ := exists_after (fractionChars_names fractionDigits) outside text₂
  -- Names glued to digits leave no place for anything else.
  have nowhere (ds a : List Char) (digits : ∀ c ∈ ds, c.isDigit = true) :
      ds ++ glued ≠ a ++ d :: b := by
    intro same
    obtain ⟨a', -, same'⟩ :=
      exists_after (fun c hc => isNameChar_of_isDigit (digits c hc)) outside same
    rw [← List.append_nil glued] at same'
    obtain ⟨a'', -, none⟩ := exists_after names outside same'
    simp at none
  cases marked with
  | none => exact absurd text₃ (nowhere [] a₃ (by simp))
  | @some mark isMark e =>
    obtain ⟨sign, ds⟩ := e
    have digits := exponentDigits _ rfl
    rw [List.cons_append, ← List.singleton_append, List.append_assoc] at text₃
    obtain ⟨a₄, rfl, text₄⟩ := exists_after (mark_name isMark) outside text₃
    cases sign with
    | none => exact absurd text₄ (nowhere ds a₄ digits)
    | some sign =>
      cases a₄ with
      | nil =>
        obtain ⟨rfl, -⟩ := List.cons.inj text₄
        exact ⟨signed _ rfl sign rfl, mark, isMark, by simp⟩
      | cons e a₄ => exact absurd (List.cons.inj text₄).2 (nowhere ds a₄ digits)

/-- Taking a number goes past the sign of an exponent. -/
theorem take_past_sign {r : NumberRun} (formed : r.Formed) {c mark d : Char} {cs a tail : List Char}
    (start : c.isDigit = true ∨ c = '-') (isMark : mark = 'e' ∨ mark = 'E')
    (isSign : d = '+' ∨ d = '-')
    (front : a = (if r.negative then ['-'] else []) ++
      (r.whole ++ (fractionChars r.fraction ++ [mark])))
    (text : c :: cs = a ++ d :: tail) : (take c cs).2 <:+ tail := by
  have text' : c :: cs = (if r.negative then ['-'] else []) ++
      (r.whole ++ (fractionChars r.fraction ++ mark :: d :: tail)) := by
    rw [text, front]
    simp
  have digit : r.negative = false → c.isDigit = true := by
    intro positive
    refine start.resolve_right ?_
    rintro rfl
    have names : ∀ c ∈ r.whole ++ (fractionChars r.fraction ++ [mark]),
        Text.isNameChar c = true := by
      refine List.forall_mem_append.mpr ⟨fun c hc => isNameChar_of_isDigit (formed.whole c hc), ?_⟩
      exact List.forall_mem_append.mpr ⟨fractionChars_names formed.fraction, mark_name isMark⟩
    rw [front, positive] at text
    obtain ⟨a', none, -⟩ := exists_after (a := []) names (by decide) text.symm
    simp at none
  have stop : ∀ e ∈ (mark :: d :: tail).head?, e.isDigit = false ∧ e ≠ '.' := by
    rintro e ⟨⟩
    rcases isMark with rfl | rfl <;> decide
  have signTaken : (takeSign (d :: tail)).2 = tail := by
    rcases isSign with rfl | rfl <;> rfl
  rw [take_front text' digit formed.whole formed.fraction stop, takeExponent_mark isMark, signTaken]
  exact (List.dropWhile_suffix _).trans (List.dropWhile_suffix _)

theorem ne_nil_of_cut {c : Char} {cs run : List Char} (cut : c :: cs = run ++ (take c cs).2) :
    run ≠ [] := by
  rintro rfl
  have shorter := (take_suffix c cs).length_le
  rw [List.nil_append] at cut
  rw [← cut] at shorter
  simp at shorter

/-- No longer front of a text than the one that is taken has the shape of a run. -/
theorem take_longest {c : Char} (start : c.isDigit = true ∨ c = '-') {cs run longer : List Char}
    (cut : c :: cs = run ++ (take c cs).2) (ends : Ends (take c cs).2)
    (isRun : longer ∈ numberRun) (front : longer <+: c :: cs) : longer.length ≤ run.length := by
  by_contra! short
  -- A longer run goes on with a character outside of names. That can only be the sign of its exponent,
  -- which is taken too.
  obtain ⟨rest, rfl⟩ := List.prefix_of_prefix_length_le ⟨_, cut.symm⟩ front short.le
  cases rest with
  | nil => simp at short
  | cons d rest =>
    obtain ⟨after, whole⟩ := front
    have left : (take c cs).2 = d :: (rest ++ after) := by
      rw [← whole, List.append_assoc] at cut
      exact (List.append_cancel_left cut).symm
    have outside := ends d (by simp [left])
    obtain ⟨r, formed, written⟩ := mem_numberRun.mp isRun
    obtain ⟨isSign, mark, isMark, shape⟩ := formed.inner_sign written (ne_nil_of_cut cut) outside
    rw [left] at cut
    have past := (take_past_sign formed start isMark isSign shape cut).length_le
    rw [left] at past
    simp at past

/-! ## Whole numbers -/

theorem plain_of_digitGroup {digits : List Char} (group : digits ∈ digitGroup 1) (negative : Bool) :
    Plain ⟨negative, digits, none, none, []⟩ := by
  obtain ⟨solid, isDigits⟩ := mem_digitGroup_one.mp group
  exact ⟨solid, isDigits, by simp, by simp, by simp, rfl⟩

/-- A numeral writes a whole number exactly if it has neither point nor exponent, and that number is the
one it is read as. -/
theorem Plain.writesWhole_iff {r : NumberRun} (plain : r.Plain) {text : List Char}
    (written : r.HasText text) (k : Int) : WritesWhole text k ↔ r.integer? = some k := by
  constructor
  · intro writes
    cases writes with
    | positive group =>
      have plain' := plain_of_digitGroup group false
      have same := plain.unique plain' written ⟨[], .none, by simp [fractionChars]⟩
      simp [same, integer?, digitsValue_eq_decimalValue]
    | negative group =>
      have plain' := plain_of_digitGroup group true
      have same := plain.unique plain' written ⟨[], .none, by simp [fractionChars]⟩
      simp [same, integer?, digitsValue_eq_decimalValue]
  · intro read
    have group := mem_digitGroup_one.mpr ⟨plain.whole_ne, plain.whole⟩
    obtain ⟨negative, whole, fraction, exponent, glued⟩ := r
    obtain ⟨exponentText, marked, rfl⟩ := written
    cases plain.glued
    simp only [integer?, Option.ite_none_right_eq_some, Bool.and_eq_true, Option.isNone_iff_eq_none,
      Option.some.injEq, digitsValue_eq_decimalValue] at read
    obtain ⟨⟨rfl, rfl⟩, rfl⟩ := read
    cases marked
    cases negative with
    | false => simpa [fractionChars] using WritesWhole.positive group
    | true => simpa [fractionChars] using WritesWhole.negative group

theorem number_eq_integer_iff (r : NumberRun) (k : Int) :
    r.number = .integer k ↔ r.integer? = some k ∧ -2 ^ 63 ≤ k ∧ k ≤ 2 ^ 63 - 1 := by
  cases whole : r.integer? with
  | none => simp [number, whole]
  | some n =>
    have range : fitsWord n = true ↔ -2 ^ 63 ≤ n ∧ n ≤ 2 ^ 63 - 1 := by
      simp only [fitsWord, Bool.and_eq_true, decide_eq_true_eq]
      omega
    simp only [number, whole]
    split
    · rename_i fits
      constructor
      · rintro ⟨⟩
        exact ⟨rfl, range.mp fits⟩
      · rintro ⟨⟨⟩, -⟩
        rfl
    · rename_i unfit
      constructor
      · rintro ⟨⟩
      · rintro ⟨⟨⟩, within⟩
        exact absurd (range.mpr within) unfit

end NumberRun

/-! ## Lexing a number -/

theorem lexemes_number {c : Char} (start : c.isDigit = true ∨ c = '-') {cs run rest : List Char}
    (cut : c :: cs = run ++ rest) (solid : run ≠ []) {outcome : Except Mistake Token}
    (read : Lexeme.number c cs = ⟨outcome, rest⟩) (position : Nat) :
    lexemes position (c :: cs) =
      ⟨position, outcome⟩ :: lexemes (position + byteLength run) rest := by
  obtain ⟨d, front, rfl⟩ := List.exists_cons_of_ne_nil solid
  obtain ⟨rfl, rfl⟩ := List.cons.inj cut
  have notBlank : Text.isBlank c = false := by
    rcases start with digit | rfl
    · exact not_blank_of_isNameChar (isNameChar_of_isDigit digit)
    · decide
  rw [← Lexeme.read_number start] at read
  exact lexemes_lexeme notBlank read position

/-- From a digit or a minus sign on, the lexer takes the longest front of the text that is a number, digits
missing or not, with the name characters glued to it. If this is a numeral it gives one number: the exact
one if the numeral has neither point nor exponent and its value is one of a signed word of 64 bits, and a
decimal one in every other case. If it is no numeral, the lexer gives one mistake, which shows it. -/
theorem number_recognised (position : Nat) {c : Char} (start : c.isDigit = true ∨ c = '-')
    (cs : List Char) :
    ∃ run rest, c :: cs = run ++ rest ∧ run ∈ numberRun ∧
      (∀ longer ∈ numberRun, longer <+: c :: cs → longer.length ≤ run.length) ∧
      (run ∈ numeralText → ∃ n, lexemes position (c :: cs) =
          ⟨position, .ok (.literal (.number n))⟩ :: lexemes (position + byteLength run) rest ∧
        (∀ k, n = .integer k ↔ WritesWhole run k ∧ -2 ^ 63 ≤ k ∧ k ≤ 2 ^ 63 - 1) ∧
        ((∃ x, n = .decimal x) ↔ ∀ k, WritesWhole run k → ¬ (-2 ^ 63 ≤ k ∧ k ≤ 2 ^ 63 - 1))) ∧
      (run ∉ numeralText → ∃ shown, lexemes position (c :: cs) =
          ⟨position, .error (.invalidNumber shown)⟩ :: lexemes (position + byteLength run) rest ∧
        (shown.toList = run ∨ ∃ a b, run = a ++ 'E' :: b ∧ shown.toList = a ++ 'e' :: b)) := by
  obtain ⟨run, cut, written, formed, ends⟩ := NumberRun.take_text start cs
  have solid := NumberRun.ne_nil_of_cut cut
  refine ⟨run, (NumberRun.take c cs).2, cut, NumberRun.mem_numberRun.mpr ⟨_, formed, written⟩,
    fun longer isRun front => NumberRun.take_longest start cut ends isRun front, ?_, ?_⟩
  · intro isNumeral
    obtain ⟨r, plain, written'⟩ := NumberRun.mem_numeralText.mp isNumeral
    have taken := congrArg Prod.fst (plain.take_text written' cut ends)
    have read : Lexeme.number c cs =
        ⟨.ok (.literal (.number r.number)), (NumberRun.take c cs).2⟩ := by
      simp [Lexeme.number, taken, plain.isValid]
    have integer (k : Int) : r.number = .integer k ↔
        WritesWhole run k ∧ -2 ^ 63 ≤ k ∧ k ≤ 2 ^ 63 - 1 := by
      rw [r.number_eq_integer_iff, plain.writesWhole_iff written']
    refine ⟨r.number, lexemes_number start cut solid read position, integer, ?_⟩
    cases found : r.number with
    | integer k =>
      obtain ⟨writes, within⟩ := (integer k).mp found
      constructor
      · rintro ⟨x, ⟨⟩⟩
      · intro outside
        exact absurd within (outside k writes)
    | decimal x =>
      refine ⟨fun _ k writes within => ?_, fun _ => ⟨x, rfl⟩⟩
      have exact := (integer k).mpr ⟨writes, within⟩
      rw [found] at exact
      cases exact
  · intro isNone
    have invalid : (NumberRun.take c cs).1.isValid = false := by
      rw [← Bool.not_eq_true, NumberRun.isValid_iff start]
      intro plain
      exact isNone (NumberRun.mem_numeralText.mpr ⟨_, plain, written⟩)
    have read : Lexeme.number c cs =
        ⟨.error (.invalidNumber (NumberRun.take c cs).1.spelling), (NumberRun.take c cs).2⟩ := by
      simp [Lexeme.number, invalid]
    exact ⟨_, lexemes_number start cut solid read position, written.spelling⟩

theorem number_recognised_glued :
    ('1'.isDigit = true ∨ '1' = '-') ∧
      ∃ run rest, "1E5e+6".toList = run ++ rest ∧ run = "1E5e".toList ∧ run ∈ numberRun ∧
        (∀ longer ∈ numberRun, longer <+: "1E5e+6".toList → longer.length ≤ run.length) ∧
        run ∉ numeralText ∧
        lexemes 11 "1E5e+6".toList =
          ⟨11, .error (.invalidNumber "1e5e")⟩ :: lexemes (11 + byteLength run) rest ∧
        lexemes (11 + byteLength run) rest =
          [⟨15, .error (.unexpectedCharacter '+')⟩, ⟨16, .ok (.literal (.number (.integer 6)))⟩] := by
  have start : '1'.isDigit = true ∨ '1' = '-' := .inl (by decide)
  have read : lexemes 11 "1E5e+6".toList = [⟨11, .error (.invalidNumber "1e5e")⟩,
      ⟨15, .error (.unexpectedCharacter '+')⟩, ⟨16, .ok (.literal (.number (.integer 6)))⟩] := by
    decide +kernel
  obtain ⟨run, rest, cut, isRun, longest, numeral, other⟩ :=
    number_recognised 11 start "E5e+6".toList
  have isNone : run ∉ numeralText := by
    intro isNumeral
    obtain ⟨n, found, -⟩ := numeral isNumeral
    cases read.symm.trans found
  obtain ⟨shown, found, spelled⟩ := other isNone
  obtain ⟨first, left⟩ := List.cons.inj (read.symm.trans found)
  obtain rfl : "1e5e" = shown := by simpa using first
  have length : run.length = 4 := by
    obtain same | ⟨a, b, rfl, same⟩ := spelled
    · rw [← same]
      rfl
    · simpa using (congrArg List.length same).symm
  have front : run = "1E5e".toList := by
    have taken := congrArg (List.take 4) cut
    rw [List.take_left' length] at taken
    exact taken.symm
  exact ⟨start, run, rest, cut, front, isRun, longest, isNone, found, left.symm⟩

end FilterSql
