import FilterSql.Proofs.BoundLiterals
import FilterSql.Proofs.InstantText
import FilterSql.Proofs.NumberRuns
import FilterSql.Proofs.Overflow

/-!
Values lost in JSON. The values of a query have one field each, in the order in which they are bound, and
a field is null exactly if the literal in the filter writes a number that is too great for a finite binary
number.
-/

namespace FilterSql

/-! ## The numbers that texts write -/

inductive WritesFraction : List Char → ℚ → Prop
  | none : WritesFraction [] 0
  | point {digits : List Char} (group : digits ∈ digitGroup 1) :
      WritesFraction ('.' :: digits) (decimalValue digits / 10 ^ digits.length)

inductive WritesExponent : List Char → Int → Prop
  | none : WritesExponent [] 0
  | unsigned {mark : Char} {digits : List Char} (isMark : mark = 'e' ∨ mark = 'E')
      (group : digits ∈ digitGroup 1) : WritesExponent (mark :: digits) (decimalValue digits)
  | plus {mark : Char} {digits : List Char} (isMark : mark = 'e' ∨ mark = 'E')
      (group : digits ∈ digitGroup 1) : WritesExponent (mark :: '+' :: digits) (decimalValue digits)
  | minus {mark : Char} {digits : List Char} (isMark : mark = 'e' ∨ mark = 'E')
      (group : digits ∈ digitGroup 1) : WritesExponent (mark :: '-' :: digits) (-decimalValue digits)

inductive WritesUnsigned : List Char → ℚ → Prop
  | scaled {whole fraction exponent : List Char} {f : ℚ} {e : Int} (group : whole ∈ digitGroup 1)
      (hf : WritesFraction fraction f) (he : WritesExponent exponent e) :
      WritesUnsigned (whole ++ (fraction ++ exponent)) ((decimalValue whole + f) * 10 ^ e)

/-- The text of a numeral, with the exact number that it writes. -/
inductive Writes : List Char → ℚ → Prop
  | positive {text : List Char} {v : ℚ} (h : WritesUnsigned text v) : Writes text v
  | negative {text : List Char} {v : ℚ} (h : WritesUnsigned text v) : Writes ('-' :: text) (-v)

/-- The text writes a number that lies as far out as the halfway point after the greatest finite binary
number, or further. -/
def Overflows (text : List Char) : Prop :=
  ∃ v, Writes text v ∧ 2 ^ 1024 - 2 ^ 970 ≤ |v|

theorem writesFraction_iff {text : List Char} {f : ℚ} :
    WritesFraction text f ↔ ∃ fraction, text = NumberRun.fractionChars fraction ∧
      (∀ ds ∈ fraction, ds ∈ digitGroup 1) ∧
      f = digitsValue (fraction.getD []) / 10 ^ (fraction.getD []).length := by
  simp only [digitsValue_eq_decimalValue]
  constructor
  · intro writes
    cases writes with
    | none => exact ⟨none, rfl, by simp, by simp [decimalValue]⟩
    | @point digits group => exact ⟨some digits, rfl, by simpa using group, rfl⟩
  · rintro ⟨fraction, rfl, groups, rfl⟩
    cases fraction with
    | none => simpa [NumberRun.fractionChars, decimalValue] using WritesFraction.none
    | some ds => exact .point (groups ds rfl)

namespace NumberRun

/-- The power of ten by which an exponent part scales. -/
def scale : Option ExponentPart → Int
  | some e => if e.sign == some '-' then -(digitsValue e.digits : Int) else digitsValue e.digits
  | none => 0

end NumberRun

theorem writesExponent_iff {text : List Char} {e : Int} :
    WritesExponent text e ↔ ∃ exponent, ExponentText text exponent ∧
      (∀ part ∈ exponent, part.digits ∈ digitGroup 1 ∧ ∀ c ∈ part.sign, c = '+' ∨ c = '-') ∧
      e = NumberRun.scale exponent := by
  constructor
  · intro writes
    cases writes with
    | none => exact ⟨none, .none, by simp, rfl⟩
    | @unsigned mark digits isMark group =>
      exact ⟨some ⟨none, digits⟩, .some isMark ⟨none, digits⟩, by simpa using group,
        by simp [NumberRun.scale, digitsValue_eq_decimalValue]⟩
    | @plus mark digits isMark group =>
      exact ⟨some ⟨some '+', digits⟩, .some isMark ⟨some '+', digits⟩, by simpa using group,
        by simp [NumberRun.scale, digitsValue_eq_decimalValue]⟩
    | @minus mark digits isMark group =>
      exact ⟨some ⟨some '-', digits⟩, .some isMark ⟨some '-', digits⟩, by simpa using group,
        by simp [NumberRun.scale, digitsValue_eq_decimalValue]⟩
  · rintro ⟨exponent, written, parts, rfl⟩
    cases written with
    | none => exact .none
    | some isMark part =>
      obtain ⟨sign, digits⟩ := part
      obtain ⟨group, signed⟩ := parts _ rfl
      cases sign with
      | none =>
        simpa [NumberRun.scale, digitsValue_eq_decimalValue] using WritesExponent.unsigned isMark group
      | some sign =>
        rcases signed sign rfl with rfl | rfl
        · simpa [NumberRun.scale, digitsValue_eq_decimalValue] using WritesExponent.plus isMark group
        · simpa [NumberRun.scale, digitsValue_eq_decimalValue] using WritesExponent.minus isMark group

namespace NumberRun

/-- The number that a run writes, without its sign. -/
def magnitude (r : NumberRun) : ℚ :=
  digitsValue (r.whole ++ r.fraction.getD []) * 10 ^ (scale r.exponent - (r.fraction.getD []).length)

theorem magnitude_nonneg (r : NumberRun) : 0 ≤ r.magnitude := by
  unfold magnitude
  positivity

/-- Digits after the point count as the digits before it, for less by a power of ten. -/
theorem magnitude_eq (r : NumberRun) :
    r.magnitude = (decimalValue r.whole +
      digitsValue (r.fraction.getD []) / 10 ^ (r.fraction.getD []).length) * 10 ^ scale r.exponent := by
  rw [magnitude, digitsValue_append, ← digitsValue_eq_decimalValue, zpow_sub₀ (by norm_num),
    zpow_natCast]
  push_cast
  field_simp

/-- What a numeral writes is what its run does. -/
theorem writes_iff {text : List Char} {v : ℚ} :
    Writes text v ↔ ∃ r : NumberRun, r.Plain ∧ r.HasText text ∧
      v = if r.negative then -r.magnitude else r.magnitude := by
  -- The sign stands before the text and outside of the magnitude, so it is free here.
  have unsigned (text : List Char) (v : ℚ) (negative : Bool) : WritesUnsigned text v ↔
      ∃ whole fraction exponent, Plain ⟨negative, whole, fraction, exponent, []⟩ ∧
        HasText ⟨false, whole, fraction, exponent, []⟩ text ∧
        v = magnitude ⟨negative, whole, fraction, exponent, []⟩ := by
    constructor
    · rintro @⟨whole, _, _, _, _, group, hf, he⟩
      obtain ⟨fraction, rfl, fractionGroups, rfl⟩ := writesFraction_iff.mp hf
      obtain ⟨exponent, written, exponentGroups, rfl⟩ := writesExponent_iff.mp he
      have plain : Plain ⟨negative, whole, fraction, exponent, []⟩ :=
        grouped_one_iff.mp ⟨⟨group, fractionGroups, exponentGroups⟩, rfl⟩
      exact ⟨whole, fraction, exponent, plain, ⟨_, written, by simp⟩,
        (magnitude_eq ⟨negative, whole, fraction, exponent, []⟩).symm⟩
    · rintro ⟨whole, fraction, exponent, plain, ⟨exponentText, written, rfl⟩, rfl⟩
      obtain ⟨⟨group, fractionGroups, exponentGroups⟩, -⟩ := grouped_one_iff.mpr plain
      rw [magnitude_eq]
      simpa using WritesUnsigned.scaled group (writesFraction_iff.mpr ⟨fraction, rfl, fractionGroups, rfl⟩)
        (writesExponent_iff.mpr ⟨exponent, written, exponentGroups, rfl⟩)
  constructor
  · rintro (h | h)
    · obtain ⟨whole, fraction, exponent, plain, written, rfl⟩ := (unsigned _ _ false).mp h
      exact ⟨_, plain, written, rfl⟩
    · obtain ⟨whole, fraction, exponent, plain, ⟨exponentText, written, rfl⟩, rfl⟩ :=
        (unsigned _ _ true).mp h
      exact ⟨_, plain, ⟨exponentText, written, rfl⟩, rfl⟩
  · rintro ⟨⟨negative, whole, fraction, exponent, glued⟩, plain, ⟨exponentText, written, rfl⟩, rfl⟩
    cases plain.glued
    cases negative with
    | false => exact .positive ((unsigned _ _ false).mpr ⟨_, _, _, plain, ⟨_, written, rfl⟩, rfl⟩)
    | true => exact .negative ((unsigned _ _ true).mpr ⟨_, _, _, plain, ⟨_, written, rfl⟩, rfl⟩)

theorem Plain.overflows_iff {r : NumberRun} (plain : r.Plain) {text : List Char}
    (written : r.HasText text) : Overflows text ↔ 2 ^ 1024 - 2 ^ 970 ≤ r.magnitude := by
  have size (r : NumberRun) : |if r.negative then -r.magnitude else r.magnitude| = r.magnitude := by
    split <;> simp [abs_of_nonneg r.magnitude_nonneg]
  constructor
  · rintro ⟨v, writes, far⟩
    obtain ⟨r', plain', written', rfl⟩ := writes_iff.mp writes
    obtain rfl := plain.unique plain' written written'
    rwa [size] at far
  · intro far
    exact ⟨_, writes_iff.mpr ⟨r, plain, written, rfl⟩, by rwa [size]⟩

theorem numeral_value_isFinite_iff (r : NumberRun) :
    r.numeral.value.isFinite = true ↔ r.magnitude < 2 ^ 1024 - 2 ^ 970 := by
  have exponent : r.numeral.exponent = scale r.exponent := by
    unfold numeral scale
    cases r.exponent <;> rfl
  rw [Numeral.value, Binary64.ofDecimal_isFinite_iff, exponent]
  rfl

/-- Whole numbers that stay exact are far below the limit. -/
theorem magnitude_lt_of_integer {r : NumberRun} {k : Int} (read : r.number = .integer k) :
    r.magnitude < 2 ^ 1024 - 2 ^ 970 := by
  obtain ⟨whole, low, high⟩ := (r.number_eq_integer_iff k).mp read
  simp only [integer?, Option.ite_none_right_eq_some, Bool.and_eq_true, Option.isNone_iff_eq_none,
    Option.some.injEq] at whole
  obtain ⟨⟨fraction, exponent⟩, value⟩ := whole
  have small : digitsValue r.whole < 2 ^ 64 := by
    split at value <;> omega
  have exact : r.magnitude = digitsValue r.whole := by
    simp [magnitude, fraction, exponent, scale]
  rw [exact]
  exact lt_of_lt_of_le (by exact_mod_cast small) Binary64.word_le_limit

theorem number_infinite_iff (r : NumberRun) :
    (∃ x, r.number = .decimal x ∧ x.isFinite = false) ↔ 2 ^ 1024 - 2 ^ 970 ≤ r.magnitude := by
  rw [← not_lt]
  cases read : r.number with
  | integer k => simp [magnitude_lt_of_integer read]
  | decimal x =>
    have value : x = r.numeral.value := by
      unfold number at read
      split at read
      · split at read <;> cases read
        rfl
      · cases read
        rfl
    rw [← numeral_value_isFinite_iff, ← value]
    simp

end NumberRun

/-! ## Literals of a text -/

theorem Token.ofWord_ne_number (word : String) (n : Number) : ofWord word ≠ .literal (.number n) := by
  intro h
  unfold ofWord at h
  split at h
  · cases h
  dsimp only at h
  split at h
  · cases h
  split at h
  · cases h
  split at h
  · cases h
  split at h <;> cases h

theorem Literal.ofQuoted_ne_number (s : String) (n : Number) : ofQuoted s ≠ .number n := by
  intro h
  unfold ofQuoted at h
  split at h <;> cases h

/-- Only what starts as a number gives one. -/
theorem Lexeme.start_of_number {c : Char} {cs rest : List Char} {n : Number}
    (h : read c cs = ⟨.ok (.literal (.number n)), rest⟩) : c.isDigit = true ∨ c = '-' := by
  by_contra start
  have outcome := congrArg Lexeme.outcome h
  unfold read at outcome
  split at outcome
  · cases outcome
  split at outcome
  · cases outcome
  split at outcome
  · unfold quoted at outcome
    split at outcome
    · exact Literal.ofQuoted_ne_number _ n (Token.literal.inj (Except.ok.inj outcome))
    · cases outcome
  split at outcome
  · rename_i isStart
    exact start (by simpa using isStart)
  split at outcome
  · exact Token.ofWord_ne_number _ n (Except.ok.inj outcome)
  · cases outcome

/-- The literal is a number, but not a finite one. -/
def Literal.IsInfinite (value : Literal) : Prop :=
  ∃ x, value = .number (.decimal x) ∧ x.isFinite = false

/-- A literal is infinite exactly if its text writes a number out of range. -/
theorem overflows_iff {c : Char} {cs : List Char} {value : Literal}
    (read : Lexeme.read c cs = ⟨.ok (.literal value), []⟩) :
    Overflows (c :: cs) ↔ value.IsInfinite := by
  constructor
  · rintro ⟨v, writes, far⟩
    obtain ⟨r, plain, written, -⟩ := NumberRun.writes_iff.mp writes
    have whole : c :: cs = c :: cs ++ [] := (List.append_nil _).symm
    have start : c.isDigit = true ∨ c = '-' := by
      obtain ⟨-, minus⟩ | ⟨-, digit⟩ := plain.starts written whole
      · exact .inr minus
      · exact .inl digit
    have number : Lexeme.number c cs = ⟨.ok (.literal (.number r.number)), []⟩ := by
      simp [Lexeme.number, plain.take_text written whole ends_nil, plain.isValid]
    rw [Lexeme.read_number start, number] at read
    cases read
    obtain ⟨x, decimal, infinite⟩ :=
      r.number_infinite_iff.mpr ((plain.overflows_iff written).mp ⟨v, writes, far⟩)
    exact ⟨x, congrArg Literal.number decimal, infinite⟩
  · rintro ⟨x, rfl, infinite⟩
    have start := Lexeme.start_of_number read
    obtain ⟨text, cut, written, formed, -⟩ := NumberRun.take_text start cs
    rw [Lexeme.read_number start] at read
    simp only [Lexeme.number] at read
    split at read
    · rename_i valid
      simp only [Lexeme.mk.injEq, Except.ok.injEq, Token.literal.injEq, Literal.number.injEq] at read
      obtain ⟨decimal, ended⟩ := read
      rw [ended, List.append_nil] at cut
      rw [cut, ((NumberRun.isValid_iff start).mp valid).overflows_iff written, ← NumberRun.number_infinite_iff]
      exact ⟨x, decimal, infinite⟩
    · cases read

/-- The literals of a text, each with the characters that it is written with. -/
def Part.literal? : Part → Option (List Char × Literal)
  | lexeme chars (.ok (.literal value)) => some (chars, value)
  | _ => none

def literalTexts (parts : List Part) : List (List Char) :=
  (parts.filterMap Part.literal?).map Prod.fst

theorem outcomes_literals (parts : List Part) (position : Nat) :
    (((outcomes position parts).filterMap Tokens.token?).map Placed.value).filterMap Token.literal? =
      (parts.filterMap Part.literal?).map Prod.snd := by
  induction parts generalizing position with
  | nil => rfl
  | cons part parts ih =>
    cases part with
    | blank c => exact ih _
    | lexeme chars outcome =>
      cases outcome with
      | error mistake => exact ih _
      | ok token =>
        cases token with
        | literal value => exact congrArg (value :: ·) (ih _)
        | _ => exact ih _

theorem tokenValues_literals {s : String} {parts : List Part} (cut : Cut s.toList parts) :
    (tokenValues s).filterMap Token.literal? = (parts.filterMap Part.literal?).map Prod.snd := by
  rw [tokenValues, Tokens.ofText, lexemes_cut cut]
  exact outcomes_literals parts 0

namespace Cut

variable {cs : List Char} {parts : List Part}

theorem overflows_iff (cut : Cut cs parts) {text : List Char} {value : Literal}
    (h : .lexeme text (.ok (.literal value)) ∈ parts) :
    Overflows text ↔ value.IsInfinite := by
  obtain ⟨c, front, rfl, -, read⟩ := cut.read_alone h
  exact FilterSql.overflows_iff read

theorem literal_overflows_iff (cut : Cut cs parts) {text : List Char} {value : Literal}
    (h : (text, value) ∈ parts.filterMap Part.literal?) :
    Overflows text ↔ value.IsInfinite := by
  obtain ⟨part, member, found⟩ := List.mem_filterMap.mp h
  cases part with
  | blank c => cases found
  | lexeme chars outcome =>
    cases outcome with
    | error mistake => cases found
    | ok token =>
      cases token with
      | literal value =>
        cases found
        exact cut.overflows_iff member
      | _ => cases found

end Cut

/-! ## Values in JSON -/

/-- The one value that JSON has no text for. -/
theorem Suits.null_iff {op : Operator} {kind : ColumnKind} {value : Literal} {v : Parameter}
    (suits : Suits op kind value v) :
    v.toJson = .null ↔ value.IsInfinite := by
  have number (n : Number) :
      Json.ofNumber n = .null ↔ ∃ x, n = .decimal x ∧ x.isFinite = false := by
    cases n with
    | integer k => simp [Json.ofNumber]
    | decimal x => cases finite : x.isFinite <;> simp [Json.ofNumber, finite]
  cases suits with
  | count n | number n => simpa [Parameter.toJson, Literal.IsInfinite] using number n
  | _ => simp [Parameter.toJson, Literal.IsInfinite]

namespace Converter

/-- Value by value, what is bound is null in JSON where the literal overflows. -/
theorem values_null_iff {c : Converter} {filter : Option String}
    {found : Option Predicate × Bindings} (made : c.predicate filter = .ok found)
    {parts : List Part} (cut : Cut (filter.getD "").toList parts) :
    List.Forall₂ (fun text v => v.toJson = .null ↔ Overflows text) (literalTexts parts)
      found.2.values := by
  obtain ⟨-, written, given⟩ := predicate_binds made
  rw [tokenValues_literals cut] at written
  have values : List.Forall₂ (fun literal v => v.toJson = .null ↔ literal.IsInfinite)
      ((comparisons (tokenValues (filter.getD ""))).map fun x => x.2.2) found.2.values := by
    rw [List.forall₂_map_left_iff]
    refine given.imp ?_
    rintro comparison v ⟨_, -, suits⟩
    exact suits.null_iff
  rw [written, List.forall₂_map_left_iff, List.forall₂_iff_zip] at values
  rw [literalTexts, List.forall₂_map_left_iff, List.forall₂_iff_zip]
  refine ⟨values.1, ?_⟩
  intro entry v member
  rw [values.2 member, cut.literal_overflows_iff (List.of_mem_zip member).1]

/-- The JSON form of a converted query has one field for each literal of the filter text, named in
order. A field is null exactly if its literal writes a number with an absolute value of at least
`2 ^ 1024 - 2 ^ 970`; numbers like these, and no others, give the lexer a decimal that is not finite. -/
theorem null_fields_overflow {c : Converter} {filter key : Option String} {direction : Direction}
    {q : Query} (converted : c.convert filter key direction = .ok q) :
    (∃ parts fields, Cut (filter.getD "").toList parts ∧
      q.toJson = .object [("sql", .string q.sql), ("params", .object fields)] ∧
      fields.map Prod.fst = (List.range (literalTexts parts).length).map Bindings.placeholder ∧
      List.Forall₂ (fun text field => field.2 = .null ↔ Overflows text) (literalTexts parts)
        fields) ∧
    ∀ cs parts, Cut cs parts → ∀ text x,
      .lexeme text (.ok (.literal (.number (.decimal x)))) ∈ parts →
        (x.isFinite = true ↔ ¬ Overflows text) := by
  obtain ⟨made, -⟩ := convert_ok_iff.mp converted
  obtain ⟨parts, cut⟩ := exists_cut (filter.getD "").toList
  have values := values_null_iff made cut
  refine ⟨⟨parts, q.bindings.toList.map fun entry => (entry.1, entry.2.toJson), cut, rfl, ?_, ?_⟩, ?_⟩
  · have size : q.bindings.size = (literalTexts parts).length :=
      q.bindings.length_values.symm.trans values.length_eq.symm
    calc (q.bindings.toList.map fun entry => (entry.1, entry.2.toJson)).map Prod.fst
      _ = q.bindings.names := by rw [List.map_map]; rfl
      _ = (List.range (literalTexts parts).length).map Bindings.placeholder := by
        rw [(numbered_of_predicate made).names, size]
  · rw [Bindings.values, List.forall₂_map_right_iff] at values
    exact List.forall₂_map_right_iff.mpr values
  · intro cs parts cut text x member
    rw [cut.overflows_iff member]
    simp [Literal.IsInfinite]

theorem null_fields_overflow_halfway :
    let c : Converter := ⟨id, {}⟩
    let filter := some "a lt 1.7976931348623158e308 or b gt -17976931348623159E+292"
    ∃ q, c.convert filter none .ascending = .ok q ∧
      (∃ parts fields, Cut (filter.getD "").toList parts ∧
        q.toJson = .object [("sql", .string q.sql), ("params", .object fields)] ∧
        fields.map Prod.fst = (List.range (literalTexts parts).length).map Bindings.placeholder ∧
        List.Forall₂ (fun text field => field.2 = .null ↔ Overflows text) (literalTexts parts)
          fields) ∧
      q.toJson = .object [("sql", .string "(a < :__value_0 OR b > :__value_1)"),
        ("params", .object [("__value_0", .decimal ⟨false, 0x7fefffffffffffff, by decide⟩),
          ("__value_1", .null)])] := by
  intro c filter
  let q : Query := ⟨some (.join .or (.compare "a" .less "__value_0" false)
    (.compare "b" .greater "__value_1" false)), none,
    ⟨[("__value_0", .number (.decimal ⟨false, 0x7fefffffffffffff, by decide⟩)),
      ("__value_1", .number (.decimal (.infinity true)))]⟩⟩
  have converted : c.convert filter none .ascending = .ok q := by decide +kernel
  exact ⟨q, converted, (null_fields_overflow converted).1, rfl⟩

/-- A filter that compares with a number out of range is converted, and JSON shows null for the number. -/
theorem overflowing_number_becomes_null :
    let c : Converter := ⟨id, {}⟩
    ∃ q, c.convert (some "a eq 1e400") none .descending = .ok q ∧
      q.bindings = ⟨[("__value_0", .number (.decimal (.infinity false)))]⟩ ∧
      q.toJson = .object [("sql", .string "a = :__value_0"),
        ("params", .object [("__value_0", .null)])] := by
  intro c
  let q : Query := ⟨some (.compare "a" .equal "__value_0" false), none,
    ⟨[("__value_0", .number (.decimal (.infinity false)))]⟩⟩
  have converted : c.convert (some "a eq 1e400") none .descending = .ok q := by decide +kernel
  exact ⟨q, converted, rfl, rfl⟩

end Converter

end FilterSql
