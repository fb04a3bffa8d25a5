import FilterSql.Proofs.LexemeParts

/-!
The text that a number's lexeme takes. A run of a number keeps every character of its text but the case
of the exponent mark, and a text that writes a number is taken as that number's run.
-/

namespace FilterSql

/-- The texts of an exponent part. -/
inductive ExponentText : List Char → Option ExponentPart → Prop
  | none : ExponentText [] none
  | some {mark : Char} (isMark : mark = 'e' ∨ mark = 'E') (e : ExponentPart) :
      ExponentText (mark :: (e.sign.toList ++ e.digits)) (some e)

theorem ExponentText.stop {text rest : List Char} {exponent : Option ExponentPart}
    (written : ExponentText text exponent) (ends : Ends rest) :
    ∀ c ∈ (text ++ rest).head?, c.isDigit = false ∧ c ≠ '.' := by
  intro c hc
  cases written with
  | none => exact NumberRun.exponentChars_stop Option.none ends c hc
  | some isMark e =>
    cases hc
    rcases isMark with rfl | rfl <;> decide

namespace NumberRun

/-- The texts of a run: its parts one after the other, with either exponent mark. -/
def HasText (r : NumberRun) (text : List Char) : Prop :=
  ∃ exponent, ExponentText exponent r.exponent ∧
    text = (if r.negative then ['-'] else []) ++
      (r.whole ++ (fractionChars r.fraction ++ (exponent ++ r.glued)))

/-- Digits wherever digits stand, though maybe none, and name characters glued on. -/
structure Formed (r : NumberRun) : Prop where
  whole : ∀ c ∈ r.whole, c.isDigit = true
  fraction : ∀ ds ∈ r.fraction, ∀ c ∈ ds, c.isDigit = true
  exponent : ∀ e ∈ r.exponent, ∀ c ∈ e.digits, c.isDigit = true
  sign : ∀ e ∈ r.exponent, ∀ c ∈ e.sign, c = '+' ∨ c = '-'
  glued : ∀ c ∈ r.glued, Text.isNameChar c = true

/-! ## From texts to runs -/

theorem takeExponent_text {exponent : Option ExponentPart} {text rest : List Char}
    (written : ExponentText text exponent)
    (digits : ∀ e ∈ exponent, e.digits ≠ [] ∧ ∀ c ∈ e.digits, c.isDigit = true)
    (signed : ∀ e ∈ exponent, ∀ c ∈ e.sign, c = '+' ∨ c = '-') (ends : Ends rest) :
    takeExponent (text ++ rest) = (exponent, rest) := by
  have small := takeExponent_append digits signed ends
  cases written with
  | none => exact small
  | some isMark e =>
    rw [List.cons_append, takeExponent_mark isMark]
    simpa only [exponentChars, List.cons_append, takeExponent_mark (.inl rfl)] using small

theorem digit_ne_minus {c : Char} (digit : c.isDigit = true) : (c == '-') = false := by
  apply beq_false_of_ne
  rintro rfl
  cases digit

/-- What comes before the exponent is taken as it stands. -/
theorem take_front {c : Char} {cs whole after : List Char} {negative : Bool}
    {fraction : Option (List Char)}
    (text : c :: cs = (if negative then ['-'] else []) ++ (whole ++ (fractionChars fraction ++ after)))
    (start : negative = false → c.isDigit = true) (digits : ∀ d ∈ whole, d.isDigit = true)
    (fractionDigits : ∀ ds ∈ fraction, ∀ d ∈ ds, d.isDigit = true)
    (stop : ∀ d ∈ after.head?, d.isDigit = false ∧ d ≠ '.') :
    take c cs =
      (⟨negative, whole, fraction, (takeExponent after).1,
          (takeExponent after).2.takeWhile Text.isNameChar⟩,
        (takeExponent after).2.dropWhile Text.isNameChar) := by
  have fractionTaken : takeFraction (fractionChars fraction ++ after) = (fraction, after) := by
    cases fraction with
    | none =>
      apply takeFraction_of_ne
      intro point
      exact (stop '.' point).2 rfl
    | some ds =>
      obtain ⟨taken, left⟩ := span_append (fractionDigits ds rfl) fun d hd => (stop d hd).1
      simp [fractionChars, takeFraction, taken, left]
  obtain ⟨taken, left⟩ := span_append digits (fractionChars_stop fraction stop)
  cases negative with
  | true =>
    obtain ⟨rfl, rfl⟩ := List.cons.inj text
    simp [take, taken, left, fractionTaken]
  | false =>
    have digit := start rfl
    have notMinus := digit_ne_minus digit
    -- A text that starts with a digit has it as the first one of its whole part.
    cases whole with
    | nil =>
      have outside := fractionChars_stop fraction stop c (congrArg List.head? text).symm
      rw [digit] at outside
      cases outside
    | cons d ds =>
      obtain ⟨rfl, rfl⟩ := List.cons.inj text
      obtain ⟨taken, left⟩ := span_append (List.forall_mem_cons.mp digits).2
        (fractionChars_stop fraction stop)
      simp [take, notMinus, taken, left, fractionTaken]

theorem Plain.starts {r : NumberRun} (plain : r.Plain) {c : Char} {cs text rest : List Char}
    (written : r.HasText text) (whole : c :: cs = text ++ rest) :
    r.negative = true ∧ c = '-' ∨ r.negative = false ∧ c.isDigit = true := by
  obtain ⟨exponent, -, rfl⟩ := written
  cases negative : r.negative with
  | true =>
    rw [negative] at whole
    exact .inl ⟨rfl, (List.cons.inj whole).1⟩
  | false =>
    obtain ⟨d, ds, shape⟩ := List.exists_cons_of_ne_nil plain.whole_ne
    rw [negative, shape] at whole
    obtain ⟨rfl, -⟩ := List.cons.inj whole
    exact .inr ⟨rfl, plain.whole c (by simp [shape])⟩

/-- A text that writes a number is taken as that number's run. -/
theorem Plain.take_text {r : NumberRun} (plain : r.Plain) {c : Char} {cs text rest : List Char}
    (written : r.HasText text) (whole : c :: cs = text ++ rest) (ends : Ends rest) :
    take c cs = (r, rest) := by
  have start : r.negative = false → c.isDigit = true := by
    intro positive
    obtain ⟨negative, -⟩ | ⟨-, digit⟩ := plain.starts written whole
    · rw [positive] at negative
      cases negative
    · exact digit
  obtain ⟨exponent, marked, rfl⟩ := written
  rw [plain.glued, List.append_nil] at whole
  simp only [List.append_assoc] at whole
  have taken := takeExponent_text marked plain.exponent plain.sign ends
  obtain ⟨inside, left⟩ := span_append (p := Text.isNameChar) (a := []) (by simp) ends
  rw [List.nil_append] at inside left
  rw [take_front whole start plain.whole (fun ds here => (plain.fraction ds here).2)
    (marked.stop ends), taken, inside, left]
  exact congrArg (·, rest) (plain.eta rfl rfl)

theorem Plain.unique {r r' : NumberRun} (plain : r.Plain) (plain' : r'.Plain) {text : List Char}
    (written : r.HasText text) (written' : r'.HasText text) : r = r' := by
  have solid : text ≠ [] := by
    obtain ⟨exponent, -, rfl⟩ := written
    simp [plain.whole_ne]
  obtain ⟨c, cs, rfl⟩ := List.exists_cons_of_ne_nil solid
  have taken := plain.take_text written (List.append_nil _).symm ends_nil
  have taken' := plain'.take_text written' (List.append_nil _).symm ends_nil
  exact congrArg Prod.fst (taken.symm.trans taken')

/-! ## From runs to texts -/

theorem takeSign_text (cs : List Char) :
    cs = (takeSign cs).1.toList ++ (takeSign cs).2 ∧
      ∀ c ∈ (takeSign cs).1, c = '+' ∨ c = '-' := by
  by_cases plus : cs.head? = some '+'
  · obtain ⟨rest, rfl⟩ := List.head?_eq_some_iff.mp plus
    exact ⟨rfl, by simp [takeSign]⟩
  by_cases minus : cs.head? = some '-'
  · obtain ⟨rest, rfl⟩ := List.head?_eq_some_iff.mp minus
    exact ⟨rfl, by simp [takeSign]⟩
  · rw [takeSign_of_ne plus minus]
    exact ⟨rfl, by simp⟩

theorem takeFraction_text (cs : List Char) :
    cs = fractionChars (takeFraction cs).1 ++ (takeFraction cs).2 ∧
      ∀ ds ∈ (takeFraction cs).1, ∀ c ∈ ds, c.isDigit = true := by
  by_cases point : cs.head? = some '.'
  · obtain ⟨rest, rfl⟩ := List.head?_eq_some_iff.mp point
    refine ⟨congrArg ('.' :: ·) List.takeWhile_append_dropWhile.symm, ?_⟩
    rintro ds ⟨⟩
    exact List.all_eq_true.mp List.all_takeWhile
  · rw [takeFraction_of_ne point]
    exact ⟨rfl, by simp⟩

theorem takeExponent_taken (cs : List Char) :
    ∃ text, ExponentText text (takeExponent cs).1 ∧ cs = text ++ (takeExponent cs).2 ∧
      ∀ e ∈ (takeExponent cs).1, (∀ c ∈ e.digits, c.isDigit = true) ∧
        ∀ c ∈ e.sign, c = '+' ∨ c = '-' := by
  by_cases marked : ∃ mark rest, cs = mark :: rest ∧ (mark = 'e' ∨ mark = 'E')
  · obtain ⟨mark, rest, rfl, isMark⟩ := marked
    obtain ⟨cut, signed⟩ := takeSign_text rest
    rw [takeExponent_mark isMark]
    refine ⟨_, .some isMark _, ?_, ?_⟩
    · simp only [List.cons_append, List.append_assoc, List.takeWhile_append_dropWhile]
      exact congrArg (mark :: ·) cut
    · rintro e ⟨⟩
      exact ⟨List.all_eq_true.mp List.all_takeWhile, signed⟩
  · have unmarked (mark : Char) (isMark : mark = 'e' ∨ mark = 'E') : cs.head? ≠ some mark := by
      intro first
      obtain ⟨rest, rfl⟩ := List.head?_eq_some_iff.mp first
      exact marked ⟨mark, rest, rfl, isMark⟩
    rw [takeExponent_of_ne (unmarked 'e' (.inl rfl)) (unmarked 'E' (.inr rfl))]
    exact ⟨[], .none, rfl, by simp⟩

theorem take_of_digit {c : Char} (digit : c.isDigit = true) (cs : List Char) :
    (take c cs).1.negative = false ∧ (take c cs).1.whole = c :: cs.takeWhile Char.isDigit := by
  simp [take, digit_ne_minus digit]

/-- The run of a number has the text that was taken, which ends where no name goes on. -/
theorem take_text {c : Char} (start : c.isDigit = true ∨ c = '-') (cs : List Char) :
    ∃ text, c :: cs = text ++ (take c cs).2 ∧ (take c cs).1.HasText text ∧
      (take c cs).1.Formed ∧ Ends (take c cs).2 := by
  have digits : ∀ d ∈ cs.takeWhile Char.isDigit, d.isDigit = true :=
    List.all_eq_true.mp List.all_takeWhile
  obtain ⟨fractionCut, fractionDigits⟩ := takeFraction_text (cs.dropWhile Char.isDigit)
  obtain ⟨exponent, marked, exponentCut, exponentDigits⟩ :=
    takeExponent_taken (takeFraction (cs.dropWhile Char.isDigit)).2
  have cut : cs = cs.takeWhile Char.isDigit ++ (fractionChars (take c cs).1.fraction ++
      (exponent ++ ((take c cs).1.glued ++ (take c cs).2))) := by
    conv_lhs => rw [← List.takeWhile_append_dropWhile (p := Char.isDigit) (l := cs), fractionCut,
      exponentCut]
    simp only [take, List.takeWhile_append_dropWhile]
  have ends : Ends (take c cs).2 := by
    intro d hd
    have stop := List.head?_dropWhile_not Text.isNameChar
      (takeExponent (takeFraction (cs.dropWhile Char.isDigit)).2).2
    simp only [take] at hd
    rw [Option.mem_def.mp hd] at stop
    exact stop
  refine ⟨(if (take c cs).1.negative then ['-'] else []) ++ ((take c cs).1.whole ++
    (fractionChars (take c cs).1.fraction ++ (exponent ++ (take c cs).1.glued))), ?_,
    ⟨exponent, marked, rfl⟩, ?_, ends⟩
  · simp only [List.append_assoc]
    rcases start with digit | rfl
    · obtain ⟨positive, whole⟩ := take_of_digit digit cs
      rw [positive, whole]
      exact congrArg (c :: ·) cut
    · exact congrArg ('-' :: ·) cut
  · refine ⟨?_, fractionDigits, fun e here => (exponentDigits e here).1,
      fun e here => (exponentDigits e here).2, List.all_eq_true.mp List.all_takeWhile⟩
    rcases start with digit | rfl
    · rw [(take_of_digit digit cs).2]
      exact List.forall_mem_cons.mpr ⟨digit, digits⟩
    · exact digits

/-! ## The check of a run's text -/

theorem splitOnce_some {c : Char} {cs front back : List Char}
    (split : splitOnce c cs = some (front, back)) : cs = front ++ c :: back := by
  have whole := List.takeWhile_append_dropWhile (p := (· != c)) (l := cs)
  have stop := List.head?_dropWhile_not (· != c) cs
  unfold splitOnce at split
  cases left : cs.dropWhile (· != c) with
  | nil =>
    rw [left] at split
    cases split
  | cons d rest =>
    rw [left] at split stop whole
    cases split
    obtain rfl : d = c := by simpa using stop
    exact whole.symm

theorem isMantissa_parts {cs : List Char} (mantissa : isMantissa cs = true) :
    ∃ whole fraction, cs = whole ++ fractionChars fraction ∧
      (whole ≠ [] ∧ ∀ c ∈ whole, c.isDigit = true) ∧
      ∀ ds ∈ fraction, ds ≠ [] ∧ ∀ c ∈ ds, c.isDigit = true := by
  unfold isMantissa at mantissa
  split at mantissa
  · rename_i whole fraction split
    obtain ⟨digits, more⟩ := Bool.and_eq_true_iff.mp mantissa
    refine ⟨whole, some fraction, splitOnce_some split, isDigits_iff.mp digits, ?_⟩
    rintro ds ⟨⟩
    exact isDigits_iff.mp more
  · exact ⟨cs, none, (List.append_nil _).symm, isDigits_iff.mp mantissa, nofun⟩

theorem isUnsigned_parts {cs : List Char} (unsigned : isUnsigned cs = true) (negative : Bool) :
    ∃ r : NumberRun, r.Plain ∧ r.negative = negative ∧
      cs = r.whole ++ fractionChars r.fraction ++ exponentChars r.exponent := by
  unfold isUnsigned at unsigned
  split at unsigned
  · rename_i mantissa exponent split
    obtain ⟨front, digits⟩ := Bool.and_eq_true_iff.mp unsigned
    obtain ⟨whole, fraction, rfl, wholeDigits, fractionDigits⟩ := isMantissa_parts front
    obtain ⟨signed, isSign⟩ := takeSign_text exponent
    let e : ExponentPart := ⟨(takeSign exponent).1, (takeSign exponent).2⟩
    refine ⟨⟨negative, whole, fraction, some e, []⟩, ⟨wholeDigits.1, wholeDigits.2, fractionDigits, ?_, ?_,
      rfl⟩, rfl, ?_⟩
    · rintro _ ⟨⟩
      exact isDigits_iff.mp digits
    · rintro _ ⟨⟩
      exact isSign
    · rw [splitOnce_some split, exponentChars, List.cons_append, ← signed]
  · obtain ⟨whole, fraction, rfl, wholeDigits, fractionDigits⟩ := isMantissa_parts unsigned
    exact ⟨⟨negative, whole, fraction, none, []⟩, ⟨wholeDigits.1, wholeDigits.2, fractionDigits, by simp,
      by simp, rfl⟩, rfl, (List.append_nil _).symm⟩

/-- The texts that pass the check are the spellings of numbers. -/
theorem isDecimal_iff {cs : List Char} :
    isDecimal cs = true ↔ ∃ r : NumberRun, r.Plain ∧ r.spelling.toList = cs := by
  constructor
  · intro decimal
    unfold isDecimal at decimal
    split at decimal
    · obtain ⟨r, plain, negative, rfl⟩ := isUnsigned_parts decimal true
      exact ⟨r, plain, by rw [spelling_toList, negative, plain.glued]; simp⟩
    · obtain ⟨r, plain, positive, rfl⟩ := isUnsigned_parts decimal false
      exact ⟨r, plain, by rw [spelling_toList, positive, plain.glued]; simp⟩
  · rintro ⟨r, plain, rfl⟩
    exact plain.isValid

/-- Where a character stands in a text, if it is not one of those at the front. -/
theorem exists_after {p : Char → Bool} {x y a b : List Char} {d : Char}
    (inside : ∀ c ∈ x, p c = true) (outside : p d = false) (same : x ++ y = a ++ d :: b) :
    ∃ a', a = x ++ a' ∧ y = a' ++ d :: b := by
  rcases List.append_eq_append_iff.mp same with ⟨a', whole, rest⟩ | ⟨x', whole, rest⟩
  · exact ⟨a', whole, rest⟩
  · cases x' with
    | nil => exact ⟨[], by simpa using whole.symm, rest.symm⟩
    | cons e x' =>
      obtain ⟨rfl, -⟩ := List.cons.inj rest
      have here := inside d (by simp [whole])
      rw [outside] at here
      cases here

theorem hasText_spelling (r : NumberRun) : r.HasText r.spelling.toList := by
  refine ⟨exponentChars r.exponent, ?_, by rw [spelling_toList]; simp⟩
  cases r.exponent with
  | none => exact .none
  | some e => exact .some (.inl rfl) e

/-- The message about a run shows its text with a small exponent mark. -/
theorem HasText.spelling {r : NumberRun} {text : List Char} (written : r.HasText text) :
    r.spelling.toList = text ∨
      ∃ a b, text = a ++ 'E' :: b ∧ r.spelling.toList = a ++ 'e' :: b := by
  obtain ⟨negative, whole, fraction, exponent, glued⟩ := r
  obtain ⟨exponentText, marked, rfl⟩ := written
  rw [spelling_toList]
  cases marked with
  | none => exact .inl (by simp [exponentChars])
  | some isMark e =>
    rcases isMark with rfl | rfl
    · exact .inl (by simp [exponentChars])
    · refine .inr ⟨(if negative then ['-'] else []) ++ (whole ++ fractionChars fraction),
        e.sign.toList ++ e.digits ++ glued, by simp, by simp [exponentChars]⟩

/-- The only small `e` in the spelling of a number is its mark, which may be large in its text. -/
theorem Plain.hasText_large {r : NumberRun} (plain : r.Plain) {a b : List Char}
    (spelled : r.spelling.toList = a ++ 'e' :: b) : r.HasText (a ++ 'E' :: b) := by
  have front : ∀ c ∈ (if r.negative then ['-'] else []) ++ (r.whole ++ fractionChars r.fraction),
      (c != 'e') = true := by
    refine ne_of_absent fun member => ?_
    rcases List.mem_append.mp member with sign | mantissa
    · revert sign
      cases r.negative <;> decide
    · exact plain.mantissa_unmarked mantissa
  rw [spelling_toList, plain.glued, List.append_nil, List.append_assoc _ r.whole] at spelled
  obtain ⟨a', rfl, rest⟩ := exists_after front (by decide) spelled
  cases exponent : r.exponent with
  | none =>
    rw [exponent] at rest
    simp [exponentChars] at rest
  | some e =>
    rw [exponent, exponentChars, List.cons_append] at rest
    cases a' with
    | nil =>
      obtain ⟨-, rfl⟩ := List.cons.inj rest
      refine ⟨'E' :: (e.sign.toList ++ e.digits), ?_, by simp [plain.glued]⟩
      rw [exponent]
      exact .some (.inr rfl) e
    | cons d a' =>
      -- Behind the mark there are a sign and digits only.
      obtain ⟨-, tail⟩ := List.cons.inj rest
      have member : 'e' ∈ e.sign.toList ++ e.digits := by simp [tail]
      rcases List.mem_append.mp member with sign | digit
      · have signed := plain.sign e exponent 'e' (Option.mem_toList.mp sign)
        exact absurd signed (by decide)
      · exact absurd digit (not_mem_digits (by decide) (plain.exponent e exponent).2)

/-- A run that was taken passes the check of its text exactly if a number fills its parts. -/
theorem isValid_iff {c : Char} (start : c.isDigit = true ∨ c = '-') {cs : List Char} :
    (take c cs).1.isValid = true ↔ (take c cs).1.Plain := by
  refine ⟨?_, Plain.isValid⟩
  intro valid
  obtain ⟨text, cut, written, -, ends⟩ := take_text start cs
  obtain ⟨r, plain, spelled⟩ := isDecimal_iff.mp valid
  have written' : r.HasText text := by
    obtain same | ⟨a, b, rfl, small⟩ := written.spelling
    · rw [← same, ← spelled]
      exact r.hasText_spelling
    · exact plain.hasText_large (spelled.trans small)
  rw [plain.take_text written' cut ends]
  exact plain

end NumberRun

end FilterSql
