import FilterSql.Calendar.Instant
import FilterSql.Proofs.Names
import Mathlib.Algebra.Group.Nat.Defs

/-!
Which texts stand for instants, said as a grammar: a date, a time of day, perhaps a fraction of a second,
and how far the clock is ahead of universal time. The reader takes these texts and no others, and each
for the instant that it stands for.
-/

namespace FilterSql

/-! ## Digits -/

theorem digitsValue_append (a b : List Char) :
    digitsValue (a ++ b) = 10 ^ b.length * digitsValue a + digitsValue b := by
  have split : digitsValue (a ++ b) = Nat.ofDigitChars 10 b (digitsValue a) :=
    Nat.ofDigitChars_append 0
  rw [split, Nat.ofDigitChars_eq_ofDigitChars_zero]
  rfl

theorem digitsValue_lt {ds : List Char} (digits : ∀ c ∈ ds, c.isDigit = true) :
    digitsValue ds < 10 ^ ds.length := by
  induction ds with
  | nil => decide
  | cons d ds ih =>
    rw [List.forall_mem_cons] at digits
    have rest := ih digits.2
    have first : digitsValue [d] ≤ 9 := by
      have high : d.toNat ≤ 57 := (Char.isDigit_iff_toNat.mp digits.1).2
      have value : digitsValue [d] = d.toNat - 48 := by simp [digitsValue]
      omega
    calc digitsValue (d :: ds)
      _ = 10 ^ ds.length * digitsValue [d] + digitsValue ds := digitsValue_append [d] ds
      _ < 10 ^ ds.length * digitsValue [d] + 10 ^ ds.length := Nat.add_lt_add_left rest _
      _ = 10 ^ ds.length * (digitsValue [d] + 1) := rfl
      _ ≤ 10 ^ ds.length * 10 := Nat.mul_le_mul_left _ (Nat.succ_le_succ first)

namespace Instant

/-! ## Grammar -/

/-- A number written in a fixed number of places. -/
structure Figure (places n : Nat) (cs : List Char) : Prop where
  length : cs.length = places
  digits : ∀ c ∈ cs, c.isDigit = true
  value : digitsValue cs = n

inductive DateText : List Char → Date → Prop
  | mk {y m d : List Char} {year month day : Nat} (inYear : Figure 4 year y)
      (inMonth : Figure 2 month m) (inDay : Figure 2 day d)
      (valid : Date.isValid ⟨year, month, day⟩ = true) :
      DateText (y ++ '-' :: (m ++ '-' :: d)) ⟨year, month, day⟩

/-- Minute of the day and second, which is 60 for a leap second. -/
inductive ClockText : List Char → Nat → Nat → Prop
  | mk {h m s : List Char} {hour minute second : Nat} (inHour : Figure 2 hour h)
      (inMinute : Figure 2 minute m) (inSecond : Figure 2 second s)
      (valid : hour ≤ 23 ∧ minute ≤ 59 ∧ second ≤ 60) :
      ClockText (h ++ ':' :: (m ++ ':' :: s)) (hour * 60 + minute) second

/-- A fraction of a second in whole nanoseconds. -/
inductive FractionText : List Char → Nat → Prop
  | absent : FractionText [] 0
  | digits {ds : List Char} (solid : ds ≠ []) (digits : ∀ c ∈ ds, c.isDigit = true) :
      FractionText ('.' :: ds) (digitsValue ds * 10 ^ 9 / 10 ^ ds.length)

/-- Hours and minutes by which a clock differs from universal time, in minutes. -/
inductive ShiftText : List Char → Nat → Prop
  | mk {h m : List Char} {hours minutes : Nat} (inHours : Figure 2 hours h)
      (inMinutes : Figure 2 minutes m) (valid : hours ≤ 23 ∧ minutes ≤ 59) :
      ShiftText (h ++ ':' :: m) (hours * 60 + minutes)

/-- Minutes ahead of universal time. -/
inductive OffsetText : List Char → Int → Prop
  | universal {c : Char} (mark : c = 'Z' ∨ c = 'z') : OffsetText [c] 0
  | east {cs : List Char} {minutes : Nat} (shift : ShiftText cs minutes) :
      OffsetText ('+' :: cs) minutes
  | west {c : Char} {cs : List Char} {minutes : Nat} (minus : c = '-' ∨ c = '−')
      (shift : ShiftText cs minutes) : OffsetText (c :: cs) (-minutes)

end Instant

/-- Texts of instants by RFC 3339. -/
inductive InstantText : List Char → Instant → Prop
  | mk {d t f o : List Char} {date : Date} {minute second nano : Nat} {east : Int} {c : Char}
      (inDate : Instant.DateText d date) (separator : c = 'T' ∨ c = 't' ∨ c = ' ')
      (inClock : Instant.ClockText t minute second) (inFraction : Instant.FractionText f nano)
      (inOffset : Instant.OffsetText o east) :
      InstantText (d ++ c :: (t ++ (f ++ o))) (.ofLocal date minute east second nano)

namespace Instant

/-! ## Readers -/

theorem takeNumber_iff {places n : Nat} {cs rest : List Char} :
    takeNumber places cs = some (n, rest) ↔ ∃ front, cs = front ++ rest ∧ Figure places n front := by
  constructor
  · intro h
    simp only [takeNumber] at h
    split at h
    · rename_i whole
      simp only [Bool.and_eq_true, decide_eq_true_eq, List.all_eq_true] at whole
      cases h
      exact ⟨_, (List.take_append_drop places cs).symm, whole.1, whole.2, rfl⟩
    · cases h
  · rintro ⟨front, rfl, rfl, digits, rfl⟩
    have all : front.all Char.isDigit = true := List.all_eq_true.mpr digits
    simp [takeNumber, all]

theorem skip_iff {c : Char} {cs rest : List Char} : skip c cs = some rest ↔ cs = c :: rest := by
  cases cs with
  | nil => simp [skip]
  | cons d cs => simp [skip]

theorem takeDate_iff {cs rest : List Char} {date : Date} :
    takeDate cs = some (date, rest) ↔ ∃ front, cs = front ++ rest ∧ DateText front date := by
  simp only [takeDate, Option.bind_eq_bind, Option.bind_eq_some_iff, Prod.exists, takeNumber_iff,
    skip_iff]
  constructor
  · rintro ⟨year, _, ⟨y, rfl, inYear⟩, _, rfl, month, _, ⟨m, rfl, inMonth⟩, _, rfl, day, _,
      ⟨d, rfl, inDay⟩, made⟩
    split at made
    · rename_i valid
      cases made
      exact ⟨_, by simp, .mk inYear inMonth inDay valid⟩
    · cases made
  · rintro ⟨_, rfl, @⟨y, m, d, year, month, day, inYear, inMonth, inDay, valid⟩⟩
    simp only [List.append_assoc, List.cons_append]
    exact ⟨year, _, ⟨y, rfl, inYear⟩, _, rfl, month, _, ⟨m, rfl, inMonth⟩, _, rfl, day, _,
      ⟨d, rfl, inDay⟩, if_pos valid⟩

theorem skipSeparator_iff {cs rest : List Char} :
    skipSeparator cs = some rest ↔ ∃ c, cs = c :: rest ∧ (c = 'T' ∨ c = 't' ∨ c = ' ') := by
  cases cs with
  | nil => simp [skipSeparator]
  | cons d cs =>
    simp only [skipSeparator, Bool.or_eq_true, beq_iff_eq, Option.ite_none_right_eq_some,
      Option.some.injEq, List.cons.injEq, or_assoc]
    constructor
    · rintro ⟨separator, rfl⟩
      exact ⟨d, ⟨rfl, rfl⟩, separator⟩
    · rintro ⟨_, ⟨rfl, rfl⟩, separator⟩
      exact ⟨separator, rfl⟩

theorem takeClock_iff {cs rest : List Char} {minute second : Nat} :
    takeClock cs = some (minute, second, rest) ↔
      ∃ front, cs = front ++ rest ∧ ClockText front minute second := by
  simp only [takeClock, Option.bind_eq_bind, Option.bind_eq_some_iff, Prod.exists, takeNumber_iff,
    skip_iff, Bool.and_eq_true, decide_eq_true_eq, and_assoc]
  constructor
  · rintro ⟨hour, _, ⟨h, rfl, inHour⟩, _, rfl, minute, _, ⟨m, rfl, inMinute⟩, _, rfl, second, _,
      ⟨s, rfl, inSecond⟩, made⟩
    split at made
    · rename_i valid
      cases made
      exact ⟨_, by simp, .mk inHour inMinute inSecond valid⟩
    · cases made
  · rintro ⟨_, rfl, @⟨h, m, s, hour, minute, second, inHour, inMinute, inSecond, valid⟩⟩
    simp only [List.append_assoc, List.cons_append]
    exact ⟨hour, _, ⟨h, rfl, inHour⟩, _, rfl, minute, _, ⟨m, rfl, inMinute⟩, _, rfl, second, _,
      ⟨s, rfl, inSecond⟩, if_pos valid⟩

/-- The first nine digits of a fraction are its whole nanoseconds. -/
theorem nano_eq {ds : List Char} (digits : ∀ c ∈ ds, c.isDigit = true) :
    digitsValue (ds.take 9) * Nat.pow 10 (9 - (ds.take 9).length) =
      digitsValue ds * 10 ^ 9 / 10 ^ ds.length := by
  have positive (n : Nat) : 0 < 10 ^ n := Nat.pow_pos (by decide)
  rcases Nat.le_total ds.length 9 with short | long
  · have scale : 10 ^ 9 = 10 ^ (9 - ds.length) * 10 ^ ds.length := by
      rw [← Nat.pow_add, Nat.sub_add_cancel short]
    rw [List.take_of_length_le short, scale, ← Nat.mul_assoc, Nat.mul_div_cancel _ (positive _)]
    rfl
  · have kept : (ds.take 9).length = 9 := List.length_take_of_le long
    have size : ds.length = 9 + (ds.drop 9).length := by
      rw [List.length_drop]
      omega
    have value : digitsValue ds =
        10 ^ (ds.drop 9).length * digitsValue (ds.take 9) + digitsValue (ds.drop 9) := by
      rw [← digitsValue_append, List.take_append_drop]
    have small : digitsValue (ds.drop 9) < 10 ^ (ds.drop 9).length :=
      digitsValue_lt fun c hc => digits c (List.mem_of_mem_drop hc)
    calc digitsValue (ds.take 9) * Nat.pow 10 (9 - (ds.take 9).length)
      _ = digitsValue (ds.take 9) := by
        rw [kept]
        exact Nat.mul_one _
      _ = digitsValue ds / 10 ^ (ds.drop 9).length := by
        rw [value, Nat.mul_add_div (positive _), Nat.div_eq_of_lt small, Nat.add_zero]
      _ = digitsValue ds * 10 ^ 9 / (10 ^ (ds.drop 9).length * 10 ^ 9) :=
        (Nat.mul_div_mul_right _ _ (positive 9)).symm
      _ = digitsValue ds * 10 ^ 9 / 10 ^ ds.length := by
        rw [← Nat.pow_add, Nat.add_comm, ← size]

theorem fractionText_of_take {cs rest : List Char} {nano : Nat}
    (h : takeFraction cs = some (nano, rest)) :
    ∃ front, cs = front ++ rest ∧ FractionText front nano := by
  unfold takeFraction at h
  split at h
  · rename_i ds
    simp only [Numeral.splitDigits, Option.ite_none_left_eq_some, List.isEmpty_iff] at h
    obtain ⟨solid, made⟩ := h
    cases made
    have digits := List.all_eq_true.mp (@List.all_takeWhile _ Char.isDigit ds)
    rw [nano_eq digits]
    refine ⟨'.' :: ds.takeWhile Char.isDigit, ?_, .digits solid digits⟩
    rw [List.cons_append, List.takeWhile_append_dropWhile]
  · cases h
    exact ⟨[], rfl, .absent⟩

/-- A fraction ends where its digits do, so what follows must be neither a digit nor a point. -/
theorem FractionText.take {f rest : List Char} {nano : Nat} (h : FractionText f nano)
    (ends : ∀ c ∈ rest.head?, c.isDigit = false ∧ c ≠ '.') :
    takeFraction (f ++ rest) = some (nano, rest) := by
  cases h with
  | absent =>
    unfold takeFraction
    split
    · rename_i ds same
      rw [List.nil_append] at same
      exact absurd rfl (ends '.' (by simp [same])).2
    · rfl
  | @digits ds solid digits =>
    obtain ⟨taken, left⟩ := span_append digits fun c hc => (ends c hc).1
    simp only [takeFraction, List.cons_append, Numeral.splitDigits, taken, left, List.isEmpty_iff, solid,
      if_false, nano_eq digits]

theorem takeOffset_signed {c : Char} (sign : c = '+' ∨ c = '-' ∨ c = '−') {cs rest : List Char}
    {east : Int} : takeOffset (c :: cs) = some (east, rest) ↔
      ∃ front minutes, cs = front ++ rest ∧ ShiftText front minutes ∧
        east = if c = '+' then (minutes : Int) else -minutes := by
  have noMark : (c == 'Z' || c == 'z') = false := by rcases sign with rfl | rfl | rfl <;> rfl
  have signed : (c == '+' || c == '-' || c == '−') = true := by
    rcases sign with rfl | rfl | rfl <;> rfl
  simp only [takeOffset, noMark, signed, if_true, Bool.false_eq_true, if_false, Option.bind_eq_bind,
    Option.bind_eq_some_iff, Prod.exists, takeNumber_iff, skip_iff, Bool.and_eq_true,
    decide_eq_true_eq, beq_iff_eq]
  constructor
  · rintro ⟨hours, _, ⟨h, rfl, inHours⟩, _, rfl, minutes, _, ⟨m, rfl, inMinutes⟩, made⟩
    split at made
    · rename_i valid
      cases made
      exact ⟨_, _, by simp, .mk inHours inMinutes valid, by simp⟩
    · cases made
  · rintro ⟨_, _, rfl, @⟨h, m, hours, minutes, inHours, inMinutes, valid⟩, rfl⟩
    simp only [List.append_assoc, List.cons_append]
    refine ⟨hours, _, ⟨h, rfl, inHours⟩, _, rfl, minutes, _, ⟨m, rfl, inMinutes⟩, ?_⟩
    rw [if_pos valid]
    simp

theorem takeOffset_iff {cs rest : List Char} {east : Int} :
    takeOffset cs = some (east, rest) ↔ ∃ front, cs = front ++ rest ∧ OffsetText front east := by
  constructor
  · intro h
    cases cs with
    | nil => cases h
    | cons c cs =>
      by_cases sign : c = '+' ∨ c = '-' ∨ c = '−'
      · obtain ⟨front, minutes, rfl, shift, rfl⟩ := (takeOffset_signed sign).mp h
        refine ⟨c :: front, rfl, ?_⟩
        rcases sign with rfl | minus
        · exact .east shift
        · have noPlus : c ≠ '+' := by rcases minus with rfl | rfl <;> decide
          rw [if_neg noPlus]
          exact .west minus shift
      · have unsigned : (c == '+' || c == '-' || c == '−') = false := by
          simpa [and_assoc] using sign
        simp only [takeOffset, unsigned, Bool.false_eq_true, if_false, Bool.or_eq_true, beq_iff_eq,
          Option.ite_none_right_eq_some] at h
        obtain ⟨mark, made⟩ := h
        cases made
        exact ⟨[c], rfl, .universal mark⟩
  · rintro ⟨_, rfl, offset⟩
    cases offset with
    | universal mark => rcases mark with rfl | rfl <;> rfl
    | east shift => exact (takeOffset_signed (.inl rfl)).mpr ⟨_, _, rfl, shift, rfl⟩
    | west minus shift =>
      refine (takeOffset_signed (.inr minus)).mpr ⟨_, _, rfl, shift, ?_⟩
      rcases minus with rfl | rfl <;> rfl

/-- No fraction goes on into an offset. -/
theorem OffsetText.ends {o : List Char} {east : Int} (h : OffsetText o east) :
    ∀ c ∈ o.head?, c.isDigit = false ∧ c ≠ '.' := by
  intro d hd
  cases h with
  | universal mark =>
    cases hd
    rcases mark with rfl | rfl <;> decide
  | east shift =>
    cases hd
    decide
  | west minus shift =>
    cases hd
    rcases minus with rfl | rfl <;> decide

/-- The reader takes the texts of instants, each for its instant, and no others. -/
theorem ofText?_iff {s : String} {i : Instant} : ofText? s = some i ↔ InstantText s.toList i := by
  simp only [ofText?, ofChars?, Option.bind_eq_bind, Option.bind_eq_some_iff, Prod.exists,
    takeDate_iff, skipSeparator_iff, takeClock_iff, takeOffset_iff]
  constructor
  · rintro ⟨date, _, ⟨d, whole, inDate⟩, _, ⟨c, rfl, separator⟩, minute, second, _,
      ⟨t, rfl, inClock⟩, nano, _, fraction, east, rest, ⟨o, rfl, inOffset⟩, made⟩
    obtain ⟨f, rfl, inFraction⟩ := fractionText_of_take fraction
    simp only [Option.ite_none_right_eq_some, List.isEmpty_iff] at made
    obtain ⟨rfl, made⟩ := made
    cases made
    rw [whole, List.append_nil]
    exact .mk inDate separator inClock inFraction inOffset
  · intro h
    generalize s.toList = cs at h
    obtain @⟨d, t, f, o, date, minute, second, nano, east, c, inDate, separator, inClock, inFraction,
      inOffset⟩ := h
    exact ⟨date, _, ⟨d, rfl, inDate⟩, _, ⟨c, rfl, separator⟩, minute, second, _, ⟨t, rfl, inClock⟩,
      nano, _, inFraction.take inOffset.ends, east, [], ⟨o, (List.append_nil o).symm, inOffset⟩, rfl⟩

theorem ofText?_eq_none_iff {s : String} : ofText? s = none ↔ ∀ i, ¬InstantText s.toList i := by
  simp only [Option.eq_none_iff_forall_ne_some, ne_eq, ofText?_iff]

end Instant

end FilterSql
