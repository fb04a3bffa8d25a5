import FilterSql.Predicate
import FilterSql.Proofs.Names

/-!
The text of predicates as a grammar reads it. The grammar leaves open how a chain of equal connectives
groups; the text of a predicate has no such chain, and it reads as that predicate and as nothing else.
-/

namespace FilterSql

/-- What a reader of predicate text finds in it. Parentheses leave no trace of their own. -/
inductive Reading
  | notNull (column : String)
  | compare (column : String) (comparison : Comparison) (placeholder : String) (folded : Bool)
  | join (c : Connective) (left right : Reading)
  deriving DecidableEq, Repr

/-- Every column has a proper name, and so has every value. -/
def Reading.Named : Reading → Prop
  | notNull column => Text.isName column = true
  | compare column _ placeholder _ => Text.isName column = true ∧ Text.isName placeholder = true
  | join _ left right => left.Named ∧ right.Named

inductive TestText : String → Reading → Prop
  | notNull {column : String} (named : Text.isName column = true) :
      TestText (column ++ " IS NOT NULL") (.notNull column)
  | compare {column placeholder : String} (comparison : Comparison)
      (named : Text.isName column = true) (placed : Text.isName placeholder = true) :
      TestText (column ++ " " ++ comparison.sql ++ " :" ++ placeholder)
        (.compare column comparison placeholder false)
  | folded {column placeholder : String} (comparison : Comparison)
      (named : Text.isName column = true) (placed : Text.isName placeholder = true) :
      TestText ("LOWER(" ++ column ++ ") " ++ comparison.sql ++ " LOWER(:" ++ placeholder ++ ")")
        (.compare column comparison placeholder true)

/-- How much a piece of text takes together: one test or group, those joined by `AND`, or anything. -/
inductive Extent
  | atom
  | conjunction
  | disjunction
  deriving DecidableEq, Repr

inductive Reads : Extent → String → Reading → Prop
  | test {text : String} {tree : Reading} : TestText text tree → Reads .atom text tree
  | group {text : String} {tree : Reading} :
      Reads .disjunction text tree → Reads .atom ("(" ++ text ++ ")") tree
  | conjunct {text : String} {tree : Reading} : Reads .atom text tree → Reads .conjunction text tree
  | and {left right : String} {t u : Reading} :
      Reads .conjunction left t → Reads .conjunction right u →
      Reads .conjunction (left ++ " AND " ++ right) (.join .and t u)
  | disjunct {text : String} {tree : Reading} :
      Reads .conjunction text tree → Reads .disjunction text tree
  | or {left right : String} {t u : Reading} :
      Reads .disjunction left t → Reads .disjunction right u →
      Reads .disjunction (left ++ " OR " ++ right) (.join .or t u)

/-! ## The parts of a test -/

theorem comparison_unique {k l : Comparison} {r s : List Char}
    (h : k.sql.toList ++ ' ' :: r = l.sql.toList ++ ' ' :: s) : k = l ∧ r = s := by
  have solid (k : Comparison) : ∀ c ∈ k.sql.toList, (c != ' ') = true := by
    apply List.all_eq_true.mp
    cases k <;> rfl
  have stop (r : List Char) : ∀ c ∈ (' ' :: r).head?, (c != ' ') = false := by
    intro c hc
    cases hc
    rfl
  obtain ⟨same, rest⟩ := span_unique (solid k) (solid l) (stop r) (stop s) h
  refine ⟨?_, (List.cons.inj rest).2⟩
  revert same
  cases k <;> cases l <;> decide

/-! ## Tests -/

theorem notNull_toList (column : String) (rest : List Char) :
    (column ++ " IS NOT NULL").toList ++ rest =
      column.toList ++ ' ' :: ("IS NOT NULL".toList ++ rest) := by
  simp

theorem compare_toList (column placeholder : String) (k : Comparison) (rest : List Char) :
    (column ++ " " ++ k.sql ++ " :" ++ placeholder).toList ++ rest =
      column.toList ++ ' ' :: (k.sql.toList ++ ' ' :: ':' :: (placeholder.toList ++ rest)) := by
  simp

theorem folded_toList (column placeholder : String) (k : Comparison) (rest : List Char) :
    ("LOWER(" ++ column ++ ") " ++ k.sql ++ " LOWER(:" ++ placeholder ++ ")").toList ++ rest =
      "LOWER".toList ++ '(' :: (column.toList ++ ')' :: ' ' :: (k.sql.toList ++
        ' ' :: ("LOWER(:".toList ++ (placeholder.toList ++ ')' :: rest)))) := by
  simp

theorem TestText.starts {text : String} {tree : Reading} (h : TestText text tree)
    (rest : List Char) :
    ∃ word tail, Text.isName word = true ∧ text.toList ++ rest = word.toList ++ tail := by
  cases h with
  | notNull named => exact ⟨_, _, named, notNull_toList ..⟩
  | compare comparison named placed => exact ⟨_, _, named, compare_toList ..⟩
  | folded comparison named placed => exact ⟨"LOWER", _, by decide, folded_toList ..⟩

/-- Where two tests read from one text, they are the same test. -/
theorem TestText.unique {a b : String} {t u : Reading} {r s : List Char} (left : TestText a t)
    (right : TestText b u) (hr : Ends r) (hs : Ends s) (same : a.toList ++ r = b.toList ++ s) :
    t = u ∧ r = s := by
  have blank (rest : List Char) : Ends (' ' :: rest) := ends_cons (by decide) rest
  have opened (rest : List Char) : Ends ('(' :: rest) := ends_cons (by decide) rest
  have closed (rest : List Char) : Ends (')' :: rest) := ends_cons (by decide) rest
  have lower : Text.isName "LOWER" = true := by decide
  cases left with
  | notNull named =>
    cases right with
    | notNull named' =>
      rw [notNull_toList, notNull_toList] at same
      obtain ⟨rfl, rest⟩ := name_unique named named' (blank _) (blank _) same
      exact ⟨rfl, List.append_cancel_left (List.cons.inj rest).2⟩
    | compare comparison named' placed' =>
      rw [notNull_toList, compare_toList] at same
      obtain ⟨rfl, rest⟩ := name_unique named named' (blank _) (blank _) same
      cases comparison <;> simp [Comparison.sql] at rest
    | folded comparison named' placed' =>
      rw [notNull_toList, folded_toList] at same
      obtain ⟨-, rest⟩ := name_unique named lower (blank _) (opened _) same
      simp at rest
  | compare comparison named placed =>
    cases right with
    | notNull named' =>
      rw [compare_toList, notNull_toList] at same
      obtain ⟨rfl, rest⟩ := name_unique named named' (blank _) (blank _) same
      cases comparison <;> simp [Comparison.sql] at rest
    | compare comparison' named' placed' =>
      rw [compare_toList, compare_toList] at same
      obtain ⟨rfl, rest⟩ := name_unique named named' (blank _) (blank _) same
      obtain ⟨rfl, value⟩ := comparison_unique (List.cons.inj rest).2
      obtain ⟨rfl, after⟩ := name_unique placed placed' hr hs (List.cons.inj value).2
      exact ⟨rfl, after⟩
    | folded comparison' named' placed' =>
      rw [compare_toList, folded_toList] at same
      obtain ⟨-, rest⟩ := name_unique named lower (blank _) (opened _) same
      simp at rest
  | folded comparison named placed =>
    cases right with
    | notNull named' =>
      rw [folded_toList, notNull_toList] at same
      obtain ⟨-, rest⟩ := name_unique lower named' (opened _) (blank _) same
      simp at rest
    | compare comparison' named' placed' =>
      rw [folded_toList, compare_toList] at same
      obtain ⟨-, rest⟩ := name_unique lower named' (opened _) (blank _) same
      simp at rest
    | folded comparison' named' placed' =>
      rw [folded_toList, folded_toList] at same
      have column := (List.cons.inj (List.append_cancel_left same)).2
      obtain ⟨rfl, rest⟩ := name_unique named named' (closed _) (closed _) column
      obtain ⟨rfl, value⟩ := comparison_unique (List.cons.inj (List.cons.inj rest).2).2
      obtain ⟨rfl, after⟩ := name_unique placed placed' (closed _) (closed _)
        (List.append_cancel_left value)
      exact ⟨rfl, (List.cons.inj after).2⟩

/-! ## Pieces of a text -/

/-- A connective with the blanks around it. -/
def Connective.between (c : Connective) : String :=
  " " ++ c.upper ++ " "

theorem between_toList (c : Connective) : c.between.toList = ' ' :: (c.upper.toList ++ [' ']) := by
  simp [Connective.between]

/-- No connective comes next. -/
def Unjoined (rest : List Char) : Prop :=
  ∀ (c : Connective) (tail : List Char), rest ≠ c.between.toList ++ tail

theorem unjoined_nil : Unjoined [] := by
  intro c tail same
  rw [between_toList] at same
  cases same

/-- A text that reads is one atom, two atoms under one connective, or begins with two atoms and goes
on. Only the last leaves open how it groups. -/
inductive Pieces : String → Reading → Prop
  | one {text : String} {tree : Reading} : Reads .atom text tree → Pieces text tree
  | two {left right : String} {t u : Reading} (c : Connective) :
      Reads .atom left t → Reads .atom right u →
      Pieces (left ++ (c.between ++ right)) (.join c t u)
  | more {left middle rest : String} {t u tree : Reading} (c d : Connective) :
      Reads .atom left t → Reads .atom middle u →
      Pieces (left ++ (c.between ++ (middle ++ (d.between ++ rest)))) tree

theorem Pieces.join {left right : String} {t u : Reading} (c : Connective) (hl : Pieces left t)
    (hr : Pieces right u) : Pieces (left ++ (c.between ++ right)) (.join c t u) := by
  cases hl with
  | one first =>
    cases hr with
    | one second => exact .two c first second
    | two d second third => exact .more c d first second
    | more d e second third => exact .more c d first second
  | two d first second =>
    simp only [String.append_assoc]
    exact .more d c first second
  | more d e first second =>
    simp only [String.append_assoc]
    exact .more d e first second

theorem Reads.pieces {extent : Extent} {text : String} {tree : Reading}
    (h : Reads extent text tree) : Pieces text tree := by
  induction h with
  | test h => exact .one (.test h)
  | group inner _ => exact .one (.group inner)
  | conjunct _ ih => exact ih
  | and _ _ ihl ihr =>
    rw [String.append_assoc]
    exact .join .and ihl ihr
  | disjunct _ ih => exact ih
  | or _ _ ihl ihr =>
    rw [String.append_assoc]
    exact .join .or ihl ihr

/-! ## The text of a predicate -/

namespace Predicate

/-- What the text of the predicate should read as. -/
def reading : Predicate → Reading
  | notNull column => .notNull column
  | compare column comparison placeholder folded =>
    .compare column comparison placeholder folded
  | join c left right => .join c left.reading right.reading

theorem sql_join (c : Connective) (left right : Predicate) :
    (join c left right).sql = "(" ++ (left.sql ++ (c.between ++ right.sql)) ++ ")" := by
  simp only [sql, Connective.between, String.append_assoc]

theorem test_compare {column placeholder : String} (comparison : Comparison) (folded : Bool)
    (named : Text.isName column = true) (placed : Text.isName placeholder = true) :
    TestText (compare column comparison placeholder folded).sql
      (.compare column comparison placeholder folded) := by
  cases folded with
  | false =>
    have shape : (compare column comparison placeholder false).sql =
        column ++ " " ++ comparison.sql ++ " :" ++ placeholder := by
      apply String.toList_inj.mp
      simp [sql]
    rw [shape]
    exact .compare comparison named placed
  | true =>
    have shape : (compare column comparison placeholder true).sql =
        "LOWER(" ++ column ++ ") " ++ comparison.sql ++ " LOWER(:" ++ placeholder ++ ")" := by
      apply String.toList_inj.mp
      simp [sql, lower]
    rw [shape]
    exact .folded comparison named placed

/-- The text of a predicate reads as the predicate. -/
theorem sql_reads (p : Predicate) (named : p.reading.Named) : Reads .atom p.sql p.reading := by
  induction p with
  | notNull column => exact .test (.notNull named)
  | compare column comparison placeholder folded =>
    exact .test (test_compare comparison folded named.1 named.2)
  | join c left right ihl ihr =>
    have hl := Reads.conjunct (ihl named.1)
    have hr := Reads.conjunct (ihr named.2)
    rw [sql_join, ← @String.append_assoc left.sql]
    cases c with
    | and => exact .group (.disjunct (.and hl hr))
    | or => exact .group (.or (.disjunct hl) (.disjunct hr))

/-- A test at the front of a text keeps a group from being read there, and a group a test. -/
theorem test_not_group {a : String} {t : Reading} (h : TestText a t) (r s : List Char) :
    a.toList ++ r ≠ '(' :: s := by
  obtain ⟨word, tail, named, same⟩ := h.starts r
  rw [same]
  exact name_ne named (by decide)

theorem group_toList (text : String) (rest : List Char) :
    ("(" ++ text ++ ")").toList ++ rest = '(' :: (text.toList ++ ')' :: rest) := by
  simp

theorem connective_unique {c d : Connective} {r s : List Char}
    (h : c.between.toList ++ r = d.between.toList ++ s) : c = d ∧ r = s := by
  cases c <;> cases d <;> simp [Connective.between, Connective.upper] at h ⊢ <;> exact h

theorem blank_ne_closing {c : Connective} {r s : List Char} :
    c.between.toList ++ r ≠ ')' :: s := by
  rw [between_toList, List.cons_append]
  intro same
  exact absurd (List.cons.inj same).1 (by decide)

/-- Whatever atom reads from the front of a text that begins with a predicate's is that predicate. -/
theorem atom_unique (p : Predicate) (named : p.reading.Named) {text : String} {tree : Reading}
    {r s : List Char} (h : Reads .atom text tree) (hr : Ends r) (hs : Ends s)
    (same : p.sql.toList ++ r = text.toList ++ s) : tree = p.reading ∧ r = s := by
  have closed (rest : List Char) : Ends (')' :: rest) := ends_cons (by decide) rest
  have spaced (c : Connective) (rest : List Char) : Ends (c.between.toList ++ rest) := by
    rw [between_toList]
    exact ends_cons (by decide) _
  induction p generalizing text tree r s with
  | notNull column =>
    cases h with
    | test h => exact (h.unique (.notNull named) hs hr same.symm).imp id Eq.symm
    | group inner =>
      rw [group_toList] at same
      exact absurd same (test_not_group (.notNull named) _ _)
  | compare column comparison placeholder folded =>
    have own := test_compare comparison folded named.1 named.2
    cases h with
    | test h => exact (h.unique own hs hr same.symm).imp id Eq.symm
    | group inner =>
      rw [group_toList] at same
      exact absurd same (test_not_group own _ _)
  | join c left right ihl ihr =>
    rw [sql_join, group_toList, String.toList_append, String.toList_append] at same
    simp only [List.append_assoc] at same
    cases h with
    | test h => exact absurd same.symm (test_not_group h _ _)
    | group inner =>
      rw [group_toList] at same
      have inside := (List.cons.inj same).2
      cases inner.pieces with
      | one first =>
        obtain ⟨-, rest⟩ := ihl named.1 first (spaced _ _) (closed _) inside
        exact absurd rest blank_ne_closing
      | two d first second =>
        simp only [String.toList_append, List.append_assoc] at inside
        obtain ⟨rfl, rest⟩ := ihl named.1 first (spaced _ _) (spaced _ _) inside
        obtain ⟨rfl, tail⟩ := connective_unique rest
        obtain ⟨rfl, last⟩ := ihr named.2 second (closed _) (closed _) tail
        exact ⟨rfl, (List.cons.inj last).2⟩
      | more d e first second =>
        simp only [String.toList_append, List.append_assoc] at inside
        obtain ⟨-, rest⟩ := ihl named.1 first (spaced _ _) (spaced _ _) inside
        obtain ⟨-, tail⟩ := connective_unique rest
        obtain ⟨-, last⟩ := ihr named.2 second (closed _) (spaced _ _) tail
        exact absurd last.symm blank_ne_closing

/-- Whatever reads from the front of a text that begins with a predicate's is that predicate, unless a
connective comes next. -/
theorem front_unique (p : Predicate) (named : p.reading.Named) {extent : Extent} {text : String}
    {tree : Reading} {r s : List Char} (h : Reads extent text tree) (hr : Ends r) (hs : Ends s)
    (stop : Unjoined r) (same : p.sql.toList ++ r = text.toList ++ s) : tree = p.reading ∧ r = s := by
  have spaced (c : Connective) (rest : List Char) : Ends (c.between.toList ++ rest) := by
    rw [between_toList]
    exact ends_cons (by decide) _
  cases h.pieces with
  | one first => exact atom_unique p named first hr hs same
  | two c first second =>
    simp only [String.toList_append, List.append_assoc] at same
    exact absurd (atom_unique p named first hr (spaced _ _) same).2 (stop _ _)
  | more c d first second =>
    simp only [String.toList_append, List.append_assoc] at same
    exact absurd (atom_unique p named first hr (spaced _ _) same).2 (stop _ _)

/-- The text of a predicate reads as nothing else. -/
theorem reading_unique (p : Predicate) (named : p.reading.Named) {extent : Extent} {tree : Reading}
    (h : Reads extent p.sql tree) : tree = p.reading :=
  (front_unique p named h ends_nil ends_nil unjoined_nil rfl).1

end Predicate

end FilterSql
