import FilterSql.Proofs.Converted
import FilterSql.Proofs.ParserSteps
import FilterSql.Proofs.PredicateText
import FilterSql.Proofs.Rendered

/-!
Filters along their line: what stands in them from left to right once nothing groups it. Both
precedences leave the line of a phrase as it is, and rendering goes along it, so a precedence changes
nothing of a query but its parentheses.
-/

namespace FilterSql

/-! ## Lines -/

inductive Test
  | present (path : String)
  | compare (path : String) (op : Operator) (value : Literal)
  deriving DecidableEq, Repr

/-- A test, or the connective between two tests. -/
inductive Segment (α : Type)
  | test (t : α)
  | connective (c : Connective)
  deriving DecidableEq, Repr

def Filter.line : Filter → List (Segment Test)
  | present path => [.test (.present path)]
  | compare path op value => [.test (.compare path op value)]
  | join c left right => left.line ++ .connective c :: right.line

namespace Phrase

def line : Phrase → List (Segment Test)
  | present path => [.test (.present path)]
  | compare path op value => [.test (.compare path op value)]
  | group inner => inner.line
  | chain before c last => before.line ++ .connective c :: last.line

theorem line_groupLeftToRight (phrase : Phrase) : phrase.groupLeftToRight.line = phrase.line := by
  induction phrase with
  | present path => rfl
  | compare path op value => rfl
  | group inner ih => exact ih
  | chain before c last ihb ihl => simp only [groupLeftToRight, Filter.line, line, ihb, ihl]

/-- What is added to the last conjunction of a chain comes last in its line. -/
theorem Alternatives.line_and (a : Alternatives) (f : Filter) :
    (Alternatives.mk a.before (.join .and a.last f)).filter.line =
      a.filter.line ++ .connective .and :: f.line := by
  obtain ⟨before, last⟩ := a
  cases before with
  | none => rfl
  | some before => simp [Alternatives.filter, Filter.line]

theorem line_alternatives (phrase : Phrase) : phrase.alternatives.filter.line = phrase.line := by
  induction phrase with
  | present path => rfl
  | compare path op value => rfl
  | group inner ih => exact ih
  | chain before c last ihb ihl =>
    cases c with
    | and => rw [alternatives, Alternatives.line_and, ihb, ihl, line]
    | or => rw [alternatives, Alternatives.filter, Filter.line, ihb, ihl, line]

theorem line_toFilter (phrase : Phrase) (p : Precedence) :
    (phrase.toFilter p).line = phrase.line := by
  cases p with
  | leftToRight => exact phrase.line_groupLeftToRight
  | andBindsTighter => exact phrase.line_alternatives

end Phrase

/-! ## Rendering along the line -/

/-- Something rendered on top of what is bound already. -/
abbrev Rendering (α : Type) : Type :=
  ExceptT FilterError (StateM Bindings) α

namespace Rendering

variable {α β : Type} {x : Rendering α} {f : α → Rendering β} {b b₁ : Bindings}

theorem bind_error {e : FilterError} (h : x b = (.error e, b₁)) :
    (x >>= f) b = (.error e, b₁) := by
  simp only [bind, ExceptT.bind, ExceptT.mk, StateT.bind, h]
  rfl

theorem bind_ok {a : α} (h : x b = (.ok a, b₁)) : (x >>= f) b = f a b₁ := by
  simp only [bind, ExceptT.bind, ExceptT.mk, StateT.bind, h]
  rfl

theorem map_run (g : α → β) (x : Rendering α) (b : Bindings) :
    (g <$> x) b = ((x b).1.map g, (x b).2) := by
  rw [← bind_pure_comp]
  cases h : x b with
  | mk outcome b₁ =>
    cases outcome with
    | error e => exact bind_error h
    | ok a => exact bind_ok h

end Rendering

def Predicate.line : Predicate → List (Segment Predicate)
  | notNull column => [.test (.notNull column)]
  | compare column comparison index folded => [.test (.compare column comparison index folded)]
  | join c left right => left.line ++ .connective c :: right.line

namespace Renderer

def condition (r : Renderer) : Test → Except FilterError Condition
  | .present path => r.present path
  | .compare path op value => r.comparison path op value

def renderTest (r : Renderer) (t : Test) : Rendering Predicate :=
  renderCondition (r.condition t)

def renderSegment (r : Renderer) : Segment Test → Rendering (Segment Predicate)
  | .test t => .test <$> r.renderTest t
  | .connective c => pure (.connective c)

def rendering (r : Renderer) (f : Filter) : Rendering Predicate :=
  r.render f

theorem rendering_join (r : Renderer) (c : Connective) (left right : Filter) :
    r.rendering (.join c left right) = (do
      let p ← r.rendering left
      let q ← r.rendering right
      pure (.join c p q)) := by
  funext b
  cases hl : r.rendering left b with
  | mk outcome b₁ =>
    cases outcome with
    | error e =>
      rw [Rendering.bind_error hl]
      exact render_join_left_error c hl
    | ok p =>
      rw [Rendering.bind_ok hl]
      cases hr : r.rendering right b₁ with
      | mk outcome b₂ =>
        cases outcome with
        | error e =>
          rw [Rendering.bind_error hr]
          exact render_join_right_error c hl hr
        | ok q =>
          rw [Rendering.bind_ok hr]
          exact render_join_ok c hl hr

/-- A test renders to a single test. -/
theorem line_place (b : Bindings) (condition : Condition) :
    (place b condition).1.line = [.test (place b condition).1] := by
  cases condition <;> rfl

theorem line_renderTest (r : Renderer) (t : Test) :
    Predicate.line <$> r.renderTest t = (fun p => [Segment.test p]) <$> r.renderTest t := by
  funext b
  rw [Rendering.map_run, Rendering.map_run]
  simp only [renderTest, renderCondition]
  cases r.condition t with
  | error e => rfl
  | ok condition => simp only [Except.map, line_place]

/-- The line of what a filter renders to is what its own line renders to, segment by segment. -/
theorem line_rendering (r : Renderer) (f : Filter) :
    Predicate.line <$> r.rendering f = f.line.mapM r.renderSegment := by
  have test (t : Test) :
      Predicate.line <$> r.renderTest t = [Segment.test t].mapM r.renderSegment := by
    rw [line_renderTest]
    simp [renderSegment]
  induction f with
  | present path => exact test (.present path)
  | compare path op value => exact test (.compare path op value)
  | join c left right ihl ihr =>
    simp only [rendering_join, Filter.line, List.mapM_append, List.mapM_cons, ← ihl, ← ihr]
    simp [renderSegment, Predicate.line]

/-- Filters with the same line render alike: they meet the same error, or come to the same tests under
the same connectives, and bind the same values. -/
theorem render_sameLine (r : Renderer) {f g : Filter} (same : f.line = g.line) (b : Bindings) :
    (∃ e b', r.render f b = (.error e, b') ∧ r.render g b = (.error e, b')) ∨
      ∃ p q b', r.render f b = (.ok p, b') ∧ r.render g b = (.ok q, b') ∧ p.line = q.line := by
  have lines : Predicate.line <$> r.rendering f = Predicate.line <$> r.rendering g := by
    rw [line_rendering, line_rendering, same]
  have run := congrFun lines b
  rw [Rendering.map_run, Rendering.map_run] at run
  cases hf : r.render f b with
  | mk outcome b₁ =>
    cases hg : r.render g b with
    | mk outcome' b₂ =>
      simp only [rendering, hf, hg] at run
      obtain ⟨outcomes, rfl⟩ := Prod.mk.inj run
      cases outcome with
      | error e =>
        cases outcome' with
        | error e' =>
          cases outcomes
          exact .inl ⟨e, b₁, rfl, rfl⟩
        | ok q => cases outcomes
      | ok p =>
        cases outcome' with
        | error e' => cases outcomes
        | ok q => exact .inr ⟨p, q, b₁, rfl, rfl, Except.ok.inj outcomes⟩

end Renderer

/-! ## Texts without their parentheses -/

def bare (cs : List Char) : List Char :=
  cs.filter fun c => c != '(' && c != ')'

theorem bare_append (cs ds : List Char) : bare (cs ++ ds) = bare cs ++ bare ds :=
  List.filter_append ..

def Segment.bareText : Segment Predicate → List Char
  | .test p => bare p.sql.toList
  | .connective c => bare c.between.toList

theorem Predicate.bare_sql (p : Predicate) : bare p.sql.toList = p.line.flatMap Segment.bareText := by
  induction p with
  | notNull column => simp [line, Segment.bareText]
  | compare column comparison index folded => simp [line, Segment.bareText]
  | join c left right ihl ihr =>
    have opened : bare "(".toList = [] := by decide
    have closed : bare ")".toList = [] := by decide
    simp only [sql_join, String.toList_append, bare_append, opened, closed, ihl, ihr, line,
      List.flatMap_append, List.flatMap_cons, Segment.bareText, List.nil_append, List.append_nil]

/-- Queries whose predicates have the same line differ in their parentheses only. -/
theorem Query.bare_sql {p p' : Option Predicate}
    (same : p.map Predicate.line = p'.map Predicate.line) (order : Option Order)
    (b b' : Bindings) :
    bare (Query.mk p order b).sql.toList = bare (Query.mk p' order b').sql.toList := by
  cases p with
  | none =>
    cases p' with
    | none => rfl
    | some q => cases same
  | some q =>
    cases p' with
    | none => cases same
    | some q' =>
      have lines : q.line = q'.line := Option.some.inj same
      have texts : bare q.sql.toList = bare q'.sql.toList := by
        rw [q.bare_sql, q'.bare_sql, lines]
      cases order with
      | none => exact texts
      | some o => simp only [Query.sql, String.toList_append, bare_append, texts]

namespace Converter

/-- The same converter under another precedence. -/
def under (c : Converter) (p : Precedence) : Converter :=
  ⟨c.rename, { c.options with precedence := p }⟩

theorem predicate_regrouped (c : Converter) (p p' : Precedence) (filter : Option String) :
    (∃ e, (c.under p).predicate filter = .error e ∧ (c.under p').predicate filter = .error e) ∨
    ∃ found found', (c.under p).predicate filter = .ok found ∧
      (c.under p').predicate filter = .ok found' ∧ found.2 = found'.2 ∧
      found.1.map Predicate.line = found'.1.map Predicate.line := by
  cases blank : Text.allBlank (filter.getD "") with
  | true => exact .inr ⟨_, _, predicate_blank blank, predicate_blank blank, rfl, rfl⟩
  | false =>
    cases read : Phrase.ofText (filter.getD "") with
    | error e =>
      have failed (p : Precedence) : Filter.ofText p (filter.getD "") = .error e :=
        Filter.ofText_error_iff_phrase.mpr read
      exact .inl ⟨e, predicate_of_error blank (failed p), predicate_of_error blank (failed p')⟩
    | ok phrase =>
      have grouped (p : Precedence) :
          Filter.ofText p (filter.getD "") = .ok (phrase.toFilter p) :=
        Filter.ofText_ok_iff_phrase.mpr ⟨phrase, read, rfl⟩
      have same : (phrase.toFilter p).line = (phrase.toFilter p').line := by
        rw [phrase.line_toFilter, phrase.line_toFilter]
      obtain ⟨e, b, left, right⟩ | ⟨q, q', b, left, right, lines⟩ :=
        c.renderer.render_sameLine same .empty
      · exact .inl ⟨e, predicate_of_render_error blank (grouped p) left,
          predicate_of_render_error blank (grouped p') right⟩
      · exact .inr ⟨_, _, predicate_of_render_ok blank (grouped p) left,
          predicate_of_render_ok blank (grouped p') right, rfl, congrArg some lines⟩

/-- A precedence changes nothing of a query but the parentheses in its text, and nothing of an error. -/
theorem precedence_only_groups (c : Converter) (filter key : Option String) (direction : Direction) :
    (∃ e, (c.under .leftToRight).convert filter key direction = .error e ∧
      (c.under .andBindsTighter).convert filter key direction = .error e) ∨
    ∃ q q', (c.under .leftToRight).convert filter key direction = .ok q ∧
      (c.under .andBindsTighter).convert filter key direction = .ok q' ∧
      q.bindings = q'.bindings ∧ bare q.sql.toList = bare q'.sql.toList := by
  obtain ⟨e, left, right⟩ | ⟨found, found', left, right, values, lines⟩ :=
    c.predicate_regrouped .leftToRight .andBindsTighter filter
  · exact .inl ⟨e, convert_of_error left, convert_of_error right⟩
  · have resolver (p : Precedence) : (c.under p).resolver = c.resolver := rfl
    rw [convert_of_ok left, convert_of_ok right, resolver, resolver]
    cases Order.ofKey c.resolver key direction with
    | error e => exact .inl ⟨e, rfl, rfl⟩
    | ok order =>
      refine .inr ⟨⟨found.1, order, found.2⟩, ⟨found'.1, order, found'.2⟩, rfl, rfl, values, ?_⟩
      exact Query.bare_sql lines order found.2 found'.2

end Converter

end FilterSql
