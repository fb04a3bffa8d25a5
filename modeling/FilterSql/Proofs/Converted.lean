import FilterSql.Query

/-! What a successful conversion has done. -/

namespace FilterSql

/-- The sort key without the blanks around it, when anything is left. -/
def sortKey? (key : Option String) : Option String :=
  let key := Text.trim (key.getD "")
  if key.isEmpty then none else some key

theorem Order.ofKey_ok_iff {r : Resolver} {key : Option String} {direction : Direction}
    {order : Option Order} :
    Order.ofKey r key direction = .ok order ↔
      sortKey? key = none ∧ order = none ∨
      ∃ path column, sortKey? key = some path ∧ Text.isName path = true ∧
        r.resolve path = .ok column ∧ order = some ⟨column.name, direction⟩ := by
  simp only [Order.ofKey, sortKey?]
  generalize Text.trim (key.getD "") = path
  by_cases absent : path.isEmpty = true
  · rw [if_pos absent, if_pos absent]
    constructor
    · rintro ⟨⟩
      exact .inl ⟨rfl, rfl⟩
    · rintro (⟨-, rfl⟩ | ⟨_, _, found, -⟩)
      · rfl
      · cases found
  · rw [if_neg absent, if_neg absent]
    by_cases named : Text.isName path = true
    · rw [if_neg (by simp [named])]
      constructor
      · intro h
        cases resolved : r.resolve path with
        | error e =>
          rw [resolved] at h
          cases h
        | ok column =>
          rw [resolved] at h
          cases h
          exact .inr ⟨path, column, rfl, named, resolved, rfl⟩
      · rintro (⟨missing, -⟩ | ⟨_, column, found, -, resolved, rfl⟩)
        · cases missing
        · cases found
          rw [resolved]
          rfl
    · rw [if_pos (by simp [named])]
      constructor
      · rintro ⟨⟩
      · rintro (⟨missing, -⟩ | ⟨_, _, found, named', -⟩)
        · cases missing
        · cases found
          exact absurd named' named

namespace Converter

variable {c : Converter} {filter key : Option String} {direction : Direction}

theorem predicate_blank (blank : Text.allBlank (filter.getD "") = true) :
    c.predicate filter = .ok (none, .empty) := by
  simp only [predicate, blank, if_true]

section Solid

variable (solid : Text.allBlank (filter.getD "") = false)
include solid

theorem predicate_of_error {e : FilterError}
    (h : Filter.ofText c.options.precedence (filter.getD "") = .error e) :
    c.predicate filter = .error e := by
  simp [predicate, solid, h, bind, Except.bind]

theorem predicate_of_render_error {f : Filter} {e : FilterError} {b : Bindings}
    (h : Filter.ofText c.options.precedence (filter.getD "") = .ok f)
    (rendered : c.renderer.render f .empty = (.error e, b)) : c.predicate filter = .error e := by
  simp [predicate, solid, h, bind, Except.bind, rendered]

theorem predicate_of_render_ok {f : Filter} {p : Predicate} {b : Bindings}
    (h : Filter.ofText c.options.precedence (filter.getD "") = .ok f)
    (rendered : c.renderer.render f .empty = (.ok p, b)) :
    c.predicate filter = .ok (some p, b) := by
  simp [predicate, solid, h, bind, Except.bind, rendered]

end Solid

theorem predicate_ok_iff {found : Option Predicate × Bindings} :
    c.predicate filter = .ok found ↔
      Text.allBlank (filter.getD "") = true ∧ found = (none, .empty) ∨
      ∃ f p b, Text.allBlank (filter.getD "") = false ∧
        Filter.ofText c.options.precedence (filter.getD "") = .ok f ∧
        c.renderer.render f .empty = (.ok p, b) ∧ found = (some p, b) := by
  cases blank : Text.allBlank (filter.getD "") with
  | true => simp [predicate_blank blank, eq_comm]
  | false =>
    cases read : Filter.ofText c.options.precedence (filter.getD "") with
    | error e => simp [predicate_of_error blank read]
    | ok f =>
      cases rendered : c.renderer.render f .empty with
      | mk outcome b =>
        cases outcome with
        | error e => simp [predicate_of_render_error blank read rendered, rendered]
        | ok p =>
          rw [predicate_of_render_ok blank read rendered]
          constructor
          · rintro ⟨⟩
            exact .inr ⟨f, p, b, rfl, rfl, rendered, rfl⟩
          · rintro (⟨⟨⟩, -⟩ | ⟨_, _, _, -, ⟨⟩, rendered', rfl⟩)
            rw [rendered] at rendered'
            cases rendered'
            rfl

theorem convert_of_error {e : FilterError} (h : c.predicate filter = .error e) :
    c.convert filter key direction = .error e := by
  simp only [convert, h, bind, Except.bind]

theorem convert_of_ok {found : Option Predicate × Bindings} (h : c.predicate filter = .ok found) :
    c.convert filter key direction =
      (Order.ofKey c.resolver key direction).map fun order => ⟨found.1, order, found.2⟩ := by
  simp only [convert, h, bind, Except.bind]
  cases Order.ofKey c.resolver key direction <;> rfl

theorem convert_ok_iff {q : Query} :
    c.convert filter key direction = .ok q ↔
      c.predicate filter = .ok (q.predicate, q.bindings) ∧
        Order.ofKey c.resolver key direction = .ok q.order := by
  obtain ⟨predicate, order, bindings⟩ := q
  cases found : c.predicate filter with
  | error e => simp [convert_of_error found]
  | ok found' =>
    obtain ⟨p, b⟩ := found'
    rw [convert_of_ok found]
    cases Order.ofKey c.resolver key direction with
    | error e => simp [Except.map]
    | ok order' =>
      simp only [Except.map, Except.ok.injEq, Query.mk.injEq, Prod.mk.injEq]
      constructor
      · rintro ⟨rfl, rfl, rfl⟩
        exact ⟨⟨rfl, rfl⟩, rfl⟩
      · rintro ⟨⟨rfl, rfl⟩, rfl⟩
        exact ⟨rfl, rfl, rfl⟩

end Converter

end FilterSql
