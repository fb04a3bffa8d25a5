import FilterSql.Proofs.BoundLiterals
import FilterSql.Proofs.Regrouping

/-!
Rendering test by test. The tests of a filter decide from left to right what its rendering comes to: each
of them binds what it binds by itself, and the first one that is refused ends the rendering.
-/

namespace FilterSql

def Test.filter : Test → Filter
  | present path => .present path
  | compare path op value => .compare path op value

/-- The tests of a filter from left to right. -/
def Filter.tests : Filter → List Test
  | present path => [.present path]
  | compare path op value => [.compare path op value]
  | join _ left right => left.tests ++ right.tests

/-! ## One test -/

/-- What a test binds where it is not refused. -/
inductive Test.Binds (r : Resolver) : Test → List Parameter → Prop
  | present (path : String) : Test.Binds r (.present path) []
  | comparePresent (path : String) (value : Literal) :
      Test.Binds r (.compare path .present value) []
  | compare {path : String} {op : Operator} {value : Literal} {v : Parameter}
      (valued : op ≠ .present) (given : r.Gives (path, op, value) v) :
      Test.Binds r (.compare path op value) [v]

/-- Why a test is refused. A search for a part of a text is refused before its literal is looked at. -/
inductive Test.Refused (r : Resolver) : Test → FilterError → Prop
  | present {path : String} {e : FilterError} (unresolved : r.resolve path = .error e) :
      Test.Refused r (.present path) e
  | compare {path : String} {op : Operator} {value : Literal} {e : FilterError}
      (unresolved : r.resolve path = .error e) : Test.Refused r (.compare path op value) e
  | part {path : String} {op : Operator} {value : Literal} {column : Column}
      (resolved : r.resolve path = .ok column) (part : op ∈ [.contains, .startsWith, .endsWith])
      (unsuited : column.kind ≠ .text ∨ value.isTextual = false) :
      Test.Refused r (.compare path op value) (.unsupported op column)
  | count {path : String} {op : Operator} {value : Literal} {column : Column}
      (resolved : r.resolve path = .ok column)
      (whole : op ∉ [.present, .contains, .startsWith, .endsWith]) (kind : column.kind = .integer)
      (unsuited : ∀ n, value ≠ .number n) :
      Test.Refused r (.compare path op value) (.mismatch column value)
  | instant {path : String} {op : Operator} {value : Literal} {column : Column}
      (resolved : r.resolve path = .ok column)
      (whole : op ∉ [.present, .contains, .startsWith, .endsWith])
      (kind : column.kind = .timestamp) (unsuited : ∀ raw instant, value ≠ .timestamp raw instant) :
      Test.Refused r (.compare path op value) (.mismatch column value)

def Condition.values : Condition → List Parameter
  | notNull _ => []
  | compare _ _ value _ => [value]

namespace Renderer

variable {r : Renderer} {t : Test} {e : FilterError}

theorem fit?_eq_none_iff {kind : ColumnKind} {op : Operator} {value : Literal} :
    fit? kind op value = none ↔
      kind = .integer ∧ (∀ n, value ≠ .number n) ∨
      kind = .timestamp ∧ ∀ raw instant, value ≠ .timestamp raw instant := by
  cases kind <;> cases value <;> simp [fit?]

theorem unsuited_iff {kind : ColumnKind} {value : Literal} :
    (kind.isTyped || !value.isTextual) = true ↔ kind ≠ .text ∨ value.isTextual = false := by
  cases kind <;> simp [ColumnKind.isTyped]

theorem compare_part_error {column : Column} {op : Operator} {value : Literal}
    (part : op ∈ [.contains, .startsWith, .endsWith])
    (unsuited : column.kind ≠ .text ∨ value.isTextual = false) :
    r.compare column op value = .error (.unsupported op column) := by
  have operator : op.comparison? = some .like := by
    simp only [List.mem_cons, List.not_mem_nil, or_false] at part
    rcases part with rfl | rfl | rfl <;> rfl
  have guard : (op.matchesPart && (column.kind.isTyped || !value.isTextual)) = true :=
    Bool.and_eq_true_iff.mpr ⟨Operator.matchesPart_iff.mpr part, unsuited_iff.mpr unsuited⟩
  simp only [Renderer.compare, operator, if_pos guard]

theorem compare_misfit_error {column : Column} {op : Operator} {value : Literal}
    (whole : op ∉ [.present, .contains, .startsWith, .endsWith])
    (misfit : fit? column.kind op value = none) :
    r.compare column op value = .error (.mismatch column value) := by
  cases op with
  | present | contains | startsWith | endsWith => simp at whole
  | _ => simp [Renderer.compare, Operator.comparison?, Operator.matchesPart, misfit]

/-- The two ways in which a comparison with a column fails. -/
theorem compare_error {column : Column} {op : Operator} {value : Literal}
    (h : r.compare column op value = .error e) :
    op ∈ [.contains, .startsWith, .endsWith] ∧
        (column.kind ≠ .text ∨ value.isTextual = false) ∧ e = .unsupported op column ∨
      op ∉ [.present, .contains, .startsWith, .endsWith] ∧ fit? column.kind op value = none ∧
        e = .mismatch column value := by
  unfold Renderer.compare at h
  split at h
  · cases h
  · rename_i k operator
    split at h
    · rename_i guard
      obtain ⟨part, unsuited⟩ := Bool.and_eq_true_iff.mp guard
      cases h
      exact .inl ⟨Operator.matchesPart_iff.mp part, unsuited_iff.mp unsuited, rfl⟩
    · rename_i guard
      split at h
      · cases h
      · rename_i misfit
        cases h
        refine .inr ⟨?_, misfit, rfl⟩
        intro listed
        have valued : op ≠ .present := by
          rintro rfl
          cases operator
        have part := Operator.matchesPart_iff.mpr ((List.mem_cons.mp listed).resolve_left valued)
        -- A part of a text is looked for in text columns only, and those take every literal.
        have suited : ¬ (column.kind ≠ .text ∨ value.isTextual = false) := by
          intro unsuited
          exact guard (Bool.and_eq_true_iff.mpr ⟨part, unsuited_iff.mpr unsuited⟩)
        obtain ⟨kind, -⟩ | ⟨kind, -⟩ := fit?_eq_none_iff.mp misfit <;> simp [kind] at suited

theorem condition_error_iff : r.condition t = .error e ↔ t.Refused r.resolver e := by
  cases t with
  | present path =>
    constructor
    · intro refused
      exact .present (map_error_iff.mp refused)
    · rintro ⟨unresolved⟩
      exact map_error_iff.mpr unresolved
  | compare path op value =>
    simp only [condition, comparison]
    constructor
    · intro refused
      cases resolved : r.resolver.resolve path with
      | error cause =>
        rw [resolved] at refused
        cases refused
        exact .compare resolved
      | ok column =>
        rw [resolved] at refused
        obtain ⟨part, unsuited, rfl⟩ | ⟨whole, misfit, rfl⟩ := compare_error refused
        · exact .part resolved part unsuited
        · obtain ⟨kind, unsuited⟩ | ⟨kind, unsuited⟩ := fit?_eq_none_iff.mp misfit
          · exact .count resolved whole kind unsuited
          · exact .instant resolved whole kind unsuited
    · intro refused
      cases refused with
      | compare unresolved =>
        rw [unresolved]
        rfl
      | part resolved part unsuited =>
        rw [resolved]
        exact compare_part_error part unsuited
      | count resolved whole kind unsuited =>
        rw [resolved]
        exact compare_misfit_error whole (fit?_eq_none_iff.mpr (.inl ⟨kind, unsuited⟩))
      | instant resolved whole kind unsuited =>
        rw [resolved]
        exact compare_misfit_error whole (fit?_eq_none_iff.mpr (.inr ⟨kind, unsuited⟩))

theorem binds_values {condition : Condition} (found : r.condition t = .ok condition) :
    t.Binds r.resolver condition.values := by
  cases t with
  | present path =>
    obtain ⟨column, -, rfl⟩ := present_ok found
    exact .present path
  | compare path op value =>
    obtain ⟨column, resolved, ⟨rfl, rfl⟩ | ⟨k, v, operator, fits, rfl⟩⟩ := comparison_ok found
    · exact .comparePresent path value
    · refine .compare ?_ ⟨column, resolved, suits_of_fit fits⟩
      rintro rfl
      cases operator

/-! ## A test by itself and on top of others -/

/-- What a test comes to by itself, with nothing bound before it. -/
def alone (r : Renderer) (t : Test) : Except FilterError Predicate × Bindings :=
  r.render t.filter .empty

def Passes (r : Renderer) (t : Test) : Prop :=
  ∃ p, (r.alone t).1 = .ok p

/-- The values that a test binds by itself. -/
def bound (r : Renderer) (t : Test) : List Parameter :=
  (r.alone t).2.values

theorem place_bindings (b : Bindings) (condition : Condition) :
    (place b condition).2 = b.pushAll condition.values := by
  cases condition <;> rfl

theorem render_test (r : Renderer) (t : Test) (b : Bindings) :
    r.render t.filter b = renderCondition (r.condition t) b := by
  cases t <;> rfl

theorem render_test_ok {found : Condition} (passed : r.condition t = .ok found) (b : Bindings) :
    r.render t.filter b = (.ok (place b found).1, b.pushAll found.values) := by
  rw [render_test, passed, ← place_bindings]
  rfl

theorem render_test_error (refused : r.condition t = .error e) (b : Bindings) :
    r.render t.filter b = (.error e, b) := by
  rw [render_test, refused]
  rfl

theorem passes_iff : r.Passes t ↔ ∃ found, r.condition t = .ok found := by
  unfold Passes alone
  cases outcome : r.condition t with
  | error e => simp [render_test_error outcome]
  | ok found => simp [render_test_ok outcome]

theorem alone_error_iff : (r.alone t).1 = .error e ↔ r.condition t = .error e := by
  unfold alone
  cases outcome : r.condition t with
  | error cause => simp [render_test_error outcome]
  | ok found => simp [render_test_ok outcome]

theorem bound_of_ok {found : Condition} (passed : r.condition t = .ok found) :
    r.bound t = found.values := by
  simp only [bound, alone, render_test_ok passed]
  exact Bindings.values_ofValues found.values

theorem bound_of_error (refused : r.condition t = .error e) : r.bound t = [] := by
  simp only [bound, alone, render_test_error refused]
  rfl

/-- A test that passes by itself passes on top of other values, and binds after them what it binds by
itself. -/
theorem render_of_passes (passes : r.Passes t) (b : Bindings) :
    ∃ p, r.render t.filter b = (.ok p, b.pushAll (r.bound t)) := by
  obtain ⟨found, passed⟩ := passes_iff.mp passes
  rw [bound_of_ok passed]
  exact ⟨_, render_test_ok passed b⟩

theorem render_of_refused (refused : (r.alone t).1 = .error e) (b : Bindings) :
    r.render t.filter b = (.error e, b) :=
  render_test_error (alone_error_iff.mp refused) b

/-! ## All the tests of a filter -/

theorem render_all_pass {f : Filter} (passes : ∀ t ∈ f.tests, r.Passes t) (b : Bindings) :
    ∃ p, r.render f b = (.ok p, b.pushAll (f.tests.flatMap r.bound)) := by
  have single (t : Test) (passes : ∀ u ∈ [t], r.Passes u) (b : Bindings) :
      ∃ p, r.render t.filter b = (.ok p, b.pushAll ([t].flatMap r.bound)) := by
    rw [List.flatMap_singleton]
    exact render_of_passes (passes t (List.mem_singleton_self t)) b
  induction f generalizing b with
  | present path => exact single (.present path) passes b
  | compare path op value => exact single (.compare path op value) passes b
  | join c left right ihl ihr =>
    obtain ⟨passesLeft, passesRight⟩ := List.forall_mem_append.mp passes
    obtain ⟨p, renderedLeft⟩ := ihl passesLeft b
    obtain ⟨q, renderedRight⟩ := ihr passesRight (b.pushAll (left.tests.flatMap r.bound))
    refine ⟨.join c p q, ?_⟩
    rw [render_join_ok c renderedLeft renderedRight, Filter.tests, List.flatMap_append,
      Bindings.pushAll_append]

theorem render_first_refused {f : Filter} {before after : List Test}
    (split : f.tests = before ++ t :: after) (passes : ∀ u ∈ before, r.Passes u)
    (refused : (r.alone t).1 = .error e) (b : Bindings) :
    r.render f b = (.error e, b.pushAll (before.flatMap r.bound)) := by
  have single (u : Test) {before after : List Test} (only : [u] = before ++ t :: after)
      (b : Bindings) : r.render u.filter b = (.error e, b.pushAll (before.flatMap r.bound)) := by
    cases before with
    | nil =>
      cases only
      rw [render_of_refused refused]
      rfl
    | cons v before => simp at only
  induction f generalizing before after b with
  | present path => exact single (.present path) split b
  | compare path op value => exact single (.compare path op value) split b
  | join c left right ihl ihr =>
    have onRight (more : List Test) (passes : ∀ u ∈ left.tests ++ more, r.Passes u)
        (rest : right.tests = more ++ t :: after) : r.render (.join c left right) b =
          (.error e, b.pushAll ((left.tests ++ more).flatMap r.bound)) := by
      obtain ⟨passesLeft, passesMore⟩ := List.forall_mem_append.mp passes
      obtain ⟨p, renderedLeft⟩ := render_all_pass passesLeft b
      have renderedRight := ihr rest passesMore (b.pushAll (left.tests.flatMap r.bound))
      rw [render_join_right_error c renderedLeft renderedRight, List.flatMap_append,
        Bindings.pushAll_append]
    rcases List.append_eq_append_iff.mp split with ⟨more, rfl, rest⟩ | ⟨more, whole, rest⟩
    · exact onRight more passes rest
    · cases more with
      | nil =>
        rw [List.append_nil] at whole
        subst whole
        simpa using onRight [] (by simpa using passes) rest.symm
      | cons u more =>
        obtain ⟨rfl, -⟩ := List.cons.inj rest
        exact render_join_left_error c (ihl whole passes b)

theorem exists_first_refused {tests : List Test} (h : ∃ t ∈ tests, ¬ r.Passes t) :
    ∃ before t after e, tests = before ++ t :: after ∧ (∀ u ∈ before, r.Passes u) ∧
      (r.alone t).1 = .error e := by
  induction tests with
  | nil =>
    obtain ⟨t, member, -⟩ := h
    cases member
  | cons t rest ih =>
    cases outcome : (r.alone t).1 with
    | error e => exact ⟨[], t, rest, e, rfl, by simp, outcome⟩
    | ok p =>
      obtain ⟨u, member, fails⟩ := h
      have later : u ∈ rest := by
        rcases List.mem_cons.mp member with rfl | later
        · exact absurd ⟨p, outcome⟩ fails
        · exact later
      obtain ⟨before, v, after, e, rfl, passes, refused⟩ := ih ⟨u, later, fails⟩
      exact ⟨t :: before, v, after, e, rfl, List.forall_mem_cons.mpr ⟨⟨p, outcome⟩, passes⟩, refused⟩

/-- If every test of a filter passes by itself, the filter renders, and binds their values in order after
what is bound already. Otherwise it ends with the error of the first test that is refused, and only the
values of the tests to its left are bound. -/
theorem tests_decide_rendering (r : Renderer) (f : Filter) (b : Bindings) :
    ((∀ t ∈ f.tests, r.Passes t) →
      ∃ p, r.render f b = (.ok p, b.pushAll (f.tests.flatMap r.bound))) ∧
    ((∃ t ∈ f.tests, ¬ r.Passes t) →
      ∃ before t after e, f.tests = before ++ t :: after ∧ (∀ u ∈ before, r.Passes u) ∧
        (r.alone t).1 = .error e ∧
        r.render f b = (.error e, b.pushAll (before.flatMap r.bound))) ∧
    ∀ t ∈ f.tests, (∀ e, (r.alone t).1 = .error e ↔ t.Refused r.resolver e) ∧
      (r.Passes t → t.Binds r.resolver (r.bound t)) ∧ (¬ r.Passes t → r.bound t = []) := by
  refine ⟨fun passes => render_all_pass passes b, ?_, ?_⟩
  · intro fails
    obtain ⟨before, t, after, e, split, passes, refused⟩ := exists_first_refused fails
    exact ⟨before, t, after, e, split, passes, refused,
      render_first_refused split passes refused b⟩
  · intro t _
    refine ⟨fun e => alone_error_iff.trans condition_error_iff, ?_, ?_⟩
    · intro passes
      obtain ⟨found, passed⟩ := passes_iff.mp passes
      rw [bound_of_ok passed]
      exact binds_values passed
    · intro fails
      cases outcome : r.condition t with
      | error e => exact bound_of_error outcome
      | ok found => exact absurd (passes_iff.mpr ⟨found, outcome⟩) fails

theorem tests_decide_rendering_mismatched :
    let r : Renderer := ⟨⟨id, none⟩, false⟩
    let f : Filter := .join .or (.compare "title" .startsWith (.text "x"))
      (.join .and (.compare "meta.version" .equal (.text "one"))
        (.compare "active" .contains (.boolean true)))
    let b := Bindings.ofValues [.boolean true]
    (∃ t ∈ f.tests, ¬ r.Passes t) ∧
      r.render f b = (.error (.mismatch ⟨"version", .integer⟩ (.text "one")),
        ⟨[("__value_0", .boolean true), ("__value_1", .text "x%")]⟩) ∧
      ∃ before t after e, f.tests = before ++ t :: after ∧ (∀ u ∈ before, r.Passes u) ∧
        t.Refused r.resolver e ∧ r.render f b = (.error e, b.pushAll (before.flatMap r.bound)) := by
  intro r f b
  have fails : ∃ t ∈ f.tests, ¬ r.Passes t := by
    refine ⟨.compare "meta.version" .equal (.text "one"), by decide, ?_⟩
    have refused : (r.alone (.compare "meta.version" .equal (.text "one"))).1 =
        .error (.mismatch ⟨"version", .integer⟩ (.text "one")) := by decide
    rintro ⟨p, passed⟩
    cases refused.symm.trans passed
  obtain ⟨-, ends, judged⟩ := tests_decide_rendering r f b
  obtain ⟨before, t, after, e, split, passes, refused, rendered⟩ := ends fails
  have member : t ∈ f.tests := by simp [split]
  exact ⟨fails, by decide, before, t, after, e, split, passes, ((judged t member).1 e).mp refused,
    rendered⟩

end Renderer

end FilterSql
