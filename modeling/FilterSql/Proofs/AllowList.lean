import FilterSql.Proofs.FilterTokens
import FilterSql.Proofs.QueryText
import FilterSql.Proofs.Results

/-!
Allow-lists. A list of allowed columns keeps a query from being made or leaves it as it is, and which
of the two happens is settled by the columns that the attributes of the filter and the sort key lead to.
-/

namespace FilterSql

/-! ## Resolving -/

namespace Resolver

/-- The same resolver with the given allow-list, or with none. -/
def allowing (r : Resolver) (allowed : Option (List String)) : Resolver :=
  ⟨r.rename, allowed⟩

/-- Whatever column the attribute leads to is one of those given. -/
def LeadsInto (r : Resolver) (columns : List String) (path : String) : Prop :=
  ∀ column, (r.allowing none).resolve path = .ok column → column.name ∈ columns

theorem resolve_ok_iff {r : Resolver} {path : String} {column : Column} :
    r.resolve path = .ok column ↔ Text.isName column.name = true ∧ r.allows column.name = true ∧
      column = ⟨r.columnName path, kind path (r.columnName path)⟩ := by
  constructor
  · exact resolve_ok
  · rintro ⟨named, allowed, rfl⟩
    simp only [resolve]
    rw [if_neg (by simp [named]), if_neg (by simp [allowed])]

variable {r : Resolver} {columns : List String} {path : String}

theorem allows_iff {name : String} :
    (r.allowing (some columns)).allows name = true ↔ name ∈ columns :=
  List.contains_iff_mem

/-- An attribute has a column under the allow-list exactly when it has the same one without a list,
and that column is allowed. -/
theorem resolve_allowing_iff {column : Column} :
    (r.allowing (some columns)).resolve path = .ok column ↔
      (r.allowing none).resolve path = .ok column ∧ r.LeadsInto columns path := by
  constructor
  · intro resolved
    obtain ⟨named, allowed, shape⟩ := resolve_ok_iff.mp resolved
    have free : (r.allowing none).resolve path = .ok column :=
      resolve_ok_iff.mpr ⟨named, rfl, shape⟩
    refine ⟨free, ?_⟩
    intro other free'
    rw [free] at free'
    cases free'
    exact allows_iff.mp allowed
  · rintro ⟨free, leads⟩
    obtain ⟨named, -, shape⟩ := resolve_ok_iff.mp free
    exact resolve_ok_iff.mpr ⟨named, allows_iff.mpr (leads column free), shape⟩

/-- The same holds for whatever is made of the column. -/
theorem bind_allowing_iff {α : Type} {next : Column → Except FilterError α} {a : α} :
    ((r.allowing (some columns)).resolve path).bind next = .ok a ↔
      ((r.allowing none).resolve path).bind next = .ok a ∧ r.LeadsInto columns path := by
  rw [bind_ok_iff, bind_ok_iff]
  constructor
  · rintro ⟨column, resolved, made⟩
    obtain ⟨free, leads⟩ := resolve_allowing_iff.mp resolved
    exact ⟨⟨column, free, made⟩, leads⟩
  · rintro ⟨⟨column, free, made⟩, leads⟩
    exact ⟨column, resolve_allowing_iff.mpr ⟨free, leads⟩, made⟩

end Resolver

/-! ## Rendering -/

namespace Renderer

def allowing (r : Renderer) (allowed : Option (List String)) : Renderer :=
  ⟨r.resolver.allowing allowed, r.caseInsensitive⟩

variable {r : Renderer} {columns : List String} {f : Filter} {path : String} {condition : Condition}

theorem present_allowing_iff :
    (r.allowing (some columns)).present path = .ok condition ↔
      (r.allowing none).present path = .ok condition ∧ r.resolver.LeadsInto columns path := by
  have shape (allowed : Option (List String)) : (r.allowing allowed).present path =
      ((r.resolver.allowing allowed).resolve path).bind fun column => .ok (.notNull column.name) := by
    simp only [Renderer.present, allowing]
    cases (r.resolver.allowing allowed).resolve path <;> rfl
  rw [shape, shape, Resolver.bind_allowing_iff]

theorem comparison_allowing_iff {op : Operator} {value : Literal} :
    (r.allowing (some columns)).comparison path op value = .ok condition ↔
      (r.allowing none).comparison path op value = .ok condition ∧
        r.resolver.LeadsInto columns path :=
  Resolver.bind_allowing_iff

theorem tests_allowing_iff :
    Tests (r.allowing (some columns)) f condition ↔
      Tests (r.allowing none) f condition ∧
        ∀ path ∈ f.paths, r.resolver.LeadsInto columns path := by
  constructor
  · intro tests
    cases tests with
    | present found =>
      obtain ⟨free, leads⟩ := present_allowing_iff.mp found
      exact ⟨.present free, List.forall_mem_singleton.mpr leads⟩
    | compare found =>
      obtain ⟨free, leads⟩ := comparison_allowing_iff.mp found
      exact ⟨.compare free, List.forall_mem_singleton.mpr leads⟩
  · rintro ⟨tests, leads⟩
    cases tests with
    | present free =>
      exact .present (present_allowing_iff.mpr ⟨free, List.forall_mem_singleton.mp leads⟩)
    | compare free =>
      exact .compare (comparison_allowing_iff.mpr ⟨free, List.forall_mem_singleton.mp leads⟩)

/-- A filter renders under the allow-list exactly when it renders to the same without one and all its
attributes lead to allowed columns. -/
theorem renders_allowing_iff {b b' : Bindings} {p : Predicate} :
    Renders (r.allowing (some columns)) f b p b' ↔
      Renders (r.allowing none) f b p b' ∧
        ∀ path ∈ f.paths, r.resolver.LeadsInto columns path := by
  constructor
  · intro renders
    induction renders with
    | test b tests =>
      obtain ⟨free, leads⟩ := tests_allowing_iff.mp tests
      exact ⟨.test b free, leads⟩
    | join c _ _ ihl ihr =>
      exact ⟨.join c ihl.1 ihr.1, List.forall_mem_append.mpr ⟨ihl.2, ihr.2⟩⟩
  · rintro ⟨renders, leads⟩
    induction renders with
    | test b tests => exact .test b (tests_allowing_iff.mpr ⟨tests, leads⟩)
    | join c _ _ ihl ihr =>
      obtain ⟨left, right⟩ := List.forall_mem_append.mp leads
      exact .join c (ihl left) (ihr right)

end Renderer

/-! ## The columns of a text -/

/-- The text reads, and however it is read, all its columns are among those given. -/
def MentionsOnly (reads : String → List String → Prop) (columns : List String) (text : String) :
    Prop :=
  (∃ names, reads text names) ∧ ∀ names, reads text names → ∀ name ∈ names, name ∈ columns

/-- A text that reads with one list of columns only mentions those of that list. -/
theorem mentionsOnly_of_iff {reads : String → List String → Prop} {columns own : List String}
    {text : String} (read : ∀ names, reads text names ↔ names = own)
    (inside : ∀ name ∈ own, name ∈ columns) : MentionsOnly reads columns text := by
  refine ⟨⟨own, (read own).mpr rfl⟩, ?_⟩
  intro names reads name member
  rw [(read names).mp reads] at member
  exact inside name member

namespace Renderer

theorem Tests.columns_allowed {r : Renderer} {f : Filter} {condition : Condition}
    (tests : Tests r f condition) (b : Bindings) :
    ∀ name ∈ (place b condition).1.reading.columns, r.resolver.allows name = true := by
  cases tests with
  | present found =>
    obtain ⟨column, resolved, rfl⟩ := present_ok found
    simpa [place, Predicate.reading, Reading.columns] using (resolve_ok resolved).2.1
  | compare found =>
    obtain ⟨column, resolved, ⟨-, rfl⟩ | ⟨k, v, -, -, rfl⟩⟩ := comparison_ok found
    · simpa [place, Predicate.reading, Reading.columns] using (resolve_ok resolved).2.1
    · simpa [place, Predicate.reading, Reading.columns] using (resolve_ok resolved).2.1

theorem Renders.columns_allowed {r : Renderer} {f : Filter} {b b' : Bindings} {p : Predicate}
    (h : Renders r f b p b') : ∀ name ∈ p.reading.columns, r.resolver.allows name = true := by
  induction h with
  | test b tests => exact tests.columns_allowed b
  | join c _ _ ihl ihr => exact List.forall_mem_append.mpr ⟨ihl, ihr⟩

end Renderer

/-! ## Converting -/

/-- The attributes named in a text. -/
def attributesOf (s : String) : List String :=
  (tokenValues s).filterMap Token.identifier?

theorem attributesOf_blank {s : String} (blank : Text.allBlank s = true) : attributesOf s = [] := by
  rw [attributesOf, tokenValues_of_blank blank, List.filterMap_nil]

theorem attributesOf_read {p : Precedence} {s : String} {f : Filter}
    (read : Filter.ofText p s = .ok f) : attributesOf s = f.paths :=
  (derives_of_read read).identifiers

theorem Order.ofKey_allowing_iff {r : Resolver} {columns : List String} {key : Option String}
    {direction : Direction} {order : Option Order} :
    Order.ofKey (r.allowing (some columns)) key direction = .ok order ↔
      Order.ofKey (r.allowing none) key direction = .ok order ∧
        ∀ path ∈ sortKey? key, r.LeadsInto columns path := by
  rw [Order.ofKey_ok_iff, Order.ofKey_ok_iff]
  constructor
  · rintro (⟨absent, rfl⟩ | ⟨path, column, present, named, resolved, rfl⟩)
    · exact ⟨.inl ⟨absent, rfl⟩, by simp [absent]⟩
    · obtain ⟨free, leads⟩ := Resolver.resolve_allowing_iff.mp resolved
      exact ⟨.inr ⟨path, column, present, named, free, rfl⟩, by simpa [present] using leads⟩
  · rintro ⟨⟨absent, rfl⟩ | ⟨path, column, present, named, free, rfl⟩, leads⟩
    · exact .inl ⟨absent, rfl⟩
    · have resolved := Resolver.resolve_allowing_iff.mpr ⟨free, leads path present⟩
      exact .inr ⟨path, column, present, named, resolved, rfl⟩

namespace Converter

/-- The same converter with the given allow-list, or with none. -/
def allowing (c : Converter) (allowed : Option (List String)) : Converter :=
  ⟨c.rename, { c.options with allowedColumns := allowed }⟩

variable {c : Converter} {columns : List String} {filter : Option String}

theorem predicate_allowing_iff {found : Option Predicate × Bindings} :
    (c.allowing (some columns)).predicate filter = .ok found ↔
      (c.allowing none).predicate filter = .ok found ∧
        ∀ path ∈ attributesOf (filter.getD ""), c.resolver.LeadsInto columns path := by
  have renderer (allowed : Option (List String)) :
      (c.allowing allowed).renderer = c.renderer.allowing allowed := rfl
  have precedence (allowed : Option (List String)) :
      (c.allowing allowed).options.precedence = c.options.precedence := rfl
  simp only [predicate_ok_iff, renderer, precedence, Renderer.render_ok_iff]
  constructor
  · rintro (⟨blank, rfl⟩ | ⟨f, p, b, solid, read, renders, rfl⟩)
    · exact ⟨.inl ⟨blank, rfl⟩, by simp [attributesOf_blank blank]⟩
    · obtain ⟨free, leads⟩ := Renderer.renders_allowing_iff.mp renders
      rw [attributesOf_read read]
      exact ⟨.inr ⟨f, p, b, solid, read, free, rfl⟩, leads⟩
  · rintro ⟨⟨blank, rfl⟩ | ⟨f, p, b, solid, read, free, rfl⟩, leads⟩
    · exact .inl ⟨blank, rfl⟩
    · rw [attributesOf_read read] at leads
      have renders := Renderer.renders_allowing_iff.mpr ⟨free, leads⟩
      exact .inr ⟨f, p, b, solid, read, renders, rfl⟩

/-- The columns of a query made under an allow-list are allowed. -/
theorem columns_allowed {key : Option String} {direction : Direction} {q : Query}
    (converted : (c.allowing (some columns)).convert filter key direction = .ok q) :
    (∀ p ∈ q.predicate, ∀ name ∈ p.reading.columns, name ∈ columns) ∧
      ∀ o ∈ q.order, o.column ∈ columns := by
  have allowed {name : String} :
      (c.allowing (some columns)).resolver.allows name = true → name ∈ columns :=
    (Resolver.allows_iff (r := c.resolver)).mp
  constructor
  · intro p present name member
    obtain ⟨f, renders⟩ := renders_of_convert converted present
    exact allowed (renders.columns_allowed name member)
  · intro o present
    obtain ⟨path, column, resolved, same⟩ := resolved_of_convert converted present
    rw [same]
    exact allowed (resolve_ok resolved).2.1

/-- Neither part of the text of a query made under an allow-list has a column outside of it, and so
nor has the whole. -/
theorem mentionsOnly {key : Option String} {direction : Direction} {q : Query}
    (converted : (c.allowing (some columns)).convert filter key direction = .ok q) :
    (∀ p ∈ q.predicate, MentionsOnly PredicateText columns p.sql) ∧
      (∀ o ∈ q.order, o.column ∈ columns ∧ MentionsOnly OrderText columns o.sql ∧
        MentionsOnly ClauseText columns o.clause) ∧
      MentionsOnly QueryText columns q.sql := by
  have named := named_of_convert converted
  obtain ⟨predicate, order⟩ := columns_allowed converted
  refine ⟨?_, ?_, ?_⟩
  · intro p present
    exact mentionsOnly_of_iff (p.text_iff (named.predicate p present)) (predicate p present)
  · intro o present
    have inside := List.forall_mem_singleton.mpr (order o present)
    exact ⟨order o present, mentionsOnly_of_iff (o.text_iff (named.order o present)) inside,
      mentionsOnly_of_iff (o.clause_text_iff (named.order o present)) inside⟩
  · refine mentionsOnly_of_iff (Query.text_iff named) (List.forall_mem_append.mpr ⟨?_, ?_⟩)
    · cases found : q.predicate with
      | none => nofun
      | some p => exact predicate p found
    · cases found : q.order with
      | none => nofun
      | some o => exact List.forall_mem_singleton.mpr (order o found)

/-- The attributes named in a filter text and by a sort key. -/
def attributes (filter key : Option String) : List String :=
  attributesOf (filter.getD "") ++ (sortKey? key).toList

/-- An allow-list restricts and does nothing else: a query is made under it exactly when the same query
is made without one and every attribute leads to an allowed column. So a longer list never loses or
changes a query, and no text made under a list has a column outside of it, neither that of the predicate
nor that of the order clause nor the two together. -/
theorem allow_list_only_restricts (c : Converter) (columns : List String)
    (filter key : Option String) (direction : Direction) :
    (∀ q, (c.allowing (some columns)).convert filter key direction = .ok q ↔
      (c.allowing none).convert filter key direction = .ok q ∧
        ∀ path ∈ attributes filter key, ∀ column,
          (c.allowing none).resolver.resolve path = .ok column → column.name ∈ columns) ∧
    (∀ more q, columns ⊆ more → (c.allowing (some columns)).convert filter key direction = .ok q →
      (c.allowing (some more)).convert filter key direction = .ok q) ∧
    ∀ q, (c.allowing (some columns)).convert filter key direction = .ok q →
      (∀ p ∈ q.predicate, MentionsOnly PredicateText columns p.sql) ∧
      (∀ o ∈ q.order, o.column ∈ columns ∧ MentionsOnly OrderText columns o.sql ∧
        MentionsOnly ClauseText columns o.clause) ∧
      MentionsOnly QueryText columns q.sql := by
  have exactly (columns : List String) (q : Query) :
      (c.allowing (some columns)).convert filter key direction = .ok q ↔
        (c.allowing none).convert filter key direction = .ok q ∧
          ∀ path ∈ attributes filter key, c.resolver.LeadsInto columns path := by
    have resolver (allowed : Option (List String)) :
        (c.allowing allowed).resolver = c.resolver.allowing allowed := rfl
    simp only [convert_ok_iff, resolver, predicate_allowing_iff, Order.ofKey_allowing_iff, attributes,
      List.forall_mem_append, Option.mem_toList]
    exact and_and_and_comm
  refine ⟨exactly columns, ?_, fun q => mentionsOnly⟩
  intro more q subset converted
  obtain ⟨free, leads⟩ := (exactly columns q).mp converted
  refine (exactly more q).mpr ⟨free, ?_⟩
  intro path member column resolved
  exact subset (leads path member column resolved)

theorem allow_list_only_restricts_renamed :
    let c : Converter := ⟨id, {}⟩
    let filter := some "meta.created gt \"2024-02-29T23:59:59Z\" or (title pr and title co \"a\")"
    let under (columns : List String) :=
      (c.allowing (some columns)).convert filter (some "userName") .descending
    ∃ q, under ["userName", "created", "title"] = .ok q ∧
      under ["id", "userName", "created", "title"] = .ok q ∧
      q.sql = "(created > :__value_0 OR (title IS NOT NULL AND LOWER(title) LIKE LOWER(:__value_1))) " ++
        "ORDER BY userName DESC" ∧
      MentionsOnly QueryText ["userName", "created", "title"] q.sql ∧
      (∃ p ∈ q.predicate, MentionsOnly PredicateText ["userName", "created", "title"] p.sql) ∧
      (∃ o ∈ q.order, o.clause = " ORDER BY userName DESC" ∧
        MentionsOnly ClauseText ["userName", "created", "title"] o.clause) ∧
      under ["userName", "meta.created", "title"] ≠ .ok q ∧ under ["created", "title"] ≠ .ok q := by
  intro c filter under
  let columns := ["userName", "created", "title"]
  obtain ⟨-, enlarged, mentions⟩ :=
    allow_list_only_restricts c columns filter (some "userName") .descending
  have refused {columns : List String} {q : Query} (path : String) (column : Column)
      (member : path ∈ attributes filter (some "userName"))
      (resolved : (c.allowing none).resolver.resolve path = .ok column)
      (outside : column.name ∉ columns) : under columns ≠ .ok q := by
    intro made
    obtain ⟨exactly, -, -⟩ := allow_list_only_restricts c columns filter (some "userName") .descending
    exact outside (((exactly q).mp made).2 path member _ resolved)
  have parts : (under columns).map (fun q => (q.sql, q.predicate.isSome, q.order)) =
      .ok ("(created > :__value_0 OR (title IS NOT NULL AND LOWER(title) LIKE LOWER(:__value_1))) " ++
        "ORDER BY userName DESC", true, some ⟨"userName", .descending⟩) := by
    decide +kernel
  obtain ⟨q, converted, shape⟩ := map_ok_iff.mp parts
  obtain ⟨sql, some, order⟩ : _ ∧ _ ∧ _ := by simpa only [Prod.mk.injEq] using shape
  obtain ⟨p, present⟩ := Option.isSome_iff_exists.mp some
  obtain ⟨predicate, clause, whole⟩ := mentions q converted
  refine ⟨q, converted, enlarged _ q (by decide) converted, sql, whole, ⟨p, present, predicate p present⟩,
    ⟨_, order, by decide, (clause _ order).2.2⟩, ?_, ?_⟩
  · exact refused "meta.created" ⟨"created", .timestamp⟩ (by decide +kernel) (by decide +kernel) (by decide)
  · exact refused "userName" ⟨"userName", .text⟩ (by decide +kernel) (by decide +kernel) (by decide)

end Converter

end FilterSql
