import FilterSql.Proofs.FilterTokens
import FilterSql.Proofs.QueryText

/-!
Bound values. The literals of a filter text, the values bound for a query and the names that the query's
text marks go together one by one, from left to right, however the filter groups.
-/

namespace FilterSql

/-! ## Names marked in a text -/

/-- The names that follow a colon, from left to right. -/
def markedNames : List Char → List String
  | [] => []
  | c :: rest =>
    if c = ':' then String.ofList (rest.takeWhile Text.isNameChar) :: markedNames rest
    else markedNames rest

theorem markedNames_skip {a : List Char} (unmarked : a.all (· != ':') = true) (rest : List Char) :
    markedNames (a ++ rest) = markedNames rest := by
  induction a with
  | nil => rfl
  | cons c a ih =>
    obtain ⟨first, others⟩ := Bool.and_eq_true_iff.mp unmarked
    rw [List.cons_append, markedNames, if_neg (by simpa using first), ih others]

theorem markedNames_name {name : String} (named : Text.isName name = true) (rest : List Char) :
    markedNames (name.toList ++ rest) = markedNames rest := by
  obtain ⟨_, _, -, chars⟩ := name_chars named
  apply markedNames_skip
  apply List.all_eq_true.mpr
  intro c member
  apply bne_iff_ne.mpr
  rintro rfl
  have inside := chars ':' member
  revert inside
  decide

theorem markedNames_comparison (k : Comparison) (rest : List Char) :
    markedNames (k.sql.toList ++ rest) = markedNames rest := by
  apply markedNames_skip
  cases k <;> rfl

theorem markedNames_mark {name : String} (named : Text.isName name = true) {rest : List Char}
    (ends : Ends rest) :
    markedNames (':' :: (name.toList ++ rest)) = name :: markedNames rest := by
  obtain ⟨_, _, -, chars⟩ := name_chars named
  rw [markedNames, if_pos rfl, (span_append chars ends).1, String.ofList_toList,
    markedNames_name named]

def Reading.placeholders : Reading → List String
  | notNull _ => []
  | compare _ _ placeholder _ => [placeholder]
  | join _ left right => left.placeholders ++ right.placeholders

/-- The text marks these names, whatever follows it, as long as no name goes on there. -/
def Marks (text : String) (names : List String) : Prop :=
  ∀ rest, Ends rest → markedNames (text.toList ++ rest) = names ++ markedNames rest

theorem TestText.marks {text : String} {t : Reading} (h : TestText text t) :
    Marks text t.placeholders := by
  intro rest ends
  have blank (rest : List Char) : markedNames (' ' :: rest) = markedNames rest :=
    markedNames_skip (a := [' ']) rfl rest
  cases h with
  | notNull named =>
    rw [notNull_toList, markedNames_name named, blank, markedNames_skip (by rfl)]
    rfl
  | compare comparison named placed =>
    rw [compare_toList, markedNames_name named, blank, markedNames_comparison, blank,
      markedNames_mark placed ends]
    rfl
  | @folded column placeholder comparison named placed =>
    have closed : Ends (')' :: rest) := ends_cons (by decide) rest
    have shape : ("LOWER(" ++ column ++ ") " ++ comparison.sql ++ " LOWER(:" ++ placeholder ++
        ")").toList ++ rest = "LOWER(".toList ++ (column.toList ++ (") ".toList ++
          (comparison.sql.toList ++ (" LOWER(".toList ++ ':' :: (placeholder.toList ++
            ')' :: rest))))) := by
      simp
    rw [shape, markedNames_skip (by rfl), markedNames_name named, markedNames_skip (by rfl),
      markedNames_comparison, markedNames_skip (by rfl), markedNames_mark placed closed]
    exact congrArg _ (markedNames_skip (a := [')']) rfl rest)

theorem Marks.group {text : String} {names : List String} (h : Marks text names) :
    Marks ("(" ++ text ++ ")") names := by
  intro rest ends
  have closed : Ends (')' :: rest) := ends_cons (by decide) rest
  have shape : ("(" ++ text ++ ")").toList ++ rest = "(".toList ++ (text.toList ++ ')' :: rest) := by
    simp
  rw [shape, markedNames_skip (by rfl), h _ closed]
  exact congrArg _ (markedNames_skip (a := [')']) rfl rest)

theorem Marks.join {left right : String} {names names' : List String} (hl : Marks left names)
    (hr : Marks right names') (c : Connective) :
    Marks (left ++ c.between ++ right) (names ++ names') := by
  intro rest ends
  have apart : Ends (c.between.toList ++ (right.toList ++ rest)) := by
    rw [between_toList]
    exact ends_cons (by decide) _
  have unmarked : c.between.toList.all (· != ':') = true := by
    cases c <;> rfl
  rw [String.toList_append, String.toList_append, List.append_assoc, List.append_assoc, hl _ apart,
    markedNames_skip unmarked, hr _ ends, List.append_assoc]

/-- A predicate's text marks the names that its reading has, in the same order. -/
theorem Reads.marks {extent : Extent} {text : String} {t : Reading} (h : Reads extent text t) :
    Marks text t.placeholders := by
  induction h with
  | test h => exact h.marks
  | group _ ih => exact ih.group
  | conjunct _ ih => exact ih
  | and _ _ ihl ihr => exact ihl.join ihr .and
  | disjunct _ ih => exact ih
  | or _ _ ihl ihr => exact ihl.join ihr .or

theorem Order.markedNames_sql {o : Order} (named : Text.isName o.column = true) :
    markedNames o.sql.toList = [] := by
  have direction : markedNames (' ' :: o.direction.sql.toList) = [] := by
    cases o.direction <;> rfl
  have shape : o.sql.toList =
      "ORDER BY ".toList ++ (o.column.toList ++ ' ' :: o.direction.sql.toList) := by
    simp [Order.sql]
  rw [shape, markedNames_skip (by rfl), markedNames_name named, direction]

/-- The names marked in the text of a query are those in the reading of its predicate. -/
theorem Query.markedNames_sql {q : Query} (named : q.Named) :
    markedNames q.sql.toList = q.predicate.elim [] fun p => p.reading.placeholders := by
  obtain ⟨p?, o?, b⟩ := q
  cases p? with
  | none =>
    cases o? with
    | none => rfl
    | some o => exact Order.markedNames_sql (named.order o rfl)
  | some p =>
    have marks := (p.sql_reads (named.predicate p rfl)).marks
    cases o? with
    | none => simpa [markedNames, Query.sql] using marks [] ends_nil
    | some o =>
      have clause : o.clause.toList = ' ' :: o.sql.toList := by simp [Order.clause]
      have unmarked : markedNames o.clause.toList = [] := by
        rw [clause, markedNames, if_neg (by decide), Order.markedNames_sql (named.order o rfl)]
      have ends : Ends o.clause.toList := by
        rw [clause]
        exact ends_cons (by decide) _
      simpa [Query.sql, unmarked] using marks _ ends

/-! ## The value of a literal -/

/-- What an operator compares with, for a text in the filter. -/
inductive Wrapped : Operator → String → String → Prop
  | contains (s : String) : Wrapped .contains s ("%" ++ s ++ "%")
  | startsWith (s : String) : Wrapped .startsWith s (s ++ "%")
  | endsWith (s : String) : Wrapped .endsWith s ("%" ++ s)
  | whole {op : Operator} (s : String) (whole : op ∉ [.contains, .startsWith, .endsWith]) :
      Wrapped op s s

theorem wrapped_likePattern (op : Operator) (s : String) : Wrapped op s (op.likePattern s) := by
  cases op with
  | contains => exact .contains s
  | startsWith => exact .startsWith s
  | endsWith => exact .endsWith s
  | present | equal | notEqual | greater | greaterOrEqual | less | lessOrEqual =>
    exact .whole s (by decide)

/-- What a column of some kind is given for a literal. -/
inductive Suits (op : Operator) : ColumnKind → Literal → Parameter → Prop
  | instant (raw : String) (instant : Instant) :
      Suits op .timestamp (.timestamp raw instant) (.timestamp instant)
  | count (n : Number) : Suits op .integer (.number n) (.number n)
  | number (n : Number) : Suits op .text (.number n) (.number n)
  | boolean (b : Bool) : Suits op .text (.boolean b) (.boolean b)
  | text {s t : String} (wrapped : Wrapped op s t) : Suits op .text (.text s) (.text t)
  | raw {s t : String} (instant : Instant) (wrapped : Wrapped op s t) :
      Suits op .text (.timestamp s instant) (.text t)

theorem suits_of_fit {kind : ColumnKind} {op : Operator} {value : Literal} {v : Parameter}
    (fits : Renderer.fit? kind op value = some v) : Suits op kind value v := by
  cases kind with
  | timestamp =>
    cases value with
    | timestamp raw instant =>
      cases fits
      exact .instant raw instant
    | text s | number n | boolean b => cases fits
  | integer =>
    cases value with
    | number n =>
      cases fits
      exact .count n
    | text s | boolean b | timestamp raw instant => cases fits
  | text =>
    cases value with
    | text s =>
      cases fits
      exact .text (wrapped_likePattern op s)
    | timestamp raw instant =>
      cases fits
      exact .raw instant (wrapped_likePattern op raw)
    | number n =>
      cases fits
      exact .number n
    | boolean b =>
      cases fits
      exact .boolean b

/-- The comparison's attribute leads to a column that is given this value for the literal. -/
def Resolver.Gives (r : Resolver) (comparison : String × Operator × Literal) (v : Parameter) : Prop :=
  ∃ column, r.resolve comparison.1 = .ok column ∧
    Suits comparison.2.1 column.kind comparison.2.2 v

/-! ## The values bound -/

namespace Renderer

/-- What a rendering adds: one value for each comparison, in order, at the next places. -/
def Adds (r : Renderer) (f : Filter) (b : Bindings) (p : Predicate) (b' : Bindings) : Prop :=
  ∃ values, b' = b.pushAll values ∧
    List.Forall₂ r.resolver.Gives f.comparisons values ∧
    p.reading.placeholders = (List.range' b.size values.length).map Bindings.placeholder

theorem Tests.adds {r : Renderer} {f : Filter} {condition : Condition} (tests : Tests r f condition)
    (valued : ∀ x ∈ f.comparisons, x.2.1 ≠ .present) (b : Bindings) :
    Adds r f b (place b condition).1 (place b condition).2 := by
  cases tests with
  | present found =>
    obtain ⟨column, -, rfl⟩ := present_ok found
    exact ⟨[], rfl, .nil, rfl⟩
  | compare found =>
    obtain ⟨column, resolved, ⟨absent, -⟩ | ⟨k, v, -, fits, rfl⟩⟩ := comparison_ok found
    · exact absurd absent (valued _ (List.mem_singleton_self _))
    · exact ⟨[v], rfl, .cons ⟨column, resolved, suits_of_fit fits⟩ .nil, rfl⟩

theorem Renders.adds {r : Renderer} {f : Filter} {b b' : Bindings} {p : Predicate}
    (h : Renders r f b p b') (valued : ∀ x ∈ f.comparisons, x.2.1 ≠ .present) :
    Adds r f b p b' := by
  induction h with
  | test b tests => exact tests.adds valued b
  | @join left right p q b b₁ b₂ c _ _ ihl ihr =>
    obtain ⟨valuedLeft, valuedRight⟩ := List.forall_mem_append.mp valued
    obtain ⟨first, grown, given, places⟩ := ihl valuedLeft
    obtain ⟨second, grown', given', places'⟩ := ihr valuedRight
    have size : b₁.size = b.size + first.length := by
      rw [grown, ← Bindings.length_values, Bindings.values_pushAll, List.length_append,
        Bindings.length_values]
    refine ⟨first ++ second, ?_, List.rel_append given given', ?_⟩
    · rw [grown', grown, Bindings.pushAll_append]
    · rw [Predicate.reading, Reading.placeholders, places, places', size, ← List.map_append,
        List.range'_append_1, List.length_append]

end Renderer

/-! ## Converting -/

/-- A text that is read under one precedence is read under each, with as many values to compare with
as it has literals. -/
theorem Filter.literalCount_of_read {p : Precedence} {s : String} {f : Filter}
    (read : Filter.ofText p s = .ok f) (p' : Precedence) :
    ∃ g, Filter.ofText p' s = .ok g ∧
      g.literalCount = ((tokenValues s).filterMap Token.literal?).length := by
  obtain ⟨phrase, found, -⟩ := Filter.ofText_ok_iff_phrase.mp read
  have read' : Filter.ofText p' s = .ok (phrase.toFilter p') :=
    Filter.ofText_ok_iff_phrase.mpr ⟨phrase, found, rfl⟩
  refine ⟨phrase.toFilter p', read', ?_⟩
  rw [(derives_of_read read').literals, List.length_map, Filter.length_comparisons]

namespace Converter

theorem predicate_binds {c : Converter} {filter : Option String}
    {found : Option Predicate × Bindings} (made : c.predicate filter = .ok found) :
    let tokens := tokenValues (filter.getD "")
    (found.1.elim [] fun p => p.reading.placeholders) = found.2.names ∧
      (comparisons tokens).map (fun x => x.2.2) = tokens.filterMap Token.literal? ∧
      List.Forall₂ c.resolver.Gives (comparisons tokens) found.2.values := by
  dsimp only
  obtain ⟨blank, rfl⟩ | ⟨f, p, b, -, read, rendered, rfl⟩ := predicate_ok_iff.mp made
  · rw [tokenValues_of_blank blank]
    exact ⟨rfl, rfl, .nil⟩
  · have derived := derives_of_read read
    have renders := Renderer.renders_of_render rendered
    obtain ⟨values, rfl, given, places⟩ := renders.adds derived.valued
    rw [derived.comparisons, derived.literals]
    refine ⟨?_, rfl, (Bindings.values_ofValues values).symm ▸ given⟩
    calc p.reading.placeholders
      _ = (List.range' 0 values.length).map Bindings.placeholder := places
      _ = (List.range (Bindings.ofValues values).size).map Bindings.placeholder := by
        rw [Bindings.size_ofValues, List.range_eq_range']
      _ = (Bindings.ofValues values).names := (Bindings.numbered_ofValues values).names.symm

/-- The values bound for a query are the literals of the filter text, each fitted to its column, and
the text of the query marks their names in the same order, each of them once. -/
theorem parameters_are_literals (c : Converter) (filter key : Option String) (direction : Direction)
    (q : Query) (converted : c.convert filter key direction = .ok q) :
    let tokens := tokenValues (filter.getD "")
    let literals := tokens.filterMap Token.literal?
    let names := (List.range literals.length).map Bindings.placeholder
    (Text.allBlank (filter.getD "") = true ∧ literals = [] ∨
      ∀ p, ∃ f, Filter.ofText p (filter.getD "") = .ok f ∧ f.literalCount = literals.length) ∧
    q.bindings.toList.map Prod.fst = names ∧
    markedNames q.sql.toList = names ∧ names.Nodup ∧
    (comparisons tokens).map (fun x => x.2.2) = literals ∧
    List.Forall₂ c.resolver.Gives (comparisons tokens) (q.bindings.toList.map Prod.snd) := by
  intro tokens literals names
  obtain ⟨made, -⟩ := convert_ok_iff.mp converted
  obtain ⟨marked, written, given⟩ := predicate_binds made
  have count : literals.length = q.bindings.size := by
    calc literals.length
      _ = ((comparisons tokens).map fun x => x.2.2).length := congrArg List.length written.symm
      _ = (comparisons tokens).length := List.length_map _
      _ = q.bindings.values.length := given.length_eq
      _ = q.bindings.size := q.bindings.length_values
  have bound : q.bindings.names = names := by
    rw [(numbered_of_predicate made).names, ← count]
  refine ⟨?_, bound, ?_, Bindings.nodup_placeholders _, written, given⟩
  · obtain ⟨blank, -⟩ | ⟨f, p, b, -, read, -⟩ := predicate_ok_iff.mp made
    · refine .inl ⟨blank, ?_⟩
      simp [literals, tokens, tokenValues_of_blank blank]
    · exact .inr (Filter.literalCount_of_read read)
  · rw [Query.markedNames_sql (named_of_convert converted), marked, bound]

theorem parameters_are_literals_mixed :
    let c : Converter := ⟨id, { precedence := .andBindsTighter }⟩
    let filter := some ("(title sw \"2024-02-29T23:59:59Z\" or id pr) and meta.version ge 2 or " ++
      "meta.created lt \"2024-02-29T23:59:59Z\"")
    let literals := (tokenValues (filter.getD "")).filterMap Token.literal?
    let names := (List.range literals.length).map Bindings.placeholder
    let entries : List (String × Parameter) := [("__value_0", .text "2024-02-29T23:59:59Z%"),
      ("__value_1", .number (.integer 2)), ("__value_2", .timestamp ⟨⟨2024, 2, 29⟩, 1439, 59, 0⟩)]
    ∃ q, c.convert filter (some "title") .descending = .ok q ∧ q.bindings = ⟨entries⟩ ∧
      (∃ f, Filter.ofText .leftToRight (filter.getD "") = .ok f ∧
        f.literalCount = literals.length) ∧
      q.bindings.toList.map Prod.fst = names ∧ markedNames q.sql.toList = names ∧
      List.Forall₂ c.resolver.Gives (comparisons (tokenValues (filter.getD "")))
        (q.bindings.toList.map Prod.snd) := by
  intro c filter literals names entries
  let q : Query := ⟨some (.join .or (.join .and
    (.join .or (.compare "title" .like "__value_0" true) (.notNull "id"))
    (.compare "version" .greaterOrEqual "__value_1" false))
    (.compare "created" .less "__value_2" false)), some ⟨"title", .descending⟩, ⟨entries⟩⟩
  have converted : c.convert filter (some "title") .descending = .ok q := by decide +kernel
  obtain ⟨blank | read, bound, marked, -, -, given⟩ :=
    parameters_are_literals c filter (some "title") .descending q converted
  · exact absurd blank.1 (by decide +kernel)
  · exact ⟨q, converted, rfl, read .leftToRight, bound, marked, given⟩

end Converter

end FilterSql
