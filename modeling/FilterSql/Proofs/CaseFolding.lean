import FilterSql.Proofs.RenderedTests

/-!
Databases that ignore case by themselves. A query for such a database is the query for any other one
without the calls of `LOWER`: nothing else of its text changes, no bound value and no error. Where a query
has these calls, they are around the tests that compare a text column with a quoted literal.
-/

namespace FilterSql

/-! ## Texts without their calls of `LOWER` -/

/-- Replaces every `LOWER(x)` in a text by `x`. Known of what has been read are the parentheses still open,
innermost first, each with whether such a call opened it, and the word that it ends in. -/
def unwrap (opened : List Bool) (word : List Char) : List Char → List Char
  | [] => word
  | c :: rest =>
    if Text.isNameChar c then unwrap opened (word ++ [c]) rest
    else if c = '(' then
      if word = "LOWER".toList then unwrap (true :: opened) [] rest
      else word ++ '(' :: unwrap (false :: opened) [] rest
    else if c = ')' then
      if opened.head? = some true then word ++ unwrap opened.tail [] rest
      else word ++ ')' :: unwrap opened.tail [] rest
    else word ++ c :: unwrap opened [] rest

def unwrapped (s : String) : String :=
  String.ofList (unwrap [] [] s.toList)

example : unwrapped "(LOWER(LOWER) = LOWER(:a) OR FLOWER(LOWER) = :b)" =
    "(LOWER = :a OR FLOWER(LOWER) = :b)" := by decide

/-- No word goes on here, and the one just read is not called on anything. -/
def Stops (rest : List Char) : Prop :=
  ∀ c ∈ rest.head?, Text.isNameChar c = false ∧ c ≠ '('

theorem stops_nil : Stops [] := by
  intro c hc
  cases hc

theorem stops_cons {c : Char} (outside : Text.isNameChar c = false) (notOpening : c ≠ '(')
    (rest : List Char) : Stops (c :: rest) := by
  intro d hd
  cases hd
  exact ⟨outside, notOpening⟩

/-- A text without parentheses. -/
def Flat (cs : List Char) : Prop :=
  ∀ c ∈ cs, c ≠ '(' ∧ c ≠ ')'

theorem flat_of_all {cs : List Char} (h : cs.all (fun c => c != '(' && c != ')') = true) : Flat cs := by
  intro c member
  simpa using List.all_eq_true.mp h c member

theorem flat_append {cs ds : List Char} (hc : Flat cs) (hd : Flat ds) : Flat (cs ++ ds) :=
  List.forall_mem_append.mpr ⟨hc, hd⟩

theorem flat_cons {c : Char} {cs : List Char} (notOpening : c ≠ '(') (notClosing : c ≠ ')')
    (h : Flat cs) : Flat (c :: cs) :=
  List.forall_mem_cons.mpr ⟨⟨notOpening, notClosing⟩, h⟩

theorem flat_name {name : String} (named : Text.isName name = true) : Flat name.toList := by
  obtain ⟨_, _, -, chars⟩ := name_chars named
  intro c member
  have inside := chars c member
  constructor
  · rintro rfl
    cases inside
  · rintro rfl
    cases inside

theorem flat_comparison (k : Comparison) : Flat k.sql.toList := by
  cases k <;> exact flat_of_all rfl

section Unwrap

variable {opened : List Bool} {word rest : List Char}

/-- The word before a place where it stops is nothing that is called. -/
theorem unwrap_word (stops : Stops rest) : unwrap opened word rest = word ++ unwrap opened [] rest := by
  cases rest with
  | nil => simp [unwrap]
  | cons c rest =>
    obtain ⟨outside, notOpening⟩ := stops c rfl
    by_cases closing : c = ')'
    · subst closing
      by_cases called : opened.head? = some true <;> simp [unwrap, outside, called]
    · simp [unwrap, outside, notOpening, closing]

/-- Where no parenthesis stands there is nothing to replace. -/
theorem unwrap_flat {a : List Char} (flat : Flat a) (stops : Stops rest) :
    unwrap opened word (a ++ rest) = word ++ a ++ unwrap opened [] rest := by
  induction a generalizing word with
  | nil => simpa using unwrap_word stops
  | cons c a ih =>
    obtain ⟨⟨notOpening, notClosing⟩, flat⟩ := List.forall_mem_cons.mp flat
    cases name : Text.isNameChar c with
    | true => simp [unwrap, name, ih flat]
    | false => simp [unwrap, name, notOpening, notClosing, ih flat]

theorem unwrap_blank (rest : List Char) :
    unwrap opened [] (' ' :: rest) = ' ' :: unwrap opened [] rest := by
  have outside : Text.isNameChar ' ' = false := by decide
  simp [unwrap, outside]

theorem unwrap_group (rest : List Char) :
    unwrap opened [] ('(' :: rest) = '(' :: unwrap (false :: opened) [] rest := by
  have outside : Text.isNameChar '(' = false := by decide
  simp [unwrap, outside]

theorem unwrap_group_end (rest : List Char) :
    unwrap (false :: opened) [] (')' :: rest) = ')' :: unwrap opened [] rest := by
  have outside : Text.isNameChar ')' = false := by decide
  simp [unwrap, outside]

/-- A call of `LOWER` on a text without parentheses leaves that text. -/
theorem unwrap_call {a : List Char} (flat : Flat a) (rest : List Char) :
    unwrap opened [] ("LOWER(".toList ++ (a ++ ')' :: rest)) = a ++ unwrap opened [] rest := by
  have call (tail : List Char) :
      unwrap opened [] ("LOWER(".toList ++ tail) = unwrap (true :: opened) [] tail := rfl
  have closes : unwrap (true :: opened) [] (')' :: rest) = unwrap opened [] rest := rfl
  have inside := @unwrap_flat (true :: opened) [] _ a flat
    (stops_cons (c := ')') (by decide) (by decide) rest)
  rw [call, inside, closes, List.nil_append]

end Unwrap

/-! ## Predicates -/

/-- The predicate with case left to the database. -/
def Predicate.unfolded : Predicate → Predicate
  | notNull column => notNull column
  | compare column comparison placeholder _ => compare column comparison placeholder false
  | join c left right => join c left.unfolded right.unfolded

theorem Predicate.unwrap_compare {column placeholder : String}
    (named : Text.isName column = true) (placed : Text.isName placeholder = true) (k : Comparison)
    (folded : Bool) {rest : List Char} (stops : Stops rest) (opened : List Bool) :
    unwrap opened [] ((compare column k placeholder folded).sql.toList ++ rest) =
      (compare column k placeholder false).sql.toList ++ unwrap opened [] rest := by
  have flatColumn := flat_name named
  have flatValue : Flat (":" ++ placeholder).toList := by
    rw [String.toList_append]
    exact flat_append (flat_of_all rfl) (flat_name placed)
  have plain : (compare column k placeholder false).sql.toList =
      column.toList ++ ' ' :: (k.sql.toList ++ ' ' :: (":" ++ placeholder).toList) := by
    simp [sql]
  cases folded with
  | false =>
    have flat : Flat (compare column k placeholder false).sql.toList := by
      rw [plain]
      exact flat_append flatColumn (flat_cons (by decide) (by decide)
        (flat_append (flat_comparison k) (flat_cons (by decide) (by decide) flatValue)))
    rw [unwrap_flat flat stops, List.nil_append]
  | true =>
    have shape : (compare column k placeholder true).sql.toList ++ rest =
        "LOWER(".toList ++ (column.toList ++ ')' :: (' ' :: (k.sql.toList ++ ' ' ::
          ("LOWER(".toList ++ ((":" ++ placeholder).toList ++ ')' :: rest))))) := by
      simp [sql, lower]
    have spaced (tail : List Char) : Stops (' ' :: tail) := stops_cons (by decide) (by decide) tail
    rw [shape, unwrap_call flatColumn, unwrap_blank, unwrap_flat (flat_comparison k) (spaced _),
      unwrap_blank, unwrap_call flatValue, plain]
    simp

/-- Without its calls of `LOWER` the text of a predicate is that of the predicate that has none. -/
theorem Predicate.unwrap_sql {p : Predicate} (named : p.reading.Named) {rest : List Char}
    (stops : Stops rest) (opened : List Bool) :
    unwrap opened [] (p.sql.toList ++ rest) = p.unfolded.sql.toList ++ unwrap opened [] rest := by
  induction p generalizing rest opened with
  | notNull column =>
    have flat : Flat (notNull column).sql.toList := by
      rw [sql, String.toList_append]
      exact flat_append (flat_name named) (flat_of_all rfl)
    rw [unwrap_flat flat stops]
    rfl
  | compare column k placeholder folded =>
    exact unwrap_compare named.1 named.2 k folded stops opened
  | join c left right ihl ihr =>
    have shape (l r : Predicate) (rest : List Char) : (join c l r).sql.toList ++ rest =
        '(' :: (l.sql.toList ++ ' ' :: (c.upper.toList ++ ' ' :: (r.sql.toList ++ ')' :: rest))) := by
      simp [sql]
    have spaced (tail : List Char) : Stops (' ' :: tail) := stops_cons (by decide) (by decide) tail
    -- Nothing is called on the group, as no word stands before it, so its parentheses stay.
    have closed : Stops (')' :: rest) := stops_cons (by decide) (by decide) rest
    have word : Flat c.upper.toList := by cases c <;> exact flat_of_all rfl
    rw [unfolded, shape, shape, unwrap_group, ihl named.1 (spaced _), unwrap_blank,
      unwrap_flat word (spaced _), unwrap_blank, ihr named.2 closed, unwrap_group_end]
    rfl

theorem Order.flat_sql {o : Order} (named : Text.isName o.column = true) : Flat o.sql.toList := by
  have direction : Flat o.direction.sql.toList := by
    cases o.direction <;> exact flat_of_all rfl
  have shape : o.sql.toList =
      "ORDER BY ".toList ++ (o.column.toList ++ ' ' :: o.direction.sql.toList) := by
    simp [Order.sql]
  rw [shape]
  exact flat_append (flat_of_all rfl)
    (flat_append (flat_name named) (flat_cons (by decide) (by decide) direction))

/-- The calls of `LOWER` in the text of a query are those in its predicate. -/
theorem Query.unwrapped_sql {q : Query} (named : q.Named) :
    unwrapped q.sql = (Query.mk (q.predicate.map Predicate.unfolded) q.order q.bindings).sql := by
  obtain ⟨p?, o?, b⟩ := q
  have flat (o : Order) (ordered : o ∈ o?) :
      unwrap [] [] o.sql.toList = o.sql.toList := by
    have whole := @unwrap_flat [] [] [] _ (Order.flat_sql (named.order o ordered)) stops_nil
    simpa [unwrap] using whole
  apply String.toList_inj.mp
  rw [unwrapped, String.toList_ofList]
  cases p? with
  | none =>
    cases o? with
    | none => rfl
    | some o => exact flat o rfl
  | some p =>
    cases o? with
    | none =>
      have whole := Predicate.unwrap_sql (named.predicate p rfl) stops_nil []
      simpa [Query.sql, unwrap] using whole
    | some o =>
      have clause : o.clause.toList = ' ' :: o.sql.toList := by simp [Order.clause]
      have whole := Predicate.unwrap_sql (named.predicate p rfl)
        (stops_cons (c := ' ') (by decide) (by decide) o.sql.toList) []
      rw [unwrap_blank, flat o rfl] at whole
      simpa [Query.sql, clause] using whole

/-! ## Rendering -/

def Condition.unfolded : Condition → Condition
  | notNull column => notNull column
  | compare column comparison value _ => compare column comparison value false

namespace Renderer

/-- The same renderer for a database that ignores case by itself. -/
def ignoringCase (r : Renderer) : Renderer :=
  ⟨r.resolver, true⟩

theorem compare_ignoringCase (r : Renderer) (column : Column) (op : Operator) (value : Literal) :
    r.ignoringCase.compare column op value = (r.compare column op value).map Condition.unfolded := by
  unfold Renderer.compare
  cases op.comparison? with
  | none => rfl
  | some k =>
    dsimp only
    split
    · rfl
    · cases fit? column.kind op value <;> rfl

theorem condition_ignoringCase (r : Renderer) (t : Test) :
    r.ignoringCase.condition t = (r.condition t).map Condition.unfolded := by
  have resolver : r.ignoringCase.resolver = r.resolver := rfl
  cases t with
  | present path =>
    simp only [condition, Renderer.present, resolver]
    cases r.resolver.resolve path <;> rfl
  | compare path op value =>
    simp only [condition, Renderer.comparison, resolver]
    cases r.resolver.resolve path with
    | error e => rfl
    | ok column => exact r.compare_ignoringCase column op value

theorem place_unfolded (b : Bindings) (condition : Condition) :
    place b condition.unfolded = ((place b condition).1.unfolded, (place b condition).2) := by
  cases condition <;> rfl

/-- For a database that ignores case, a filter renders to the same predicate with nothing folded, meets
the same error and binds the same values. -/
theorem render_ignoringCase (r : Renderer) (f : Filter) (b : Bindings) :
    r.ignoringCase.render f b = ((r.render f b).1.map Predicate.unfolded, (r.render f b).2) := by
  have test (t : Test) (b : Bindings) : r.ignoringCase.render t.filter b =
      ((r.render t.filter b).1.map Predicate.unfolded, (r.render t.filter b).2) := by
    rw [render_test, render_test, condition_ignoringCase]
    cases r.condition t with
    | error e => rfl
    | ok condition => simp only [Except.map, renderCondition, place_unfolded]
  induction f generalizing b with
  | present path => exact test (.present path) b
  | compare path op value => exact test (.compare path op value) b
  | join c left right ihl ihr =>
    cases hl : r.render left b with
    | mk outcome b₁ =>
      have left' := ihl b
      rw [hl] at left'
      cases outcome with
      | error e => rw [render_join_left_error c hl, render_join_left_error c left']; rfl
      | ok p =>
        cases hr : r.render right b₁ with
        | mk outcome b₂ =>
          have right' := ihr b₁
          rw [hr] at right'
          cases outcome with
          | error e =>
            rw [render_join_right_error c hl hr, render_join_right_error c left' right']
            rfl
          | ok q =>
            rw [render_join_ok c hl hr, render_join_ok c left' right']
            rfl

end Renderer

/-! ## Tests in lower case -/

/-- The tests of a reading from left to right. -/
def Reading.tests : Reading → List Reading
  | notNull column => [notNull column]
  | compare column comparison placeholder folded => [compare column comparison placeholder folded]
  | join _ left right => left.tests ++ right.tests

/-- Whether a test has its column in lower case. -/
def Reading.isLowered : Reading → Bool
  | compare _ _ _ folded => folded
  | _ => false

/-- A comparison of a text column with a quoted literal, be it a text or a timestamp. -/
inductive Test.ComparesText (r : Resolver) : Test → Prop
  | text {path : String} {op : Operator} {column : Column} (s : String) (valued : op ≠ .present)
      (resolved : r.resolve path = .ok column) (kind : column.kind = .text) :
      Test.ComparesText r (.compare path op (.text s))
  | timestamp {path : String} {op : Operator} {column : Column} (raw : String) (instant : Instant)
      (valued : op ≠ .present) (resolved : r.resolve path = .ok column)
      (kind : column.kind = .text) : Test.ComparesText r (.compare path op (.timestamp raw instant))

namespace Renderer

theorem comparesText_iff {r : Resolver} {path : String} {op : Operator} {value : Literal}
    {column : Column} (valued : op ≠ .present) (resolved : r.resolve path = .ok column) :
    (Test.compare path op value).ComparesText r ↔
      column.kind = .text ∧ value.isTextual = true := by
  constructor
  · intro compares
    cases compares with
    | text s _ resolved' kind | timestamp raw instant _ resolved' kind =>
      rw [resolved] at resolved'
      cases resolved'
      exact ⟨kind, rfl⟩
  · rintro ⟨kind, textual⟩
    cases value with
    | text s => exact .text s valued resolved kind
    | timestamp raw instant => exact .timestamp raw instant valued resolved kind
    | number n | boolean b => cases textual

theorem Tests.lowered {r : Renderer} (folding : r.caseInsensitive = false) {t : Test}
    {condition : Condition} (tests : Tests r t.filter condition) (b : Bindings) :
    (place b condition).1.reading.tests = [(place b condition).1.reading] ∧
      ((place b condition).1.reading.isLowered = true ↔ t.ComparesText r.resolver) := by
  cases t with
  | present path =>
    cases tests with
    | present found =>
      obtain ⟨column, -, rfl⟩ := present_ok found
      refine ⟨rfl, ?_⟩
      constructor
      · rintro ⟨⟩
      · rintro ⟨⟩
  | compare path op value =>
    cases tests with
    | compare found =>
      obtain ⟨column, resolved, ⟨rfl, rfl⟩ | ⟨k, v, operator, -, rfl⟩⟩ := comparison_ok found
      · refine ⟨rfl, ?_⟩
        constructor
        · rintro ⟨⟩
        · intro compares
          cases compares with
          | text _ valued | timestamp _ _ valued => exact absurd rfl valued
      · have valued : op ≠ .present := by
          rintro rfl
          cases operator
        refine ⟨rfl, ?_⟩
        rw [comparesText_iff valued resolved]
        simp [place, Predicate.reading, Reading.isLowered, folds_eq, folding]

/-- Test by test, what is rendered is in lower case exactly where the filter compares text. -/
theorem Renders.lowered {r : Renderer} (folding : r.caseInsensitive = false) {f : Filter}
    {b b' : Bindings} {p : Predicate} (h : Renders r f b p b') :
    List.Forall₂ (fun t leaf => leaf.isLowered = true ↔ t.ComparesText r.resolver) f.tests
      p.reading.tests := by
  have single (t : Test) {condition : Condition} (tests : Tests r t.filter condition)
      (b : Bindings) :
      List.Forall₂ (fun t leaf => leaf.isLowered = true ↔ t.ComparesText r.resolver) [t]
        (place b condition).1.reading.tests := by
    obtain ⟨one, lowered⟩ := tests.lowered folding b
    rw [one]
    exact .cons lowered .nil
  induction h with
  | @test f condition b tests =>
    cases f with
    | present path => exact single (.present path) tests b
    | compare path op value => exact single (.compare path op value) tests b
    | join c left right => cases tests
  | join c _ _ ihl ihr => exact List.rel_append ihl ihr

end Renderer

/-! ## Converting -/

namespace Converter

/-- The same converter, told whether the database ignores case by itself. -/
def assuming (c : Converter) (caseInsensitive : Bool) : Converter :=
  ⟨c.rename, { c.options with caseInsensitive }⟩

theorem predicate_assuming (c : Converter) (filter : Option String) :
    (c.assuming true).predicate filter = ((c.assuming false).predicate filter).map fun found =>
      (found.1.map Predicate.unfolded, found.2) := by
  cases blank : Text.allBlank (filter.getD "") with
  | true =>
    rw [predicate_blank blank, predicate_blank blank]
    rfl
  | false =>
    have renderer : (c.assuming true).renderer = (c.assuming false).renderer.ignoringCase := rfl
    cases read : Filter.ofText c.options.precedence (filter.getD "") with
    | error e =>
      have failed (b : Bool) : (c.assuming b).predicate filter = .error e :=
        predicate_of_error blank read
      rw [failed, failed]
      rfl
    | ok f =>
      have read' (b : Bool) :
          Filter.ofText (c.assuming b).options.precedence (filter.getD "") = .ok f := read
      have rendered' := (c.assuming false).renderer.render_ignoringCase f .empty
      rw [← renderer] at rendered'
      cases rendered : (c.assuming false).renderer.render f .empty with
      | mk outcome b =>
        rw [rendered] at rendered'
        cases outcome with
        | error e =>
          rw [predicate_of_render_error blank (read' false) rendered,
            predicate_of_render_error blank (read' true) rendered']
          rfl
        | ok p =>
          rw [predicate_of_render_ok blank (read' false) rendered,
            predicate_of_render_ok blank (read' true) rendered']
          rfl

end Converter

end FilterSql
