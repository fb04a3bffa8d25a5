import FilterSql.Proofs.BoundLiterals
import FilterSql.Proofs.OutlineText
import FilterSql.Report.Query
import FilterSql.Report.Tokens

/-!
Reports with and without colours. The texts of queries, tokens and filters hold printable characters only, for
columns and attributes have proper names and all other text is quoted. So the control sequences of a coloured
report are those of its styles, and without them it is the plain report.
-/

namespace FilterSql

/-! ## Texts without control sequences -/

/-- A text without its control sequences, each of which goes from an escape character before a bracket to the
next `m`. Known of what has been read is whether it ends within a sequence. -/
def withoutControls (inside : Bool) : List Char → List Char
  | [] => []
  | c :: rest =>
    if inside then withoutControls (c != 'm') rest
    else if c = '\x1b' ∧ rest.head? = some '[' then withoutControls true rest
    else c :: withoutControls false rest

def uncoloured (s : String) : String :=
  String.ofList (withoutControls false s.toList)

example : uncoloured "a\x1b[1;32mm\x1bn\x1b[0m" = "am\x1bn" := by decide

theorem withoutControls_inside {parameter : List Char} (h : 'm' ∉ parameter) (rest : List Char) :
    withoutControls true (parameter ++ 'm' :: rest) = withoutControls false rest := by
  induction parameter with
  | nil => rfl
  | cons c parameter ih =>
    simp only [List.mem_cons, not_or] at h
    obtain ⟨other, later⟩ := h
    have goesOn : (c != 'm') = true := bne_iff_ne.mpr (Ne.symm other)
    rw [List.cons_append, withoutControls, if_pos rfl, goesOn, ih later]

theorem withoutControls_control {parameter : List Char} (h : 'm' ∉ parameter) (rest : List Char) :
    withoutControls false (Style.control parameter ++ rest) = withoutControls false rest := by
  have start (tail : List Char) :
      withoutControls false ('\x1b' :: '[' :: tail) = withoutControls true tail := rfl
  have shape : Style.control parameter ++ rest = '\x1b' :: '[' :: (parameter ++ 'm' :: rest) := by
    simp [Style.control]
  rw [shape, start, withoutControls_inside h]

theorem withoutControls_text {a : List Char} (kept : '\x1b' ∉ a) (rest : List Char) :
    withoutControls false (a ++ rest) = a ++ withoutControls false rest := by
  induction a with
  | nil => rfl
  | cons c a ih =>
    simp only [List.mem_cons, not_or] at kept
    obtain ⟨other, later⟩ := kept
    have plain : ¬ (c = '\x1b' ∧ (a ++ rest).head? = some '[') := fun h => other h.1.symm
    rw [List.cons_append, withoutControls, if_neg (by decide), if_neg plain, ih later]
    rfl

namespace Style

theorem withoutControls_opening (s : Style) (rest : List Char) :
    withoutControls false (s.opening ++ rest) = withoutControls false rest := by
  cases s <;> exact withoutControls_control (by decide) rest

theorem withoutControls_closing (s : Style) (rest : List Char) :
    withoutControls false (s.closing ++ rest) = withoutControls false rest := by
  cases s <;> exact withoutControls_control (by decide) rest

end Style

/-! ## Reports of printable texts -/

theorem Text.Printable.no_escape {cs : List Char} (h : Printable cs) : '\x1b' ∉ cs := by
  intro member
  exact ne_of_isPlain (by decide) (h _ member) rfl

theorem Piece.withoutControls_wrap (styles : List Style) {text : List Char} (kept : '\x1b' ∉ text)
    (rest : List Char) :
    withoutControls false (wrap styles text ++ rest) = text ++ withoutControls false rest := by
  induction styles generalizing rest with
  | nil => exact withoutControls_text kept rest
  | cons style styles ih =>
    rw [wrap, List.append_assoc, List.append_assoc, style.withoutControls_opening, ih,
      style.withoutControls_closing]

def Line.Printable (l : Line) : Prop :=
  ∀ p ∈ l, Text.Printable p.text.toList

def Report.Printable (r : Report) : Prop :=
  ∀ l ∈ r, l.Printable

theorem Line.printable_styled {text : String} (h : Text.Printable text.toList) (styles : List Style) :
    (styled styles text).Printable :=
  List.forall_mem_singleton.mpr h

theorem Line.withoutControls_write {l : Line} (printable : l.Printable) (rest : List Char) :
    withoutControls false (l.write true ++ rest) = l.write false ++ withoutControls false rest := by
  unfold write
  induction l with
  | nil => rfl
  | cons p l ih =>
    obtain ⟨first, others⟩ := List.forall_mem_cons.mp printable
    have piece (tail : List Char) : withoutControls false (p.write true ++ tail) =
        p.write false ++ withoutControls false tail :=
      Piece.withoutControls_wrap p.styles first.no_escape tail
    simp only [List.flatMap_cons, List.append_assoc] at ih ⊢
    rw [piece, ih others]

/-- Without its control sequences a coloured report is the plain one. -/
theorem Report.uncoloured_write {r : Report} (printable : r.Printable) :
    uncoloured (r.write true) = r.write false := by
  rw [uncoloured, write, write, String.toList_ofList]
  congr 1
  induction r with
  | nil => rfl
  | cons l r ih =>
    obtain ⟨first, others⟩ := List.forall_mem_cons.mp printable
    rw [List.flatMap_cons, Line.withoutControls_write first, ih others, List.flatMap_cons]

theorem Report.no_escape {r : Report} (printable : r.Printable) : '\x1b' ∉ (r.write false).toList := by
  intro member
  rw [write, String.toList_ofList] at member
  obtain ⟨l, line, member⟩ := List.mem_flatMap.mp member
  rcases List.mem_append.mp member with inside | feed
  · obtain ⟨p, piece, member⟩ := List.mem_flatMap.mp inside
    exact (printable l line p piece).no_escape member
  · simp at feed

/-! ## Queries -/

theorem printable_padRight (width : Nat) {s : String} (h : Text.Printable s.toList) :
    Text.Printable (padRight width s).toList := by
  rw [padRight, String.toList_append, String.toList_ofList]
  exact Text.printable_append.mpr ⟨h, Text.printable_spaces _⟩

theorem Predicate.printable_sql {p : Predicate} (named : p.reading.Named) :
    Text.Printable p.sql.toList := by
  have opening : Text.Printable "(".toList := Text.printable_of_visible rfl
  have closing : Text.Printable ")".toList := Text.printable_of_visible rfl
  induction p with
  | notNull column =>
    exact Text.printable_text_append.mpr ⟨Text.printable_name named, Text.printable_of_visible rfl⟩
  | compare column k placeholder folded =>
    have column : Text.Printable column.toList := Text.printable_name named.1
    have comparison : Text.Printable k.sql.toList := by
      cases k <;> exact Text.printable_of_visible rfl
    have mark : Text.Printable ":".toList := Text.printable_of_visible rfl
    have call : Text.Printable "LOWER(".toList := Text.printable_of_visible rfl
    have value := Text.printable_name named.2
    cases folded with
    | false =>
      simp only [sql, Bool.false_eq_true, if_false, Text.printable_text_append, column, Text.printable_space,
        comparison, mark, value, and_self]
    | true =>
      simp only [sql, if_true, lower, Text.printable_text_append, column, Text.printable_space, comparison,
        mark, call, value, closing, and_self]
  | join c left right ihl ihr =>
    simp only [sql, Text.printable_text_append, opening, ihl named.1, Text.printable_space,
      Text.printable_name c.upper_isName, ihr named.2, closing, and_self]

theorem Order.printable_sql {o : Order} (named : Text.isName o.column = true) :
    Text.Printable o.sql.toList := by
  have lead : Text.Printable "ORDER BY ".toList := Text.printable_of_visible rfl
  have column : Text.Printable o.column.toList := Text.printable_name named
  have direction : Text.Printable o.direction.sql.toList := by
    cases o.direction <;> exact Text.printable_of_visible rfl
  simp only [sql, Text.printable_text_append, lead, column, Text.printable_space, direction, and_self]

namespace Query

theorem printable_sql {q : Query} (named : q.Named) : Text.Printable q.sql.toList := by
  obtain ⟨p?, o?, b⟩ := q
  cases p? with
  | none =>
    cases o? with
    | none => exact Text.printable_nil
    | some o => exact Order.printable_sql (named.order o rfl)
  | some p =>
    have first := Predicate.printable_sql (named.predicate p rfl)
    cases o? with
    | none => exact first
    | some o =>
      have second := Order.printable_sql (named.order o rfl)
      simp only [sql, Order.clause, Text.printable_text_append, first, Text.printable_space, second, and_self]

theorem printable_typeName (value : Parameter) : Text.Printable value.typeName.toList := by
  cases value with
  | number n =>
    cases n <;> dsimp only [Parameter.typeName] <;> exact Text.printable_of_visible rfl
  | _ =>
    dsimp only [Parameter.typeName]
    exact Text.printable_of_visible rfl

theorem printable_row {name : String} (named : Text.isName name = true) (value : Parameter) :
    (row name value).Printable := by
  have kind := printable_padRight 10 (printable_typeName value)
  refine List.forall_mem_cons.mpr ⟨printable_padRight 12 (Text.printable_name named), ?_⟩
  refine List.forall_mem_singleton.mpr ?_
  simp only [Piece.plain, Text.printable_text_append, Text.printable_space, kind, value.printable_shown,
    and_self]

theorem printable_parameterTable {b : Bindings} (named : ∀ name ∈ b.names, Text.isName name = true) :
    (parameterTable b).Printable := by
  unfold parameterTable
  split
  · exact List.forall_mem_nil _
  · refine List.forall_mem_cons.mpr ⟨List.forall_mem_nil _, List.forall_mem_cons.mpr ⟨?_, ?_⟩⟩
    · exact Line.printable_styled (Text.printable_of_visible (by decide)) _
    · intro l member
      obtain ⟨⟨name, value⟩, entry, rfl⟩ := List.mem_map.mp member
      exact printable_row (named name (List.mem_map_of_mem entry)) value

/-- A query with proper names is reported in printable text. -/
theorem printable_report {q : Query} (named : q.Named) : q.report.Printable := by
  have sql : Text.Printable q.sqlShown.toList := by
    unfold sqlShown
    split
    · exact Text.printable_of_visible rfl
    · exact printable_sql named
  exact List.forall_mem_cons.mpr
    ⟨Line.printable_styled sql _, printable_parameterTable named.bindings⟩

end Query

/-! ## Tokens and filters -/

namespace Token

theorem printable_bare {t : Token} (lexable : t.Lexable) : Text.Printable t.bare.toList := by
  cases t with
  | identifier name => exact Text.printable_name lexable.1
  | operator op => exact Text.printable_name op.keyword_isName
  | literal value => exact value.printable_shown
  | connective c => cases c <;> exact Text.printable_of_visible rfl
  | opening => exact Text.printable_of_visible rfl
  | closing => exact Text.printable_of_visible rfl

theorem printable_kindName (t : Token) : Text.Printable t.kindName.toList := by
  cases t with
  | literal value => cases value <;> dsimp only [kindName] <;> exact Text.printable_of_visible rfl
  | _ =>
    dsimp only [kindName]
    exact Text.printable_of_visible rfl

theorem printable_row {t : Placed Token} (lexable : t.value.Lexable) : (row t).Printable := by
  have place := printable_padRight 5 (Text.printable_of_visible (Number.visible_integerText t.position))
  have bare := printable_bare lexable
  refine List.forall_mem_cons.mpr ⟨?_, List.forall_mem_cons.mpr ⟨?_, List.forall_mem_singleton.mpr ?_⟩⟩
  · simp only [Piece.plain, Text.printable_text_append, place, Text.printable_space, and_self]
  · exact printable_padRight 11 t.value.printable_kindName
  · simp only [Piece.plain, Text.printable_text_append, Text.printable_space, bare, and_self]

theorem printable_report {tokens : List (Placed Token)} (lexable : ∀ t ∈ tokens, t.value.Lexable) :
    (report tokens).Printable := by
  unfold report
  split
  · exact List.forall_mem_singleton.mpr (List.forall_mem_singleton.mpr (Text.printable_of_visible (by decide)))
  · refine List.forall_mem_cons.mpr ⟨?_, ?_⟩
    · exact Line.printable_styled (Text.printable_of_visible (by decide)) _
    · intro l member
      obtain ⟨t, found, rfl⟩ := List.mem_map.mp member
      exact printable_row (lexable t found)

end Token

namespace Filter

theorem printable_indent (depth : Nat) {text : String} (h : Text.Printable text.toList) :
    Text.Printable (indent depth ++ text).toList := by
  rw [String.toList_append, indent, String.toList_ofList]
  exact Text.printable_append.mpr ⟨Text.printable_spaces _, h⟩

theorem printable_outlineFrom {f : Filter} (wf : f.WellFormed) (depth : Nat) :
    (f.outlineFrom depth).Printable := by
  induction f generalizing depth with
  | present path =>
    refine List.forall_mem_singleton.mpr (List.forall_mem_singleton.mpr ?_)
    simpa only [Piece.plain, label, String.append_assoc] using printable_indent depth (printable_label wf)
  | compare path op value =>
    refine List.forall_mem_singleton.mpr (List.forall_mem_singleton.mpr ?_)
    simpa only [Piece.plain, label, String.append_assoc] using printable_indent depth (printable_label wf)
  | join c left right ihl ihr =>
    have parts := List.forall_mem_append.mpr ⟨ihl wf.1 (depth + 1), ihr wf.2 (depth + 1)⟩
    refine List.forall_mem_cons.mpr ⟨?_, parts⟩
    have lead : Text.Printable (indent depth ++ "").toList := printable_indent depth Text.printable_nil
    rw [String.append_empty] at lead
    exact List.forall_mem_cons.mpr ⟨lead, List.forall_mem_singleton.mpr (printable_label wf)⟩

end Filter

/-- A report in colours is the plain report with control sequences added, and the plain one has no escape
character. This is so of every query, whatever its filter compares with, of the tokens of every text, and of
every filter that is read. -/
theorem colours_only_add_controls :
    (∀ (c : Converter) filter key direction q, c.convert filter key direction = .ok q →
      uncoloured (q.report.write true) = q.report.write false ∧ '\x1b' ∉ (q.report.write false).toList) ∧
    (∀ s, let r := Token.report (Tokens.ofText s).tokens
      uncoloured (r.write true) = r.write false ∧ '\x1b' ∉ (r.write false).toList) ∧
    ∀ p s f, Filter.ofText p s = .ok f →
      uncoloured (f.outline.write true) = f.outline.write false ∧
      '\x1b' ∉ (f.outline.write false).toList := by
  have both {r : Report} (printable : r.Printable) :
      uncoloured (r.write true) = r.write false ∧ '\x1b' ∉ (r.write false).toList :=
    ⟨Report.uncoloured_write printable, Report.no_escape printable⟩
  refine ⟨?_, ?_, ?_⟩
  · intro c filter key direction q converted
    exact both (Query.printable_report (Converter.named_of_convert converted))
  · intro s
    exact both (Token.printable_report fun t => Tokens.lexable)
  · intro p s f read
    exact both (Filter.printable_outlineFrom (Filter.wellFormed_of_ofText read).1 0)

theorem colours_only_add_controls_quoted :
    let c : Converter := ⟨id, {}⟩
    let s := "a eq \"\x1b[31mred\""
    ∃ q f, c.convert (some s) none .ascending = .ok q ∧ Filter.ofText .leftToRight s = .ok f ∧
      '\x1b' ∈ s.toList ∧
      (uncoloured (q.report.write true) = q.report.write false ∧ '\x1b' ∉ (q.report.write false).toList) ∧
      uncoloured (f.outline.write true) = f.outline.write false ∧
      '\x1b' ∉ (f.outline.write false).toList := by
  intro c s
  let q : Query := ⟨some (.compare "a" .equal "__value_0" true), none,
    ⟨[("__value_0", .text "\x1b[31mred")]⟩⟩
  let f : Filter := .compare "a" .equal (.text "\x1b[31mred")
  have converted : c.convert (some s) none .ascending = .ok q := by decide +kernel
  have read : Filter.ofText .leftToRight s = .ok f := by decide +kernel
  obtain ⟨queries, -, filters⟩ := colours_only_add_controls
  exact ⟨q, f, converted, read, by decide, queries _ _ _ _ _ converted, filters _ _ _ read⟩

end FilterSql
