import FilterSql.Proofs.FilterTokens
import FilterSql.Proofs.ShownValues
import FilterSql.Report.Outline

/-!
Outlines of filters. Every node of a filter has a line of its own, whatever texts the filter compares with,
since quoted text cannot end a line. The lines say which nodes are tests and which join others, so an outline
determines its filter, as long as no decimal is in it.
-/

namespace FilterSql

theorem Operator.keyword_isName (op : Operator) : Text.isName op.keyword = true := by
  cases op <;> rfl

theorem Connective.upper_isName (c : Connective) : Text.isName c.upper = true := by
  cases c <;> rfl

theorem Connective.upper_injective {c d : Connective} (h : c.upper = d.upper) : c = d := by
  revert h
  cases c <;> cases d <;> decide

namespace Filter

/-! ## Nodes and their lines -/

/-- What the outline says of a filter before it comes to the parts. -/
def label : Filter → String
  | present path => path ++ " pr"
  | compare path op value => path ++ " " ++ op.keyword ++ " " ++ value.shown
  | join c _ _ => c.upper

/-- The filter and the filters within it, each before its own parts, with the levels at which they stand. -/
def nodes (depth : Nat) : Filter → List (Nat × Filter)
  | join c left right =>
    (depth, join c left right) :: (left.nodes (depth + 1) ++ right.nodes (depth + 1))
  | f => [(depth, f)]

/-- The line of a node: two spaces for each level before its label. -/
def nodeLine (node : Nat × Filter) : List Char :=
  List.replicate (2 * node.1) ' ' ++ node.2.label.toList

theorem length_nodes (f : Filter) (depth : Nat) : (f.nodes depth).length = 2 * f.joins + 1 := by
  induction f generalizing depth with
  | present path => rfl
  | compare path op value => rfl
  | join c left right ihl ihr =>
    simp only [nodes, joins, List.length_cons, List.length_append, ihl, ihr]
    omega

theorem wellFormed_nodes {f : Filter} (wf : f.WellFormed) (depth : Nat) :
    ∀ n ∈ f.nodes depth, n.2.WellFormed := by
  induction f generalizing depth with
  | present path => exact List.forall_mem_singleton.mpr wf
  | compare path op value => exact List.forall_mem_singleton.mpr wf
  | join c left right ihl ihr =>
    exact List.forall_mem_cons.mpr
      ⟨wf, List.forall_mem_append.mpr ⟨ihl wf.1 (depth + 1), ihr wf.2 (depth + 1)⟩⟩

/-- The plain outline has a line for every node, and nothing else. -/
theorem write_outlineFrom (f : Filter) (depth : Nat) :
    (f.outlineFrom depth).flatMap (Line.write false) =
      (f.nodes depth).flatMap fun n => nodeLine n ++ ['\n'] := by
  have plain (l : Line) : l.write false = l.flatMap (fun p => p.text.toList) ++ ['\n'] := rfl
  induction f generalizing depth with
  | present path => simp [outlineFrom, nodes, nodeLine, label, plain, Line.plain, Piece.plain, indent]
  | compare path op value =>
    simp [outlineFrom, nodes, nodeLine, label, plain, Line.plain, Piece.plain, indent]
  | join c left right ihl ihr =>
    simp [outlineFrom, nodes, nodeLine, label, plain, Piece.plain, indent, ihl, ihr]

theorem printable_label {f : Filter} (wf : f.WellFormed) : Text.Printable f.label.toList := by
  cases f with
  | present path =>
    exact Text.printable_text_append.mpr ⟨Text.printable_name wf.1, Text.printable_of_visible rfl⟩
  | compare path op value =>
    have path : Text.Printable path.toList := Text.printable_name wf.1.1
    have operator := Text.printable_name op.keyword_isName
    simp only [label, Text.printable_text_append, path, Text.printable_space, operator, value.printable_shown,
      and_self]
  | join c left right => exact Text.printable_name c.upper_isName

theorem printable_nodeLine {depth : Nat} {f : Filter} (wf : f.WellFormed) :
    Text.Printable (nodeLine (depth, f)) :=
  Text.printable_append.mpr ⟨Text.printable_spaces _, printable_label wf⟩

/-- Cutting the outline at its line feeds gives the lines of the nodes, and nothing behind the last one. -/
theorem splitOn_outline {f : Filter} (wf : f.WellFormed) :
    (f.outline.write false).toList.splitOn '\n' = (f.nodes 0).map nodeLine ++ [[]] := by
  have cut (ns : List (Nat × Filter)) (single : ∀ n ∈ ns, '\n' ∉ nodeLine n) :
      (ns.flatMap fun n => nodeLine n ++ ['\n']).splitOn '\n' = ns.map nodeLine ++ [[]] := by
    induction ns with
    | nil => rfl
    | cons n ns ih =>
      obtain ⟨first, others⟩ := List.forall_mem_cons.mp single
      rw [List.flatMap_cons, List.append_assoc, List.singleton_append,
        List.splitOn_append_cons_self_of_not_mem first, ih others]
      rfl
  rw [Report.write, String.toList_ofList, outline, write_outlineFrom]
  apply cut
  intro n member feed
  exact Text.ne_of_isPlain (by decide) (printable_nodeLine (wellFormed_nodes wf 0 n member) _ feed) rfl

/-! ## Nodes that look alike -/

/-- The word that a label starts with. -/
def lead : Filter → String
  | present path | compare path _ _ => path
  | join c _ _ => c.upper

/-- What a label says behind its first word. -/
def remark : Filter → List Char
  | present _ => ' ' :: "pr".toList
  | compare _ op value => ' ' :: (op.keyword.toList ++ ' ' :: value.shown.toList)
  | join _ _ _ => []

theorem label_toList (f : Filter) : f.label.toList = f.lead.toList ++ f.remark := by
  cases f <;> simp [label, lead, remark]

theorem lead_isName {f : Filter} (wf : f.WellFormed) : Text.isName f.lead = true := by
  cases f with
  | present path => exact wf.1
  | compare path op value => exact wf.1.1
  | join c left right => exact c.upper_isName

theorem ends_remark (f : Filter) : Ends f.remark := by
  cases f with
  | present path => exact ends_cons rfl _
  | compare path op value => exact ends_cons rfl _
  | join c left right => exact ends_nil

/-- No decimal among the values that the filter compares with. -/
def DecimalFree (f : Filter) : Prop :=
  ∀ x ∈ f.comparisons, x.2.2.isDecimal = false

instance (f : Filter) : Decidable f.DecimalFree :=
  inferInstanceAs (Decidable (∀ x ∈ f.comparisons, x.2.2.isDecimal = false))

/-- Two nodes with one label are the same test, or join their parts in the same way. -/
theorem label_unique {f g : Filter} (wf : f.WellFormed) (wg : g.WellFormed) (whole : f.DecimalFree)
    (whole' : g.DecimalFree) (h : f.label = g.label) :
    f = g ∨ ∃ c left right left' right', f = join c left right ∧ g = join c left' right' := by
  have texts := congrArg String.toList h
  rw [label_toList, label_toList] at texts
  obtain ⟨leads, remarks⟩ := name_unique (lead_isName wf) (lead_isName wg) f.ends_remark g.ends_remark texts
  -- A test without a value would have to go on as one with a value does.
  have unvalued {op : Operator} {rest : List Char} : "pr".toList ≠ op.keyword.toList ++ ' ' :: rest := by
    intro same
    obtain ⟨-, rests⟩ := name_unique (r := []) (Operator.keyword_isName .present) op.keyword_isName ends_nil
      (ends_cons rfl rest) (by rwa [List.append_nil])
    cases rests
  cases f with
  | present path =>
    cases g with
    | present path' => exact .inl (congrArg present leads)
    | compare path' op' value' => exact absurd (List.cons.inj remarks).2 unvalued
    | join c' left' right' => cases remarks
  | compare path op value =>
    cases g with
    | present path' => exact absurd (List.cons.inj remarks).2.symm unvalued
    | compare path' op' value' =>
      obtain ⟨keywords, values⟩ := name_unique op.keyword_isName op'.keyword_isName (ends_cons rfl _)
        (ends_cons rfl _) (List.cons.inj remarks).2
      have operators : Token.operator op = .operator op' := by
        rw [← Token.ofWord_keyword, keywords, Token.ofWord_keyword]
      have shown := String.toList_inj.mp (List.cons.inj values).2
      have literals := Literal.shown_injective wf.2.2 wg.2.2 (whole _ (List.mem_singleton_self _))
        (whole' _ (List.mem_singleton_self _)) shown
      have paths : path = path' := leads
      rw [paths, Token.operator.inj operators, literals]
      exact .inl rfl
    | join c' left' right' => cases remarks
  | join c left right =>
    cases g with
    | present path' => cases remarks
    | compare path' op' value' => cases remarks
    | join c' left' right' =>
      exact .inr ⟨c, left, right, left', right', rfl, by rw [Connective.upper_injective leads]⟩

theorem nodes_cons (f : Filter) (depth : Nat) : ∃ below, f.nodes depth = (depth, f) :: below := by
  cases f <;> exact ⟨_, rfl⟩

theorem label_of_lines {f g : Filter} {depth : Nat} {rest rest' : List (List Char)}
    (h : (f.nodes depth).map nodeLine ++ rest = (g.nodes depth).map nodeLine ++ rest') : f.label = g.label := by
  obtain ⟨_, shape⟩ := f.nodes_cons depth
  obtain ⟨_, shape'⟩ := g.nodes_cons depth
  rw [shape, shape'] at h
  exact String.toList_inj.mp (List.append_cancel_left (List.cons.inj h).1)

theorem decimalFree_join {c : Connective} {left right : Filter} :
    (join c left right).DecimalFree ↔ left.DecimalFree ∧ right.DecimalFree :=
  List.forall_mem_append

/-- The lines of a filter are not the beginning of those of any other one. -/
theorem lines_unique {f g : Filter} (wf : f.WellFormed) (wg : g.WellFormed) (whole : f.DecimalFree)
    (whole' : g.DecimalFree) {depth : Nat} {rest rest' : List (List Char)}
    (h : (f.nodes depth).map nodeLine ++ rest = (g.nodes depth).map nodeLine ++ rest') :
    f = g ∧ rest = rest' := by
  induction f generalizing g depth rest rest' with
  | present path =>
    obtain rfl | ⟨_, _, _, _, _, ⟨⟩, -⟩ := label_unique wf wg whole whole' (label_of_lines h)
    exact ⟨rfl, List.append_cancel_left h⟩
  | compare path op value =>
    obtain rfl | ⟨_, _, _, _, _, ⟨⟩, -⟩ := label_unique wf wg whole whole' (label_of_lines h)
    exact ⟨rfl, List.append_cancel_left h⟩
  | join c left right ihl ihr =>
    obtain rfl | ⟨_, _, _, left', right', ⟨⟩, rfl⟩ := label_unique wf wg whole whole' (label_of_lines h)
    · exact ⟨rfl, List.append_cancel_left h⟩
    · simp only [nodes, List.map_cons, List.map_append, List.cons_append, List.append_assoc] at h
      rw [decimalFree_join] at whole whole'
      obtain ⟨rfl, below⟩ := ihl wf.1 wg.1 whole.1 whole'.1 (List.cons.inj h).2
      obtain ⟨rfl, after⟩ := ihr wf.2 wg.2 whole.2 whole'.2 below
      exact ⟨rfl, after⟩

/-- A line is indented by its level and no further. -/
theorem takeWhile_nodeLine {depth : Nat} {f : Filter} (wf : f.WellFormed) :
    (nodeLine (depth, f)).takeWhile (· == ' ') = List.replicate (2 * depth) ' ' := by
  have spaces : ∀ c ∈ List.replicate (2 * depth) ' ', (c == ' ') = true := by
    intro c member
    rw [List.eq_of_mem_replicate member]
    rfl
  have starts : ∀ c ∈ f.label.toList.head?, (c == ' ') = false := by
    obtain ⟨first, others, shape, names⟩ := name_chars (lead_isName wf)
    intro c head
    rw [label_toList, shape] at head
    cases head
    have name := names first (by simp [shape])
    apply beq_false_of_ne
    rintro rfl
    cases name
  exact (span_append spaces starts).1

/-- Filters that hold no decimal have the same outline only if they are the same, whatever texts they were read
from. The outline of a filter has one line for each of its nodes, which are two for every connective and one
more, each before its parts and indented by two spaces for each level. -/
theorem outline_determines_filter {p p' : Precedence} {s s' : String} {f g : Filter}
    (read : Filter.ofText p s = .ok f) (read' : Filter.ofText p' s' = .ok g) :
    (f.DecimalFree → g.DecimalFree → f.outline.write false = g.outline.write false → f = g) ∧
    (f.outline.write false).toList.splitOn '\n' = (f.nodes 0).map nodeLine ++ [[]] ∧
    (f.nodes 0).length = 2 * f.joins + 1 ∧
    ∀ n ∈ f.nodes 0, (nodeLine n).takeWhile (· == ' ') = List.replicate (2 * n.1) ' ' := by
  have wf := (wellFormed_of_ofText read).1
  have wg := (wellFormed_of_ofText read').1
  refine ⟨?_, splitOn_outline wf, f.length_nodes 0, ?_⟩
  · intro whole whole' same
    have lines := splitOn_outline wf
    rw [same, splitOn_outline wg] at lines
    exact (lines_unique wg wf whole' whole lines).1.symm
  · intro n member
    exact takeWhile_nodeLine (wellFormed_nodes wf 0 n member)

theorem outline_determines_filter_forged :
    let quoted := "a eq \"x\\\"\n    b pr\" or d pr"
    let real := "(a eq \"x\" or b pr) or d pr"
    ∃ f g, Filter.ofText .andBindsTighter quoted = .ok f ∧ Filter.ofText .leftToRight real = .ok g ∧
      f.outline.write false ≠ g.outline.write false ∧
      (f.outline.write false).toList.splitOn '\n' = (f.nodes 0).map nodeLine ++ [[]] ∧
      (f.nodes 0).length = 3 := by
  intro quoted real
  let f : Filter := .join .or (.compare "a" .equal (.text "x\"\n    b pr")) (.present "d")
  let g : Filter := .join .or (.join .or (.compare "a" .equal (.text "x")) (.present "b")) (.present "d")
  have read : Filter.ofText .andBindsTighter quoted = .ok f := by decide +kernel
  have read' : Filter.ofText .leftToRight real = .ok g := by decide +kernel
  have different : f ≠ g := by decide
  obtain ⟨determined, lines, count, -⟩ := outline_determines_filter read read'
  exact ⟨f, g, read, read', fun same => different (determined (by decide) (by decide) same), lines, count⟩

end Filter

end FilterSql
