import FilterSql.Proofs.Converted
import FilterSql.Proofs.RenderedText

/-!
The text of a whole query as a grammar reads it: a predicate, an order clause, both, or neither. Which
columns it has does not depend on how it is read.
-/

namespace FilterSql

def Reading.columns : Reading → List String
  | notNull column => [column]
  | compare column _ _ _ => [column]
  | join _ left right => left.columns ++ right.columns

/-- The text of a predicate, with its columns. -/
inductive PredicateText : String → List String → Prop
  | read {text : String} {tree : Reading} :
      Reads .disjunction text tree → PredicateText text tree.columns

/-- The text of an order clause, with its column. -/
inductive OrderText : String → List String → Prop
  | ascending {column : String} (named : Text.isName column = true) :
      OrderText ("ORDER BY " ++ column ++ " ASC") [column]
  | descending {column : String} (named : Text.isName column = true) :
      OrderText ("ORDER BY " ++ column ++ " DESC") [column]

/-- What follows the predicate of a query, with the columns in it. -/
inductive ClauseText : String → List String → Prop
  | nothing : ClauseText "" []
  | order {clause : String} {columns : List String} :
      OrderText clause columns → ClauseText (" " ++ clause) columns

/-- The text of a query, with the columns of its predicate and then that of its order clause. -/
inductive QueryText : String → List String → Prop
  | nothing : QueryText "" []
  | order {clause : String} {columns : List String} :
      OrderText clause columns → QueryText clause columns
  | predicate {text clause : String} {columns more : List String} :
      PredicateText text columns → ClauseText clause more →
      QueryText (text ++ clause) (columns ++ more)

/-! ## Order clauses -/

/-- An order clause is the words for it, a name, and something after a blank. -/
theorem OrderText.shape {clause : String} {columns : List String} (h : OrderText clause columns) :
    ∃ column tail, Text.isName column = true ∧ columns = [column] ∧
      clause.toList = "ORDER".toList ++ ' ' :: ("BY ".toList ++ (column.toList ++ ' ' :: tail)) := by
  cases h with
  | @ascending column named => exact ⟨column, "ASC".toList, named, rfl, by simp⟩
  | @descending column named => exact ⟨column, "DESC".toList, named, rfl, by simp⟩

theorem OrderText.unique {clause : String} {columns columns' : List String}
    (h : OrderText clause columns) (h' : OrderText clause columns') : columns = columns' := by
  obtain ⟨column, tail, named, rfl, shape⟩ := h.shape
  obtain ⟨column', tail', named', rfl, shape'⟩ := h'.shape
  have blank (rest : List Char) : Ends (' ' :: rest) := ends_cons (by decide) rest
  rw [shape] at shape'
  have after := List.append_cancel_left (List.cons.inj (List.append_cancel_left shape')).2
  rw [(name_unique named named' (blank _) (blank _) after).1]

theorem OrderText.not_nil {clause : String} {columns : List String} (h : OrderText clause columns) :
    clause.toList ≠ [] := by
  obtain ⟨column, tail, -, -, shape⟩ := h.shape
  rw [shape]
  exact List.cons_ne_nil _ _

/-- No test and no group begins as an order clause does: after its first word comes `BY`, and no test
goes on like that. -/
theorem OrderText.not_atom {clause text : String} {columns : List String} {tree : Reading}
    (h : OrderText clause columns) (reads : Reads .atom text tree) (s : List Char) :
    clause.toList ≠ text.toList ++ s := by
  obtain ⟨column, tail, -, -, shape⟩ := h.shape
  rw [shape]
  intro same
  have blank (rest : List Char) : Ends (' ' :: rest) := ends_cons (by decide) rest
  have opened (rest : List Char) : Ends ('(' :: rest) := ends_cons (by decide) rest
  have order : Text.isName "ORDER" = true := by decide
  cases reads with
  | test test =>
    cases test with
    | notNull named =>
      rw [notNull_toList] at same
      obtain ⟨-, rest⟩ := name_unique order named (blank _) (blank _) same
      simp at rest
    | compare comparison named placed =>
      rw [compare_toList] at same
      obtain ⟨-, rest⟩ := name_unique order named (blank _) (blank _) same
      cases comparison <;> simp [Comparison.sql] at rest
    | folded comparison named placed =>
      rw [folded_toList] at same
      obtain ⟨-, rest⟩ := name_unique order (by decide) (blank _) (opened _) same
      simp at rest
  | group inner =>
    rw [Predicate.group_toList] at same
    simp at same

namespace ClauseText

variable {clause : String} {columns : List String}

theorem ends (h : ClauseText clause columns) : Ends clause.toList := by
  cases h with
  | nothing => exact ends_nil
  | order order =>
    rw [String.toList_append]
    exact ends_cons (by decide) _

/-- What follows a predicate begins with no connective, though `OR` comes close. -/
theorem unjoined (h : ClauseText clause columns) : Unjoined clause.toList := by
  cases h with
  | nothing => exact unjoined_nil
  | order order =>
    obtain ⟨column, tail, -, -, shape⟩ := order.shape
    rw [String.toList_append, shape]
    intro c rest
    cases c <;> simp [Connective.between, Connective.upper]

theorem unique {columns' : List String} (h : ClauseText clause columns)
    (h' : ClauseText clause columns') : columns = columns' := by
  generalize same : clause = text at h'
  cases h with
  | nothing =>
    cases h' with
    | nothing => rfl
    | order order => simp [String.ext_iff] at same
  | order order =>
    cases h' with
    | nothing => simp [String.ext_iff] at same
    | order order' =>
      obtain rfl := (String.append_right_inj _).mp same
      exact order.unique order'

end ClauseText

/-! ## Predicates -/

/-- A text that reads begins with an atom. -/
theorem Reads.begins {extent : Extent} {text : String} {tree : Reading}
    (h : Reads extent text tree) : ∃ first t rest, Reads .atom first t ∧ text = first ++ rest := by
  cases h.pieces with
  | one first => exact ⟨_, _, "", first, (String.append_empty).symm⟩
  | two c first second => exact ⟨_, _, _, first, rfl⟩
  | more c d first second => exact ⟨_, _, _, first, rfl⟩

theorem PredicateText.not_order {text clause : String} {columns more : List String}
    (h : PredicateText text columns) (order : OrderText clause more) (s : List Char) :
    clause.toList ≠ text.toList ++ s := by
  cases h with
  | read reads =>
    obtain ⟨first, t, rest, atom, rfl⟩ := reads.begins
    rw [String.toList_append, List.append_assoc]
    exact order.not_atom atom _

theorem PredicateText.not_nil {text : String} {columns : List String} (h : PredicateText text columns)
    (s : List Char) : text.toList ++ s ≠ [] := by
  cases h with
  | read reads =>
    obtain ⟨first, t, rest, atom, rfl⟩ := reads.begins
    cases atom with
    | test test =>
      obtain ⟨word, tail, named, same⟩ := test.starts (rest.toList ++ s)
      obtain ⟨c, cs, shape, -⟩ := name_chars named
      rw [String.toList_append, List.append_assoc, same, shape]
      exact List.cons_ne_nil _ _
    | group inner => simp

/-! ## Queries -/

theorem Predicate.text (p : Predicate) (named : p.reading.Named) :
    PredicateText p.sql p.reading.columns :=
  .read (.disjunct (.conjunct (p.sql_reads named)))

/-- Whatever predicate is read from the front of a text that begins with a predicate's has the columns
of that predicate, unless a connective comes next. -/
theorem Predicate.text_unique (p : Predicate) (named : p.reading.Named) {text : String}
    {columns : List String} {r s : List Char} (h : PredicateText text columns) (hr : Ends r)
    (hs : Ends s) (stop : Unjoined r) (same : p.sql.toList ++ r = text.toList ++ s) :
    columns = p.reading.columns ∧ r = s := by
  cases h with
  | read reads =>
    obtain ⟨rfl, rest⟩ := p.front_unique named reads hr hs stop same
    exact ⟨rfl, rest⟩

theorem Order.text (o : Order) (named : Text.isName o.column = true) :
    OrderText o.sql [o.column] := by
  obtain ⟨column, direction⟩ := o
  cases direction with
  | ascending =>
    have shape : sql ⟨column, .ascending⟩ = "ORDER BY " ++ column ++ " ASC" := by
      simp only [sql, Direction.sql, String.append_assoc]
      rfl
    exact shape ▸ .ascending named
  | descending =>
    have shape : sql ⟨column, .descending⟩ = "ORDER BY " ++ column ++ " DESC" := by
      simp only [sql, Direction.sql, String.append_assoc]
      rfl
    exact shape ▸ .descending named

theorem Order.clause_text (o : Order) (named : Text.isName o.column = true) :
    ClauseText o.clause [o.column] :=
  .order (o.text named)

theorem Predicate.text_iff (p : Predicate) (named : p.reading.Named) (names : List String) :
    PredicateText p.sql names ↔ names = p.reading.columns := by
  constructor
  · intro h
    exact (p.text_unique named h ends_nil ends_nil unjoined_nil rfl).1
  · rintro rfl
    exact p.text named

theorem Order.text_iff (o : Order) (named : Text.isName o.column = true) (names : List String) :
    OrderText o.sql names ↔ names = [o.column] := by
  constructor
  · intro h
    exact h.unique (o.text named)
  · rintro rfl
    exact o.text named

theorem Order.clause_text_iff (o : Order) (named : Text.isName o.column = true)
    (names : List String) : ClauseText o.clause names ↔ names = [o.column] := by
  constructor
  · intro h
    exact h.unique (o.clause_text named)
  · rintro rfl
    exact o.clause_text named

namespace QueryText

variable {names : List String}

theorem columns_nothing (h : QueryText "" names) : names = [] := by
  generalize same : "" = text at h
  replace same := congrArg String.toList same
  cases h with
  | nothing => rfl
  | order order => exact absurd same.symm order.not_nil
  | predicate read rest =>
    rw [String.toList_append] at same
    exact absurd same.symm (read.not_nil _)

theorem columns_order {clause : String} {columns : List String} (h : QueryText clause names)
    (own : OrderText clause columns) : names = columns := by
  cases h with
  | nothing => exact absurd rfl own.not_nil
  | order order => exact order.unique own
  | predicate read rest => exact absurd (String.toList_append ..) (read.not_order own _)

theorem columns_predicate {p : Predicate} {clause : String} {more : List String}
    (h : QueryText (p.sql ++ clause) names) (named : p.reading.Named) (tail : ClauseText clause more) :
    names = p.reading.columns ++ more := by
  generalize same : p.sql ++ clause = text at h
  replace same := congrArg String.toList same
  rw [String.toList_append] at same
  cases h with
  | nothing => exact absurd same ((p.text named).not_nil _)
  | order order => exact absurd same.symm ((p.text named).not_order order _)
  | predicate read rest =>
    rw [String.toList_append] at same
    obtain ⟨rfl, left⟩ := p.text_unique named read tail.ends rest.ends tail.unjoined same
    obtain rfl := String.toList_inj.mp left
    rw [rest.unique tail]

end QueryText

namespace Query

/-- The columns of the predicate and then that of the order. -/
def columns (q : Query) : List String :=
  (q.predicate.map fun p => p.reading.columns).getD [] ++ (q.order.map Order.column).toList

/-- Every column has a proper name, and so has every value. -/
structure Named (q : Query) : Prop where
  predicate : ∀ p ∈ q.predicate, p.reading.Named
  order : ∀ o ∈ q.order, Text.isName o.column = true
  bindings : ∀ name ∈ q.bindings.names, Text.isName name = true

variable {q : Query}

/-- After a predicate comes the clause of the order, if there is one. -/
theorem clause_text (named : q.Named) {p : Predicate} (present : q.predicate = some p) :
    ∃ clause, q.sql = p.sql ++ clause ∧ ClauseText clause (q.order.map Order.column).toList := by
  obtain ⟨predicate, order, b⟩ := q
  cases present
  cases order with
  | none => exact ⟨"", String.append_empty.symm, .nothing⟩
  | some o => exact ⟨o.clause, rfl, o.clause_text (named.order o rfl)⟩

theorem text (named : q.Named) : QueryText q.sql q.columns := by
  cases found : q.predicate with
  | some p =>
    obtain ⟨clause, whole, tail⟩ := clause_text named found
    rw [columns, found, whole]
    exact .predicate (p.text (named.predicate p found)) tail
  | none =>
    cases ordered : q.order with
    | some o =>
      rw [columns, sql, found, ordered]
      exact .order (o.text (named.order o ordered))
    | none =>
      rw [columns, sql, found, ordered]
      exact .nothing

/-- The text of a query is read with its columns and, however it is read, with no others. -/
theorem text_iff (named : q.Named) (names : List String) :
    QueryText q.sql names ↔ names = q.columns := by
  constructor
  · intro h
    cases found : q.predicate with
    | some p =>
      obtain ⟨clause, whole, tail⟩ := clause_text named found
      rw [whole] at h
      rw [columns, found]
      exact h.columns_predicate (named.predicate p found) tail
    | none =>
      cases ordered : q.order with
      | some o =>
        rw [sql, found, ordered] at h
        rw [columns, found, ordered]
        exact h.columns_order (o.text (named.order o ordered))
      | none =>
        rw [sql, found, ordered] at h
        rw [columns, found, ordered]
        exact h.columns_nothing
  · rintro rfl
    exact text named

end Query

/-! ## Converting -/

namespace Converter

/-- The values bound for a predicate are numbered. -/
theorem numbered_of_predicate {c : Converter} {filter : Option String}
    {found : Option Predicate × Bindings} (made : c.predicate filter = .ok found) :
    found.2.Numbered := by
  obtain ⟨-, rfl⟩ | ⟨f, p, b, -, -, rendered, rfl⟩ := predicate_ok_iff.mp made
  · exact Bindings.numbered_empty
  · exact (Renderer.renders_of_render rendered).numbered Bindings.numbered_empty

section Converted

variable {c : Converter} {filter key : Option String} {direction : Direction} {q : Query}
  (converted : c.convert filter key direction = .ok q)
include converted

theorem renders_of_convert {p : Predicate} (present : p ∈ q.predicate) :
    ∃ f, Renderer.Renders c.renderer f .empty p q.bindings := by
  obtain ⟨-, absent⟩ | ⟨f, p', b, -, -, rendered, found⟩ :=
    predicate_ok_iff.mp (convert_ok_iff.mp converted).1
  · rw [(Prod.mk.inj absent).1] at present
    cases present
  · obtain ⟨same, rfl⟩ := Prod.mk.inj found
    rw [same] at present
    cases present
    exact ⟨f, Renderer.renders_of_render rendered⟩

theorem resolved_of_convert {o : Order} (present : o ∈ q.order) :
    ∃ path column, c.resolver.resolve path = .ok column ∧ o.column = column.name := by
  obtain ⟨-, absent⟩ | ⟨path, column, -, -, resolved, found⟩ :=
    Order.ofKey_ok_iff.mp (convert_ok_iff.mp converted).2
  · rw [absent] at present
    cases present
  · rw [found] at present
    cases present
    exact ⟨path, column, resolved, rfl⟩

/-- Every query that is made has proper names. -/
theorem named_of_convert : q.Named := by
  refine ⟨?_, ?_, (numbered_of_predicate (convert_ok_iff.mp converted).1).isName⟩
  · intro p present
    obtain ⟨f, renders⟩ := renders_of_convert converted present
    exact renders.named
  · intro o present
    obtain ⟨path, column, resolved, same⟩ := resolved_of_convert converted present
    rw [same]
    exact (resolve_ok resolved).1

end Converted

end Converter

end FilterSql
