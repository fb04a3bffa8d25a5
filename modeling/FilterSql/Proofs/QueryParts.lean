import FilterSql.Proofs.CommandAgreement
import FilterSql.Proofs.RenderedTests
import Mathlib.Data.List.TakeWhile

/-!
A query is made of two halves that know nothing of each other: its filter gives the predicate and the
values, its sort key the order. A half is missing from the text of the query exactly if what was given for
it is absent or blank, and blank means the same to filters, to sort keys and to the lexer.
-/

namespace FilterSql

/-- Two texts, with a space between them if neither is empty. -/
def spaced (a b : String) : String :=
  if a = "" ∨ b = "" then a ++ b else a ++ " " ++ b

/-! ## Blank texts -/

namespace Text

def Blank (s : String) : Prop :=
  ∀ c ∈ s.toList, isBlank c = true

theorem blank_iff_allBlank (s : String) : Blank s ↔ allBlank s = true :=
  List.all_eq_true.symm

theorem trimBlanks_eq_nil_iff (cs : List Char) :
    trimBlanks cs = [] ↔ ∀ c ∈ cs, isBlank c = true := by
  have dropped : trimBlanks cs = [] ↔ ∀ c ∈ cs.dropWhile isBlank, isBlank c = true := by
    simp only [trimBlanks, List.reverse_eq_nil_iff, List.dropWhile_eq_nil_iff, List.mem_reverse]
  rw [dropped]
  constructor
  · intro blank
    rw [← List.takeWhile_append_dropWhile (p := isBlank) (l := cs)]
    refine List.forall_mem_append.mpr ⟨?_, blank⟩
    intro c taken
    exact List.mem_takeWhile_imp taken
  · intro blank c left
    exact blank c ((List.dropWhile_sublist isBlank).subset left)

theorem trim_isEmpty_iff (s : String) : (trim s).isEmpty = true ↔ Blank s := by
  rw [String.isEmpty_iff, trim, String.ofList_eq_empty_iff, trimBlanks_eq_nil_iff]
  rfl

/-- What is absent is as good as an empty text, which is blank. -/
theorem blank_getD_iff (given : Option String) : Blank (given.getD "") ↔ ∀ s ∈ given, Blank s := by
  cases given with
  | none => simp [Blank]
  | some s => simp

end Text

theorem sortKey?_eq_none_iff (key : Option String) :
    sortKey? key = none ↔ ∀ s ∈ key, Text.Blank s := by
  rw [← Text.blank_getD_iff, ← Text.trim_isEmpty_iff]
  simp [sortKey?]

/-- Only a blank text has nothing in it for the lexer. -/
theorem Tokens.nothing_iff_blank (s : String) :
    (ofText s).tokens = [] ∧ (ofText s).mistakes = [] ↔ Text.Blank s := by
  rw [Text.blank_iff_allBlank]
  exact (parts_eq_nil_iff (lexemes 0 s.toList)).trans (lexemes_eq_nil_iff 0 s.toList)

/-! ## Errors -/

theorem Progress.Refuses.ne_empty {p : Progress} {next : Option (Placed Token)} {e : FilterError}
    (h : p.Refuses next e) : e ≠ .empty := by
  cases h <;> simp

/-- Reading calls a filter empty if it is blank, and never otherwise: where there is a token, an error is
about the tokens. -/
theorem Filter.ofText_empty_iff (p : Precedence) (s : String) :
    Filter.ofText p s = .error .empty ↔ Text.Blank s := by
  rw [Text.blank_iff_allBlank]
  constructor
  · intro failed
    cases solid : Text.allBlank s with
    | true => rfl
    | false =>
      by_cases clean : (Tokens.ofText s).mistakes = []
      · rw [ofText_of_clean clean solid, Filter.ofTokens_eq, map_error_iff] at failed
        obtain ⟨_, _, _, _, _, refused⟩ := Progress.exists_refused failed
        exact absurd rfl refused.ne_empty
      · rw [ofText_of_mistakes solid clean] at failed
        cases failed
  · intro blank
    rw [Filter.ofText, Filter.lexed_of_blank blank]
    rfl

theorem Resolver.resolve_stage {r : Resolver} {path : String} {e : FilterError}
    (h : r.resolve path = .error e) : e.stage = .resolution := by
  simp only [resolve] at h
  split at h
  · cases h
    rfl
  split at h
  · cases h
    rfl
  · cases h

theorem Test.Refused.stage {r : Resolver} {t : Test} {e : FilterError} (h : t.Refused r e) :
    e.stage = .resolution ∨ e.stage = .rendering := by
  cases h with
  | present unresolved | compare unresolved => exact .inl (Resolver.resolve_stage unresolved)
  | part | count | instant => exact .inr rfl

theorem Order.ofKey_stage {r : Resolver} {key : Option String} {direction : Direction}
    {e : FilterError} (h : Order.ofKey r key direction = .error e) : e.stage = .resolution := by
  simp only [Order.ofKey] at h
  split at h
  · cases h
  split at h
  · cases h
    rfl
  · exact Resolver.resolve_stage (map_error_iff.mp h)

/-- A rendering fails for the reason for which one of the tests is refused. -/
theorem Renderer.refused_of_render {r : Renderer} {f : Filter} {b b' : Bindings} {e : FilterError}
    (h : r.render f b = (.error e, b')) : ∃ t ∈ f.tests, t.Refused r.resolver e := by
  by_cases passes : ∀ t ∈ f.tests, r.Passes t
  · obtain ⟨p, rendered⟩ := render_all_pass passes b
    rw [h] at rendered
    cases rendered
  · simp only [not_forall, exists_prop] at passes
    obtain ⟨before, t, after, cause, split, passes, refused⟩ := exists_first_refused passes
    rw [render_first_refused split passes refused b] at h
    cases h
    exact ⟨t, by simp [split], condition_error_iff.mp (alone_error_iff.mp refused)⟩

/-! ## Texts of the two halves -/

theorem Predicate.sql_ne_empty (p : Predicate) : p.sql ≠ "" := by
  cases p with
  | compare column comparison index folded => cases folded <;> simp [sql]
  | _ => simp [sql]

theorem Order.sql_ne_empty (o : Order) : o.sql ≠ "" := by
  simp [Order.sql]

theorem Query.sql_spaced (p : Option Predicate) (o : Option Order) (b b' b'' : Bindings) :
    (Query.mk p o b).sql = spaced (Query.mk p none b').sql (Query.mk none o b'').sql := by
  cases p with
  | none => cases o <;> simp [Query.sql, spaced]
  | some p =>
    cases o with
    | none => simp [Query.sql, spaced]
    | some o =>
      simp [Query.sql, spaced, p.sql_ne_empty, o.sql_ne_empty, Order.clause, String.append_assoc]

namespace Converter

/-- The half of a conversion that its filter decides. -/
theorem convert_filter (c : Converter) (filter : Option String) (direction : Direction) :
    c.convert filter none direction =
      (c.predicate filter).map fun found => ⟨found.1, none, found.2⟩ := by
  cases found : c.predicate filter with
  | error e => exact convert_of_error found
  | ok found' => exact convert_of_ok found

/-- The half of a conversion that its sort key decides. -/
theorem convert_key (c : Converter) (key : Option String) (direction : Direction) :
    c.convert none key direction =
      (Order.ofKey c.resolver key direction).map fun order => ⟨none, order, .empty⟩ := by
  have absent : c.predicate none = .ok (none, .empty) := predicate_blank rfl
  rw [convert_of_ok absent]

theorem predicate_ne_empty (c : Converter) (filter : Option String) :
    c.predicate filter ≠ .error .empty := by
  intro failed
  cases blank : Text.allBlank (filter.getD "") with
  | true =>
    rw [predicate_blank blank] at failed
    cases failed
  | false =>
    cases read : Filter.ofText c.options.precedence (filter.getD "") with
    | error e =>
      rw [predicate_of_error blank read] at failed
      cases failed
      rw [Filter.ofText_empty_iff, Text.blank_iff_allBlank, blank] at read
      cases read
    | ok f =>
      cases rendered : c.renderer.render f .empty with
      | mk outcome b =>
        cases outcome with
        | ok p =>
          rw [predicate_of_render_ok blank read rendered] at failed
          cases failed
        | error e =>
          rw [predicate_of_render_error blank read rendered] at failed
          cases failed
          obtain ⟨t, -, refused⟩ := Renderer.refused_of_render rendered
          obtain stage | stage := refused.stage
          · cases stage
          · cases stage

theorem convert_ne_empty (c : Converter) (filter key : Option String) (direction : Direction) :
    c.convert filter key direction ≠ .error .empty := by
  intro failed
  cases found : c.predicate filter with
  | error e =>
    rw [convert_of_error found] at failed
    cases failed
    exact c.predicate_ne_empty filter found
  | ok found' =>
    rw [convert_of_ok found, map_error_iff] at failed
    cases Order.ofKey_stage failed

theorem filter_sql_empty_iff {c : Converter} {filter : Option String} {direction : Direction}
    {q : Query} (h : c.convert filter none direction = .ok q) :
    q.sql = "" ↔ ∀ s ∈ filter, Text.Blank s := by
  rw [← Text.blank_getD_iff, Text.blank_iff_allBlank]
  rw [convert_filter, map_ok_iff] at h
  obtain ⟨found, made, rfl⟩ := h
  obtain ⟨blank, rfl⟩ | ⟨f, p, b, solid, -, -, rfl⟩ := predicate_ok_iff.mp made
  · simp [blank, Query.sql]
  · simp [solid, Query.sql, p.sql_ne_empty]

theorem order_sql_empty_iff {c : Converter} {key : Option String} {direction : Direction}
    {q : Query} (h : c.convert none key direction = .ok q) :
    q.sql = "" ↔ ∀ s ∈ key, Text.Blank s := by
  rw [← sortKey?_eq_none_iff]
  rw [convert_key, map_ok_iff] at h
  obtain ⟨order, made, rfl⟩ := h
  obtain ⟨absent, rfl⟩ | ⟨path, column, found, -, -, rfl⟩ := Order.ofKey_ok_iff.mp made
  · simp [absent, Query.sql]
  · simp [found, Query.sql, Order.sql_ne_empty]

/-- A conversion is put together from one of its filter alone and one of its sort key alone: the error of
the filter goes before that of the sort key, the values are those of the filter, and the texts stand side by
side. Each text is empty exactly if what it was made from is absent or blank. A conversion never takes a
filter for an empty one, and reading does so for the blank ones, which are those without any token or
mistake. -/
theorem convert_from_halves (c : Converter) (filter key : Option String)
    (direction direction' : Direction) :
    (c.convert filter key direction).map (fun q => (q.sql, q.bindings)) =
      ((c.convert filter none direction').bind fun q =>
        (c.convert none key direction).map fun o => (spaced q.sql o.sql, q.bindings)) ∧
    (∀ q, c.convert filter none direction' = .ok q → (q.sql = "" ↔ ∀ s ∈ filter, Text.Blank s)) ∧
    (∀ o, c.convert none key direction = .ok o → (o.sql = "" ↔ ∀ s ∈ key, Text.Blank s)) ∧
    c.convert filter key direction ≠ .error .empty ∧
    (∀ p s, Filter.ofText p s = .error .empty ↔ Text.Blank s) ∧
    ∀ s, (Tokens.ofText s).tokens = [] ∧ (Tokens.ofText s).mistakes = [] ↔ Text.Blank s := by
  refine ⟨?_, fun _ => filter_sql_empty_iff, fun _ => order_sql_empty_iff,
    c.convert_ne_empty filter key direction, Filter.ofText_empty_iff, Tokens.nothing_iff_blank⟩
  rw [convert_filter, convert_key]
  cases found : c.predicate filter with
  | error e =>
    rw [convert_of_error found]
    rfl
  | ok found' =>
    rw [convert_of_ok found]
    cases Order.ofKey c.resolver key direction with
    | error e => rfl
    | ok order =>
      have text := Query.sql_spaced found'.1 order found'.2 found'.2 .empty
      simp only [Except.map, Except.bind, text]

end Converter

end FilterSql
