import FilterSql.Proofs.LexedTokens
import FilterSql.Proofs.Rendered
import FilterSql.Query
import Mathlib.Data.List.Forall2

/-!
Literals never reach the text of a query. Every stage is compared with a run on the same input with
the contents of its literals and all positions taken out: the two take the same steps.
-/

namespace FilterSql

/-- The same token, or two literals of one kind. -/
inductive Token.Alike : Token → Token → Prop
  | same (t : Token) : Alike t t
  | text (s s' : String) : Alike (.literal (.text s)) (.literal (.text s'))
  | number (n n' : Number) : Alike (.literal (.number n)) (.literal (.number n'))
  | boolean (b b' : Bool) : Alike (.literal (.boolean b)) (.literal (.boolean b'))
  | timestamp (raw raw' : String) (i i' : Instant) :
      Alike (.literal (.timestamp raw i)) (.literal (.timestamp raw' i'))

/-! ## Taking the contents out -/

/-- Only the kind of the literal is left. -/
def Literal.blanked : Literal → Literal
  | text _ => text ""
  | number _ => number (.integer 0)
  | boolean _ => boolean false
  | timestamp _ _ => timestamp "" ⟨⟨0, 0, 0⟩, 0, 0, 0⟩

def Token.blanked : Token → Token
  | literal value => literal value.blanked
  | token => token

def Placed.blanked (t : Placed Token) : Placed Token :=
  ⟨0, t.value.blanked⟩

def Phrase.blanked : Phrase → Phrase
  | present path => present path
  | compare path op value => compare path op value.blanked
  | group inner => group inner.blanked
  | chain before c last => chain before.blanked c last.blanked

def Lead.blanked : Lead → Lead
  | start => start
  | after chain c => after chain.blanked c

def OpenGroup.blanked (g : OpenGroup) : OpenGroup :=
  ⟨0, g.lead.blanked⟩

def Waiting.blanked : Waiting → Waiting
  | term lead => term lead.blanked
  | operator lead path => operator lead.blanked path
  | value lead path op _ => value lead.blanked path op 0
  | connective chain => connective chain.blanked

def Progress.blanked (p : Progress) : Progress :=
  ⟨p.groups.map OpenGroup.blanked, p.connectives, p.waiting.blanked⟩

def Filter.blanked : Filter → Filter
  | present path => present path
  | compare path op value => compare path op value.blanked
  | join c left right => join c left.blanked right.blanked

def FilterError.blanked : FilterError → FilterError
  | empty => empty
  | lexical _ => lexical []
  | unexpectedToken token => unexpectedToken token.blanked
  | unexpectedEnd => unexpectedEnd
  | unclosedGroup _ => unclosedGroup 0
  | unknownOperator word _ => unknownOperator word 0
  | missingValue op _ => missingValue op 0
  | tooDeep _ => tooDeep 0
  | tooManyConnectives _ => tooManyConnectives 0
  | unknownAttribute path => unknownAttribute path
  | invalidColumn path column => invalidColumn path column
  | invalidSortKey key => invalidSortKey key
  | mismatch column value => mismatch column value.blanked
  | unsupported op column => unsupported op column

/-- An outcome with the contents taken out of what it holds. -/
def blankedBy {α β : Type} (f : α → β) : Except FilterError α → Except FilterError β
  | .ok a => .ok (f a)
  | .error e => .error e.blanked

theorem Token.Alike.blanked {t t' : Token} (h : Alike t t') : t.blanked = t'.blanked := by
  cases h <;> rfl

theorem FilterError.blanked_ctorIdx (e : FilterError) : e.blanked.ctorIdx = e.ctorIdx := by
  cases e <;> rfl

theorem blankedBy_bind {α β : Type} {f : α → α} {g : β → β} {next next' : α → Except FilterError β}
    (x : Except FilterError α) (h : ∀ a, next' (f a) = blankedBy g (next a)) :
    (blankedBy f x).bind next' = blankedBy g (x.bind next) := by
  cases x with
  | error e => rfl
  | ok a => exact h a

theorem blankedBy_map {α β : Type} {f : α → α} {g : β → β} {next : α → β}
    (x : Except FilterError α) (h : ∀ a, next (f a) = g (next a)) :
    (blankedBy f x).map next = blankedBy g (x.map next) := by
  cases x with
  | error e => rfl
  | ok a => exact congrArg Except.ok (h a)

/-- Outcomes that look alike without their contents are both errors of one kind or both fine. -/
theorem blankedBy_cases {α β : Type} {f : α → β} {x y : Except FilterError α}
    (h : blankedBy f x = blankedBy f y) :
    (∃ e e', x = .error e ∧ y = .error e' ∧ e.blanked = e'.blanked) ∨
      ∃ a b, x = .ok a ∧ y = .ok b ∧ f a = f b := by
  cases x with
  | error e =>
    cases y with
    | error e' => exact .inl ⟨e, e', rfl, rfl, Except.error.inj h⟩
    | ok b => cases h
  | ok a =>
    cases y with
    | error e' => cases h
    | ok b => exact .inr ⟨a, b, rfl, rfl, Except.ok.inj h⟩

theorem FilterError.ctorIdx_eq {e e' : FilterError} (h : e.blanked = e'.blanked) :
    e.ctorIdx = e'.ctorIdx := by
  rw [← e.blanked_ctorIdx, h, e'.blanked_ctorIdx]

/-! ## Reading -/

theorem Lead.add_blanked (lead : Lead) (term : Phrase) :
    lead.blanked.add term.blanked = (lead.add term).blanked := by
  cases lead <;> rfl

namespace Progress

theorem stepTerm_blanked (p : Progress) (lead : Lead) (t : Placed Token) :
    p.blanked.stepTerm lead.blanked t.blanked = blankedBy Progress.blanked (p.stepTerm lead t) := by
  obtain ⟨position, token⟩ := t
  cases token with
  | opening =>
    by_cases deep : maxDepth ≤ p.groups.length
    · simp [stepTerm, Placed.blanked, Token.blanked, Progress.blanked, deep, blankedBy,
        FilterError.blanked]
    · simp [stepTerm, Placed.blanked, Token.blanked, Progress.blanked, deep, blankedBy,
        OpenGroup.blanked, Waiting.blanked, Lead.blanked]
  | _ => rfl

theorem stepOperator_blanked (p : Progress) (lead : Lead) (path : String) (t : Placed Token) :
    p.blanked.stepOperator lead.blanked path t.blanked =
      blankedBy Progress.blanked (p.stepOperator lead path t) := by
  obtain ⟨position, token⟩ := t
  cases token with
  | operator op =>
    cases op with
    | present =>
      have added := lead.add_blanked (.present path)
      simp only [stepOperator, Placed.blanked, Token.blanked, Progress.blanked, blankedBy,
        Waiting.blanked, ← added]
      rfl
    | _ => rfl
  | _ => rfl

theorem stepValue_blanked (p : Progress) (lead : Lead) (path : String) (op : Operator)
    (position : Nat) (t : Placed Token) :
    p.blanked.stepValue lead.blanked path op 0 t.blanked =
      blankedBy Progress.blanked (p.stepValue lead path op position t) := by
  obtain ⟨_, token⟩ := t
  cases token with
  | literal value =>
    have added := lead.add_blanked (.compare path op value)
    simp only [stepValue, Placed.blanked, Token.blanked, Progress.blanked, blankedBy,
      Waiting.blanked, ← added]
    rfl
  | _ => rfl

theorem stepConnective_blanked (p : Progress) (chain : Phrase) (t : Placed Token) :
    p.blanked.stepConnective chain.blanked t.blanked =
      blankedBy Progress.blanked (p.stepConnective chain t) := by
  obtain ⟨_, token⟩ := t
  obtain ⟨groups, connectives, waiting⟩ := p
  cases token with
  | connective c =>
    by_cases many : maxConnectives ≤ connectives
    · simp [stepConnective, Placed.blanked, Token.blanked, Progress.blanked, many, blankedBy,
        FilterError.blanked]
    · simp [stepConnective, Placed.blanked, Token.blanked, Progress.blanked, many, blankedBy,
        Waiting.blanked, Lead.blanked]
  | closing =>
    cases groups with
    | nil => rfl
    | cons g outer =>
      have added := g.lead.add_blanked (.group chain)
      simp only [stepConnective, Placed.blanked, Token.blanked, Progress.blanked, List.map_cons,
        OpenGroup.blanked, blankedBy, Waiting.blanked, ← added]
      rfl
  | _ => cases groups <;> rfl

theorem step_blanked (p : Progress) (t : Placed Token) :
    p.blanked.step t.blanked = blankedBy Progress.blanked (p.step t) := by
  obtain ⟨groups, connectives, waiting⟩ := p
  cases waiting with
  | term lead => exact stepTerm_blanked _ lead t
  | operator lead path => exact stepOperator_blanked _ lead path t
  | value lead path op position => exact stepValue_blanked _ lead path op position t
  | connective chain => exact stepConnective_blanked _ chain t

theorem run_blanked (ts : List (Placed Token)) (p : Progress) :
    (ts.map Placed.blanked).foldlM step p.blanked =
      blankedBy Progress.blanked (ts.foldlM step p) := by
  induction ts generalizing p with
  | nil => rfl
  | cons t ts ih =>
    rw [List.map_cons, List.foldlM_cons, List.foldlM_cons, step_blanked]
    exact blankedBy_bind (p.step t) ih

theorem finish_blanked (p : Progress) :
    p.blanked.finish = blankedBy Phrase.blanked p.finish := by
  obtain ⟨groups, connectives, waiting⟩ := p
  cases waiting <;> cases groups <;> rfl

end Progress

namespace Phrase

theorem ofTokens_blanked (ts : List (Placed Token)) :
    ofTokens (ts.map Placed.blanked) = blankedBy Phrase.blanked (ofTokens ts) := by
  have run := Progress.run_blanked ts .start
  change (ts.map Placed.blanked).foldlM Progress.step Progress.start = _ at run
  unfold ofTokens
  rw [run]
  exact blankedBy_bind _ Progress.finish_blanked

theorem groupLeftToRight_blanked (p : Phrase) :
    p.blanked.groupLeftToRight = p.groupLeftToRight.blanked := by
  induction p with
  | present path => rfl
  | compare path op value => rfl
  | group inner ih => exact ih
  | chain before c last ihb ihl =>
    simp only [Phrase.blanked, groupLeftToRight, Filter.blanked, ihb, ihl]

theorem alternatives_blanked (p : Phrase) :
    p.blanked.alternatives.before = p.alternatives.before.map Filter.blanked ∧
      p.blanked.alternatives.last = p.alternatives.last.blanked := by
  have whole (a a' : Alternatives) (hb : a'.before = a.before.map Filter.blanked)
      (hl : a'.last = a.last.blanked) : a'.filter = a.filter.blanked := by
    obtain ⟨before, last⟩ := a
    cases before <;> simp_all [Alternatives.filter, Filter.blanked]
  induction p with
  | present path => exact ⟨rfl, rfl⟩
  | compare path op value => exact ⟨rfl, rfl⟩
  | group inner ih => exact ⟨rfl, whole _ _ ih.1 ih.2⟩
  | chain before c last ihb ihl =>
    have lastWhole := whole _ _ ihl.1 ihl.2
    cases c with
    | and =>
      refine ⟨ihb.1, ?_⟩
      simp only [Phrase.blanked, alternatives, Filter.blanked, ihb.2, lastWhole]
    | or =>
      have beforeWhole := whole _ _ ihb.1 ihb.2
      simp only [Phrase.blanked, alternatives, beforeWhole, lastWhole, Option.map_some, and_self]

theorem toFilter_blanked (p : Phrase) (precedence : Precedence) :
    p.blanked.toFilter precedence = (p.toFilter precedence).blanked := by
  cases precedence with
  | leftToRight => exact p.groupLeftToRight_blanked
  | andBindsTighter =>
    obtain ⟨before, last⟩ := p.alternatives_blanked
    simp only [toFilter, Alternatives.filter, before, last]
    cases p.alternatives.before <;> rfl

end Phrase

/-! ## Rendering -/

theorem Literal.isTextual_blanked (value : Literal) :
    value.blanked.isTextual = value.isTextual := by
  cases value <;> rfl

/-- The condition without its value. -/
def Condition.blanked : Condition → Condition
  | notNull column => notNull column
  | compare column k _ folded => compare column k (.boolean false) folded

namespace Renderer

theorem fit?_blanked (kind : ColumnKind) (op : Operator) (value : Literal) :
    (fit? kind op value.blanked).isSome = (fit? kind op value).isSome := by
  cases kind <;> cases value <;> rfl

theorem compare_alike (r : Renderer) (column : Column) (op : Operator) {v v' : Literal}
    (h : v.blanked = v'.blanked) :
    blankedBy Condition.blanked (r.compare column op v) =
      blankedBy Condition.blanked (r.compare column op v') := by
  have textual : v.isTextual = v'.isTextual := by
    rw [← v.isTextual_blanked, h, v'.isTextual_blanked]
  have fits : (fit? column.kind op v).isSome = (fit? column.kind op v').isSome := by
    rw [← fit?_blanked, h, fit?_blanked]
  have folds : r.folds column v = r.folds column v' := by
    simp only [Renderer.folds, textual]
  unfold Renderer.compare
  cases op.comparison? with
  | none => rfl
  | some k =>
    simp only [textual, folds]
    by_cases refused : (op.matchesPart && (column.kind.isTyped || !v'.isTextual)) = true
    · simp only [if_pos refused]
    · simp only [if_neg refused]
      cases first : fit? column.kind op v <;> cases second : fit? column.kind op v' <;>
        simp_all [blankedBy, Condition.blanked, FilterError.blanked]

theorem place_alike {b b' : Bindings} {k l : Condition} (names : b.names = b'.names)
    (h : k.blanked = l.blanked) :
    (place b k).1 = (place b' l).1 ∧ (place b k).2.names = (place b' l).2.names := by
  cases k with
  | notNull column =>
    cases l with
    | notNull column' =>
      obtain rfl := Condition.notNull.inj h
      exact ⟨rfl, names⟩
    | compare column' k' v' folded' => cases h
  | compare column k v folded =>
    cases l with
    | notNull column' => cases h
    | compare column' k' v' folded' =>
      obtain ⟨rfl, rfl, -, rfl⟩ := Condition.compare.inj h
      have size : b.size = b'.size := by rw [← b.length_names, names, b'.length_names]
      simp only [place, Bindings.bind, Bindings.names_push, names, size, and_self]

/-- Two renderings that differ in nothing but bound values and the contents of an error. -/
inductive Agree : Except FilterError Predicate × Bindings →
    Except FilterError Predicate × Bindings → Prop
  | error {e e' : FilterError} {b b' : Bindings} (same : e.blanked = e'.blanked)
      (names : b.names = b'.names) : Agree (.error e, b) (.error e', b')
  | ok {p : Predicate} {b b' : Bindings} (names : b.names = b'.names) : Agree (.ok p, b) (.ok p, b')

theorem renderCondition_alike {x y : Except FilterError Condition} {b b' : Bindings}
    (names : b.names = b'.names) (h : blankedBy Condition.blanked x = blankedBy Condition.blanked y) :
    Agree (renderCondition x b) (renderCondition y b') := by
  cases x with
  | error e =>
    cases y with
    | error e' => exact .error (Except.error.inj h) names
    | ok l => cases h
  | ok k =>
    cases y with
    | error e' => cases h
    | ok l =>
      obtain ⟨same, grown⟩ := place_alike names (Except.ok.inj h)
      simp only [renderCondition, same]
      exact .ok grown

/-- Filters that differ in the contents of their literals only render alike. -/
theorem render_alike (r : Renderer) {f f' : Filter} (h : f.blanked = f'.blanked) {b b' : Bindings}
    (names : b.names = b'.names) : Agree (r.render f b) (r.render f' b') := by
  induction f generalizing f' b b' with
  | present path =>
    cases f' with
    | present path' =>
      obtain rfl := Filter.present.inj h
      exact renderCondition_alike names rfl
    | _ => cases h
  | compare path op value =>
    cases f' with
    | compare path' op' value' =>
      obtain ⟨rfl, rfl, values⟩ := Filter.compare.inj h
      apply renderCondition_alike names
      unfold Renderer.comparison
      cases r.resolver.resolve path with
      | error e => rfl
      | ok column => exact r.compare_alike column op values
    | _ => cases h
  | join c left right ihl ihr =>
    cases f' with
    | join c' left' right' =>
      obtain ⟨rfl, lefts, rights⟩ := Filter.join.inj h
      have agreeLeft := ihl lefts names
      generalize hl : r.render left b = x at agreeLeft
      generalize hl' : r.render left' b' = y at agreeLeft
      cases agreeLeft with
      | error same names =>
        rw [render_join_left_error c hl, render_join_left_error c hl']
        exact .error same names
      | @ok p b₁ b₁' names =>
        have agreeRight := ihr rights names
        generalize hr : r.render right b₁ = x at agreeRight
        generalize hr' : r.render right' b₁' = y at agreeRight
        cases agreeRight with
        | error same names =>
          rw [render_join_right_error c hl hr, render_join_right_error c hl' hr']
          exact .error same names
        | ok names =>
          rw [render_join_ok c hl hr, render_join_ok c hl' hr']
          exact .ok names
    | _ => cases h

end Renderer

/-! ## Converting -/

theorem map_blanked_eq {ts ts' : List (Placed Token)}
    (h : List.Forall₂ (fun t t' => t.value.Alike t'.value) ts ts') :
    ts.map Placed.blanked = ts'.map Placed.blanked := by
  induction h with
  | nil => rfl
  | cons alike _ ih =>
    rw [List.map_cons, List.map_cons, ih, Placed.blanked, alike.blanked, Placed.blanked]

theorem ofText_alike {s s' : String} (clean : (Tokens.ofText s).mistakes = [])
    (clean' : (Tokens.ofText s').mistakes = []) (solid : Text.allBlank s = false)
    (solid' : Text.allBlank s' = false)
    (alike : List.Forall₂ (fun t t' => t.value.Alike t'.value) (Tokens.ofText s).tokens
      (Tokens.ofText s').tokens) (precedence : Precedence) :
    blankedBy Filter.blanked (Filter.ofText precedence s) =
      blankedBy Filter.blanked (Filter.ofText precedence s') := by
  have commutes (p : Phrase) := p.toFilter_blanked precedence
  rw [ofText_of_clean clean solid, ofText_of_clean clean' solid', Filter.ofTokens_eq,
    Filter.ofTokens_eq, ← blankedBy_map _ commutes, ← blankedBy_map _ commutes,
    ← Phrase.ofTokens_blanked, map_blanked_eq alike, Phrase.ofTokens_blanked]

namespace Converter

/-- What shows of a predicate and its values in the text: the predicate and the names of the values. -/
def shown (found : Option Predicate × Bindings) : Option Predicate × List String :=
  (found.1, found.2.names)

theorem predicate_alike (c : Converter) {s s' : String} (clean : (Tokens.ofText s).mistakes = [])
    (clean' : (Tokens.ofText s').mistakes = [])
    (alike : List.Forall₂ (fun t t' => t.value.Alike t'.value) (Tokens.ofText s).tokens
      (Tokens.ofText s').tokens) :
    blankedBy shown (c.predicate (some s)) = blankedBy shown (c.predicate (some s')) := by
  have blanks : Text.allBlank s = Text.allBlank s' := by
    rw [Bool.eq_iff_iff, ← Tokens.tokens_eq_nil_iff clean, ← Tokens.tokens_eq_nil_iff clean']
    have lengths := alike.length_eq
    exact ⟨fun h => by simpa [h] using lengths.symm, fun h => by simpa [h] using lengths⟩
  simp only [Converter.predicate, Option.getD_some]
  cases blank : Text.allBlank s' with
  | true => simp only [blanks, blank, if_pos]
  | false =>
    rw [blank] at blanks
    simp only [blanks, Bool.false_eq_true, if_false]
    obtain ⟨e, e', hs, hs', same⟩ | ⟨f, f', hs, hs', same⟩ :=
      blankedBy_cases (ofText_alike clean clean' blanks blank alike c.options.precedence)
    · rw [hs, hs']
      exact congrArg Except.error same
    · rw [hs, hs']
      have agree := c.renderer.render_alike same (b := .empty) rfl
      simp only [bind, Except.bind]
      generalize c.renderer.render f .empty = x at agree
      generalize c.renderer.render f' .empty = y at agree
      cases agree with
      | error same names => exact congrArg Except.error same
      | ok names => simp only [blankedBy, shown, names]

/-- The contents of literals reach neither the text of a query nor the decision to refuse it. -/
theorem literals_stay_out_of_text (c : Converter) (key : Option String) (direction : Direction)
    (s s' : String) (clean : (Tokens.ofText s).mistakes = [])
    (clean' : (Tokens.ofText s').mistakes = [])
    (alike : List.Forall₂ (fun t t' => t.value.Alike t'.value) (Tokens.ofText s).tokens
      (Tokens.ofText s').tokens) :
    (∃ q q', c.convert (some s) key direction = .ok q ∧ c.convert (some s') key direction = .ok q' ∧
      q.sql = q'.sql ∧ q.bindings.names = q'.bindings.names) ∨
    ∃ e e', c.convert (some s) key direction = .error e ∧
      c.convert (some s') key direction = .error e' ∧ e.ctorIdx = e'.ctorIdx := by
  unfold Converter.convert
  obtain ⟨e, e', hs, hs', same⟩ | ⟨⟨p, b⟩, ⟨p', b'⟩, hs, hs', same⟩ :=
    blankedBy_cases (c.predicate_alike clean clean' alike)
  · rw [hs, hs']
    exact .inr ⟨e, e', rfl, rfl, FilterError.ctorIdx_eq same⟩
  · rw [hs, hs']
    obtain ⟨rfl, names⟩ := Prod.mk.inj same
    cases Order.ofKey c.resolver key direction with
    | error e => exact .inr ⟨e, e, rfl, rfl, rfl⟩
    | ok order => exact .inl ⟨⟨p, order, b⟩, ⟨p, order, b'⟩, rfl, rfl, rfl, names⟩

theorem literals_stay_out_of_text_injection :
    let c : Converter := ⟨id, { precedence := .andBindsTighter }⟩
    let s := "a eq \"x') OR 1=1; --\" and b gt 1"
    let s' := "a eq \"\" and b gt -2.5e3"
    ∃ q q', c.convert (some s) (some "a") .ascending = .ok q ∧
      c.convert (some s') (some "a") .ascending = .ok q' ∧
      q.sql = "(LOWER(a) = LOWER(:__value_0) AND b > :__value_1) ORDER BY a ASC" ∧ q'.sql = q.sql ∧
      q.bindings.names = ["__value_0", "__value_1"] ∧ q'.bindings.names = q.bindings.names ∧
      q.bindings ≠ q'.bindings := by
  intro c s s'
  have tokens : (Tokens.ofText s).tokens =
      [⟨0, .identifier "a"⟩, ⟨2, .operator .equal⟩, ⟨5, .literal (.text "x') OR 1=1; --")⟩,
        ⟨22, .connective .and⟩, ⟨26, .identifier "b"⟩, ⟨28, .operator .greater⟩,
        ⟨31, .literal (.number (.integer 1))⟩] := by decide +kernel
  have tokens' : (Tokens.ofText s').tokens =
      [⟨0, .identifier "a"⟩, ⟨2, .operator .equal⟩, ⟨5, .literal (.text "")⟩,
        ⟨8, .connective .and⟩, ⟨12, .identifier "b"⟩, ⟨14, .operator .greater⟩,
        ⟨17, .literal (.number (.decimal (.ofDecimal true 25 2)))⟩] := by decide +kernel
  have alike : List.Forall₂ (fun t t' => t.value.Alike t'.value) (Tokens.ofText s).tokens
      (Tokens.ofText s').tokens := by
    rw [tokens, tokens']
    exact .cons (.same _) (.cons (.same _) (.cons (.text _ _) (.cons (.same _) (.cons (.same _)
      (.cons (.same _) (.cons (.number _ _) .nil))))))
  have made : (c.convert (some s) (some "a") .ascending).map (fun q => (q.sql, q.bindings.toList)) =
      .ok ("(LOWER(a) = LOWER(:__value_0) AND b > :__value_1) ORDER BY a ASC",
        [("__value_0", .text "x') OR 1=1; --"), ("__value_1", .number (.integer 1))]) := by
    decide +kernel
  have made' : (c.convert (some s') (some "a") .ascending).map (fun q => q.bindings.toList) =
      .ok [("__value_0", .text ""), ("__value_1", .number (.decimal (.ofDecimal true 25 2)))] := by
    decide +kernel
  obtain ⟨q, q', converted, converted', sql, names⟩ | ⟨e, -, failed, -⟩ :=
    literals_stay_out_of_text c (some "a") .ascending s s' (by decide +kernel) (by decide +kernel) alike
  · rw [converted] at made
    rw [converted'] at made'
    obtain ⟨text, entries⟩ := Prod.mk.inj (Except.ok.inj made)
    have entries' := Except.ok.inj made'
    refine ⟨q, q', converted, converted', text, sql.symm, congrArg (List.map Prod.fst) entries,
      names.symm, ?_⟩
    intro same
    rw [same] at entries
    exact absurd (entries'.symm.trans entries) (by decide)
  · rw [failed] at made
    cases made

end Converter

end FilterSql
