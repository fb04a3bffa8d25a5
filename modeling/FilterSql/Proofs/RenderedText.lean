import FilterSql.Proofs.PredicateText
import FilterSql.Proofs.Rendered

/-!
Rendered filters read back. The text of a rendered filter reads in one way only, and that reading has
the shape of the filter, with each test's column, comparison and value where the filter has them.
-/

namespace FilterSql

namespace Renderer

/-- The reading has the shape of the filter, and its tests ask what the filter's tests ask. The values
compared with are bound at the places from `n` up to the last index, one after the other. -/
inductive Mirrors (r : Renderer) (b : Bindings) : Nat → Filter → Reading → Nat → Prop
  | present {n : Nat} {path : String} {column : Column}
      (resolved : r.resolver.resolve path = .ok column) :
      Mirrors r b n (.present path) (.notNull column.name) n
  | comparePresent {n : Nat} {path : String} {value : Literal} {column : Column}
      (resolved : r.resolver.resolve path = .ok column) :
      Mirrors r b n (.compare path .present value) (.notNull column.name) n
  | compare {n : Nat} {path : String} {op : Operator} {value : Literal} {column : Column}
      {k : Comparison} {parameter : Parameter}
      (resolved : r.resolver.resolve path = .ok column)
      (operator : op.comparison? = some k)
      (fits : fit? column.kind op value = some parameter)
      (bound : b.get? (Bindings.placeholder n) = some parameter) :
      Mirrors r b n (.compare path op value)
        (.compare column.name k (Bindings.placeholder n)
          (!r.caseInsensitive && column.kind == .text && value.isTextual)) (n + 1)
  | join {n m l : Nat} {left right : Filter} {t u : Reading} (c : Connective) :
      Mirrors r b n left t m → Mirrors r b m right u l →
      Mirrors r b n (.join c left right) (.join c t u) l

/-- Two filters ask the same tests under the same connectives. -/
inductive SameTests (r₁ r₂ : Renderer) : Filter → Filter → Prop
  | test {f g : Filter} {condition : Condition} :
      Tests r₁ f condition → Tests r₂ g condition → SameTests r₁ r₂ f g
  | join {left right left' right' : Filter} (c : Connective) :
      SameTests r₁ r₂ left left' → SameTests r₁ r₂ right right' →
      SameTests r₁ r₂ (.join c left right) (.join c left' right')

theorem Mirrors.mono {r : Renderer} {b b' : Bindings} (h : b.toList <+: b'.toList) {n m : Nat}
    {f : Filter} {t : Reading} (mirrors : Mirrors r b n f t m) : Mirrors r b' n f t m := by
  induction mirrors with
  | present resolved => exact .present resolved
  | comparePresent resolved => exact .comparePresent resolved
  | compare resolved operator fits bound =>
    exact .compare resolved operator fits (Bindings.get?_grown h bound)
  | join c _ _ ihl ihr => exact .join c ihl ihr

theorem folds_eq (r : Renderer) (column : Column) (value : Literal) :
    r.folds column value = (!r.caseInsensitive && column.kind == .text && value.isTextual) := by
  unfold Renderer.folds
  cases column.kind <;> rfl

theorem Tests.mirrors {r : Renderer} {f : Filter} {condition : Condition} {b : Bindings}
    (numbered : b.Numbered) (tests : Tests r f condition) :
    Mirrors r (place b condition).2 b.size f (place b condition).1.reading
      (place b condition).2.size := by
  cases tests with
  | present found =>
    obtain ⟨column, resolved, rfl⟩ := present_ok found
    exact .present resolved
  | compare found =>
    obtain ⟨column, resolved, ⟨rfl, rfl⟩ | ⟨k, v, operator, fits, rfl⟩⟩ := comparison_ok found
    · exact .comparePresent resolved
    · simp only [place, Bindings.bind, Predicate.reading, folds_eq, Bindings.size_push]
      exact .compare resolved operator fits (Bindings.get?_push numbered v)

theorem Tests.named {r : Renderer} {f : Filter} {condition : Condition} (b : Bindings)
    (tests : Tests r f condition) : (place b condition).1.reading.Named := by
  cases tests with
  | present found =>
    obtain ⟨column, resolved, rfl⟩ := present_ok found
    exact (resolve_ok resolved).1
  | compare found =>
    obtain ⟨column, resolved, ⟨-, rfl⟩ | ⟨k, v, -, -, rfl⟩⟩ := comparison_ok found
    · exact (resolve_ok resolved).1
    · exact ⟨(resolve_ok resolved).1, Bindings.placeholder_isName _⟩

theorem Renders.named {r : Renderer} {f : Filter} {b b' : Bindings} {p : Predicate}
    (h : Renders r f b p b') : p.reading.Named := by
  induction h with
  | test b tests => exact tests.named b
  | join c _ _ ihl ihr => exact ⟨ihl, ihr⟩

theorem Renders.mirrors {r : Renderer} {f : Filter} {b b' : Bindings} {p : Predicate}
    (h : Renders r f b p b') (numbered : b.Numbered) :
    Mirrors r b' b.size f p.reading b'.size := by
  induction h with
  | test b tests => exact tests.mirrors numbered
  | join c hl hr ihl ihr =>
    exact .join c ((ihl numbered).mono hr.keeps) (ihr (hl.numbered numbered))

/-- Tests that read alike ask the same, also for the value. -/
theorem condition_unique {b c final : Bindings} (numbered : final.Numbered) {k l : Condition}
    (same : (place b k).1.reading = (place c l).1.reading)
    (hb : (place b k).2.toList <+: final.toList) (hc : (place c l).2.toList <+: final.toList) :
    k = l := by
  cases k with
  | notNull column =>
    cases l with
    | notNull column' => exact congrArg Condition.notNull (Reading.notNull.inj same)
    | compare column' k' v' folded' => cases same
  | compare column k v folded =>
    cases l with
    | notNull column' => cases same
    | compare column' k' v' folded' =>
      obtain ⟨rfl, rfl, names, rfl⟩ := Reading.compare.inj same
      have first := numbered.get?_of_mem (hb.subset List.mem_concat_self)
      have second := numbered.get?_of_mem (hc.subset List.mem_concat_self)
      rw [names, second] at first
      rw [Option.some.inj first]

theorem Renders.sameTests {r₁ r₂ : Renderer} {f g : Filter} {b b₁ c c₁ final : Bindings}
    {p q : Predicate} (hf : Renders r₁ f b p b₁) (hg : Renders r₂ g c q c₁)
    (same : p.reading = q.reading) (numbered : final.Numbered) (hb : b₁.toList <+: final.toList)
    (hc : c₁.toList <+: final.toList) : SameTests r₁ r₂ f g := by
  induction hf generalizing g c q c₁ with
  | @test f k b tests =>
    cases hg with
    | @test _ l _ tests' =>
      obtain rfl := condition_unique numbered same hb hc
      exact .test tests tests'
    | join d hl hr => cases k <;> cases same
  | join d hl hr ihl ihr =>
    cases hg with
    | @test _ l _ tests' => cases l <;> cases same
    | join e hl' hr' =>
      obtain ⟨rfl, lefts, rights⟩ := Reading.join.inj same
      exact .join d (ihl hl' lefts (hr.keeps.trans hb) (hr'.keeps.trans hc))
        (ihr hr' rights hb hc)

/-- The text of a rendered filter has one reading, which is the filter itself. So filters that render
to the same text with the same values ask the same tests under the same connectives. Any values may be
bound before. -/
theorem rendered_text_reads_back (r : Renderer) (f : Filter) (values : List Parameter) (b' : Bindings)
    (p : Predicate) (rendered : r.render f (.ofValues values) = (.ok p, b')) :
    (∃ t, Reads .disjunction p.sql t ∧ (∀ u, Reads .disjunction p.sql u → u = t) ∧
      t.Named ∧ Mirrors r b' values.length f t b'.size ∧
      (Bindings.ofValues values).toList <+: b'.toList) ∧
    ∀ (s : Renderer) (g : Filter) (c : Bindings) (q : Predicate),
      s.render g c = (.ok q, b') → q.sql = p.sql → SameTests r s f g := by
  have first := renders_of_render rendered
  have numbered := Bindings.numbered_ofValues values
  have mirrors := first.mirrors numbered
  rw [Bindings.size_ofValues] at mirrors
  refine ⟨⟨p.reading, ?_, ?_, first.named, mirrors, first.keeps⟩, ?_⟩
  · exact .disjunct (.conjunct (p.sql_reads first.named))
  · intro u reads
    exact p.reading_unique first.named reads
  · intro s g c q rendered' sameText
    have second := renders_of_render rendered'
    have reads := q.sql_reads second.named
    rw [sameText] at reads
    have same := p.reading_unique first.named reads
    exact first.sameTests second same.symm (first.numbered numbered) (List.prefix_refl _)
      (List.prefix_refl _)

theorem rendered_text_reads_back_keywords :
    let r : Renderer := ⟨⟨fun path => if path == "a" then "LOWER" else "AND", none⟩, false⟩
    let f : Filter := .join .and (.compare "a" .contains (.text "x"))
      (.join .or (.present "b") (.compare "c" .equal (.number (.integer 3))))
    let values : List Parameter := [.boolean true]
    ∃ p b', r.render f (.ofValues values) = (.ok p, b') ∧
      p.sql = "(LOWER(LOWER) LIKE LOWER(:__value_1) AND (AND IS NOT NULL OR AND = :__value_2))" ∧
      ∃ t, Reads .disjunction p.sql t ∧ (∀ u, Reads .disjunction p.sql u → u = t) ∧
        Mirrors r b' 1 f t 3 := by
  intro r f values
  have rendered : r.render f (.ofValues values) =
      (.ok (.join .and (.compare "LOWER" .like "__value_1" true)
        (.join .or (.notNull "AND") (.compare "AND" .equal "__value_2" false))),
        ⟨[("__value_0", .boolean true), ("__value_1", .text "%x%"),
          ("__value_2", .number (.integer 3))]⟩) := by
    simp only [r, f, values]
    rfl
  obtain ⟨⟨t, reads, only, -, mirrors, -⟩, -⟩ := rendered_text_reads_back r f values _ _ rendered
  exact ⟨_, _, rendered, by decide, t, reads, only, mirrors⟩

end Renderer

end FilterSql
