import FilterSql.Proofs.Placeholder
import FilterSql.Rendering

/-! What a successful rendering has done, test by test. -/

namespace FilterSql

theorem resolve_ok {r : Resolver} {path : String} {column : Column}
    (h : r.resolve path = .ok column) :
    Text.isName column.name = true ∧ r.allows column.name = true ∧
      column = ⟨r.columnName path, Resolver.kind path (r.columnName path)⟩ := by
  simp only [Resolver.resolve] at h
  split at h
  · cases h
  · rename_i named
    split at h
    · cases h
    · rename_i allowed
      cases h
      exact ⟨by simpa using named, by simpa using allowed, rfl⟩

theorem Operator.matchesPart_iff {op : Operator} :
    op.matchesPart = true ↔ op ∈ [.contains, .startsWith, .endsWith] := by
  cases op <;> decide

namespace Renderer

/-- The filter is a single test, and comes to the given condition. -/
inductive Tests (r : Renderer) : Filter → Condition → Prop
  | present {path : String} {condition : Condition} :
      r.present path = .ok condition → Tests r (.present path) condition
  | compare {path : String} {op : Operator} {value : Literal} {condition : Condition} :
      r.comparison path op value = .ok condition → Tests r (.compare path op value) condition

/-- A rendering that succeeds: every test takes the next place, if it needs one. -/
inductive Renders (r : Renderer) : Filter → Bindings → Predicate → Bindings → Prop
  | test {f : Filter} {condition : Condition} (b : Bindings) : Tests r f condition →
      Renders r f b (place b condition).1 (place b condition).2
  | join {left right : Filter} {p q : Predicate} {b b₁ b₂ : Bindings} (c : Connective) :
      Renders r left b p b₁ → Renders r right b₁ q b₂ →
      Renders r (.join c left right) b (.join c p q) b₂

theorem renderCondition_ok {condition : Except FilterError Condition} {b b' : Bindings}
    {p : Predicate} (h : renderCondition condition b = (.ok p, b')) :
    ∃ found, condition = .ok found ∧ place b found = (p, b') := by
  cases condition with
  | error e => cases h
  | ok found =>
    refine ⟨found, rfl, ?_⟩
    obtain ⟨same, rest⟩ := Prod.mk.inj h
    exact Prod.ext (Except.ok.inj same) rest

section Join

variable {r : Renderer} {left right : Filter} {b b₁ b₂ : Bindings} {p q : Predicate}
  {e : FilterError} (c : Connective)

theorem render_join_left_error (hl : r.render left b = (.error e, b₁)) :
    r.render (.join c left right) b = (.error e, b₁) := by
  simp only [render, hl]

theorem render_join_right_error (hl : r.render left b = (.ok p, b₁))
    (hr : r.render right b₁ = (.error e, b₂)) :
    r.render (.join c left right) b = (.error e, b₂) := by
  simp only [render, hl, hr]

theorem render_join_ok (hl : r.render left b = (.ok p, b₁))
    (hr : r.render right b₁ = (.ok q, b₂)) :
    r.render (.join c left right) b = (.ok (.join c p q), b₂) := by
  simp only [render, hl, hr]

end Join

theorem renders_of_render {r : Renderer} {f : Filter} {b b' : Bindings} {p : Predicate}
    (h : r.render f b = (.ok p, b')) : Renders r f b p b' := by
  induction f generalizing b b' p with
  | present path =>
    obtain ⟨condition, found, placed⟩ := renderCondition_ok h
    have rendered := Renders.test b (.present found)
    rwa [placed] at rendered
  | compare path op value =>
    obtain ⟨condition, found, placed⟩ := renderCondition_ok h
    have rendered := Renders.test b (.compare found)
    rwa [placed] at rendered
  | join c left right ihl ihr =>
    rw [render] at h
    split at h
    · cases h
    · rename_i leftRendered
      split at h
      · cases h
      · rename_i rightRendered
        cases h
        exact .join c (ihl leftRendered) (ihr rightRendered)

theorem Renders.render {r : Renderer} {f : Filter} {b b' : Bindings} {p : Predicate}
    (h : Renders r f b p b') : r.render f b = (.ok p, b') := by
  induction h with
  | @test f condition b tests =>
    cases tests with
    | present found => simp only [Renderer.render, found, renderCondition]
    | compare found => simp only [Renderer.render, found, renderCondition]
  | join c _ _ ihl ihr => exact render_join_ok c ihl ihr

theorem render_ok_iff {r : Renderer} {f : Filter} {b b' : Bindings} {p : Predicate} :
    r.render f b = (.ok p, b') ↔ Renders r f b p b' :=
  ⟨renders_of_render, Renders.render⟩

theorem present_ok {r : Renderer} {path : String} {condition : Condition}
    (h : r.present path = .ok condition) :
    ∃ column, r.resolver.resolve path = .ok column ∧ condition = .notNull column.name := by
  unfold Renderer.present at h
  cases resolved : r.resolver.resolve path with
  | error e => simp [resolved, Except.map] at h
  | ok column =>
    simp only [resolved, Except.map, Except.ok.injEq] at h
    exact ⟨column, rfl, h.symm⟩

theorem comparison_ok {r : Renderer} {path : String} {op : Operator} {value : Literal}
    {condition : Condition} (h : r.comparison path op value = .ok condition) :
    ∃ column, r.resolver.resolve path = .ok column ∧
      (op = .present ∧ condition = .notNull column.name ∨
        ∃ k v, op.comparison? = some k ∧ fit? column.kind op value = some v ∧
          condition = .compare column.name k v (r.folds column value)) := by
  unfold Renderer.comparison at h
  cases resolved : r.resolver.resolve path with
  | error e => simp [resolved, Except.bind] at h
  | ok column =>
    refine ⟨column, rfl, ?_⟩
    simp only [resolved, Except.bind, Renderer.compare] at h
    split at h
    · rename_i absent
      refine .inl ⟨?_, (Except.ok.inj h).symm⟩
      cases op <;> simp [Operator.comparison?] at absent ⊢
    · rename_i k operator
      split at h
      · cases h
      · split at h
        · rename_i v fits
          exact .inr ⟨k, v, operator, fits, (Except.ok.inj h).symm⟩
        · cases h

theorem keeps_place (b : Bindings) (condition : Condition) :
    b.toList <+: (place b condition).2.toList := by
  cases condition with
  | notNull column => exact List.prefix_refl _
  | compare column k v folded => exact b.prefix_push v

theorem numbered_place {b : Bindings} (numbered : b.Numbered) (condition : Condition) :
    (place b condition).2.Numbered := by
  cases condition with
  | notNull column => exact numbered
  | compare column k v folded => exact numbered.push v

section Renders

variable {r : Renderer} {f : Filter} {b b' : Bindings} {p : Predicate} (h : Renders r f b p b')
include h

/-- What was bound before a rendering is bound after it. -/
theorem Renders.keeps : b.toList <+: b'.toList := by
  induction h with
  | test b tests => exact keeps_place b _
  | join c _ _ ihl ihr => exact ihl.trans ihr

theorem Renders.numbered (numbered : b.Numbered) : b'.Numbered := by
  induction h with
  | test b tests => exact numbered_place numbered _
  | join c _ _ ihl ihr => exact ihr (ihl numbered)

end Renders

end Renderer

end FilterSql
