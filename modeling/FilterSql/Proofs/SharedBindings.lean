import FilterSql.Proofs.RenderedTests

/-!
Renderings that share their bindings. Whichever of them fail, the values bound stay numbered without gaps,
each text marks the names of the places that its own rendering took, and no name stands for two values.
-/

namespace FilterSql

/-- Each entry of numbered bindings has the name of its place, and is found under it. -/
theorem Bindings.Numbered.get?_of_getElem? {b : Bindings} (numbered : b.Numbered) {k : Nat}
    {name : String} {v : Parameter} (entry : b.toList[k]? = some (name, v)) :
    name = placeholder k ∧ b.get? name = some v := by
  refine ⟨?_, numbered.get?_of_mem (List.mem_of_getElem? entry)⟩
  have named : b.names[k]? = some name := by
    rw [Bindings.names, List.getElem?_map, entry]
    rfl
  rw [numbered.names, List.getElem?_map] at named
  obtain ⟨i, found, rfl⟩ := Option.map_eq_some_iff.mp named
  obtain ⟨-, rfl⟩ := List.getElem?_eq_some_iff.mp found
  rw [List.getElem_range]

/-! ## One rendering -/

theorem Predicate.markedNames_sql {p : Predicate} (named : p.reading.Named) :
    markedNames p.sql.toList = p.reading.placeholders := by
  have marks := (p.sql_reads named).marks [] ends_nil
  simpa [markedNames] using marks

namespace Renderer

theorem Mirrors.placeholders {r : Renderer} {b : Bindings} {n m : Nat} {f : Filter} {t : Reading}
    (h : Mirrors r b n f t m) :
    n ≤ m ∧ t.placeholders = (List.range' n (m - n)).map Bindings.placeholder := by
  induction h with
  | present | comparePresent => simp [Reading.placeholders]
  | compare => simp [Reading.placeholders]
  | @join n m l left right t u c _ _ ihl ihr =>
    obtain ⟨le, left⟩ := ihl
    obtain ⟨le', right⟩ := ihr
    have places : List.range' n (m - n) ++ List.range' m (l - m) = List.range' n (l - n) := by
      have split := @List.range'_append_1 n (m - n) (l - m)
      rw [Nat.add_sub_cancel' le] at split
      rw [split]
      congr 1
      omega
    exact ⟨Nat.le_trans le le', by rw [Reading.placeholders, left, right, ← List.map_append, places]⟩

/-- A rendering only binds more values, whether it fails or not. -/
theorem render_pushes (r : Renderer) (f : Filter) (b : Bindings) :
    ∃ values, (r.render f b).2 = b.pushAll values := by
  by_cases passes : ∀ t ∈ f.tests, r.Passes t
  · obtain ⟨p, rendered⟩ := render_all_pass passes b
    exact ⟨_, by rw [rendered]⟩
  · have fails : ∃ t ∈ f.tests, ¬ r.Passes t := by simpa using passes
    obtain ⟨before, t, after, e, split, passes, refused⟩ := exists_first_refused fails
    exact ⟨_, by rw [render_first_refused split passes refused b]⟩

theorem render_keeps (r : Renderer) (f : Filter) (b : Bindings) :
    b.toList <+: (r.render f b).2.toList := by
  obtain ⟨values, grown⟩ := r.render_pushes f b
  rw [grown]
  exact b.prefix_pushAll values

theorem render_numbered (r : Renderer) (f : Filter) {b : Bindings} (numbered : b.Numbered) :
    (r.render f b).2.Numbered := by
  obtain ⟨values, grown⟩ := r.render_pushes f b
  rw [grown]
  exact numbered.pushAll values

theorem markedNames_of_render {r : Renderer} {f : Filter} {b b' : Bindings} {p : Predicate}
    (numbered : b.Numbered) (rendered : r.render f b = (.ok p, b')) :
    markedNames p.sql.toList =
      (List.range' b.size (b'.size - b.size)).map Bindings.placeholder := by
  have renders := renders_of_render rendered
  rw [Predicate.markedNames_sql renders.named]
  exact (renders.mirrors numbered).placeholders.2

end Renderer

/-! ## Renderings one after another -/

/-- One rendering, with what is bound before and after it. -/
structure Turn where
  before : Bindings
  outcome : Except FilterError Predicate
  after : Bindings

def Turn.take (job : Renderer × Filter) (b : Bindings) : Turn :=
  ⟨b, (job.1.render job.2 b).1, (job.1.render job.2 b).2⟩

/-- Each rendering takes over what the one before it has bound, whether that one failed or not. -/
def turns : List (Renderer × Filter) → Bindings → List Turn
  | [], _ => []
  | job :: rest, b => Turn.take job b :: turns rest (Turn.take job b).after

/-- What is bound after the last of the renderings. -/
def bindEach (jobs : List (Renderer × Filter)) (b : Bindings) : Bindings :=
  jobs.foldl (fun b job => (Turn.take job b).after) b

namespace Turn

/-- The entries bound before a turn are there after it, and its text marks the places it has added. -/
structure Orderly (t : Turn) : Prop where
  numberedBefore : t.before.Numbered
  numberedAfter : t.after.Numbered
  keeps : t.before.toList <+: t.after.toList
  marks : ∀ p, t.outcome = .ok p → markedNames p.sql.toList =
    (List.range' t.before.size (t.after.size - t.before.size)).map Bindings.placeholder

theorem orderly_take (job : Renderer × Filter) {b : Bindings} (numbered : b.Numbered) :
    (take job b).Orderly where
  numberedBefore := numbered
  numberedAfter := job.1.render_numbered job.2 numbered
  keeps := job.1.render_keeps job.2 b
  marks := by
    intro p rendered
    apply Renderer.markedNames_of_render (r := job.1) (f := job.2) numbered
    exact Prod.ext rendered rfl

/-- A later turn finds the entries of an earlier one, and their texts have no name in common. -/
structure Apart (t u : Turn) : Prop where
  keeps : t.after.toList <+: u.before.toList
  disjoint : ∀ p q, t.outcome = .ok p → u.outcome = .ok q →
    ∀ name ∈ markedNames p.sql.toList, name ∉ markedNames q.sql.toList

theorem apart_of_prefix {t u : Turn} (ht : t.Orderly) (hu : u.Orderly)
    (grown : t.after.toList <+: u.before.toList) : t.Apart u where
  keeps := grown
  disjoint := by
    intro p q rendered rendered' name first second
    rw [ht.marks p rendered] at first
    rw [hu.marks q rendered'] at second
    obtain ⟨i, placed, rfl⟩ := List.mem_map.mp first
    obtain ⟨j, placed', same⟩ := List.mem_map.mp second
    have le : t.after.size ≤ u.before.size := grown.length_le
    have index := Bindings.placeholder_injective same
    simp only [List.mem_range'_1] at placed placed'
    omega

end Turn

theorem orderly_of_mem_turns {jobs : List (Renderer × Filter)} {b : Bindings}
    (numbered : b.Numbered) {t : Turn} (member : t ∈ turns jobs b) : t.Orderly := by
  induction jobs generalizing b with
  | nil => cases member
  | cons job rest ih =>
    rcases List.mem_cons.mp member with rfl | later
    · exact Turn.orderly_take job numbered
    · exact ih (job.1.render_numbered job.2 numbered) later

theorem bindEach_keeps (jobs : List (Renderer × Filter)) (b : Bindings) :
    b.toList <+: (bindEach jobs b).toList := by
  induction jobs generalizing b with
  | nil => exact List.prefix_refl _
  | cons job rest ih => exact (job.1.render_keeps job.2 b).trans (ih _)

theorem bindEach_numbered (jobs : List (Renderer × Filter)) {b : Bindings} (numbered : b.Numbered) :
    (bindEach jobs b).Numbered := by
  induction jobs generalizing b with
  | nil => exact numbered
  | cons job rest ih => exact ih (job.1.render_numbered job.2 numbered)

/-- Every turn stands between what was bound at the start and what is bound at the end. -/
theorem toList_of_mem_turns {jobs : List (Renderer × Filter)} {b : Bindings} {t : Turn}
    (member : t ∈ turns jobs b) :
    b.toList <+: t.before.toList ∧ t.after.toList <+: (bindEach jobs b).toList := by
  induction jobs generalizing b with
  | nil => cases member
  | cons job rest ih =>
    rcases List.mem_cons.mp member with rfl | later
    · exact ⟨List.prefix_refl _, bindEach_keeps rest _⟩
    · obtain ⟨start, finish⟩ := ih later
      exact ⟨(job.1.render_keeps job.2 b).trans start, finish⟩

theorem turns_apart (jobs : List (Renderer × Filter)) {b : Bindings} (numbered : b.Numbered) :
    (turns jobs b).Pairwise Turn.Apart := by
  induction jobs generalizing b with
  | nil => exact .nil
  | cons job rest ih =>
    have after := job.1.render_numbered job.2 numbered
    refine .cons ?_ (ih after)
    intro u later
    exact Turn.apart_of_prefix (Turn.orderly_take job numbered) (orderly_of_mem_turns after later)
      (toList_of_mem_turns later).1

/-- However many filters are rendered on top of the same bindings, and whichever of them fail: entries are
numbered from first to last and never change, each text marks the names that its rendering has added and
no other, and at the end a name finds the value of its place, and any other text finds nothing. Any values
may be bound before. -/
theorem shared_bindings_stay_orderly (jobs : List (Renderer × Filter)) (values : List Parameter) :
    let b := Bindings.ofValues values
    (∀ t ∈ turns jobs b, t.Orderly ∧ t.after.toList <+: (bindEach jobs b).toList) ∧
      (turns jobs b).Pairwise Turn.Apart ∧ (bindEach jobs b).Numbered ∧
      (∀ k name v, (bindEach jobs b).toList[k]? = some (name, v) →
        name = Bindings.placeholder k ∧ (bindEach jobs b).get? name = some v) ∧
      ∀ name, name ∉ (bindEach jobs b).toList.map Prod.fst →
        (bindEach jobs b).get? name = none := by
  intro b
  have numbered : b.Numbered := Bindings.numbered_ofValues values
  have last := bindEach_numbered jobs numbered
  refine ⟨?_, turns_apart jobs numbered, last, ?_, ?_⟩
  · intro t member
    exact ⟨orderly_of_mem_turns numbered member, (toList_of_mem_turns member).2⟩
  · intro k name v entry
    exact last.get?_of_getElem? entry
  · intro name unknown
    exact Bindings.get?_eq_none unknown

theorem shared_bindings_stay_orderly_failing :
    let r : Renderer := ⟨⟨id, none⟩, true⟩
    let jobs : List (Renderer × Filter) :=
      [(r, .compare "userName" .equal (.text "x")),
        (r, .join .or (.compare "age" .greater (.number (.integer 1)))
          (.compare "meta.created" .less (.boolean true))),
        (r, .compare "title" .startsWith (.text "z"))]
    let last := bindEach jobs .empty
    ((turns jobs .empty).map fun t =>
        (t.before.size, t.outcome.toOption.map Predicate.sql, t.after.size)) =
        [(0, some "userName = :__value_0", 1), (1, none, 2), (2, some "title LIKE :__value_2", 3)] ∧
      (turns jobs .empty).Pairwise Turn.Apart ∧
      last.get? "__value_1" = some (.number (.integer 1)) ∧ last.get? "__value_01" = none := by
  intro r jobs last
  obtain ⟨-, apart, -, found, missing⟩ := shared_bindings_stay_orderly jobs []
  have bound : last.toList[1]? = some ("__value_1", .number (.integer 1)) := by decide
  exact ⟨by decide, apart, (found 1 _ _ bound).2, missing "__value_01" (by decide)⟩

end FilterSql
