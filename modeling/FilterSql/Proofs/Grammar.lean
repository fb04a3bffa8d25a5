import FilterSql.Proofs.LexedTokens
import FilterSql.Proofs.Results
import FilterSql.Proofs.Spelling

/-!
The grammar of filters, and the reader as its parser: a text is read exactly where its tokens derive a
filter and stay within the limits, and what is read is the filter they derive.
-/

namespace FilterSql

/-- The levels of the grammar. Left to right there are no conjunctions apart from other expressions. -/
inductive Rank
  | term
  | conjunction
  | expression
  deriving DecidableEq, Repr

/-- What tokens derive. An operator before a literal is any but `pr`, which takes no value. -/
inductive Derives : Precedence → Rank → List Token → Filter → Prop
  | present {p : Precedence} (path : String) :
      Derives p .term [.identifier path, .operator .present] (.present path)
  | compare {p : Precedence} (path : String) {op : Operator} (value : Literal)
      (valued : op ≠ .present) :
      Derives p .term [.identifier path, .operator op, .literal value] (.compare path op value)
  | group {p : Precedence} {ts : List Token} {e : Filter} :
      Derives p .expression ts e → Derives p .term (.opening :: (ts ++ [.closing])) e
  | chainStart {ts : List Token} {e : Filter} :
      Derives .leftToRight .term ts e → Derives .leftToRight .expression ts e
  | chain {ts us : List Token} {e f : Filter} (c : Connective) :
      Derives .leftToRight .expression ts e → Derives .leftToRight .term us f →
      Derives .leftToRight .expression (ts ++ .connective c :: us) (.join c e f)
  | conjunctionStart {ts : List Token} {e : Filter} :
      Derives .andBindsTighter .term ts e → Derives .andBindsTighter .conjunction ts e
  | conjunction {ts us : List Token} {e f : Filter} :
      Derives .andBindsTighter .conjunction ts e → Derives .andBindsTighter .term us f →
      Derives .andBindsTighter .conjunction (ts ++ .connective .and :: us) (.join .and e f)
  | disjunctionStart {ts : List Token} {e : Filter} :
      Derives .andBindsTighter .conjunction ts e → Derives .andBindsTighter .expression ts e
  | disjunction {ts us : List Token} {e f : Filter} :
      Derives .andBindsTighter .expression ts e → Derives .andBindsTighter .conjunction us f →
      Derives .andBindsTighter .expression (ts ++ .connective .or :: us) (.join .or e f)

/-! ## Every proper phrase derives its filter -/

namespace Phrase

theorem derives_leftToRight {phrase : Phrase} (proper : phrase.Proper) :
    Derives .leftToRight .expression phrase.tokens phrase.groupLeftToRight ∧
      (phrase.isTerm = true →
        Derives .leftToRight .term phrase.tokens phrase.groupLeftToRight) := by
  induction phrase with
  | present path => exact ⟨.chainStart (.present path), fun _ => .present path⟩
  | compare path op value =>
    have term : Derives .leftToRight .term _ _ := .compare path value proper
    exact ⟨.chainStart term, fun _ => term⟩
  | group inner ih =>
    have term : Derives .leftToRight .term _ _ := .group (ih proper).1
    exact ⟨.chainStart term, fun _ => term⟩
  | chain before c last ihb ihl =>
    obtain ⟨properBefore, properLast, term⟩ := proper
    exact ⟨.chain c (ihb properBefore).1 ((ihl properLast).2 term), nofun⟩

/-- The two parts of a chain that is cut at its last `or`. -/
def DerivesCut (ts : List Token) : Alternatives → Prop
  | ⟨none, last⟩ => Derives .andBindsTighter .conjunction ts last
  | ⟨some before, last⟩ => ∃ us vs, ts = us ++ .connective .or :: vs ∧
      Derives .andBindsTighter .expression us before ∧
      Derives .andBindsTighter .conjunction vs last

theorem DerivesCut.filter {ts : List Token} {a : Alternatives} (h : DerivesCut ts a) :
    Derives .andBindsTighter .expression ts a.filter := by
  obtain ⟨before, last⟩ := a
  cases before with
  | none => exact .disjunctionStart h
  | some before =>
    obtain ⟨us, vs, rfl, hb, hl⟩ := h
    exact .disjunction hb hl

theorem derives_andBindsTighter {phrase : Phrase} (proper : phrase.Proper) :
    DerivesCut phrase.tokens phrase.alternatives ∧
      (phrase.isTerm = true →
        Derives .andBindsTighter .term phrase.tokens phrase.alternatives.filter) := by
  induction phrase with
  | present path => exact ⟨.conjunctionStart (.present path), fun _ => .present path⟩
  | compare path op value =>
    have term : Derives .andBindsTighter .term _ _ := .compare path value proper
    exact ⟨.conjunctionStart term, fun _ => term⟩
  | group inner ih =>
    have term : Derives .andBindsTighter .term _ _ := .group (ih proper).1.filter
    exact ⟨.conjunctionStart term, fun _ => term⟩
  | chain before c last ihb ihl =>
    obtain ⟨properBefore, properLast, term⟩ := proper
    have cut := (ihb properBefore).1
    have right := (ihl properLast).2 term
    refine ⟨?_, nofun⟩
    cases c with
    | or => exact ⟨_, _, rfl, cut.filter, .conjunctionStart right⟩
    | and =>
      simp only [tokens, alternatives]
      generalize before.alternatives = a at cut
      obtain ⟨alternative, conjunction⟩ := a
      cases alternative with
      | none => exact .conjunction cut right
      | some alternative =>
        obtain ⟨us, vs, whole, hb, hl⟩ := cut
        refine ⟨us, vs ++ .connective .and :: last.tokens, ?_, hb, .conjunction hl right⟩
        simp [whole]

theorem derives_toFilter {phrase : Phrase} (proper : phrase.Proper) (p : Precedence) :
    Derives p .expression phrase.tokens (phrase.toFilter p) := by
  cases p with
  | leftToRight => exact (derives_leftToRight proper).1
  | andBindsTighter => exact (derives_andBindsTighter proper).1.filter

/-! ## Every derivation spells a proper phrase -/

/-- The phrase that goes on with another one after a connective. -/
def append (before : Phrase) (c : Connective) : Phrase → Phrase
  | chain first d last => chain (append before c first) d last
  | term => chain before c term

theorem tokens_append (before : Phrase) (c : Connective) (after : Phrase) :
    (append before c after).tokens = before.tokens ++ .connective c :: after.tokens := by
  induction after with
  | chain first d last ih _ => simp [append, tokens, ih]
  | _ => rfl

theorem proper_append {before after : Phrase} (c : Connective) (hb : before.Proper)
    (ha : after.Proper) : (append before c after).Proper := by
  induction after with
  | chain first d last ih _ => exact ⟨ih ha.1, ha.2⟩
  | _ => exact ⟨hb, ha, rfl⟩

/-- A conjunction appended after `or` stays together. -/
theorem alternatives_append_or {before after : Phrase} (alone : after.alternatives.before = none) :
    (append before .or after).alternatives =
      ⟨some before.alternatives.filter, after.alternatives.filter⟩ := by
  induction after with
  | chain first d last ih _ =>
    cases d with
    | or => cases alone
    | and =>
      have inner := ih alone
      simp only [append, alternatives, inner, Alternatives.filter] at alone ⊢
      simp [alone]
  | _ => rfl

end Phrase

theorem Derives.phrase {p : Precedence} {rank : Rank} {ts : List Token} {e : Filter}
    (h : Derives p rank ts e) :
    ∃ phrase : Phrase, phrase.Proper ∧ phrase.tokens = ts ∧ phrase.toFilter p = e ∧
      (rank = .term → phrase.isTerm = true) ∧
      (p = .andBindsTighter → rank ≠ .expression → phrase.alternatives.before = none) := by
  induction h with
  | @present p path =>
    exact ⟨.present path, trivial, rfl, by cases p <;> rfl, fun _ => rfl, fun _ _ => rfl⟩
  | @compare p path op value valued =>
    exact ⟨.compare path op value, valued, rfl, by cases p <;> rfl, fun _ => rfl, fun _ _ => rfl⟩
  | @group p ts e _ ih =>
    obtain ⟨inner, proper, rfl, rfl, -, -⟩ := ih
    exact ⟨.group inner, proper, rfl, by cases p <;> rfl, fun _ => rfl, fun _ _ => rfl⟩
  | chainStart _ ih =>
    obtain ⟨phrase, proper, rfl, rfl, -, -⟩ := ih
    exact ⟨phrase, proper, rfl, rfl, nofun, nofun⟩
  | chain c _ _ ihl ihr =>
    obtain ⟨before, properBefore, rfl, rfl, -, -⟩ := ihl
    obtain ⟨last, properLast, rfl, rfl, term, -⟩ := ihr
    exact ⟨.chain before c last, ⟨properBefore, properLast, term rfl⟩, rfl, rfl, nofun, nofun⟩
  | conjunctionStart _ ih =>
    obtain ⟨phrase, proper, rfl, rfl, -, alone⟩ := ih
    exact ⟨phrase, proper, rfl, rfl, nofun, fun same _ => alone same nofun⟩
  | conjunction _ _ ihl ihr =>
    obtain ⟨before, properBefore, rfl, rfl, -, alone⟩ := ihl
    obtain ⟨last, properLast, rfl, rfl, term, -⟩ := ihr
    have cut := alone rfl nofun
    refine ⟨.chain before .and last, ⟨properBefore, properLast, term rfl⟩, rfl, ?_, nofun,
      fun _ _ => cut⟩
    simp only [Phrase.toFilter, Phrase.alternatives, Phrase.Alternatives.filter, cut]
  | disjunctionStart _ ih =>
    obtain ⟨phrase, proper, rfl, rfl, -, -⟩ := ih
    exact ⟨phrase, proper, rfl, rfl, nofun, fun _ different => absurd rfl different⟩
  | disjunction _ _ ihl ihr =>
    obtain ⟨before, properBefore, rfl, rfl, -, -⟩ := ihl
    obtain ⟨after, properAfter, rfl, rfl, -, alone⟩ := ihr
    refine ⟨.append before .or after, Phrase.proper_append .or properBefore properAfter,
      Phrase.tokens_append .., ?_, nofun, fun _ different => absurd rfl different⟩
    simp only [Phrase.toFilter, Phrase.alternatives_append_or (alone rfl nofun),
      Phrase.Alternatives.filter]

theorem derives_iff {p : Precedence} {ts : List Token} {e : Filter} :
    Derives p .expression ts e ↔
      ∃ phrase : Phrase, phrase.Proper ∧ phrase.tokens = ts ∧ phrase.toFilter p = e := by
  constructor
  · intro h
    obtain ⟨phrase, proper, spelled, grouped, -⟩ := h.phrase
    exact ⟨phrase, proper, spelled, grouped⟩
  · rintro ⟨phrase, proper, rfl, rfl⟩
    exact Phrase.derives_toFilter proper p

/-- Tokens derive one filter at most. -/
theorem Derives.unique {p : Precedence} {ts : List Token} {e f : Filter}
    (he : Derives p .expression ts e) (hf : Derives p .expression ts f) : e = f := by
  obtain ⟨first, properFirst, spelled, rfl⟩ := derives_iff.mp he
  obtain ⟨second, properSecond, spelled', rfl⟩ := derives_iff.mp hf
  rw [Phrase.tokens_injective properFirst properSecond (spelled.trans spelled'.symm)]

/-! ## The reader -/

theorem Filter.ofTokens_ok_iff {p : Precedence} {placed : List (Placed Token)} {e : Filter} :
    Filter.ofTokens p placed = .ok e ↔
      Derives p .expression (placed.map Placed.value) e ∧
        NestsBelow maxDepth 0 (placed.map Placed.value) ∧
        connectiveCount (placed.map Placed.value) ≤ maxConnectives := by
  rw [Filter.ofTokens_eq, map_ok_iff, derives_iff]
  constructor
  · rintro ⟨phrase, read, grouped⟩
    obtain ⟨proper, spelled, limits⟩ := Phrase.ofTokens_ok_iff.mp read
    exact ⟨⟨phrase, proper, spelled, grouped⟩, limits⟩
  · rintro ⟨⟨phrase, proper, spelled, grouped⟩, limits⟩
    exact ⟨phrase, Phrase.ofTokens_ok_iff.mpr ⟨proper, spelled, limits⟩, grouped⟩

theorem Derives.ne_nil {p : Precedence} {rank : Rank} {ts : List Token} {e : Filter}
    (h : Derives p rank ts e) : ts ≠ [] := by
  induction h with
  | chainStart _ ih | conjunctionStart _ ih | disjunctionStart _ ih => exact ih
  | _ => simp

/-- A text is read as a filter exactly when all of it is tokens, these derive the filter, and the
limits allow them. -/
theorem Filter.ofText_ok_iff {p : Precedence} {s : String} {e : Filter} :
    Filter.ofText p s = .ok e ↔ (Tokens.ofText s).mistakes = [] ∧
      Derives p .expression ((Tokens.ofText s).tokens.map Placed.value) e ∧
      NestsBelow maxDepth 0 ((Tokens.ofText s).tokens.map Placed.value) ∧
      connectiveCount ((Tokens.ofText s).tokens.map Placed.value) ≤ maxConnectives := by
  rw [← ofTokens_ok_iff]
  constructor
  · intro read
    obtain ⟨phrase, found, -⟩ := ofText_ok_iff_phrase.mp read
    obtain ⟨clean, solid⟩ := Phrase.clean_of_ofText_ok found
    exact ⟨clean, ofText_of_clean clean solid p ▸ read⟩
  · rintro ⟨clean, read⟩
    have solid : Text.allBlank s = false := by
      have nonempty := (ofTokens_ok_iff.mp read).1.ne_nil
      rw [ne_eq, List.map_eq_nil_iff, Tokens.tokens_eq_nil_iff clean] at nonempty
      exact Bool.eq_false_iff.mpr nonempty
    rw [ofText_of_clean clean solid, read]

/-- A text without mistakes is read as a filter exactly when its tokens derive the filter, at most 63
groups stand around any group, and there are at most 256 connectives. Tokens never derive two. -/
theorem ofText_ok_iff_derives (p : Precedence) (s : String) (ts : List Token) (e : Filter)
    (clean : (Tokens.ofText s).mistakes = [])
    (lexed : (Tokens.ofText s).tokens.map Placed.value = ts) :
    (Filter.ofText p s = .ok e ↔ Derives p .expression ts e ∧
      (∀ before after, ts = before ++ .opening :: after →
        before.count .opening - before.count .closing ≤ 63) ∧
      ts.count (.connective .and) + ts.count (.connective .or) ≤ 256) ∧
    ∀ f g, Derives p .expression ts f → Derives p .expression ts g → f = g := by
  subst lexed
  refine ⟨?_, fun f g hf hg => hf.unique hg⟩
  rw [Filter.ofText_ok_iff]
  constructor
  · rintro ⟨-, derived, nests, count⟩
    refine ⟨derived, ?_, count⟩
    intro before after whole
    have room := nests before after whole
    simp only [maxDepth] at room
    omega
  · rintro ⟨derived, nests, count⟩
    refine ⟨clean, derived, ?_, count⟩
    intro before after whole
    have room := nests before after whole
    simp only [maxDepth]
    omega

theorem ofText_ok_iff_derives_mixed :
    let s := "a pr or (b pr or c pr) and d eq 1"
    let ts : List Token := [.identifier "a", .operator .present, .connective .or, .opening,
      .identifier "b", .operator .present, .connective .or, .identifier "c", .operator .present,
      .closing, .connective .and, .identifier "d", .operator .equal,
      .literal (.number (.integer 1))]
    let e : Filter := .join .or (.present "a") (.join .and (.join .or (.present "b") (.present "c"))
      (.compare "d" .equal (.number (.integer 1))))
    (Tokens.ofText s).mistakes = [] ∧ (Tokens.ofText s).tokens.map Placed.value = ts ∧
      Filter.ofText .andBindsTighter s = .ok e ∧ Derives .andBindsTighter .expression ts e := by
  intro s ts e
  have clean : (Tokens.ofText s).mistakes = [] := by decide +kernel
  have lexed : (Tokens.ofText s).tokens.map Placed.value = ts := by decide +kernel
  have read : Filter.ofText .andBindsTighter s = .ok e := by decide +kernel
  have derived := ofText_ok_iff_derives .andBindsTighter s ts e clean lexed
  exact ⟨clean, lexed, read, (derived.1.mp read).1⟩

end FilterSql
