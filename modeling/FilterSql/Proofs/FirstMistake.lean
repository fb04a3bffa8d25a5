import FilterSql.Proofs.JoinedTexts
import FilterSql.Proofs.Results

/-!
The first mistake. Whatever the reader has taken can be completed to a filter, so it stops at the first
token that no filter goes on with, and nothing behind that token changes what it says.
-/

namespace FilterSql

/-! ## Completing what has been read -/

/-- A shortest way to the end of the chain. -/
def Waiting.completion : Waiting → List Token
  | term _ => [.identifier "a", .operator .present]
  | operator _ _ => [.operator .present]
  | value _ _ _ _ => [.literal (.boolean true)]
  | connective _ => []

namespace Progress

def completion (p : Progress) : List Token :=
  p.waiting.completion ++ List.replicate p.groups.length .closing

theorem completion_lexable (p : Progress) : ∀ t ∈ p.completion, t.Lexable := by
  have closings : ∀ t ∈ List.replicate p.groups.length Token.closing, t.Lexable := by
    intro t ht
    obtain rfl := List.eq_of_mem_replicate ht
    trivial
  have waiting : ∀ t ∈ p.waiting.completion, t.Lexable := by
    have free : IsIdentifier "a" := by decide +kernel
    cases p.waiting <;> simp [Waiting.completion, Token.Lexable, Literal.Lexable, free]
  exact List.forall_mem_append.mpr ⟨waiting, closings⟩

theorem run_append (p : Progress) (ts us : List (Placed Token)) :
    (ts ++ us).foldlM step p = (ts.foldlM step p).bind fun q => us.foldlM step q :=
  List.foldlM_append

/-- No limit stands in the way of the completion, which opens no group and has no connective. -/
theorem run_waiting {p : Progress} {ts : List (Placed Token)}
    (spelled : ts.map Placed.value = p.waiting.completion) :
    ∃ chain, ts.foldlM step p = .ok ⟨p.groups, p.connectives, .connective chain⟩ := by
  obtain ⟨groups, n, waiting⟩ := p
  cases waiting with
  | term lead =>
    simp only [Waiting.completion, List.map_eq_cons_iff, List.map_eq_nil_iff] at spelled
    obtain ⟨⟨i, _⟩, _, rfl, rfl, ⟨j, _⟩, _, rfl, rfl, rfl⟩ := spelled
    exact ⟨_, rfl⟩
  | operator lead path =>
    simp only [Waiting.completion, List.map_eq_cons_iff, List.map_eq_nil_iff] at spelled
    obtain ⟨⟨i, _⟩, _, rfl, rfl, rfl⟩ := spelled
    exact ⟨_, rfl⟩
  | value lead path op start =>
    simp only [Waiting.completion, List.map_eq_cons_iff, List.map_eq_nil_iff] at spelled
    obtain ⟨⟨i, _⟩, _, rfl, rfl, rfl⟩ := spelled
    exact ⟨_, rfl⟩
  | connective chain =>
    obtain rfl := List.map_eq_nil_iff.mp spelled
    exact ⟨chain, rfl⟩

theorem run_closings {groups : List OpenGroup} {n : Nat} {chain : Phrase}
    {ts : List (Placed Token)}
    (spelled : ts.map Placed.value = List.replicate groups.length .closing) :
    ∃ phrase, ts.foldlM step ⟨groups, n, .connective chain⟩ = .ok ⟨[], n, .connective phrase⟩ := by
  induction groups generalizing chain ts with
  | nil =>
    obtain rfl := List.map_eq_nil_iff.mp spelled
    exact ⟨chain, rfl⟩
  | cons g outer ih =>
    rw [List.length_cons, List.replicate_succ, List.map_eq_cons_iff] at spelled
    obtain ⟨⟨i, _⟩, ts, rfl, rfl, rest⟩ := spelled
    exact ih rest

theorem run_completion {p : Progress} {ts : List (Placed Token)}
    (spelled : ts.map Placed.value = p.completion) :
    ∃ phrase, (ts.foldlM step p).bind finish = .ok phrase := by
  obtain ⟨first, second, rfl, ended, closings⟩ := List.map_eq_append_iff.mp spelled
  obtain ⟨chain, ran⟩ := run_waiting ended
  obtain ⟨phrase, closed⟩ := @run_closings p.groups p.connectives chain second closings
  refine ⟨phrase, ?_⟩
  rw [run_append, ran]
  exact congrArg (Except.bind · finish) closed

end Progress

theorem Phrase.ofTokens_append (ts us : List (Placed Token)) :
    ofTokens (ts ++ us) = (ts.foldlM Progress.step Progress.start).bind fun p =>
      (us.foldlM Progress.step p).bind Progress.finish := by
  have shape : ofTokens (ts ++ us) =
      ((ts ++ us).foldlM Progress.step Progress.start).bind Progress.finish := rfl
  rw [shape, Progress.run_append]
  cases ts.foldlM Progress.step Progress.start <;> rfl

/-! ## Texts that go on differently -/

theorem outcomes_split {position : Nat} {parts : List Part}
    {first second : List (Placed (Except Mistake Token))}
    (h : outcomes position parts = first ++ second) :
    ∃ front back, parts = front ++ back ∧ outcomes position front = first := by
  induction parts generalizing position first with
  | nil =>
    obtain ⟨rfl, -⟩ := List.append_eq_nil_iff.mp h.symm
    exact ⟨[], [], rfl, rfl⟩
  | cons part parts ih =>
    cases part with
    | blank c =>
      obtain ⟨front, back, rfl, same⟩ := ih h
      exact ⟨.blank c :: front, back, rfl, same⟩
    | lexeme chars outcome =>
      cases first with
      | nil => exact ⟨[], _, rfl, rfl⟩
      | cons found first =>
        obtain ⟨rfl, later⟩ := List.cons.inj h
        obtain ⟨front, back, rfl, same⟩ := ih later
        exact ⟨.lexeme chars outcome :: front, back, rfl, congrArg (_ :: ·) same⟩

/-- The first parts of a text are the parts of its beginning. -/
theorem Cut.front {cs : List Char} {front back : List Part} (cut : Cut cs (front ++ back)) :
    Cut (front.flatMap Part.chars) front := by
  induction front generalizing cs with
  | nil => exact .nil
  | cons part front ih =>
    cases cut with
    | blank isBlank later => exact .blank isBlank (ih later)
    | @lexeme c chars rest outcome _ solid read later =>
      have whole : front.flatMap Part.chars ++ back.flatMap Part.chars = rest := by
        rw [← List.flatMap_append]
        exact later.chars
      have shorter : Lexeme.read c (chars ++ front.flatMap Part.chars) =
          ⟨outcome, front.flatMap Part.chars⟩ := by
        by_cases ended : outcome = .error .unterminatedText
        · subst ended
          obtain rfl := Lexeme.read_unterminated read
          rw [(List.append_eq_nil_iff.mp whole).1]
          exact read
        · apply Lexeme.read_follows read ended
          intro d hd
          rw [← whole, List.head?_append, hd]
          exact .inl rfl
      exact .lexeme solid shorter (ih later)

theorem lexemes_front {cs : List Char} {first second : List (Placed (Except Mistake Token))}
    (h : lexemes 0 cs = first ++ second) : ∃ front, lexemes 0 front = first := by
  obtain ⟨parts, cut⟩ := exists_cut cs
  rw [lexemes_cut cut] at h
  obtain ⟨front, back, rfl, same⟩ := outcomes_split h
  exact ⟨_, (lexemes_cut cut.front 0).trans same⟩

namespace Tokens

/-- The first tokens of a text are the tokens of its beginning. -/
theorem exists_front {s : String} {ts us : List (Placed Token)} (lexed : ofText s = ⟨ts ++ us, []⟩) :
    ∃ front, ofText front = ⟨ts, []⟩ := by
  rw [ofText_eq_iff, List.map_append] at lexed
  obtain ⟨front, found⟩ := lexemes_front lexed
  refine ⟨String.ofList front, ?_⟩
  rwa [ofText_eq_iff, String.toList_ofList]

/-- A text without mistakes can go on with any tokens that a text can have. -/
theorem exists_continued {s : String} {ts : List (Placed Token)} (lexed : ofText s = ⟨ts, []⟩)
    {more : List Token} (lexable : ∀ t ∈ more, t.Lexable) :
    ∃ s' us, ofText s' = ⟨ts ++ us, []⟩ ∧ us.map Placed.value = more := by
  obtain ⟨values, clean⟩ := ofText_spelled lexable
  have rest : ofText (spelled more) = ⟨(ofText (spelled more)).tokens, []⟩ := by rw [← clean]
  rw [ofText_eq_iff] at lexed rest
  have ended : ∀ p ∈ lexemes 0 s.toList, p.value ≠ .error .unterminatedText := by
    rw [lexed]
    intro p hp
    obtain ⟨t, -, rfl⟩ := List.mem_map.mp hp
    simp [Placed.found]
  have joined := @lexemes_joined s.toList (spelled more).toList ' ' (by decide) ended
  let offset := byteLength (s.toList ++ [' '])
  refine ⟨String.ofList (s.toList ++ ' ' :: (spelled more).toList),
    (ofText (spelled more)).tokens.map (Placed.moved offset), ?_, ?_⟩
  · rw [ofText_eq_iff, String.toList_ofList, joined, lexed, rest, List.map_append, List.map_map,
      List.map_map]
    rfl
  · rw [List.map_map]
    exact values

end Tokens

theorem ofText_of_lexed {s : String} {ts : List (Placed Token)} (lexed : Tokens.ofText s = ⟨ts, []⟩)
    (some : ts ≠ []) (prec : Precedence) :
    Filter.ofText prec s = Filter.ofTokens prec ts := by
  have clean : (Tokens.ofText s).mistakes = [] := by rw [lexed]
  have solid : Text.allBlank s = false := by
    rw [← Bool.not_eq_true, ← Tokens.tokens_eq_nil_iff clean, lexed]
    exact some
  rw [ofText_of_clean clean solid, lexed]

/-! ## Where the reader stops -/

/-- Once the reader has stopped, it says the same whatever follows. -/
theorem ofText_of_stopped {ts : List (Placed Token)} {e : FilterError}
    (stopped : ts.foldlM Progress.step Progress.start = .error e) {s : String}
    {us : List (Placed Token)} (lexed : Tokens.ofText s = ⟨ts ++ us, []⟩) (prec : Precedence) :
    Filter.ofText prec s = .error e := by
  have some : ts ++ us ≠ [] := by
    intro none
    obtain ⟨rfl, -⟩ := List.append_eq_nil_iff.mp none
    cases stopped
  rw [ofText_of_lexed lexed some, Filter.ofTokens_eq, Phrase.ofTokens_append, stopped]
  rfl

/-- As long as the reader has not stopped, some text that starts with the same tokens is a filter. -/
theorem exists_filter_of_run {ts us : List (Placed Token)} {p : Progress}
    (ran : ts.foldlM Progress.step Progress.start = .ok p) {s : String}
    (lexed : Tokens.ofText s = ⟨ts ++ us, []⟩) (prec : Precedence) :
    ∃ s' more f, Tokens.ofText s' = ⟨ts ++ more, []⟩ ∧ Filter.ofText prec s' = .ok f := by
  obtain ⟨front, lexedFront⟩ := Tokens.exists_front lexed
  obtain ⟨s', more, lexed', values⟩ := Tokens.exists_continued lexedFront p.completion_lexable
  obtain ⟨phrase, completed⟩ := Progress.run_completion values
  have read : Phrase.ofTokens (ts ++ more) = .ok phrase := by
    rw [Phrase.ofTokens_append, ran]
    exact completed
  have some : ts ++ more ≠ [] := by
    intro none
    rw [none] at read
    cases read
  refine ⟨s', more, phrase.toFilter prec, lexed', ?_⟩
  rw [ofText_of_lexed lexed' some, Filter.ofTokens_eq, read]
  rfl

/-- Where no filter starts with these tokens, every text that starts with them fails alike: there is one
error for all of them, whatever follows. -/
theorem first_mistake_decides (prec : Precedence) (ts : List (Placed Token))
    (dead : ∀ s more f, Tokens.ofText s = ⟨ts ++ more, []⟩ → Filter.ofText prec s ≠ .ok f) :
    ∃ e, ∀ s more, Tokens.ofText s = ⟨ts ++ more, []⟩ → Filter.ofText prec s = .error e := by
  cases ran : ts.foldlM Progress.step Progress.start with
  | error e => exact ⟨e, fun s more lexed => ofText_of_stopped ran lexed prec⟩
  | ok p =>
    refine ⟨.empty, ?_⟩
    intro s more lexed
    obtain ⟨s', more', f, lexed', read⟩ := exists_filter_of_run ran lexed prec
    exact absurd read (dead s' more' f lexed')

/-- The 65th parenthesis is one too many, whether it is closed or something follows it. -/
theorem first_mistake_decides_nested :
    let ts : List (Placed Token) := (List.range 65).map fun i => ⟨i, .opening⟩
    let closed := String.ofList (List.replicate 65 '(') ++ ")"
    let tested := String.ofList (List.replicate 65 '(') ++ "a pr"
    (∀ s more f, Tokens.ofText s = ⟨ts ++ more, []⟩ → Filter.ofText .andBindsTighter s ≠ .ok f) ∧
      Tokens.ofText closed = ⟨ts ++ [⟨65, .closing⟩], []⟩ ∧
      Tokens.ofText tested = ⟨ts ++ [⟨65, .identifier "a"⟩, ⟨67, .operator .present⟩], []⟩ ∧
      ∃ e, Filter.ofText .andBindsTighter closed = .error e ∧
        Filter.ofText .andBindsTighter tested = .error e := by
  intro ts closed tested
  have stopped : ts.foldlM Progress.step Progress.start = .error (.tooDeep 64) := by decide +kernel
  have dead : ∀ s more f, Tokens.ofText s = ⟨ts ++ more, []⟩ →
      Filter.ofText .andBindsTighter s ≠ .ok f := by
    intro s more f lexed read
    rw [ofText_of_stopped stopped lexed] at read
    cases read
  have lexedClosed : Tokens.ofText closed = ⟨ts ++ [⟨65, .closing⟩], []⟩ := by decide +kernel
  have lexedTested : Tokens.ofText tested =
      ⟨ts ++ [⟨65, .identifier "a"⟩, ⟨67, .operator .present⟩], []⟩ := by decide +kernel
  obtain ⟨e, fails⟩ := first_mistake_decides .andBindsTighter ts dead
  exact ⟨dead, lexedClosed, lexedTested, e, fails closed _ lexedClosed, fails tested _ lexedTested⟩

end FilterSql
