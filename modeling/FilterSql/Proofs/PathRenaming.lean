import FilterSql.Mapping
import FilterSql.Proofs.Names
import Mathlib.Data.List.Infix

/-!
Rules whose patterns are attribute paths with their dots escaped. The pattern of such a rule finds the path and
nothing else, so that applying the rule and undoing it both replace one plain text by another. Where no text of
a rule occurs in a text of another one, each path is renamed by its own rule alone, and renamed back by it, in
whatever order the rules stand.
-/

namespace FilterSql

/-! ## Patterns of plain text -/

namespace Pattern

theorem CharSet.contains_single (c d : Char) : (CharSet.single c).contains d = decide (c = d) := by
  rw [Bool.eq_iff_iff]
  simp only [CharSet.single, CharSet.contains, Bool.and_eq_true, decide_eq_true_eq]
  constructor
  · rintro ⟨below, above⟩
    exact Char.le_antisymm below above
  · rintro rfl
    exact ⟨Char.le_refl _, Char.le_refl _⟩

namespace Node

/-- The pattern takes the given characters one after the other and then ends. -/
inductive Spells : Node → List Char → Prop
  | nil : Spells .empty []
  | single (c : Char) : Spells (.chars (.single c)) [c]
  | cons (c : Char) {n : Node} {cs : List Char} :
      Spells n cs → Spells (.seq (.chars (.single c)) n) (c :: cs)

/-- Wherever such a pattern stands, there is one way to go on. -/
theorem Spells.heads {n : Node} {c : Char} {cs : List Char} (h : Spells n (c :: cs)) :
    ∃ rest, Spells rest cs ∧ ∀ before after, n.heads before after = [.step (.single c) rest] := by
  cases h with
  | single => exact ⟨.empty, .nil, fun _ _ => rfl⟩
  | cons _ inner => exact ⟨_, inner, fun _ _ => rfl⟩

/-- A text matches exactly if it starts with the characters. -/
theorem Spells.run {n : Node} {cs : List Char} (h : Spells n cs) (before : Option Char)
    (text : List Char) (best : Option (List Char)) :
    Node.run before [n] text best =
      if cs.isPrefixOf text then some (text.drop cs.length) else best := by
  induction cs generalizing n before text with
  | nil =>
    cases h
    cases text <;> rfl
  | cons c cs ih =>
    obtain ⟨rest, inner, heads⟩ := h.heads
    have one {α : Type} [BEq α] (x : α) : [x].eraseDups = [x] := rfl
    cases text with
    | nil => simp [Node.run, heads, dedup, one]
    | cons d text =>
      have next : Node.run before [n] (d :: text) best =
          if c = d then Node.run (some d) [rest] text best else best := by
        by_cases same : c = d <;> simp [Node.run, heads, dedup, one, CharSet.contains_single, same]
      rw [next, ih inner]
      by_cases same : c = d <;> simp [same]

theorem Spells.matchHere {n : Node} {cs : List Char} (h : Spells n cs) (before : Option Char)
    (text : List Char) :
    n.matchHere before text = if cs.isPrefixOf text then some (text.drop cs.length) else none :=
  h.run before text none

/-- To replace the matches of such a pattern is to replace the characters. -/
theorem Spells.replaceAll {n : Node} {cs : List Char} (h : Spells n cs) (nonempty : cs ≠ [])
    (replacement : List Char) (before : Option Char) (afterMatch : Bool) (text : List Char) :
    n.replaceAll replacement before afterMatch text = Text.replaceChars cs replacement text := by
  fun_induction Text.replaceChars cs replacement text generalizing before afterMatch with
  | case1 =>
    have missed := h.matchHere before []
    rw [if_neg (by simpa using nonempty)] at missed
    simp [Node.replaceAll, missed]
  | case2 d text starts ih =>
    have found := h.matchHere before (d :: text)
    have rest : (d :: text).drop cs.length = text.drop (cs.length - 1) := by
      obtain ⟨c, cs, rfl⟩ := List.exists_cons_of_ne_nil nonempty
      rfl
    have shorter : (text.drop (cs.length - 1)).length < (d :: text).length := by
      simp only [List.length_drop, List.length_cons]
      omega
    rw [if_pos starts, rest] at found
    simp only [Node.replaceAll, found, if_pos shorter, ih]
  | case3 d text differs ih =>
    have missed := h.matchHere before (d :: text)
    rw [if_neg differs] at missed
    simp [Node.replaceAll, missed, ih]

end Node

/-- Characters with a backslash before each dot. -/
def escapeDots (cs : List Char) : List Char :=
  cs.flatMap fun c => if c = '.' then ['\\', '.'] else [c]

theorem escapeDots_cons (c : Char) (cs : List Char) :
    escapeDots (c :: cs) = (if c = '.' then ['\\', '.'] else [c]) ++ escapeDots cs :=
  List.flatMap_cons

/-- Without its backslashes the escaped text is the text. -/
theorem filter_escapeDots {cs : List Char} (names : ∀ c ∈ cs, Text.isNameChar c = true) :
    (escapeDots cs).filter (· != '\\') = cs := by
  induction cs with
  | nil => rfl
  | cons c cs ih =>
    obtain ⟨name, names⟩ := List.forall_mem_cons.mp names
    rw [escapeDots_cons, List.filter_append, ih names]
    by_cases dot : c = '.'
    · subst dot
      rfl
    · have plain : c ≠ '\\' := by
        rintro rfl
        cases name
      simp [dot, plain]

def Piece.ofChar (c : Char) : Piece :=
  .leaf (.chars (.single c))

theorem Piece.sequence_of_two {pieces : List Piece} (two : 2 ≤ pieces.length) :
    sequence pieces =
      ⟨pieces.foldl (fun n p => p.node.andThen n) .empty, 1 + deepest pieces, total pieces, true⟩ := by
  match pieces, two with
  | _ :: _ :: _, _ => rfl

/-- One character after the other is a pattern that nests at most once. -/
theorem Piece.sequence_ofChar {cs : List Char} (nonempty : cs ≠ []) :
    (sequence (cs.map ofChar).reverse).node.Spells cs ∧
      (sequence (cs.map ofChar).reverse).depth ≤ 1 := by
  have spelled (cs : List Char) :
      Node.Spells ((cs.map ofChar).reverse.foldl (fun n p => p.node.andThen n) .empty) cs := by
    induction cs with
    | nil => exact .nil
    | cons c cs ih =>
      rw [List.map_cons, List.reverse_cons, List.foldl_append]
      exact .cons c ih
  have flat (cs : List Char) : deepest (cs.map ofChar).reverse = 0 := by
    induction cs with
    | nil => rfl
    | cons c cs ih => simpa [deepest, ofChar, leaf] using ih
  match cs with
  | [c] => exact ⟨.single c, Nat.zero_le _⟩
  | c :: d :: cs =>
    have longer : 2 ≤ ((c :: d :: cs).map ofChar).reverse.length := by simp
    rw [sequence_of_two longer]
    exact ⟨spelled _, by rw [flat]⟩

namespace Reader

/-- Pieces read outside of all groups, with no mode changed. -/
def having (pieces : List Piece) : Reader :=
  ⟨{}, [], [], pieces, []⟩

theorem step?_name {c : Char} (name : Text.isNameChar c = true) (notDot : c ≠ '.')
    (pieces : List Piece) (rest : List Char) :
    (having pieces).step? c rest = some (having (.ofChar c :: pieces), rest) := by
  unfold step?
  split
  case h_10 => exact absurd rfl notDot
  case h_13 => rfl
  all_goals cases name

theorem step?_dot (pieces : List Piece) (rest : List Char) :
    (having pieces).step? '\\' ('.' :: rest) = some (having (.ofChar '.' :: pieces), rest) :=
  rfl

theorem read?_step {pieces pieces' : List Piece} {c : Char} {rest rest' : List Char}
    (step : (having pieces).step? c rest = some (having pieces', rest'))
    (shorter : rest'.length ≤ rest.length) :
    (having pieces).read? (c :: rest) = (having pieces').read? rest' := by
  have whole : (having pieces).flags.skip (c :: rest) = c :: rest := rfl
  rw [read?, whole]
  simp only [step, List.length_cons, if_pos (Nat.lt_succ_of_le shorter)]

theorem read?_escapeDots {cs : List Char} (names : ∀ c ∈ cs, Text.isNameChar c = true)
    (pieces : List Piece) :
    (having pieces).read? (escapeDots cs) = (having ((cs.map .ofChar).reverse ++ pieces)).finish? := by
  induction cs generalizing pieces with
  | nil => simp [read?, escapeDots, Flags.skip, having]
  | cons c cs ih =>
    obtain ⟨name, names⟩ := List.forall_mem_cons.mp names
    have next : (having pieces).read? (escapeDots (c :: cs)) =
        (having (.ofChar c :: pieces)).read? (escapeDots cs) := by
      by_cases dot : c = '.'
      · subst dot
        exact read?_step (step?_dot pieces (escapeDots cs)) (Nat.le_succ _)
      · rw [escapeDots_cons, if_neg dot]
        exact read?_step (step?_name name dot pieces (escapeDots cs)) (Nat.le_refl _)
    rw [next, ih names]
    simp

end Reader

/-- The pattern that escapes the dots of a path spells the path. -/
theorem Node.ofText?_escapeDots {cs : List Char} (nonempty : cs ≠ [])
    (names : ∀ c ∈ cs, Text.isNameChar c = true) :
    ∃ n, Node.ofText? (String.ofList (escapeDots cs)) = some n ∧ n.Spells cs := by
  obtain ⟨spells, flat⟩ := Piece.sequence_ofChar nonempty
  refine ⟨_, ?_, spells⟩
  have read := Reader.read?_escapeDots names []
  rw [List.append_nil] at read
  have within : ¬ maxNesting < (Piece.sequence (cs.map Piece.ofChar).reverse).depth := by
    have limit : maxNesting = 250 := rfl
    omega
  rw [Node.ofText?, String.toList_ofList]
  exact read.trans (by simp [Reader.finish?, Reader.having, Reader.innermost, Piece.alternatives, within])

end Pattern

/-! ## Replacing one text by another -/

namespace Text

theorem replaceChars_of_absent {old new cs : List Char} (absent : ¬ old <:+: cs) :
    replaceChars old new cs = cs := by
  induction cs with
  | nil => simp [replaceChars]
  | cons c cs ih =>
    have elsewhere : ¬ old <+: c :: cs := fun starts => absent starts.isInfix
    have later : ¬ old <:+: cs := fun found => absent (List.infix_cons found)
    rw [replaceChars, if_neg (by simpa using elsewhere), ih later]

theorem replaceChars_self {old : List Char} (nonempty : old ≠ []) (new : List Char) :
    replaceChars old new old = new := by
  obtain ⟨c, cs, rfl⟩ := List.exists_cons_of_ne_nil nonempty
  simp [replaceChars]

/-- One text stands somewhere within the other. -/
def Occurs (s t : String) : Prop :=
  s.toList <:+: t.toList

instance (s t : String) : Decidable (Occurs s t) :=
  inferInstanceAs (Decidable (s.toList <:+: t.toList))

theorem replace_of_absent {old new s : String} (absent : ¬ Occurs old s) : replace old new s = s := by
  rw [replace, replaceChars_of_absent absent, String.ofList_toList]

theorem replace_self {old : String} (nonempty : old ≠ "") (new : String) : replace old new old = new := by
  rw [replace, replaceChars_self (by simpa using nonempty), String.ofList_toList]

end Text

/-! ## Rules that rename a path -/

/-- An attribute path and the column that it is renamed to. -/
structure Renaming where
  path : String
  column : String
  named : Text.isName path = true
  filled : column ≠ ""

namespace Renaming

/-- The rule of the renaming, as it is written down: a pattern and what its matches become. -/
def written (r : Renaming) : String × String :=
  (String.ofList (Pattern.escapeDots r.path.toList), r.column)

def rename (r : Renaming) (s : String) : String :=
  Text.replace r.path r.column s

def restore (r : Renaming) (s : String) : String :=
  Text.replace r.column r.path s

theorem path_ne (r : Renaming) : r.path ≠ "" := by
  obtain ⟨c, cs, shape, -⟩ := name_chars r.named
  intro empty
  rw [empty] at shape
  cases shape

/-- The rule of a renaming does what the renaming says, and undoing it does the opposite. -/
theorem ofPair?_written (r : Renaming) :
    ∃ rule, Rule.ofPair? r.written.1 r.written.2 = some rule ∧
      (∀ s, rule.apply s = r.rename s) ∧ ∀ s, rule.undo s = r.restore s := by
  obtain ⟨c, cs, shape, names⟩ := name_chars r.named
  have nonempty : r.path.toList ≠ [] := by simp [shape]
  obtain ⟨n, read, spells⟩ := Pattern.Node.ofText?_escapeDots nonempty names
  refine ⟨⟨r.written.1, n, r.column⟩, by simp [Rule.ofPair?, written, read], ?_, ?_⟩
  · intro s
    rw [Rule.apply, spells.replaceAll nonempty]
    rfl
  · intro s
    have filled : r.column.isEmpty = false := by simpa using r.filled
    have source : String.ofList (r.written.1.toList.filter (· != '\\')) = r.path := by
      rw [written, String.toList_ofList, Pattern.filter_escapeDots names, String.ofList_toList]
    simp only [Rule.undo, filled, source, restore]
    rfl

/-- Rules of renamings replace plain texts, one rule after the other, and undoing them goes backwards. -/
theorem ofPairs_written (rs : List Renaming) :
    ∃ m, Mapping.ofPairs (rs.map written) = .ok m ∧
      (∀ s, m.apply s = rs.foldl (fun s r => r.rename s) s) ∧
      ∀ s, m.undo s = rs.foldr restore s := by
  induction rs with
  | nil => exact ⟨⟨[]⟩, rfl, fun _ => rfl, fun _ => rfl⟩
  | cons r rs ih =>
    obtain ⟨rule, made, apply, undo⟩ := r.ofPair?_written
    obtain ⟨m, read, applyRest, undoRest⟩ := ih
    refine ⟨⟨rule :: m.rules⟩, ?_, ?_, ?_⟩
    · simp [Mapping.ofPairs, made, read, Except.map]
    · intro s
      rw [List.foldl_cons, ← applyRest, ← apply]
      rfl
    · intro s
      rw [List.foldr_cons, ← undoRest, ← undo]
      simp [Mapping.undo]

/-! ## Rules side by side -/

def texts (r : Renaming) : List String :=
  [r.path, r.column]

/-- No text of the one renaming occurs in a text of the other. -/
def Apart (r r' : Renaming) : Prop :=
  ∀ s ∈ r.texts, ∀ t ∈ r'.texts, ¬ Text.Occurs s t ∧ ¬ Text.Occurs t s

instance (r r' : Renaming) : Decidable (Apart r r') :=
  inferInstanceAs (Decidable (∀ s ∈ r.texts, ∀ t ∈ r'.texts, ¬ Text.Occurs s t ∧ ¬ Text.Occurs t s))

theorem Apart.symm {r r' : Renaming} (h : Apart r r') : Apart r' r := by
  intro s hs t ht
  exact (h t ht s hs).symm

theorem Apart.rename {r r' : Renaming} (h : Apart r r') {s : String} (own : s ∈ r.texts) :
    r'.rename s = s :=
  Text.replace_of_absent (h s own r'.path (by simp [texts])).2

theorem Apart.restore {r r' : Renaming} (h : Apart r r') {s : String} (own : s ∈ r.texts) :
    r'.restore s = s :=
  Text.replace_of_absent (h s own r'.column (by simp [texts])).2

theorem rename_path (r : Renaming) : r.rename r.path = r.column :=
  Text.replace_self r.path_ne r.column

theorem restore_column (r : Renaming) : r.restore r.column = r.path :=
  Text.replace_self r.filled r.path

theorem foldl_rename_of_apart {r : Renaming} {rs : List Renaming} (apart : ∀ r' ∈ rs, Apart r r')
    {s : String} (own : s ∈ r.texts) : rs.foldl (fun s r => r.rename s) s = s := by
  induction rs with
  | nil => rfl
  | cons r' rs ih =>
    obtain ⟨first, others⟩ := List.forall_mem_cons.mp apart
    rw [List.foldl_cons, first.rename own, ih others]

theorem foldr_restore_of_apart {r : Renaming} {rs : List Renaming} (apart : ∀ r' ∈ rs, Apart r r')
    {s : String} (own : s ∈ r.texts) : rs.foldr restore s = s := by
  induction rs with
  | nil => rfl
  | cons r' rs ih =>
    obtain ⟨first, others⟩ := List.forall_mem_cons.mp apart
    rw [List.foldr_cons, ih others, first.restore own]

/-- Each path is renamed by its own rule, and each column renamed back. -/
theorem fold_of_pairwise {rs : List Renaming} (apart : rs.Pairwise Apart) :
    ∀ r ∈ rs, rs.foldl (fun s r => r.rename s) r.path = r.column ∧
      rs.foldr restore r.column = r.path := by
  induction rs with
  | nil => simp
  | cons first rs ih =>
    obtain ⟨others, apart⟩ := List.pairwise_cons.mp apart
    intro r member
    rw [List.foldl_cons, List.foldr_cons]
    rcases List.mem_cons.mp member with rfl | member
    · rw [r.rename_path, foldl_rename_of_apart others (by simp [texts]),
        foldr_restore_of_apart others (by simp [texts]), r.restore_column]
      exact ⟨rfl, rfl⟩
    · have others := (others r member).symm
      obtain ⟨renamed, restored⟩ := ih apart r member
      rw [others.rename (by simp [texts]), restored, others.restore (by simp [texts])]
      exact ⟨renamed, rfl⟩

/-- Where no text of a rule occurs in a text of another rule, every path is renamed to its own column, and every
column is renamed back to its own path, whatever the order of the rules. A column may occur in its own path. -/
theorem renamings_round_trip {rs order : List Renaming} (apart : rs.Pairwise Apart)
    (reordered : order.Perm rs) :
    ∃ m, Mapping.ofPairs (order.map written) = .ok m ∧
      ∀ r ∈ rs, m.apply r.path = r.column ∧ m.undo r.column = r.path := by
  obtain ⟨m, read, apply, undo⟩ := ofPairs_written order
  have apart : order.Pairwise Apart := (reordered.pairwise_iff Apart.symm).mpr apart
  refine ⟨m, read, ?_⟩
  intro r member
  rw [apply, undo]
  exact fold_of_pairwise apart r (reordered.mem_iff.mpr member)

theorem renamings_round_trip_reversed :
    let email : Renaming := ⟨"emails.value", "email", by decide, by decide⟩
    let group : Renaming := ⟨"groups.display", "authorities", by decide, by decide⟩
    let phone : Renaming := ⟨"phoneNumbers.value", "phoneNumber", by decide, by decide⟩
    let rules := [("phoneNumbers\\.value", "phoneNumber"), ("groups\\.display", "authorities"),
      ("emails\\.value", "email")]
    [email, group, phone].Pairwise Apart ∧ [phone, group, email].map written = rules ∧
      Text.Occurs email.column email.path ∧
      ∃ m, Mapping.ofPairs rules = .ok m ∧ m.apply "emails.value" = "email" ∧
        m.undo "email" = "emails.value" := by
  intro email group phone rules
  have apart : [email, group, phone].Pairwise Apart := by decide
  have shape : [phone, group, email].map written = rules := by decide
  obtain ⟨m, read, renamed⟩ := renamings_round_trip apart (List.reverse_perm [email, group, phone])
  exact ⟨apart, shape, by decide, m, shape ▸ read, renamed email (by simp)⟩

end Renaming

end FilterSql
