import FilterSql.Proofs.Printing

/-! The attributes, literals and comparisons of a filter, as they stand among the tokens read. -/

namespace FilterSql

namespace Token

def identifier? : Token → Option String
  | identifier name => some name
  | _ => none

def literal? : Token → Option Literal
  | literal value => some value
  | _ => none

end Token

/-- The comparisons written out in a list of tokens: an attribute, an operator and a literal in a row. -/
def comparisons : List Token → List (String × Operator × Literal)
  | .identifier path :: .operator op :: .literal value :: rest =>
    (path, op, value) :: comparisons rest
  | _ :: rest => comparisons rest
  | [] => []

namespace Filter

def paths : Filter → List String
  | present path => [path]
  | compare path _ _ => [path]
  | join _ left right => left.paths ++ right.paths

def comparisons : Filter → List (String × Operator × Literal)
  | present _ => []
  | compare path op value => [(path, op, value)]
  | join _ left right => left.comparisons ++ right.comparisons

theorem length_comparisons (f : Filter) : f.comparisons.length = f.literalCount := by
  induction f with
  | present path => rfl
  | compare path op value => rfl
  | join c left right ihl ihr =>
    simp only [comparisons, literalCount, List.length_append, ihl, ihr]

end Filter

/-- Nothing in a row reaches across a connective or a parenthesis. -/
theorem comparisons_append (ts us : List Token) {t : Token} (notOperator : ∀ op, t ≠ .operator op)
    (notLiteral : ∀ value, t ≠ .literal value) :
    comparisons (ts ++ t :: us) = comparisons ts ++ comparisons (t :: us) := by
  fun_induction comparisons ts with
  | case1 path op value rest ih => simp [comparisons, ih]
  | case2 u rest apart ih =>
    rw [← ih, List.cons_append, comparisons]
    intro path op value rest' same whole
    rcases rest with _ | ⟨first, _ | ⟨second, rest⟩⟩
    · exact notOperator op (List.cons.inj whole).1
    · exact notLiteral value (List.cons.inj (List.cons.inj whole).2).1
    · obtain ⟨rfl, more⟩ := List.cons.inj whole
      obtain ⟨rfl, -⟩ := List.cons.inj more
      exact apart path op value rest same rfl
  | case3 => rfl

namespace Derives

variable {p : Precedence} {rank : Rank} {ts : List Token} {f : Filter}

/-- What single tokens give, the tests of the filter give in the same order, as long as connectives and
parentheses give nothing. -/
theorem filterMap_tokens {α : Type} {give : Token → Option α} {found : Filter → List α}
    (opening : give .opening = none) (closing : give .closing = none)
    (connective : ∀ c, give (.connective c) = none)
    (present : ∀ path,
      [.identifier path, .operator .present].filterMap give = found (.present path))
    (compare : ∀ path op value, [.identifier path, .operator op, .literal value].filterMap give =
      found (.compare path op value))
    (join : ∀ c left right, found (.join c left right) = found left ++ found right)
    (h : Derives p rank ts f) : ts.filterMap give = found f := by
  induction h using levels with
  | present path => exact present path
  | compare path op value valued => exact compare path op value
  | group ts f h ih =>
    have last : [Token.closing].filterMap give = [] := List.filterMap_cons_none closing
    rw [List.filterMap_cons_none opening, List.filterMap_append, ih, last, List.append_nil]
  | loosen rank looser ts f h le offered ih => exact ih
  | join c ts us f g hl hr ihl ihr =>
    rw [List.filterMap_append, List.filterMap_cons_none (connective c), ihl, ihr, join]

theorem identifiers (h : Derives p rank ts f) : ts.filterMap Token.identifier? = f.paths :=
  h.filterMap_tokens rfl rfl (fun _ => rfl) (fun _ => rfl) (fun _ _ _ => rfl) fun _ _ _ => rfl

theorem literals (h : Derives p rank ts f) :
    ts.filterMap Token.literal? = f.comparisons.map fun x => x.2.2 := by
  apply h.filterMap_tokens rfl rfl (fun _ => rfl) (fun _ => rfl) (fun _ _ _ => rfl)
  intro c left right
  rw [Filter.comparisons, List.map_append]

theorem comparisons (h : Derives p rank ts f) : FilterSql.comparisons ts = f.comparisons := by
  induction h using levels with
  | present path => rfl
  | compare path op value valued => rfl
  | group ts f h ih =>
    have inner := comparisons_append ts [] (t := .closing) (by simp) (by simp)
    rw [FilterSql.comparisons, inner, ih]
    · exact List.append_nil _
    · simp
  | loosen rank looser ts f h le offered ih => exact ih
  | join c ts us f g hl hr ihl ihr =>
    have across := comparisons_append ts us (t := .connective c) (by simp) (by simp)
    rw [across, FilterSql.comparisons, ihl, ihr, Filter.comparisons]
    simp

/-- Every comparison has an operator that takes a value. -/
theorem valued (h : Derives p rank ts f) : ∀ x ∈ f.comparisons, x.2.1 ≠ .present := by
  induction h using levels with
  | present path => simp [Filter.comparisons]
  | compare path op value valued => simpa [Filter.comparisons] using valued
  | group ts f h ih => exact ih
  | loosen rank looser ts f h le offered ih => exact ih
  | join c ts us f g hl hr ihl ihr => exact List.forall_mem_append.mpr ⟨ihl, ihr⟩

end Derives

/-! ## The tokens of a text -/

/-- The tokens of a text, without their positions. -/
def tokenValues (s : String) : List Token :=
  (Tokens.ofText s).tokens.map Placed.value

theorem tokenValues_of_blank {s : String} (blank : Text.allBlank s = true) : tokenValues s = [] := by
  have none := (lexemes_eq_nil_iff 0 s.toList).mpr blank
  simp [tokenValues, Tokens.ofText, none]

theorem derives_of_read {p : Precedence} {s : String} {f : Filter}
    (read : Filter.ofText p s = .ok f) : Derives p .expression (tokenValues s) f :=
  (Filter.ofText_ok_iff.mp read).2.1

end FilterSql
