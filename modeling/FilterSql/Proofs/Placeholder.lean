import FilterSql.Parameter
import FilterSql.Text.Name

/-!
The names of bound values. Whatever is bound one after another is numbered from the first to the last, and
each name finds the value that was bound under it.
-/

namespace FilterSql

theorem integerText_toList (n : Nat) : (Number.integerText n).toList = Nat.toDigits 10 n := by
  have positive : ¬ (n : Int) < 0 := by omega
  simp only [Number.integerText, if_neg positive, String.toList_ofList, Int.natAbs_natCast]

namespace Bindings

theorem placeholder_injective {m n : Nat} (h : placeholder m = placeholder n) : m = n := by
  have texts := congrArg String.toList h
  simp only [placeholder, String.toList_append, integerText_toList,
    List.append_cancel_left_eq] at texts
  have values := congrArg (Nat.ofDigitChars 10 · 0) texts
  simpa only [Nat.ofDigitChars_ten_toDigits] using values

theorem placeholder_isName (n : Nat) : Text.isName (placeholder n) = true := by
  have digits : (Nat.toDigits 10 n).all Text.isNameChar = true := by
    apply List.all_eq_true.mpr
    intro c hc
    have digit := Nat.isDigit_of_mem_toDigits (by decide) (by decide) hc
    simp [Text.isNameChar, Char.isAlphanum, digit]
  have lead : Text.isNameChars "__value_".toList = true := by decide
  simp only [Text.isName, placeholder, String.toList_append, integerText_toList]
  simpa [Text.isNameChars, digits] using lead

theorem nodup_placeholders (n : Nat) : ((List.range n).map placeholder).Nodup :=
  List.Pairwise.map placeholder (fun _ _ different same => different (placeholder_injective same))
    List.nodup_range

/-- The bound values in order. -/
def values (b : Bindings) : List Parameter :=
  b.toList.map Prod.snd

/-- The names are those of the places from the first to the last, so that no two are the same. -/
structure Numbered (b : Bindings) : Prop where
  names : b.names = (List.range b.size).map placeholder
  nodup : b.names.Nodup

theorem numbered_of_names {b : Bindings} (names : b.names = (List.range b.size).map placeholder) :
    b.Numbered :=
  ⟨names, names ▸ nodup_placeholders b.size⟩

theorem length_names (b : Bindings) : b.names.length = b.size :=
  List.length_map _

theorem length_values (b : Bindings) : b.values.length = b.size :=
  List.length_map _

/-! ## Adding values -/

theorem size_push (b : Bindings) (v : Parameter) : (b.push v).size = b.size + 1 := by
  simp [push, size]

theorem names_push (b : Bindings) (v : Parameter) :
    (b.push v).names = b.names ++ [placeholder b.size] := by
  simp [push, Bindings.names]

theorem values_push (b : Bindings) (v : Parameter) : (b.push v).values = b.values ++ [v] := by
  simp [push, values]

theorem prefix_push (b : Bindings) (v : Parameter) : b.toList <+: (b.push v).toList :=
  List.prefix_append _ _

theorem numbered_empty : empty.Numbered :=
  numbered_of_names rfl

theorem Numbered.push {b : Bindings} (numbered : b.Numbered) (v : Parameter) :
    (b.push v).Numbered := by
  apply numbered_of_names
  rw [names_push, size_push, List.range_succ, List.map_append, numbered.names]
  rfl

/-- Values bound one after another. -/
def pushAll (b : Bindings) (values : List Parameter) : Bindings :=
  values.foldl push b

/-- Bindings that hold the given values. -/
def ofValues (values : List Parameter) : Bindings :=
  empty.pushAll values

theorem pushAll_append (b : Bindings) (vs ws : List Parameter) :
    b.pushAll (vs ++ ws) = (b.pushAll vs).pushAll ws :=
  List.foldl_append

theorem values_pushAll (b : Bindings) (vs : List Parameter) :
    (b.pushAll vs).values = b.values ++ vs := by
  induction vs generalizing b with
  | nil => exact (List.append_nil _).symm
  | cons v vs ih => rw [pushAll, List.foldl_cons, ← pushAll, ih, values_push, List.append_assoc]; rfl

theorem prefix_pushAll (b : Bindings) (vs : List Parameter) : b.toList <+: (b.pushAll vs).toList := by
  induction vs generalizing b with
  | nil => exact List.prefix_refl _
  | cons v vs ih => exact (b.prefix_push v).trans (ih (b.push v))

theorem Numbered.pushAll {b : Bindings} (numbered : b.Numbered) (vs : List Parameter) :
    (b.pushAll vs).Numbered := by
  induction vs generalizing b with
  | nil => exact numbered
  | cons v vs ih => exact ih (numbered.push v)

theorem numbered_ofValues (vs : List Parameter) : (ofValues vs).Numbered :=
  numbered_empty.pushAll vs

theorem values_ofValues (vs : List Parameter) : (ofValues vs).values = vs :=
  values_pushAll empty vs

theorem size_ofValues (vs : List Parameter) : (ofValues vs).size = vs.length := by
  rw [← length_values, values_ofValues]

theorem Numbered.isName {b : Bindings} (numbered : b.Numbered) :
    ∀ name ∈ b.names, Text.isName name = true := by
  rw [numbered.names]
  exact List.forall_mem_map.mpr fun n _ => placeholder_isName n

/-! ## Looking up -/

/-- A new name is one that nothing was bound to. -/
theorem Numbered.fresh {b : Bindings} (numbered : b.Numbered) : placeholder b.size ∉ b.names := by
  rw [numbered.names]
  intro member
  obtain ⟨n, inside, same⟩ := List.mem_map.mp member
  rw [placeholder_injective same] at inside
  exact absurd (List.mem_range.mp inside) (Nat.lt_irrefl _)

theorem get?_eq_none {b : Bindings} {name : String} (unknown : name ∉ b.names) :
    b.get? name = none := by
  apply List.lookup_eq_none_iff.mpr
  intro entry member
  apply bne_iff_ne.mpr
  rintro rfl
  exact unknown (List.mem_map_of_mem member)

theorem get?_push {b : Bindings} (numbered : b.Numbered) (v : Parameter) :
    (b.push v).get? (placeholder b.size) = some v := by
  rw [get?, push, List.lookup_append, ← get?, get?_eq_none numbered.fresh]
  simp

/-- A name finds the value that it stands beside. -/
theorem Numbered.get?_of_mem {b : Bindings} (numbered : b.Numbered) {name : String} {v : Parameter}
    (entry : (name, v) ∈ b.toList) : b.get? name = some v := by
  obtain ⟨before, after, split⟩ := List.append_of_mem entry
  refine List.lookup_eq_some_iff.mpr ⟨before, after, split, ?_⟩
  have distinct := numbered.nodup
  rw [Bindings.names, split, List.map_append, List.nodup_append] at distinct
  intro other member
  apply bne_iff_ne.mpr
  exact (distinct.2.2 other.1 (List.mem_map_of_mem member) name (by simp)).symm

/-- What is bound stays bound when values are added after it. -/
theorem get?_grown {b b' : Bindings} (h : b.toList <+: b'.toList) {name : String} {v : Parameter}
    (found : b.get? name = some v) : b'.get? name = some v := by
  obtain ⟨rest, whole⟩ := h
  rw [get?, ← whole, List.lookup_append, ← get?, found]
  rfl

end Bindings

end FilterSql
