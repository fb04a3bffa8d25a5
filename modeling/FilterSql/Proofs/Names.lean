import FilterSql.Text.Name

/-! Names end where their characters do, and so do other runs of characters of one kind. -/

namespace FilterSql

theorem span_append {p : Char → Bool} {a r : List Char} (ha : ∀ c ∈ a, p c = true)
    (hr : ∀ c ∈ r.head?, p c = false) :
    (a ++ r).takeWhile p = a ∧ (a ++ r).dropWhile p = r := by
  rw [List.takeWhile_append_of_pos ha, List.dropWhile_append_of_pos ha]
  cases r with
  | nil => simp
  | cons d r => simp [hr d rfl]

theorem span_unique {p : Char → Bool} {a b r s : List Char} (ha : ∀ c ∈ a, p c = true)
    (hb : ∀ c ∈ b, p c = true) (hr : ∀ c ∈ r.head?, p c = false) (hs : ∀ c ∈ s.head?, p c = false)
    (h : a ++ r = b ++ s) : a = b ∧ r = s := by
  induction a generalizing b with
  | nil =>
    cases b with
    | nil => exact ⟨rfl, h⟩
    | cons d b =>
      have outside := hr d (by rw [List.nil_append] at h; simp [h])
      rw [hb d (List.mem_cons_self ..)] at outside
      cases outside
  | cons d a ih =>
    cases b with
    | nil =>
      have outside := hs d (by rw [List.nil_append] at h; simp [← h])
      rw [ha d (List.mem_cons_self ..)] at outside
      cases outside
    | cons e b =>
      obtain ⟨rfl, tail⟩ := List.cons.inj h
      obtain ⟨rfl, rest⟩ := ih (fun c hc => ha c (List.mem_cons_of_mem _ hc))
        (fun c hc => hb c (List.mem_cons_of_mem _ hc)) tail
      exact ⟨rfl, rest⟩

/-- No name goes on here. -/
def Ends (rest : List Char) : Prop :=
  ∀ c ∈ rest.head?, Text.isNameChar c = false

theorem ends_nil : Ends [] := by
  intro c hc
  cases hc

theorem ends_cons {c : Char} (hc : Text.isNameChar c = false) (rest : List Char) :
    Ends (c :: rest) := by
  intro d hd
  cases hd
  exact hc

theorem isNameChar_of_isNameStart {c : Char} (h : Text.isNameStart c = true) :
    Text.isNameChar c = true := by
  simp only [Text.isNameStart, Text.isNameChar, Char.isAlphanum, Bool.or_eq_true] at h ⊢
  rcases h with alpha | under
  · exact .inl (.inl (.inl alpha))
  · exact .inl (.inr under)

/-- A name starts with a name character and consists of them. -/
theorem name_chars {s : String} (h : Text.isName s = true) :
    ∃ c cs, s.toList = c :: cs ∧ ∀ d ∈ s.toList, Text.isNameChar d = true := by
  unfold Text.isName at h
  cases hs : s.toList with
  | nil => simp [hs, Text.isNameChars] at h
  | cons c cs =>
    simp only [hs, Text.isNameChars, Bool.and_eq_true, List.all_eq_true] at h
    refine ⟨c, cs, rfl, ?_⟩
    intro d hd
    rcases List.mem_cons.mp hd with rfl | hd
    · exact isNameChar_of_isNameStart h.1
    · exact h.2 d hd

theorem name_unique {a b : String} {r s : List Char} (ha : Text.isName a = true)
    (hb : Text.isName b = true) (hr : Ends r) (hs : Ends s)
    (h : a.toList ++ r = b.toList ++ s) : a = b ∧ r = s := by
  obtain ⟨_, _, _, charsA⟩ := name_chars ha
  obtain ⟨_, _, _, charsB⟩ := name_chars hb
  obtain ⟨same, rest⟩ := span_unique charsA charsB hr hs h
  exact ⟨String.toList_inj.mp same, rest⟩

/-- A name is never the beginning of a text that opens with anything but a name character. -/
theorem name_ne {a : String} {c : Char} {r s : List Char} (ha : Text.isName a = true)
    (hc : Text.isNameChar c = false) : a.toList ++ r ≠ c :: s := by
  intro same
  obtain ⟨d, ds, shape, chars⟩ := name_chars ha
  rw [shape, List.cons_append] at same
  have inside := chars d (by simp [shape])
  rw [(List.cons.inj same).1, hc] at inside
  cases inside

end FilterSql
