import DockerMap.Lib.Text

/-! Slices of a text by byte offsets, as `&text[start..stop]` takes them. There is no slice
when the offsets are out of order, out of range or inside a character. -/

namespace Text

theorem byteLength_cons (c : Char) (l : List Char) :
    byteLength (c :: l) = c.utf8Size + byteLength l := by
  rw [byteLength, byteLength, List.map_cons, List.sum_cons]

theorem byteLength_append (a b : List Char) :
    byteLength (a ++ b) = byteLength a + byteLength b := by
  rw [byteLength, byteLength, byteLength, List.map_append, List.sum_append]

theorem eq_nil_of_byteLength {l : List Char} (h : byteLength l = 0) : l = [] := by
  cases l with
  | nil => rfl
  | cons c l =>
    rw [byteLength_cons] at h
    have hpos := c.utf8Size_pos
    omega

/-- The characters on the two sides of a byte offset. -/
def splitAtByte : List Char → ℕ → Option (List Char × List Char)
  | l, 0 => some ([], l)
  | [], _ + 1 => none
  | c :: l, n + 1 =>
      if n + 1 < c.utf8Size then none
      else (splitAtByte l (n + 1 - c.utf8Size)).map fun parts => (c :: parts.1, parts.2)

def sliceBytes (l : List Char) (start stop : ℕ) : Option (List Char) :=
  if start ≤ stop then
    (splitAtByte l stop).bind fun parts => (splitAtByte parts.1 start).map Prod.snd
  else none

theorem splitAtByte_eq_some {l a b : List Char} {n : ℕ} :
    splitAtByte l n = some (a, b) ↔ l = a ++ b ∧ byteLength a = n := by
  induction l generalizing a n with
  | nil =>
    cases n with
    | zero =>
      simp only [splitAtByte, Option.some.injEq, Prod.mk.injEq]
      constructor
      · rintro ⟨rfl, rfl⟩
        exact ⟨rfl, rfl⟩
      · rintro ⟨hnil, -⟩
        obtain ⟨rfl, rfl⟩ := List.append_eq_nil_iff.1 hnil.symm
        exact ⟨rfl, rfl⟩
    | succ n =>
      simp only [splitAtByte, reduceCtorEq, false_iff, not_and]
      intro hnil hlength
      obtain ⟨rfl, rfl⟩ := List.append_eq_nil_iff.1 hnil.symm
      exact absurd hlength (Nat.succ_ne_zero n).symm
  | cons c l ih =>
    cases n with
    | zero =>
      simp only [splitAtByte, Option.some.injEq, Prod.mk.injEq]
      constructor
      · rintro ⟨rfl, rfl⟩
        exact ⟨rfl, rfl⟩
      · rintro ⟨hlist, hlength⟩
        have ha := eq_nil_of_byteLength hlength
        subst ha
        exact ⟨rfl, hlist⟩
    | succ n =>
      rw [splitAtByte]
      constructor
      · intro h
        split_ifs at h with hsize
        obtain ⟨⟨front, back⟩, hsplit, heq⟩ := Option.map_eq_some_iff.1 h
        cases heq
        obtain ⟨hlist, hlength⟩ := ih.1 hsplit
        rw [hlist, byteLength_cons, hlength]
        exact ⟨rfl, by omega⟩
      · rintro ⟨hlist, hlength⟩
        cases a with
        | nil => exact absurd hlength (Nat.succ_ne_zero n).symm
        | cons d a =>
          rw [List.cons_append, List.cons.injEq] at hlist
          obtain ⟨rfl, rfl⟩ := hlist
          rw [byteLength_cons] at hlength
          have hsplit : splitAtByte (a ++ b) (n + 1 - c.utf8Size) = some (a, b) :=
            ih.2 ⟨rfl, by omega⟩
          rw [if_neg (by omega), hsplit]
          rfl

theorem splitAtByte_append (a b : List Char) :
    splitAtByte (a ++ b) (byteLength a) = some (a, b) := splitAtByte_eq_some.2 ⟨rfl, rfl⟩

/-- A slice is what lies between two parts of these byte lengths. -/
theorem sliceBytes_eq_some {l middle : List Char} {start stop : ℕ} :
    sliceBytes l start stop = some middle ↔ ∃ a b, l = a ++ middle ++ b ∧
      byteLength a = start ∧ byteLength a + byteLength middle = stop := by
  constructor
  · intro h
    rw [sliceBytes] at h
    split_ifs at h with horder
    obtain ⟨⟨front, b⟩, hstop, hinner⟩ := Option.bind_eq_some_iff.1 h
    obtain ⟨⟨a, rest⟩, hstart, rfl⟩ := Option.map_eq_some_iff.1 hinner
    obtain ⟨rfl, rfl⟩ := splitAtByte_eq_some.1 hstop
    obtain ⟨rfl, rfl⟩ := splitAtByte_eq_some.1 hstart
    exact ⟨a, b, rfl, rfl, (byteLength_append a rest).symm⟩
  · rintro ⟨a, b, rfl, rfl, rfl⟩
    rw [sliceBytes, if_pos (Nat.le_add_right _ _), ← byteLength_append, splitAtByte_append,
      Option.bind_some, splitAtByte_append]
    rfl

end Text
