import DockerMap.Lib.Text

/-! The lines of a text. A line ends at a line feed, with the carriage return before it if
there is one; the last line needs no ending. -/

namespace Text

/-- `str::lines`. -/
def lines : List Char → List (List Char)
  | [] => []
  | c :: l =>
      if c = '\n' then [] :: lines l
      else if c = '\r' ∧ l.head? = some '\n' then lines l
      else
        match lines l with
        | [] => [[c]]
        | line :: rest => (c :: line) :: rest

/-- `str::replacen` with a count of one. -/
def replaceFirst (old new : List Char) : List Char → List Char
  | [] => if old = [] then new else []
  | c :: l =>
      if old <+: c :: l then new ++ (c :: l).drop old.length else c :: replaceFirst old new l

variable {l : List Char}

theorem lines_ne_nil (c : Char) (l : List Char) : lines (c :: l) ≠ [] := by
  induction l generalizing c with
  | nil =>
    rw [lines]
    split_ifs with hfeed hreturn
    · exact List.cons_ne_nil _ _
    · cases hreturn.2
    · exact List.cons_ne_nil _ _
  | cons d l ih =>
    rw [lines]
    split_ifs
    · exact List.cons_ne_nil _ _
    · exact ih d
    · cases lines (d :: l) <;> exact List.cons_ne_nil _ _

theorem lines_eq_nil : lines l = [] ↔ l = [] := by
  cases l with
  | nil => exact ⟨fun _ => rfl, fun _ => rfl⟩
  | cons c l => exact ⟨fun h => absurd h (lines_ne_nil c l), fun h => by cases h⟩

/-- A text without line feeds is one line. -/
theorem lines_of_not_mem (h : '\n' ∉ l) (hne : l ≠ []) : lines l = [l] := by
  induction l with
  | nil => exact absurd rfl hne
  | cons c l ih =>
    rw [List.mem_cons, not_or] at h
    have hhead : l.head? ≠ some '\n' := fun hhead => h.2 (List.mem_of_mem_head? hhead)
    rw [lines, if_neg (Ne.symm h.1), if_neg fun hreturn => hhead hreturn.2]
    cases l with
    | nil => rfl
    | cons d l => rw [ih h.2 (List.cons_ne_nil d l)]

theorem length_lines_le (h : '\n' ∉ l) : (lines l).length ≤ 1 := by
  by_cases hne : l = []
  · rw [hne]
    exact Nat.zero_le 1
  · rw [lines_of_not_mem h hne]
    exact le_refl 1

/-- A line without the carriage return at its end. -/
def dropReturn (l : List Char) : List Char := if l.getLast? = some '\r' then l.dropLast else l

theorem dropReturn_cons {c : Char} (h : ¬ (c = '\r' ∧ l = [])) :
    dropReturn (c :: l) = c :: dropReturn l := by
  cases l with
  | nil =>
    have hc : c ≠ '\r' := fun hc => h ⟨hc, rfl⟩
    simp [dropReturn, hc]
  | cons d l =>
    rw [dropReturn, dropReturn, List.getLast?_cons_cons, List.dropLast_cons_cons]
    split_ifs <;> rfl

/-- A line feed ends a line. -/
theorem lines_append_feed (h : '\n' ∉ l) (rest : List Char) :
    lines (l ++ '\n' :: rest) = dropReturn l :: lines rest := by
  induction l with
  | nil =>
    rw [List.nil_append, lines, if_pos rfl]
    rfl
  | cons c l ih =>
    rw [List.mem_cons, not_or] at h
    have hhead : (l ++ '\n' :: rest).head? = some '\n' ↔ l = [] := by
      cases l with
      | nil => simp
      | cons d l =>
        have hd : d ≠ '\n' := fun hd => h.2 (hd ▸ List.mem_cons_self)
        simp [hd]
    rw [List.cons_append, lines, if_neg (Ne.symm h.1), ih h.2]
    split_ifs with hreturn
    · rw [hreturn.1, hhead.1 hreturn.2]
      rfl
    · rw [dropReturn_cons fun hc => hreturn ⟨hc.1, hhead.2 hc.2⟩]

/-- What follows a line feed is on further lines. -/
theorem two_le_length_lines (a : List Char) {b : List Char} (hb : b ≠ []) :
    2 ≤ (lines (a ++ '\n' :: b)).length := by
  induction a with
  | nil =>
    rw [List.nil_append, lines, if_pos rfl, List.length_cons]
    exact Nat.succ_le_succ (List.length_pos_iff.2 fun h => hb (lines_eq_nil.1 h))
  | cons c a ih =>
    rw [List.cons_append, lines]
    split_ifs
    · rw [List.length_cons]
      exact le_trans ih (Nat.le_succ _)
    · exact ih
    · cases hlines : lines (a ++ '\n' :: b) with
      | nil =>
        rw [hlines] at ih
        exact absurd ih (by decide)
      | cons line rest =>
        rw [hlines] at ih
        exact ih

end Text
