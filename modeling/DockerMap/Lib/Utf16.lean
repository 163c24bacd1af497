import DockerMap.Lib.JavaScript

/-! The scalar values of a text of UTF-16 code units. A surrogate without its other half stands
for the replacement character. -/

namespace JavaScript

def isSurrogate (unit : ℕ) : Bool := 0xD800 ≤ unit && unit < 0xE000

/-- The scalar value of one character of an iteration over a text. -/
def scalarOf : List ℕ → Char
  | [unit] => if isSurrogate unit then '\uFFFD' else Char.ofNat unit
  | [lead, trail] => Char.ofNat (0x10000 + (lead - 0xD800) * 0x400 + (trail - 0xDC00))
  | _ => '\uFFFD'

def scalars (units : List ℕ) : List Char := (codePoints units).map scalarOf

theorem unitsOf_cases (c : Char) :
    (unitsOf c = [c.toNat] ∧ c.toNat < 0x10000 ∧ isSurrogate c.toNat = false) ∨
    ∃ lead trail, unitsOf c = [lead, trail] ∧ (0xD800 ≤ lead ∧ lead < 0xDC00) ∧
      (0xDC00 ≤ trail ∧ trail < 0xE000) ∧
      0x10000 + (lead - 0xD800) * 0x400 + (trail - 0xDC00) = c.toNat := by
  have hvalid : c.toNat < 0xD800 ∨ 0xDFFF < c.toNat ∧ c.toNat < 0x110000 := c.valid
  by_cases hsmall : c.toNat < 0x10000
  · refine Or.inl ⟨if_pos hsmall, hsmall, ?_⟩
    simp only [isSurrogate, Bool.and_eq_false_iff, decide_eq_false_iff_not]
    omega
  · exact Or.inr ⟨_, _, if_neg hsmall, by omega, by omega, by omega⟩

theorem unitsOf_eq_singleton {c : Char} (h : c.toNat < 0x10000) : unitsOf c = [c.toNat] :=
  if_pos h

theorem codePoints_cons {unit : ℕ} (h : isSurrogate unit = false) (units : List ℕ) :
    codePoints (unit :: units) = [unit] :: codePoints units := by
  simp only [isSurrogate, Bool.and_eq_false_iff, decide_eq_false_iff_not] at h
  cases units with
  | nil => rfl
  | cons trail units =>
    rw [codePoints, if_neg]
    omega

theorem codePoints_codeUnits (text : String) :
    codePoints (codeUnits text) = text.toList.map unitsOf := by
  have hchars (l : List Char) : codePoints (l.flatMap unitsOf) = l.map unitsOf := by
    induction l with
    | nil => rfl
    | cons c l ih =>
      rw [List.flatMap_cons, List.map_cons, ← ih]
      rcases unitsOf_cases c with ⟨heq, -, hscalar⟩ | ⟨lead, trail, heq, hlead, htrail, -⟩
      · rw [heq]
        exact codePoints_cons hscalar _
      · rw [heq, List.cons_append, List.cons_append, List.nil_append, codePoints, if_pos]
        exact ⟨hlead.1, hlead.2, htrail.1, htrail.2⟩
  exact hchars text.toList

theorem scalarOf_unitsOf (c : Char) : scalarOf (unitsOf c) = c := by
  rcases unitsOf_cases c with ⟨heq, -, hscalar⟩ | ⟨lead, trail, heq, -, -, hvalue⟩
  · rw [heq, scalarOf, hscalar, if_neg Bool.false_ne_true, Char.ofNat_toNat]
  · rw [heq, scalarOf, hvalue, Char.ofNat_toNat]

/-- Nothing is replaced in a text of whole characters. -/
theorem scalars_codeUnits (text : String) : scalars (codeUnits text) = text.toList := by
  rw [scalars, codePoints_codeUnits, List.map_map]
  exact List.map_id'' scalarOf_unitsOf text.toList

theorem codeUnits_ofList {l : List Char} (h : ∀ c ∈ l, c.toNat < 0x10000) :
    codeUnits (String.ofList l) = l.map Char.toNat := by
  rw [codeUnits, String.toList_ofList]
  induction l with
  | nil => rfl
  | cons c l ih =>
    rw [List.forall_mem_cons] at h
    rw [List.flatMap_cons, unitsOf_eq_singleton h.1, ih h.2]
    rfl

end JavaScript
