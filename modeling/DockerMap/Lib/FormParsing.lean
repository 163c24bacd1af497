import DockerMap.Lib.TextSearch
import DockerMap.Lib.Utf8

/-! The `application/x-www-form-urlencoded` parser, over the bytes of a query, and the queries
that it reads without loss. -/

namespace FormEncoding

open Utf8 (IsText isText_cut isText_utf8)

def ampersand : UInt8 := 0x26
def equalsSign : UInt8 := 0x3D

def isHexDigit (byte : UInt8) : Bool :=
  (0x30 ≤ byte && byte ≤ 0x39) || (0x61 ≤ byte && byte ≤ 0x66) || (0x41 ≤ byte && byte ≤ 0x46)

def nibble (byte : UInt8) : ℕ :=
  if byte ≤ 0x39 then byte.toNat - 0x30
  else if byte ≤ 0x46 then byte.toNat - 0x41 + 10
  else byte.toNat - 0x61 + 10

/-- A percent sign without two digits after it stands for itself. -/
def percentDecodeBytes : List UInt8 → List UInt8
  | [] => []
  | byte :: high :: low :: rest =>
      if byte = 0x25 ∧ isHexDigit high ∧ isHexDigit low then
        UInt8.ofNat (nibble high * 16 + nibble low) :: percentDecodeBytes rest
      else byte :: percentDecodeBytes (high :: low :: rest)
  | byte :: rest => byte :: percentDecodeBytes rest

def plusToSpace (byte : UInt8) : UInt8 := if byte = 0x2B then 0x20 else byte

def decodeComponent (bytes : List UInt8) : List UInt8 :=
  percentDecodeBytes (bytes.map plusToSpace)

/-- The name and the value of a piece, before they are decoded. -/
def cutPair (piece : List UInt8) : List UInt8 × List UInt8 :=
  (piece.takeWhile (· != equalsSign), (piece.dropWhile (· != equalsSign)).tail)

/-- The decoded names and values; an empty piece is no pair. -/
def pairs (bytes : List UInt8) : List (List UInt8 × List UInt8) :=
  ((bytes.splitOnP (· == ampersand)).filter (· ≠ [])).map fun piece =>
    (decodeComponent (cutPair piece).1, decodeComponent (cutPair piece).2)

/-- The parser: what is not UTF-8 is replaced. -/
def parse (bytes : List UInt8) : List (String × String) :=
  (pairs bytes).map fun pair =>
    (String.ofList (Utf8.lossy pair.1), String.ofList (Utf8.lossy pair.2))

/-! Decoding without loss -/

/-- Every percent sign starts a triplet. -/
def WellEscaped (bytes : List UInt8) : Prop :=
  ∀ before after, bytes = before ++ 0x25 :: after →
    ∃ high low rest, after = high :: low :: rest ∧ isHexDigit high = true ∧ isHexDigit low = true

/-- Only triplets, and UTF-8 once they are decoded. -/
def Exact (bytes : List UInt8) : Prop := WellEscaped bytes ∧ IsText (decodeComponent bytes)

/-- The two bytes that a form is cut at. -/
def IsSeparator (byte : UInt8) : Prop := byte = ampersand ∨ byte = equalsSign

theorem wellEscaped_nil : WellEscaped [] := fun before after h => by simp at h

theorem wellEscaped_cons {byte : UInt8} (h : byte ≠ 0x25) (bytes : List UInt8) :
    WellEscaped (byte :: bytes) ↔ WellEscaped bytes := by
  constructor
  · intro hescaped before after heq
    exact hescaped (byte :: before) after (by rw [heq]; rfl)
  · intro hescaped before after heq
    cases before with
    | nil => exact absurd (List.cons.inj heq).1 h
    | cons first before => exact hescaped before after (List.cons.inj heq).2

theorem isHexDigit_ne_percent {byte : UInt8} (h : isHexDigit byte = true) : byte ≠ 0x25 := by
  rintro rfl
  revert h
  decide

theorem wellEscaped_triplet {high low : UInt8} (hhigh : isHexDigit high = true)
    (hlow : isHexDigit low = true) (bytes : List UInt8) :
    WellEscaped (0x25 :: high :: low :: bytes) ↔ WellEscaped bytes := by
  rw [← wellEscaped_cons (isHexDigit_ne_percent hlow) bytes,
    ← wellEscaped_cons (isHexDigit_ne_percent hhigh) (low :: bytes)]
  constructor
  · intro hescaped before after heq
    exact hescaped (0x25 :: before) after (by rw [heq]; rfl)
  · intro hescaped before after heq
    cases before with
    | nil => exact ⟨high, low, bytes, (List.cons.inj heq).2.symm, hhigh, hlow⟩
    | cons first before => exact hescaped before after (List.cons.inj heq).2

theorem percentDecodeBytes_cons {byte : UInt8} (h : byte ≠ 0x25) (rest : List UInt8) :
    percentDecodeBytes (byte :: rest) = byte :: percentDecodeBytes rest := by
  rcases rest with _ | ⟨high, _ | ⟨low, rest⟩⟩
  · rfl
  · rfl
  · rw [percentDecodeBytes, if_neg fun hand => h hand.1]

theorem percentDecodeBytes_triplet {high low : UInt8} (hhigh : isHexDigit high = true)
    (hlow : isHexDigit low = true) (rest : List UInt8) :
    percentDecodeBytes (0x25 :: high :: low :: rest) =
      UInt8.ofNat (nibble high * 16 + nibble low) :: percentDecodeBytes rest := by
  rw [percentDecodeBytes, if_pos ⟨rfl, hhigh, hlow⟩]

theorem plusToSpace_hexDigit {byte : UInt8} (h : isHexDigit byte = true) :
    plusToSpace byte = byte := by
  refine if_neg ?_
  rintro rfl
  revert h
  decide

theorem decodeComponent_cons {byte : UInt8} (h : byte ≠ 0x25) (rest : List UInt8) :
    decodeComponent (byte :: rest) = plusToSpace byte :: decodeComponent rest := by
  have hne : plusToSpace byte ≠ 0x25 := by
    rw [plusToSpace]
    split_ifs
    · decide
    · exact h
  exact percentDecodeBytes_cons hne (rest.map plusToSpace)

theorem decodeComponent_triplet {high low : UInt8} (hhigh : isHexDigit high = true)
    (hlow : isHexDigit low = true) (rest : List UInt8) :
    decodeComponent (0x25 :: high :: low :: rest) =
      UInt8.ofNat (nibble high * 16 + nibble low) :: decodeComponent rest := by
  rw [decodeComponent, List.map_cons, List.map_cons, List.map_cons, plusToSpace_hexDigit hhigh,
    plusToSpace_hexDigit hlow]
  exact percentDecodeBytes_triplet hhigh hlow _

/-- A list of bytes by its triplets; at any other percent sign it is not well escaped. -/
theorem escaped_cases (bytes : List UInt8) :
    bytes = [] ∨ (∃ byte rest, bytes = byte :: rest ∧ byte ≠ 0x25) ∨
      (∃ high low rest, bytes = 0x25 :: high :: low :: rest ∧ isHexDigit high = true ∧
        isHexDigit low = true) ∨
      ∃ rest, bytes = 0x25 :: rest ∧ ∀ high low after, rest = high :: low :: after →
        ¬ (isHexDigit high = true ∧ isHexDigit low = true) := by
  rcases bytes with _ | ⟨byte, rest⟩
  · exact Or.inl rfl
  · by_cases hbyte : byte = 0x25
    · subst hbyte
      by_cases hdigits : ∃ high low after, rest = high :: low :: after ∧
          isHexDigit high = true ∧ isHexDigit low = true
      · obtain ⟨high, low, after, rfl, hhigh, hlow⟩ := hdigits
        exact Or.inr (Or.inr (Or.inl ⟨high, low, after, rfl, hhigh, hlow⟩))
      · refine Or.inr (Or.inr (Or.inr ⟨rest, rfl, ?_⟩))
        intro high low after hrest hand
        exact hdigits ⟨high, low, after, hrest, hand⟩
    · exact Or.inr (Or.inl ⟨byte, rest, rfl, hbyte⟩)

theorem not_wellEscaped {rest : List UInt8}
    (h : ∀ high low after, rest = high :: low :: after →
      ¬ (isHexDigit high = true ∧ isHexDigit low = true)) : ¬ WellEscaped (0x25 :: rest) := by
  intro hescaped
  obtain ⟨high, low, after, hrest, hdigits⟩ := hescaped [] rest rfl
  exact h high low after hrest hdigits

/-! Cutting at a separator -/

section

variable {byte : UInt8} (hbyte : IsSeparator byte)

include hbyte

theorem IsSeparator.plain : byte ≠ 0x25 ∧ isHexDigit byte = false ∧ plusToSpace byte = byte ∧
    byte < 0x80 := by
  rcases hbyte with rfl | rfl <;> decide

theorem wellEscaped_cut (a b : List UInt8) :
    WellEscaped (a ++ byte :: b) ↔ WellEscaped a ∧ WellEscaped b := by
  obtain ⟨hpercent, hhex, -, -⟩ := hbyte.plain
  induction hn : a.length using Nat.strong_induction_on generalizing a with
  | _ n ih =>
    obtain rfl | ⟨first, rest, rfl, hfirst⟩ | ⟨high, low, rest, rfl, hhigh, hlow⟩ |
      ⟨rest, rfl, hnone⟩ := escaped_cases a
    · rw [List.nil_append, wellEscaped_cons hpercent, and_iff_right wellEscaped_nil]
    · rw [List.cons_append, wellEscaped_cons hfirst, wellEscaped_cons hfirst]
      exact ih rest.length (by simp at hn; omega) rest rfl
    · rw [List.cons_append, List.cons_append, List.cons_append, wellEscaped_triplet hhigh hlow,
        wellEscaped_triplet hhigh hlow]
      exact ih rest.length (by simp at hn; omega) rest rfl
    · rw [iff_false_right fun h => not_wellEscaped hnone h.1]
      refine not_wellEscaped fun high low after hrest hand => ?_
      -- the separator is no digit, so both digits stand before it
      rcases rest with _ | ⟨x, _ | ⟨y, rest⟩⟩
      · simp only [List.nil_append, List.append_eq, List.cons.injEq] at hrest
        rw [← hrest.1, hhex] at hand
        exact Bool.false_ne_true hand.1
      · simp only [List.nil_append, List.cons_append, List.append_eq, List.cons.injEq] at hrest
        rw [← hrest.2.1, hhex] at hand
        exact Bool.false_ne_true hand.2
      · simp only [List.cons_append, List.append_eq, List.cons.injEq] at hrest
        rw [← hrest.1, ← hrest.2.1] at hand
        exact hnone x y rest rfl hand

theorem decodeComponent_cut {a : List UInt8} (ha : WellEscaped a) (b : List UInt8) :
    decodeComponent (a ++ byte :: b) = decodeComponent a ++ byte :: decodeComponent b := by
  obtain ⟨hpercent, -, hplus, -⟩ := hbyte.plain
  induction hn : a.length using Nat.strong_induction_on generalizing a with
  | _ n ih =>
    obtain rfl | ⟨first, rest, rfl, hfirst⟩ | ⟨high, low, rest, rfl, hhigh, hlow⟩ |
      ⟨rest, rfl, hnone⟩ := escaped_cases a
    · rw [List.nil_append, decodeComponent_cons hpercent, hplus]
      rfl
    · rw [wellEscaped_cons hfirst] at ha
      rw [List.cons_append, decodeComponent_cons hfirst, decodeComponent_cons hfirst,
        List.cons_append, ih rest.length (by simp at hn; omega) ha rfl]
    · rw [wellEscaped_triplet hhigh hlow] at ha
      rw [List.cons_append, List.cons_append, List.cons_append, decodeComponent_triplet hhigh hlow,
        decodeComponent_triplet hhigh hlow, List.cons_append,
        ih rest.length (by simp at hn; omega) ha rfl]
    · exact absurd ha (not_wellEscaped hnone)

theorem exact_cut (a b : List UInt8) : Exact (a ++ byte :: b) ↔ Exact a ∧ Exact b := by
  obtain ⟨-, -, -, hascii⟩ := hbyte.plain
  rw [Exact, Exact, Exact, wellEscaped_cut hbyte]
  constructor
  · rintro ⟨⟨ha, hb⟩, htext⟩
    rw [decodeComponent_cut hbyte ha, isText_cut hascii] at htext
    exact ⟨⟨ha, htext.1⟩, hb, htext.2⟩
  · rintro ⟨⟨ha, hatext⟩, hb, hbtext⟩
    rw [decodeComponent_cut hbyte ha, isText_cut hascii]
    exact ⟨⟨ha, hb⟩, hatext, hbtext⟩

end

theorem exact_nil : Exact [] := ⟨wellEscaped_nil, isText_utf8 []⟩

/-! All of the parts -/

/-- A property that can be cut at every separator holds of a list as of all of its parts. -/
theorem forall_splitOnP {α : Type*} {separates : α → Bool} {P : List α → Prop}
    (hcut : ∀ a x b, separates x = true → (P (a ++ x :: b) ↔ P a ∧ P b)) (l : List α) :
    (∀ part ∈ l.splitOnP separates, P part) ↔ P l := by
  induction hn : l.length using Nat.strong_induction_on generalizing l with
  | _ n ih =>
    by_cases hnone : ∀ x ∈ l, separates x = false
    · rw [List.splitOnP_eq_singleton hnone, List.forall_mem_singleton]
    · obtain ⟨first, x, rest, rfl, hx, hfirst⟩ := Text.exists_first hnone
      rw [List.splitOnP_append_cons _ _ hx, List.splitOnP_eq_singleton hfirst,
        List.singleton_append, List.forall_mem_cons, hcut _ _ _ hx]
      refine and_congr_right fun _ => ih rest.length ?_ rest rfl
      simp at hn
      omega

theorem cutPair_iff {P : List UInt8 → Prop} (hnil : P [])
    (hcut : ∀ a b, P (a ++ equalsSign :: b) ↔ P a ∧ P b) (piece : List UInt8) :
    P piece ↔ P (cutPair piece).1 ∧ P (cutPair piece).2 := by
  have hwhole : piece.takeWhile (· != equalsSign) ++ piece.dropWhile (· != equalsSign) = piece :=
    List.takeWhile_append_dropWhile
  cases hrest : piece.dropWhile (· != equalsSign) with
  | nil =>
    rw [hrest, List.append_nil] at hwhole
    rw [cutPair, hrest, hwhole, List.tail_nil, and_iff_left hnil]
  | cons byte value =>
    have hequals : byte = equalsSign := by
      have hhead := List.head?_dropWhile_not (· != equalsSign) piece
      rw [hrest] at hhead
      simpa using hhead
    rw [hrest, hequals] at hwhole
    rw [cutPair, hrest, List.tail_cons, ← hcut, hwhole]

theorem exact_iff_pieces (bytes : List UInt8) :
    Exact bytes ↔ ∀ piece ∈ bytes.splitOnP (· == ampersand),
      Exact (cutPair piece).1 ∧ Exact (cutPair piece).2 := by
  rw [← forall_splitOnP fun a x b hx => exact_cut (Or.inl (beq_iff_eq.1 hx)) a b]
  exact forall₂_congr fun piece _ => cutPair_iff exact_nil (exact_cut (Or.inr rfl)) piece

theorem wellEscaped_iff_pieces (bytes : List UInt8) :
    WellEscaped bytes ↔ ∀ piece ∈ bytes.splitOnP (· == ampersand),
      WellEscaped (cutPair piece).1 ∧ WellEscaped (cutPair piece).2 := by
  rw [← forall_splitOnP fun a x b hx => wellEscaped_cut (Or.inl (beq_iff_eq.1 hx)) a b]
  exact forall₂_congr fun piece _ => cutPair_iff wellEscaped_nil (wellEscaped_cut (Or.inr rfl)) piece

/-- Names and values are cut out of an exact query as its parts are. -/
theorem exact_iff_pairs (bytes : List UInt8) :
    Exact bytes ↔ WellEscaped bytes ∧
      ∀ pair ∈ pairs bytes, IsText pair.1 ∧ IsText pair.2 := by
  have hpairs : (∀ pair ∈ pairs bytes, IsText pair.1 ∧ IsText pair.2) ↔
      ∀ piece ∈ bytes.splitOnP (· == ampersand), piece ≠ [] →
        IsText (decodeComponent (cutPair piece).1) ∧
          IsText (decodeComponent (cutPair piece).2) := by
    simp only [pairs, List.forall_mem_map, List.mem_filter, decide_eq_true_eq, and_imp]
  rw [hpairs, exact_iff_pieces, wellEscaped_iff_pieces]
  constructor
  · intro h
    refine ⟨fun piece hpiece => ?_, fun piece hpiece _ => ?_⟩
    · obtain ⟨hname, hvalue⟩ := h piece hpiece
      exact ⟨hname.1, hvalue.1⟩
    · obtain ⟨hname, hvalue⟩ := h piece hpiece
      exact ⟨hname.2, hvalue.2⟩
  · rintro ⟨hescaped, htexts⟩ piece hpiece
    obtain ⟨hname, hvalue⟩ := hescaped piece hpiece
    by_cases hempty : piece = []
    · rw [hempty]
      exact ⟨exact_nil, exact_nil⟩
    · obtain ⟨hnametext, hvaluetext⟩ := htexts piece hpiece hempty
      exact ⟨⟨hname, hnametext⟩, hvalue, hvaluetext⟩

end FormEncoding
