import DockerMap.Daemon.FormQuery

/-! The strict validators take exactly the queries that the parser reads without loss. -/

namespace DockerMap

open FormEncoding (utf8 decodeComponent plusToSpace nibble WellEscaped Exact pairs)
open Utf8 (IsText)

/-! One component -/

theorem strictComponent_cons {byte : UInt8} (h : byte ≠ 0x25) (rest : List UInt8) :
    strictComponent (byte :: rest) = (strictComponent rest).map (plusToSpace byte :: ·) := by
  rw [strictComponent.eq_def]
  dsimp only
  rw [plusToSpace]
  split_ifs <;> rfl

theorem strictComponent_triplet {high low : UInt8} (hhigh : FormEncoding.isHexDigit high = true)
    (hlow : FormEncoding.isHexDigit low = true) (rest : List UInt8) :
    strictComponent (0x25 :: high :: low :: rest) =
      (strictComponent rest).map (UInt8.ofNat (nibble high * 16 + nibble low) :: ·) := by
  rw [strictComponent.eq_def]
  dsimp only
  rw [if_neg (by decide), if_pos rfl, hhigh, hlow]
  rfl

theorem strictComponent_malformed {rest : List UInt8}
    (h : ∀ high low after, rest = high :: low :: after →
      ¬ (FormEncoding.isHexDigit high = true ∧ FormEncoding.isHexDigit low = true)) :
    strictComponent (0x25 :: rest) = none := by
  rw [strictComponent.eq_def]
  dsimp only
  rw [if_neg (by decide), if_pos rfl]
  split
  · next high low after =>
    rw [if_neg]
    rw [Bool.and_eq_true]
    exact h high low after rfl
  · rfl

/-- The loop ends where every percent sign starts a triplet, with what the parser decodes. -/
theorem strictComponent_eq_some {bytes decoded : List UInt8} :
    strictComponent bytes = some decoded ↔
      WellEscaped bytes ∧ decodeComponent bytes = decoded := by
  induction hn : bytes.length using Nat.strong_induction_on generalizing bytes decoded with
  | _ n ih =>
    obtain rfl | ⟨byte, rest, rfl, hbyte⟩ | ⟨high, low, rest, rfl, hhigh, hlow⟩ |
      ⟨rest, rfl, hnone⟩ := FormEncoding.escaped_cases bytes
    · rw [strictComponent, Option.some.injEq, and_iff_right FormEncoding.wellEscaped_nil]
      rfl
    · have hrest (tail : List UInt8) := @ih rest.length (by simp at hn; omega) rest tail rfl
      simp only [strictComponent_cons hbyte, Option.map_eq_some_iff, hrest,
        FormEncoding.wellEscaped_cons hbyte, FormEncoding.decodeComponent_cons hbyte, and_assoc,
        exists_and_left, exists_eq_left']
    · have hrest (tail : List UInt8) := @ih rest.length (by simp at hn; omega) rest tail rfl
      simp only [strictComponent_triplet hhigh hlow, Option.map_eq_some_iff, hrest,
        FormEncoding.wellEscaped_triplet hhigh hlow,
        FormEncoding.decodeComponent_triplet hhigh hlow, and_assoc, exists_and_left,
        exists_eq_left']
    · rw [strictComponent_malformed hnone]
      refine iff_of_false (by simp) fun h => ?_
      exact FormEncoding.not_wellEscaped hnone h.1

theorem component_accepted_iff (bytes : List UInt8) :
    (strictComponent bytes).any Utf8.isText = true ↔ Exact bytes := by
  rw [Option.any_eq_true, Exact]
  constructor
  · rintro ⟨decoded, hdecoded, htext⟩
    obtain ⟨hescaped, rfl⟩ := strictComponent_eq_some.1 hdecoded
    exact ⟨hescaped, Utf8.isText_iff.1 htext⟩
  · rintro ⟨hescaped, htext⟩
    exact ⟨_, strictComponent_eq_some.2 ⟨hescaped, rfl⟩, Utf8.isText_iff.2 htext⟩

/-! The whole query -/

theorem utf8_cut (a b : List Char) {c : Char} {byte : UInt8}
    (h : String.utf8EncodeChar c = [byte]) : utf8 (a ++ c :: b) = utf8 a ++ byte :: utf8 b := by
  simp [utf8, h]

theorem exact_utf8_cut (a : List Char) (c : Char) (b : List Char)
    (hc : (c == '&' || c == '=') = true) :
    Exact (utf8 (a ++ c :: b)) ↔ Exact (utf8 a) ∧ Exact (utf8 b) := by
  rw [Bool.or_eq_true, beq_iff_eq, beq_iff_eq] at hc
  rcases hc with rfl | rfl
  · rw [utf8_cut a b rfl]
    exact FormEncoding.exact_cut (Or.inl rfl) _ _
  · rw [utf8_cut a b rfl]
    exact FormEncoding.exact_cut (Or.inr rfl) _ _

theorem forall_components (raw : String) :
    (∀ component ∈ formComponents raw, Exact (utf8 component)) ↔ Exact (utf8 raw.toList) :=
  FormEncoding.forall_splitOnP exact_utf8_cut raw.toList

theorem strictFormUrlencodedUtf8_iff (raw : String) :
    strictFormUrlencodedUtf8 raw = true ↔ Exact (utf8 raw.toList) := by
  rw [strictFormUrlencodedUtf8, List.all_eq_true, ← forall_components]
  exact forall₂_congr fun component _ => component_accepted_iff (utf8 component)

theorem validateComponents_iff (components : List (List Char)) :
    validateComponents components = .ok () ↔ ∀ component ∈ components, Exact (utf8 component) := by
  induction components with
  | nil => simp [validateComponents]
  | cons component components ih =>
    rw [List.forall_mem_cons, ← ih, ← component_accepted_iff, validateComponents]
    cases strictComponent (utf8 component) with
    | none => simp
    | some decoded =>
      rw [Option.any_some]
      by_cases htext : Utf8.isText decoded = true
      · simp [htext]
      · simp [htext]

theorem validateStrictFormUrlencoded_iff (raw : String) :
    validateStrictFormUrlencoded raw = .ok () ↔ Exact (utf8 raw.toList) :=
  (validateComponents_iff _).trans (forall_components raw)

/-- The decoded names and values of a query. -/
def queryParts (raw : String) : List (List UInt8) :=
  (pairs (utf8 raw.toList)).flatMap fun pair => [pair.1, pair.2]

theorem mem_queryParts {raw : String} {part : List UInt8} :
    part ∈ queryParts raw ↔ ∃ pair ∈ pairs (utf8 raw.toList), part = pair.1 ∨ part = pair.2 := by
  simp [queryParts]

theorem isText_of_mem_queryParts {raw : String} (h : strictFormUrlencodedUtf8 raw = true)
    {part : List UInt8} (hpart : part ∈ queryParts raw) : IsText part := by
  rw [strictFormUrlencodedUtf8_iff, FormEncoding.exact_iff_pairs] at h
  obtain ⟨pair, hpair, heq⟩ := mem_queryParts.1 hpart
  rcases heq with rfl | rfl
  · exact (h.2 pair hpair).1
  · exact (h.2 pair hpair).2

/-- The two validators accept the queries of triplets whose names and values are UTF-8; in those
the parser replaces nothing, and no two names or values come out as one text. -/
theorem strict_form_exact (raw : String) :
    (strictFormUrlencodedUtf8 raw = true ↔ WellEscaped (utf8 raw.toList) ∧
      ∀ part ∈ queryParts raw, IsText part) ∧
    (validateStrictFormUrlencoded raw = .ok () ↔ strictFormUrlencodedUtf8 raw = true) ∧
    (strictFormUrlencodedUtf8 raw = true →
      (∀ part ∈ queryParts raw, none ∉ Utf8.decode part) ∧
      decodeQuery (some raw) = .ok (FormEncoding.parse (utf8 raw.toList)) ∧
      ∀ other, strictFormUrlencodedUtf8 other = true →
        ∀ part ∈ queryParts raw, ∀ part' ∈ queryParts other,
          Utf8.lossy part = Utf8.lossy part' → part = part') := by
  refine ⟨?_, ?_, fun h => ⟨?_, ?_, ?_⟩⟩
  · rw [strictFormUrlencodedUtf8_iff, FormEncoding.exact_iff_pairs]
    refine and_congr_right fun _ => ?_
    simp only [mem_queryParts, forall_exists_index, and_imp]
    constructor
    · rintro hpairs part pair hpair (rfl | rfl)
      · exact (hpairs pair hpair).1
      · exact (hpairs pair hpair).2
    · intro hparts pair hpair
      exact ⟨hparts _ pair hpair (Or.inl rfl), hparts _ pair hpair (Or.inr rfl)⟩
  · rw [validateStrictFormUrlencoded_iff, strictFormUrlencodedUtf8_iff]
  · exact fun part hpart => (isText_of_mem_queryParts h hpart).decodes.1
  · have hvalid : validateStrictFormUrlencoded raw = .ok () := by
      rwa [validateStrictFormUrlencoded_iff, ← strictFormUrlencodedUtf8_iff]
    unfold decodeQuery
    simp only [Option.getD_some, hvalid]
    rfl
  · intro other hother part hpart part' hpart' heq
    rw [← (isText_of_mem_queryParts h hpart).decodes.2,
      ← (isText_of_mem_queryParts hother hpart').decodes.2, heq]

/-- An escaped `é` before a second equals sign. -/
theorem strict_form_applied : strictFormUrlencodedUtf8 "q=%C3%A9=1&q" = true ∧
    ∀ part ∈ queryParts "q=%C3%A9=1&q", none ∉ Utf8.decode part := by
  have hcomponent (component text : List Char)
      (h : strictComponent (utf8 component) = some (utf8 text)) :
      (strictComponent (utf8 component)).any Utf8.isText = true := by
    rw [h]
    exact Utf8.isText_iff.2 (Utf8.isText_utf8 text)
  have hcomponents : formComponents "q=%C3%A9=1&q" =
      ["q".toList, "%C3%A9".toList, "1".toList, "q".toList] := by decide
  have hstrict : strictFormUrlencodedUtf8 "q=%C3%A9=1&q" = true := by
    rw [strictFormUrlencodedUtf8, hcomponents]
    simp only [List.all_cons, List.all_nil, Bool.and_true, Bool.and_eq_true]
    exact ⟨hcomponent _ ['q'] (by decide), hcomponent _ ['é'] (by decide),
      hcomponent _ ['1'] (by decide), hcomponent _ ['q'] (by decide)⟩
  exact ⟨hstrict, ((strict_form_exact _).2.2 hstrict).1⟩

end DockerMap
