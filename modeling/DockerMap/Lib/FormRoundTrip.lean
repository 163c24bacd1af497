import DockerMap.Lib.FormParsing

/-! The `application/x-www-form-urlencoded` serializer of names and values; the parser reads back
what it writes. -/

namespace FormEncoding

open Utf8 (utf8_append)

def serializePair (pair : String × String) : List Char :=
  byteSerialize (utf8 pair.1.toList) ++ '=' :: byteSerialize (utf8 pair.2.toList)

def serialize (pairs : List (String × String)) : List Char :=
  ['&'].intercalate (pairs.map serializePair)

theorem serialize_singleton (pair : String × String) : serialize [pair] = serializePair pair := by
  rw [serialize, List.map_singleton, List.intercalate_singleton]

theorem serialize_cons_cons (pair next : String × String) (rest : List (String × String)) :
    serialize (pair :: next :: rest) = serializePair pair ++ '&' :: serialize (next :: rest) := by
  rw [serialize, List.map_cons, List.map_cons, List.intercalate_cons_cons, List.append_assoc]
  rfl

theorem utf8_ampersand (l : List Char) : utf8 ('&' :: l) = ampersand :: utf8 l := rfl

/-! Bytes -/

/-- A byte is written as itself, as a plus sign or as a triplet. -/
theorem serializeByte_cases : ∀ n < 256,
    (∃ byte, utf8 (serializeByte (UInt8.ofNat n)) = [byte] ∧ byte ≠ 0x25 ∧ byte ≠ ampersand ∧
      byte ≠ equalsSign ∧ plusToSpace byte = UInt8.ofNat n) ∨
    ∃ high low, utf8 (serializeByte (UInt8.ofNat n)) = [0x25, high, low] ∧
      isHexDigit high = true ∧ isHexDigit low = true ∧
      UInt8.ofNat (nibble high * 16 + nibble low) = UInt8.ofNat n := by
  have hplain : ∀ n < 256, (serializeByte (UInt8.ofNat n)).length = 1 →
      ∃ byte ∈ utf8 (serializeByte (UInt8.ofNat n)),
        utf8 (serializeByte (UInt8.ofNat n)) = [byte] ∧ byte ≠ 0x25 ∧ byte ≠ ampersand ∧
          byte ≠ equalsSign ∧ plusToSpace byte = UInt8.ofNat n := by decide +kernel
  have htriplet : ∀ n < 256, (serializeByte (UInt8.ofNat n)).length ≠ 1 →
      ∃ high ∈ utf8 (serializeByte (UInt8.ofNat n)), ∃ low ∈ utf8 (serializeByte (UInt8.ofNat n)),
        utf8 (serializeByte (UInt8.ofNat n)) = [0x25, high, low] ∧
          isHexDigit high = true ∧ isHexDigit low = true ∧
          UInt8.ofNat (nibble high * 16 + nibble low) = UInt8.ofNat n := by decide +kernel
  intro n hn
  by_cases hlength : (serializeByte (UInt8.ofNat n)).length = 1
  · obtain ⟨byte, -, hbyte⟩ := hplain n hn hlength
    exact Or.inl ⟨byte, hbyte⟩
  · obtain ⟨high, -, low, -, hdigits⟩ := htriplet n hn hlength
    exact Or.inr ⟨high, low, hdigits⟩

theorem isHexDigit_not_separator {byte : UInt8} (h : isHexDigit byte = true) :
    byte ≠ ampersand ∧ byte ≠ equalsSign := by
  constructor
  · rintro rfl
    revert h
    decide
  · rintro rfl
    revert h
    decide

theorem byteSerialize_cons (byte : UInt8) (bytes : List UInt8) :
    utf8 (byteSerialize (byte :: bytes)) =
      utf8 (serializeByte byte) ++ utf8 (byteSerialize bytes) := by
  rw [byteSerialize, List.flatMap_cons, utf8_append]
  rfl

theorem cases_of_byte (byte : UInt8) :
    (∃ plain, utf8 (serializeByte byte) = [plain] ∧ plain ≠ 0x25 ∧ plain ≠ ampersand ∧
      plain ≠ equalsSign ∧ plusToSpace plain = byte) ∨
    ∃ high low, utf8 (serializeByte byte) = [0x25, high, low] ∧
      isHexDigit high = true ∧ isHexDigit low = true ∧
      UInt8.ofNat (nibble high * 16 + nibble low) = byte := by
  have hcases := serializeByte_cases byte.toNat byte.toNat_lt
  rwa [UInt8.ofNat_toNat] at hcases

theorem decodeComponent_byteSerialize (bytes : List UInt8) :
    decodeComponent (utf8 (byteSerialize bytes)) = bytes := by
  induction bytes with
  | nil => rfl
  | cons byte bytes ih =>
    rw [byteSerialize_cons]
    obtain ⟨plain, heq, hpercent, -, -, hplus⟩ | ⟨high, low, heq, hhigh, hlow, hvalue⟩ :=
      cases_of_byte byte
    · rw [heq, List.singleton_append, decodeComponent_cons hpercent, hplus, ih]
    · rw [heq, List.cons_append, List.cons_append, List.cons_append, List.nil_append,
        decodeComponent_triplet hhigh hlow, hvalue, ih]

/-- Neither separator is written inside of a component. -/
theorem not_separator_of_mem {bytes : List UInt8} {byte : UInt8}
    (h : byte ∈ utf8 (byteSerialize bytes)) : byte ≠ ampersand ∧ byte ≠ equalsSign := by
  induction bytes with
  | nil => cases h
  | cons first bytes ih =>
    rw [byteSerialize_cons, List.mem_append] at h
    refine h.elim (fun hfirst => ?_) ih
    obtain ⟨plain, heq, -, hampersand, hequals, -⟩ | ⟨high, low, heq, hhigh, hlow, -⟩ :=
      cases_of_byte first
    · rw [heq, List.mem_singleton] at hfirst
      rw [hfirst]
      exact ⟨hampersand, hequals⟩
    · rw [heq] at hfirst
      simp only [List.mem_cons, List.not_mem_nil, or_false] at hfirst
      rcases hfirst with rfl | rfl | rfl
      · decide
      · exact isHexDigit_not_separator hhigh
      · exact isHexDigit_not_separator hlow

/-! Pairs -/

theorem utf8_serializePair (pair : String × String) :
    utf8 (serializePair pair) = utf8 (byteSerialize (utf8 pair.1.toList)) ++
      equalsSign :: utf8 (byteSerialize (utf8 pair.2.toList)) := by
  rw [serializePair, utf8_append]
  rfl

theorem cutPair_append (name : List UInt8) (h : ∀ byte ∈ name, byte ≠ equalsSign)
    (value : List UInt8) : cutPair (name ++ equalsSign :: value) = (name, value) := by
  have hname : ∀ byte ∈ name, (byte != equalsSign) = true := fun byte hbyte =>
    bne_iff_ne.2 (h byte hbyte)
  rw [cutPair, List.takeWhile_append_of_pos hname, List.dropWhile_append_of_pos hname,
    List.takeWhile_cons_of_neg (by simp), List.dropWhile_cons_of_neg (by simp), List.append_nil,
    List.tail_cons]

theorem pairs_append (a b : List UInt8) : pairs (a ++ ampersand :: b) = pairs a ++ pairs b := by
  have hsplit := List.splitOnP_append_cons (p := (· == ampersand)) a b (beq_self_eq_true ampersand)
  rw [pairs, hsplit, List.filter_append, List.map_append]
  rfl

theorem parse_append (a b : List UInt8) : parse (a ++ ampersand :: b) = parse a ++ parse b := by
  rw [parse, pairs_append, List.map_append]
  rfl

theorem pairs_serializePair (pair : String × String) :
    pairs (utf8 (serializePair pair)) = [(utf8 pair.1.toList, utf8 pair.2.toList)] := by
  have hsplit : (utf8 (serializePair pair)).splitOnP (· == ampersand) =
      [utf8 (serializePair pair)] := by
    refine List.splitOnP_eq_singleton fun byte hbyte => ?_
    rw [beq_eq_false_iff_ne]
    rw [utf8_serializePair, List.mem_append, List.mem_cons] at hbyte
    rcases hbyte with hname | rfl | hvalue
    · exact (not_separator_of_mem hname).1
    · decide
    · exact (not_separator_of_mem hvalue).1
  have hne : utf8 (serializePair pair) ≠ [] := by
    rw [utf8_serializePair]
    exact List.append_ne_nil_of_right_ne_nil _ (List.cons_ne_nil _ _)
  have hcut := cutPair_append (utf8 (byteSerialize (utf8 pair.1.toList)))
    (fun byte hbyte => (not_separator_of_mem hbyte).2) (utf8 (byteSerialize (utf8 pair.2.toList)))
  rw [pairs, hsplit, List.filter_cons_of_pos (by simpa using hne), List.filter_nil,
    List.map_singleton, utf8_serializePair, hcut, decodeComponent_byteSerialize,
    decodeComponent_byteSerialize]

theorem lossy_utf8 (text : String) : String.ofList (Utf8.lossy (utf8 text.toList)) = text := by
  rw [Utf8.lossy, Utf8.decode_utf8, List.map_map]
  exact (congrArg String.ofList (List.map_id _)).trans (String.ofList_toList ..)

/-- The parser reads back what the serializer writes. -/
theorem parse_serialize (l : List (String × String)) : parse (utf8 (serialize l)) = l := by
  have hpair (pair : String × String) : parse (utf8 (serializePair pair)) = [pair] := by
    rw [parse, pairs_serializePair, List.map_singleton, lossy_utf8, lossy_utf8]
  induction l with
  | nil => rfl
  | cons pair rest ih =>
    cases rest with
    | nil => rw [serialize_singleton, hpair]
    | cons next rest =>
      rw [serialize_cons_cons, utf8_append, utf8_ampersand, parse_append, hpair, ih,
        List.singleton_append]

/-! Exactness -/

theorem wellEscaped_byteSerialize (bytes : List UInt8) :
    WellEscaped (utf8 (byteSerialize bytes)) := by
  induction bytes with
  | nil => exact wellEscaped_nil
  | cons byte bytes ih =>
    rw [byteSerialize_cons]
    obtain ⟨plain, heq, hpercent, -, -, -⟩ | ⟨high, low, heq, hhigh, hlow, -⟩ :=
      cases_of_byte byte
    · rw [heq, List.singleton_append]
      exact (wellEscaped_cons hpercent _).2 ih
    · rw [heq, List.cons_append, List.cons_append, List.cons_append, List.nil_append]
      exact (wellEscaped_triplet hhigh hlow _).2 ih

theorem exact_byteSerialize (text : String) : Exact (utf8 (byteSerialize (utf8 text.toList))) := by
  refine ⟨wellEscaped_byteSerialize _, ?_⟩
  rw [decodeComponent_byteSerialize]
  exact Utf8.isText_utf8 _

/-- Nothing that the serializer writes is malformed. -/
theorem exact_serialize (l : List (String × String)) : Exact (utf8 (serialize l)) := by
  have hpair (pair : String × String) : Exact (utf8 (serializePair pair)) := by
    rw [utf8_serializePair]
    exact (exact_cut (Or.inr rfl) _ _).2 ⟨exact_byteSerialize _, exact_byteSerialize _⟩
  induction l with
  | nil => exact exact_nil
  | cons pair rest ih =>
    cases rest with
    | nil =>
      rw [serialize_singleton]
      exact hpair pair
    | cons next rest =>
      rw [serialize_cons_cons, utf8_append, utf8_ampersand]
      exact (exact_cut (Or.inl rfl) _ _).2 ⟨hpair pair, ih⟩

/-! Lengths -/

theorem length_serializeByte_le (byte : UInt8) : (serializeByte byte).length ≤ 3 := by
  unfold serializeByte
  split_ifs
  · exact Nat.le_add_left 1 2
  · exact Nat.le_add_left 1 2
  · exact le_refl 3

theorem length_byteSerialize_le (bytes : List UInt8) :
    (byteSerialize bytes).length ≤ 3 * bytes.length := by
  induction bytes with
  | nil => exact le_refl _
  | cons byte bytes ih =>
    have hbyte := length_serializeByte_le byte
    rw [byteSerialize, List.flatMap_cons, List.length_append, List.length_cons]
    rw [byteSerialize] at ih
    omega

end FormEncoding
