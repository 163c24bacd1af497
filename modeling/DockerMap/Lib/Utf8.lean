import DockerMap.Lib.FormEncoding

/-! Well-formed UTF-8, and the decoder that puts the replacement character for what is not. -/

namespace Utf8

open FormEncoding (utf8)

/-- The bytes of a text. -/
def IsText (bytes : List UInt8) : Prop := ∃ l, utf8 l = bytes

def isText (bytes : List UInt8) : Bool := bytes.toByteArray.validateUTF8

theorem isText_iff {bytes : List UInt8} : isText bytes = true ↔ IsText bytes := by
  rw [isText, ByteArray.validateUTF8_eq_true_iff]
  constructor
  · rintro ⟨l, heq⟩
    exact ⟨l, (List.toByteArray_inj.1 heq).symm⟩
  · rintro ⟨l, rfl⟩
    exact ⟨l, rfl⟩

/-! Cutting at an ASCII byte -/

theorem utf8EncodeChar_cases (c : Char) :
    (∃ byte, String.utf8EncodeChar c = [byte] ∧ byte < 0x80) ∨
      ∀ byte ∈ String.utf8EncodeChar c, 0x80 ≤ byte := by
  have hlarge {n : ℕ} (hlow : 0x80 ≤ n) (hhigh : n < 0x100) : (0x80 : UInt8) ≤ UInt8.ofNat n := by
    rw [UInt8.le_iff_toNat_le, UInt8.toNat_ofNat_of_lt' hhigh]
    exact hlow
  rw [String.utf8EncodeChar]
  split_ifs with hone htwo hthree
  · refine Or.inl ⟨_, rfl, ?_⟩
    rw [UInt8.lt_iff_toNat_lt, UInt8.toNat_ofNat_of_lt' (by simp only [UInt8.size]; omega)]
    exact Nat.lt_succ_of_le hone
  all_goals
    refine Or.inr fun byte hbyte => ?_
    simp only [List.mem_cons, List.not_mem_nil, or_false] at hbyte
    rcases hbyte with rfl | hbyte <;> grind

variable {a b : List UInt8} {byte : UInt8}

theorem utf8_append (l l' : List Char) : utf8 (l ++ l') = utf8 l ++ utf8 l' :=
  List.flatMap_append

theorem isText_utf8 (l : List Char) : IsText (utf8 l) := ⟨l, rfl⟩

theorem IsText.append (ha : IsText a) (hb : IsText b) : IsText (a ++ b) := by
  obtain ⟨l, rfl⟩ := ha
  obtain ⟨l', rfl⟩ := hb
  exact ⟨l ++ l', utf8_append l l'⟩

theorem isText_singleton (h : byte < 0x80) : IsText [byte] := by
  have hascii : ∀ n < 0x80, utf8 [Char.ofNat n] = [UInt8.ofNat n] := by decide
  refine ⟨[Char.ofNat byte.toNat], ?_⟩
  rw [hascii _ (UInt8.lt_iff_toNat_lt.1 h), UInt8.ofNat_toNat]

theorem isText_of_cut (h : byte < 0x80) (l : List Char) (heq : utf8 l = a ++ byte :: b) :
    IsText a ∧ IsText b := by
  induction l generalizing a with
  | nil => simp [utf8] at heq
  | cons c l ih =>
    have hcons : String.utf8EncodeChar c ++ utf8 l = a ++ byte :: b := heq
    have hc : IsText (String.utf8EncodeChar c) := ⟨[c], by simp [utf8]⟩
    rcases List.append_eq_append_iff.1 hcons with ⟨rest, ha, hl⟩ | ⟨rest, hchar, hl⟩
    · obtain ⟨hrest, hb⟩ := ih hl
      rw [ha]
      exact ⟨hc.append hrest, hb⟩
    · cases rest with
      | nil =>
        have hl : utf8 l = [] ++ byte :: b := hl.symm
        rw [List.append_nil] at hchar
        exact ⟨hchar ▸ hc, (ih hl).2⟩
      | cons x rest =>
        rw [List.cons_append, List.cons.injEq] at hl
        obtain ⟨rfl, rfl⟩ := hl
        rcases utf8EncodeChar_cases c with ⟨single, hsingle, -⟩ | hlarge
        · rw [hsingle, List.singleton_eq_append_iff] at hchar
          rcases hchar with ⟨rfl, hrest⟩ | ⟨-, hrest⟩
          · obtain ⟨-, rfl⟩ := List.cons.inj hrest
            exact ⟨isText_utf8 [], isText_utf8 l⟩
          · cases hrest
        · have hle : 0x80 ≤ byte := hlarge byte (by rw [hchar]; simp)
          exact absurd h (UInt8.not_lt.2 hle)

/-- A text can be cut at any ASCII byte. -/
theorem isText_cut (h : byte < 0x80) : IsText (a ++ byte :: b) ↔ IsText a ∧ IsText b := by
  constructor
  · rintro ⟨l, heq⟩
    exact isText_of_cut h l heq
  · rintro ⟨ha, hb⟩
    exact ha.append ((isText_singleton h).append hb)

/-! The decoder -/

/-- What is expected inside a sequence. -/
structure Pending where
  needed : ℕ
  lower : ℕ
  upper : ℕ
  codePoint : ℕ

/-- A byte outside of a sequence; `none` among the characters is an error. -/
def start (byte : ℕ) : List (Option Char) × Option Pending :=
  if byte < 0x80 then ([some (Char.ofNat byte)], none)
  else if 0xC2 ≤ byte ∧ byte < 0xE0 then ([], some ⟨1, 0x80, 0xBF, byte - 0xC0⟩)
  else if 0xE0 ≤ byte ∧ byte < 0xF0 then
    ([], some ⟨2, if byte = 0xE0 then 0xA0 else 0x80, if byte = 0xED then 0x9F else 0xBF,
      byte - 0xE0⟩)
  else if 0xF0 ≤ byte ∧ byte < 0xF5 then
    ([], some ⟨3, if byte = 0xF0 then 0x90 else 0x80, if byte = 0xF4 then 0x8F else 0xBF,
      byte - 0xF0⟩)
  else ([none], none)

/-- A byte that does not continue the sequence is looked at once more, outside of it. -/
def feed : Option Pending → ℕ → List (Option Char) × Option Pending
  | none, byte => start byte
  | some pending, byte =>
      if pending.lower ≤ byte ∧ byte ≤ pending.upper then
        let codePoint := pending.codePoint * 64 + (byte - 0x80)
        if pending.needed = 1 then ([some (Char.ofNat codePoint)], none)
        else ([], some ⟨pending.needed - 1, 0x80, 0xBF, codePoint⟩)
      else (none :: (start byte).1, (start byte).2)

def decodeFrom : Option Pending → List UInt8 → List (Option Char)
  | none, [] => []
  | some _, [] => [none]
  | pending, byte :: bytes =>
      (feed pending byte.toNat).1 ++ decodeFrom (feed pending byte.toNat).2 bytes

def decode (bytes : List UInt8) : List (Option Char) := decodeFrom none bytes

def lossy (bytes : List UInt8) : List Char := (decode bytes).map (·.getD '\uFFFD')

theorem decodeFrom_cons (pending : Option Pending) (bytes : List UInt8) {n : ℕ} (h : n < 256) :
    decodeFrom pending (UInt8.ofNat n :: bytes) =
      (feed pending n).1 ++ decodeFrom (feed pending n).2 bytes := by
  have hn : (UInt8.ofNat n).toNat = n := UInt8.toNat_ofNat_of_lt' h
  cases pending <;> rw [decodeFrom, hn]

/-- The next byte of a sequence that goes on after it. -/
theorem decodeFrom_next {pending : Pending} (bytes : List UInt8) {n : ℕ} (hn : n < 256)
    (hrange : pending.lower ≤ n ∧ n ≤ pending.upper) (hneeded : pending.needed ≠ 1) :
    decodeFrom (some pending) (UInt8.ofNat n :: bytes) =
      decodeFrom (some ⟨pending.needed - 1, 0x80, 0xBF, pending.codePoint * 64 + (n - 0x80)⟩)
        bytes := by
  rw [decodeFrom_cons _ _ hn, feed, if_pos hrange]
  dsimp only
  rw [if_neg hneeded]
  rfl

/-- The last byte of a sequence. -/
theorem decodeFrom_last {pending : Pending} (bytes : List UInt8) {n : ℕ} {c : Char}
    (hn : n < 256) (hrange : pending.lower ≤ n ∧ n ≤ pending.upper) (hneeded : pending.needed = 1)
    (hc : pending.codePoint * 64 + (n - 0x80) = c.toNat) :
    decodeFrom (some pending) (UInt8.ofNat n :: bytes) = some c :: decodeFrom none bytes := by
  rw [decodeFrom_cons _ _ hn, feed, if_pos hrange]
  dsimp only
  rw [if_pos hneeded, hc, Char.ofNat_toNat]
  rfl

/-- The first byte of a longer sequence. -/
theorem decodeFrom_lead {pending : Pending} (bytes : List UInt8) {n : ℕ} (hn : n < 256)
    (hstart : start n = ([], some pending)) :
    decodeFrom none (UInt8.ofNat n :: bytes) = decodeFrom (some pending) bytes := by
  rw [decodeFrom_cons _ _ hn, feed, hstart]
  rfl

theorem decodeFrom_char (c : Char) (bytes : List UInt8) :
    decodeFrom none (String.utf8EncodeChar c ++ bytes) = some c :: decodeFrom none bytes := by
  have hvalid : c.toNat < 0xD800 ∨ 0xDFFF < c.toNat ∧ c.toNat < 0x110000 := c.valid
  have hval : c.val.toNat = c.toNat := rfl
  rw [String.utf8EncodeChar, hval]
  split_ifs with hone htwo hthree
  · rw [List.cons_append, decodeFrom_cons _ _ (by omega), feed, start, if_pos (by omega),
      Char.ofNat_toNat]
    rfl
  · have hlead : start (c.toNat / 64 % 32 + 192) =
        ([], some ⟨1, 0x80, 0xBF, c.toNat / 64 % 32 + 192 - 192⟩) := by
      rw [start, if_neg (by omega), if_pos (by omega)]
    exact (decodeFrom_lead _ (by omega) hlead).trans
      (decodeFrom_last _ (by omega) (by dsimp only; omega) rfl (by dsimp only; omega))
  · have hlead : start (c.toNat / 4096 % 16 + 224) =
        ([], some ⟨2, if c.toNat / 4096 % 16 + 224 = 0xE0 then 0xA0 else 0x80,
          if c.toNat / 4096 % 16 + 224 = 0xED then 0x9F else 0xBF,
          c.toNat / 4096 % 16 + 224 - 224⟩) := by
      rw [start, if_neg (by omega), if_neg (by omega), if_pos (by omega)]
    refine (decodeFrom_lead _ (by omega) hlead).trans
      ((decodeFrom_next _ (by omega) ?_ (by norm_num)).trans
        (decodeFrom_last _ (by omega) (by dsimp only; omega) rfl (by dsimp only; omega)))
    dsimp only
    split_ifs <;> omega
  · have hlead : start (c.toNat / 262144 % 8 + 240) =
        ([], some ⟨3, if c.toNat / 262144 % 8 + 240 = 0xF0 then 0x90 else 0x80,
          if c.toNat / 262144 % 8 + 240 = 0xF4 then 0x8F else 0xBF,
          c.toNat / 262144 % 8 + 240 - 240⟩) := by
      rw [start, if_neg (by omega), if_neg (by omega), if_neg (by omega), if_pos (by omega)]
    refine (decodeFrom_lead _ (by omega) hlead).trans
      ((decodeFrom_next _ (by omega) ?_ (by norm_num)).trans
        ((decodeFrom_next _ (by omega) (by dsimp only; omega) (by norm_num)).trans
          (decodeFrom_last _ (by omega) (by dsimp only; omega) rfl (by dsimp only; omega))))
    dsimp only
    split_ifs <;> omega

theorem decode_utf8 (l : List Char) : decode (utf8 l) = l.map some := by
  induction l with
  | nil => rfl
  | cons c l ih =>
    have hcons : utf8 (c :: l) = String.utf8EncodeChar c ++ utf8 l := rfl
    rw [decode, hcons, decodeFrom_char, List.map_cons]
    exact congrArg _ ih

/-- Nothing is replaced in the bytes of a text. -/
theorem IsText.decodes {bytes : List UInt8} (h : IsText bytes) :
    none ∉ decode bytes ∧ utf8 (lossy bytes) = bytes := by
  obtain ⟨l, rfl⟩ := h
  rw [lossy, decode_utf8, List.map_map]
  exact ⟨by simp, congrArg utf8 (List.map_id l)⟩

end Utf8
