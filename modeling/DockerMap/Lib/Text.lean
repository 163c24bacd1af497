import Mathlib.Data.List.Infix
import Mathlib.Data.Nat.Digits.Lemmas
import Mathlib.Data.String.Basic

/-! Text as a list of Unicode scalar values: the operations of a string library
that a publication boundary and a cursor parser need. -/

namespace Text

/-! Bounded quantifiers over characters. These come before the instances that go through
every character there is. -/

instance (priority := 2000) decidableForallMem (l : List Char) (p : Char → Prop)
    [DecidablePred p] : Decidable (∀ c ∈ l, p c) := List.decidableBAll p l

instance (priority := 2000) decidableExistsMem (l : List Char) (p : Char → Prop)
    [DecidablePred p] : Decidable (∃ c ∈ l, p c) := List.decidableBEx p l

instance (priority := 2000) decidableExistsMemOption (o : Option Char) (p : Char → Prop)
    [DecidablePred p] : Decidable (∃ c ∈ o, p c) := Option.decidableExistsMem o

instance (priority := 2000) decidableForallMemOption (o : Option Char) (p : Char → Prop)
    [DecidablePred p] : Decidable (∀ c ∈ o, p c) := Option.decidableForallMem o

/-! ASCII case and search -/

/-- `to_ascii_lowercase`. -/
def asciiLower (l : List Char) : List Char := l.map Char.toLower

theorem forall_ascii {P : Char → Prop} (h : ∀ n < 128, P (Char.ofNat n)) {c : Char}
    (hc : c.toNat < 128) : P c := by
  have hofNat := h c.toNat hc
  rwa [Char.ofNat_toNat] at hofNat

theorem isAlphanum_iff {c : Char} : c.isAlphanum = true ↔ (0x41 ≤ c.toNat ∧ c.toNat ≤ 0x5A) ∨
    (0x61 ≤ c.toNat ∧ c.toNat ≤ 0x7A) ∨ (0x30 ≤ c.toNat ∧ c.toNat ≤ 0x39) := by
  delta Char.isAlphanum Char.isAlpha Char.isUpper Char.isLower Char.isDigit
  simp only [Bool.or_eq_true, Bool.and_eq_true, decide_eq_true_eq, ge_iff_le,
    UInt32.le_iff_toNat_le, or_assoc]
  exact Iff.rfl

theorem ascii_of_isAlphanum {c : Char} (h : c.isAlphanum = true) : c.toNat < 128 := by
  rw [isAlphanum_iff] at h
  omega

theorem toLower_of_not_ascii {c : Char} (hc : 128 ≤ c.toNat) : c.toLower = c := by
  have hrange : ¬ (c.val ≥ 'A'.val ∧ c.val ≤ 'Z'.val) := by
    rintro ⟨-, hle⟩
    have hnat : c.toNat ≤ 90 := hle
    omega
  exact dif_neg hrange

/-- The length in UTF-8. -/
def byteLength (l : List Char) : ℕ := (l.map Char.utf8Size).sum

theorem byteLength_ascii {l : List Char} (h : ∀ c ∈ l, c.toNat < 128) :
    byteLength l = l.length := by
  induction l with
  | nil => rfl
  | cons c l ih =>
    have hone : c.utf8Size = 1 := Char.utf8Size_eq_one_iff.2
      (UInt32.le_iff_toNat_le.2 (Nat.lt_succ_iff.1 (h c List.mem_cons_self)))
    have hrest := ih fun d hd => h d (List.mem_cons_of_mem c hd)
    rw [byteLength] at hrest
    rw [byteLength, List.map_cons, List.sum_cons, hrest, hone, List.length_cons, Nat.add_comm]

def contains (l needle : List Char) : Bool := decide (needle <:+: l)

def startsWith (l needle : List Char) : Bool := decide (needle <+: l)

/-- What follows the first occurrence of the needle. -/
def afterFirst (needle : List Char) : List Char → Option (List Char)
  | [] => if needle = [] then some [] else none
  | c :: l =>
      if needle <+: c :: l then some ((c :: l).drop needle.length) else afterFirst needle l

def splitOnce (sep : Char) : List Char → Option (List Char × List Char)
  | [] => none
  | c :: l =>
      if c = sep then some ([], l) else (splitOnce sep l).map fun p => (c :: p.1, p.2)

theorem splitOnce_append {sep : Char} {l : List Char} (h : sep ∉ l) (r : List Char) :
    splitOnce sep (l ++ sep :: r) = some (l, r) := by
  induction l with
  | nil => simp [splitOnce]
  | cons c l ih =>
    rw [List.mem_cons, not_or] at h
    obtain ⟨hc, hl⟩ := h
    simp [splitOnce, Ne.symm hc, ih hl]

theorem splitOnce_eq_none {sep : Char} {l : List Char} (h : sep ∉ l) : splitOnce sep l = none := by
  induction l with
  | nil => rfl
  | cons c l ih =>
    rw [List.mem_cons, not_or] at h
    obtain ⟨hc, hl⟩ := h
    simp [splitOnce, Ne.symm hc, ih hl]

theorem splitOnce_parts {sep : Char} {l a b : List Char} (h : splitOnce sep l = some (a, b)) :
    l = a ++ sep :: b ∧ sep ∉ a := by
  induction l generalizing a with
  | nil => cases h
  | cons c l ih =>
    rw [splitOnce] at h
    split_ifs at h with hc
    · cases h
      exact ⟨by rw [hc, List.nil_append], List.not_mem_nil⟩
    · obtain ⟨⟨first, rest⟩, hsplit, heq⟩ := Option.map_eq_some_iff.1 h
      cases heq
      obtain ⟨hl, hmem⟩ := ih hsplit
      exact ⟨by rw [hl, List.cons_append], List.not_mem_cons_of_ne_of_not_mem (Ne.symm hc) hmem⟩

/-! Character classes -/

/-- Unicode `White_Space`. -/
def isWhitespace (c : Char) : Bool :=
  let n := c.toNat
  (9 ≤ n && n ≤ 13) || n == 0x20 || n == 0x85 || n == 0xA0 || n == 0x1680 ||
    (0x2000 ≤ n && n ≤ 0x200A) || n == 0x2028 || n == 0x2029 || n == 0x202F || n == 0x205F ||
    n == 0x3000

/-- Unicode general category `Cc`. -/
def isControl (c : Char) : Bool :=
  let n := c.toNat
  n ≤ 0x1F || (0x7F ≤ n && n ≤ 0x9F)

def trimStart (l : List Char) : List Char := l.dropWhile isWhitespace

def trim (l : List Char) : List Char := (trimStart (trimStart l).reverse).reverse

def splitWhitespace (l : List Char) : List (List Char) :=
  (l.splitOnP isWhitespace).filter (· ≠ [])

/-- The first `max` characters, with an ellipsis when some were cut off. -/
def truncateChars (l : List Char) (max : ℕ) : List Char :=
  if max < l.length then l.take max ++ ['.', '.', '.'] else l

/-! Numbers -/

/-- Digits only, at least one, value below the bound of the integer type. -/
def parseDigits (bound : ℕ) (l : List Char) : Option ℕ :=
  if l ≠ [] ∧ l.all Char.isDigit ∧ Nat.ofDigitChars 10 l 0 < bound then
    some (Nat.ofDigitChars 10 l 0)
  else none

/-- `str::parse` at an unsigned type: an optional plus sign, then digits. -/
def parseUnsigned (bound : ℕ) : List Char → Option ℕ
  | '+' :: l => parseDigits bound l
  | l => parseDigits bound l

theorem parseDigits_toDigits {bound n : ℕ} (h : n < bound) :
    parseDigits bound (Nat.toDigits 10 n) = some n := by
  have hall : (Nat.toDigits 10 n).all Char.isDigit := by
    simpa using fun c hc => Nat.isDigit_of_mem_toDigits (by decide) (by decide) hc
  rw [parseDigits, Nat.ofDigitChars_ten_toDigits, if_pos ⟨Nat.toDigits_ne_nil, hall, h⟩]

theorem not_mem_toDigits {c : Char} (hc : c.isDigit = false) (n : ℕ) : c ∉ Nat.toDigits 10 n := by
  intro h
  have := Nat.isDigit_of_mem_toDigits (by decide) (by decide) h
  simp [hc] at this

theorem parseUnsigned_toDigits {bound n : ℕ} (h : n < bound) :
    parseUnsigned bound (Nat.toDigits 10 n) = some n := by
  have hplus := not_mem_toDigits (c := '+') (by decide) n
  unfold parseUnsigned
  split
  · rename_i l heq
    simp [heq] at hplus
  · exact parseDigits_toDigits h

theorem parseUnsigned_of_digits {bound : ℕ} {l : List Char} (hne : l ≠ [])
    (h : l.all Char.isDigit) : parseUnsigned bound l =
      if Nat.ofDigitChars 10 l 0 < bound then some (Nat.ofDigitChars 10 l 0) else none := by
  unfold parseUnsigned
  split
  · simp [Char.isDigit] at h
  · simp only [parseDigits, hne, h, ne_eq, not_false_eq_true, true_and]

theorem toDigits_injective : Function.Injective (Nat.toDigits 10) := fun a b h => by
  rw [← Nat.ofDigitChars_ten_toDigits (n := a), h, Nat.ofDigitChars_ten_toDigits]

/-! Canonical decimals -/

theorem toDigits_step {n d : ℕ} (hn : 0 < n) (hd : d < 10) :
    Nat.toDigits 10 (10 * n + d) = Nat.toDigits 10 n ++ [Nat.digitChar d] := by
  rw [← Nat.toDigits_append_toDigits (by decide) hn hd, Nat.toDigits_of_lt_base hd]

theorem exists_digit {c : Char} (h : c.isDigit = true) : ∃ d < 10, c = Nat.digitChar d := by
  have hascii : c.toNat < 128 := by
    simp only [Char.isDigit, Bool.and_eq_true, decide_eq_true_eq] at h
    have hle : c.toNat ≤ 57 := h.2
    omega
  exact forall_ascii (P := fun c => c.isDigit = true → ∃ d < 10, c = Nat.digitChar d)
    (by decide) hascii h

theorem ofDigitChars_lt {l : List Char} (h : ∀ c ∈ l, c.isDigit = true) :
    Nat.ofDigitChars 10 l 0 < 10 ^ l.length := by
  induction l using List.reverseRecOn with
  | nil => exact Nat.one_pos
  | append_singleton l c ih =>
    obtain ⟨hl, hc⟩ := List.forall_mem_append.1 h
    obtain ⟨d, hd, rfl⟩ := exists_digit (hc c (List.mem_singleton_self c))
    have hfront := ih hl
    rw [Nat.ofDigitChars_append, Nat.ofDigitChars_cons_digitChar_of_lt_ten hd,
      Nat.ofDigitChars_nil, List.length_append, List.length_singleton, Nat.pow_succ]
    omega

theorem digitChar_ne_zero : ∀ d < 10, 0 < d → Nat.digitChar d ≠ '0' := by decide

theorem head_toDigits {n : ℕ} (h : 0 < n) : ∃ c ∈ (Nat.toDigits 10 n).head?, c ≠ '0' := by
  induction n using Nat.strong_induction_on with
  | _ n ih =>
    by_cases hn : n < 10
    · rw [Nat.toDigits_of_lt_base hn]
      exact ⟨Nat.digitChar n, rfl, digitChar_ne_zero n hn h⟩
    · have hsum : 10 * (n / 10) + n % 10 = n := Nat.div_add_mod ..
      rw [← hsum, toDigits_step (by omega) (by omega)]
      obtain ⟨c, hc, hne⟩ := ih (n / 10) (by omega) (by omega)
      refine ⟨c, ?_, hne⟩
      rw [Option.mem_def, List.head?_append, Option.mem_def.1 hc]
      rfl

theorem exists_toDigits {l : List Char} (hdigits : ∀ c ∈ l, c.isDigit = true)
    (hhead : ∃ c ∈ l.head?, c ≠ '0') : ∃ n, 0 < n ∧ l = Nat.toDigits 10 n := by
  induction l using List.reverseRecOn with
  | nil =>
    obtain ⟨c, hc, -⟩ := hhead
    cases hc
  | append_singleton l c ih =>
    obtain ⟨d, hd, rfl⟩ := exists_digit (hdigits c (by simp))
    cases l with
    | nil =>
      obtain ⟨c, hc, hne⟩ := hhead
      cases hc
      refine ⟨d, Nat.pos_of_ne_zero fun hzero => ?_, ?_⟩
      · rw [hzero] at hne
        exact hne rfl
      · rw [Nat.toDigits_of_lt_base hd, List.nil_append]
    | cons first rest =>
      obtain ⟨n, hn, hl⟩ := ih (fun c hc => hdigits c (List.mem_append_left _ hc))
        (by simpa using hhead)
      exact ⟨10 * n + d, by omega, by rw [toDigits_step hn hd, ← hl]⟩

/-- The digit strings without a leading zero are the decimals of the natural numbers. -/
theorem canonical_iff {l : List Char} :
    l = ['0'] ∨ (∃ c ∈ l.head?, c ≠ '0') ∧ (∀ c ∈ l, c.isDigit = true) ↔
      ∃ n, l = Nat.toDigits 10 n := by
  constructor
  · rintro (rfl | ⟨hhead, hdigits⟩)
    · exact ⟨0, rfl⟩
    · obtain ⟨n, -, hl⟩ := exists_toDigits hdigits hhead
      exact ⟨n, hl⟩
  · rintro ⟨n, rfl⟩
    rcases Nat.eq_zero_or_pos n with rfl | hn
    · exact Or.inl rfl
    · exact Or.inr ⟨head_toDigits hn, fun c hc =>
        Nat.isDigit_of_mem_toDigits (by decide) (by decide) hc⟩

/-- Lowercase hexadecimal, zero padded on the left. -/
def hexPadded (width n : ℕ) : List Char :=
  (((Nat.digits 16 n).reverse).map Nat.digitChar).leftpad width '0'

def hexDigitValue (c : Char) : ℕ := ((List.range 16).find? fun d => Nat.digitChar d = c).getD 0

theorem hexDigitValue_digitChar : ∀ d < 16, hexDigitValue (Nat.digitChar d) = d := by decide

theorem hexPadded_eq_map (width n : ℕ) : hexPadded width n =
    ((Nat.digits 16 n ++ List.replicate (width - (Nat.digits 16 n).length) 0).reverse).map
      Nat.digitChar := by
  simp [hexPadded, List.leftpad, Nat.digitChar]

theorem hexPadded_injective (width : ℕ) : Function.Injective (hexPadded width) := by
  -- reading the digits back forgets only leading zeros
  have hread : ∀ n, Nat.ofDigits 16 ((hexPadded width n).map hexDigitValue).reverse = n := by
    intro n
    have hlt : ∀ d ∈ (Nat.digits 16 n ++
        List.replicate (width - (Nat.digits 16 n).length) 0).reverse,
        (hexDigitValue ∘ Nat.digitChar) d = d := by
      intro d hd
      simp only [List.mem_reverse, List.mem_append, List.mem_replicate] at hd
      rcases hd with hd | ⟨-, rfl⟩
      · exact hexDigitValue_digitChar d (Nat.digits_lt_base (by norm_num) hd)
      · exact hexDigitValue_digitChar 0 (by norm_num)
    rw [hexPadded_eq_map, List.map_map, List.map_congr_left hlt, List.map_id', List.reverse_reverse,
      Nat.ofDigits_append_replicate_zero, Nat.ofDigits_digits]
  intro a b h
  rw [← hread a, h, hread b]

end Text
