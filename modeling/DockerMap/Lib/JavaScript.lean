import DockerMap.Lib.Binary64
import DockerMap.Lib.Json

/-! What a JavaScript program sees of a parsed JSON value: a property that is missing is
`none`, numbers are binary64, strings are compared by their UTF-16 code units. -/

namespace JavaScript

def asNumber : Option Json → Option ℕ
  | some (.num n) => some (Binary64.ofNat n)
  | _ => none

/-- `null` or missing. -/
def isNullish : Option Json → Bool
  | none | some .null => true
  | _ => false

/-- `===` at values from different places of a payload: no two objects are the same. -/
def strictEqual : Option Json → Option Json → Bool
  | none, none | some .null, some .null => true
  | some (.bool a), some (.bool b) => a == b
  | some (.num a), some (.num b) => Binary64.ofNat a == Binary64.ofNat b
  | some (.str a), some (.str b) => a == b
  | _, _ => false

/-! Order -/

def unitsOf (c : Char) : List ℕ :=
  let n := c.toNat
  if n < 0x10000 then [n]
  else [0xD800 + (n - 0x10000) / 0x400, 0xDC00 + (n - 0x10000) % 0x400]

def codeUnits (text : String) : List ℕ := text.toList.flatMap unitsOf

/-- The scalar value in front; a lead surrogate stands for two units. -/
def readScalar : List ℕ → Option (ℕ × List ℕ)
  | [] => none
  | unit :: units =>
      if 0xD800 ≤ unit ∧ unit < 0xDC00 then
        units.head?.map fun trail =>
          (0x10000 + (unit - 0xD800) * 0x400 + (trail - 0xDC00), units.tail)
      else some (unit, units)

theorem readScalar_unitsOf (c : Char) (units : List ℕ) :
    readScalar (unitsOf c ++ units) = some (c.toNat, units) := by
  have hvalid : c.toNat < 0xD800 ∨ 0xDFFF < c.toNat ∧ c.toNat < 0x110000 := c.valid
  rw [unitsOf]
  split_ifs with hsmall
  · rw [List.cons_append, List.nil_append, readScalar, if_neg (by omega)]
  · have hback : 0x10000 + (0xD800 + (c.toNat - 0x10000) / 0x400 - 0xD800) * 0x400 +
        (0xDC00 + (c.toNat - 0x10000) % 0x400 - 0xDC00) = c.toNat := by
      omega
    rw [List.cons_append, List.cons_append, List.nil_append, readScalar, if_pos (by omega),
      List.head?_cons, Option.map_some, List.tail_cons, hback]

theorem codeUnits_injective : Function.Injective codeUnits := by
  have hchars (l l' : List Char) (h : l.flatMap unitsOf = l'.flatMap unitsOf) : l = l' := by
    induction l generalizing l' with
    | nil =>
      cases l' with
      | nil => rfl
      | cons c l' =>
        have hread := readScalar_unitsOf c (l'.flatMap unitsOf)
        rw [← List.flatMap_cons, ← h] at hread
        cases hread
    | cons c l ih =>
      have hread := readScalar_unitsOf c (l.flatMap unitsOf)
      rw [← List.flatMap_cons, h] at hread
      cases l' with
      | nil => cases hread
      | cons d l' =>
        rw [List.flatMap_cons, readScalar_unitsOf, Option.some.injEq, Prod.mk.injEq] at hread
        rw [Char.toNat_inj.1 hread.1, ih l' hread.2.symm]
  exact fun a b h => String.toList_injective (hchars _ _ h)

def textLess (a b : String) : Bool := decide (codeUnits a < codeUnits b)

/-! Characters of a text -/

/-- What `trim` and `\s` take for white space. -/
def isSpaceUnit (unit : ℕ) : Bool :=
  (9 ≤ unit && unit ≤ 13) || unit == 0x20 || unit == 0xA0 || unit == 0x1680 ||
    (0x2000 ≤ unit && unit ≤ 0x200A) || unit == 0x2028 || unit == 0x2029 || unit == 0x202F ||
    unit == 0x205F || unit == 0x3000 || unit == 0xFEFF

def trimBy {α : Type*} (space : α → Bool) (l : List α) : List α :=
  ((l.dropWhile space).reverse.dropWhile space).reverse

def trimUnits (units : List ℕ) : List ℕ := trimBy isSpaceUnit units

def trim (text : List Char) : List Char := trimBy (fun c => isSpaceUnit c.toNat) text

/-- The characters of `Array.from`; a surrogate without its other half is one of its own. -/
def codePoints : List ℕ → List (List ℕ)
  | [] => []
  | [unit] => [[unit]]
  | lead :: trail :: units =>
      if 0xD800 ≤ lead ∧ lead < 0xDC00 ∧ 0xDC00 ≤ trail ∧ trail < 0xE000 then
        [lead, trail] :: codePoints units
      else [lead] :: codePoints (trail :: units)

/-- One character of a string literal of `JSON.stringify`. -/
def quotePoint : List ℕ → List ℕ
  | [unit] =>
      if 0xD800 ≤ unit ∧ unit < 0xE000 then
        ('\\' :: 'u' :: Text.hexPadded 4 unit).map Char.toNat
      else (Json.escapeChar (Char.ofNat unit)).map Char.toNat
  | units => units

def quoteUnits (units : List ℕ) : List ℕ :=
  '"'.toNat :: (codePoints units).flatMap quotePoint ++ ['"'.toNat]

/-- `JSON.stringify` of an array of texts. -/
def stringifyTexts (texts : List (List ℕ)) : List ℕ :=
  '['.toNat :: [','.toNat].intercalate (texts.map quoteUnits) ++ [']'.toNat]

/-! Text of a value -/

/-- The two digit strings next to the value once that many zeros are left off, the nearer
one first. -/
def nearestDigits (value zeros : ℕ) : List ℕ :=
  let down := value / 10 ^ zeros
  if 2 * (value % 10 ^ zeros) ≤ 10 ^ zeros then [down, down + 1] else [down + 1, down]

/-- The fewest digits that read back as the value, and the zeros that follow them. -/
def shortestDigits (value : ℕ) : ℕ × ℕ :=
  ((List.range ((Nat.toDigits 10 value).length + 1)).reverse.findSome? fun zeros =>
    ((nearestDigits value zeros).find? fun digits =>
      0 < digits && Binary64.ofNat (digits * 10 ^ zeros) == value).map (·, zeros)).getD (value, 0)

/-- `Number::toString` at a natural number. -/
def numberText (value : ℕ) : List Char :=
  let (number, zeros) := shortestDigits value
  let digits := Nat.toDigits 10 number
  let size := digits.length + zeros
  if size ≤ 21 then digits ++ List.replicate zeros '0'
  else
    let fraction := digits.drop 1
    digits.take 1 ++ (if fraction = [] then [] else '.' :: fraction) ++ ['e', '+'] ++
      Nat.toDigits 10 (size - 1)

mutual

/-- `String(value)`. -/
def textOf : Json → String
  | .null => "null"
  | .bool b => if b then "true" else "false"
  | .num n => String.ofList (numberText (Binary64.ofNat n))
  | .str s => s
  | .arr items => String.intercalate "," (itemTexts items)
  | .obj _ => "[object Object]"

def itemTexts : List Json → List String
  | [] => []
  | .null :: items => "" :: itemTexts items
  | item :: items => textOf item :: itemTexts items

end

def propertyText : Option Json → String
  | none => "undefined"
  | some value => textOf value

example : numberText (Binary64.ofNat 1735689600000) = "1735689600000".toList := by decide
example : numberText (Binary64.ofNat (2 ^ 64 - 1)) = "18446744073709552000".toList := by
  decide

/-! The characters of a number -/

def IsNumeral (c : Char) : Prop := c.isDigit = true ∨ c ∈ ['.', 'e', '+']

theorem isNumeral_of_mem_toDigits {c : Char} {n : ℕ} (h : c ∈ Nat.toDigits 10 n) : IsNumeral c :=
  Or.inl (Nat.isDigit_of_mem_toDigits (by decide) (by decide) h)

theorem isNumeral_of_mem_numberText {value : ℕ} {c : Char} (h : c ∈ numberText value) :
    IsNumeral c := by
  unfold numberText at h
  dsimp only at h
  split at h
  · rcases List.mem_append.1 h with hdigit | hzero
    · exact isNumeral_of_mem_toDigits hdigit
    · rw [(List.mem_replicate.1 hzero).2]
      exact Or.inl rfl
  · simp only [List.mem_append] at h
    rcases h with ((hlead | hfraction) | hexponent) | hsize
    · exact isNumeral_of_mem_toDigits (List.mem_of_mem_take hlead)
    · split at hfraction
      · cases hfraction
      · rcases List.mem_cons.1 hfraction with rfl | hrest
        · exact Or.inr (by decide)
        · exact isNumeral_of_mem_toDigits (List.mem_of_mem_drop hrest)
    · exact Or.inr (List.mem_cons_of_mem _ hexponent)
    · exact isNumeral_of_mem_toDigits hsize

/-! Reading what was written -/

@[simp] theorem asNumber_num (n : ℕ) : asNumber (some (.num n)) = some (Binary64.ofNat n) := rfl

@[simp] theorem strictEqual_str (a b : String) :
    strictEqual (some (.str a)) (some (.str b)) = (a == b) := rfl

@[simp] theorem strictEqual_num (a b : ℕ) :
    strictEqual (some (.num a)) (some (.num b)) = (Binary64.ofNat a == Binary64.ofNat b) := rfl

@[simp] theorem propertyText_num (n : ℕ) :
    propertyText (some (.num n)) = String.ofList (numberText (Binary64.ofNat n)) := by
  rw [propertyText, textOf]

end JavaScript
