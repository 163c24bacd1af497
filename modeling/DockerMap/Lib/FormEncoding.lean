import DockerMap.Lib.Text

/-! The `application/x-www-form-urlencoded` byte serializer. -/

namespace FormEncoding

/-- The bytes that stand for themselves. -/
def isUnchanged (byte : UInt8) : Bool :=
  (0x30 ≤ byte && byte ≤ 0x39) || (0x41 ≤ byte && byte ≤ 0x5A) || (0x61 ≤ byte && byte ≤ 0x7A) ||
    [0x2A, 0x2D, 0x2E, 0x5F].contains byte

/-- An upper-case hexadecimal digit. -/
def hexDigit (n : ℕ) : Char := (Nat.digitChar n).toUpper

def serializeByte (byte : UInt8) : List Char :=
  if isUnchanged byte then [Char.ofNat byte.toNat]
  else if byte = 0x20 then ['+']
  else ['%', hexDigit (byte.toNat / 16), hexDigit (byte.toNat % 16)]

def byteSerialize (bytes : List UInt8) : List Char := bytes.flatMap serializeByte

def utf8 (l : List Char) : List UInt8 := l.flatMap String.utf8EncodeChar

/-- Neither a delimiter of a query nor a space comes out. -/
theorem mem_byteSerialize {bytes : List UInt8} {c : Char} (h : c ∈ byteSerialize bytes) :
    c.isAlphanum = true ∨ c ∈ ['*', '-', '.', '_', '+', '%'] := by
  have hbytes : ∀ n < 256, ∀ c ∈ serializeByte (UInt8.ofNat n),
      c.isAlphanum = true ∨ c ∈ ['*', '-', '.', '_', '+', '%'] := by decide +kernel
  obtain ⟨byte, -, hc⟩ := List.mem_flatMap.1 h
  have hofNat : UInt8.ofNat byte.toNat = byte := UInt8.ofNat_toNat
  rw [← hofNat] at hc
  exact hbytes byte.toNat byte.toNat_lt c hc

end FormEncoding
