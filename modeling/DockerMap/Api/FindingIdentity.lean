import DockerMap.Lib.Sha256
import DockerMap.Lib.Utf16

/-! The identity component that the API expects in a finding id, over UTF-16 code units. -/

namespace DockerMap.Api

open JavaScript (codeUnits codePoints scalars)

/-- `/^[A-Za-z0-9_.-]$/`: only a character of one unit can match. -/
def isReadable : List ℕ → Bool
  | [unit] =>
      (0x41 ≤ unit && unit ≤ 0x5A) || (0x61 ≤ unit && unit ≤ 0x7A) ||
        (0x30 ≤ unit && unit ≤ 0x39) || unit == 0x5F || unit == 0x2E || unit == 0x2D
  | _ => false

/-- The loop over the characters; the flag is `emittedSeparator`. -/
def slugUnits : Bool → List (List ℕ) → List ℕ
  | _, [] => []
  | emittedSeparator, character :: rest =>
      if isReadable character then character ++ slugUnits false rest
      else if !emittedSeparator then 0x2D :: slugUnits true rest
      else slugUnits emittedSeparator rest

/-- The matches of `-+$`, tried at one place after the other. -/
def replaceTrailing : List ℕ → List ℕ
  | [] => []
  | unit :: units =>
      if (unit :: units).all (· == 0x2D) then [] else unit :: replaceTrailing units

/-- `replace(/^-+|-+$/g, "")`: the first branch matches in front only. -/
def trimSlug (slug : List ℕ) : List ℕ := replaceTrailing (slug.dropWhile (· == 0x2D))

/-- `createHash` reads a text as UTF-8. -/
def sha256Hex (value : List ℕ) : List ℕ :=
  ((Sha256.digest ((scalars value).flatMap String.utf8EncodeChar)).words.flatMap
    fun word => Text.hexPadded 8 word.toNat).map Char.toNat

def collisionResistantIdComponent (value : List ℕ) : List ℕ :=
  let slug := trimSlug (slugUnits false (codePoints value))
  (if slug = [] then codeUnits "identity" else slug).take 48 ++ codeUnits "--" ++ sha256Hex value

end DockerMap.Api
