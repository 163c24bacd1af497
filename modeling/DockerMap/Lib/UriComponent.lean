import DockerMap.Lib.FormParsing
import DockerMap.Lib.JavaScript

/-! `decodeURIComponent`, over UTF-16 code units. -/

namespace JavaScript

def isHexUnit (unit : ℕ) : Bool :=
  (0x30 ≤ unit && unit ≤ 0x39) || (0x61 ≤ unit && unit ≤ 0x66) || (0x41 ≤ unit && unit ≤ 0x46)

/-- A run of escaped bytes; one that is not UTF-8 throws. -/
def decodeRun (run : List UInt8) : Option (List ℕ) :=
  if Utf8.isText run then some ((Utf8.lossy run).flatMap unitsOf) else none

/-- `decodeURIComponent` after a run of escaped bytes; `none` is an exception. -/
def decodeUriFrom (run : List UInt8) : List ℕ → Option (List ℕ)
  | [] => decodeRun run
  | unit :: high :: low :: rest =>
      if unit = 0x25 then
        if isHexUnit high ∧ isHexUnit low then
          decodeUriFrom (run ++ [UInt8.ofNat (FormEncoding.nibble (UInt8.ofNat high) * 16 +
            FormEncoding.nibble (UInt8.ofNat low))]) rest
        else none
      else do
        let text ← decodeRun run
        let tail ← decodeUriFrom [] (high :: low :: rest)
        return text ++ unit :: tail
  | unit :: rest =>
      if unit = 0x25 then none
      else do
        let text ← decodeRun run
        let tail ← decodeUriFrom [] rest
        return text ++ unit :: tail

def decodeUriComponent (units : List ℕ) : Option (List ℕ) := decodeUriFrom [] units

end JavaScript
