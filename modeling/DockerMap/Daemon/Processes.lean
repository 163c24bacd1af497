import DockerMap.Lib.TextLines
import DockerMap.Lib.Words

/-! The host's process table, read from one `ps` run. -/

namespace DockerMap

open Text

structure ProcessRecord where
  pid : ℕ
  user : List Char
  /-- The kernel's name of the command. -/
  comm : List Char
  args : List Char
  deriving DecidableEq

def maxPid : ℕ := 2 ^ 32

def parsePsLine (line : List Char) : Option ProcessRecord :=
  match splitWhitespace (trim line) with
  | pid :: user :: comm :: _ :: _ =>
      (parseUnsigned maxPid pid).bind fun number =>
        -- a token that is not found leaves nothing of the line
        let args := trim ((afterTokens [pid, user, comm] (trim line)).getD [])
        if args = [] then none else some ⟨number, user, comm, args⟩
  | _ => none

def parsePsTable (value : List Char) : List ProcessRecord := (lines value).filterMap parsePsLine

end DockerMap
