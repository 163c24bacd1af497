import DockerMap.Lib.TextLines
import DockerMap.Lib.Words

/-! The commands of a crontab. -/

namespace DockerMap

open Text

def isCronComment (trimmed : List Char) : Bool := trimmed.head? = some '#'

def isCronToken (trimmed : List Char) : Bool := trimmed.head? = some '@'

/-- The command of a crontab line. A user crontab has no user column. -/
def cronCommand (line : List Char) (userCrontab : Bool) : Option (List Char) :=
  let trimmed := trim line
  let fields := splitWhitespace trimmed
  if trimmed = [] ∨ isCronComment trimmed then none
  else if isCronToken trimmed then
    let commandStart := if userCrontab then 1 else 2
    if fields.length ≤ commandStart then none
    else (afterTokens (fields.take commandStart) trimmed).bind fun rest =>
      if trim rest = [] then none else some (trim rest)
  else
    let commandStart := if userCrontab then 5 else 6
    if fields.length ≤ commandStart then none
    else some (joinWords (fields.drop commandStart))

/-- The jobs of a crontab: where each was read and its command. -/
def cronJobs (source : String) (userCrontab : Bool) (content : List Char) :
    List (String × ℕ × List Char) :=
  (lines content).zipIdx.filterMap fun line =>
    (cronCommand line.1 userCrontab).map fun command => (source, line.2 + 1, command)

end DockerMap
