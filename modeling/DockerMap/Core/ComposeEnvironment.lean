import DockerMap.Core.Models
import DockerMap.Lib.Text

/-! The environment of a Compose service, as the YAML document declares it: a mapping, or
a sequence of assignments. -/

namespace DockerMap

/-- A YAML value; a number is kept as the text it is displayed as. -/
inductive YamlValue
  | null
  | bool (value : Bool)
  | number (text : String)
  | string (value : String)
  | sequence (items : List YamlValue)
  | mapping (entries : List (YamlValue × YamlValue))
  | tagged (tag : String) (value : YamlValue)

/-- `as_str` looks through tags. -/
def YamlValue.asStr : YamlValue → Option String
  | .string value => some value
  | .tagged _ value => value.asStr
  | _ => none

def scalarToString : YamlValue → Option String
  | .string value => some value
  | .bool value => some (if value then "true" else "false")
  | .number text => some text
  | .null => some ""
  | _ => none

/-- `split_once('=')`, with an empty value when there is no equals sign. -/
def splitAssignment (entry : String) : String × String :=
  match Text.splitOnce '=' entry.toList with
  | some (key, value) => (String.ofList key, String.ofList value)
  | none => (entry, "")

def parseEnvironment : Option YamlValue → SortedMap String String
  | some (.mapping entries) =>
      .ofEntries (entries.filterMap fun (key, value) => do
        some (← key.asStr, ← scalarToString value))
  | some (.sequence items) =>
      .ofEntries (items.filterMap fun item => item.asStr.map splitAssignment)
  | _ => ∅

def assignmentText (key value : String) : String := key ++ "=" ++ value

end DockerMap
