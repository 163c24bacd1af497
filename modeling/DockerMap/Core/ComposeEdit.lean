import DockerMap.Core.Models
import DockerMap.Lib.TextLines
import Mathlib.Data.List.SplitOn

/-! The dry-run planner of Compose mount edits. It edits the text of the file, one line at a
time, and shows the outcome as a diff. -/

namespace DockerMap

structure ComposeEditPlan where
  file : String
  service : String
  mountId : String
  originalSource : Option String
  originalTarget : String
  newSource : Option String
  newTarget : Option String
  unifiedDiff : String
  diagnostics : List ComposeDiagnostic
  willWrite : Bool
  deriving DecidableEq

def ComposeEditPlan.lines (plan : ComposeEditPlan) : List (List Char) :=
  Text.lines plan.unifiedDiff.toList

def isWindowsAbsolutePath : List Char → Bool
  | drive :: ':' :: slash :: _ => drive.isAlpha && (slash == '\\' || slash == '/')
  | _ => false

def looksLikeContainerPath (value : List Char) : Bool :=
  value.head? == some '/' || isWindowsAbsolutePath value

def hasParentTraversal (path : List Char) : Bool :=
  (path.splitOnP (· == '/')).contains ['.', '.']

/-- One line of the diff for each line the two texts share, two where they differ. -/
def diffLines : List (List Char) → List (List Char) → List (List Char)
  | [], [] => []
  | left :: lefts, [] => ('-' :: left) :: diffLines lefts []
  | [], right :: rights => ('+' :: right) :: diffLines [] rights
  | left :: lefts, right :: rights =>
      if left = right then (' ' :: left) :: diffLines lefts rights
      else ('-' :: left) :: ('+' :: right) :: diffLines lefts rights

def unifiedDiff (file : String) (original planned : List Char) : String :=
  "--- " ++ file ++ "\n+++ " ++ file ++ " (dry-run)\n" ++
    String.ofList ((diffLines (Text.lines original) (Text.lines planned)).flatMap (· ++ ['\n']))

/-- The text with the new value on the one line that holds both the old value and the
target, or the reason why there is no such line. -/
def replaceMountLineToken (content : List Char) (mount : ComposeMount) (old new : List Char)
    (diagnostic : ComposeDiagnostic) : List Char × List ComposeDiagnostic :=
  let lines := Text.lines content
  let candidates := lines.zipIdx.filter fun (line, _) =>
    Text.contains line old && Text.contains line mount.target.toList
  match candidates with
  | [(_, candidate)] =>
      let replaced := lines.zipIdx.map fun (line, index) =>
        if index = candidate then Text.replaceFirst old new line else line
      (List.intercalate ['\n'] replaced ++ if content.getLast? = some '\n' then ['\n'] else [], [])
  | _ => (content, [diagnostic])

def hasBlocked (diagnostics : List ComposeDiagnostic) : Bool :=
  diagnostics.any fun diagnostic => diagnostic.severity == .blocked

section

variable (mount : ComposeMount)

def editNoop : ComposeDiagnostic where
  id := "edit_noop"
  severity := .error
  message := "Edit plan requires a new source, target, or both."
  origin := mount.origin

def blocked (id message : String) : ComposeDiagnostic where
  id := id
  severity := .blocked
  message := message
  origin := mount.origin

/-- What is wrong with the request, whatever the file says. -/
def requestDiagnostics (cleanSource cleanTarget : Option (List Char)) : List ComposeDiagnostic :=
  (if cleanSource.isNone && cleanTarget.isNone then [editNoop mount] else []) ++
    (if cleanSource.isSome && mount.kind ≠ .bind then
      [blocked mount "edit_source_requires_bind"
        "Only bind mount sources can be changed by this dry-run planner."]
    else []) ++
    (if cleanTarget.any fun target => target.contains '\x00' || !looksLikeContainerPath target then
      [blocked mount "edit_invalid_target"
        "New mount target must be an absolute container path."]
    else []) ++
    (if cleanSource.any fun source => source.contains '\x00' then
      [blocked mount "edit_invalid_source" "New mount source contains a NUL byte."]
    else [])

/-- The text after the edit of the source. -/
def planSource (content : List Char) : Option (List Char) → List Char × List ComposeDiagnostic
  | none => (content, [])
  | some source =>
      let traversal :=
        if hasParentTraversal source then
          [blocked mount "edit_source_parent_traversal"
            "New mount source must not contain parent traversal."]
        else []
      match mount.source with
      | some original =>
          let (planned, diagnostics) := replaceMountLineToken content mount original.toList source
            (blocked mount "edit_original_source_not_found"
              "Original mount source could not be uniquely found on the mount declaration line.")
          (planned, traversal ++ diagnostics)
      | none =>
          (content, traversal ++
            [blocked mount "edit_missing_original_source"
              "Mount has no original source to replace."])

def planTarget (content : List Char) : Option (List Char) → List Char × List ComposeDiagnostic
  | none => (content, [])
  | some target => replaceMountLineToken content mount mount.target.toList target
      (blocked mount "edit_original_target_not_found"
        "Original mount target could not be uniquely found on the mount declaration line.")

def editPlan (file : String) (newSource newTarget : Option (List Char)) (unifiedDiff : String)
    (diagnostics : List ComposeDiagnostic) : ComposeEditPlan where
  file := file
  service := mount.service
  mountId := mount.id
  originalSource := mount.source
  originalTarget := mount.target
  newSource := newSource.map String.ofList
  newTarget := newTarget.map String.ofList
  unifiedDiff := unifiedDiff
  diagnostics := diagnostics
  willWrite := false

/-- `str::trim`, with a blank value as no value. -/
def cleanValue (value : Option String) : Option (List Char) :=
  (value.map fun value => Text.trim value.toList).filter fun value => value ≠ []

/-- The text the planner would have written. -/
def plannedContent (content : List Char) (cleanSource cleanTarget : Option (List Char)) :
    List Char × List ComposeDiagnostic :=
  let (afterSource, sourceDiagnostics) := planSource mount content cleanSource
  let (planned, targetDiagnostics) := planTarget mount afterSource cleanTarget
  (planned, sourceDiagnostics ++ targetDiagnostics)

def planComposeMountEdit (file content : String) (newSource newTarget : Option String) :
    ComposeEditPlan :=
  let cleanSource := cleanValue newSource
  let cleanTarget := cleanValue newTarget
  let diagnostics := requestDiagnostics mount cleanSource cleanTarget
  if hasBlocked diagnostics then editPlan mount file cleanSource cleanTarget "" diagnostics
  else
    let (planned, editDiagnostics) := plannedContent mount content.toList cleanSource cleanTarget
    let diagnostics := diagnostics ++ editDiagnostics
    let diff :=
      if hasBlocked diagnostics || planned == content.toList then ""
      else unifiedDiff file content.toList planned
    editPlan mount file cleanSource cleanTarget diff diagnostics

end

end DockerMap
