import DockerMap.Daemon.ComposePublication

/-! What publication does to the diff of an edit plan. The redaction keeps the lines apart,
and the normalizer after it takes the line feeds for unsafe characters. -/

namespace DockerMap

open Text (lines)

/-- A line with its marker, its text whole or gone. -/
structure KeepsLine (before after : List Char) : Prop where
  marker : diffMarker after = diffMarker before
  quiet : isSensitiveText (before.drop (diffMarker before).length) = false →
    (∀ c ∈ before, unsafeRuntimeDisplayCharacter c = false) → after = before
  sensitive : isSensitiveText (before.drop (diffMarker before).length) = true →
    after = diffMarker before ++ redactedValue.toList

/-- Every line of the diff is kept. -/
def KeepsLines (plan published : ComposeEditPlan) : Prop :=
  List.Forall₂ KeepsLine plan.lines published.lines

/-! One line -/

def diffMarkers : List Char := ['+', '-', ' ']

theorem diffMarker_of_mem {c : Char} (h : c ∈ diffMarkers) (rest : List Char) :
    diffMarker (c :: rest) = [c] := by
  simp only [diffMarkers, List.mem_cons, List.not_mem_nil, or_false] at h
  rcases h with rfl | rfl | rfl <;> rfl

theorem diffMarker_of_not_mem {c : Char} (h : c ∉ diffMarkers) (rest : List Char) :
    diffMarker (c :: rest) = [] := by
  simp only [diffMarkers, List.mem_cons, List.not_mem_nil, or_false, not_or] at h
  simp [diffMarker, h]

theorem normalizeCharacter_mem {c : Char} : normalizeCharacter c ∈ diffMarkers ↔ c ∈ diffMarkers := by
  have hfixed : ∀ d ∈ diffMarkers, normalizeCharacter d = d := by decide
  constructor
  · intro h
    rw [normalizeCharacter] at h
    split_ifs at h
    · exact absurd h (by decide)
    · exact h
  · intro h
    rw [hfixed c h]
    exact h

/-- Normalizing a line neither takes its marker nor gives it one. -/
theorem diffMarker_normalize (line : List Char) :
    diffMarker (line.map normalizeCharacter) = diffMarker line := by
  have hfixed : ∀ d ∈ diffMarkers, normalizeCharacter d = d := by decide
  cases line with
  | nil => rfl
  | cons c rest =>
    by_cases hc : c ∈ diffMarkers
    · rw [List.map_cons, hfixed c hc, diffMarker_of_mem hc, diffMarker_of_mem hc]
    · rw [List.map_cons, diffMarker_of_not_mem hc,
        diffMarker_of_not_mem fun hmem => hc (normalizeCharacter_mem.1 hmem)]

theorem diffMarker_append_redacted (line : List Char) :
    diffMarker (diffMarker line ++ redactedValue.toList) = diffMarker line := by
  cases line with
  | nil => rfl
  | cons c rest =>
    by_cases hc : c ∈ diffMarkers
    · rw [diffMarker_of_mem hc]
      exact diffMarker_of_mem hc redactedValue.toList
    · rw [diffMarker_of_not_mem hc]
      rfl

theorem normalize_append_redacted (line : List Char) :
    (diffMarker line ++ redactedValue.toList).map normalizeCharacter =
      diffMarker line ++ redactedValue.toList := by
  have hfixed : ∀ d ∈ diffMarkers, normalizeCharacter d = d := by decide
  have hredacted : redactedValue.toList.map normalizeCharacter = redactedValue.toList := by decide
  rw [List.map_append, hredacted]
  cases line with
  | nil => rfl
  | cons c rest =>
    by_cases hc : c ∈ diffMarkers
    · rw [diffMarker_of_mem hc, List.map_cons, hfixed c hc, List.map_nil]
    · rw [diffMarker_of_not_mem hc, List.map_nil]

theorem normalize_quiet {line : List Char}
    (h : ∀ c ∈ line, unsafeRuntimeDisplayCharacter c = false) :
    line.map normalizeCharacter = line := by
  refine (List.map_congr_left fun c hc => ?_).trans (List.map_id line)
  rw [normalizeCharacter, h c hc]
  rfl

/-- Redacting and normalizing one line keeps it. -/
theorem keepsLine_redact (line : List Char) :
    KeepsLine line ((redactDiffLine line).map normalizeCharacter) := by
  rw [redactDiffLine]
  split_ifs with hsensitive
  · rw [normalize_append_redacted]
    refine ⟨diffMarker_append_redacted line, fun hquiet => ?_, fun _ => rfl⟩
    rw [hsensitive] at hquiet
    cases hquiet
  · refine ⟨diffMarker_normalize line, fun _ hsafe => normalize_quiet hsafe, fun h => ?_⟩
    exact absurd h hsensitive

/-! The whole diff -/

theorem newline_not_mem_normalize (l : List Char) : '\n' ∉ l.map normalizeCharacter := by
  intro h
  obtain ⟨c, -, hc⟩ := List.mem_map.1 h
  rw [normalizeCharacter] at hc
  split_ifs at hc with hsafe
  · exact absurd hc (by decide)
  · rw [hc] at hsafe
    exact hsafe (by decide)

theorem publishedDiff_toList (plan : ComposeEditPlan) :
    (redactComposeEditPlan plan).unifiedDiff.toList =
      (List.intercalate ['\n'] (plan.lines.map redactDiffLine)).map normalizeCharacter := by
  rw [redactComposeEditPlan, normalizeRuntimeDisplayString, redactUnifiedDiff, String.toList_ofList,
    String.toList_ofList]
  rfl

theorem redactDiffLine_ne_nil {line : List Char} (h : line ≠ []) : redactDiffLine line ≠ [] := by
  rw [redactDiffLine]
  split_ifs
  · exact List.append_ne_nil_of_right_ne_nil _ (by decide)
  · exact h

/-- What is left of the lines of a diff is one line at most. -/
theorem length_publishedLines (plan : ComposeEditPlan) :
    (redactComposeEditPlan plan).lines.length ≤ 1 := by
  rw [ComposeEditPlan.lines, publishedDiff_toList]
  exact Text.length_lines_le (newline_not_mem_normalize _)

theorem not_keepsLines_of_two {plan : ComposeEditPlan} (h : 2 ≤ plan.lines.length) :
    ¬ KeepsLines plan (redactComposeEditPlan plan) := by
  intro hkeeps
  have hlength := hkeeps.length_eq
  have hone := length_publishedLines plan
  omega

theorem publishedLines_singleton {plan : ComposeEditPlan} {line : List Char} (hne : line ≠ [])
    (h : plan.lines = [line]) :
    (redactComposeEditPlan plan).lines = [(redactDiffLine line).map normalizeCharacter] := by
  have htext : List.intercalate ['\n'] ([line].map redactDiffLine) = redactDiffLine line := by
    simp
  rw [ComposeEditPlan.lines, publishedDiff_toList, h, htext]
  refine Text.lines_of_not_mem (newline_not_mem_normalize _) ?_
  rw [ne_eq, List.map_eq_nil_iff]
  exact redactDiffLine_ne_nil hne

theorem publishedLines_empty {plan : ComposeEditPlan} (h : plan.lines = [[]]) :
    (redactComposeEditPlan plan).lines = [] := by
  rw [ComposeEditPlan.lines, publishedDiff_toList, h]
  decide

/-- The published diff keeps its lines exactly when there is one line to keep. -/
theorem keepsLines_iff {plan : ComposeEditPlan} (h : plan.unifiedDiff ≠ "") :
    KeepsLines plan (redactComposeEditPlan plan) ↔ ∃ line, line ≠ [] ∧ plan.lines = [line] := by
  constructor
  · intro hkeeps
    have hlength := hkeeps.length_eq
    rcases hlines : plan.lines with _ | ⟨line, _ | ⟨second, rest⟩⟩
    · have hnil := Text.lines_eq_nil.1 hlines
      exact absurd (String.toList_eq_nil_iff.1 hnil) h
    · refine ⟨line, fun hempty => ?_, rfl⟩
      rw [hempty] at hlines
      rw [hlines, publishedLines_empty hlines] at hlength
      cases hlength
    · refine absurd hkeeps (not_keepsLines_of_two ?_)
      rw [hlines, List.length_cons, List.length_cons]
      omega
  · rintro ⟨line, hne, hlines⟩
    rw [KeepsLines, hlines, publishedLines_singleton hne hlines]
    exact .cons (keepsLine_redact line) .nil

/-- A diff of one line, which a caller of the publication could pass. -/
def sampleEditPlan (unifiedDiff : String) : ComposeEditPlan where
  file := "compose.yaml"
  service := "app"
  mountId := "compose.yaml:app:0"
  originalSource := some "./data"
  originalTarget := "/data"
  newSource := some "./other"
  newTarget := none
  unifiedDiff := unifiedDiff
  diagnostics := []
  willWrite := false

theorem keepsLines_iff_single :
    KeepsLines (sampleEditPlan "+      - ./other:/data")
        (redactComposeEditPlan (sampleEditPlan "+      - ./other:/data")) ↔
      ∃ line, line ≠ [] ∧ (sampleEditPlan "+      - ./other:/data").lines = [line] :=
  keepsLines_iff (by decide)

/-- The planner's diffs have a header of two lines. -/
theorem two_le_length_unifiedDiff (file : String) (original planned : List Char) :
    2 ≤ (Text.lines (unifiedDiff file original planned).toList).length := by
  obtain ⟨rest, hrest, hne⟩ : ∃ rest, (unifiedDiff file original planned).toList =
      ("--- " ++ file).toList ++ '\n' :: rest ∧ rest ≠ [] := by
    refine ⟨"+++ ".toList ++ (file.toList ++ (" (dry-run)\n".toList ++
      (diffLines (Text.lines original) (Text.lines planned)).flatMap (· ++ ['\n']))), ?_,
      List.append_ne_nil_of_left_ne_nil (by decide) _⟩
    simp [unifiedDiff]
  rw [hrest]
  exact Text.two_le_length_lines _ hne

theorem unifiedDiff_of_planned {mount : ComposeMount} {file content : String}
    {newSource newTarget : Option String}
    (h : (planComposeMountEdit mount file content newSource newTarget).unifiedDiff ≠ "") :
    ∃ planned, (planComposeMountEdit mount file content newSource newTarget).unifiedDiff =
      unifiedDiff file content.toList planned := by
  rw [planComposeMountEdit] at h ⊢
  dsimp only at h ⊢
  split_ifs at h ⊢
  · exact absurd rfl h
  · exact absurd rfl h
  · exact ⟨_, rfl⟩

/-- No diff of the planner keeps its lines. -/
theorem not_keepsLines_planned {mount : ComposeMount} {file content : String}
    {newSource newTarget : Option String}
    (h : (planComposeMountEdit mount file content newSource newTarget).unifiedDiff ≠ "") :
    ¬ KeepsLines (planComposeMountEdit mount file content newSource newTarget)
      (redactComposeEditPlan (planComposeMountEdit mount file content newSource newTarget)) := by
  obtain ⟨planned, hdiff⟩ := unifiedDiff_of_planned h
  refine not_keepsLines_of_two ?_
  rw [ComposeEditPlan.lines, hdiff]
  exact two_le_length_unifiedDiff file content.toList planned

/-- The line feed between two lines goes the way of the control characters. -/
theorem edit_diff_flattened : ¬ ∀ plan : ComposeEditPlan, plan.unifiedDiff ≠ "" →
    KeepsLines plan (redactComposeEditPlan plan) := by
  intro h
  exact not_keepsLines_of_two (by decide)
    (h (sampleEditPlan "-      - ./data:/data\n+      - ./other:/data\n") (by decide))

end DockerMap
