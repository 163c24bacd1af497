import DockerMap.Daemon.CronJobs

/-! What a crontab line says its command is, and when it is published as written. -/

namespace DockerMap

open Text

/-- The columns before the command: the schedule, and the user in a system crontab. -/
def cronColumns (trimmed : List Char) (userCrontab : Bool) : ℕ :=
  (if isCronToken trimmed then 1 else 5) + if userCrontab then 0 else 1

/-- What is written after the columns. -/
def commandText (line : List Char) (userCrontab : Bool) : List Char :=
  dropWord^[cronColumns (trim line) userCrontab] (trim line)

def HasNoCommand (line : List Char) (userCrontab : Bool) : Prop :=
  Blank line ∨ isCronComment (trim line) ∨ commandText line userCrontab = []

instance (line : List Char) (userCrontab : Bool) : Decidable (HasNoCommand line userCrontab) :=
  inferInstanceAs (Decidable (_ ∨ _ ∨ _))

def writtenCommand (line : List Char) (userCrontab : Bool) : Option (List Char) :=
  if HasNoCommand line userCrontab then none else some (commandText line userCrontab)

variable {line : List Char} {userCrontab : Bool}

theorem trimStart_trim (line : List Char) : trimStart (trim line) = trim line :=
  (trimmed_trim line).trimStart

theorem commandText_eq_nil : commandText line userCrontab = [] ↔
    (splitWhitespace (trim line)).length ≤ cronColumns (trim line) userCrontab := by
  rw [commandText, ← dropWord_iterate_eq_nil, trimStart_trim]

theorem splitWhitespace_commandText (line : List Char) (userCrontab : Bool) :
    splitWhitespace (commandText line userCrontab) =
      (splitWhitespace (trim line)).drop (cronColumns (trim line) userCrontab) := by
  rw [commandText, ← splitWhitespace_dropWord, trimStart_trim]

theorem trimmed_commandText (line : List Char) (userCrontab : Bool) :
    Trimmed (commandText line userCrontab) :=
  (trimmed_trim line).suffix (dropWord_iterate_suffix _ _)
    (head_dropWord_iterate _ (trimmed_trim line).1)

theorem not_hasNoCommand (hblank : trim line ≠ []) (hcomment : ¬ isCronComment (trim line))
    (htext : commandText line userCrontab ≠ []) : ¬ HasNoCommand line userCrontab := by
  rintro (h | h | h)
  · exact hblank (trim_eq_nil.2 h)
  · exact hcomment h
  · exact htext h

theorem writtenCommand_eq_none (h : HasNoCommand line userCrontab) :
    writtenCommand line userCrontab = none := if_pos h

theorem writtenCommand_eq_some (h : ¬ HasNoCommand line userCrontab) :
    writtenCommand line userCrontab = some (commandText line userCrontab) := if_neg h

/-- The token branch walks the line itself. -/
theorem afterTokens_eq (htoken : isCronToken (trim line)) :
    ((afterTokens ((splitWhitespace (trim line)).take (if userCrontab then 1 else 2))
      (trim line)).bind fun rest => if trim rest = [] then none else some (trim rest)) =
      if commandText line userCrontab = [] then none
      else some (commandText line userCrontab) := by
  have hcolumns : (if userCrontab then 1 else 2) = cronColumns (trim line) userCrontab := by
    cases userCrontab <;> simp [cronColumns, htoken]
  obtain ⟨rest, hrest, hsuffix, htrim⟩ :=
    afterTokens_take (cronColumns (trim line) userCrontab) (trim line)
  have htext : trim rest = commandText line userCrontab := by
    rw [trim_eq_trimStart (trimmed_trim line) hsuffix, htrim, trimStart_trim]
    rfl
  rw [hcolumns, hrest, Option.bind_some, htext]

theorem cronCommand_token (hblank : trim line ≠ []) (hcomment : ¬ isCronComment (trim line))
    (htoken : isCronToken (trim line)) :
    cronCommand line userCrontab = writtenCommand line userCrontab := by
  have hcolumns : (if userCrontab then 1 else 2) = cronColumns (trim line) userCrontab := by
    cases userCrontab <;> simp [cronColumns, htoken]
  rw [cronCommand, if_neg (not_or.2 ⟨hblank, hcomment⟩), if_pos htoken]
  dsimp only
  rw [afterTokens_eq htoken, hcolumns]
  by_cases htext : commandText line userCrontab = []
  · rw [if_pos (commandText_eq_nil.1 htext), writtenCommand_eq_none (Or.inr (Or.inr htext))]
  · rw [if_neg (mt commandText_eq_nil.2 htext), if_neg htext,
      writtenCommand_eq_some (not_hasNoCommand hblank hcomment htext)]

theorem cronCommand_fields (hblank : trim line ≠ []) (hcomment : ¬ isCronComment (trim line))
    (htoken : ¬ isCronToken (trim line)) : cronCommand line userCrontab =
      if commandText line userCrontab = [] then none
      else some (joinWords (splitWhitespace (commandText line userCrontab))) := by
  have hcolumns : (if userCrontab then 5 else 6) = cronColumns (trim line) userCrontab := by
    cases userCrontab <;> simp [cronColumns, htoken]
  rw [cronCommand, if_neg (not_or.2 ⟨hblank, hcomment⟩), if_neg htoken, hcolumns,
    splitWhitespace_commandText]
  simp only [commandText_eq_nil]

/-- A line without a command gives none, and every other line gives one. -/
theorem cronCommand_eq_none : cronCommand line userCrontab = none ↔
    HasNoCommand line userCrontab := by
  by_cases hblank : trim line = []
  · rw [cronCommand, if_pos (Or.inl hblank)]
    exact iff_of_true rfl (Or.inl (trim_eq_nil.1 hblank))
  by_cases hcomment : isCronComment (trim line)
  · rw [cronCommand, if_pos (Or.inr hcomment)]
    exact iff_of_true rfl (Or.inr (Or.inl hcomment))
  by_cases htext : commandText line userCrontab = []
  · refine iff_of_true ?_ (Or.inr (Or.inr htext))
    by_cases htoken : isCronToken (trim line)
    · rw [cronCommand_token hblank hcomment htoken, writtenCommand_eq_none (Or.inr (Or.inr htext))]
    · rw [cronCommand_fields hblank hcomment htoken, if_pos htext]
  · refine iff_of_false ?_ (not_hasNoCommand hblank hcomment htext)
    by_cases htoken : isCronToken (trim line)
    · rw [cronCommand_token hblank hcomment htoken,
        writtenCommand_eq_some (not_hasNoCommand hblank hcomment htext)]
      exact Option.some_ne_none _
    · rw [cronCommand_fields hblank hcomment htoken, if_neg htext]
      exact Option.some_ne_none _

/-- The command is published as written, except that the fields after five schedule fields
are rejoined by single spaces. -/
theorem cronCommand_eq_written_iff (line : List Char) (userCrontab : Bool) :
    (cronCommand line userCrontab = none ↔ HasNoCommand line userCrontab) ∧
      (cronCommand line userCrontab = writtenCommand line userCrontab ↔
        isCronComment (trim line) ∨ isCronToken (trim line) ∨
          SingleSpaced (commandText line userCrontab)) := by
  refine ⟨cronCommand_eq_none, ?_⟩
  by_cases hcomment : isCronComment (trim line)
  · refine iff_of_true ?_ (Or.inl hcomment)
    rw [cronCommand_eq_none.2 (Or.inr (Or.inl hcomment)),
      writtenCommand_eq_none (Or.inr (Or.inl hcomment))]
  by_cases htext : commandText line userCrontab = []
  · refine iff_of_true ?_ (Or.inr (Or.inr ?_))
    · rw [cronCommand_eq_none.2 (Or.inr (Or.inr htext)),
        writtenCommand_eq_none (Or.inr (Or.inr htext))]
    · rw [htext]
      exact ⟨fun c hc => absurd hc List.not_mem_nil, List.isChain_nil⟩
  have hblank : trim line ≠ [] := by
    intro hnil
    rw [commandText, hnil, dropWord_iterate_nil] at htext
    exact htext rfl
  by_cases htoken : isCronToken (trim line)
  · exact iff_of_true (cronCommand_token hblank hcomment htoken) (Or.inr (Or.inl htoken))
  · rw [cronCommand_fields hblank hcomment htoken, if_neg htext,
      writtenCommand_eq_some (not_hasNoCommand hblank hcomment htext), Option.some_inj,
      joinWords_eq_iff (trimmed_commandText line userCrontab)]
    exact ⟨fun h => Or.inr (Or.inr h), fun h => (h.resolve_left hcomment).resolve_left htoken⟩

/-- Two spaces inside quotes become one. -/
theorem quoted_spaces_lost :
    cronCommand "* * * * * root echo 'a  b'".toList false = some "echo 'a b'".toList ∧
      writtenCommand "* * * * * root echo 'a  b'".toList false = some "echo 'a  b'".toList := by
  decide +kernel

end DockerMap
