import DockerMap.Daemon.Processes

/-! The lines `ps` prints, read back. -/

namespace DockerMap

open Text

/-- The widths of the padded columns. `user:32` fixes one, `ps` chooses the others. -/
structure PsWidths where
  pid : ℕ
  comm : ℕ

def psUserWidth : ℕ := 32

/-- A line of `pid=,user:32=,comm=,args=`: numbers are set right and names left. -/
def psLine (widths : PsWidths) (process : ProcessRecord) : List Char :=
  List.leftpad widths.pid ' ' (Nat.toDigits 10 process.pid) ++
    ' ' :: (List.rightpad psUserWidth ' ' process.user ++
    ' ' :: (List.rightpad widths.comm ' ' process.comm ++ ' ' :: process.args))

def psOutput (widths : PsWidths) (processes : List ProcessRecord) : List Char :=
  processes.flatMap fun process => psLine widths process ++ ['\n']

/-- What the kernel and `ps` promise of a process. -/
structure ProcessRecord.IsPrintable (process : ProcessRecord) : Prop where
  pid : process.pid < maxPid
  user : ∀ c ∈ process.user, isWhitespace c = false
  comm : process.comm ≠ [] ∧ '\n' ∉ process.comm
  args : process.args ≠ [] ∧ '\n' ∉ process.args

/-- The columns can be told apart. -/
structure ProcessRecord.IsPlain (process : ProcessRecord) : Prop where
  user : process.user ≠ []
  comm : ∀ c ∈ process.comm, isWhitespace c = false
  args : trim process.args = process.args

variable {line : List Char} {process : ProcessRecord}

theorem parsePsLine_plain (h : parsePsLine line = some process) : process.IsPlain := by
  rw [parsePsLine] at h
  split at h
  · rename_i pid user comm field fields hfields
    obtain ⟨number, -, h⟩ := Option.bind_eq_some_iff.1 h
    dsimp only at h
    split_ifs at h
    cases h
    have hword : ∀ field ∈ splitWhitespace (trim line), IsWord field :=
      fun field hfield => isWord_of_mem hfield
    rw [hfields] at hword
    exact ⟨(hword user (by simp)).1, (hword comm (by simp)).2,
      (trimmed_trim _).trim⟩
  · cases h

theorem parsePsLine_congr {a b : List Char} (h : trim a = trim b) :
    parsePsLine a = parsePsLine b := by
  rw [parsePsLine, parsePsLine, h]

theorem isWord_toDigits (n : ℕ) : IsWord (Nat.toDigits 10 n) := by
  refine ⟨Nat.toDigits_ne_nil, fun c hc => ?_⟩
  obtain ⟨d, hd, rfl⟩ := exists_digit (Nat.isDigit_of_mem_toDigits (by decide) (by decide) hc)
  exact (by decide : ∀ d < 10, isWhitespace (Nat.digitChar d) = false) d hd

theorem blank_replicate (n : ℕ) : Blank (List.replicate n ' ') := fun c hc => by
  rw [List.eq_of_mem_replicate hc]
  rfl

/-- Four columns with blanks between them are read back. -/
theorem parsePsLine_columns {b₁ b₂ b₃ b₄ : List Char} (hb₁ : Blank b₁)
    (hb₂ : Blank (' ' :: b₂)) (hb₃ : Blank (' ' :: b₃)) (hb₄ : Blank (' ' :: b₄))
    (hpid : process.pid < maxPid) (huser : IsWord process.user) (hcomm : IsWord process.comm)
    (hargs : Trimmed process.args) (hne : process.args ≠ []) :
    parsePsLine (b₁ ++ (Nat.toDigits 10 process.pid ++ (' ' :: b₂ ++ (process.user ++
      (' ' :: b₃ ++ (process.comm ++ (' ' :: b₄ ++ process.args))))))) = some process := by
  have hword := isWord_toDigits process.pid
  generalize hline : Nat.toDigits 10 process.pid ++ (' ' :: b₂ ++ (process.user ++
      (' ' :: b₃ ++ (process.comm ++ (' ' :: b₄ ++ process.args))))) = line
  have hstart : ∀ b rest : List Char, StartsBlank (' ' :: b ++ rest) := by
    intro b rest c hc
    cases hc
    rfl
  have hwords : splitWhitespace line = Nat.toDigits 10 process.pid :: process.user ::
      process.comm :: splitWhitespace process.args := by
    rw [← hline, splitWhitespace_word_append hword (hstart _ _), splitWhitespace_blank_append hb₂,
      splitWhitespace_word_append huser (hstart _ _), splitWhitespace_blank_append hb₃,
      splitWhitespace_word_append hcomm (hstart _ _), splitWhitespace_blank_append hb₄]
  have htokens : afterTokens [Nat.toDigits 10 process.pid, process.user, process.comm] line =
      some (' ' :: b₄ ++ process.args) := by
    have hfirst := afterFirst_word (b := []) (fun c hc => absurd hc List.not_mem_nil) hword
      (' ' :: b₂ ++ (process.user ++ (' ' :: b₃ ++ (process.comm ++ (' ' :: b₄ ++ process.args)))))
    rw [List.nil_append] at hfirst
    rw [← hline]
    simp only [afterTokens, List.foldlM_cons, List.foldlM_nil, hfirst, Option.bind_eq_bind,
      Option.bind_some, afterFirst_word hb₂ huser, afterFirst_word hb₃ hcomm]
    rfl
  have htrim : trim (b₁ ++ line) = line := by
    have htrimmed : Trimmed line := by
      constructor
      · intro c hc
        rw [← hline, List.head?_append_of_ne_nil _ hword.1] at hc
        exact hword.2 c (List.mem_of_mem_head? hc)
      · intro c hc
        refine hargs.2 c ?_
        have hsuffix : process.args <:+ line := by
          rw [← hline]
          iterate 6 refine List.suffix_append_of_suffix ?_
          exact List.suffix_refl _
        obtain ⟨front, hfront⟩ := hsuffix
        rwa [← hfront, List.getLast?_append_of_ne_nil _ hne] at hc
    have h := trim_append_append hb₁ htrimmed fun c hc => absurd hc List.not_mem_nil
    rwa [List.append_nil] at h
  have hrest : splitWhitespace process.args ≠ [] := fun hnil =>
    hne (hargs.trim.symm.trans (trim_eq_nil.2 (splitWhitespace_eq_nil.1 hnil)))
  have hargs' : trim (' ' :: b₄ ++ process.args) = process.args := by
    have h := trim_append_append hb₄ hargs fun c hc => absurd hc List.not_mem_nil
    rwa [List.append_nil] at h
  rw [parsePsLine, htrim, hwords]
  obtain ⟨field, fields, hfields⟩ := List.exists_cons_of_ne_nil hrest
  rw [hfields]
  dsimp only
  rw [parseUnsigned_toDigits hpid, htokens, Option.bind_some, Option.getD_some, hargs', if_neg hne]

theorem parsePsLine_psLine (widths : PsWidths) (h : process.IsPrintable) (hplain : process.IsPlain) :
    parsePsLine (psLine widths process) = some process := by
  have hspaces : ∀ n, Blank (List.replicate n ' ' ++ [' ']) := fun n => by
    rw [← List.replicate_succ']
    exact blank_replicate (n + 1)
  have hshift : ∀ n (rest : List Char), List.replicate n ' ' ++ ' ' :: rest =
      ' ' :: List.replicate n ' ' ++ rest := by
    intro n rest
    rw [← List.replicate_succ, List.replicate_succ', List.append_assoc]
    rfl
  have hcolumns := parsePsLine_columns
    (blank_replicate (widths.pid - (Nat.toDigits 10 process.pid).length))
    (blank_replicate (0 + 1)) (blank_replicate (psUserWidth - process.user.length + 1))
    (blank_replicate (widths.comm - process.comm.length + 1)) h.pid ⟨hplain.user, h.user⟩
    ⟨h.comm.1, hplain.comm⟩ (trimmed_iff.2 hplain.args) h.args.1
  rw [← hcolumns, psLine, List.leftpad, List.rightpad, List.rightpad]
  simp only [List.append_assoc, hshift]
  rfl

theorem feed_not_mem_psLine (widths : PsWidths) (h : process.IsPrintable) :
    '\n' ∉ psLine widths process := by
  have hpid : '\n' ∉ Nat.toDigits 10 process.pid := not_mem_toDigits (by decide) _
  have huser : '\n' ∉ process.user := fun hmem => by
    have hfeed := h.user '\n' hmem
    cases hfeed
  simp [psLine, List.leftpad, List.rightpad, hpid, huser, h.comm.2, h.args.2]

theorem trim_dropReturn (line : List Char) : trim (dropReturn line) = trim line := by
  rw [dropReturn]
  split_ifs with hlast
  · obtain ⟨front, rfl⟩ := List.getLast?_eq_some_iff.1 hlast
    rw [List.dropLast_concat]
    exact (trim_append_blank front (by decide)).symm
  · rfl

/-- Each line is read on its own. -/
theorem parsePsTable_psOutput (widths : PsWidths) {processes : List ProcessRecord}
    (h : ∀ process ∈ processes, process.IsPrintable) :
    parsePsTable (psOutput widths processes) =
      processes.filterMap fun process => parsePsLine (psLine widths process) := by
  induction processes with
  | nil => rfl
  | cons process processes ih =>
    rw [List.forall_mem_cons] at h
    have hlines : lines (psOutput widths (process :: processes)) =
        dropReturn (psLine widths process) :: lines (psOutput widths processes) := by
      rw [psOutput, List.flatMap_cons, List.append_assoc]
      exact lines_append_feed (feed_not_mem_psLine widths h.1) _
    rw [parsePsTable, hlines, List.filterMap_cons, List.filterMap_cons,
      parsePsLine_congr (trim_dropReturn _), ← ih h.2]
    rfl

theorem filterMap_eq_self_iff {α : Type} {f : α → Option α} {l : List α} :
    l.filterMap f = l ↔ ∀ a ∈ l, f a = some a := by
  induction l with
  | nil => simp
  | cons a l ih =>
    rw [List.forall_mem_cons, List.filterMap_cons]
    cases hf : f a with
    | none =>
      have hlength := List.length_filterMap_le f l
      refine iff_of_false (fun h => ?_) (fun h => by cases h.1)
      dsimp only at h
      rw [h, List.length_cons] at hlength
      omega
    | some b => simp [ih]

/-- The table is read back exactly when no name has whitespace in it and the arguments have
none at their ends. -/
theorem parsePsTable_psOutput_iff (widths : PsWidths) (processes : List ProcessRecord)
    (h : ∀ process ∈ processes, process.IsPrintable) :
    parsePsTable (psOutput widths processes) = processes ↔
      ∀ process ∈ processes, process.IsPlain := by
  rw [parsePsTable_psOutput widths h, filterMap_eq_self_iff]
  constructor
  · intro hread process hmem
    exact parsePsLine_plain (hread process hmem)
  · intro hplain process hmem
    exact parsePsLine_psLine widths (h process hmem) (hplain process hmem)

def tmuxServer : ProcessRecord :=
  ⟨7, "root".toList, "tmux: server".toList, "tmux new -d".toList⟩

theorem tmuxServer_isPrintable : tmuxServer.IsPrintable where
  pid := by decide
  user := by decide
  comm := by decide
  args := by decide

/-- The second half of a name moves to the arguments. -/
theorem server_moves_to_args :
    parsePsTable (psOutput ⟨7, 15⟩ [tmuxServer]) =
        [⟨7, "root".toList, "tmux:".toList, "server    tmux new -d".toList⟩] ∧
      parsePsTable (psOutput ⟨7, 15⟩ [tmuxServer]) ≠ [tmuxServer] := by
  decide +kernel

/-- A table read back, and one that is not. -/
theorem parsePsTable_psOutput_iff_applied :
    parsePsTable (psOutput ⟨7, 15⟩ [⟨1, "root".toList, "init".toList, "/sbin/init  -x".toList⟩]) =
        [⟨1, "root".toList, "init".toList, "/sbin/init  -x".toList⟩] ∧
      parsePsTable (psOutput ⟨7, 15⟩ [tmuxServer]) ≠ [tmuxServer] := by
  constructor
  · refine (parsePsTable_psOutput_iff ⟨7, 15⟩ _ ?_).2 ?_
    · intro process hprocess
      cases List.mem_singleton.1 hprocess
      exact ⟨by decide, by decide, by decide, by decide⟩
    · intro process hprocess
      cases List.mem_singleton.1 hprocess
      exact ⟨by decide, by decide, by decide⟩
  · intro hread
    have hplain := (parsePsTable_psOutput_iff ⟨7, 15⟩ [tmuxServer] fun process hprocess => by
      cases List.mem_singleton.1 hprocess
      exact tmuxServer_isPrintable).1 hread tmuxServer List.mem_cons_self
    exact absurd (hplain.comm ' ' (by decide)) (by decide)

end DockerMap
