import DockerMap.Daemon.LogCollector

/-! The window of a log as timestamped lines, and the ordinals the collector gives
them: `collectedLines_eq` says the collecting loop numbers the lines of one
millisecond, and the lemmas after it how a number depends on the lines before. -/

namespace DockerMap

/-- A line of the log that carries a timestamp and a message. -/
structure TimedLine where
  position : ℕ
  timestamp : U64
  message : String

def timedLine (line : LogLine) : Option TimedLine :=
  (parseTimestampedLogLine line.text).map fun (timestamp, message) =>
    ⟨line.position, timestamp, message⟩

/-- The timestamped lines of the window a request opens. -/
def windowLines (log : List String) : List TimedLine :=
  ((logLines log).drop (windowStart log)).filterMap timedLine

/-- The ordinals of `collectEntries`, without its cap. -/
def numberLines (service : String) : (U64 → ℕ) → List TimedLine → List CollectedLine
  | _, [] => []
  | seen, line :: lines =>
      ⟨line.position, collectedEntry service line.timestamp line.message (seen line.timestamp)⟩ ::
        numberLines service
          (Function.update seen line.timestamp (seen line.timestamp + 1)) lines

theorem collectEntries_eq (service : String) (lines : List LogLine) (seen : U64 → ℕ)
    (collected : ℕ) (h : collected + lines.length < maxLogStreamCap) :
    collectEntries service seen collected lines =
      numberLines service seen (lines.filterMap timedLine) := by
  induction lines generalizing seen collected with
  | nil => rfl
  | cons line lines ih =>
    rw [List.length_cons] at h
    rw [collectEntries, List.filterMap_cons]
    cases hparse : parseTimestampedLogLine line.text with
    | none =>
      simp only [timedLine, hparse, Option.map_none]
      exact ih seen collected (by omega)
    | some parsed =>
      obtain ⟨timestamp, message⟩ := parsed
      simp only [timedLine, hparse, Option.map_some, numberLines]
      rw [if_neg (by omega), ih _ _ (by omega)]

theorem length_logLines (log : List String) : (logLines log).length = log.length := by
  simp [logLines]

def beforeSeconds (untilSeconds : Option ℕ) (timestamp : U64) : Bool :=
  match untilSeconds with
  | some bound => timestamp.val / 1000 < bound
  | none => true

theorem filterMap_beforeUntil (untilSeconds : Option ℕ) (lines : List LogLine) :
    (lines.filter (beforeUntil untilSeconds)).filterMap timedLine =
      (lines.filterMap timedLine).filter fun line => beforeSeconds untilSeconds line.timestamp := by
  induction lines with
  | nil => rfl
  | cons line lines ih =>
    rw [List.filter_cons, List.filterMap_cons]
    cases hparse : parseTimestampedLogLine line.text with
    | none =>
      have hb : beforeUntil untilSeconds line = true := by
        cases untilSeconds <;> simp [beforeUntil, hparse]
      simp [hb, timedLine, hparse, ih]
    | some parsed =>
      obtain ⟨timestamp, message⟩ := parsed
      have hb : beforeUntil untilSeconds line = beforeSeconds untilSeconds timestamp := by
        cases untilSeconds <;> simp [beforeUntil, beforeSeconds, hparse]
      rw [hb]
      simp only [timedLine, hparse, Option.map_some, List.filter_cons]
      cases beforeSeconds untilSeconds timestamp
      · simpa using ih
      · simp [timedLine, hparse, ih]

def untilOf (cursor : Option LogCursor) : Option ℕ :=
  cursor.map fun cursor => logUntilSeconds cursor.millis

theorem collectedLines_eq (service : String) (cursor : Option LogCursor) (log : List String) :
    collectedLines service cursor log = numberLines service (fun _ => 0)
      ((windowLines log).filter fun line => beforeSeconds (untilOf cursor) line.timestamp) := by
  have hlen : ((logLines log).drop (windowStart log)).length ≤ maxLogCursorTail := by
    rw [List.length_drop, length_logLines, windowStart, logTailCount]
    omega
  have hcap : maxLogCursorTail < maxLogStreamCap := by decide
  rw [collectedLines, dockerLogs, collectEntries_eq, filterMap_beforeUntil]
  · rfl
  · exact Nat.zero_add _ ▸ ((List.length_filter_le _ _).trans hlen).trans_lt hcap

/-! Ordinals -/

def countAt (lines : List TimedLine) (timestamp : U64) : ℕ :=
  lines.countP fun line => line.timestamp = timestamp

theorem numberLines_congr {service : String} {seen seen' : U64 → ℕ} {lines : List TimedLine}
    (h : ∀ line ∈ lines, seen line.timestamp = seen' line.timestamp) :
    numberLines service seen lines = numberLines service seen' lines := by
  induction lines generalizing seen seen' with
  | nil => rfl
  | cons line lines ih =>
    rw [numberLines, numberLines, h line List.mem_cons_self]
    refine congrArg _ (ih fun other hother => ?_)
    simp only [Function.update_apply]
    rw [h other (List.mem_cons_of_mem _ hother)]

theorem numberLines_append (service : String) (seen : U64 → ℕ) (gone rest : List TimedLine) :
    numberLines service seen (gone ++ rest) = numberLines service seen gone ++
      numberLines service (fun timestamp => seen timestamp + countAt gone timestamp) rest := by
  induction gone generalizing seen with
  | nil => rfl
  | cons line gone ih =>
    rw [List.cons_append, numberLines, numberLines, ih, List.cons_append]
    refine congrArg _ (congrArg _ (congrArg (fun f => numberLines service f rest) ?_))
    funext timestamp
    by_cases h : timestamp = line.timestamp
    · subst h
      simp only [Function.update_self, countAt, List.countP_cons, decide_true, if_true]
      omega
    · simp [countAt, h, Ne.symm h]

theorem numberLines_filter (service : String) (keep : U64 → Bool) (seen : U64 → ℕ)
    (lines : List TimedLine) :
    numberLines service seen (lines.filter fun line => keep line.timestamp) =
      (numberLines service seen lines).filter fun line => keep line.entry.timestamp := by
  induction lines generalizing seen with
  | nil => rfl
  | cons line lines ih =>
    rw [numberLines, List.filter_cons, List.filter_cons, ← ih]
    by_cases hk : keep line.timestamp = true
    · rw [if_pos hk, if_pos (show keep (collectedEntry ..).timestamp = true from hk), numberLines]
    · rw [if_neg hk, if_neg (show ¬keep (collectedEntry ..).timestamp = true from hk)]
      -- a dropped line numbers only lines that are dropped with it
      refine numberLines_congr fun other hother => ?_
      have : other.timestamp ≠ line.timestamp := by
        rintro he
        simp [he, hk] at hother
      rw [Function.update_of_ne this]

theorem mem_numberLines (service : String) {lines : List TimedLine} {line : TimedLine}
    (h : line ∈ lines) : ∃ ordinal, ∀ seen : U64 → ℕ,
      (⟨line.position, collectedEntry service line.timestamp line.message
        (seen line.timestamp + ordinal)⟩ : CollectedLine) ∈ numberLines service seen lines := by
  induction lines with
  | nil => simp at h
  | cons head lines ih =>
    rcases List.mem_cons.1 h with rfl | h
    · exact ⟨0, fun seen => List.mem_cons_self⟩
    · obtain ⟨ordinal, hmem⟩ := ih h
      by_cases he : line.timestamp = head.timestamp
      · refine ⟨ordinal + 1, fun seen => List.mem_cons_of_mem _ ?_⟩
        rw [← he]
        have := hmem (Function.update seen line.timestamp (seen line.timestamp + 1))
        rwa [Function.update_self, Nat.add_assoc, Nat.add_comm 1] at this
      · refine ⟨ordinal, fun seen => List.mem_cons_of_mem _ ?_⟩
        have := hmem (Function.update seen head.timestamp (seen head.timestamp + 1))
        rwa [Function.update_of_ne he] at this

def CollectedLine.timed (line : CollectedLine) : TimedLine :=
  ⟨line.position, line.entry.timestamp, line.entry.message⟩

theorem map_timed_numberLines (service : String) (seen : U64 → ℕ) (lines : List TimedLine) :
    (numberLines service seen lines).map CollectedLine.timed = lines := by
  induction lines generalizing seen with
  | nil => rfl
  | cons line lines ih => rw [numberLines, List.map_cons, ih]; rfl

theorem logEntryId_injective (service : String) (timestamp : U64) :
    Function.Injective (logEntryId service timestamp) := by
  intro a b h
  have := congrArg String.toList h
  simp only [logEntryId, String.toList_append, String.toList_ofList, List.append_assoc,
    List.append_cancel_left_eq] at this
  exact Text.hexPadded_injective 4 this

/-! The window slides -/

/-- The lines of `log` that are no longer visible once the suffix is there. -/
def goneLines (log suffix : List String) : List TimedLine :=
  (((logLines log).drop (windowStart log)).take
    (windowStart (log ++ suffix) - windowStart log)).filterMap timedLine

def keptLines (log suffix : List String) : List TimedLine :=
  ((logLines log).drop (windowStart (log ++ suffix))).filterMap timedLine

def newLines (log suffix : List String) : List TimedLine :=
  (((suffix.zipIdx log.length).map fun line => (⟨line.2, line.1⟩ : LogLine)).drop
    (windowStart (log ++ suffix) - log.length)).filterMap timedLine

theorem windowStart_le (log suffix : List String) :
    windowStart log ≤ windowStart (log ++ suffix) := by
  simp only [windowStart, List.length_append]
  omega

theorem windowLines_eq (log suffix : List String) :
    windowLines log = goneLines log suffix ++ keptLines log suffix := by
  have hle := windowStart_le log suffix
  have hkept : (logLines log).drop (windowStart (log ++ suffix)) =
      ((logLines log).drop (windowStart log)).drop
        (windowStart (log ++ suffix) - windowStart log) := by
    rw [List.drop_drop, Nat.add_sub_cancel' hle]
  rw [goneLines, keptLines, windowLines, ← List.filterMap_append, hkept, List.take_append_drop]

theorem windowLines_append (log suffix : List String) :
    windowLines (log ++ suffix) = keptLines log suffix ++ newLines log suffix := by
  rw [keptLines, newLines, windowLines, ← List.filterMap_append, logLines, logLines,
    List.zipIdx_append, List.map_append, List.drop_append, List.length_map, List.length_zipIdx,
    Nat.zero_add]

theorem timedLine_position {line : LogLine} {timed : TimedLine} (h : timedLine line = some timed) :
    timed.position = line.position := by
  simp only [timedLine, Option.map_eq_some_iff] at h
  obtain ⟨parsed, -, rfl⟩ := h
  rfl

theorem sorted_logLines (log : List String) :
    (logLines log).Pairwise fun a b => a.position < b.position := by
  rw [logLines, List.pairwise_map]
  have : (log.zipIdx.map Prod.snd).Pairwise (· < ·) := by
    rw [List.zipIdx_map_snd]
    exact List.pairwise_lt_range'
  exact List.pairwise_map.1 this

theorem sorted_windowLines (log : List String) :
    (windowLines log).Pairwise fun a b => a.position < b.position := by
  refine List.Pairwise.filterMap _ (fun a a' h b hb c hc => ?_) ((sorted_logLines log).drop)
  rw [timedLine_position hb, timedLine_position hc]
  exact h

theorem mem_drop_logLines {log : List String} {n : ℕ} {line : LogLine} :
    line ∈ (logLines log).drop n ↔ n ≤ line.position ∧ log[line.position]? = some line.text := by
  rw [List.mem_drop_iff_getElem]
  constructor
  · rintro ⟨i, hi, rfl⟩
    rw [length_logLines] at hi
    simp [logLines]
  · obtain ⟨position, text⟩ := line
    rintro ⟨hn, hline⟩
    obtain ⟨hlt, htext⟩ := List.getElem?_eq_some_iff.1 hline
    dsimp only at hn hlt htext
    refine ⟨position - n, by rw [length_logLines]; omega, ?_⟩
    have hi : n + (position - n) = position := Nat.add_sub_cancel' hn
    simp only [logLines, List.getElem_map, List.getElem_zipIdx, hi, htext, Nat.zero_add]

theorem mem_timedLines {log : List String} {n : ℕ} {line : TimedLine} :
    line ∈ ((logLines log).drop n).filterMap timedLine ↔ n ≤ line.position ∧
      ∃ text, log[line.position]? = some text ∧
        parseTimestampedLogLine text = some (line.timestamp, line.message) := by
  simp only [List.mem_filterMap, mem_drop_logLines, timedLine, Option.map_eq_some_iff]
  constructor
  · rintro ⟨raw, ⟨hn, htext⟩, parsed, hparse, rfl⟩
    exact ⟨hn, raw.text, htext, hparse⟩
  · rintro ⟨hn, text, htext, hparse⟩
    exact ⟨⟨line.position, text⟩, ⟨hn, htext⟩, _, hparse, rfl⟩

theorem position_lt_of_gone {log suffix : List String} {line : TimedLine}
    (h : line ∈ goneLines log suffix) : line.position < windowStart (log ++ suffix) := by
  obtain ⟨raw, hraw, htimed⟩ := List.mem_filterMap.1 h
  obtain ⟨i, hi, rfl⟩ := List.mem_take_iff_getElem.1 hraw
  have hle := windowStart_le log suffix
  have hlt := hi.trans_le (min_le_left _ _)
  rw [timedLine_position htimed]
  simp only [List.getElem_drop, logLines, List.getElem_map, List.getElem_zipIdx, Nat.zero_add]
  omega

theorem position_lt_length {log suffix : List String} {line : TimedLine}
    (h : line ∈ goneLines log suffix) : line.position < log.length := by
  have hmem : line ∈ windowLines log := by
    rw [windowLines_eq log suffix]
    exact List.mem_append_left _ h
  obtain ⟨-, text, htext, -⟩ := mem_timedLines.1 hmem
  exact (List.getElem?_eq_some_iff.1 htext).1

theorem position_of_kept {log suffix : List String} {line : TimedLine}
    (h : line ∈ keptLines log suffix) :
    windowStart (log ++ suffix) ≤ line.position ∧ line.position < log.length := by
  obtain ⟨hle, text, htext, -⟩ := mem_timedLines.1 h
  exact ⟨hle, (List.getElem?_eq_some_iff.1 htext).1⟩

theorem le_position_of_new {log suffix : List String} {line : TimedLine}
    (h : line ∈ newLines log suffix) : log.length ≤ line.position := by
  obtain ⟨raw, hraw, htimed⟩ := List.mem_filterMap.1 h
  obtain ⟨entry, hentry, rfl⟩ := List.mem_map.1 (List.mem_of_mem_drop hraw)
  rw [timedLine_position htimed]
  exact List.le_snd_of_mem_zipIdx hentry

end DockerMap
