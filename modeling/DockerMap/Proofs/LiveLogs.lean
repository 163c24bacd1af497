import DockerMap.Daemon.LogWindow

/-! Live log pages while the log grows. A request sees the last lines of the log; when
lines are appended the window slides and the oldest lines leave it. Ids and cursors
count the lines of one millisecond from the start of the window, so both survive
exactly when no line that left shares its millisecond with one that stayed. -/

namespace DockerMap

open RunPaging (newestFirst resume before run Paged follow)

/-! The chain of requests -/

def fetchCollected (service : String) (query : Option String) (limit : ℕ) (log : List String) :
    Option String → Option (List CollectedLine × Option String)
  | none => some (collectedPage service query none limit log)
  | some text => (LogCursor.parse text).map fun cursor =>
      collectedPage service query (some cursor) limit log

abbrev CollectedLine.timestamp (line : CollectedLine) : U64 := line.entry.timestamp

def lineMatches (query : Option String) (line : TimedLine) : Bool :=
  matchesQuery (fun line : TimedLine => redactRuntimeDisplayText line.message) query line

/-- The matching lines of the whole window, newest first. -/
def pagedLines (service : String) (query : Option String) (log : List String) :
    List CollectedLine :=
  newestFirst CollectedLine.timestamp
    ((collectedLines service none log).filter fun line => lineMatches query line.timed)

/-- A line visible to two requests, whatever their cursors, has one id. -/
def StableIds (service : String) (log suffix : List String) : Prop :=
  ∀ cursor cursor' : Option LogCursor, ∀ a ∈ collectedLines service cursor log,
    ∀ b ∈ collectedLines service cursor' (log ++ suffix),
      a.position = b.position → a.entry.id = b.entry.id

/-- Whatever pages went out before the suffix arrived, the chain that goes on after it
delivers nothing twice, and of the earlier lines exactly those still visible and not
yet delivered. -/
def ContinuesExactly (service : String) (query : Option String) (limit : ℕ)
    (log suffix : List String) : Prop :=
  ∀ pages text, Paged (fetchCollected service query limit log) pages (some text) →
    ∃ rest, follow (fetchCollected service query limit (log ++ suffix)) (maxLogCursorTail + 1)
        (some text) = some rest ∧
      (rest.flatten.map CollectedLine.position).Nodup ∧
      (rest.flatten.map CollectedLine.position).filter (fun i => i < log.length) =
        ((pagedLines service query log).map CollectedLine.position).filter fun i =>
          i ∉ pages.flatten.map CollectedLine.position ∧ windowStart (log ++ suffix) ≤ i

/-- No line that left the window shares its millisecond with one that stayed. -/
def NoRunCut (log suffix : List String) : Prop :=
  ∀ a ∈ windowLines log, ∀ b ∈ windowLines log, a.position < windowStart (log ++ suffix) →
    windowStart (log ++ suffix) ≤ b.position → a.timestamp ≠ b.timestamp

/-- Behind the first page, a line that stays visible lies before the last second the
`until` filter can name. -/
def NoLateLine (query : Option String) (limit : ℕ) (log suffix : List String) : Prop :=
  ∀ line ∈ (newestFirst TimedLine.timestamp ((windowLines log).filter (lineMatches query))).drop
    (clampLimit limit),
      windowStart (log ++ suffix) ≤ line.position → line.timestamp.val / 1000 < i32Max

/-! Pages as positions of the sorted window -/

def lateMillis : U64 := ⟨i32Max * 1000, by decide⟩

/-- From the last representable second on, a cursor acts as one behind all such lines. -/
def effectiveCursor (cursor : LogCursor) : LogCursor :=
  if cursor.millis.val / 1000 < i32Max then cursor else ⟨lateMillis, maxLogCursorTail⟩

theorem lt_lateMillis_iff (timestamp : U64) :
    timestamp < lateMillis ↔ timestamp.val / 1000 < i32Max := by
  rw [Fin.lt_def, Nat.div_lt_iff_lt_mul (by decide)]
  rfl

theorem length_windowLines (log : List String) : (windowLines log).length ≤ maxLogCursorTail := by
  refine (List.length_filterMap_le _ _).trans ?_
  rw [List.length_drop, length_logLines, windowStart, logTailCount]
  omega

theorem collectedLines_none (service : String) (log : List String) :
    collectedLines service none log = numberLines service (fun _ => 0) (windowLines log) := by
  rw [collectedLines_eq]
  exact congrArg _ (List.filter_eq_self.2 fun _ _ => rfl)

theorem collectedLines_filter (service : String) (cursor : Option LogCursor) (log : List String) :
    collectedLines service cursor log = (collectedLines service none log).filter
      fun line => beforeSeconds (untilOf cursor) line.timestamp := by
  rw [collectedLines_eq, collectedLines_none,
    numberLines_filter service fun timestamp => beforeSeconds (untilOf cursor) timestamp]

theorem length_pagedLines (service : String) (query : Option String) (log : List String) :
    (pagedLines service query log).length ≤ maxLogCursorTail := by
  have hlen : (collectedLines service none log).length = (windowLines log).length := by
    rw [collectedLines_none, ← List.length_map CollectedLine.timed, map_timed_numberLines]
  rw [pagedLines, (RunPaging.perm_newestFirst _ _).length_eq]
  exact (List.length_filter_le _ _).trans (hlen.trans_le (length_windowLines log))

theorem descending_pagedLines (service : String) (query : Option String) (log : List String) :
    RunPaging.Descending CollectedLine.timestamp (pagedLines service query log) :=
  RunPaging.descending_newestFirst _ _

/-- What a request reads before paging: the sorted window, filtered by `until`. -/
theorem sorted_collected (service : String) (query : Option String) (cursor : Option LogCursor)
    (log : List String) :
    newestFirst CollectedLine.timestamp ((collectedLines service cursor log).filter
      (matchesQuery (fun line => (publishLogEntry line.entry).message) query)) =
      (pagedLines service query log).filter
        fun line => beforeSeconds (untilOf cursor) line.timestamp := by
  rw [collectedLines_filter, List.filter_comm, RunPaging.newestFirst_filter]
  rfl

/-- The position of the sorted window a cursor resumes at. -/
def resumeAt (l : List CollectedLine) (cursor : LogCursor) : ℕ :=
  before CollectedLine.timestamp (effectiveCursor cursor).millis l +
    min (effectiveCursor cursor).offset
      (run CollectedLine.timestamp (effectiveCursor cursor).millis l)

theorem afterCursor_collected (service : String) (query : Option String) (cursor : LogCursor)
    (log : List String) :
    afterCursor CollectedLine.timestamp cursor 0 ((pagedLines service query log).filter
        fun line => beforeSeconds (untilOf (some cursor)) line.timestamp) =
      resume CollectedLine.timestamp (effectiveCursor cursor).millis
        (effectiveCursor cursor).offset 0 (pagedLines service query log) := by
  have hl := descending_pagedLines service query log
  rw [afterCursor_eq_resume]
  by_cases hlate : cursor.millis.val / 1000 < i32Max
  · have huntil : logUntilSeconds cursor.millis = cursor.millis.val / 1000 + 1 := by
      rw [logUntilSeconds]; omega
    rw [effectiveCursor, if_pos hlate]
    refine RunPaging.resume_filter _ _ (fun line _ hle => ?_) 0
    have hle : line.timestamp.val ≤ cursor.millis.val := hle
    simp only [beforeSeconds, untilOf, Option.map_some, huntil, decide_eq_true_eq]
    omega
  · have huntil : logUntilSeconds cursor.millis = i32Max := by
      rw [logUntilSeconds]; omega
    have hrun : run CollectedLine.timestamp lateMillis (pagedLines service query log) ≤
        maxLogCursorTail := List.countP_le_length.trans (length_pagedLines service query log)
    rw [effectiveCursor, if_neg hlate, RunPaging.resume_eq_filter _ hrun hl]
    -- both sides keep the lines before the last second, and the cursor is above them all
    have hfilter : ((pagedLines service query log).filter
        fun line => beforeSeconds (untilOf (some cursor)) line.timestamp) =
        (pagedLines service query log).filter fun line => line.timestamp < lateMillis := by
      refine List.filter_congr fun line _ => ?_
      simp only [beforeSeconds, untilOf, Option.map_some, huntil, lt_lateMillis_iff]
    have hbelow : ∀ line ∈ (pagedLines service query log).filter
        (fun line => line.timestamp < lateMillis), line.timestamp < cursor.millis := by
      intro line hline
      have := (lt_lateMillis_iff _).1 (of_decide_eq_true (List.mem_filter.1 hline).2)
      rw [Fin.lt_def]
      omega
    rw [hfilter, RunPaging.resume_eq_filter _ _ (hl.filter _)]
    · exact List.filter_eq_self.2 fun line hline => decide_eq_true (hbelow line hline)
    · rw [RunPaging.run_eq_zero _ hbelow]
      exact Nat.zero_le _

theorem afterCursor_eq_drop (service : String) (query : Option String) (cursor : LogCursor)
    (log : List String) :
    afterCursor CollectedLine.timestamp cursor 0 ((pagedLines service query log).filter
        fun line => beforeSeconds (untilOf (some cursor)) line.timestamp) =
      (pagedLines service query log).drop (resumeAt (pagedLines service query log) cursor) := by
  rw [afterCursor_collected, RunPaging.resume_eq_drop _ _ _ (descending_pagedLines ..)]
  rfl

theorem accounts_resumeAt {l : List CollectedLine}
    (hl : RunPaging.Descending CollectedLine.timestamp l) (cursor : LogCursor)
    (hlen : l.length ≤ maxLogCursorTail) :
    RunPaging.Accounts CollectedLine.timestamp l (resumeAt l cursor)
      ((some cursor).map LogCursor.pair) := by
  have hacc := RunPaging.accounts_resume CollectedLine.timestamp hl
    (effectiveCursor cursor).millis (effectiveCursor cursor).offset
  intro line hline
  rw [resumeAt, ← hacc line hline]
  by_cases hlate : cursor.millis.val / 1000 < i32Max
  · rw [effectiveCursor, if_pos hlate]
    rfl
  · -- neither cursor's key occurs behind the position
    have hlt : line.timestamp < lateMillis := by
      refine RunPaging.key_lt_of_mem_drop _ hl ?_ hline
      have hrun : run CollectedLine.timestamp lateMillis l ≤ maxLogCursorTail :=
        List.countP_le_length.trans hlen
      simp only [resumeAt, effectiveCursor, if_neg hlate, Nat.min_eq_right hrun, le_refl]
    have hlt' := (lt_lateMillis_iff _).1 hlt
    have hne : cursor.millis ≠ line.timestamp := by
      rintro he
      rw [he] at hlate
      exact hlate hlt'
    simp only [effectiveCursor, if_neg hlate, Option.map_some, LogCursor.pair,
      RunPaging.previouslyEmitted_some, if_neg hne, if_neg hlt.ne']

theorem effectiveCursor_of_lt {cursor : LogCursor} (h : cursor.millis < lateMillis) :
    effectiveCursor cursor = cursor := if_pos ((lt_lateMillis_iff _).1 h)

theorem resumeAt_of_marks {l : List CollectedLine} {cursor : LogCursor} {p : ℕ}
    (h : RunPaging.Marks CollectedLine.timestamp l p cursor.millis cursor.offset)
    (hlt : cursor.millis < lateMillis) : resumeAt l cursor = p := by
  rw [resumeAt, effectiveCursor_of_lt hlt, Nat.min_eq_left h.le_run, h.eq]

theorem lt_late_of_mem_drop {l : List CollectedLine}
    (hl : RunPaging.Descending CollectedLine.timestamp l) (hlen : l.length ≤ maxLogCursorTail)
    {cursor : LogCursor} {line : CollectedLine} (h : line ∈ l.drop (resumeAt l cursor)) :
    line.timestamp < lateMillis := by
  rw [resumeAt, ← RunPaging.resume_eq_drop _ _ _ hl] at h
  by_cases hlate : cursor.millis.val / 1000 < i32Max
  · have hmem : line ∈ (resume CollectedLine.timestamp (effectiveCursor cursor).millis
        (effectiveCursor cursor).offset 0 l).filter fun a => a.timestamp = line.timestamp :=
      List.mem_filter.2 ⟨h, by simp⟩
    rw [RunPaging.filter_resume, effectiveCursor, if_pos hlate] at hmem
    rw [lt_lateMillis_iff]
    split_ifs at hmem with h1 h2
    · have h1 : line.timestamp.val < cursor.millis.val := h1
      omega
    · rwa [h2]
    · simp at hmem
  · rw [effectiveCursor, if_neg hlate, RunPaging.resume_eq_filter _ _ hl] at h
    · exact of_decide_eq_true (List.mem_filter.1 h).2
    · exact List.countP_le_length.trans hlen

/-- A request with a cursor, at the position it resumes at. -/
theorem fetchCollected_step (service : String) (query : Option String) (limit : ℕ)
    (log : List String) {text : String} {cursor : LogCursor}
    (hparse : LogCursor.parse text = some cursor) :
    let l := pagedLines service query log
    let p := resumeAt l cursor
    (l.length ≤ p + clampLimit limit ∧ fetchCollected service query limit log (some text) =
        some ((l.drop p).take (clampLimit limit), none)) ∨
    (p + clampLimit limit < l.length ∧ ∃ next : LogCursor,
      fetchCollected service query limit log (some text) =
        some ((l.drop p).take (clampLimit limit), some next.toText) ∧
      RunPaging.Marks CollectedLine.timestamp l (p + clampLimit limit) next.millis next.offset ∧
      next.millis < lateMillis) := by
  intro l p
  have hl := descending_pagedLines service query log
  have hlen := length_pagedLines service query log
  have hfetch : fetchCollected service query limit log (some text) =
      some (collectedPage service query (some cursor) limit log) := by
    simp only [fetchCollected, hparse, Option.map_some]
  rw [hfetch]
  rcases pageEntries_step CollectedLine.timestamp
    (fun line => (publishLogEntry line.entry).message)
    (collectedLines service (some cursor) log) query (some cursor) limit hl
    (by rw [sorted_collected]; exact afterCursor_eq_drop service query cursor log)
    (accounts_resumeAt hl cursor hlen) with ⟨hend, hpage⟩ | ⟨hmore, next, hpage, hmarks, a, ha, hm⟩
  · exact Or.inl ⟨hend, congrArg some hpage⟩
  · refine Or.inr ⟨hmore, next, congrArg some hpage, hmarks, ?_⟩
    rw [← hm]
    exact lt_late_of_mem_drop hl hlen (List.mem_of_mem_take ha)

theorem fetchCollected_first (service : String) (query : Option String) (limit : ℕ)
    (log : List String) :
    let l := pagedLines service query log
    (l.length ≤ clampLimit limit ∧ fetchCollected service query limit log none =
        some (l.take (clampLimit limit), none)) ∨
    (clampLimit limit < l.length ∧ ∃ next : LogCursor,
      fetchCollected service query limit log none =
        some (l.take (clampLimit limit), some next.toText) ∧
      RunPaging.Marks CollectedLine.timestamp l (clampLimit limit) next.millis next.offset) := by
  intro l
  have hl := descending_pagedLines service query log
  have hall : (pagedLines service query log).filter
      (fun line => beforeSeconds (untilOf none) line.timestamp) = pagedLines service query log :=
    List.filter_eq_self.2 fun _ _ => rfl
  rcases pageEntries_step CollectedLine.timestamp
    (fun line => (publishLogEntry line.entry).message)
    (collectedLines service none log) query none limit (p := 0) hl
    (by rw [List.drop_zero]; exact (sorted_collected service query none log).trans hall)
    (RunPaging.accounts_none _ _) with ⟨hend, hpage⟩ | ⟨hmore, next, hpage, hmarks, -⟩
  · rw [Nat.zero_add] at hend
    exact Or.inl ⟨hend, congrArg some hpage⟩
  · rw [Nat.zero_add] at hmore hmarks
    exact Or.inr ⟨hmore, next, congrArg some hpage, hmarks⟩

theorem parse_of_marks {service : String} {query : Option String} {log : List String} {p : ℕ}
    {next : LogCursor} (h : RunPaging.Marks CollectedLine.timestamp (pagedLines service query log)
      p next.millis next.offset) : LogCursor.parse next.toText = some next := by
  refine LogCursor.parse_toText ?_
  have hbound : maxLogCursorTail < usizeBound := by decide
  exact ((h.le_run.trans List.countP_le_length).trans (length_pagedLines ..)).trans_lt hbound

/-- A chain that goes on from a cursor delivers everything behind its position. -/
theorem follow_fetchCollected (service : String) (query : Option String) (limit : ℕ)
    (log : List String) {text : String} {cursor : LogCursor}
    (hparse : LogCursor.parse text = some cursor) :
    ∃ rest, follow (fetchCollected service query limit log) (maxLogCursorTail + 1) (some text) =
        some rest ∧
      rest.flatten = (pagedLines service query log).drop
        (resumeAt (pagedLines service query log) cursor) := by
  set l := pagedLines service query log
  have hlen : l.length ≤ maxLogCursorTail := length_pagedLines service query log
  have hle : resumeAt l cursor ≤ l.length :=
    (Nat.add_le_add_left (min_le_right _ _) _).trans (RunPaging.before_add_run_le_length _ _ l)
  obtain ⟨rest, hrest, hflat, -⟩ := RunPaging.follow_partition
    (fetchCollected service query limit log) l (one_le_clampLimit limit)
    (fun c p => ∃ text cursor, c = some text ∧ LogCursor.parse text = some cursor ∧
      resumeAt l cursor = p)
    (fun c p ⟨text, cursor, hc, hparse, hp⟩ _ => by
      subst hc hp
      rcases fetchCollected_step service query limit log hparse with h | ⟨hmore, next, hpage, hmarks, hlt⟩
      · exact Or.inl h
      · exact Or.inr ⟨hmore, next.toText, hpage, next.toText, next, rfl, parse_of_marks hmarks,
          resumeAt_of_marks hmarks hlt⟩)
    (maxLogCursorTail + 1) (some text) (resumeAt l cursor) ⟨text, cursor, rfl, hparse, rfl⟩ hle
    (by omega)
  exact ⟨rest, hrest, hflat⟩

/-! The pages before the suffix -/

/-- The chain stands behind position `p`: it delivered lines before `p` only, and among
them every line that stays visible. -/
structure Delivered (l : List CollectedLine) (limit start : ℕ) (delivered : List CollectedLine)
    (cursor : LogCursor) (p : ℕ) : Prop where
  limit_le : limit ≤ p
  marks : RunPaging.Marks CollectedLine.timestamp l p cursor.millis cursor.offset
  subset : ∀ a ∈ delivered, a ∈ l.take p
  kept : ∀ a ∈ l.take p, start ≤ a.position → a ∈ delivered

theorem le_resumeAt {l : List CollectedLine} {cursor : LogCursor} {p : ℕ}
    (h : RunPaging.Marks CollectedLine.timestamp l p cursor.millis cursor.offset)
    (hlen : l.length ≤ maxLogCursorTail) : p ≤ resumeAt l cursor := by
  rw [resumeAt]
  by_cases hlate : cursor.millis.val / 1000 < i32Max
  · rw [effectiveCursor, if_pos hlate, Nat.min_eq_left h.le_run, h.eq]
  · rw [effectiveCursor, if_neg hlate]
    have hrun : run CollectedLine.timestamp lateMillis l ≤ maxLogCursorTail :=
      List.countP_le_length.trans hlen
    dsimp only
    rw [Nat.min_eq_right hrun, ← h.eq]
    have hle : lateMillis ≤ cursor.millis := by
      rw [← not_lt, lt_lateMillis_iff]
      exact hlate
    rcases hle.eq_or_lt with heq | hlt
    · rw [heq]
      exact Nat.add_le_add_left h.le_run _
    · have := RunPaging.before_add_run_le CollectedLine.timestamp (l := l) hlt
      have := h.le_run
      omega

/-- A request skips positions only where the lines are too late for `until`. -/
theorem le_getElem_of_lt_resumeAt {l : List CollectedLine} {cursor : LogCursor} {p i : ℕ}
    (hl : RunPaging.Descending CollectedLine.timestamp l)
    (h : RunPaging.Marks CollectedLine.timestamp l p cursor.millis cursor.offset)
    (hi : i < l.length) (hp : p ≤ i) (hlt : i < resumeAt l cursor) :
    lateMillis ≤ l[i].timestamp := by
  by_cases hlate : cursor.millis < lateMillis
  · rw [resumeAt_of_marks h hlate] at hlt
    omega
  · refine RunPaging.le_key_getElem _ hl hi ?_
    rw [lt_lateMillis_iff] at hlate
    rw [resumeAt, effectiveCursor, if_neg hlate] at hlt
    dsimp only at hlt
    omega

theorem paged_delivered {service : String} {query : Option String} {limit start : ℕ}
    {log : List String}
    (hlate : ∀ a ∈ (pagedLines service query log).drop (clampLimit limit), start ≤ a.position →
      a.timestamp < lateMillis)
    {pages : List (List CollectedLine)} {c : Option String}
    (h : Paged (fetchCollected service query limit log) pages c) :
    (c = none ∧ pages = []) ∨ ∃ text cursor p, c = some text ∧
      LogCursor.parse text = some cursor ∧
      Delivered (pagedLines service query log) (clampLimit limit) start pages.flatten cursor p := by
  set l := pagedLines service query log with hl
  have hlen : l.length ≤ maxLogCursorTail := length_pagedLines service query log
  have hdesc : RunPaging.Descending CollectedLine.timestamp l :=
    descending_pagedLines service query log
  induction h with
  | start => exact Or.inl ⟨rfl, rfl⟩
  | next hpaged hfetch ih =>
    right
    rcases ih with ⟨rfl, rfl⟩ | ⟨text, cursor, p, rfl, hparse, hdel⟩
    · rcases fetchCollected_first service query limit log with ⟨-, hpage⟩ | ⟨-, next, hpage, hmarks⟩
      · simp [hpage] at hfetch
      · rw [hpage] at hfetch
        obtain ⟨rfl, rfl⟩ : _ ∧ _ := by simpa using hfetch
        refine ⟨_, next, clampLimit limit, rfl, parse_of_marks hmarks, le_rfl, hmarks, ?_, ?_⟩
        · simp [hl]
        · simpa [hl] using fun a ha _ => ha
    · rcases fetchCollected_step service query limit log hparse with ⟨-, hpage⟩ | ⟨-, next, hpage, hmarks, -⟩
      · simp [hpage] at hfetch
      · rw [hpage] at hfetch
        obtain ⟨rfl, rfl⟩ : _ ∧ _ := by simpa using hfetch
        have hple := le_resumeAt hdel.marks hlen
        set p' := resumeAt l cursor
        have htake : l.take (p' + clampLimit limit) =
            l.take p' ++ (l.drop p').take (clampLimit limit) := List.take_add
        refine ⟨_, next, p' + clampLimit limit, rfl, parse_of_marks hmarks, by omega, hmarks,
          ?_, ?_⟩
        · intro a ha
          rw [List.flatten_append, List.mem_append] at ha
          rw [htake, List.mem_append]
          rcases ha with ha | ha
          · exact Or.inl (List.take_subset_take_left l hple (hdel.subset a ha))
          · right
            simpa using ha
        · intro a ha hkept
          rw [List.flatten_append, List.mem_append]
          rw [htake, List.mem_append] at ha
          rcases ha with ha | ha
          · left
            -- between the old cursor and the place the request resumes at, no line stays
            obtain ⟨i, hi, rfl⟩ := List.mem_take_iff_getElem.1 ha
            by_cases hip : i < p
            · exact hdel.kept _ (List.mem_take_iff_getElem.2 ⟨i, by omega, rfl⟩) hkept
            · exfalso
              have hil : i < l.length := hi.trans_le (min_le_right _ _)
              have hlim : clampLimit limit ≤ i := hdel.limit_le.trans (not_lt.1 hip)
              have hlt := hlate _ (RunPaging.getElem_mem_drop hlim hil) hkept
              have hge := le_getElem_of_lt_resumeAt hdesc hdel.marks hil (not_lt.1 hip)
                (hi.trans_le (min_le_left _ _))
              exact hge.not_gt hlt
          · right
            simpa using ha

/-! Two windows -/

def goneEntries (service : String) (log suffix : List String) : List CollectedLine :=
  numberLines service (fun _ => 0) (goneLines log suffix)

def keptEntries (service : String) (log suffix : List String) : List CollectedLine :=
  numberLines service (fun _ => 0) (keptLines log suffix)

def newEntries (service : String) (log suffix : List String) : List CollectedLine :=
  numberLines service (fun timestamp => 0 + countAt (keptLines log suffix) timestamp)
    (newLines log suffix)

theorem timed_mem_of_mem_numberLines {service : String} {seen : U64 → ℕ} {lines : List TimedLine}
    {line : CollectedLine} (h : line ∈ numberLines service seen lines) : line.timed ∈ lines := by
  rw [← map_timed_numberLines service seen lines]
  exact List.mem_map_of_mem h

theorem position_of_mem_goneEntries {service : String} {log suffix : List String}
    {line : CollectedLine} (h : line ∈ goneEntries service log suffix) :
    line.position < windowStart (log ++ suffix) ∧ line.position < log.length := by
  unfold goneEntries at h
  have h := timed_mem_of_mem_numberLines h
  exact ⟨position_lt_of_gone h, position_lt_length h⟩

theorem position_of_mem_keptEntries {service : String} {log suffix : List String}
    {line : CollectedLine} (h : line ∈ keptEntries service log suffix) :
    windowStart (log ++ suffix) ≤ line.position ∧ line.position < log.length := by
  unfold keptEntries at h
  exact position_of_kept (timed_mem_of_mem_numberLines h)

theorem position_of_mem_newEntries {service : String} {log suffix : List String}
    {line : CollectedLine} (h : line ∈ newEntries service log suffix) :
    log.length ≤ line.position := by
  unfold newEntries at h
  exact le_position_of_new (timed_mem_of_mem_numberLines h)

theorem collectedLines_gone (service : String) (log suffix : List String) :
    collectedLines service none log = goneEntries service log suffix ++
      numberLines service (fun timestamp => 0 + countAt (goneLines log suffix) timestamp)
        (keptLines log suffix) := by
  rw [collectedLines_none, windowLines_eq log suffix, numberLines_append]
  rfl

theorem collectedLines_append (service : String) (log suffix : List String) :
    collectedLines service none (log ++ suffix) =
      keptEntries service log suffix ++ newEntries service log suffix := by
  rw [collectedLines_none, windowLines_append, numberLines_append]
  rfl

theorem mem_windowLines_iff {log suffix : List String} {line : TimedLine}
    (h : line ∈ windowLines log) :
    (line ∈ goneLines log suffix ↔ line.position < windowStart (log ++ suffix)) ∧
      (line ∈ keptLines log suffix ↔ windowStart (log ++ suffix) ≤ line.position) := by
  rw [windowLines_eq log suffix, List.mem_append] at h
  constructor
  · refine ⟨position_lt_of_gone, fun hlt => h.resolve_right fun hk => ?_⟩
    exact absurd (position_of_kept hk).1 (by omega)
  · refine ⟨fun hk => (position_of_kept hk).1, fun hle => h.resolve_left fun hg => ?_⟩
    exact absurd (position_lt_of_gone hg) (by omega)

/-- The slide left every run whole, so the lines that stay keep their numbers. -/
theorem collectedLines_of_noRunCut (service : String) {log suffix : List String}
    (h : NoRunCut log suffix) :
    collectedLines service none log =
      goneEntries service log suffix ++ keptEntries service log suffix := by
  rw [collectedLines_gone, keptEntries]
  refine congrArg _ (numberLines_congr fun line hline => ?_)
  have hmem : ∀ {line}, line ∈ goneLines log suffix ∨ line ∈ keptLines log suffix →
      line ∈ windowLines log := fun h => by rw [windowLines_eq log suffix]; exact List.mem_append.2 h
  rw [Nat.zero_add, countAt, List.countP_eq_zero]
  intro gone hgone
  rw [decide_eq_true_eq]
  exact h gone (hmem (Or.inl hgone)) line (hmem (Or.inr hline)) (position_lt_of_gone hgone)
    (position_of_kept hline).1

theorem nodup_positions (service : String) (log : List String) :
    ((collectedLines service none log).map CollectedLine.position).Nodup := by
  have hmap : (collectedLines service none log).map CollectedLine.position =
      (windowLines log).map TimedLine.position := by
    rw [collectedLines_none]
    conv_rhs => rw [← map_timed_numberLines service (fun _ => 0) (windowLines log), List.map_map]
    rfl
  rw [hmap, List.Nodup, List.pairwise_map]
  exact (sorted_windowLines log).imp fun h => h.ne

theorem nodup_pagedLines (service : String) (query : Option String) (log : List String) :
    ((pagedLines service query log).map CollectedLine.position).Nodup := by
  rw [pagedLines, ((RunPaging.perm_newestFirst _ _).map _).nodup_iff]
  exact (nodup_positions service log).sublist (List.filter_sublist.map _)

theorem stableIds_of_noRunCut {service : String} {log suffix : List String}
    (h : NoRunCut log suffix) : StableIds service log suffix := by
  intro cursor cursor' a ha b hb hab
  rw [collectedLines_filter] at ha hb
  have ha := List.mem_of_mem_filter ha
  have hb := List.mem_of_mem_filter hb
  have hnodup := nodup_positions service (log ++ suffix)
  rw [collectedLines_of_noRunCut service h, List.mem_append] at ha
  rw [collectedLines_append] at hb hnodup
  rcases ha with ha | ha
  · -- a line that left is not among the later ones
    have ha := position_of_mem_goneEntries ha
    rcases List.mem_append.1 hb with hb | hb
    · have hb := position_of_mem_keptEntries hb
      omega
    · have hb := position_of_mem_newEntries hb
      omega
  · rw [List.inj_on_of_nodup_map hnodup (List.mem_append_left _ ha) hb hab]

theorem noRunCut_of_stableIds {service : String} {log suffix : List String}
    (h : StableIds service log suffix) : NoRunCut log suffix := by
  intro a ha b hb hlt hle heq
  have ha := (mem_windowLines_iff ha).1.2 hlt
  have hb := (mem_windowLines_iff hb).2.2 hle
  obtain ⟨ordinal, hmem⟩ := mem_numberLines service hb
  have h1 := hmem fun timestamp => 0 + countAt (goneLines log suffix) timestamp
  have h2 := hmem fun _ => 0
  have h1 := List.mem_append_right (goneEntries service log suffix) h1
  have h2 := List.mem_append_left (newEntries service log suffix) h2
  rw [← collectedLines_gone] at h1
  rw [← keptEntries, ← collectedLines_append] at h2
  have hord := logEntryId_injective _ _ (h none none _ h1 _ h2 rfl)
  have hpos : 0 < countAt (goneLines log suffix) b.timestamp :=
    List.countP_pos_iff.2 ⟨a, ha, decide_eq_true heq⟩
  omega

theorem map_timed_pagedLines (service : String) (query : Option String) (log : List String) :
    (pagedLines service query log).map CollectedLine.timed =
      newestFirst TimedLine.timestamp ((windowLines log).filter (lineMatches query)) := by
  conv_rhs => rw [← map_timed_numberLines service (fun _ => 0) (windowLines log),
    ← collectedLines_none, List.filter_map, RunPaging.newestFirst_map]
  rfl

theorem late_of_noLateLine (service : String) {query : Option String} {limit : ℕ}
    {log suffix : List String} (h : NoLateLine query limit log suffix) :
    ∀ a ∈ (pagedLines service query log).drop (clampLimit limit),
      windowStart (log ++ suffix) ≤ a.position → a.timestamp < lateMillis := by
  intro a ha hkept
  rw [lt_lateMillis_iff]
  refine h a.timed ?_ hkept
  rw [← map_timed_pagedLines service, ← List.map_drop]
  exact List.mem_map_of_mem ha

/-- Between an old cursor and the place it resumes at, no line stays visible. -/
theorem filter_drop_resumeAt {l : List CollectedLine} {cursor : LogCursor} {p limit start : ℕ}
    (hl : RunPaging.Descending CollectedLine.timestamp l) (hlen : l.length ≤ maxLogCursorTail)
    (hmarks : RunPaging.Marks CollectedLine.timestamp l p cursor.millis cursor.offset)
    (hlimit : limit ≤ p)
    (hlate : ∀ a ∈ l.drop limit, start ≤ a.position → a.timestamp < lateMillis) :
    (l.drop p).filter (fun a => start ≤ a.position) =
      (l.drop (resumeAt l cursor)).filter fun a => start ≤ a.position := by
  have hle := le_resumeAt hmarks hlen
  have hsplit : l.drop (resumeAt l cursor) = (l.drop p).drop (resumeAt l cursor - p) := by
    rw [List.drop_drop, Nat.add_sub_cancel' hle]
  rw [hsplit]
  conv_lhs => rw [← List.take_append_drop (resumeAt l cursor - p) (l.drop p), List.filter_append]
  have hnil : ((l.drop p).take (resumeAt l cursor - p)).filter
      (fun a => start ≤ a.position) = [] := by
    refine List.filter_eq_nil_iff.2 fun a ha hkept => ?_
    obtain ⟨i, hi, rfl⟩ := List.mem_take_iff_getElem.1 ha
    have hlt := hi.trans_le (min_le_left _ _)
    have hil : p + i < l.length := by
      have := hi.trans_le (min_le_right _ _)
      rw [List.length_drop] at this
      omega
    rw [List.getElem_drop] at hkept
    have hge := le_getElem_of_lt_resumeAt hl hmarks hil (Nat.le_add_right p i) (by omega)
    exact hge.not_gt
      (hlate _ (RunPaging.getElem_mem_drop (by omega) hil) (of_decide_eq_true hkept))
  rw [hnil, List.nil_append]

/-- What is still owed, read off the delivered positions or off the cursor. -/
theorem filter_owed {l delivered : List CollectedLine} {limit start p : ℕ} {cursor : LogCursor}
    (hnodup : (l.map CollectedLine.position).Nodup)
    (hdel : Delivered l limit start delivered cursor p) :
    l.filter (fun a => a.position ∉ delivered.map CollectedLine.position ∧ start ≤ a.position) =
      (l.drop p).filter fun a => start ≤ a.position := by
  conv_lhs => rw [← List.take_append_drop p l, List.filter_append]
  have hnil : (l.take p).filter (fun a =>
      a.position ∉ delivered.map CollectedLine.position ∧ start ≤ a.position) = [] := by
    refine List.filter_eq_nil_iff.2 fun a ha h => ?_
    obtain ⟨hnot, hkept⟩ := of_decide_eq_true h
    exact hnot (List.mem_map_of_mem (hdel.kept a ha hkept))
  rw [hnil, List.nil_append]
  refine List.filter_congr fun a ha => ?_
  have hnot : a.position ∉ delivered.map CollectedLine.position := by
    intro hmem
    obtain ⟨b, hb, hab⟩ := List.mem_map.1 hmem
    rw [← List.take_append_drop p l, List.map_append] at hnodup
    exact (List.nodup_append.1 hnodup).2.2 _ (List.mem_map_of_mem (hdel.subset b hb)) _
      (List.mem_map_of_mem ha) hab
  simp only [hnot, not_false_eq_true, true_and]

theorem continuesExactly_of {service : String} {query : Option String} {limit : ℕ}
    {log suffix : List String} (hcut : NoRunCut log suffix)
    (hlate : NoLateLine query limit log suffix) :
    ContinuesExactly service query limit log suffix := by
  intro pages text hpaged
  have hlate := late_of_noLateLine service hlate
  rcases paged_delivered hlate hpaged with ⟨h, -⟩ | ⟨_, cursor, p, heq, hparse, hdel⟩
  · simp at h
  obtain rfl := Option.some.inj heq
  obtain ⟨rest, hrest, hflat⟩ := follow_fetchCollected service query limit
    (log ++ suffix) hparse
  have hnodup := nodup_pagedLines service query log
  refine ⟨rest, hrest, ?_, ?_⟩
  · rw [hflat]
    exact (nodup_pagedLines service query (log ++ suffix)).sublist ((List.drop_sublist _ _).map _)
  have hdesc := descending_pagedLines service query log
  have hlen := length_pagedLines service query log
  -- the later chain, cut down to the earlier lines, is the earlier chain cut down to what stays
  have hslide : (rest.flatten).filter (fun a => a.position < log.length) =
      ((pagedLines service query log).drop p).filter
        fun a => windowStart (log ++ suffix) ≤ a.position := by
    rw [filter_drop_resumeAt hdesc hlen hdel.marks hdel.limit_le hlate, hflat, resumeAt, resumeAt,
      ← RunPaging.resume_eq_drop _ _ _ hdesc,
      ← RunPaging.resume_eq_drop _ _ _ (descending_pagedLines service query (log ++ suffix)),
      pagedLines, pagedLines, collectedLines_of_noRunCut service hcut, collectedLines_append,
      List.filter_append, List.filter_append]
    refine RunPaging.resume_slide _ (fun a ha => ?_) (fun a ha => ?_) (fun a ha => ?_)
      (fun a ha => ?_) (fun a ha b hb => ?_) _ _
    · have := position_of_mem_goneEntries (List.mem_of_mem_filter ha)
      exact decide_eq_false (by omega)
    · exact decide_eq_true (position_of_mem_keptEntries (List.mem_of_mem_filter ha)).1
    · exact decide_eq_true (position_of_mem_keptEntries (List.mem_of_mem_filter ha)).2
    · have := position_of_mem_newEntries (List.mem_of_mem_filter ha)
      exact decide_eq_false (by omega)
    · have ha := List.mem_of_mem_filter ha
      have hb := List.mem_of_mem_filter hb
      have hmem {line : CollectedLine} (h : line ∈ goneEntries service log suffix ∨
          line ∈ keptEntries service log suffix) : line.timed ∈ windowLines log := by
        rw [← List.mem_append, ← collectedLines_of_noRunCut service hcut,
          collectedLines_none] at h
        exact timed_mem_of_mem_numberLines h
      exact hcut a.timed (hmem (Or.inl ha)) b.timed (hmem (Or.inr hb))
        (position_of_mem_goneEntries ha).1 (position_of_mem_keptEntries hb).1
  rw [List.filter_map, List.filter_map]
  exact congrArg _ (hslide.trans (filter_owed hnodup hdel).symm)

theorem timestamp_eq_of_position_eq {log suffix : List String} {a b : TimedLine}
    (ha : a ∈ windowLines log) (hb : b ∈ windowLines (log ++ suffix))
    (h : a.position = b.position) : a.timestamp = b.timestamp := by
  obtain ⟨-, text, htext, hparse⟩ := mem_timedLines.1 ha
  obtain ⟨-, text', htext', hparse'⟩ := mem_timedLines.1 hb
  have hlt := (List.getElem?_eq_some_iff.1 htext).1
  rw [← h, List.getElem?_append_left hlt, htext] at htext'
  obtain rfl := Option.some.inj htext'
  rw [hparse] at hparse'
  exact congrArg Prod.fst (Option.some.inj hparse')

theorem timed_mem_windowLines {service : String} {query : Option String} {log : List String}
    {line : CollectedLine} (h : line ∈ pagedLines service query log) :
    line.timed ∈ windowLines log := by
  rw [pagedLines, (RunPaging.perm_newestFirst _ _).mem_iff] at h
  have h := List.mem_of_mem_filter h
  rw [collectedLines_none] at h
  exact timed_mem_of_mem_numberLines h

theorem noLateLine_of_continues {service : String} {query : Option String} {limit : ℕ}
    {log suffix : List String} (h : ContinuesExactly service query limit log suffix) :
    NoLateLine query limit log suffix := by
  intro timed htimed hkept
  rw [← map_timed_pagedLines service, ← List.map_drop] at htimed
  obtain ⟨line, hline, rfl⟩ := List.mem_map.1 htimed
  have hmem := List.mem_of_mem_drop hline
  rcases fetchCollected_first service query limit log with ⟨hend, -⟩ | ⟨-, next, hpage, hmarks⟩
  · rw [List.drop_eq_nil_of_le hend] at hline
    simp at hline
  -- the line is owed after the first page, so the chain must deliver it
  obtain ⟨rest, hrest, -, howed⟩ := h _ _ (Paged.next Paged.start hpage)
  obtain ⟨rest', hrest', hflat⟩ := follow_fetchCollected service query limit
    (log ++ suffix) (parse_of_marks hmarks)
  obtain rfl := Option.some.inj (hrest.symm.trans hrest')
  have hnot : line.position ∉
      ((pagedLines service query log).take (clampLimit limit)).map CollectedLine.position := by
    have hnodup := nodup_pagedLines service query log
    rw [← List.take_append_drop (clampLimit limit) (pagedLines service query log),
      List.map_append] at hnodup
    intro hin
    exact (List.nodup_append.1 hnodup).2.2 _ hin _ (List.mem_map_of_mem hline) rfl
  have hin : line.position ∈ (rest.flatten.map CollectedLine.position).filter
      fun i => i < log.length := by
    rw [howed, List.nil_append, List.flatten_singleton]
    exact List.mem_filter.2 ⟨List.mem_map_of_mem hmem, decide_eq_true ⟨hnot, hkept⟩⟩
  obtain ⟨other, hother, heq⟩ := List.mem_map.1 (List.mem_of_mem_filter hin)
  rw [hflat] at hother
  have hts : line.timestamp = other.timestamp := timestamp_eq_of_position_eq
    (timed_mem_windowLines hmem) (timed_mem_windowLines (List.mem_of_mem_drop hother)) heq.symm
  have hlt := lt_late_of_mem_drop (descending_pagedLines ..) (length_pagedLines ..) hother
  rw [← hts, lt_lateMillis_iff] at hlt
  exact hlt

/-- A response has the collected page, published. -/
def AnswersPage (service : String) (query : Option String) (limit : ℕ) : Prop :=
  ∀ cursor log, (collectLogs service query cursor limit log).entries =
      (collectedPage service query cursor limit log).1.map
        (fun line => publishLogEntry line.entry) ∧
    (collectLogs service query cursor limit log).nextCursor =
      (collectedPage service query cursor limit log).2

/-- Ids are stable and a pagination goes on exactly, precisely when the window cut no run
and the `until` filter can name every second still owed. -/
theorem live_pages_stable_iff (service : String) (query : Option String) (limit : ℕ)
    (log suffix : List String) :
    AnswersPage service query limit ∧
      (StableIds service log suffix ∧ ContinuesExactly service query limit log suffix ↔
        NoRunCut log suffix ∧ NoLateLine query limit log suffix) := by
  refine ⟨fun cursor log => collectLogs_eq service query cursor limit log, ?_⟩
  constructor
  · rintro ⟨hids, hpages⟩
    exact ⟨noRunCut_of_stableIds hids, noLateLine_of_continues hpages⟩
  · rintro ⟨hcut, hlate⟩
    exact ⟨stableIds_of_noRunCut hcut, continuesExactly_of hcut hlate⟩

def burstLine : String := "2026-08-20T04:05:06.123Z tick"

theorem parse_burstLine : parseTimestampedLogLine burstLine = some (1787198706123, "tick") := by
  decide

/-- A burst of one window within a millisecond, then one more line. -/
theorem live_ids_shift : ¬ (StableIds "web" (List.replicate maxLogCursorTail burstLine) [burstLine] ∧
    ContinuesExactly "web" none 100 (List.replicate maxLogCursorTail burstLine) [burstLine]) := by
  rintro ⟨hids, -⟩
  have hcut := noRunCut_of_stableIds hids
  have hmem : ∀ i < maxLogCursorTail, (⟨i, 1787198706123, "tick"⟩ : TimedLine) ∈
      windowLines (List.replicate maxLogCursorTail burstLine) := by
    intro i hi
    refine mem_timedLines.2 ⟨?_, burstLine, ?_, parse_burstLine⟩
    · simp [windowStart, logTailCount]
    · rw [List.getElem?_replicate, if_pos hi]
  have hstart : windowStart (List.replicate maxLogCursorTail burstLine ++ [burstLine]) = 1 := by
    simp [windowStart, logTailCount]
  refine hcut _ (hmem 0 (by decide)) _ (hmem 1 (by decide)) ?_ ?_ rfl
  · rw [hstart]
    exact Nat.one_pos
  · rw [hstart]

end DockerMap
