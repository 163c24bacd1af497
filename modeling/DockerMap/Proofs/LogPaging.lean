import DockerMap.Core.Logs

/-! Feeding `next_cursor` back, through its text, hands out the filtered log once,
in stable newest-first order. -/

namespace DockerMap

/-- One request of the chain; a cursor whose text does not parse ends it without a result. -/
def fetchLogPage (entries : List LogEntry) (query : Option String) (limit : ℕ) :
    Option String → Option (List LogEntry × Option String)
  | none => some (pageLogEntries entries query none limit)
  | some text =>
      (LogCursor.parse text).map fun cursor => pageLogEntries entries query (some cursor) limit

/-- The cursor text stands at position `p` of the sorted list. -/
def CursorAt (l : List LogEntry) : Option String → ℕ → Prop
  | none, p => p = 0
  | some text, p => ∃ cursor, LogCursor.parse text = some cursor ∧
      RunPaging.Marks LogEntry.timestamp l p cursor.millis cursor.offset

theorem marks_offset_lt {l : List LogEntry} {p : ℕ} {m : U64} {off : ℕ}
    (hlen : l.length < usizeBound) (h : RunPaging.Marks LogEntry.timestamp l p m off) :
    off < usizeBound :=
  (h.le_run.trans List.countP_le_length).trans_lt hlen

theorem fetchLogPage_step {entries : List LogEntry} {query : Option String} {limit : ℕ}
    (hlen : entries.length < usizeBound) {c : Option String} {p : ℕ} :
    let l := RunPaging.newestFirst LogEntry.timestamp
      (entries.filter (matchesQuery LogEntry.message query))
    CursorAt l c p → p ≤ l.length →
    (l.length ≤ p + clampLimit limit ∧
      fetchLogPage entries query limit c = some ((l.drop p).take (clampLimit limit), none)) ∨
    (p + clampLimit limit < l.length ∧ ∃ next : LogCursor, fetchLogPage entries query limit c =
        some ((l.drop p).take (clampLimit limit), some next.toText) ∧
      CursorAt l (some next.toText) (p + clampLimit limit) ∧ next.offset ≤ l.length ∧
      ∃ a ∈ l, a.timestamp = next.millis) := by
  intro l hat _
  have hl : RunPaging.Descending LogEntry.timestamp l := RunPaging.descending_newestFirst _ _
  have hllen : l.length < usizeBound :=
    ((RunPaging.perm_newestFirst _ _).length_eq.trans_le (List.length_filter_le _ _)).trans_lt hlen
  -- either kind of cursor selects `l.drop p` and accounts for `p`
  obtain ⟨cursor, hfetch, hdrop, hacc⟩ : ∃ cursor : Option LogCursor,
      fetchLogPage entries query limit c = some (pageLogEntries entries query cursor limit) ∧
      resumeEntries LogEntry.timestamp cursor l = l.drop p ∧
      RunPaging.Accounts LogEntry.timestamp l p (cursor.map LogCursor.pair) := by
    cases c with
    | none =>
      simp only [CursorAt] at hat
      subst hat
      exact ⟨none, rfl, rfl, RunPaging.accounts_none _ l⟩
    | some text =>
      obtain ⟨cursor, hparse, hmarks⟩ := hat
      refine ⟨some cursor, by simp [fetchLogPage, hparse], ?_, ?_⟩
      · simp only [resumeEntries, afterCursor_eq_resume, hmarks.resume_eq _ hl]
      · have := RunPaging.accounts_resume LogEntry.timestamp hl cursor.millis cursor.offset
        rwa [Nat.min_eq_left hmarks.le_run, hmarks.eq] at this
  rw [hfetch]
  rcases pageEntries_step LogEntry.timestamp LogEntry.message entries query cursor limit hl hdrop hacc with
    ⟨hend, hpage⟩ | ⟨hmore, next, hpage, hmarks, a, ha, hm⟩
  · exact Or.inl ⟨hend, congrArg some hpage⟩
  · refine Or.inr ⟨hmore, next, congrArg some hpage, ⟨next, ?_, hmarks⟩,
      hmarks.le_run.trans List.countP_le_length,
      a, List.mem_of_mem_drop (List.mem_of_mem_take ha), hm⟩
    exact LogCursor.parse_toText (marks_offset_lt hllen hmarks)

theorem follow_fetchLogPage {entries : List LogEntry} (query : Option String) (limit : ℕ)
    (hlen : entries.length < usizeBound) {fuel : ℕ} (hfuel : entries.length < fuel) :
    ∃ pages, RunPaging.follow (fetchLogPage entries query limit) fuel none = some pages ∧
      pages.flatten = RunPaging.newestFirst LogEntry.timestamp
        (entries.filter (matchesQuery LogEntry.message query)) ∧
      (∀ page ∈ pages, page.length ≤ clampLimit limit) ∧
      ∀ page ∈ pages.dropLast, page.length = clampLimit limit := by
  set l := RunPaging.newestFirst LogEntry.timestamp
    (entries.filter (matchesQuery LogEntry.message query))
  have hllen : l.length ≤ entries.length :=
    (RunPaging.perm_newestFirst _ _).length_eq.trans_le (List.length_filter_le _ _)
  exact RunPaging.follow_partition _ l (one_le_clampLimit limit) (CursorAt l)
    (fun _ _ hat hp => (fetchLogPage_step hlen hat hp).imp_right
      fun ⟨hmore, next, hpage, hat', _⟩ => ⟨hmore, next.toText, hpage, hat'⟩)
    fuel none 0 rfl (Nat.zero_le _) (by omega)

/-- The vector of entries fits its length type. -/
theorem log_pages_partition (entries : List LogEntry) (query : Option String) (limit : ℕ)
    (hlen : entries.length < usizeBound) :
    ∃ pages, RunPaging.follow (fetchLogPage entries query limit) (entries.length + 1) none =
        some pages ∧
      RunPaging.StableNewestFirst LogEntry.timestamp
        (entries.filter (matchesQuery LogEntry.message query)) pages.flatten ∧
      (∀ page ∈ pages, page.length ≤ clampLimit limit) ∧
      ∀ page ∈ pages.dropLast, page.length = clampLimit limit := by
  obtain ⟨pages, hpages, hflat, hle, hfull⟩ :=
    follow_fetchLogPage query limit hlen (Nat.lt_succ_self _)
  refine ⟨pages, hpages, ?_, hle, hfull⟩
  rw [hflat]
  exact RunPaging.newestFirst_stable _ _

theorem log_pages_partition_one :
    let entry : LogEntry := ⟨"a", 5, "c", .info, "m"⟩
    ∃ pages, RunPaging.follow (fetchLogPage [entry, entry] none 1) 3 none = some pages ∧
      RunPaging.StableNewestFirst LogEntry.timestamp
        ([entry, entry].filter (matchesQuery LogEntry.message none)) pages.flatten ∧
      (∀ page ∈ pages, page.length ≤ clampLimit 1) ∧
      ∀ page ∈ pages.dropLast, page.length = clampLimit 1 :=
  log_pages_partition [⟨"a", 5, "c", .info, "m"⟩, ⟨"a", 5, "c", .info, "m"⟩] none 1 (by decide)

end DockerMap
