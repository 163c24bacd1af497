import DockerMap.Api.Publication
import DockerMap.Proofs.LogPaging

/-! The daemon's page function and the Node API's. Both filter, sort and cut the same
way; they differ in the case folding of the query filter, and a cursor number beyond
`u64` is a parse error on one side and a binary64 value on the other. -/

namespace DockerMap

/-- The numbers of the cursor are `u64` and `usize` values. -/
def cursorFits (cursor : String) : Bool :=
  Nat.ofDigitChars 10 (Api.cursorParts cursor).1 0 < u64Bound &&
    Nat.ofDigitChars 10 (Api.cursorParts cursor).2 0 < usizeBound

def nodeLogPage (toLowerCase : String → String) (entries : List LogEntry)
    (query cursor : Option String) (limit : ℕ) : List LogEntry × Option String :=
  let response := Api.publishLogsResponse toLowerCase none entries query cursor limit
  (response.entries, response.nextCursor)

def PagesAgree (toLowerCase : String → String) (entries : List LogEntry)
    (query cursor : Option String) (limit : ℕ) : Prop :=
  fetchLogPage entries query limit cursor =
    some (nodeLogPage toLowerCase entries query cursor limit)

/-! Cursor texts -/

/-- An accepted cursor is one or two digit strings. -/
theorem accepted_parts {cursor : String} (h : Api.acceptedCursor cursor = true) :
    ∃ millis : List Char, millis ≠ [] ∧ millis.all Char.isDigit = true ∧
      ((cursor.toList = millis ∧ Api.cursorParts cursor = (millis, ['0'])) ∨
        ∃ offset : List Char, offset ≠ [] ∧ offset.all Char.isDigit = true ∧
          cursor.toList = millis ++ ':' :: offset ∧ Api.cursorParts cursor = (millis, offset)) := by
  have hsplit := List.takeWhile_append_dropWhile (p := Char.isDigit) (l := cursor.toList)
  have hall : (cursor.toList.takeWhile Char.isDigit).all Char.isDigit = true := by
    rw [List.all_eq_true]
    exact fun c hc => List.mem_takeWhile_imp hc
  have hcolon (digits : List Char) (hd : digits.all Char.isDigit = true) :
      ∀ c ∈ digits, (c == ':') = false := by
    intro c hc
    have := List.all_eq_true.1 hd c hc
    rw [beq_eq_false_iff_ne]
    rintro rfl
    simp [Char.isDigit] at this
  simp only [Api.acceptedCursor, Bool.and_eq_true, decide_eq_true_eq] at h
  obtain ⟨⟨-, hne⟩, hrest⟩ := h
  set millis := cursor.toList.takeWhile Char.isDigit
  refine ⟨millis, hne, hall, ?_⟩
  revert hrest hsplit
  cases cursor.toList.dropWhile Char.isDigit with
  | nil =>
    intro _ hsplit
    left
    rw [List.append_nil] at hsplit
    refine ⟨hsplit.symm, ?_⟩
    rw [Api.cursorParts, ← hsplit, List.splitOnP_eq_singleton (hcolon millis hall)]
    rfl
  | cons c offset =>
    intro hrest hsplit
    right
    by_cases hc : c = ':'
    · subst hc
      simp only [Bool.and_eq_true, decide_eq_true_eq] at hrest
      refine ⟨offset, hrest.1, hrest.2, hsplit.symm, ?_⟩
      rw [Api.cursorParts, ← hsplit, List.splitOnP_append_cons _ _ (by decide),
        List.splitOnP_eq_singleton (hcolon millis hall),
        List.splitOnP_eq_singleton (hcolon offset hrest.2)]
      rfl
    · exact absurd hrest (by simp [hc])

theorem parseU64_of_digits {l : List Char} (hne : l ≠ []) (h : l.all Char.isDigit) :
    parseU64 l = if h : Nat.ofDigitChars 10 l 0 < u64Bound then
      some ⟨Nat.ofDigitChars 10 l 0, h⟩ else none := by
  rw [parseU64, Text.parseUnsigned_of_digits hne h]
  by_cases hlt : Nat.ofDigitChars 10 l 0 < u64Bound
  · rw [if_pos hlt, dif_pos hlt, Option.bind_some, dif_pos hlt]
  · rw [if_neg hlt, dif_neg hlt, Option.bind_none]

/-- An accepted cursor parses exactly when its numbers fit. -/
theorem parse_accepted {cursor : String} (h : Api.acceptedCursor cursor = true) :
    if cursorFits cursor then ∃ parsed, LogCursor.parse cursor = some parsed ∧
      parsed.millis.val = Nat.ofDigitChars 10 (Api.cursorParts cursor).1 0 ∧
      parsed.offset = Nat.ofDigitChars 10 (Api.cursorParts cursor).2 0
    else LogCursor.parse cursor = none := by
  obtain ⟨millis, hne, hdigits, htext⟩ := accepted_parts h
  have hcolon : ':' ∉ millis := fun hin => by
    simpa [Char.isDigit] using List.all_eq_true.1 hdigits _ hin
  rcases htext with ⟨htext, hparts⟩ | ⟨offset, hone, hodigits, htext, hparts⟩
  · have hzero : Nat.ofDigitChars 10 ['0'] 0 = 0 := rfl
    have hbound : 0 < usizeBound := by decide
    by_cases hlt : Nat.ofDigitChars 10 millis 0 < u64Bound
    · simp [cursorFits, hparts, hzero, hbound, hlt, LogCursor.parse, htext,
        Text.splitOnce_eq_none hcolon, parseU64_of_digits hne hdigits]
    · simp [cursorFits, hparts, hlt, LogCursor.parse, htext, Text.splitOnce_eq_none hcolon,
        parseU64_of_digits hne hdigits]
  · by_cases hlt : Nat.ofDigitChars 10 millis 0 < u64Bound
    · by_cases hlt' : Nat.ofDigitChars 10 offset 0 < usizeBound
      · simp [cursorFits, hparts, hlt, hlt', LogCursor.parse, htext,
          Text.splitOnce_append hcolon, parseU64_of_digits hne hdigits, hone,
          Text.parseUnsigned_of_digits hone hodigits]
      · simp [cursorFits, hparts, hlt, hlt', LogCursor.parse, htext,
          Text.splitOnce_append hcolon, parseU64_of_digits hne hdigits, hone,
          Text.parseUnsigned_of_digits hone hodigits]
    · simp [cursorFits, hparts, hlt, LogCursor.parse, htext, Text.splitOnce_append hcolon,
        parseU64_of_digits hne hdigits]

/-! Pages -/

/-- The query filter is the only place the page function reads the query. -/
theorem pageEntries_filter {α : Type*} (timestamp : α → U64) (message : α → String)
    (entries : List α) (query : Option String) (cursor : Option LogCursor) (limit : ℕ) :
    pageEntries timestamp message entries query cursor limit =
      pageEntries timestamp message (entries.filter (matchesQuery message query)) none cursor
        limit := by
  have hnone : (entries.filter (matchesQuery message query)).filter (matchesQuery message none) =
      entries.filter (matchesQuery message query) := List.filter_eq_self.2 fun _ _ => rfl
  simp only [pageEntries, hnone]

/-- The entries the contract type of the Node API can hold. -/
structure NodeEntries (toLowerCase : String → String) (entries : List LogEntry) : Prop where
  sanitized : ∀ entry ∈ entries, Api.publishLogEntry toLowerCase entry = entry
  timestamp_lt : ∀ entry ∈ entries, entry.timestamp.val < 2 ^ 53
  length_lt : entries.length < 2 ^ 32

theorem node_afterCursor {cursor : LogCursor} {seen : ℕ} {l : List LogEntry}
    (hts : ∀ entry ∈ l, entry.timestamp.val < Binary64.exactBound)
    (hlen : seen + l.length < Binary64.exactBound) :
    Api.afterCursor (Binary64.ofNat cursor.millis.val) (Binary64.ofNat cursor.offset) seen l =
      afterCursor LogEntry.timestamp cursor seen l := by
  induction l generalizing seen with
  | nil => rfl
  | cons entry l ih =>
    rw [List.length_cons] at hlen
    have hentry := hts entry List.mem_cons_self
    have ih (seen : ℕ) (h : seen + l.length < Binary64.exactBound) :=
      ih (fun other hother => hts other (List.mem_cons_of_mem _ hother)) h
    simp only [Api.afterCursor, afterCursor, Binary64.lt_ofNat_iff hentry,
      Binary64.ofNat_lt_iff hentry, Binary64.ofNat_le_iff (show seen < _ by omega), Fin.lt_def,
      ih seen (by omega), ih (seen + 1) (by omega)]

/-- An entry of the cursor's own millisecond is kept only behind the offset. -/
theorem offset_lt_of_mem_afterCursor {cursor : LogCursor} {seen : ℕ} {l : List LogEntry}
    {entry : LogEntry} (h : entry ∈ afterCursor LogEntry.timestamp cursor seen l)
    (heq : entry.timestamp = cursor.millis) : cursor.offset < seen + l.length := by
  induction l generalizing seen with
  | nil => simp [afterCursor] at h
  | cons head l ih =>
    rw [List.length_cons]
    unfold afterCursor at h
    split_ifs at h with h1 h2 h3
    · rcases List.mem_cons.1 h with rfl | h
      · exact absurd h1 (heq ▸ lt_irrefl _)
      · have := ih h
        omega
    · have := ih h
      omega
    · omega
    · have := ih h
      omega

/-- What the Node API reads off a cursor text are the numbers of the parsed cursor. -/
def ReadAs (text : Option String) : Option LogCursor → Prop
  | none => text = none
  | some cursor => ∃ value, text = some value ∧
      Api.number (Api.cursorParts value).1 = Binary64.ofNat cursor.millis.val ∧
      Api.number (Api.cursorParts value).2 = Binary64.ofNat cursor.offset

/-- The cursor the Node API computes behind a full page. -/
theorem node_previouslyEmitted {text : Option String} {cursor : Option LogCursor}
    {boundary : U64} (hts : boundary.val < Binary64.exactBound) (hread : ReadAs text cursor)
    (hoff : ∀ c, cursor = some c → c.millis = boundary → c.offset < Binary64.exactBound) :
    (if Api.number (Api.cursorParts (text.getD "")).1 = boundary.val then
        Api.number (Api.cursorParts (text.getD "")).2 else 0) =
      ((cursor.filter fun cursor => cursor.millis = boundary).map LogCursor.offset).getD 0 := by
  cases cursor with
  | none =>
    obtain rfl := hread
    have hzero : Api.number (Api.cursorParts "").2 = 0 := by decide
    simp [hzero]
  | some cursor =>
    obtain ⟨value, rfl, h1, h2⟩ := hread
    rw [Option.getD_some, h1, h2]
    by_cases hm : cursor.millis = boundary
    · rw [hm, Binary64.ofNat_of_lt hts, if_pos rfl, Binary64.ofNat_of_lt (hoff cursor rfl hm)]
      simp [Option.filter, hm]
    · have : Binary64.ofNat cursor.millis.val ≠ boundary.val := by
        rw [ne_eq, Binary64.ofNat_eq_iff hts]
        exact fun h => hm (Fin.ext h)
      simp [this, Option.filter, hm]

theorem node_resumeEntries {text : Option String} {cursor : Option LogCursor}
    {l : List LogEntry} (hread : ReadAs text cursor)
    (hts : ∀ entry ∈ l, entry.timestamp.val < Binary64.exactBound)
    (hlen : l.length < Binary64.exactBound) :
    Api.resumeEntries text l = resumeEntries LogEntry.timestamp cursor l := by
  cases cursor with
  | none =>
    obtain rfl := hread
    rfl
  | some cursor =>
    obtain ⟨value, rfl, h1, h2⟩ := hread
    simp only [Api.resumeEntries, resumeEntries, h1, h2]
    exact node_afterCursor hts (by omega)

theorem resumeEntries_subset {cursor : Option LogCursor} {l : List LogEntry} {entry : LogEntry}
    (h : entry ∈ resumeEntries LogEntry.timestamp cursor l) : entry ∈ l := by
  cases cursor with
  | none => exact h
  | some cursor =>
    simp only [resumeEntries, afterCursor_eq_resume] at h
    exact (RunPaging.resume_sublist _ _ _ _ _).subset h

theorem getLast?_take {α : Type*} {l : List α} {n : ℕ} (hn : 1 ≤ n) (h : n < l.length) :
    (l.take n).getLast? = some l[n - 1] := by
  rw [List.getLast?_eq_getElem?, List.length_take, Nat.min_eq_left h.le,
    List.getElem?_take_of_lt (by omega), List.getElem?_eq_getElem (by omega)]

theorem nodeLogPage_eq {toLowerCase : String → String} {entries : List LogEntry}
    (h : NodeEntries toLowerCase entries) (query : Option String) {text : Option String}
    (cursor : Option LogCursor) (limit : ℕ) (hread : ReadAs text cursor) :
    nodeLogPage toLowerCase entries query text limit =
      pageLogEntries (entries.filter (Api.matchesQuery toLowerCase query)) none cursor limit := by
  have hexact : 2 ^ 32 ≤ Binary64.exactBound := by decide
  have hsafe : entries.map (Api.publishLogEntry toLowerCase) = entries :=
    (List.map_congr_left h.sanitized).trans (List.map_id' _)
  have hall : entries.filter (fun entry =>
      (none : Option String).all fun service => entry.container == service) = entries :=
    List.filter_eq_self.2 fun _ _ => rfl
  set filtered := entries.filter (Api.matchesQuery toLowerCase query) with hfiltered
  have hnone : filtered.filter (matchesQuery LogEntry.message none) = filtered :=
    List.filter_eq_self.2 fun _ _ => rfl
  set sorted := RunPaging.newestFirst LogEntry.timestamp filtered with hsorted
  have hmem : ∀ entry ∈ sorted, entry.timestamp.val < Binary64.exactBound := fun entry hentry =>
    h.timestamp_lt entry (List.mem_of_mem_filter
      ((RunPaging.perm_newestFirst _ _).mem_iff.1 hentry))
  have hlen : sorted.length < Binary64.exactBound :=
    (((RunPaging.perm_newestFirst _ _).length_eq.trans_le (List.length_filter_le _ _)).trans_lt
      h.length_lt).trans_le hexact
  have hnode := node_resumeEntries hread hmem hlen
  have hpos := one_le_clampLimit limit
  have hclamp : max 1 (min 500 limit) = clampLimit limit := by
    rw [clampLimit, maxLogPageSize, Nat.min_comm]
  simp only [nodeLogPage, Api.publishLogsResponse, hsafe, Option.map_none, hall, ← hfiltered,
    ← hsorted, hnode, hclamp, pageLogEntries, pageEntries, hnone]
  set rest := resumeEntries LogEntry.timestamp cursor sorted with hrest
  by_cases hmore : clampLimit limit < rest.length
  · have hlast : rest[clampLimit limit - 1] ∈ rest := List.getElem_mem _
    have hoff : ∀ c, cursor = some c → c.millis = rest[clampLimit limit - 1].timestamp →
        c.offset < Binary64.exactBound := by
      rintro c rfl hm
      have := offset_lt_of_mem_afterCursor hlast hm.symm
      omega
    -- the boundary entry itself is found
    obtain ⟨i, hi⟩ : ∃ i, (rest.take (clampLimit limit)).findIdx?
        (fun entry => entry.timestamp = rest[clampLimit limit - 1].timestamp) = some i := by
      rw [← Option.isSome_iff_exists, List.findIdx?_isSome, List.any_eq_true]
      refine ⟨rest[clampLimit limit - 1], ?_, by simp⟩
      exact List.mem_take_iff_getElem.2 ⟨clampLimit limit - 1, by omega, rfl⟩
    have hprev := node_previouslyEmitted (hmem _ (resumeEntries_subset hlast)) hread hoff
    rw [getLast?_take hpos hmore, dif_pos hmore]
    simp only [← hrest, if_pos hmore, hi, Option.getD_some, List.length_take, Nat.min_eq_left hmore.le,
      hprev, LogCursor.toText]
  · rw [dif_neg hmore]
    cases (rest.take (clampLimit limit)).getLast? with
    | none => rfl
    | some boundary => simp only [← hrest, if_neg hmore]

/-! The two chains -/

theorem readAs_of_accepted {text : String} (h : Api.acceptedCursor text = true)
    (hfits : cursorFits text = true) : ∃ parsed, LogCursor.parse text = some parsed ∧
      ReadAs (some text) (some parsed) := by
  have hparse := parse_accepted h
  rw [if_pos hfits] at hparse
  obtain ⟨parsed, hparse, h1, h2⟩ := hparse
  exact ⟨parsed, hparse, text, rfl, by rw [h1, Api.number], by rw [h2, Api.number]⟩

/-- What both sides receive: no cursor, or one the contract lets through. -/
def Accepted (cursor : Option String) : Prop := ∀ text ∈ cursor, Api.acceptedCursor text = true

def Fits (cursor : Option String) : Prop := ∀ text ∈ cursor, cursorFits text = true

/-- On a cursor that fits, the Node page is the daemon's page of what Node filtered. -/
theorem nodeLogPage_eq_fetch {toLowerCase : String → String} {entries : List LogEntry}
    (h : NodeEntries toLowerCase entries) (query : Option String) {cursor : Option String}
    (limit : ℕ) (hacc : Accepted cursor) (hfits : Fits cursor) :
    some (nodeLogPage toLowerCase entries query cursor limit) =
      fetchLogPage (entries.filter (Api.matchesQuery toLowerCase query)) none limit cursor := by
  cases cursor with
  | none => exact congrArg some (nodeLogPage_eq h query none limit rfl)
  | some text =>
    obtain ⟨parsed, hparse, hread⟩ := readAs_of_accepted (hacc text rfl) (hfits text rfl)
    rw [fetchLogPage, hparse, Option.map_some, nodeLogPage_eq h query _ limit hread]

theorem fetchLogPage_filter (entries : List LogEntry) (query : Option String) (limit : ℕ)
    (cursor : Option String) : fetchLogPage entries query limit cursor =
      fetchLogPage (entries.filter (matchesQuery LogEntry.message query)) none limit cursor := by
  cases cursor with
  | none => exact congrArg some (pageEntries_filter ..)
  | some text =>
    simp only [fetchLogPage]
    exact congrArg (fun f => Option.map f _) (funext fun _ => pageEntries_filter ..)

theorem pagesAgree_iff_of_matches {toLowerCase : String → String} {entries : List LogEntry}
    (h : NodeEntries toLowerCase entries) {query : Option String}
    (hmatch : ∀ entry ∈ entries, matchesQuery LogEntry.message query entry =
      Api.matchesQuery toLowerCase query entry)
    {cursor : Option String} (limit : ℕ) (hacc : Accepted cursor) :
    PagesAgree toLowerCase entries query cursor limit ↔ Fits cursor := by
  constructor
  · rintro hagree text rfl
    by_contra hfits
    have hparse := parse_accepted (hacc text rfl)
    rw [if_neg hfits] at hparse
    simp [PagesAgree, fetchLogPage, hparse] at hagree
  · intro hfits
    rw [PagesAgree, nodeLogPage_eq_fetch h query limit hacc hfits, fetchLogPage_filter,
      List.filter_congr hmatch]

theorem accepted_toText {cursor : LogCursor} (hm : cursor.millis.val < 2 ^ 53)
    (ho : cursor.offset < 2 ^ 32) :
    Api.acceptedCursor cursor.toText = true ∧ cursorFits cursor.toText = true := by
  have htext : cursor.toText.toList =
      Nat.toDigits 10 cursor.millis.val ++ ':' :: Nat.toDigits 10 cursor.offset := by
    simp [LogCursor.toText]
  have hdigits (n : ℕ) : ∀ c ∈ Nat.toDigits 10 n, c.isDigit = true :=
    fun c hc => Nat.isDigit_of_mem_toDigits (by decide) (by decide) hc
  have hcolon (n : ℕ) : ∀ c ∈ Nat.toDigits 10 n, (c == ':') = false := by
    intro c hc
    rw [beq_eq_false_iff_ne]
    rintro rfl
    exact Text.not_mem_toDigits (by decide) n hc
  have hlen1 : (Nat.toDigits 10 cursor.millis.val).length ≤ 16 :=
    (Nat.length_toDigits_le_iff (by decide) (by decide)).2 (by omega)
  have hlen2 : (Nat.toDigits 10 cursor.offset).length ≤ 10 :=
    (Nat.length_toDigits_le_iff (by decide) (by decide)).2 (by omega)
  constructor
  · simp only [Api.acceptedCursor, htext, List.takeWhile_append_of_pos (hdigits _),
      List.dropWhile_append_of_pos (hdigits _)]
    have hstop : (':' : Char).isDigit = false := by decide
    simp only [List.takeWhile_cons, List.dropWhile_cons, hstop, Bool.false_eq_true, if_false,
      List.append_nil, Bool.and_eq_true, decide_eq_true_eq, List.length_append, List.length_cons,
      List.all_eq_true]
    exact ⟨⟨by omega, Nat.toDigits_ne_nil⟩, Nat.toDigits_ne_nil, hdigits _⟩
  · have hparts : Api.cursorParts cursor.toText =
        (Nat.toDigits 10 cursor.millis.val, Nat.toDigits 10 cursor.offset) := by
      rw [Api.cursorParts, htext, List.splitOnP_append_cons _ _ (by decide),
        List.splitOnP_eq_singleton (hcolon _), List.splitOnP_eq_singleton (hcolon _)]
      rfl
    have hm' : cursor.millis.val < u64Bound := cursor.millis.isLt
    have ho' : cursor.offset < usizeBound := ho.trans (by decide)
    simp [cursorFits, hparts, Nat.ofDigitChars_ten_toDigits, hm', ho']

/-- The cursors the daemon's chain meets. -/
def ChainCursor (l : List LogEntry) (cursor : Option String) : Prop :=
  Accepted cursor ∧ Fits cursor ∧ ∃ p, p ≤ l.length ∧ CursorAt l cursor p

theorem chainCursor_step {toLowerCase : String → String} {entries : List LogEntry}
    (h : NodeEntries toLowerCase entries) {query : Option String} {limit : ℕ}
    {cursor : Option String} {page : List LogEntry} {next : String}
    (hc : ChainCursor (RunPaging.newestFirst LogEntry.timestamp
      (entries.filter (matchesQuery LogEntry.message query))) cursor)
    (hpage : fetchLogPage entries query limit cursor = some (page, some next)) :
    ChainCursor (RunPaging.newestFirst LogEntry.timestamp
      (entries.filter (matchesQuery LogEntry.message query))) (some next) := by
  have hbound : 2 ^ 32 < usizeBound := by decide
  have hlen := (RunPaging.perm_newestFirst LogEntry.timestamp
    (entries.filter (matchesQuery LogEntry.message query))).length_eq.trans_le
      (List.length_filter_le _ _)
  obtain ⟨-, -, p, hp, hat⟩ := hc
  rcases fetchLogPage_step (h.length_lt.trans hbound) hat hp with
    ⟨-, hlast⟩ | ⟨hmore, parsed, hnext, hat', ho, a, ha, hm⟩
  · rw [hlast] at hpage
    simp at hpage
  · rw [hnext] at hpage
    obtain rfl := Option.some.inj (Prod.mk.inj (Option.some.inj hpage)).2
    have ha := List.mem_of_mem_filter ((RunPaging.perm_newestFirst _ _).mem_iff.1 ha)
    have hts := h.timestamp_lt a ha
    rw [hm] at hts
    obtain ⟨hacc, hfits⟩ := accepted_toText hts ((ho.trans hlen).trans_lt h.length_lt)
    exact ⟨fun text ht => Option.some.inj ht ▸ hacc, fun text ht => Option.some.inj ht ▸ hfits,
      _, hmore.le, hat'⟩

/-- If all pages agree, both chains hand out one list, so the filters agree. -/
theorem matches_of_pagesAgree {toLowerCase : String → String} {entries : List LogEntry}
    (h : NodeEntries toLowerCase entries) {query : Option String} (limit : ℕ)
    (hagree : ∀ cursor, Accepted cursor → Fits cursor →
      PagesAgree toLowerCase entries query cursor limit) :
    ∀ entry ∈ entries, matchesQuery LogEntry.message query entry =
      Api.matchesQuery toLowerCase query entry := by
  have hbound : 2 ^ 32 < usizeBound := by decide
  have hlen : entries.length < usizeBound := h.length_lt.trans hbound
  set node := entries.filter (Api.matchesQuery toLowerCase query) with hnode
  have hnlen : node.length ≤ entries.length := List.length_filter_le _ _
  -- every cursor of the daemon's chain is one both sides accept
  have hsame := RunPaging.follow_congr (fetchLogPage entries query limit)
    (fetchLogPage node none limit)
    (ChainCursor (RunPaging.newestFirst LogEntry.timestamp
      (entries.filter (matchesQuery LogEntry.message query))))
    (fun c hc => (hagree c hc.1 hc.2.1).trans (nodeLogPage_eq_fetch h query limit hc.1 hc.2.1))
    (fun c page c' hc hpage => chainCursor_step h hc hpage) (entries.length + 1) none
    ⟨fun _ ht => (nomatch ht), fun _ ht => (nomatch ht), 0, Nat.zero_le _, rfl⟩
  obtain ⟨pages, hpages, hflat, -, -⟩ :=
    follow_fetchLogPage query limit hlen (Nat.lt_succ_self entries.length)
  obtain ⟨pages', hpages', hflat', -, -⟩ :=
    follow_fetchLogPage none limit (hnlen.trans_lt hlen) (Nat.lt_succ_of_le hnlen)
  rw [hsame, hpages'] at hpages
  obtain rfl := Option.some.inj hpages
  have hnone : node.filter (matchesQuery LogEntry.message none) = node :=
    List.filter_eq_self.2 fun _ _ => rfl
  have heq := hflat.symm.trans hflat'
  rw [hnone] at heq
  intro entry hentry
  have hiff : entry ∈ entries.filter (matchesQuery LogEntry.message query) ↔ entry ∈ node := by
    rw [← (RunPaging.perm_newestFirst LogEntry.timestamp _).mem_iff, heq,
      (RunPaging.perm_newestFirst LogEntry.timestamp _).mem_iff]
  rw [List.mem_filter, hnode, List.mem_filter] at hiff
  simpa [hentry] using hiff

/-- The pages agree on all cursors that fit, and on no other, exactly when the two query
filters agree on every entry. -/
theorem log_paging_agrees_iff (toLowerCase : String → String) (entries : List LogEntry)
    (query : Option String) (h : NodeEntries toLowerCase entries) :
    (∀ cursor limit, Accepted cursor →
      (PagesAgree toLowerCase entries query cursor limit ↔ Fits cursor)) ↔
    ∀ entry ∈ entries, matchesQuery LogEntry.message query entry =
      Api.matchesQuery toLowerCase query entry := by
  constructor
  · intro hall
    exact matches_of_pagesAgree h 1 fun cursor hacc hfits => (hall cursor 1 hacc).2 hfits
  · intro hmatch cursor limit hacc
    exact pagesAgree_iff_of_matches h hmatch limit hacc

/-- Lower case of the Latin-1 letters. -/
def latinLower (value : String) : String :=
  String.ofList (value.toList.map fun c =>
    if ('A' ≤ c ∧ c ≤ 'Z') ∨ ('À' ≤ c ∧ c ≤ 'Þ' ∧ c ≠ '×') then Char.ofNat (c.toNat + 32) else c)

def accentEntry : LogEntry := ⟨"web-1-0000", 1, "web", .info, "é"⟩

theorem nodeEntries_accent : NodeEntries latinLower [accentEntry] :=
  ⟨by decide, by decide, by decide⟩

theorem log_paging_agrees_accent :
    (∀ cursor limit, Accepted cursor →
      (PagesAgree latinLower [accentEntry] (some "é") cursor limit ↔ Fits cursor)) ↔
    ∀ entry ∈ [accentEntry], matchesQuery LogEntry.message (some "é") entry =
      Api.matchesQuery latinLower (some "é") entry :=
  log_paging_agrees_iff latinLower [accentEntry] (some "é") nodeEntries_accent

/-- An upper-case accent finds its entry in the Node API and not in the daemon. -/
theorem log_paging_differs : NodeEntries latinLower [accentEntry] ∧
    ¬ PagesAgree latinLower [accentEntry] (some "É") none 100 :=
  ⟨nodeEntries_accent, by unfold PagesAgree; decide⟩

end DockerMap
