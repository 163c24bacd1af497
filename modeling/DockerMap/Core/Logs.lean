import DockerMap.Core.Models
import DockerMap.Lib.RunPaging
import DockerMap.Lib.Text

/-! Log cursors, the page function and the timestamp parser. -/

namespace DockerMap

def maxLogPageSize : ℕ := 500

def defaultLogPageSize : ℕ := 100

/-- `usize` is 64 bits wide. -/
def usizeBound : ℕ := 2 ^ 64

def u64Bound : ℕ := 2 ^ 64

def parseU64 (value : List Char) : Option U64 :=
  (Text.parseUnsigned u64Bound value).bind fun n => if h : n < u64Bound then some ⟨n, h⟩ else none

theorem parseU64_toDigits (n : U64) : parseU64 (Nat.toDigits 10 n.val) = some n := by
  have hlt : n.val < u64Bound := n.isLt
  rw [parseU64, Text.parseUnsigned_toDigits hlt, Option.bind_some, dif_pos hlt]

structure LogCursor where
  millis : U64
  offset : ℕ
  deriving DecidableEq

def LogCursor.parse (value : String) : Option LogCursor :=
  let (millis, offset) := (Text.splitOnce ':' value.toList).getD (value.toList, [])
  match parseU64 millis with
  | none => none
  | some millis =>
      if offset = [] then some ⟨millis, 0⟩
      else (Text.parseUnsigned usizeBound offset).map fun offset => ⟨millis, offset⟩

def LogCursor.toText (cursor : LogCursor) : String :=
  toString cursor.millis.val ++ ":" ++ toString cursor.offset

theorem LogCursor.parse_toText {cursor : LogCursor} (h : cursor.offset < usizeBound) :
    LogCursor.parse cursor.toText = some cursor := by
  have htext : cursor.toText.toList =
      Nat.toDigits 10 cursor.millis.val ++ ':' :: Nat.toDigits 10 cursor.offset := by
    simp [toText]
  have hcolon : ':' ∉ Nat.toDigits 10 cursor.millis.val := Text.not_mem_toDigits (by decide) _
  simp only [parse, htext, Text.splitOnce_append hcolon, Option.getD_some, parseU64_toDigits,
    Nat.toDigits_ne_nil, if_false, Text.parseUnsigned_toDigits h, Option.map_some]

/-! Pages

The page function reads an entry only through its timestamp and its message; the
entry type is a parameter so that a line can carry its position in the log. -/

section page

variable {α : Type*} (timestamp : α → U64) (message : α → String)

def clampLimit (limit : ℕ) : ℕ := max 1 (min limit maxLogPageSize)

def toAsciiLowercase (value : String) : List Char := Text.asciiLower value.toList

def matchesQuery (query : Option String) (entry : α) : Bool :=
  match query.map toAsciiLowercase with
  | none => true
  | some needle => Text.contains (toAsciiLowercase (message entry)) needle

/-- The stateful filter of a cursor; the counter is `same_timestamp_seen`. -/
def afterCursor (cursor : LogCursor) : ℕ → List α → List α
  | _, [] => []
  | seen, entry :: entries =>
      if timestamp entry < cursor.millis then entry :: afterCursor cursor seen entries
      else if cursor.millis < timestamp entry then afterCursor cursor seen entries
      else if cursor.offset ≤ seen then entry :: afterCursor cursor (seen + 1) entries
      else afterCursor cursor (seen + 1) entries

/-- The sorted entries a request starts from. -/
def resumeEntries (cursor : Option LogCursor) (entries : List α) : List α :=
  match cursor with
  | some cursor => afterCursor timestamp cursor 0 entries
  | none => entries

def pageEntries (entries : List α) (query : Option String) (cursor : Option LogCursor)
    (limit : ℕ) : List α × Option String :=
  let limit := clampLimit limit
  let entries := entries.filter (matchesQuery message query)
  let entries := RunPaging.newestFirst timestamp entries
  let entries := resumeEntries timestamp cursor entries
  let nextCursor :=
    if h : limit < entries.length then
      let boundary := timestamp entries[limit - 1]
      let firstAtBoundary :=
        ((entries.take limit).findIdx? fun entry => timestamp entry = boundary).getD (limit - 1)
      let previouslyEmitted :=
        ((cursor.filter fun cursor => cursor.millis = boundary).map LogCursor.offset).getD 0
      some (LogCursor.toText ⟨boundary, previouslyEmitted + limit - firstAtBoundary⟩)
    else none
  (entries.take limit, nextCursor)

theorem one_le_clampLimit (limit : ℕ) : 1 ≤ clampLimit limit := le_max_left _ _

def LogCursor.pair (cursor : LogCursor) : U64 × ℕ := (cursor.millis, cursor.offset)

theorem afterCursor_eq_resume (cursor : LogCursor) (seen : ℕ) (entries : List α) :
    afterCursor timestamp cursor seen entries =
      RunPaging.resume timestamp cursor.millis cursor.offset seen entries := by
  induction entries generalizing seen with
  | nil => rfl
  | cons entry entries ih => simp only [afterCursor, RunPaging.resume, ih]

theorem previouslyEmitted_pair (cursor : Option LogCursor) (boundary : U64) :
    ((cursor.filter fun cursor => cursor.millis = boundary).map LogCursor.offset).getD 0 =
      RunPaging.previouslyEmitted (cursor.map LogCursor.pair) boundary := by
  cases cursor with
  | none => rfl
  | some cursor =>
    by_cases h : cursor.millis = boundary <;>
      simp [RunPaging.previouslyEmitted, Option.filter, LogCursor.pair, h]

/-- What the page function does from a position of its sorted list: the last page, or a
full page whose cursor stands behind it. -/
theorem pageEntries_step (entries : List α) (query : Option String) (cursor : Option LogCursor)
    (limit : ℕ) {l : List α} {p : ℕ} (hl : RunPaging.Descending timestamp l)
    (hdrop : resumeEntries timestamp cursor
      (RunPaging.newestFirst timestamp (entries.filter (matchesQuery message query))) = l.drop p)
    (hacc : RunPaging.Accounts timestamp l p (cursor.map LogCursor.pair)) :
    (l.length ≤ p + clampLimit limit ∧
      pageEntries timestamp message entries query cursor limit =
        ((l.drop p).take (clampLimit limit), none)) ∨
    (p + clampLimit limit < l.length ∧ ∃ next : LogCursor,
      pageEntries timestamp message entries query cursor limit =
        ((l.drop p).take (clampLimit limit), some next.toText) ∧
      RunPaging.Marks timestamp l (p + clampLimit limit) next.millis next.offset ∧
      ∃ a ∈ (l.drop p).take (clampLimit limit), timestamp a = next.millis) := by
  have hpos := one_le_clampLimit limit
  simp only [pageEntries, hdrop]
  by_cases hmore : clampLimit limit < (l.drop p).length
  · right
    have hlen : p + clampLimit limit < l.length := by
      rw [List.length_drop] at hmore; omega
    refine ⟨hlen, ?_⟩
    have hmarks := RunPaging.pageCursor_marks timestamp hl hpos hlen hacc
    set next := RunPaging.pageCursor timestamp (clampLimit limit) (cursor.map LogCursor.pair)
      ((l.drop p).take (clampLimit limit)) l[p + clampLimit limit - 1] with hnext
    refine ⟨⟨next.1, next.2⟩, ?_, hmarks, ?_⟩
    · rw [dif_pos hmore]
      simp only [previouslyEmitted_pair, List.getElem_drop, hnext, RunPaging.pageCursor,
        Nat.add_sub_assoc hpos]
    · refine ⟨(l.drop p)[clampLimit limit - 1], ?_, ?_⟩
      · exact List.mem_take_iff_getElem.2 ⟨clampLimit limit - 1, by omega, rfl⟩
      · simp only [List.getElem_drop, hnext, RunPaging.pageCursor, Nat.add_sub_assoc hpos]
  · left
    rw [dif_neg hmore]
    rw [List.length_drop] at hmore
    exact ⟨by omega, rfl⟩

theorem afterCursor_map {β : Type*} (f : β → α) (cursor : LogCursor) (seen : ℕ)
    (entries : List β) :
    afterCursor timestamp cursor seen (entries.map f) =
      (afterCursor (timestamp ∘ f) cursor seen entries).map f := by
  induction entries generalizing seen with
  | nil => rfl
  | cons entry entries ih =>
    simp only [List.map_cons, afterCursor, ih, Function.comp_apply]
    split_ifs <;> rfl

/-- A page is read off the timestamps and messages alone. -/
theorem pageEntries_map {β : Type*} (f : β → α) (entries : List β) (query : Option String)
    (cursor : Option LogCursor) (limit : ℕ) :
    pageEntries timestamp message (entries.map f) query cursor limit =
      ((pageEntries (timestamp ∘ f) (message ∘ f) entries query cursor limit).1.map f,
        (pageEntries (timestamp ∘ f) (message ∘ f) entries query cursor limit).2) := by
  have hfilter : (entries.map f).filter (matchesQuery message query) =
      (entries.filter (matchesQuery (message ∘ f) query)).map f := by
    rw [List.filter_map]
    rfl
  have hresume (l : List β) : resumeEntries timestamp cursor (l.map f) =
      (resumeEntries (timestamp ∘ f) cursor l).map f := by
    cases cursor with
    | none => rfl
    | some cursor => exact afterCursor_map timestamp f cursor 0 l
  simp only [pageEntries, hfilter, RunPaging.newestFirst_map, hresume, List.length_map,
    List.getElem_map, ← List.map_take, List.findIdx?_map]
  rfl

theorem clampLimit_clampLimit (limit : ℕ) : clampLimit (clampLimit limit) = clampLimit limit := by
  have : 1 ≤ maxLogPageSize := by decide
  unfold clampLimit
  omega

theorem pageEntries_clampLimit (entries : List α) (query : Option String)
    (cursor : Option LogCursor) (limit : ℕ) :
    pageEntries timestamp message entries query cursor (clampLimit limit) =
      pageEntries timestamp message entries query cursor limit := by
  simp only [pageEntries, clampLimit_clampLimit]

end page

def pageLogEntries (entries : List LogEntry) (query : Option String)
    (cursor : Option LogCursor) (limit : ℕ) : List LogEntry × Option String :=
  pageEntries LogEntry.timestamp LogEntry.message entries query cursor limit

/-! Timestamps -/

/-- Days since the Unix epoch of a proleptic Gregorian date. -/
def daysFromCivil (year month day : ℕ) : Option ℤ :=
  if (1 ≤ month ∧ month ≤ 12) ∧ 1 ≤ day ∧ day ≤ 31 then
    let adjustedYear : ℤ := year - if month ≤ 2 then 1 else 0
    let era : ℤ := (if 0 ≤ adjustedYear then adjustedYear else adjustedYear - 399).tdiv 400
    let yearOfEra := adjustedYear - era * 400
    let monthAdjusted : ℤ := month + if 2 < month then -3 else 9
    let dayOfYear := (153 * monthAdjusted + 2).tdiv 5 + day - 1
    let dayOfEra := yearOfEra * 365 + yearOfEra.tdiv 4 - yearOfEra.tdiv 100 + dayOfYear
    some (era * 146097 + dayOfEra - 719468)
  else none

def digitAt (bytes : List UInt8) (index : ℕ) : Option ℕ :=
  match bytes[index]? with
  | some byte => if 48 ≤ byte ∧ byte ≤ 57 then some (byte.toNat - 48) else none
  | none => none

/-- The digits after the decimal point, truncated to milliseconds. -/
def fractionMillis (bytes : List UInt8) : Option ℕ :=
  if bytes[19]? = some 46 then
    let digits := (bytes.drop 20).takeWhile fun byte => 48 ≤ byte && byte ≤ 57
    if digits = [] then none
    else
      let value index := ((digits[index]?).map fun byte => byte.toNat - 48).getD 0
      some (value 0 * 100 + value 1 * 10 + value 2)
  else some 0

def parseRfc3339NanoMillis (value : String) : Option U64 := do
  let bytes := value.toUTF8.data.toList
  if bytes.length < 20 ∨ bytes.getLast? ≠ some 90 then none
  let digit := digitAt bytes
  let year := 1000 * (← digit 0) + 100 * (← digit 1) + 10 * (← digit 2) + (← digit 3)
  let month := 10 * (← digit 5) + (← digit 6)
  let day := 10 * (← digit 8) + (← digit 9)
  let hour := 10 * (← digit 11) + (← digit 12)
  let minute := 10 * (← digit 14) + (← digit 15)
  let second := 10 * (← digit 17) + (← digit 18)
  if bytes[4]? ≠ some 45 ∨ bytes[7]? ≠ some 45 ∨ bytes[10]? ≠ some 84 ∨ bytes[13]? ≠ some 58 ∨
      bytes[16]? ≠ some 58 then none
  if ¬(1 ≤ month ∧ month ≤ 12) ∨ ¬(1 ≤ day ∧ day ≤ 31) ∨ 23 < hour ∨ 59 < minute ∨
      60 < second then none
  let fraction ← fractionMillis bytes
  let days ← daysFromCivil year month day
  let seconds : ℤ := days * 86400 + hour * 3600 + minute * 60 + second
  if seconds < 0 then none
  let millis := seconds.toNat * 1000 + fraction
  if h : millis < 2 ^ 64 then some ⟨millis, h⟩ else none

example : (parseRfc3339NanoMillis "2026-08-20T04:05:06.123456789Z").map Fin.val =
    some 1787198706123 := by decide

end DockerMap
