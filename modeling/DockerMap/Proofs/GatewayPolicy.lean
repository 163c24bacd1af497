import DockerMap.Gateway.Policy
import DockerMap.Lib.TextSearch

/-! The targets that the gateway lets through are three inventory reads and the log read of
one container, each in one spelling. -/

namespace DockerMap.Gateway

/-! The grammar -/

/-- A GET in origin form without any of the forbidden headers. -/
structure IsOriginGet (request : Request) : Prop where
  get : request.method = "GET"
  scheme : request.scheme = none
  authority : request.authority = none
  headers : ∀ name ∈ forbiddenHeaders, ∀ header ∈ request.headers, header.1 ≠ name

/-- The inventory reads, with the one filters parameter of the configured label. -/
def inventoryTargets : Option String → List String
  | none => ["/containers/json?all=true&size=false", "/networks?", "/volumes?"]
  | some label =>
      let filters := "filters=" ++ String.ofList (encodedFilters label)
      ["/containers/json?all=true&size=false&" ++ filters, "/networks?" ++ filters,
        "/volumes?" ++ filters]

/-- `[A-Za-z0-9][A-Za-z0-9_.-]{0,254}`. -/
def IsContainerName (name : List Char) : Prop :=
  ∃ c rest, name = c :: rest ∧ c.isAlphanum = true ∧ rest.length ≤ 254 ∧
    ∀ d ∈ rest, d.isAlphanum = true ∨ d ∈ ['_', '.', '-']

def logsTarget (name : String) (until_ : ℕ) : String :=
  "/containers/" ++ name ++ "/logs?follow=false&stdout=true&stderr=true&since=0&until=" ++
    Nat.repr until_ ++ "&timestamps=true&tail=4096"

/-! Container names -/

theorem name_ascii {d : Char} (h : d.isAlphanum = true ∨ d ∈ ['_', '.', '-']) : d.toNat < 128 := by
  rcases h with h | h
  · exact Text.ascii_of_isAlphanum h
  · revert d
    decide

theorem all_zipIdx_succ (l : List Char) (k : ℕ) :
    ((l.zipIdx (k + 1)).all fun (c, index) =>
      c.isAlphanum || (['_', '.', '-'].contains c && index ≠ 0)) = true ↔
      ∀ d ∈ l, d.isAlphanum = true ∨ d ∈ ['_', '.', '-'] := by
  induction l generalizing k with
  | nil => simp
  | cons c l ih =>
    rw [List.zipIdx_cons, List.all_cons, Bool.and_eq_true, ih, List.forall_mem_cons]
    simp

theorem validContainerName_iff {name : List Char} :
    validContainerName name = true ↔ IsContainerName name := by
  cases name with
  | nil => simp [validContainerName, IsContainerName]
  | cons c rest =>
    have hall := all_zipIdx_succ rest 0
    rw [validContainerName, List.zipIdx_cons, List.all_cons, Bool.and_eq_true, Bool.and_eq_true,
      Bool.and_eq_true, hall]
    constructor
    · rintro ⟨⟨-, hlength⟩, hfirst, hrest⟩
      have halpha : c.isAlphanum = true := by simpa using hfirst
      have hascii : ∀ d ∈ c :: rest, d.toNat < 128 :=
        List.forall_mem_cons.2 ⟨name_ascii (Or.inl halpha), fun d hd => name_ascii (hrest d hd)⟩
      rw [Text.byteLength_ascii hascii, List.length_cons, decide_eq_true_eq] at hlength
      exact ⟨c, rest, rfl, halpha, by omega, hrest⟩
    · rintro ⟨first, tail, heq, halpha, hlength, htail⟩
      cases heq
      have hascii : ∀ d ∈ c :: rest, d.toNat < 128 :=
        List.forall_mem_cons.2 ⟨name_ascii (Or.inl halpha), fun d hd => name_ascii (htail d hd)⟩
      refine ⟨⟨rfl, ?_⟩, by simp [halpha], htail⟩
      rw [Text.byteLength_ascii hascii, List.length_cons, decide_eq_true_eq]
      omega

theorem IsContainerName.not_mem {name : List Char} (h : IsContainerName name) {c : Char}
    (halpha : c.isAlphanum = false) (hmark : c ∉ ['_', '.', '-']) : c ∉ name := by
  obtain ⟨first, rest, rfl, hfirst, -, hrest⟩ := h
  rintro hmem
  rcases List.mem_cons.1 hmem with rfl | hmem
  · rw [hfirst] at halpha
    cases halpha
  · rcases hrest c hmem with h | h
    · rw [h] at halpha
      cases halpha
    · exact hmark h

/-! The log query -/

theorem isCanonicalUntil_iff {until_ : List Char} :
    isCanonicalUntil until_ = true ↔ ∃ n, until_ = Nat.toDigits 10 n := by
  rw [← Text.canonical_iff, isCanonicalUntil, Bool.or_eq_true, beq_iff_eq, Bool.and_eq_true,
    List.all_eq_true, Option.any_eq_true]
  refine or_congr_right (and_congr_left fun hdigits => ?_)
  constructor
  · rintro ⟨c, hc, hfirst⟩
    rw [Bool.and_eq_true, decide_eq_true_eq] at hfirst
    exact ⟨c, hc, hfirst.2⟩
  · rintro ⟨c, hc, hne⟩
    refine ⟨c, hc, ?_⟩
    rw [Bool.and_eq_true, decide_eq_true_eq]
    exact ⟨hdigits c (List.mem_of_head? hc), hne⟩

theorem stripBoth_eq_some {front back l middle : List Char} :
    stripBoth front back l = some middle ↔ l = front ++ middle ++ back := by
  rw [stripBoth]
  constructor
  · intro h
    split at h
    case isFalse => cases h
    case isTrue hfront =>
    obtain ⟨rest, rfl⟩ := hfront
    simp only [List.drop_left] at h
    split_ifs at h with hback
    obtain ⟨m, rfl⟩ := hback
    rw [List.length_append, Nat.add_sub_cancel, List.take_left, Option.some.injEq] at h
    rw [h, List.append_assoc]
  · rintro rfl
    rw [List.append_assoc, if_pos (List.prefix_append _ _), List.drop_left,
      if_pos (List.suffix_append _ _), List.length_append, Nat.add_sub_cancel, List.take_left]

def logsQuery (until_ : ℕ) : List Char :=
  logsPrefix.toList ++ Nat.toDigits 10 until_ ++ logsSuffix.toList

theorem not_mem_logsQuery {c : Char} (hdigit : c.isDigit = false)
    (hfront : c ∉ logsPrefix.toList) (hback : c ∉ logsSuffix.toList) (n : ℕ) :
    c ∉ logsQuery n := by
  rw [logsQuery, List.mem_append, List.mem_append, not_or, not_or]
  exact ⟨⟨hfront, Text.not_mem_toDigits hdigit n⟩, hback⟩

theorem count_logsQuery (n : ℕ) : (logsQuery n).count '&' = 6 := by
  have hdigits := List.count_eq_zero.2 (Text.not_mem_toDigits (c := '&') (by decide) n)
  rw [logsQuery, List.count_append, List.count_append, hdigits]
  decide

theorem containerName_logsPath (name : List Char) :
    containerName ("/containers/".toList ++ name ++ "/logs".toList) = some name := by
  have hlength : ("/containers/".toList ++ name ++ "/logs".toList).length - 5 = 12 + name.length := by
    have hfront : "/containers/".toList.length = 12 := rfl
    have hback : "/logs".toList.length = 5 := rfl
    rw [List.length_append, List.length_append]
    omega
  rw [containerName, hlength, if_pos (Nat.le_add_right ..), Nat.add_sub_cancel_left,
    List.append_assoc]
  have htake : (name ++ "/logs".toList).take name.length = name := List.take_left
  exact congrArg some htake

theorem containerName_eq_some {path name : List Char} (hfront : "/containers/".toList <+: path)
    (hback : "/logs".toList <:+ path) :
    containerName path = some name ↔ path = "/containers/".toList ++ name ++ "/logs".toList := by
  constructor
  · intro h
    obtain ⟨a, rfl⟩ := hback
    have hroom : 12 ≤ (a ++ "/logs".toList).length - 5 := by
      by_contra hshort
      rw [containerName, if_neg hshort] at h
      cases h
    have hlength : "/containers/".toList.length ≤ a.length := by
      rw [List.length_append] at hroom
      exact hroom
    obtain ⟨middle, rfl⟩ := List.prefix_of_prefix_length_le hfront (List.prefix_append a _) hlength
    rw [containerName_logsPath, Option.some.injEq] at h
    rw [h]
  · rintro rfl
    exact containerName_logsPath name

theorem logs_eq_allowed {target t : String} {path query : List Char}
    (hfront : "/containers/".toList <+: path) (hback : "/logs".toList <:+ path) :
    logs target path query = .allowed t ↔ t = target ∧ ∃ name n, IsContainerName name ∧
      path = "/containers/".toList ++ name ++ "/logs".toList ∧ query = logsQuery n := by
  constructor
  · intro h
    rw [logs] at h
    split at h
    case h_1 => cases h
    case h_2 name hname =>
    rw [containerName_eq_some hfront hback] at hname
    split_ifs at h with hvalid
    rw [Bool.not_eq_true, Bool.not_eq_false', validContainerName_iff] at hvalid
    split at h
    case h_1 => cases h
    case h_2 middle hmiddle =>
    split_ifs at h with huntil hshape
    cases h
    obtain ⟨n, rfl⟩ := isCanonicalUntil_iff.1 (by simpa using huntil)
    exact ⟨rfl, name, n, hvalid, hname, stripBoth_eq_some.1 hmiddle⟩
  · rintro ⟨rfl, name, n, hname, rfl, rfl⟩
    have hstrip : stripBoth logsPrefix.toList logsSuffix.toList (logsQuery n) =
        some (Nat.toDigits 10 n) := stripBoth_eq_some.2 rfl
    have huntil : isCanonicalUntil (Nat.toDigits 10 n) = true := isCanonicalUntil_iff.2 ⟨n, rfl⟩
    have hpercent := not_mem_logsQuery (c := '%') (by decide) (by decide) (by decide) n
    rw [logs, containerName_logsPath]
    simp [validContainerName_iff.2 hname, hstrip, huntil, hpercent, count_logsQuery]

/-! Inventory -/

def inventoryTarget (labelFilter : Option String) (base : String) : String :=
  match labelFilter with
  | none => base
  | some label =>
      base ++ (if base.toList.getLast? = some '?' then "" else "&") ++ "filters=" ++
        String.ofList (encodedFilters label)

theorem inventoryTargets_eq (labelFilter : Option String) : inventoryTargets labelFilter =
    ["/containers/json?all=true&size=false", "/networks?", "/volumes?"].map
      (inventoryTarget labelFilter) := by
  cases labelFilter with
  | none => rfl
  | some label =>
    simp [inventoryTargets, inventoryTarget, ← String.toList_inj]

theorem exact_target {target expected t : String} :
    (if target = expected then Verdict.allowed target else .denied .query) = .allowed t ↔
      t = target ∧ target = expected := by
  split_ifs with h
  · rw [Verdict.allowed.injEq, eq_comm, and_iff_left h]
  · simp [h]

theorem inventory_eq_allowed {policy : Policy} {target base t : String} :
    inventory policy target base = .allowed t ↔
      t = target ∧ target = inventoryTarget policy.labelFilter base := by
  unfold inventory inventoryTarget
  cases policy.labelFilter with
  | none => exact exact_target
  | some label => exact exact_target

theorem inventoryTarget_toList (labelFilter : Option String) (base : String) :
    ∃ filters, '?' ∉ filters ∧ (inventoryTarget labelFilter base).toList = base.toList ++ filters := by
  cases labelFilter with
  | none => exact ⟨[], List.not_mem_nil, by rw [List.append_nil]; rfl⟩
  | some label =>
    refine ⟨(if base.toList.getLast? = some '?' then "" else "&").toList ++ "filters=".toList ++
      encodedFilters label, ?_, by simp [inventoryTarget]⟩
    rw [List.mem_append, List.mem_append, not_or, not_or]
    refine ⟨⟨by split_ifs <;> decide, by decide⟩, fun h => ?_⟩
    have hplain := FormEncoding.mem_byteSerialize h
    revert hplain
    decide

/-! Paths -/

theorem segments_logsPath {name : List Char} (h : '/' ∉ name) :
    ("/containers/".toList ++ name ++ "/logs".toList).splitOnP (· == '/') =
      [[], "containers".toList, name, "logs".toList] := by
  have hname : ∀ c ∈ name, (c == '/') = false := fun c hc => beq_eq_false_iff_ne.2 fun heq =>
    h (heq ▸ hc)
  have hsplit : "/containers/".toList ++ name ++ "/logs".toList =
      '/' :: ("containers".toList ++ '/' :: (name ++ '/' :: "logs".toList)) := by simp
  have hslash : ('/' == '/') = true := rfl
  have hcons := List.splitOnP_append_cons (p := (· == '/')) []
    ("containers".toList ++ '/' :: (name ++ '/' :: "logs".toList)) hslash
  rw [List.nil_append] at hcons
  have hroot : "containers".toList.splitOnP (· == '/') = ["containers".toList] := by decide
  have hleaf : "logs".toList.splitOnP (· == '/') = ["logs".toList] := by decide
  rw [hsplit, hcons, List.splitOnP_append_cons _ _ rfl, List.splitOnP_append_cons _ _ rfl,
    List.splitOnP_eq_singleton hname, hroot, hleaf, List.splitOnP_nil]
  rfl

theorem mem_segments_of_enclosed {path t : List Char} (ht : '/' ∉ t) (h : '/' :: t ++ ['/'] <:+: path) :
    t ∈ path.splitOnP (· == '/') := by
  obtain ⟨a, b, rfl⟩ := h
  have hparts : a ++ ('/' :: t ++ ['/']) ++ b = (a ++ ['/']) ++ t ++ ('/' :: b) := by simp
  rw [hparts]
  exact Text.mem_splitOnP_of_parts (fun c hc => beq_eq_false_iff_ne.2 fun heq => ht (heq ▸ hc))
    (Text.endsAt_append_singleton.2 rfl) (Text.startsAt_cons.2 rfl)

theorem mem_segments_of_suffix {path t : List Char} (ht : '/' ∉ t) (h : '/' :: t <:+ path) :
    t ∈ path.splitOnP (· == '/') := by
  obtain ⟨a, rfl⟩ := h
  have hparts : a ++ '/' :: t = (a ++ ['/']) ++ t ++ [] := by simp
  rw [hparts]
  exact Text.mem_splitOnP_of_parts (fun c hc => beq_eq_false_iff_ne.2 fun heq => ht (heq ▸ hc))
    (Text.endsAt_append_singleton.2 rfl) (Text.startsAt_nil _)

/-- A rooted path without dot segments, escapes or a query mark. -/
structure IsPlainPath (path : List Char) : Prop where
  root : ∃ c rest, path = '/' :: c :: rest ∧ c ≠ '/'
  dot : ['.'] ∉ path.splitOnP (· == '/')
  dots : ['.', '.'] ∉ path.splitOnP (· == '/')
  question : '?' ∉ path
  percent : '%' ∉ path
  backslash : '\\' ∉ path

theorem IsPlainPath.not_suspicious {path query : List Char} (h : IsPlainPath path)
    (hquery : '?' ∉ query) : isSuspicious (path ++ '?' :: query) path = false := by
  have hcount : (path ++ '?' :: query).count '?' = 1 := by
    rw [List.count_append, List.count_cons_self, List.count_eq_zero.2 h.question,
      List.count_eq_zero.2 hquery]
  have h1 : ¬ "/./".toList <:+: path := fun hin => h.dot (mem_segments_of_enclosed (by decide) hin)
  have h2 : ¬ "/../".toList <:+: path := fun hin => h.dots (mem_segments_of_enclosed (by decide) hin)
  have h3 : ¬ "/.".toList <:+ path := fun hin => h.dot (mem_segments_of_suffix (by decide) hin)
  have h4 : ¬ "/..".toList <:+ path := fun hin => h.dots (mem_segments_of_suffix (by decide) hin)
  simp only [isSuspicious, Text.contains, h1, h2, h3, h4, decide_false, Bool.or_false, hcount,
    Bool.or_eq_false_iff, decide_eq_false_iff_not, List.contains_eq_mem]
  exact ⟨⟨lt_irrefl 1, h.percent⟩, h.backslash⟩

theorem isPlainPath_logs {name : List Char} (h : IsContainerName name) :
    IsPlainPath ("/containers/".toList ++ name ++ "/logs".toList) := by
  have hmem : ∀ c ∈ ['?', '%', '\\'], c ∉ "/containers/".toList ++ name ++ "/logs".toList := by
    intro c hc
    rw [List.mem_append, List.mem_append, not_or, not_or]
    have hfixed : ∀ c ∈ ['?', '%', '\\'], c.isAlphanum = false ∧ c ∉ ['_', '.', '-'] ∧
        c ∉ "/containers/".toList ∧ c ∉ "/logs".toList := by decide
    obtain ⟨halpha, hmark, hfront, hback⟩ := hfixed c hc
    exact ⟨⟨hfront, h.not_mem halpha hmark⟩, hback⟩
  have hsegments := segments_logsPath (h.not_mem (c := '/') (by decide) (by decide))
  have hdots : ∀ t ∈ [['.'], ['.', '.']],
      t ∉ ("/containers/".toList ++ name ++ "/logs".toList).splitOnP (· == '/') := by
    intro t ht hin
    obtain ⟨first, rest, rfl, hfirst, -⟩ := h
    rw [hsegments] at hin
    simp only [List.mem_cons, List.not_mem_nil, or_false] at ht hin
    rcases ht with rfl | rfl <;>
    · simp only [List.cons.injEq, reduceCtorEq, false_or] at hin
      rcases hin with hin | hin | hin
      · cases hin
      · obtain ⟨rfl, -⟩ := hin
        cases hfirst
      · cases hin
  exact {
    root := ⟨'c', "ontainers/".toList ++ name ++ "/logs".toList, rfl, by decide⟩
    dot := hdots _ (by simp)
    dots := hdots _ (by simp)
    question := hmem _ (by simp)
    percent := hmem _ (by simp)
    backslash := hmem _ (by simp) }

theorem isPlainPath_inventory : ∀ path ∈ ["/containers/json", "/networks", "/volumes"],
    IsPlainPath path.toList := by
  have hroot : ∀ path ∈ ["/containers/json", "/networks", "/volumes"],
      path.toList.head? = some '/' ∧ ∃ c ∈ path.toList.tail.head?, c ≠ '/' := by decide
  have hsegments : ∀ path ∈ ["/containers/json", "/networks", "/volumes"],
      ∀ t ∈ [['.'], ['.', '.']], t ∉ path.toList.splitOnP (· == '/') := by decide
  have hmarks : ∀ path ∈ ["/containers/json", "/networks", "/volumes"],
      ∀ c ∈ ['?', '%', '\\'], c ∉ path.toList := by decide
  intro path hpath
  obtain ⟨hslash, c, hc, hne⟩ := hroot path hpath
  obtain ⟨rest, hrest⟩ := List.head?_eq_some_iff.1 hslash
  rw [hrest, List.tail_cons] at hc
  obtain ⟨tail, rfl⟩ := List.head?_eq_some_iff.1 hc
  exact {
    root := ⟨c, tail, hrest, hne⟩
    dot := hsegments path hpath _ (by simp)
    dots := hsegments path hpath _ (by simp)
    question := hmarks path hpath _ (by simp)
    percent := hmarks path hpath _ (by simp)
    backslash := hmarks path hpath _ (by simp) }

/-! The accepted language -/

/-- The path and the query of an origin-form target. -/
theorem splitOnce_target {target : String} {path query : List Char} (hpath : '?' ∉ path)
    (htarget : target.toList = path ++ '?' :: query) :
    (Text.splitOnce '?' target.toList).getD (target.toList, []) = (path, query) := by
  rw [htarget, Text.splitOnce_append hpath]
  rfl

theorem target_of_splitOnce {target : String} {path query : List Char} (hquery : query ≠ [])
    (h : (Text.splitOnce '?' target.toList).getD (target.toList, []) = (path, query)) :
    target.toList = path ++ '?' :: query := by
  cases hsplit : Text.splitOnce '?' target.toList with
  | none =>
    rw [hsplit] at h
    cases h
    exact absurd rfl hquery
  | some parts =>
    rw [hsplit] at h
    cases h
    exact (Text.splitOnce_parts hsplit).1

theorem logsQuery_ne_nil (n : ℕ) : logsQuery n ≠ [] := by
  rw [logsQuery, List.append_assoc]
  exact List.append_ne_nil_of_left_ne_nil (by decide) _

theorem logsTarget_toList (name : List Char) (n : ℕ) :
    (logsTarget (String.ofList name) n).toList =
      ("/containers/".toList ++ name ++ "/logs".toList) ++ '?' :: logsQuery n := by
  have hfront : "/logs?follow=false&stdout=true&stderr=true&since=0&until=".toList =
      "/logs".toList ++ '?' :: logsPrefix.toList := by decide
  have hback : "&timestamps=true&tail=4096".toList = logsSuffix.toList := by decide
  have hdigits : (Nat.repr n).toList = Nat.toDigits 10 n := String.toList_ofList
  rw [logsTarget, String.toList_append, String.toList_append, String.toList_append,
    String.toList_append, hfront, hback, hdigits, logsQuery]
  simp only [String.toList_ofList, List.append_assoc, List.cons_append]

theorem allowTarget_sound {policy : Policy} {target t : String}
    (h : allowTarget policy target = .allowed t) :
    t = target ∧ (target ∈ inventoryTargets policy.labelFilter ∨
      ∃ name n, IsContainerName name ∧ target = logsTarget (String.ofList name) n) := by
  obtain ⟨⟨path, query⟩, hsplit⟩ :
      ∃ p, (Text.splitOnce '?' target.toList).getD (target.toList, []) = p := ⟨_, rfl⟩
  rw [allowTarget, hsplit] at h
  dsimp only at h
  rw [inventoryTargets_eq]
  split_ifs at h with horigin hsuspicious hjson hnetworks hvolumes hlogs
  · obtain ⟨rfl, htarget⟩ := inventory_eq_allowed.1 h
    exact ⟨rfl, Or.inl (List.mem_map.2 ⟨_, by simp, htarget.symm⟩)⟩
  · obtain ⟨rfl, htarget⟩ := inventory_eq_allowed.1 h
    exact ⟨rfl, Or.inl (List.mem_map.2 ⟨_, by simp, htarget.symm⟩)⟩
  · obtain ⟨rfl, htarget⟩ := inventory_eq_allowed.1 h
    exact ⟨rfl, Or.inl (List.mem_map.2 ⟨_, by simp, htarget.symm⟩)⟩
  · rw [Bool.and_eq_true, Text.startsWith, decide_eq_true_eq, decide_eq_true_eq] at hlogs
    obtain ⟨rfl, name, n, hname, rfl, rfl⟩ := (logs_eq_allowed hlogs.1 hlogs.2).1 h
    refine ⟨rfl, Or.inr ⟨name, n, hname, ?_⟩⟩
    rw [← String.toList_inj, target_of_splitOnce (logsQuery_ne_nil n) hsplit, logsTarget_toList]

/-- A plain path goes to the handler of its route. -/
theorem allowTarget_plain {policy : Policy} {target : String} {path query : List Char}
    (hpath : IsPlainPath path) (hquery : '?' ∉ query)
    (htarget : target.toList = path ++ '?' :: query) : allowTarget policy target =
      if path = "/containers/json".toList then
        inventory policy target "/containers/json?all=true&size=false"
      else if path = "/networks".toList then inventory policy target "/networks?"
      else if path = "/volumes".toList then inventory policy target "/volumes?"
      else if Text.startsWith path "/containers/".toList && decide ("/logs".toList <:+ path) then
        logs target path query
      else .denied .target := by
  obtain ⟨c, rest, rfl, hc⟩ := hpath.root
  have hrooted : Text.startsWith target.toList "/".toList = true := by
    rw [htarget, Text.startsWith, decide_eq_true_eq]
    exact List.prefix_append ['/'] _
  have hsingle : Text.startsWith target.toList "//".toList = false := by
    rw [htarget, Text.startsWith, decide_eq_false_iff_not]
    intro h
    exact hc (List.cons_prefix_cons.1 (List.cons_prefix_cons.1 h).2).1.symm
  rw [allowTarget, splitOnce_target hpath.question htarget]
  dsimp only
  rw [hrooted, hsingle, htarget, hpath.not_suspicious hquery]
  rfl

theorem allowTarget_inventory {policy : Policy} {base : String}
    (h : base ∈ ["/containers/json?all=true&size=false", "/networks?", "/volumes?"]) :
    allowTarget policy (inventoryTarget policy.labelFilter base) =
      .allowed (inventoryTarget policy.labelFilter base) := by
  obtain ⟨filters, hfilters, htarget⟩ := inventoryTarget_toList policy.labelFilter base
  have hallowed : inventory policy (inventoryTarget policy.labelFilter base) base =
      .allowed (inventoryTarget policy.labelFilter base) := inventory_eq_allowed.2 ⟨rfl, rfl⟩
  simp only [List.mem_cons, List.not_mem_nil, or_false] at h
  rcases h with rfl | rfl | rfl
  · have hquery : '?' ∉ "all=true&size=false".toList ++ filters := by simp [hfilters]
    rw [allowTarget_plain (isPlainPath_inventory "/containers/json" (by simp)) hquery htarget]
    exact hallowed
  · rw [allowTarget_plain (isPlainPath_inventory "/networks" (by simp)) hfilters htarget]
    exact hallowed
  · rw [allowTarget_plain (isPlainPath_inventory "/volumes" (by simp)) hfilters htarget]
    exact hallowed

theorem allowTarget_logs {policy : Policy} {name : List Char} (hname : IsContainerName name)
    (n : ℕ) : allowTarget policy (logsTarget (String.ofList name) n) =
      .allowed (logsTarget (String.ofList name) n) := by
  have hquery := not_mem_logsQuery (c := '?') (by decide) (by decide) (by decide) n
  have hback : "/logs".toList <:+ "/containers/".toList ++ name ++ "/logs".toList :=
    List.suffix_append _ _
  have hfront : "/containers/".toList <+: "/containers/".toList ++ name ++ "/logs".toList := by
    rw [List.append_assoc]
    exact List.prefix_append _ _
  have hne : ∀ path ∈ ["/containers/json", "/networks", "/volumes"],
      "/containers/".toList ++ name ++ "/logs".toList ≠ path.toList := by
    intro path hpath heq
    have hfixed : ∀ path ∈ ["/containers/json", "/networks", "/volumes"],
        ¬ "/logs".toList <:+ path.toList := by decide
    exact hfixed path hpath (heq ▸ hback)
  rw [allowTarget_plain (isPlainPath_logs hname) hquery (logsTarget_toList name n),
    if_neg (hne _ (by simp)), if_neg (hne _ (by simp)), if_neg (hne _ (by simp)), if_pos]
  · exact (logs_eq_allowed hfront hback).2 ⟨rfl, name, n, hname, rfl, rfl⟩
  · rw [Text.startsWith, decide_eq_true hfront, decide_eq_true hback]
    rfl

theorem not_forbidden_iff {request : Request} :
    forbiddenHeaders.any request.containsKey = false ↔
      ∀ name ∈ forbiddenHeaders, ∀ header ∈ request.headers, header.1 ≠ name := by
  simp only [List.any_eq_false, Request.containsKey, List.any_eq_true, beq_iff_eq, not_exists,
    not_and, ne_eq]

/-- The gateway accepts the requests of the grammar and no others, and passes the target on
as it came. -/
theorem allow_eq_allowed {policy : Policy} {request : Request} {target : String} :
    allow policy request = .allowed target ↔
      IsOriginGet request ∧ request.pathAndQuery = some target ∧
        (target ∈ inventoryTargets policy.labelFilter ∨
          ∃ name n, IsContainerName name ∧ target = logsTarget (String.ofList name) n) := by
  constructor
  · intro h
    rw [allow] at h
    split_ifs at h with hmethod horigin hframing
    rw [Bool.or_eq_true, not_or, Bool.not_eq_true, Bool.not_eq_true, Option.isSome_eq_false_iff,
      Option.isSome_eq_false_iff, Option.isNone_iff_eq_none, Option.isNone_iff_eq_none] at horigin
    cases htarget : request.pathAndQuery with
    | none =>
      rw [htarget] at h
      cases h
    | some t =>
      rw [htarget] at h
      obtain ⟨rfl, hlanguage⟩ := allowTarget_sound h
      refine ⟨⟨not_not.1 hmethod, horigin.1, horigin.2, ?_⟩, rfl, hlanguage⟩
      exact not_forbidden_iff.1 (by simpa using hframing)
  · rintro ⟨⟨hget, hscheme, hauthority, hheaders⟩, htarget, hlanguage⟩
    rw [allow, hscheme, hauthority, not_forbidden_iff.2 hheaders, htarget, if_neg (not_not.2 hget)]
    change allowTarget policy target = .allowed target
    rcases hlanguage with hinventory | ⟨name, n, hname, rfl⟩
    · rw [inventoryTargets_eq] at hinventory
      obtain ⟨base, hbase, rfl⟩ := List.mem_map.1 hinventory
      exact allowTarget_inventory hbase
    · exact allowTarget_logs hname n

end DockerMap.Gateway
