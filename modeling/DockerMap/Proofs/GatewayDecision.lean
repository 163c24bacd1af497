import DockerMap.Lib.ByteSlice
import DockerMap.Proofs.GatewayPolicy

/-! When the gateway reaches a decision. The handler of log reads cuts the container name out
by byte offsets, and on one path the two ends it has matched overlap. -/

namespace DockerMap.Gateway

/-- The path and the query of a target, as `split_once` gives them. -/
def pathQuery (target : String) : List Char × List Char :=
  (Text.splitOnce '?' target.toList).getD (target.toList, [])

/-- A request on this path gets as far as the handler of log reads. -/
structure EntersLogs (request : Request) (path : List Char) : Prop where
  get : IsOriginGet request
  target : ∃ target query, request.pathAndQuery = some target ∧ pathQuery target = (path, query) ∧
    isSuspicious target.toList path = false
  front : "/containers/".toList <+: path
  back : "/logs".toList <:+ path

/-! The name -/

/-- The path on which prefix and suffix share their slash. -/
theorem containerName_eq_none {path : List Char} (hfront : "/containers/".toList <+: path)
    (hback : "/logs".toList <:+ path) :
    containerName path = none ↔ path = "/containers/logs".toList := by
  constructor
  · intro h
    obtain ⟨rest, rfl⟩ := hfront
    have hshort : rest.length ≤ 4 := by
      by_contra hlong
      have hroom : 12 ≤ ("/containers/".toList ++ rest).length - 5 := by
        have hlength : "/containers/".toList.length = 12 := rfl
        rw [List.length_append]
        omega
      rw [containerName, if_pos hroom] at h
      cases h
    rw [List.suffix_iff_eq_drop] at hback
    rcases rest with _ | ⟨a, _ | ⟨b, _ | ⟨c, _ | ⟨d, _ | ⟨e, rest⟩⟩⟩⟩⟩
    · exact absurd hback (by decide)
    · exact absurd (List.cons.inj hback).1 (by decide)
    · exact absurd (List.cons.inj hback).1 (by decide)
    · exact absurd (List.cons.inj hback).1 (by decide)
    · exact congrArg ("/containers".toList ++ ·) hback.symm
    · exact absurd hshort (by simp)
  · rintro rfl
    decide

/-- The characters the model cuts out are the bytes the source cuts out. -/
theorem containerName_eq_sliceBytes {path : List Char} (hfront : "/containers/".toList <+: path)
    (hback : "/logs".toList <:+ path) :
    containerName path = Text.sliceBytes path 12 (Text.byteLength path - 5) := by
  have hfive : Text.byteLength "/logs".toList = 5 := by decide
  have htwelve : Text.byteLength "/containers/".toList = 12 := by decide
  cases hname : containerName path with
  | some name =>
    rw [(containerName_eq_some hfront hback).1 hname]
    refine (Text.sliceBytes_eq_some.2 ⟨_, _, rfl, htwelve, ?_⟩).symm
    rw [Text.byteLength_append, Text.byteLength_append, hfive, Nat.add_sub_cancel]
  | none =>
    rw [(containerName_eq_none hfront hback).1 hname]
    decide

/-! Decisions -/

theorem logs_eq_panicked {target : String} {path query : List Char} :
    logs target path query = .panicked ↔ containerName path = none := by
  rw [logs]
  cases containerName path with
  | none => exact ⟨fun _ => rfl, fun _ => rfl⟩
  | some name =>
    simp only [reduceCtorEq, iff_false]
    intro h
    split_ifs at h
    cases hstrip : stripBoth logsPrefix.toList logsSuffix.toList query with
    | none =>
      rw [hstrip] at h
      cases h
    | some until_ =>
      rw [hstrip] at h
      dsimp only at h
      split_ifs at h

theorem inventory_ne_panicked {policy : Policy} {target base : String} :
    inventory policy target base ≠ .panicked := by
  intro h
  rw [inventory] at h
  cases hlabel : policy.labelFilter with
  | none =>
    rw [hlabel] at h
    dsimp only at h
    split_ifs at h
  | some label =>
    rw [hlabel] at h
    dsimp only at h
    split_ifs at h

/-- The path is the front of its target. -/
theorem path_prefix (target : String) : (pathQuery target).1 <+: target.toList := by
  rw [pathQuery]
  cases hsplit : Text.splitOnce '?' target.toList with
  | none => exact List.prefix_refl _
  | some p =>
    obtain ⟨path, query⟩ := p
    rw [(Text.splitOnce_parts hsplit).1]
    exact List.prefix_append path _

theorem allowTarget_eq_panicked {policy : Policy} {target : String} :
    allowTarget policy target = .panicked ↔ (pathQuery target).1 = "/containers/logs".toList ∧
      isSuspicious target.toList (pathQuery target).1 = false := by
  have hprefix := path_prefix target
  obtain ⟨⟨path, query⟩, hsplit⟩ : ∃ p, pathQuery target = p := ⟨_, rfl⟩
  rw [hsplit] at hprefix ⊢
  rw [pathQuery] at hsplit
  dsimp only at hprefix ⊢
  constructor
  · intro h
    rw [allowTarget, hsplit] at h
    dsimp only at h
    split_ifs at h with horigin hsuspicious hjson hnetworks hvolumes hlogs
    · exact absurd h inventory_ne_panicked
    · exact absurd h inventory_ne_panicked
    · exact absurd h inventory_ne_panicked
    · rw [Bool.and_eq_true, Text.startsWith, decide_eq_true_eq, decide_eq_true_eq] at hlogs
      exact ⟨(containerName_eq_none hlogs.1 hlogs.2).1 (logs_eq_panicked.1 h),
        Bool.eq_false_iff.2 hsuspicious⟩
  · rintro ⟨rfl, hsuspicious⟩
    obtain ⟨rest, hrest⟩ := hprefix
    have hrooted : Text.startsWith target.toList "/".toList = true := by
      rw [← hrest]
      rfl
    have hsingle : Text.startsWith target.toList "//".toList = false := by
      rw [← hrest]
      rfl
    rw [allowTarget, hsplit]
    dsimp only
    rw [hrooted, hsingle, hsuspicious]
    have hname : containerName "/containers/logs".toList = none := by decide
    exact @logs_eq_panicked target _ query |>.2 hname

theorem allow_of_get {policy : Policy} {request : Request} {target : String}
    (hget : IsOriginGet request) (htarget : request.pathAndQuery = some target) :
    allow policy request = allowTarget policy target := by
  rw [allow, hget.scheme, hget.authority, not_forbidden_iff.2 hget.headers, htarget,
    if_neg (not_not.2 hget.get)]
  rfl

theorem get_of_panicked {policy : Policy} {request : Request}
    (h : allow policy request = .panicked) :
    IsOriginGet request ∧ ∃ target, request.pathAndQuery = some target := by
  rw [allow] at h
  split_ifs at h with hmethod horigin hframing
  rw [Bool.or_eq_true, not_or, Bool.not_eq_true, Bool.not_eq_true, Option.isSome_eq_false_iff,
    Option.isSome_eq_false_iff, Option.isNone_iff_eq_none, Option.isNone_iff_eq_none] at horigin
  cases htarget : request.pathAndQuery with
  | none =>
    rw [htarget] at h
    cases h
  | some target =>
    refine ⟨⟨not_not.1 hmethod, horigin.1, horigin.2, ?_⟩, target, rfl⟩
    exact not_forbidden_iff.1 (by simpa using hframing)

theorem allow_eq_panicked {policy : Policy} {request : Request} :
    allow policy request = .panicked ↔ EntersLogs request "/containers/logs".toList := by
  constructor
  · intro h
    obtain ⟨hget, target, htarget⟩ := get_of_panicked h
    rw [allow_of_get hget htarget] at h
    obtain ⟨hpath, hsuspicious⟩ := allowTarget_eq_panicked.1 h
    rw [hpath] at hsuspicious
    exact ⟨hget, ⟨target, (pathQuery target).2, htarget, Prod.ext hpath rfl, hsuspicious⟩,
      by decide, by decide⟩
  · rintro ⟨hget, ⟨target, query, htarget, hpath, hsuspicious⟩, -, -⟩
    rw [allow_of_get hget htarget]
    refine allowTarget_eq_panicked.2 ?_
    rw [hpath]
    exact ⟨rfl, hsuspicious⟩

/-- The gateway decides, and cuts every name at character boundaries, unless the path is the
one that both ends match with a shared slash. -/
theorem allow_decides_iff {policy : Policy} {request : Request} :
    (allow policy request ≠ .panicked ∧ ∀ path, EntersLogs request path →
        ∃ name, Text.sliceBytes path 12 (Text.byteLength path - 5) = some name) ↔
      ¬ EntersLogs request "/containers/logs".toList := by
  constructor
  · intro h henters
    exact h.1 (allow_eq_panicked.2 henters)
  · intro hother
    refine ⟨fun h => hother (allow_eq_panicked.1 h), fun path henters => ?_⟩
    rw [← containerName_eq_sliceBytes henters.front henters.back]
    cases hname : containerName path with
    | some name => exact ⟨name, rfl⟩
    | none =>
      rw [(containerName_eq_none henters.front henters.back).1 hname] at henters
      exact absurd henters hother

/-- A log read without a container name stops the handler. -/
theorem allow_panics : ¬ ∀ (policy : Policy) (request : Request),
    allow policy request ≠ .panicked := by
  intro h
  exact h ⟨none⟩ { method := "GET", pathAndQuery := some "/containers/logs" } (by decide)

end DockerMap.Gateway
