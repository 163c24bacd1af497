import DockerMap.Api.Routes
import Mathlib.Data.List.SplitOn

/-! The policy of the routes: both names of a route have one policy, and the one route without
authentication is found under its own names only. -/

namespace DockerMap.Api

/-! Lower case -/

theorem toNat_ofNat_of_lt {n : ℕ} (h : n < 0xD800) : (Char.ofNat n).toNat = n := by
  have hvalid : n.isValidChar := Or.inl h
  rw [Char.ofNat, dif_pos hvalid]
  rfl

theorem lowerLatin1_idem (c : Char) : lowerLatin1 (lowerLatin1 c) = lowerLatin1 c := by
  by_cases hupper : isUpperLatin1 c = true
  · have hbound : c.toNat + 32 < 0xD800 ∧ (97 ≤ c.toNat + 32 ∧ c.toNat + 32 ≤ 122 ∨
        224 ≤ c.toNat + 32) := by
      simp only [isUpperLatin1, Char.reduceToNat, Bool.or_eq_true, Bool.and_eq_true,
        decide_eq_true_eq] at hupper
      omega
    have hnat : (Char.ofNat (c.toNat + 32)).toNat = c.toNat + 32 :=
      toNat_ofNat_of_lt hbound.1
    have hlower : isUpperLatin1 (Char.ofNat (c.toNat + 32)) = false := by
      simp only [isUpperLatin1, Char.reduceToNat, hnat, Bool.or_eq_false_iff, Bool.and_eq_false_iff,
        decide_eq_false_iff_not]
      omega
    rw [lowerLatin1, lowerLatin1, if_pos hupper, hlower]
    rfl
  · rw [lowerLatin1, lowerLatin1, if_neg hupper, if_neg hupper]

theorem lowered_idem (path : List Char) : lowered (lowered path) = lowered path := by
  rw [lowered, lowered, List.map_map]
  exact List.map_congr_left fun c _ => lowerLatin1_idem c

theorem lowered_dropLast (path : List Char) :
    lowered (lowered path).dropLast = (lowered path).dropLast := by
  rw [lowered, List.map_dropLast, ← lowered, lowered_idem]

/-! Matching -/

/-- What a match is of a path and a template in lower case. -/
def hits (path template : List Char) : Bool :=
  partsMatch path template ||
    (!endsWithSlash template && endsWithSlash path && !(['/', '/'].isSuffixOf path) &&
      partsMatch path.dropLast template)

theorem matchesPathTemplate_eq (path template : List Char) :
    matchesPathTemplate path template = hits (lowered path) (lowered template) := by
  rw [matchesPathTemplate, hits]
  congr 1
  split_ifs with hend
  · -- what is left has no slash at its end, so the recursion stops
    rw [matchesPathTemplate, lowered_dropLast, lowered_idem, dif_neg, Bool.or_false]
    · simp only [hend, Bool.true_and]
    · simp only [Bool.and_eq_true, Bool.not_eq_true', endsWithSlash, beq_iff_eq] at hend ⊢
      rintro ⟨⟨-, hagain⟩, -⟩
      have hpath : lowered path = (lowered path).dropLast ++ ['/'] :=
        (List.dropLast_append_getLast? '/' hend.1.2).symm
      have hdrop : (lowered path).dropLast = (lowered path).dropLast.dropLast ++ ['/'] :=
        (List.dropLast_append_getLast? '/' hagain).symm
      have hsuffix : ['/', '/'] <:+ lowered path := by
        rw [hpath, hdrop, List.append_assoc]
        exact List.suffix_append _ _
      rw [List.isSuffixOf_iff_suffix.2 hsuffix] at hend
      exact Bool.noConfusion hend.2
  · simp only [Bool.not_eq_true] at hend
    rw [hend, Bool.false_and]

/-! Parts -/

theorem splitOn_api (rest : List Char) :
    ("/api/".toList ++ rest).splitOn '/' = [] :: "api".toList :: rest.splitOn '/' := by
  simp [List.splitOn, List.splitOnP_cons_eq_if_modifyHead]

theorem splitOn_versioned (rest : List Char) :
    ("/api/v1/".toList ++ rest).splitOn '/' =
      [] :: "api".toList :: "v1".toList :: rest.splitOn '/' := by
  simp [List.splitOn, List.splitOnP_cons_eq_if_modifyHead]

theorem partsMatch_api (path template : List Char) :
    partsMatch ("/api/".toList ++ path) ("/api/".toList ++ template) =
      partsMatch path template := by
  simp only [partsMatch, splitOn_api, List.length_cons, List.zip_cons_cons, List.all_cons]
  simp [partMatches]

theorem partsMatch_versioned (path template : List Char) :
    partsMatch ("/api/v1/".toList ++ path) ("/api/v1/".toList ++ template) =
      partsMatch path template := by
  simp only [partsMatch, splitOn_versioned, List.length_cons, List.zip_cons_cons, List.all_cons]
  simp [partMatches]

/-- The text before the first slash. -/
def firstPart (path : List Char) : List Char := path.takeWhile (· ≠ '/')

theorem splitOn_eq_cons (path : List Char) :
    ∃ parts, path.splitOn '/' = firstPart path :: parts := by
  induction path with
  | nil => exact ⟨[], rfl⟩
  | cons c path ih =>
    obtain ⟨parts, hparts⟩ := ih
    rw [List.splitOn] at hparts ⊢
    rw [List.splitOnP_cons_eq_if_modifyHead, firstPart, List.takeWhile_cons]
    by_cases hslash : c = '/'
    · subst hslash
      exact ⟨path.splitOnP (· == '/'), rfl⟩
    · rw [if_neg (by simpa using hslash), hparts, if_pos (by simpa using hslash)]
      exact ⟨parts, rfl⟩

theorem partsMatch_api_versioned {path template : List Char}
    (h : partsMatch ("/api/".toList ++ path) ("/api/v1/".toList ++ template) = true) :
    firstPart path = "v1".toList := by
  obtain ⟨parts, hparts⟩ := splitOn_eq_cons path
  simp only [partsMatch, splitOn_api, splitOn_versioned, hparts, List.zip_cons_cons,
    List.all_cons, Bool.and_eq_true] at h
  have hversion := h.2.2.2.1
  simp only [partMatches, Bool.or_eq_true, beq_iff_eq] at hversion
  exact (hversion.resolve_left (by decide)).symm

theorem partsMatch_versioned_api {path template : List Char}
    (hplain : firstPart template ≠ "v1".toList ∧ (firstPart template).head? ≠ some ':') :
    partsMatch ("/api/v1/".toList ++ path) ("/api/".toList ++ template) = false := by
  obtain ⟨parts, hparts⟩ := splitOn_eq_cons template
  refine Bool.eq_false_of_not_eq_true fun h => ?_
  simp only [partsMatch, splitOn_api, splitOn_versioned, hparts, List.zip_cons_cons,
    List.all_cons, Bool.and_eq_true] at h
  have hversion := h.2.2.2.1
  simp only [partMatches, Bool.or_eq_true, beq_iff_eq] at hversion
  exact hversion.elim hplain.2 hplain.1

/-! Two names of one route -/

section

variable {rest : List Char}

theorem endsWithSlash_append (before : List Char) (hrest : rest ≠ []) :
    endsWithSlash (before ++ rest) = endsWithSlash rest := by
  rw [endsWithSlash, endsWithSlash, List.getLast?_append_of_ne_nil _ hrest]

/-- Whether a path ends with two slashes shows in what stands after a slash in it. -/
theorem isSuffixOf_append (before : List Char) (hrest : rest ≠ []) :
    ['/', '/'].isSuffixOf (before ++ '/' :: rest) = ['/', '/'].isSuffixOf ('/' :: rest) := by
  obtain ⟨init, last, rfl⟩ : ∃ init last, rest = init ++ [last] :=
    ⟨_, _, (List.dropLast_append_getLast hrest).symm⟩
  rw [Bool.eq_iff_iff, List.isSuffixOf_iff_suffix, List.isSuffixOf_iff_suffix]
  constructor
  · intro h
    rcases List.suffix_or_suffix_of_suffix h (List.suffix_append before _) with hshort | hlong
    · exact hshort
    · have hlength := hlong.length_le
      have heq := hlong.eq_of_length (by simp at hlength ⊢; omega)
      rw [heq]
  · exact fun h => h.trans (List.suffix_append _ _)

/-- What a hit is under either prefix. -/
def hitsRest (rest template : List Char) : Bool :=
  partsMatch rest template ||
    (!endsWithSlash ('/' :: template) && endsWithSlash rest &&
      !(['/', '/'].isSuffixOf ('/' :: rest)) && partsMatch rest.dropLast template)

theorem endsWithSlash_slash (before template : List Char) :
    endsWithSlash (before ++ '/' :: template) = endsWithSlash ('/' :: template) :=
  endsWithSlash_append before (List.cons_ne_nil _ _)

theorem hits_api (hrest : rest ≠ []) (template : List Char) :
    hits ("/api/".toList ++ rest) ("/api/".toList ++ template) = hitsRest rest template := by
  have hsplit : ∀ l, "/api/".toList ++ l = "/api".toList ++ '/' :: l := fun _ => rfl
  rw [hits, partsMatch_api, endsWithSlash_append _ hrest, List.dropLast_append_of_ne_nil hrest,
    partsMatch_api, hsplit, endsWithSlash_slash, hsplit rest, isSuffixOf_append _ hrest, hitsRest]

theorem hits_versioned (hrest : rest ≠ []) (template : List Char) :
    hits ("/api/v1/".toList ++ rest) ("/api/v1/".toList ++ template) = hitsRest rest template := by
  have hsplit : ∀ l, "/api/v1/".toList ++ l = "/api/v1".toList ++ '/' :: l := fun _ => rfl
  rw [hits, partsMatch_versioned, endsWithSlash_append _ hrest,
    List.dropLast_append_of_ne_nil hrest, partsMatch_versioned, hsplit, endsWithSlash_slash,
    hsplit rest, isSuffixOf_append _ hrest, hitsRest]

theorem firstPart_dropLast (hend : endsWithSlash rest = true) :
    firstPart rest.dropLast = firstPart rest := by
  rw [endsWithSlash, beq_iff_eq] at hend
  have hrest : rest = rest.dropLast ++ ['/'] := (List.dropLast_append_getLast? '/' hend).symm
  conv_rhs => rw [hrest]
  rw [firstPart, firstPart, List.takeWhile_append]
  split_ifs with hall
  · rw [(List.takeWhile_prefix _).eq_of_length hall]
    exact (List.append_nil _).symm
  · rfl

theorem hits_api_versioned (hrest : rest ≠ []) (hversion : firstPart rest ≠ "v1".toList)
    (template : List Char) :
    hits ("/api/".toList ++ rest) ("/api/v1/".toList ++ template) = false := by
  refine Bool.eq_false_of_not_eq_true fun h => hversion ?_
  rw [hits, Bool.or_eq_true, Bool.and_eq_true, Bool.and_eq_true, Bool.and_eq_true,
    endsWithSlash_append _ hrest, List.dropLast_append_of_ne_nil hrest] at h
  rcases h with h | ⟨⟨⟨-, hend⟩, -⟩, h⟩
  · exact partsMatch_api_versioned h
  · rw [← firstPart_dropLast hend]
    exact partsMatch_api_versioned h

theorem hits_versioned_api (hrest : rest ≠ []) {template : List Char}
    (hplain : firstPart template ≠ "v1".toList ∧ (firstPart template).head? ≠ some ':') :
    hits ("/api/v1/".toList ++ rest) ("/api/".toList ++ template) = false := by
  rw [hits, List.dropLast_append_of_ne_nil hrest, partsMatch_versioned_api hplain,
    partsMatch_versioned_api hplain, Bool.and_false, Bool.or_false]

theorem lowered_append (before rest : List Char) :
    lowered (before ++ rest) = lowered before ++ lowered rest := List.map_append

theorem partsMatch_self (path : List Char) : partsMatch path path = true := by
  rw [partsMatch, Bool.and_eq_true, List.all_eq_true]
  refine ⟨beq_self_eq_true _, fun parts hparts => ?_⟩
  obtain ⟨i, hi⟩ := List.getElem?_of_mem hparts
  rw [List.getElem?_zip_eq_some] at hi
  rw [Option.some.inj (hi.1.symm.trans hi.2), partMatches, beq_self_eq_true, Bool.or_true]

/-- A request under either name finds the same path, as it is written and as a template. -/
structure IsAliased (paths : List RoutePath) (rest : List Char) : Prop where
  written :
    (paths.find? fun routePath => routePath.path == "/api/".toList ++ rest).map
        RoutePath.canonicalPath =
      (paths.find? fun routePath => routePath.path == "/api/v1/".toList ++ rest).map
        RoutePath.canonicalPath
  matched :
    (paths.find? fun routePath => matchesPathTemplate ("/api/".toList ++ rest)
        routePath.path).map RoutePath.canonicalPath =
      (paths.find? fun routePath => matchesPathTemplate ("/api/v1/".toList ++ rest)
        routePath.path).map RoutePath.canonicalPath

theorem matches_of_written {path : List Char} : matchesPathTemplate path path = true := by
  rw [matchesPathTemplate_eq, hits, partsMatch_self, Bool.true_or]

theorem isAliased_of_missed {paths : List RoutePath}
    (h : ∀ routePath ∈ paths,
      matchesPathTemplate ("/api/".toList ++ rest) routePath.path = false ∧
        matchesPathTemplate ("/api/v1/".toList ++ rest) routePath.path = false) :
    IsAliased paths rest := by
  have hwritten : ∀ {path : List Char}, (∀ routePath ∈ paths,
      matchesPathTemplate path routePath.path = false) →
        (paths.find? fun routePath => routePath.path == path) = none ∧
          (paths.find? fun routePath => matchesPathTemplate path routePath.path) = none := by
    intro path hmissed
    refine ⟨List.find?_eq_none.2 fun routePath hmem heq => ?_,
      List.find?_eq_none.2 fun routePath hmem => by rw [hmissed routePath hmem]; decide⟩
    have hself := hmissed routePath hmem
    rw [beq_iff_eq.1 heq, matches_of_written] at hself
    cases hself
  obtain ⟨hnone, hnone'⟩ := hwritten fun routePath hmem => (h routePath hmem).1
  obtain ⟨hnone'', hnone'''⟩ := hwritten fun routePath hmem => (h routePath hmem).2
  exact ⟨by rw [hnone, hnone''], by rw [hnone', hnone''']⟩

/-- The rest does not name the version itself. -/
structure IsRest (rest : List Char) : Prop where
  nonempty : rest ≠ []
  unversioned : firstPart (lowered rest) ≠ "v1".toList

theorem IsRest.lowered_ne_nil (h : IsRest rest) : lowered rest ≠ [] := by
  rw [lowered, Ne, List.map_eq_nil_iff]
  exact h.nonempty

theorem matches_api (h : IsRest rest) (template : List Char) :
    matchesPathTemplate ("/api/".toList ++ rest) ("/api/".toList ++ template) =
        hitsRest (lowered rest) (lowered template) ∧
      matchesPathTemplate ("/api/".toList ++ rest) ("/api/v1/".toList ++ template) = false := by
  rw [matchesPathTemplate_eq, matchesPathTemplate_eq, lowered_append, lowered_append,
    lowered_append]
  exact ⟨hits_api h.lowered_ne_nil _, hits_api_versioned h.lowered_ne_nil h.unversioned _⟩

theorem matches_versioned (h : IsRest rest) {template : List Char}
    (hplain : firstPart (lowered template) ≠ "v1".toList ∧
      (firstPart (lowered template)).head? ≠ some ':') :
    matchesPathTemplate ("/api/v1/".toList ++ rest) ("/api/".toList ++ template) = false ∧
      matchesPathTemplate ("/api/v1/".toList ++ rest) ("/api/v1/".toList ++ template) =
        hitsRest (lowered rest) (lowered template) := by
  rw [matchesPathTemplate_eq, matchesPathTemplate_eq, lowered_append, lowered_append,
    lowered_append]
  exact ⟨hits_versioned_api h.lowered_ne_nil hplain, hits_versioned h.lowered_ne_nil _⟩

theorem firstPart_versioned (rest : List Char) :
    firstPart (lowered ("v1/".toList ++ rest)) = "v1".toList := rfl

theorem isAliased_api (h : IsRest rest) {template canonical : List Char}
    (hplain : firstPart (lowered template) ≠ "v1".toList ∧
      (firstPart (lowered template)).head? ≠ some ':') :
    IsAliased [⟨"/api/".toList ++ template, canonical⟩,
      ⟨"/api/v1/".toList ++ template, canonical⟩] rest := by
  obtain ⟨hmatched, hmissed⟩ := matches_api h template
  obtain ⟨hmissed', hmatched'⟩ := matches_versioned h hplain
  have happend : ∀ l : List Char, "/api/v1/".toList ++ l = "/api/".toList ++ ("v1/".toList ++ l) :=
    fun _ => rfl
  constructor
  · have hwritten : ("/api/v1/".toList ++ template == "/api/".toList ++ rest) = false := by
      refine beq_eq_false_iff_ne.2 fun heq => h.unversioned ?_
      rw [happend, List.append_cancel_left_eq] at heq
      rw [← heq, firstPart_versioned]
    have hwritten' : ("/api/".toList ++ template == "/api/v1/".toList ++ rest) = false := by
      refine beq_eq_false_iff_ne.2 fun heq => hplain.1 ?_
      rw [happend, List.append_cancel_left_eq] at heq
      rw [heq, firstPart_versioned]
    have hsame : ("/api/".toList ++ template == "/api/".toList ++ rest) =
        ("/api/v1/".toList ++ template == "/api/v1/".toList ++ rest) := by
      rw [Bool.eq_iff_iff, beq_iff_eq, beq_iff_eq, List.append_cancel_left_eq,
        List.append_cancel_left_eq]
    rw [List.find?_cons, List.find?_cons, List.find?_cons, List.find?_cons, hwritten, hwritten',
      hsame]
    cases "/api/v1/".toList ++ template == "/api/v1/".toList ++ rest with
    | true => rfl
    | false => rfl
  · rw [List.find?_cons, List.find?_cons, List.find?_cons, List.find?_cons, hmatched, hmissed,
      hmatched', hmissed']
    cases hitsRest (lowered rest) (lowered template) with
    | true => rfl
    | false => rfl

/-- What a path says after its first part of the API. -/
def RoutePath.template (routePath : RoutePath) : List Char :=
  routePath.path.drop "/api/".toList.length

/-- The two paths of a route of the API, made from one template. -/
def HasTwoNames (route : RouteManifestEntry) : Prop :=
  ∃ first ∈ route.paths.head?, firstPart (lowered first.template) ≠ "v1".toList ∧
    (firstPart (lowered first.template)).head? ≠ some ':' ∧
    route.paths = [⟨"/api/".toList ++ first.template, "/api/".toList ++ first.template⟩,
      ⟨"/api/v1/".toList ++ first.template, "/api/".toList ++ first.template⟩]

theorem manifest_names : ∀ route ∈ routeManifest,
    route.paths = [⟨"/health".toList, "/health".toList⟩] ∨
    route.paths = [⟨"/api/".toList ++ "v1".toList, "/api/v1".toList⟩,
      ⟨"/api/v1/".toList ++ [], "/api/v1/".toList⟩] ∨ HasTwoNames route := by
  unfold HasTwoNames
  decide

theorem partsMatch_iff_of_plain {path template : List Char}
    (hplain : ∀ part ∈ template.splitOn '/', part.head? ≠ some ':') :
    partsMatch path template = true ↔ path = template := by
  constructor
  · intro h
    rw [partsMatch, Bool.and_eq_true, beq_iff_eq, List.all_eq_true] at h
    have hsplit : path.splitOn '/' = template.splitOn '/' := by
      refine List.ext_getElem h.1 fun i hi hi' => ?_
      have hzip := h.2 ((template.splitOn '/')[i], (path.splitOn '/')[i]) (by
        rw [← List.getElem_zip (h := by rw [List.length_zip]; omega)]
        exact List.getElem_mem _)
      rw [partMatches, Bool.or_eq_true, beq_iff_eq, beq_iff_eq] at hzip
      exact (hzip.resolve_left (hplain _ (List.getElem_mem hi'))).symm
    have hpath : ['/'].intercalate (path.splitOn '/') = path := List.intercalate_splitOn '/'
    rw [← hpath, hsplit, List.intercalate_splitOn]
  · rintro rfl
    exact partsMatch_self path

/-- A template without parameters is hit by itself, and by itself with a slash. -/
theorem hits_iff_of_plain {path template : List Char}
    (hplain : ∀ part ∈ template.splitOn '/', part.head? ≠ some ':') :
    hits path template = true ↔
      path = template ∨ endsWithSlash template = false ∧ path = template ++ ['/'] := by
  rw [hits, Bool.or_eq_true, Bool.and_eq_true, Bool.and_eq_true, Bool.and_eq_true,
    partsMatch_iff_of_plain hplain, partsMatch_iff_of_plain hplain, Bool.not_eq_true']
  refine or_congr_right ?_
  constructor
  · rintro ⟨⟨⟨htemplate, hend⟩, -⟩, rfl⟩
    rw [endsWithSlash, beq_iff_eq] at hend
    exact ⟨htemplate, (List.dropLast_append_getLast? '/' hend).symm⟩
  · rintro ⟨htemplate, rfl⟩
    refine ⟨⟨⟨htemplate, ?_⟩, ?_⟩, List.dropLast_concat⟩
    · rw [endsWithSlash, List.getLast?_concat]
      rfl
    · rw [Bool.not_eq_true']
      refine Bool.eq_false_of_not_eq_true fun hsuffix => ?_
      obtain ⟨before, hbefore⟩ := List.isSuffixOf_iff_suffix.1 hsuffix
      have hlast : template = before ++ ['/'] := by
        have hslash : template ++ ['/'] = before ++ ['/'] ++ ['/'] := by
          rw [← hbefore, List.append_assoc]
          rfl
        exact List.append_cancel_right hslash
      rw [hlast, endsWithSlash, List.getLast?_concat] at htemplate
      cases htemplate

theorem matches_iff_of_plain {path template : List Char}
    (hplain : ∀ part ∈ (lowered template).splitOn '/', part.head? ≠ some ':') :
    matchesPathTemplate path template = true ↔ lowered path = lowered template ∨
      endsWithSlash (lowered template) = false ∧ lowered path = lowered template ++ ['/'] := by
  rw [matchesPathTemplate_eq, hits_iff_of_plain hplain]

theorem lowered_prefixes : lowered "/api/".toList = "/api/".toList ∧
    lowered "/api/v1/".toList = "/api/v1/".toList := by decide

theorem ne_of_not_prefix {before spelled : List Char} (h : ¬ before <+: spelled)
    (rest : List Char) : before ++ rest ≠ spelled := by
  rintro rfl
  exact h (List.prefix_append before rest)

theorem isAliased_health (canonical : List Char) :
    IsAliased [⟨"/health".toList, canonical⟩] rest := by
  refine isAliased_of_missed fun routePath hmem => ?_
  rw [List.mem_singleton.1 hmem]
  have hmissed : ∀ {before : List Char}, ¬ before <+: "/health".toList →
      ¬ before <+: "/health".toList ++ ['/'] → lowered before = before →
      matchesPathTemplate (before ++ rest) "/health".toList = false := by
    intro before hplain hslash hbefore
    refine Bool.eq_false_of_not_eq_true fun h => ?_
    rw [matches_iff_of_plain (by decide), lowered_append, hbefore] at h
    rcases h with h | ⟨-, h⟩
    · exact ne_of_not_prefix hplain _ h
    · exact ne_of_not_prefix hslash _ h
  exact ⟨hmissed (by decide) (by decide +kernel) lowered_prefixes.1,
    hmissed (by decide) (by decide +kernel) lowered_prefixes.2⟩

theorem isAliased_version (h : IsRest rest) (canonical canonical' : List Char) :
    IsAliased [⟨"/api/".toList ++ "v1".toList, canonical⟩,
      ⟨"/api/v1/".toList ++ [], canonical'⟩] rest := by
  have hrest : ∀ spelled : List Char, firstPart spelled = "v1".toList →
      "/api/".toList ++ lowered rest ≠ "/api/".toList ++ spelled := by
    intro spelled hspelled heq
    rw [List.append_cancel_left_eq] at heq
    exact h.unversioned (heq ▸ hspelled)
  have hnonempty : "/api/v1/".toList ++ lowered rest ≠ "/api/v1/".toList ++ [] := by
    rw [Ne, List.append_cancel_left_eq]
    exact h.lowered_ne_nil
  refine isAliased_of_missed fun routePath hmem => ?_
  rw [List.mem_cons, List.mem_singleton] at hmem
  rcases hmem with rfl | rfl
  · dsimp only
    constructor
    · refine Bool.eq_false_of_not_eq_true fun hmatch => ?_
      rw [matches_iff_of_plain (by decide), lowered_append, lowered_prefixes.1] at hmatch
      rcases hmatch with hmatch | ⟨-, hmatch⟩
      · exact hrest "v1".toList rfl hmatch
      · exact hrest "v1/".toList rfl hmatch
    · refine Bool.eq_false_of_not_eq_true fun hmatch => ?_
      rw [matches_iff_of_plain (by decide), lowered_append, lowered_prefixes.2] at hmatch
      rcases hmatch with hmatch | ⟨-, hmatch⟩
      · exact ne_of_not_prefix (by decide) _ hmatch
      · exact hnonempty hmatch
  · dsimp only
    constructor
    · refine Bool.eq_false_of_not_eq_true fun hmatch => ?_
      rw [matches_iff_of_plain (by decide), lowered_append, lowered_prefixes.1] at hmatch
      rcases hmatch with hmatch | ⟨hend, -⟩
      · exact hrest "v1/".toList rfl hmatch
      · cases hend
    · refine Bool.eq_false_of_not_eq_true fun hmatch => ?_
      rw [matches_iff_of_plain (by decide), lowered_append, lowered_prefixes.2] at hmatch
      rcases hmatch with hmatch | ⟨hend, -⟩
      · exact hnonempty hmatch
      · cases hend

theorem isAliased_manifest (h : IsRest rest) :
    ∀ route ∈ routeManifest, IsAliased route.paths rest := by
  intro route hroute
  rcases manifest_names route hroute with hpaths | hpaths | ⟨first, -, hversion, hparameter, hpaths⟩
  · rw [hpaths]
    exact isAliased_health _
  · rw [hpaths]
    exact isAliased_version h _ _
  · rw [hpaths]
    exact isAliased_api h ⟨hversion, hparameter⟩

theorem IsAliased.matchesPath {route : RouteManifestEntry} (h : IsAliased route.paths rest) :
    route.matchesPath ("/api/".toList ++ rest) =
      route.matchesPath ("/api/v1/".toList ++ rest) := by
  have hsome := congrArg Option.isSome h.matched
  rw [Option.isSome_map, Option.isSome_map, List.isSome_find?, List.isSome_find?] at hsome
  exact hsome

theorem find?_congr_of_mem {α : Type*} {p q : α → Bool} {l : List α} (h : ∀ a ∈ l, p a = q a) :
    l.find? p = l.find? q := by
  induction l with
  | nil => rfl
  | cons a l ih =>
    rw [List.forall_mem_cons] at h
    rw [List.find?_cons, List.find?_cons, h.1, ih h.2]

theorem find?_flatMap_map {paths : RouteManifestEntry → List RoutePath}
    {p q : RoutePath → Bool} {routes : List RouteManifestEntry}
    (h : ∀ route ∈ routes, ((paths route).find? p).map RoutePath.canonicalPath =
      ((paths route).find? q).map RoutePath.canonicalPath) :
    ((routes.flatMap paths).find? p).map RoutePath.canonicalPath =
      ((routes.flatMap paths).find? q).map RoutePath.canonicalPath := by
  induction routes with
  | nil => rfl
  | cons route routes ih =>
    rw [List.forall_mem_cons] at h
    rw [List.flatMap_cons, List.find?_append, List.find?_append, Option.map_or, Option.map_or, h.1,
      ih h.2]

end

/-! Policies -/

/-- The names of the route that opens a session, as a request may spell them in lower case. -/
def sessionPaths : List (List Char) :=
  ["/api/auth/session".toList, "/api/auth/session/".toList, "/api/v1/auth/session".toList,
    "/api/v1/auth/session/".toList]

theorem isSession_iff : ∀ route ∈ routeManifest,
    (route.auth = .publicInBearer ↔ route.id = .authSession) ∧
      (route.limitsSessionAttempts = true ↔ route.id = .authSession) := by decide

theorem session_route : ∀ route ∈ routeManifest, route.id = .authSession →
    route.method = .post ∧ route.paths = apiPaths "/api/auth/session" := by decide

theorem session_matches (path : List Char) :
    (apiPaths "/api/auth/session").any (fun routePath =>
      matchesPathTemplate path routePath.path) = true ↔ lowered path ∈ sessionPaths := by
  have hpaths : apiPaths "/api/auth/session" =
      [⟨"/api/auth/session".toList, "/api/auth/session".toList⟩,
        ⟨"/api/v1/auth/session".toList, "/api/auth/session".toList⟩] := by decide
  rw [hpaths, List.any_cons, List.any_cons, List.any_nil, Bool.or_false, Bool.or_eq_true,
    matches_iff_of_plain (by decide), matches_iff_of_plain (by decide +kernel)]
  have hlowered : lowered "/api/auth/session".toList = "/api/auth/session".toList ∧
      lowered "/api/v1/auth/session".toList = "/api/v1/auth/session".toList ∧
      endsWithSlash "/api/auth/session".toList = false ∧
      endsWithSlash "/api/v1/auth/session".toList = false := by decide
  rw [hlowered.1, hlowered.2.1, hlowered.2.2.1, hlowered.2.2.2, eq_self_iff_true, true_and,
    true_and, or_assoc, sessionPaths]
  simp only [List.mem_cons, List.not_mem_nil, or_false]
  rfl

def sessionRoute : RouteManifestEntry where
  id := .authSession
  method := .post
  paths := apiPaths "/api/auth/session"
  auth := .publicInBearer
  limitsSessionAttempts := true

theorem routeForRequest_session {path : List Char} (h : lowered path ∈ sessionPaths) :
    routeForRequest "POST" path = some sessionRoute := by
  refine List.find?_eq_some_iff_append.2 ⟨?_, routeManifest.take 21, routeManifest.drop 22, rfl,
    fun route hroute => ?_⟩
  · rw [Bool.and_eq_true]
    exact ⟨by decide, (session_matches path).2 h⟩
  · have hmethod : ∀ route ∈ routeManifest.take 21, route.method = .get := by decide
    rw [hmethod route hroute]
    rfl

/-- The session route is found for a `POST` to one of its names, and for nothing else. -/
theorem route_isSession_iff (method : String) (path : List Char) :
    (∃ route ∈ routeForRequest method path, route.id = .authSession) ↔
      method = "POST" ∧ lowered path ∈ sessionPaths := by
  constructor
  · rintro ⟨route, hroute, hid⟩
    have hmem := List.mem_of_find?_eq_some hroute
    have hfound := List.find?_some hroute
    obtain ⟨hpost, hpaths⟩ := session_route route hmem hid
    rw [Bool.and_eq_true, beq_iff_eq, hpost] at hfound
    constructor
    · have hmethod := hfound.1
      split_ifs at hmethod
      · exact absurd hmethod (by decide)
      · exact hmethod.symm
    · rw [← session_matches, ← hpaths]
      exact hfound.2
  · rintro ⟨rfl, hpath⟩
    exact ⟨sessionRoute, routeForRequest_session hpath, rfl⟩

/-- One route needs no session and limits its attempts, under its own names only; and a route
is the same, with the same policy and the same name in the log, with and without the version. -/
theorem route_policy :
    (∀ method path,
      ((∃ route ∈ routeForRequest method path, route.auth = .publicInBearer) ↔
        method = "POST" ∧ lowered path ∈ sessionPaths) ∧
      ((∃ route ∈ routeForRequest method path, route.limitsSessionAttempts = true) ↔
        method = "POST" ∧ lowered path ∈ sessionPaths)) ∧
    ∀ method rest, IsRest rest →
      routeForRequest method ("/api/".toList ++ rest) =
          routeForRequest method ("/api/v1/".toList ++ rest) ∧
        canonicalRoutePath ("/api/".toList ++ rest) =
          canonicalRoutePath ("/api/v1/".toList ++ rest) := by
  refine ⟨fun method path => ?_, fun method rest hrest => ⟨?_, ?_⟩⟩
  · rw [← route_isSession_iff]
    have hmem : ∀ route ∈ routeForRequest method path, route ∈ routeManifest := by
      intro route hroute
      rw [Option.mem_def, routeForRequest] at hroute
      exact List.mem_of_find?_eq_some hroute
    constructor
    · exact exists_congr fun route => and_congr_right fun hroute =>
        (isSession_iff route (hmem route hroute)).1
    · exact exists_congr fun route => and_congr_right fun hroute =>
        (isSession_iff route (hmem route hroute)).2
  · rw [routeForRequest, routeForRequest]
    refine find?_congr_of_mem fun route hroute => ?_
    rw [(isAliased_manifest hrest route hroute).matchesPath]
  · rw [canonicalRoutePath, canonicalRoutePath, Option.map_or, Option.map_or,
      find?_flatMap_map fun route hroute => (isAliased_manifest hrest route hroute).written,
      find?_flatMap_map fun route hroute => (isAliased_manifest hrest route hroute).matched]

theorem isRest_containers : IsRest "containers/Web/".toList :=
  ⟨by decide, by decide⟩

theorem route_policy_applied :
    routeForRequest "HEAD" "/api/containers/Web/".toList =
        routeForRequest "HEAD" "/api/v1/containers/Web/".toList ∧
      ¬ ∃ route ∈ routeForRequest "HEAD" "/api/containers/Web/".toList,
        route.auth = .publicInBearer := by
  refine ⟨(route_policy.2 "HEAD" _ isRest_containers).1, ?_⟩
  rw [(route_policy.1 "HEAD" _).1]
  exact fun h => absurd h.1 (by decide)

end DockerMap.Api
