import DockerMap.Daemon.Publication
import DockerMap.Lib.TextSearch

/-! What a published display text is: it holds no unsafe character and nothing that reads as
a secret. Neither normalizing a text nor cutting it off can make it read as one, so the
gate leaves its own output alone. -/

namespace DockerMap

open Text

/-! The reasons to redact a text -/

def testMarker : List Char := "dockermap_test_fake_".toList

def sensitiveWords : List (List Char) := testMarker :: sensitiveAssignments

def bearerWord : List Char := "bearer ".toList

/-- Why a text is redacted, for a class of spaces and the lowercase form of the text. -/
def ReadsAsSecret (space : Char → Bool) (value lower : List Char) : Prop :=
  (∃ word ∈ sensitiveWords, word <:+: lower) ∨ containsUrlUserinfo value = true ∨
    (∃ flag ∈ sensitiveFlags, OccursAsFlag space '=' flag lower) ∨ Leads space bearerWord lower

/-- A class of spaces keeps clear of the words that are searched for. -/
structure SpaceClass (space : Char → Bool) : Prop where
  flags : ∀ flag ∈ sensitiveFlags, ∀ c ∈ flag, space c = false
  equals : space '=' = false
  bearer : space 'b' = false

theorem spaceClass_isWhitespace : SpaceClass isWhitespace where
  flags := by decide
  equals := by decide
  bearer := by decide

theorem isSensitiveFlag_iff (token : List Char) :
    isSensitiveFlag token = true ↔
      ∃ flag ∈ sensitiveFlags, token = flag ∨ flag ++ ['='] <+: token := by
  simp [isSensitiveFlag, startsWith]

theorem exists_flag_iff {space : Char → Bool} (h : SpaceClass space) (l : List Char) :
    (∃ token ∈ l.splitOnP space, isSensitiveFlag token = true) ↔
      ∃ flag ∈ sensitiveFlags, OccursAsFlag space '=' flag l := by
  simp only [isSensitiveFlag_iff]
  constructor
  · rintro ⟨token, htoken, flag, hflag, hmatch⟩
    exact ⟨flag, hflag, (occursAsFlag_iff (h.flags flag hflag) h.equals).2 ⟨token, htoken, hmatch⟩⟩
  · rintro ⟨flag, hflag, hoccurs⟩
    obtain ⟨token, htoken, hmatch⟩ := (occursAsFlag_iff (h.flags flag hflag) h.equals).1 hoccurs
    exact ⟨token, htoken, flag, hflag, hmatch⟩

theorem containsSensitiveFlag_iff (l : List Char) :
    containsSensitiveFlag l = true ↔
      ∃ flag ∈ sensitiveFlags, OccursAsFlag isWhitespace '=' flag l := by
  rw [← exists_flag_iff spaceClass_isWhitespace]
  have hnil : isSensitiveFlag [] = false := by decide
  simp only [containsSensitiveFlag, splitWhitespace, List.any_eq_true, List.mem_filter,
    decide_eq_true_eq]
  constructor
  · rintro ⟨token, ⟨htoken, -⟩, hflag⟩
    exact ⟨token, htoken, hflag⟩
  · rintro ⟨token, htoken, hflag⟩
    refine ⟨token, ⟨htoken, ?_⟩, hflag⟩
    rintro rfl
    rw [hnil] at hflag
    cases hflag

theorem leads_iff {space : Char → Bool} (h : SpaceClass space) (l : List Char) :
    startsWith (l.dropWhile space) bearerWord = true ↔ Leads space bearerWord l := by
  simp only [startsWith, decide_eq_true_eq]
  exact startsWith_dropWhile_iff h.bearer

/-- The schemes named after `authorization` are assignments already. -/
theorem containsAuthScheme_or (l : List Char) (h : containsAuthScheme l = true) :
    Leads isWhitespace bearerWord l ∨ containsSensitiveAssignment l = true := by
  have hassignment (word : List Char) (hmem : "authorization:".toList <:+: word ∨
      "authorization=".toList <:+: word) (hword : contains l word = true) :
      containsSensitiveAssignment l = true := by
    simp only [contains, decide_eq_true_eq] at hword
    simp only [containsSensitiveAssignment, List.any_eq_true, contains, decide_eq_true_eq]
    rcases hmem with hcolon | hequals
    · exact ⟨"authorization:".toList, by decide, hcolon.trans hword⟩
    · exact ⟨"authorization=".toList, by decide, hequals.trans hword⟩
  simp only [containsAuthScheme, Bool.or_eq_true] at h
  rcases h with (((h | h) | h) | h) | h
  · exact Or.inl ((leads_iff spaceClass_isWhitespace l).1 h)
  · exact Or.inr (hassignment _ (Or.inl (by decide)) h)
  · exact Or.inr (hassignment _ (Or.inl (by decide)) h)
  · exact Or.inr (hassignment _ (Or.inr (by decide)) h)
  · exact Or.inr (hassignment _ (Or.inr (by decide)) h)

theorem containsAuthScheme_of_leads {l : List Char} (h : Leads isWhitespace bearerWord l) :
    containsAuthScheme l = true := by
  have hstarts : startsWith (trimStart l) "bearer ".toList = true :=
    (leads_iff spaceClass_isWhitespace l).2 h
  simp only [containsAuthScheme, hstarts, Bool.true_or]

theorem containsSensitiveAssignment_iff (l : List Char) :
    containsSensitiveAssignment l = true ↔ ∃ word ∈ sensitiveAssignments, word <:+: l := by
  simp [containsSensitiveAssignment, contains]

theorem exists_sensitiveWord_iff (l : List Char) :
    (∃ word ∈ sensitiveWords, word <:+: l) ↔
      testMarker <:+: l ∨ ∃ word ∈ sensitiveAssignments, word <:+: l := by
  simp only [sensitiveWords, List.mem_cons, exists_eq_or_imp]

theorem isSensitiveText_iff (value : List Char) :
    isSensitiveText value = true ↔ ReadsAsSecret isWhitespace value (asciiLower value) := by
  have hmarker : contains (asciiLower value) testMarker = true ↔
      testMarker <:+: asciiLower value := by
    simp [contains]
  rw [ReadsAsSecret, exists_sensitiveWord_iff, ← hmarker, ← containsSensitiveAssignment_iff,
    ← containsSensitiveFlag_iff]
  simp only [isSensitiveText, Bool.or_eq_true]
  constructor
  · rintro ((((h | h) | h) | h) | h)
    · exact Or.inl (Or.inl h)
    · exact Or.inr (Or.inl h)
    · exact Or.inl (Or.inr h)
    · exact Or.inr (Or.inr (Or.inl h))
    · rcases containsAuthScheme_or _ h with hleads | hword
      · exact Or.inr (Or.inr (Or.inr hleads))
      · exact Or.inl (Or.inr hword)
  · rintro ((h | h) | h | h | h)
    · exact Or.inl (Or.inl (Or.inl (Or.inl h)))
    · exact Or.inl (Or.inl (Or.inr h))
    · exact Or.inl (Or.inl (Or.inl (Or.inr h)))
    · exact Or.inl (Or.inr h)
    · exact Or.inr (containsAuthScheme_of_leads h)

/-! Normalizing -/

theorem masks_normalizeCharacter : Masks normalizeCharacter replacementCharacter := fun c => by
  unfold normalizeCharacter
  split_ifs
  · exact Or.inr rfl
  · exact Or.inl rfl

theorem toLower_normalizeCharacter (c : Char) :
    (normalizeCharacter c).toLower = normalizeCharacter c.toLower := by
  by_cases hascii : c.toNat < 128
  · exact forall_ascii (P := fun c => (normalizeCharacter c).toLower = normalizeCharacter c.toLower)
      (by decide) hascii
  · have hlower : c.toLower = c := toLower_of_not_ascii (by omega)
    rcases masks_normalizeCharacter c with hkept | hmark
    · rw [hlower, hkept, hlower]
    · rw [hlower, hmark]
      decide

theorem asciiLower_normalize (l : List Char) :
    asciiLower (l.map normalizeCharacter) = (asciiLower l).map normalizeCharacter := by
  simp only [asciiLower, List.map_map]
  exact List.map_congr_left fun c _ => toLower_normalizeCharacter c

theorem authority_normalize (l : List Char) :
    (l.map normalizeCharacter).takeWhile (fun c => c ≠ '/' && c ≠ '?' && c ≠ '#') =
      (l.takeWhile fun c => c ≠ '/' && c ≠ '?' && c ≠ '#').map normalizeCharacter := by
  have hsame (a : Char) (ha : a ≠ replacementCharacter) (hfix : normalizeCharacter a = a)
      (c : Char) : decide (normalizeCharacter c ≠ a) = decide (c ≠ a) := by
    simp only [ne_eq, masks_normalizeCharacter.apply_eq_iff ha hfix]
  rw [List.takeWhile_map]
  congr 1
  congr 1
  funext c
  simp only [Function.comp_apply, hsame '/' (by decide) (by decide),
    hsame '?' (by decide) (by decide), hsame '#' (by decide) (by decide)]

theorem containsUrlUserinfo_normalize (l : List Char) :
    containsUrlUserinfo (l.map normalizeCharacter) = containsUrlUserinfo l := by
  have hmem (authority : List Char) :
      '@' ∈ authority.map normalizeCharacter ↔ '@' ∈ authority := by
    rw [List.mem_map]
    constructor
    · rintro ⟨c, hc, heq⟩
      rwa [← (masks_normalizeCharacter.apply_eq_iff (by decide) (by decide) c).1 heq]
    · intro h
      exact ⟨'@', h, by decide⟩
  unfold containsUrlUserinfo
  rw [masks_normalizeCharacter.afterFirst (by decide) (by decide)]
  cases afterFirst "://".toList l with
  | none => rfl
  | some authority =>
    simp only [Option.map_some, authority_normalize, List.contains_eq_mem, hmem]

theorem sensitiveWords_unmasked : ∀ word ∈ sensitiveWords, replacementCharacter ∉ word := by
  decide

theorem sensitiveFlags_unmasked : ∀ flag ∈ sensitiveFlags, replacementCharacter ∉ flag := by
  decide

/-- Replacing characters never makes a text read as a secret. -/
theorem isSensitiveText_of_normalize {l : List Char}
    (h : isSensitiveText (l.map normalizeCharacter) = true) : isSensitiveText l = true := by
  rw [isSensitiveText_iff] at h ⊢
  rw [asciiLower_normalize] at h
  rcases h with ⟨word, hword, hin⟩ | huserinfo | ⟨flag, hflag, hoccurs⟩ | hleads
  · exact Or.inl ⟨word, hword, masks_normalizeCharacter.infix (sensitiveWords_unmasked word hword)
      hin⟩
  · rw [containsUrlUserinfo_normalize] at huserinfo
    exact Or.inr (Or.inl huserinfo)
  · exact Or.inr (Or.inr (Or.inl ⟨flag, hflag, masks_normalizeCharacter.occursAsFlag (by decide)
      (by decide) (sensitiveFlags_unmasked flag hflag) hoccurs⟩))
  · exact Or.inr (Or.inr (Or.inr (masks_normalizeCharacter.leads (by decide) (by decide) hleads)))

/-! Cutting off -/

def ellipsis : List Char := ['.', '.', '.']

theorem sensitiveWords_foreign : ∀ word ∈ sensitiveWords,
    word ≠ [] ∧ ∀ c ∈ word, c ∉ ellipsis := by
  decide

theorem sensitiveFlags_foreign : ∀ flag ∈ sensitiveFlags,
    flag ≠ [] ∧ ∀ c ∈ flag, c ∉ ellipsis := by
  decide

theorem containsUrlUserinfo_of_cut {p r : List Char}
    (h : containsUrlUserinfo (p ++ ellipsis) = true) : containsUrlUserinfo (p ++ r) = true := by
  unfold containsUrlUserinfo at h ⊢
  split at h
  · cases h
  · rename_i authority hfirst
    obtain ⟨x, hx, rfl⟩ := afterFirst_of_cut (by decide) (by decide) hfirst
    rw [afterFirst_append hx]
    simp only [List.contains_eq_mem, decide_eq_true_eq] at h ⊢
    by_cases hall : ∀ c ∈ x, (c ≠ '/' && c ≠ '?' && c ≠ '#') = true
    · rw [List.takeWhile_append_of_pos hall] at h ⊢
      rcases List.mem_append.1 h with hmem | hmem
      · exact List.mem_append_left _ hmem
      · exact absurd (List.takeWhile_prefix _ |>.subset hmem) (by decide)
    · -- the authority ends before the cut
      have hshort : (x.takeWhile fun c => c ≠ '/' && c ≠ '?' && c ≠ '#').length ≠ x.length := by
        intro hlen
        exact hall (List.takeWhile_eq_self_iff.1
          ((List.takeWhile_prefix _).eq_of_length hlen))
      rw [List.takeWhile_append, if_neg hshort] at h ⊢
      exact h

theorem isSensitiveText_of_cut {p r : List Char}
    (h : isSensitiveText (p ++ ellipsis) = true) : isSensitiveText (p ++ r) = true := by
  rw [isSensitiveText_iff] at h ⊢
  have hlower : asciiLower (p ++ ellipsis) = asciiLower p ++ ellipsis := by
    simp only [asciiLower, List.map_append]
    rfl
  have hlower' : asciiLower (p ++ r) = asciiLower p ++ asciiLower r := List.map_append
  rw [hlower] at h
  rw [hlower']
  rcases h with ⟨word, hword, hin⟩ | huserinfo | ⟨flag, hflag, hoccurs⟩ | hleads
  · obtain ⟨hne, hforeign⟩ := sensitiveWords_foreign word hword
    exact Or.inl ⟨word, hword, (infix_of_cut hne hforeign hin).trans
      (List.prefix_append _ _).isInfix⟩
  · exact Or.inr (Or.inl (containsUrlUserinfo_of_cut huserinfo))
  · obtain ⟨hne, hforeign⟩ := sensitiveFlags_foreign flag hflag
    exact Or.inr (Or.inr (Or.inl ⟨flag, hflag,
      occursAsFlag_of_cut hne hforeign ⟨'.', rfl, by decide, by decide⟩ hoccurs⟩))
  · exact Or.inr (Or.inr (Or.inr (leads_of_cut (by decide) (by decide) hleads)))

theorem isSensitiveText_of_truncate {l : List Char} {max : ℕ}
    (h : isSensitiveText (Text.truncateChars l max) = true) : isSensitiveText l = true := by
  unfold Text.truncateChars at h
  split_ifs at h
  · have hcut := isSensitiveText_of_cut (r := l.drop max) h
    rwa [List.take_append_drop] at hcut
  · exact h

/-! Published text -/

structure IsPublished (value : String) : Prop where
  displayable : ∀ c ∈ value.toList, unsafeRuntimeDisplayCharacter c = false
  insensitive : isSensitiveText value.toList = false

theorem isPublished_redactedValue : IsPublished redactedValue where
  displayable := by decide
  insensitive := by decide

theorem unsafe_normalizeCharacter (c : Char) :
    unsafeRuntimeDisplayCharacter (normalizeCharacter c) = false := by
  unfold normalizeCharacter
  split_ifs with hunsafe
  · decide
  · simpa using hunsafe

theorem isPublished_normalize {value : String} (h : isSensitiveText value.toList = false) :
    IsPublished (normalizeRuntimeDisplayString value) where
  displayable := by
    simp only [normalizeRuntimeDisplayString, String.toList_ofList, List.mem_map]
    rintro - ⟨c, -, rfl⟩
    exact unsafe_normalizeCharacter c
  insensitive := by
    rw [Bool.eq_false_iff] at h ⊢
    rw [normalizeRuntimeDisplayString, String.toList_ofList]
    exact fun hnormal => h (isSensitiveText_of_normalize hnormal)

/-- The gate publishes. -/
theorem isPublished_redact (value : String) : IsPublished (redactRuntimeDisplayText value) := by
  unfold redactRuntimeDisplayText redactSensitiveText
  split_ifs with hsensitive
  · exact isPublished_normalize isPublished_redactedValue.insensitive
  · exact isPublished_normalize (by simpa using hsensitive)

theorem IsPublished.redact_eq {value : String} (h : IsPublished value) :
    redactRuntimeDisplayText value = value := by
  have hkept : ∀ c ∈ value.toList, normalizeCharacter c = id c := fun c hc => by
    simp [normalizeCharacter, h.displayable c hc]
  rw [redactRuntimeDisplayText, redactSensitiveText, h.insensitive, if_neg Bool.false_ne_true,
    normalizeRuntimeDisplayString, List.map_congr_left hkept, List.map_id, String.ofList_toList]

@[simp] theorem redact_redact (value : String) :
    redactRuntimeDisplayText (redactRuntimeDisplayText value) = redactRuntimeDisplayText value :=
  (isPublished_redact value).redact_eq

theorem isPublished_truncateChars {value : String} (h : IsPublished value) (max : ℕ) :
    IsPublished (truncateChars value max) where
  displayable := by
    intro c hc
    rw [truncateChars, String.toList_ofList, Text.truncateChars] at hc
    split_ifs at hc
    · rcases List.mem_append.1 hc with hc | hc
      · exact h.displayable c (List.mem_of_mem_take hc)
      · have hdots : ∀ c ∈ ellipsis, unsafeRuntimeDisplayCharacter c = false := by decide
        exact hdots c hc
    · exact h.displayable c hc
  insensitive := by
    have hinsensitive := h.insensitive
    rw [Bool.eq_false_iff] at hinsensitive ⊢
    rw [truncateChars, String.toList_ofList]
    exact fun htruncated => hinsensitive (isSensitiveText_of_truncate htruncated)

theorem length_truncateChars (value : String) (max : ℕ) :
    (truncateChars value max).toList.length ≤ max + 3 := by
  rw [truncateChars, String.toList_ofList, Text.truncateChars]
  split_ifs with hlong
  · rw [List.length_append, List.length_take]
    simp only [List.length_cons, List.length_nil]
    omega
  · omega

theorem truncateChars_truncateChars (value : String) (max : ℕ) :
    truncateChars (truncateChars value max) max = truncateChars value max := by
  simp only [truncateChars, String.toList_ofList]
  congr 1
  unfold Text.truncateChars
  by_cases hlong : max < value.toList.length
  · have hlen : (value.toList.take max).length = max := by
      rw [List.length_take]
      omega
    rw [if_pos hlong, if_pos (by rw [List.length_append, hlen]; simp), List.take_left' hlen]
  · simp only [hlong, if_false]

theorem isPublished_redactEvidenceText (value : String) :
    IsPublished (redactEvidenceText value) :=
  isPublished_truncateChars (isPublished_redact value) _

@[simp] theorem redactEvidenceText_redactEvidenceText (value : String) :
    redactEvidenceText (redactEvidenceText value) = redactEvidenceText value := by
  rw [redactEvidenceText, (isPublished_redactEvidenceText value).redact_eq, redactEvidenceText,
    truncateChars_truncateChars]

theorem length_redactEvidenceText (value : String) :
    (redactEvidenceText value).toList.length ≤ maxEvidenceTextChars :=
  length_truncateChars _ _

end DockerMap
