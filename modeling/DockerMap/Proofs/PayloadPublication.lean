import DockerMap.Core.Identity
import DockerMap.Core.Wire
import DockerMap.Lib.JavaScript
import DockerMap.Proofs.RedactionAgreement

/-! What the browser boundary makes of an encoded finding: names, variants and plain texts
pass it unchanged, identifiers and revisions are published one by one. -/

namespace DockerMap

open Text
open Api (publishDisplayText publishApiPayload)
open Json (encode record present)

/-! Texts the boundary leaves alone -/

def isQuietCharacter (c : Char) : Bool :=
  c.toNat < 128 && !unsafeRuntimeDisplayCharacter c && c ≠ ':' && c ≠ '=' && c ≠ '['

/-- Words that make a text of quiet characters one to look at. -/
def loudWords : List (List Char) := ["--".toList, testMarker, bearerWord]

def arePlain (l : List Char) : Bool :=
  l.all isQuietCharacter && loudWords.all fun word => !word.isInfixOf_internal (asciiLower l)

/-- ASCII text in which nothing assigns a value, sets a flag or names a scheme. -/
def isPlain (value : String) : Bool := arePlain value.toList

variable {toLowerCase : String → String}

theorem publish_of_insensitive {value : String}
    (h : Api.isSensitiveText toLowerCase value = false) :
    publishDisplayText toLowerCase value = normalizeRuntimeDisplayString value := by
  rw [publishDisplayText_eq, h, if_neg Bool.false_ne_true]

theorem publish_of_sensitive {value : String} (h : Api.isSensitiveText toLowerCase value = true) :
    publishDisplayText toLowerCase value = redactedValue := by
  rw [publishDisplayText_eq, h, if_pos rfl]
  decide

theorem normalize_eq_self {value : String}
    (h : ∀ c ∈ value.toList, unsafeRuntimeDisplayCharacter c = false) :
    normalizeRuntimeDisplayString value = value := by
  have hkept : ∀ c ∈ value.toList, normalizeCharacter c = id c := fun c hc => by
    simp [normalizeCharacter, h c hc]
  rw [normalizeRuntimeDisplayString, List.map_congr_left hkept, List.map_id, String.ofList_toList]

theorem publish_of_displayable {value : String}
    (h : ∀ c ∈ value.toList, unsafeRuntimeDisplayCharacter c = false)
    (hinsensitive : Api.isSensitiveText toLowerCase value = false) :
    publishDisplayText toLowerCase value = value := by
  rw [publish_of_insensitive hinsensitive, normalize_eq_self h]

theorem insensitive_of_ascii (htable : LowersByTable toLowerCase) {value : String}
    (hascii : ∀ c ∈ value.toList, c.toNat < 128) (h : isSensitiveText value.toList = false) :
    Api.isSensitiveText toLowerCase value = false := by
  have habsent (mark : Char) (hmark : 128 ≤ mark.toNat) : mark ∉ value.toList := fun hmem => by
    have := hascii mark hmem
    omega
  rw [(classifications_agree_iff htable value).2 (readsAlike_of_absent
    (habsent kelvinSign (by decide)) (habsent nextLine (by decide))
    (habsent byteOrderMark (by decide))), h]

theorem quietCharacter {c : Char} (h : isQuietCharacter c = true) :
    c.toNat < 128 ∧ unsafeRuntimeDisplayCharacter c = false ∧ c.toLower ≠ ':' ∧
      c.toLower ≠ '=' ∧ c ≠ ':' ∧ c ≠ '[' := by
  have hascii : c.toNat < 128 := by
    simp only [isQuietCharacter, Bool.and_eq_true, decide_eq_true_eq] at h
    exact h.1.1.1.1
  exact forall_ascii (P := fun c => isQuietCharacter c = true → c.toNat < 128 ∧
    unsafeRuntimeDisplayCharacter c = false ∧ c.toLower ≠ ':' ∧ c.toLower ≠ '=' ∧
      c ≠ ':' ∧ c ≠ '[')
    (by decide) hascii h

theorem loud_words :
    (∀ word ∈ sensitiveWords, word = testMarker ∨ ':' ∈ word ∨ '=' ∈ word) ∧
      ∀ flag ∈ sensitiveFlags, "--".toList <+: flag := by
  decide

theorem isPlain_iff (value : String) : isPlain value = true ↔
    (∀ c ∈ value.toList, isQuietCharacter c = true) ∧
      ∀ word ∈ loudWords, ¬ word <:+: asciiLower value.toList := by
  simp only [isPlain, arePlain, Bool.and_eq_true, List.all_eq_true, Bool.not_eq_true',
    Bool.eq_false_iff, ne_eq, List.isInfixOf_internal_iff_isInfix]

/-- A literal is checked by its characters. -/
theorem isPlain_ofList {l : List Char} (h : arePlain l = true) :
    isPlain (String.ofList l) = true := by
  rw [isPlain, String.toList_ofList, h]

theorem insensitive_of_plain {value : String} (h : isPlain value = true) :
    isSensitiveText value.toList = false := by
  obtain ⟨hquiet, hloud⟩ := (isPlain_iff value).1 h
  obtain ⟨hwords, hflags⟩ := loud_words
  have hlower : ∀ c ∈ asciiLower value.toList, c ≠ ':' ∧ c ≠ '=' := by
    intro c hc
    obtain ⟨d, hd, rfl⟩ := List.mem_map.1 hc
    obtain ⟨-, -, hcolon, hequals, -⟩ := quietCharacter (hquiet d hd)
    exact ⟨hcolon, hequals⟩
  rw [Bool.eq_false_iff]
  intro hsensitive
  rcases (isSensitiveText_iff _).1 hsensitive with ⟨word, hword, hin⟩ | huserinfo |
    ⟨flag, hflag, a, b, hoccurs, -, -⟩ | ⟨a, b, hleads, -⟩
  · rcases hwords word hword with rfl | hcolon | hequals
    · exact hloud testMarker (by simp [loudWords]) hin
    · exact (hlower _ (hin.subset hcolon)).1 rfl
    · exact (hlower _ (hin.subset hequals)).2 rfl
  · unfold containsUrlUserinfo at huserinfo
    split at huserinfo
    · cases huserinfo
    · rename_i hfirst
      have hmem := (infix_of_afterFirst hfirst).subset (by decide : ':' ∈ "://".toList)
      exact (quietCharacter (hquiet _ hmem)).2.2.2.2.1 rfl
  · exact hloud "--".toList (by simp [loudWords])
      ((hflags flag hflag).isInfix.trans ⟨a, b, hoccurs.symm⟩)
  · exact hloud bearerWord (by simp [loudWords]) ⟨a, b, hleads.symm⟩

theorem insensitive_plain (htable : LowersByTable toLowerCase) {value : String}
    (h : isPlain value = true) : Api.isSensitiveText toLowerCase value = false :=
  insensitive_of_ascii htable (fun c hc => (quietCharacter (((isPlain_iff value).1 h).1 c hc)).1)
    (insensitive_of_plain h)

theorem publish_plain (htable : LowersByTable toLowerCase) {value : String}
    (h : isPlain value = true) : publishDisplayText toLowerCase value = value := by
  have hquiet := ((isPlain_iff value).1 h).1
  exact publish_of_displayable (fun c hc => (quietCharacter (hquiet c hc)).2.1)
    (insensitive_plain htable h)

theorem redact_plain {value : String} (h : isPlain value = true) :
    redactRuntimeDisplayText value = value :=
  IsPublished.redact_eq ⟨fun c hc => (quietCharacter (((isPlain_iff value).1 h).1 c hc)).2.1,
    insensitive_of_plain h⟩

theorem quiet_of_slug {c : Char} (h : isSlugCharacter c = true) :
    isQuietCharacter c = true ∧ c.toLower ≠ ' ' ∧ (c.toLower = '-' → c = '-') := by
  have hascii : c.toNat < 128 := by
    rw [isSlugCharacter, Bool.or_eq_true, Bool.or_eq_true, Bool.or_eq_true, beq_iff_eq, beq_iff_eq,
      beq_iff_eq] at h
    rcases h with ((halpha | rfl) | rfl) | rfl
    · exact ascii_of_isAlphanum halpha
    all_goals decide
  exact forall_ascii (P := fun c => isSlugCharacter c = true → isQuietCharacter c = true ∧
    c.toLower ≠ ' ' ∧ (c.toLower = '-' → c = '-')) (by decide) hascii h

/-- Slug characters are plain when no two dashes and no test marker stand in them. -/
theorem isPlain_of_slug {value : String} (hslug : ∀ c ∈ value.toList, isSlugCharacter c = true)
    (hdashes : value.toList.count '-' ≤ 1) (hmarker : ¬ testMarker <:+: asciiLower value.toList) :
    isPlain value = true := by
  refine (isPlain_iff value).2 ⟨fun c hc => (quiet_of_slug (hslug c hc)).1, ?_⟩
  simp only [loudWords, List.forall_mem_cons, List.not_mem_nil, IsEmpty.forall_iff, implies_true,
    and_true]
  refine ⟨fun hin => ?_, hmarker, fun hin => ?_⟩
  · have hcount : (asciiLower value.toList).count '-' ≤ value.toList.count '-' := by
      simp only [asciiLower, List.count, List.countP_map]
      refine List.countP_mono_left fun c hc hdash => ?_
      rw [Function.comp_apply, beq_iff_eq] at hdash
      rw [(quiet_of_slug (hslug c hc)).2.2 hdash]
      rfl
    have htwo : 2 ≤ (asciiLower value.toList).count '-' := hin.sublist.count_le '-'
    omega
  · obtain ⟨c, hc, hspace⟩ := List.mem_map.1 (hin.subset (by decide : ' ' ∈ bearerWord))
    exact (quiet_of_slug (hslug c hc)).2.1 hspace

theorem publish_ne_empty {value : String} (h : value ≠ "") :
    publishDisplayText toLowerCase value ≠ "" := by
  cases hsensitive : Api.isSensitiveText toLowerCase value with
  | true =>
    rw [publish_of_sensitive hsensitive]
    decide
  | false =>
    rw [publish_of_insensitive hsensitive]
    intro heq
    have hnil := congrArg String.toList heq
    rw [normalizeRuntimeDisplayString, String.toList_ofList] at hnil
    exact h (String.toList_injective (List.map_eq_nil_iff.1 hnil))

/-- Only a number is published as a number. -/
theorem eq_numberText_of_publish {value : String} {n : ℕ}
    (h : publishDisplayText toLowerCase value = String.ofList (JavaScript.numberText n)) :
    value = String.ofList (JavaScript.numberText n) := by
  have hnumeral (c : Char) (hc : ¬ JavaScript.IsNumeral c) : c ∉ JavaScript.numberText n :=
    fun hmem => hc (JavaScript.isNumeral_of_mem_numberText hmem)
  cases hsensitive : Api.isSensitiveText toLowerCase value with
  | true =>
    rw [publish_of_sensitive hsensitive] at h
    have hmem : '[' ∈ JavaScript.numberText n := by
      rw [← String.toList_ofList (l := JavaScript.numberText n), ← h]
      decide
    exact absurd hmem (hnumeral _ (by simp [JavaScript.IsNumeral]))
  | false =>
    rw [publish_of_insensitive hsensitive, normalizeRuntimeDisplayString,
      String.ofList_inj] at h
    rw [← masks_normalizeCharacter.eq_of_map h (hnumeral _ (by
      unfold JavaScript.IsNumeral
      decide)), String.ofList_toList]

/-- The boundary neither makes nor breaks the start of a text it does not redact. -/
theorem startsWith_publish {value word : String} (hword : isPlain word = true)
    (hinsensitive : Api.isSensitiveText toLowerCase value = false) :
    startsWith (publishDisplayText toLowerCase value).toList word.toList =
      startsWith value.toList word.toList := by
  have hquiet := ((isPlain_iff word).1 hword).1
  have hmark : replacementCharacter ∉ word.toList := fun hmem =>
    absurd (quietCharacter (hquiet _ hmem)).1 (by decide)
  rw [publish_of_insensitive hinsensitive, normalizeRuntimeDisplayString, String.toList_ofList]
  simp only [startsWith, masks_normalizeCharacter.prefix_iff hmark fun c hc => by
    simp [normalizeCharacter, (quietCharacter (hquiet c hc)).2.1]]

/-- A redacted text starts with no plain word. -/
theorem insensitive_of_startsWith {value word : String} (hword : isPlain word = true)
    (hne : word ≠ "") (h : startsWith (publishDisplayText toLowerCase value).toList
      word.toList = true) : Api.isSensitiveText toLowerCase value = false := by
  rw [Bool.eq_false_iff]
  intro hsensitive
  rw [publish_of_sensitive hsensitive, startsWith, decide_eq_true_eq] at h
  cases hlist : word.toList with
  | nil => exact hne (String.toList_injective hlist)
  | cons c rest =>
    have hquiet := ((isPlain_iff word).1 hword).1 c (by simp [hlist])
    have hmarker : redactedValue.toList = '[' :: "redacted]".toList := by decide
    rw [hlist, hmarker, List.cons_prefix_cons] at h
    exact (quietCharacter hquiet).2.2.2.2.2 h.1

/-! Encoded values -/

theorem publishItems_eq_map (items : List Json) :
    Api.publishItems toLowerCase items = items.map (publishApiPayload toLowerCase) := by
  induction items with
  | nil => rfl
  | cons item items ih => rw [Api.publishItems, ih, List.map_cons]

theorem publishEntries_eq_map (entries : List (String × Json)) :
    Api.publishEntries toLowerCase entries = entries.map fun entry =>
      (publishDisplayText toLowerCase entry.1, publishApiPayload toLowerCase entry.2) := by
  induction entries with
  | nil => rfl
  | cons entry entries ih => rw [Api.publishEntries, ih, List.map_cons]

/-- Distinct names are all kept. -/
theorem fromEntries_of_nodup {entries : List (String × Json)}
    (h : (entries.map Prod.fst).Nodup) : Api.fromEntries entries = entries := by
  have hpre (l front : List (String × Json)) (hnodup : ((front ++ l).map Prod.fst).Nodup) :
      l.foldl (fun fields entry =>
        if (fields.map Prod.fst).contains entry.1 then
          fields.map fun field => if field.1 = entry.1 then entry else field
        else fields ++ [entry]) front = front ++ l := by
    induction l generalizing front with
    | nil => rw [List.foldl_nil, List.append_nil]
    | cons entry l ih =>
      have hfresh : (front.map Prod.fst).contains entry.1 = false := by
        rw [List.map_append, List.map_cons] at hnodup
        have hdisjoint := (List.nodup_append.1 hnodup).2.2
        rw [Bool.eq_false_iff, Ne, List.contains_iff_mem]
        exact fun hmem => hdisjoint _ hmem _ List.mem_cons_self rfl
      rw [List.foldl_cons, hfresh, if_neg Bool.false_ne_true, ih _ (by simpa using hnodup),
        List.append_assoc, List.singleton_append]
  exact hpre entries [] h

theorem present_map {fields : List (String × Option Json)} (f : Json → Json) :
    present (fields.map fun field => (field.1, field.2.map f)) =
      (present fields).map fun field => (field.1, f field.2) := by
  induction fields with
  | nil => rfl
  | cons field fields ih =>
    obtain ⟨name, value⟩ := field
    cases value with
    | none => exact ih
    | some value => rw [List.map_cons, Option.map_some, present, ih, present, List.map_cons]

theorem names_present (fields : List (String × Option Json)) :
    List.Sublist ((present fields).map Prod.fst) (fields.map Prod.fst) := by
  induction fields with
  | nil => exact List.Sublist.refl _
  | cons field fields ih =>
    obtain ⟨name, value⟩ := field
    cases value with
    | none => exact ih.cons _
    | some value => exact ih.cons_cons _

/-- A record with plain, distinct names is published field by field. -/
theorem publish_record (htable : LowersByTable toLowerCase) {fields : List (String × Option Json)}
    (names : List String) (hnames : fields.map Prod.fst = names)
    (hplain : ∀ name ∈ names, isPlain name = true) (hnodup : names.Nodup) :
    publishApiPayload toLowerCase (record fields) =
      record (fields.map fun field => (field.1, field.2.map (publishApiPayload toLowerCase))) := by
  subst hnames
  have hkept : ∀ field ∈ present fields,
      publishDisplayText toLowerCase field.1 = field.1 := fun field hfield =>
    publish_plain htable (hplain _ ((names_present fields).subset (List.mem_map_of_mem hfield)))
  have hentries : Api.publishEntries toLowerCase (present fields) =
      (present fields).map fun field => (field.1, publishApiPayload toLowerCase field.2) := by
    rw [publishEntries_eq_map]
    exact List.map_congr_left fun field hfield => by rw [hkept field hfield]
  rw [record, publishApiPayload, hentries, fromEntries_of_nodup, record, present_map]
  rw [List.map_map]
  exact hnodup.sublist (names_present fields)

/-- A variant name passes when it is plain. -/
theorem publish_name (htable : LowersByTable toLowerCase) {name : String}
    (h : isPlain name = true) :
    publishApiPayload toLowerCase (.str name) = .str name := by
  rw [publishApiPayload, publish_plain htable h]

theorem isPlain_wireNames :
    (∀ provider : RuntimeEvidenceProvider, isPlain provider.wireName = true) ∧
      (∀ kind : RuntimeEvidenceKind, isPlain kind.wireName = true) ∧
      (∀ kind : RuntimeEvidenceAssertionKind, isPlain kind.wireName = true) ∧
      (∀ slot : ProviderSlot, isPlain slot.wireName = true) ∧
      (∀ freshness : RuntimeEvidenceFreshness, isPlain freshness.wireName = true) ∧
      (∀ rule : FindingRule, isPlain rule.wireName = true) ∧
      ∀ severity : FindingSeverity, isPlain severity.wireName = true := by
  refine ⟨?_, ?_, ?_, ?_, ?_, ?_, ?_⟩ <;> rintro ⟨⟩ <;>
    exact isPlain_ofList (by decide)

section

variable (toLowerCase)

/-- The evidence as the browser gets it. -/
def publishEvidenceRef (evidence : RuntimeEvidenceRef) : RuntimeEvidenceRef :=
  { evidence with
    id := publishDisplayText toLowerCase evidence.id
    summary := publishDisplayText toLowerCase evidence.summary
    subjectRef := publishDisplayText toLowerCase evidence.subjectRef
    providerRevision := publishDisplayText toLowerCase evidence.providerRevision }

/-- The finding as the browser gets it. -/
def publishFinding (finding : Finding) : Finding :=
  { finding with
    id := publishDisplayText toLowerCase finding.id
    summary := publishDisplayText toLowerCase finding.summary
    recommendation := publishDisplayText toLowerCase finding.recommendation
    subjectRef := publishDisplayText toLowerCase finding.subjectRef
    targetRef := publishDisplayText toLowerCase finding.targetRef
    evidenceRefs := finding.evidenceRefs.map (publishEvidenceRef toLowerCase) }

end

def evidenceNames : List String :=
  ["version", "id", "provider", "kind", "assertionKind", "summary", "subjectRef", "collectedAt",
    "providerRevision", "providerSlot", "freshness"]

def findingNames : List String :=
  ["id", "ruleId", "severity", "summary", "recommendation", "subjectRef", "targetRef",
    "evidenceRefs"]

theorem publish_encode_evidence (htable : LowersByTable toLowerCase)
    (evidence : RuntimeEvidenceRef) : publishApiPayload toLowerCase (encode evidence) =
      encode (publishEvidenceRef toLowerCase evidence) := by
  obtain ⟨hprovider, hkind, hassertion, hslot, hfreshness, -, -⟩ := isPlain_wireNames
  have hslots : (evidence.providerSlot.map encode).map (publishApiPayload toLowerCase) =
      evidence.providerSlot.map encode := by
    cases evidence.providerSlot with
    | none => rfl
    | some slot => exact congrArg some (publish_name htable (hslot slot))
  have hproviderName := publish_name htable (hprovider evidence.provider)
  have hkindName := publish_name htable (hkind evidence.kind)
  have hassertionName := publish_name htable (hassertion evidence.assertionKind)
  have hfreshnessName := publish_name htable (hfreshness evidence.freshness)
  refine (publish_record htable evidenceNames rfl (by decide +kernel) (by decide +kernel)).trans ?_
  simp only [List.map_cons, List.map_nil, Option.map_some, hslots]
  change record [_, _, ("provider", some (publishApiPayload toLowerCase (.str _))),
    ("kind", some (publishApiPayload toLowerCase (.str _))),
    ("assertionKind", some (publishApiPayload toLowerCase (.str _))), _, _, _, _, _,
    ("freshness", some (publishApiPayload toLowerCase (.str _)))] = _
  rw [hproviderName, hkindName, hassertionName, hfreshnessName]
  unfold publishEvidenceRef
  rfl

theorem publish_encode_finding (htable : LowersByTable toLowerCase) (finding : Finding) :
    publishApiPayload toLowerCase (encode finding) =
      encode (publishFinding toLowerCase finding) := by
  obtain ⟨-, -, -, -, -, hrule, hseverity⟩ := isPlain_wireNames
  have hruleName := publish_name htable (hrule finding.ruleId)
  have hseverityName := publish_name htable (hseverity finding.severity)
  have hrefs : publishApiPayload toLowerCase (encode finding.evidenceRefs) =
      encode (finding.evidenceRefs.map (publishEvidenceRef toLowerCase)) := by
    change publishApiPayload toLowerCase (.arr (finding.evidenceRefs.map encode)) =
      .arr ((finding.evidenceRefs.map (publishEvidenceRef toLowerCase)).map encode)
    rw [publishApiPayload, publishItems_eq_map, List.map_map, List.map_map]
    exact congrArg Json.arr (List.map_congr_left fun evidence _ =>
      publish_encode_evidence htable evidence)
  refine (publish_record htable findingNames rfl (by decide +kernel) (by decide +kernel)).trans ?_
  simp only [List.map_cons, List.map_nil, Option.map_some, hrefs]
  change record [_, ("ruleId", some (publishApiPayload toLowerCase (.str _))),
    ("severity", some (publishApiPayload toLowerCase (.str _))), _, _, _, _, _] = _
  rw [hruleName, hseverityName]
  unfold publishFinding
  rfl

end DockerMap
