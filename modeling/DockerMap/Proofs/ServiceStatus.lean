import DockerMap.Web.ServiceStatus

/-! When the five readings of a container's status text give one verdict. The text is free;
the readings look at its front, its leading token, a health marker in parentheses or single
words anywhere in it. -/

namespace DockerMap.Web

open JavaScript (codeUnits isSpaceUnit unitsOf trimUnits)
open Atlas (UnicodeTables AtlasOperationalState statusWindowCap)

/-! Lower case -/

def isSeparator (unit : ℕ) : Bool := isSpaceUnit unit || unit == openParen

def lowerUnit (unit : ℕ) : ℕ := if 'A'.toNat ≤ unit ∧ unit ≤ 'Z'.toNat then unit + 32 else unit

/-- What `toLowerCase` can put in place of a unit: ASCII and white space go by themselves, and
nothing else becomes white space or a parenthesis. -/
def UnitImage (unit : ℕ) (image : List ℕ) : Prop :=
  if unit < 128 ∨ isSpaceUnit unit = true then image = [lowerUnit unit]
  else image ≠ [] ∧ ∀ v ∈ image, isSeparator v = false

def LowersByUnits (toLowerCase : List ℕ → List ℕ) : Prop :=
  ∀ units, ∃ pieces, List.Forall₂ UnitImage units pieces ∧ toLowerCase units = pieces.flatten

theorem pieces_append {front rest : List ℕ} {pieces : List (List ℕ)}
    (hfront : ∀ u ∈ front, u < 128) (h : List.Forall₂ UnitImage (front ++ rest) pieces) :
    ∃ others, List.Forall₂ UnitImage rest others ∧
      pieces.flatten = front.map lowerUnit ++ others.flatten := by
  induction front generalizing pieces with
  | nil => exact ⟨pieces, h, rfl⟩
  | cons unit front ih =>
    obtain ⟨image, images, himage, himages, rfl⟩ := List.forall₂_cons_left_iff.1 h
    obtain ⟨others, hothers, hflatten⟩ :=
      ih (fun u hu => hfront u (List.mem_cons_of_mem _ hu)) himages
    rw [UnitImage, if_pos (.inl (hfront unit List.mem_cons_self))] at himage
    refine ⟨others, hothers, ?_⟩
    rw [List.flatten_cons, hflatten, himage]
    rfl

theorem leadingToken_append {front : List ℕ} (h : ∀ u ∈ front, isSeparator u = false)
    (rest : List ℕ) : leadingToken (front ++ rest) = front ++ leadingToken rest :=
  List.takeWhile_append_of_pos fun u hu => by
    have := h u hu
    rw [isSeparator] at this
    simp [this]

theorem leadingToken_cons (unit : ℕ) (rest : List ℕ) :
    leadingToken (unit :: rest) = if isSeparator unit then [] else unit :: leadingToken rest := by
  rw [leadingToken, List.takeWhile_cons, isSeparator]
  cases isSpaceUnit unit || unit == openParen <;> rfl

theorem isSeparator_lowerUnit (unit : ℕ) : isSeparator (lowerUnit unit) = isSeparator unit := by
  unfold lowerUnit
  split_ifs with hupper
  · have hsmall : ∀ n < 128, 'A'.toNat ≤ n ∧ n ≤ 'Z'.toNat →
        isSeparator (n + 32) = isSeparator n := by decide
    exact hsmall unit (lt_of_le_of_lt hupper.2 (by decide)) hupper
  · rfl

/-- The lower case of a text begins with a separator exactly when the text does. -/
theorem leadingToken_pieces {rest : List ℕ} {pieces : List (List ℕ)}
    (h : List.Forall₂ UnitImage rest pieces) :
    leadingToken pieces.flatten = [] ↔ ∀ u ∈ rest.head?, isSeparator u = true := by
  cases h with
  | nil => exact iff_of_true rfl fun u hu => by cases hu
  | @cons unit image rest images himage himages =>
    rw [List.flatten_cons]
    unfold UnitImage at himage
    simp only [List.head?_cons, Option.mem_def, Option.some.injEq, forall_eq']
    split_ifs at himage with hplain
    · rw [himage, List.singleton_append, leadingToken_cons, isSeparator_lowerUnit]
      cases isSeparator unit <;> simp
    · obtain ⟨hne, hnone⟩ := himage
      rw [leadingToken_append hnone]
      refine iff_of_false (fun hnil => hne (List.append_eq_nil_iff.1 hnil).1) fun hsep => ?_
      rw [not_or] at hplain
      have hparen : unit ≠ openParen := fun heq => hplain.1 (by rw [heq]; decide)
      simp [isSeparator, hplain.2, hparen] at hsep

/-! Words of the ASCII alphabet in front of a text -/

theorem lower_letter {c : Char} (h : isLowerUnit c.toLower.toNat = true) :
    c.toNat < 128 ∧ lowerUnit c.toNat = c.toLower.toNat ∧ isSeparator c.toNat = false := by
  have hascii : c.toNat < 128 := by
    by_contra hnot
    rw [Text.toLower_of_not_ascii (Nat.le_of_not_lt hnot)] at h
    simp only [isLowerUnit, Bool.and_eq_true, decide_eq_true_eq] at h
    have hz : 'z'.toNat = 122 := rfl
    omega
  refine ⟨hascii, ?_⟩
  exact Text.forall_ascii (P := fun c => isLowerUnit c.toLower.toNat = true →
    lowerUnit c.toNat = c.toLower.toNat ∧ isSeparator c.toNat = false) (by decide) hascii h

theorem units_of_ascii {chars : List Char} (h : ∀ c ∈ chars, c.toNat < 128) :
    chars.flatMap unitsOf = chars.map Char.toNat := by
  induction chars with
  | nil => rfl
  | cons c chars ih =>
    have hc := h c List.mem_cons_self
    rw [List.flatMap_cons, List.map_cons, ih fun d hd => h d (List.mem_cons_of_mem _ hd), unitsOf,
      if_pos (by omega)]
    rfl

/-- A word in lower case letters that fits in the leading window. -/
structure StatusWord (word : String) : Prop where
  nonempty : word.toList ≠ []
  short : word.toList.length ≤ statusWindowCap
  letters : ∀ c ∈ word.toList, isLowerUnit c.toNat = true

instance (word : String) : Decidable (StatusWord word) :=
  decidable_of_iff (word.toList ≠ [] ∧ word.toList.length ≤ statusWindowCap ∧
    ∀ c ∈ word.toList, isLowerUnit c.toNat = true)
    ⟨fun h => ⟨h.1, h.2.1, h.2.2⟩, fun h => ⟨h.nonempty, h.short, h.letters⟩⟩

/-- The units of a text whose ASCII lower case begins with a word. -/
structure FrontUnits (word : String) (front : List ℕ) : Prop where
  ascii : ∀ u ∈ front, u < 128
  letters : ∀ u ∈ front, isSeparator u = false
  lower : front.map lowerUnit = codeUnits word

theorem exists_front {word : String} (hword : StatusWord word) {front rest : List Char}
    (h : Text.asciiLower front = word.toList) (text : String) (htext : text.toList = front ++ rest) :
    FrontUnits word (front.map Char.toNat) ∧
      codeUnits text = front.map Char.toNat ++ rest.flatMap unitsOf := by
  have hletter : ∀ c ∈ front, isLowerUnit c.toLower.toNat = true := by
    intro c hc
    refine hword.letters c.toLower ?_
    rw [← h]
    exact List.mem_map_of_mem hc
  have hascii : ∀ c ∈ front, c.toNat < 128 := fun c hc => (lower_letter (hletter c hc)).1
  refine ⟨⟨?_, ?_, ?_⟩, ?_⟩
  · exact List.forall_mem_map.2 hascii
  · exact List.forall_mem_map.2 fun c hc => (lower_letter (hletter c hc)).2.2
  · have hwordascii : ∀ c ∈ word.toList, c.toNat < 128 := by
      rw [← h]
      refine List.forall_mem_map.2 fun c hc => ?_
      rw [← (lower_letter (hletter c hc)).2.1]
      have hle := hascii c hc
      unfold lowerUnit
      have hz : 'Z'.toNat = 90 := rfl
      split_ifs <;> omega
    rw [codeUnits, units_of_ascii hwordascii, ← h, Text.asciiLower, List.map_map, List.map_map]
    exact List.map_congr_left fun c hc => (lower_letter (hletter c hc)).2.1
  · rw [codeUnits, htext, List.flatMap_append, units_of_ascii hascii]

/-- Trimming a text that begins with letters takes from its end only. -/
theorem trimUnits_front {word : String} {front : List ℕ} (hfront : FrontUnits word front)
    (hne : front ≠ []) (rest : List ℕ) :
    ∃ kept, kept <+: rest ∧ trimUnits (front ++ rest) = front ++ kept := by
  have hspace : ∀ u ∈ front, isSpaceUnit u = false := by
    intro u hu
    have hletter := hfront.letters u hu
    rw [isSeparator, Bool.or_eq_false_iff] at hletter
    exact hletter.1
  have hstart (tail : List ℕ) : (front ++ tail).dropWhile isSpaceUnit = front ++ tail := by
    obtain ⟨u, units, rfl⟩ := List.exists_cons_of_ne_nil hne
    exact List.dropWhile_cons_of_neg (by simp [hspace u List.mem_cons_self])
  have hend : front.reverse.dropWhile isSpaceUnit = front.reverse := by
    obtain ⟨u, units, hreverse⟩ := List.exists_cons_of_ne_nil (List.reverse_ne_nil_iff.2 hne)
    have hu : u ∈ front := List.mem_reverse.1 (hreverse ▸ List.mem_cons_self)
    rw [hreverse]
    exact List.dropWhile_cons_of_neg (by simp [hspace u hu])
  refine ⟨(rest.reverse.dropWhile isSpaceUnit).reverse, ?_, ?_⟩
  · have hsuffix := List.reverse_prefix.2 (List.dropWhile_suffix (l := rest.reverse) isSpaceUnit)
    rwa [List.reverse_reverse] at hsuffix
  · rw [trimUnits, JavaScript.trimBy, hstart, List.reverse_append, List.dropWhile_append, hend]
    split_ifs with hempty
    · rw [List.isEmpty_iff.1 hempty, List.reverse_reverse, List.reverse_nil, List.append_nil]
    · rw [List.reverse_append, List.reverse_reverse]

/-- What the ASCII lower case of a text says of its lower case and of that of its window. -/
structure ReadsAlike (ascii : List Char) (text window : List ℕ) : Prop where
  front : ∀ word, StatusWord word → word.toList <+: ascii →
    codeUnits word <+: leadingToken text ∧ codeUnits word <+: leadingToken window
  whole : ∀ word, StatusWord word → ascii = word.toList →
    text = codeUnits word ∧ window = codeUnits word
  token : ∀ word, StatusWord word → word.toList <+: ascii →
    leadingToken text = codeUnits word → leadingToken window = codeUnits word

section

variable {toLowerCase : List ℕ → List ℕ}

theorem lower_front (htable : LowersByUnits toLowerCase) {word : String} {front : List ℕ}
    (hfront : FrontUnits word front) (rest : List ℕ) :
    codeUnits word <+: leadingToken (toLowerCase (front ++ rest)) ∧
      (rest = [] → toLowerCase (front ++ rest) = codeUnits word) ∧
      (leadingToken (toLowerCase (front ++ rest)) = codeUnits word ↔
        ∀ u ∈ rest.head?, isSeparator u = true) := by
  obtain ⟨pieces, hpieces, hlower⟩ := htable (front ++ rest)
  obtain ⟨others, hothers, hflatten⟩ := pieces_append hfront.ascii hpieces
  have hletters : ∀ u ∈ codeUnits word, isSeparator u = false := by
    rw [← hfront.lower]
    refine List.forall_mem_map.2 fun u hu => ?_
    rw [isSeparator_lowerUnit, hfront.letters u hu]
  rw [hlower, hflatten, hfront.lower, leadingToken_append hletters]
  refine ⟨List.prefix_append _ _, ?_, ?_⟩
  · rintro rfl
    rw [List.forall₂_nil_left_iff.1 hothers, List.flatten_nil, List.append_nil]
  · rw [List.append_right_eq_self]
    exact leadingToken_pieces hothers

theorem readsAlike (htable : LowersByUnits toLowerCase) (text : String) :
    ReadsAlike (Text.asciiLower text.toList) (toLowerCase (codeUnits text))
      (toLowerCase (trimUnits ((codeUnits text).take statusWindowCap))) := by
  -- a word in front of the text is in front of its window too
  have hparts : ∀ word, StatusWord word → word.toList <+: Text.asciiLower text.toList →
      ∃ front rest kept, FrontUnits word front ∧ codeUnits text = front ++ rest ∧
        trimUnits ((codeUnits text).take statusWindowCap) = front ++ kept ∧ kept <+: rest ∧
        (Text.asciiLower text.toList = word.toList → rest = []) := by
    intro word hword hprefix
    obtain ⟨tail, htail⟩ := hprefix
    obtain ⟨chars, others, htext, hchars, hothers⟩ := List.map_eq_append_iff.1 htail.symm
    obtain ⟨hfront, hunits⟩ := exists_front hword hchars text htext
    have hlength : (chars.map Char.toNat).length = word.toList.length := by
      rw [← hchars, List.length_map, List.length_map]
    have hne : chars.map Char.toNat ≠ [] := by
      rw [← List.length_pos_iff, hlength, List.length_pos_iff]
      exact hword.nonempty
    have htake : (codeUnits text).take statusWindowCap = chars.map Char.toNat ++
        (others.flatMap unitsOf).take (statusWindowCap - (chars.map Char.toNat).length) := by
      rw [hunits, List.take_append, List.take_of_length_le (hlength ▸ hword.short)]
    obtain ⟨kept, hkept, htrim⟩ := trimUnits_front hfront hne
      ((others.flatMap unitsOf).take (statusWindowCap - (chars.map Char.toNat).length))
    refine ⟨_, _, kept, hfront, hunits, htake ▸ htrim, hkept.trans (List.take_prefix _ _), ?_⟩
    intro hwhole
    rw [← htail] at hwhole
    have hnil : tail = [] := List.append_right_eq_self.1 hwhole
    rw [hnil] at hothers
    rw [List.map_eq_nil_iff.1 hothers]
    rfl
  refine ⟨fun word hword hprefix => ?_, fun word hword hwhole => ?_,
    fun word hword hprefix htoken => ?_⟩
  · obtain ⟨front, rest, kept, hfront, hunits, hwindow, -, -⟩ := hparts word hword hprefix
    rw [hunits] at hwindow ⊢
    rw [hwindow]
    exact ⟨(lower_front htable hfront rest).1, (lower_front htable hfront kept).1⟩
  · obtain ⟨front, rest, kept, hfront, hunits, hwindow, hkept, hrest⟩ :=
      hparts word hword (hwhole ▸ List.prefix_rfl)
    obtain rfl := hrest hwhole
    obtain rfl := List.prefix_nil.1 hkept
    rw [hwindow, hunits]
    exact ⟨(lower_front htable hfront []).2.1 rfl, (lower_front htable hfront []).2.1 rfl⟩
  · obtain ⟨front, rest, kept, hfront, hunits, hwindow, hkept, -⟩ := hparts word hword hprefix
    rw [hunits] at hwindow htoken
    rw [hunits, hwindow]
    have hsep := (lower_front htable hfront rest).2.2.1 htoken
    refine (lower_front htable hfront kept).2.2.2 fun u hu => hsep u ?_
    obtain ⟨tail, rfl⟩ := hkept
    rw [Option.mem_def, List.head?_append, Option.mem_def.1 hu]
    rfl

end

/-! Verdicts -/

/-- What a reading says of a container: that it runs well, that it is degraded, unhealthy or
offline, and whether it is offline. -/
structure Verdict where
  good : Bool := false
  bad : Bool := false
  offline : Bool := false
  deriving DecidableEq

def ServiceState.verdict : ServiceState → Verdict
  | healthy => { good := true }
  | degraded => { bad := true }
  | offline => { bad := true, offline := true }
  | warning | updating | unknown => {}

def ContainerStatusKind.verdict : ContainerStatusKind → Verdict
  | running => { good := true }
  | offline => { bad := true, offline := true }
  | attention => {}

def operationalVerdict : AtlasOperationalState → Verdict
  | .healthy => { good := true }
  | .degraded => { bad := true }
  | .offline => { bad := true, offline := true }
  | .warning | .updating | .unknown => {}

def serviceVerdict : RuntimeServiceStatus → Verdict
  | .running => { good := true }
  | .degraded | .failed => { bad := true }
  | .stopped => { bad := true, offline := true }
  | .starting | .stopping | .unknown => {}

/-- None says that the container runs well where another says the opposite, and all agree on
whether it is offline. -/
def OneVerdict (verdicts : List Verdict) : Prop :=
  (∀ v ∈ verdicts, ∀ w ∈ verdicts, ¬ (v.good = true ∧ w.bad = true)) ∧
    ∀ v ∈ verdicts, ∀ w ∈ verdicts, v.offline = w.offline

instance (verdicts : List Verdict) : Decidable (OneVerdict verdicts) :=
  inferInstanceAs (Decidable ((∀ v ∈ verdicts, ∀ w ∈ verdicts,
    ¬ (v.good = true ∧ w.bad = true)) ∧ ∀ v ∈ verdicts, ∀ w ∈ verdicts, v.offline = w.offline))

theorem oneVerdict_iff (verdicts : List Verdict) : OneVerdict verdicts ↔
    ¬ (verdicts.any Verdict.good = true ∧ verdicts.any Verdict.bad = true) ∧
      (verdicts.all Verdict.offline = true ∨ verdicts.any Verdict.offline = false) := by
  simp only [List.any_eq_true, List.all_eq_true, List.any_eq_false, Bool.not_eq_true]
  refine and_congr ⟨?_, ?_⟩ ⟨?_, ?_⟩
  · rintro h ⟨⟨v, hv, hgood⟩, w, hw, hbad⟩
    exact h v hv w hw ⟨hgood, hbad⟩
  · intro h v hv w hw hboth
    exact h ⟨⟨v, hv, hboth.1⟩, w, hw, hboth.2⟩
  · intro h
    by_cases hall : ∀ v ∈ verdicts, v.offline = true
    · exact .inl hall
    · push Not at hall
      obtain ⟨v, hv, hoff⟩ := hall
      exact .inr fun w hw => (h w hw v hv).trans (Bool.not_eq_true _ ▸ hoff)
  · rintro (hall | hnone) v hv w hw
    · rw [hall v hv, hall w hw]
    · rw [hnone v hv, hnone w hw]

/-- The five readings by the status, the lower case of the text and that of its window. -/
def verdictsOf (status : RuntimeServiceStatus) (text window : List ℕ) : List Verdict :=
  [((((healthMarker text).bind markerState).or (lookupState (leadingToken text))).map
      ServiceState.verdict).getD {},
    (((healthMarker text).bind markerKind).getD (kindOfToken (leadingToken text))).verdict,
    (((stateOfText (codeUnits status.wireName)).or (stateOfText text)).getD .unknown).verdict,
    operationalVerdict (Atlas.stateOfWord (leadingToken window)),
    serviceVerdict status]

section

variable (unicode : UnicodeTables) (container : ContainerRecord)

/-- What the product says of a container: the service card, the status endpoint, the runtime
node, the Atlas subject and the status that the findings use. -/
def verdicts : List Verdict :=
  [((stateForStatus unicode (some container.status)).map ServiceState.verdict).getD {},
    (containerStatusKind unicode container.status).verdict,
    (runtimeStateForNode unicode (containerNode container)).verdict,
    operationalVerdict (Atlas.stateForRuntimeStatus unicode
      ((containerNode container).status.map Json.str)),
    serviceVerdict (.fromStatusText container.status)]

def statusText : List ℕ := unicode.toLowerCase (codeUnits container.status)

def statusWindow : List ℕ :=
  unicode.toLowerCase (trimUnits ((codeUnits container.status).take statusWindowCap))

variable {unicode container}

theorem toLowerCase_word (htable : LowersByUnits unicode.toLowerCase) {word : String}
    (h : ∀ u ∈ codeUnits word, u < 128 ∧ lowerUnit u = u) :
    unicode.toLowerCase (codeUnits word) = codeUnits word := by
  obtain ⟨pieces, hpieces, hlower⟩ := htable (codeUnits word)
  have hself : codeUnits word ++ [] = codeUnits word := List.append_nil _
  rw [← hself] at hpieces
  obtain ⟨others, hothers, hflatten⟩ := pieces_append (fun u hu => (h u hu).1) hpieces
  rw [hlower, hflatten, List.forall₂_nil_left_iff.1 hothers, List.flatten_nil, List.append_nil]
  rw [List.map_congr_left fun u hu => (h u hu).2, List.map_id']

theorem findSome?_candidates {first second : List ℕ} (h : first ≠ []) :
    ([first, second].filter (· ≠ [])).findSome? stateOfText =
      (stateOfText first).or (stateOfText second) := by
  rw [List.filter_cons_of_pos (by simpa using h), List.findSome?_cons]
  by_cases hsecond : second = []
  · have hempty : stateOfText [] = none := by decide
    rw [hsecond, List.filter_cons_of_neg (by simp), hempty, List.filter_nil, List.findSome?_nil]
    cases stateOfText first <;> rfl
  · rw [List.filter_cons_of_pos (by simpa using hsecond), List.filter_nil, List.findSome?_cons,
      List.findSome?_nil]
    cases stateOfText first <;> cases stateOfText second <;> rfl

theorem verdicts_eq (htable : LowersByUnits unicode.toLowerCase) : verdicts unicode container =
    verdictsOf (.fromStatusText container.status) (statusText unicode container)
      (statusWindow unicode container) := by
  have hnil : unicode.toLowerCase [] = [] :=
    by
    have hempty : codeUnits "" = [] := rfl
    rw [← hempty]
    exact toLowerCase_word htable fun u hu => absurd hu List.not_mem_nil
  have hcard : stateForStatus unicode (some container.status) =
      ((healthMarker (statusText unicode container)).bind markerState).or
        (lookupState (leadingToken (statusText unicode container))) := by
    unfold stateForStatus statusText
    by_cases hempty : container.status = ""
    · have htext : codeUnits container.status = [] := by rw [hempty]; rfl
      rw [htext, hnil, hempty]
      rfl
    · rw [Option.filter_some, if_pos (by simpa using hempty)]
      simp only
      cases (healthMarker (unicode.toLowerCase (codeUnits container.status))).bind markerState <;>
        rfl
  have hname : ∀ status : RuntimeServiceStatus,
      unicode.toLowerCase (codeUnits status.wireName) = codeUnits status.wireName := by
    intro status
    refine toLowerCase_word htable ?_
    cases status <;> decide
  have hnode : runtimeStateForNode unicode (containerNode container) =
      ((stateOfText (codeUnits (RuntimeServiceStatus.fromStatusText container.status).wireName)).or
        (stateOfText (statusText unicode container))).getD .unknown := by
    have hcandidates : runtimeStateForNode unicode (containerNode container) =
        (([unicode.toLowerCase (codeUnits
            (RuntimeServiceStatus.fromStatusText container.status).wireName),
          statusText unicode container].filter (· ≠ [])).findSome? stateOfText).getD .unknown := rfl
    rw [hcandidates, hname, findSome?_candidates]
    cases RuntimeServiceStatus.fromStatusText container.status <;> decide
  rw [verdicts, hcard, hnode]
  rfl

end

/-! What the readings look for -/

/-- The health marker is one of the words. -/
def HasMarker (words : List String) (text : List ℕ) : Prop :=
  ∃ marker ∈ healthMarker text, Among words marker

instance (words : List String) (text : List ℕ) : Decidable (HasMarker words text) :=
  inferInstanceAs (Decidable (∃ marker ∈ healthMarker text, Among words marker))

def knownMarkers : List String :=
  ["unhealthy", "degraded", "starting", "started", "updating", "healthy"]

def goodTokens : List String := ["running", "up", "healthy"]

def offlineTokens : List String := ["stopped", "exited", "dead", "down"]

theorem among_codeUnits {words : List String} {word : String} :
    Among words (codeUnits word) ↔ word ∈ words :=
  List.mem_map_of_injective JavaScript.codeUnits_injective

theorem Among.mono {words more : List String} {units : List ℕ} (h : Among words units)
    (hsub : ∀ word ∈ words, word ∈ more) : Among more units := by
  obtain ⟨word, hword, rfl⟩ := List.mem_map.1 h
  exact among_codeUnits.2 (hsub word hword)

theorem HasMarker.mono {words more : List String} {text : List ℕ} (h : HasMarker words text)
    (hsub : ∀ word ∈ words, word ∈ more) : HasMarker more text := by
  obtain ⟨marker, hmarker, hin⟩ := h
  exact ⟨marker, hmarker, hin.mono hsub⟩

theorem Among.not_in {words others : List String} {units : List ℕ} (h : Among words units)
    (hdisjoint : ∀ word ∈ words, word ∉ others) : ¬ Among others units := by
  obtain ⟨word, hword, rfl⟩ := List.mem_map.1 h
  rw [among_codeUnits]
  exact hdisjoint word hword

theorem hasMarker_of_eq {words : List String} {text : List ℕ} {word : String}
    (h : healthMarker text = some (codeUnits word)) : HasMarker words text ↔ word ∈ words := by
  unfold HasMarker
  rw [h, ← among_codeUnits]
  exact ⟨fun ⟨_, hmarker, hin⟩ => Option.some.inj hmarker ▸ hin, fun hin => ⟨_, rfl, hin⟩⟩

/-- A marker is known or tells nothing. -/
theorem marker_cases (text : List ℕ) :
    (∃ word ∈ knownMarkers, healthMarker text = some (codeUnits word)) ∨
      ¬ HasMarker knownMarkers text ∧ (healthMarker text).bind markerState = none ∧
        (healthMarker text).bind markerKind = none := by
  by_cases hknown : HasMarker knownMarkers text
  · obtain ⟨marker, hmarker, hin⟩ := hknown
    obtain ⟨word, hword, rfl⟩ := List.mem_map.1 hin
    exact .inl ⟨word, hword, hmarker⟩
  · refine .inr ⟨hknown, ?_⟩
    cases hmarker : healthMarker text with
    | none => exact ⟨rfl, rfl⟩
    | some marker =>
      have hnot : ∀ words : List String, (∀ word ∈ words, word ∈ knownMarkers) →
          ¬ Among words marker := fun words hsub hin =>
        hknown ⟨marker, hmarker, hin.mono hsub⟩
      have hone : ∀ word ∈ knownMarkers, marker ≠ codeUnits word := fun word hword heq =>
        hknown ⟨marker, hmarker, heq ▸ among_codeUnits.2 hword⟩
      rw [Option.bind_some, Option.bind_some, markerState, markerKind,
        if_neg (hone "unhealthy" (by decide)), if_neg (hone "degraded" (by decide)),
        if_neg (hnot ["starting", "started", "updating"] (by decide)),
        if_neg (hnot ["unhealthy", "degraded", "starting", "started", "updating"] (by decide)),
        if_neg (hone "healthy" (by decide)), if_neg (hone "healthy" (by decide))]
      exact ⟨rfl, rfl⟩

/-- What three sets of words say: running well, doing badly, being offline. -/
structure Says (verdict : Verdict) (good bad offline : Prop) : Prop where
  good_iff : verdict.good = true ↔ good
  bad_iff : verdict.bad = true ↔ bad ∨ offline
  offline_iff : verdict.offline = true ↔ offline

theorem says_lookup (token : List ℕ) :
    Says (((lookupState token).map ServiceState.verdict).getD {}) (Among goodTokens token)
      (Among ["unhealthy", "degraded"] token) (Among offlineTokens token) := by
  by_cases hin : Among (stateByStatus.map Prod.fst) token
  · obtain ⟨word, hword, rfl⟩ := List.mem_map.1 hin
    have hall : ∀ word ∈ stateByStatus.map Prod.fst,
        ((lookupState (codeUnits word)).map ServiceState.verdict).getD {} =
          { good := word ∈ goodTokens
            bad := word ∈ ["unhealthy", "degraded"] ∨ word ∈ offlineTokens
            offline := word ∈ offlineTokens } := by decide +kernel
    rw [hall word hword]
    constructor <;> simp [among_codeUnits]
  · have hnone : ((lookupState token).map ServiceState.verdict).getD {} = {} := by
      have hfind : stateByStatus.find? (fun entry => codeUnits entry.1 = token) = none := by
        refine List.find?_eq_none.2 fun entry hentry => ?_
        rw [decide_eq_true_eq]
        rintro rfl
        exact hin (among_codeUnits.2 (List.mem_map_of_mem hentry))
      rw [lookupState, hfind]
      simp only
      split_ifs <;> rfl
    rw [hnone]
    have hnot : ∀ words : List String, (∀ word ∈ words, word ∈ stateByStatus.map Prod.fst) →
        ¬ Among words token := fun words hsub h => hin (h.mono hsub)
    have hgood := hnot goodTokens (by decide)
    have hbad := hnot ["unhealthy", "degraded"] (by decide)
    have hoffline := hnot offlineTokens (by decide)
    exact ⟨by simpa using hgood, by simp [hbad, hoffline], by simpa using hoffline⟩

theorem says_kind (token : List ℕ) :
    Says (kindOfToken token).verdict (Among ["up", "running"] token) False
      (Among ["exited", "dead"] token) := by
  have hdisjoint : Among ["up", "running"] token → ¬ Among ["exited", "dead"] token :=
    fun h => h.not_in (by decide)
  unfold kindOfToken
  split_ifs with hgood hoffline
  · exact ⟨by simp [ContainerStatusKind.verdict, hgood],
      by simp [ContainerStatusKind.verdict, hdisjoint hgood],
      by simp [ContainerStatusKind.verdict, hdisjoint hgood]⟩
  · constructor <;> simp [ContainerStatusKind.verdict, hgood, hoffline]
  · constructor <;> simp [ContainerStatusKind.verdict, hgood, hoffline]

theorem says_word (token : List ℕ) :
    Says (operationalVerdict (Atlas.stateOfWord token)) (Among goodTokens token)
      (Among ["unhealthy", "degraded", "failed"] token) (Among offlineTokens token) := by
  by_cases hin : Among (goodTokens ++ ["paused", "unhealthy", "degraded", "failed"] ++ offlineTokens)
      token
  · obtain ⟨word, hword, rfl⟩ := List.mem_map.1 hin
    have hall : ∀ word ∈ goodTokens ++ ["paused", "unhealthy", "degraded", "failed"] ++
        offlineTokens, operationalVerdict (Atlas.stateOfWord (codeUnits word)) =
          { good := word ∈ goodTokens
            bad := word ∈ ["unhealthy", "degraded", "failed"] ∨ word ∈ offlineTokens
            offline := word ∈ offlineTokens } := by decide +kernel
    rw [hall word hword]
    constructor <;> simp [among_codeUnits]
  · have hnot : ∀ words : List String, (∀ word ∈ words, word ∈ goodTokens ++
        ["paused", "unhealthy", "degraded", "failed"] ++ offlineTokens) → ¬ Among words token :=
      fun words hsub h => hin (h.mono hsub)
    have hgood := hnot goodTokens (by decide)
    have hbad := hnot ["unhealthy", "degraded", "failed"] (by decide)
    have hoffline := hnot offlineTokens (by decide)
    have hpaused : token ≠ codeUnits "paused" := fun heq =>
      hin (heq ▸ among_codeUnits.2 (by decide))
    have hnone : operationalVerdict (Atlas.stateOfWord token) = {} := by
      have hgood' : token ∉ ["running", "up", "healthy"].map codeUnits := hgood
      have hbad' : token ∉ ["unhealthy", "degraded", "failed"].map codeUnits := hbad
      have hoffline' : token ∉ ["stopped", "exited", "dead", "down"].map codeUnits := hoffline
      rw [Atlas.stateOfWord, if_neg hgood', if_neg hpaused, if_neg hbad', if_neg hoffline']
      split_ifs <;> rfl
    rw [hnone]
    exact ⟨by simpa using hgood, by simp [hbad, hoffline], by simpa using hoffline⟩

/-! What each reading says of a text -/

theorem Says.congr {verdict : Verdict} {good bad offline good' bad' offline' : Prop}
    (h : Says verdict good bad offline) (hgood : good ↔ good') (hbad : bad ↔ bad')
    (hoffline : offline ↔ offline') : Says verdict good' bad' offline' :=
  ⟨h.good_iff.trans hgood, h.bad_iff.trans (or_congr hbad hoffline),
    h.offline_iff.trans hoffline⟩

section

variable (text : List ℕ)

/-- No health marker decides. -/
def Unmarked : Prop := ¬ HasMarker knownMarkers text

instance : Decidable (Unmarked text) :=
  inferInstanceAs (Decidable (¬ HasMarker knownMarkers text))

theorem says_card :
    Says (((((healthMarker text).bind markerState).or (lookupState (leadingToken text))).map
        ServiceState.verdict).getD {})
      (HasMarker ["healthy"] text ∨ Unmarked text ∧ Among goodTokens (leadingToken text))
      (HasMarker ["unhealthy", "degraded"] text ∨
        Unmarked text ∧ Among ["unhealthy", "degraded"] (leadingToken text))
      (Unmarked text ∧ Among offlineTokens (leadingToken text)) := by
  rcases marker_cases text with ⟨word, hword, hmarker⟩ | ⟨hnone, hstate, -⟩
  · have hmarked : ¬ Unmarked text := not_not.2 ((hasMarker_of_eq hmarker).2 hword)
    have hall : ∀ word ∈ knownMarkers, (markerState (codeUnits word)).map ServiceState.verdict =
        some { good := word ∈ ["healthy"], bad := word ∈ ["unhealthy", "degraded"] } := by
      decide +kernel
    obtain ⟨state, hstate, hverdict⟩ := Option.map_eq_some_iff.1 (hall word hword)
    rw [hmarker, Option.bind_some, hstate, Option.some_or, Option.map_some, Option.getD_some,
      hverdict, hasMarker_of_eq hmarker, hasMarker_of_eq hmarker]
    constructor <;> simp [hmarked]
  · rw [hstate, Option.none_or]
    have hgood : ¬ HasMarker ["healthy"] text := fun h => hnone (h.mono (by decide))
    have hbad : ¬ HasMarker ["unhealthy", "degraded"] text := fun h => hnone (h.mono (by decide))
    exact (says_lookup (leadingToken text)).congr (by simp [Unmarked, hnone, hgood])
      (by simp [Unmarked, hnone, hbad]) (by simp [Unmarked, hnone])

theorem says_status :
    Says (((healthMarker text).bind markerKind).getD (kindOfToken (leadingToken text))).verdict
      (HasMarker ["healthy"] text ∨ Unmarked text ∧ Among ["up", "running"] (leadingToken text))
      False (Unmarked text ∧ Among ["exited", "dead"] (leadingToken text)) := by
  rcases marker_cases text with ⟨word, hword, hmarker⟩ | ⟨hnone, -, hkind⟩
  · have hmarked : ¬ Unmarked text := not_not.2 ((hasMarker_of_eq hmarker).2 hword)
    have hall : ∀ word ∈ knownMarkers,
        (markerKind (codeUnits word)).map ContainerStatusKind.verdict =
          some { good := word ∈ ["healthy"] } := by
      decide +kernel
    obtain ⟨kind, hkind, hverdict⟩ := Option.map_eq_some_iff.1 (hall word hword)
    rw [hmarker, Option.bind_some, hkind, Option.getD_some, hverdict, hasMarker_of_eq hmarker]
    constructor <;> simp [hmarked]
  · rw [hkind, Option.getD_none]
    have hgood : ¬ HasMarker ["healthy"] text := fun h => hnone (h.mono (by decide))
    exact (says_kind (leadingToken text)).congr (by simp [Unmarked, hnone, hgood]) Iff.rfl
      (by simp [Unmarked, hnone])

/-- A word of degradation anywhere. -/
def SaysDegraded : Prop := containsAny degradedWords text = true

/-- A word or phrase of being offline, and none of degradation, which would come first. -/
def SaysOffline : Prop :=
  ¬ SaysDegraded text ∧
    (containsAny offlineWords text = true ∨ containsAny negatedPhrases text = true)

/-- A positive word and none that is looked for before it. -/
def SaysHealthy : Prop :=
  containsAny positiveWords text = true ∧
    ∀ words ∈ negativeGroups.map Prod.fst, containsAny words text = false

theorem says_text :
    Says ((stateOfText text).getD .unknown).verdict (SaysHealthy text) (SaysDegraded text)
      (SaysOffline text) := by
  have hall : SaysHealthy text ↔ containsAny positiveWords text = true ∧
      containsAny degradedWords text = false ∧ containsAny offlineWords text = false ∧
      containsAny negatedPhrases text = false ∧ containsAny warningWords text = false ∧
      containsAny updatingWords text = false := by
    simp [SaysHealthy, negativeGroups]
  suffices Says ((stateOfText text).getD .unknown).verdict (containsAny positiveWords text = true ∧
      containsAny degradedWords text = false ∧ containsAny offlineWords text = false ∧
      containsAny negatedPhrases text = false ∧ containsAny warningWords text = false ∧
      containsAny updatingWords text = false) (SaysDegraded text) (SaysOffline text) from
    this.congr hall.symm Iff.rfl Iff.rfl
  unfold SaysDegraded SaysOffline SaysDegraded stateOfText negativeGroups
  simp only [List.find?_cons, List.find?_nil]
  cases containsAny degradedWords text with
  | true => constructor <;> simp [ServiceState.verdict]
  | false =>
    cases containsAny offlineWords text with
    | true => constructor <;> simp [ServiceState.verdict]
    | false =>
      cases containsAny negatedPhrases text with
      | true => constructor <;> simp [ServiceState.verdict]
      | false =>
        cases containsAny warningWords text with
        | true => constructor <;> simp [ServiceState.verdict]
        | false =>
          cases containsAny updatingWords text with
          | true => constructor <;> simp [ServiceState.verdict]
          | false => cases containsAny positiveWords text <;> constructor <;>
              simp [ServiceState.verdict]

end

/-! One verdict -/

theorem oneVerdict_iff_says {card status node atlas service : Verdict}
    {g₁ b₁ o₁ g₂ b₂ o₂ g₃ b₃ o₃ g₄ b₄ o₄ g₅ b₅ o₅ : Prop} (hcard : Says card g₁ b₁ o₁)
    (hstatus : Says status g₂ b₂ o₂) (hnode : Says node g₃ b₃ o₃) (hatlas : Says atlas g₄ b₄ o₄)
    (hservice : Says service g₅ b₅ o₅) :
    OneVerdict [card, status, node, atlas, service] ↔
      ¬ ((g₁ ∨ g₂ ∨ g₃ ∨ g₄ ∨ g₅) ∧
          ((b₁ ∨ o₁) ∨ (b₂ ∨ o₂) ∨ (b₃ ∨ o₃) ∨ (b₄ ∨ o₄) ∨ (b₅ ∨ o₅))) ∧
        (o₁ ∧ o₂ ∧ o₃ ∧ o₄ ∧ o₅ ∨ ¬ (o₁ ∨ o₂ ∨ o₃ ∨ o₄ ∨ o₅)) := by
  rw [oneVerdict_iff, ← Bool.not_eq_true]
  simp only [List.any_cons, List.any_nil, List.all_cons, List.all_nil, Bool.or_eq_true,
    Bool.and_eq_true, Bool.or_false, Bool.and_true, hcard.good_iff, hcard.bad_iff,
    hcard.offline_iff, hstatus.good_iff, hstatus.bad_iff, hstatus.offline_iff, hnode.good_iff,
    hnode.bad_iff, hnode.offline_iff, hatlas.good_iff, hatlas.bad_iff, hatlas.offline_iff,
    hservice.good_iff, hservice.bad_iff, hservice.offline_iff]

/-- The texts that `fromStatusText` knows as a whole and no reading contradicts. -/
def agreedWords : List String :=
  ["running", "created", "starting", "restarting", "stopping", "dead", "degraded", "failed",
    "error"]

/-- The texts that `fromStatusText` takes for stopped while another reading does not. -/
def splitWords : List String := ["stopped", "paused", "removing"]

section

variable (text window : List ℕ)

/-- A text that `fromStatusText` does not know reads well in a marker, a token or a word. -/
def ReadsWell : Prop :=
  HasMarker ["healthy"] text ∨ Unmarked text ∧ Among goodTokens (leadingToken text) ∨
    Among goodTokens (leadingToken window) ∨ SaysHealthy text

def ReadsBadly : Prop :=
  HasMarker ["unhealthy", "degraded"] text ∨
    Unmarked text ∧ Among ["unhealthy", "degraded"] (leadingToken text) ∨
    Among ["unhealthy", "degraded", "failed"] (leadingToken window) ∨ SaysDegraded text

def ReadsOffline : Prop :=
  Unmarked text ∧ Among offlineTokens (leadingToken text) ∨
    Among offlineTokens (leadingToken window) ∨ SaysOffline text

/-- When the readings of a text agree, by its ASCII lower case, its lower case and that of its
window. A running container needs a marker that does not complain, a container that has exited
needs the bare word and no marker; any other text must not read as offline anywhere, nor well
in one place and badly in another. -/
def OneReading (ascii : List Char) : Prop :=
  if "up".toList <+: ascii then ¬ HasMarker ["unhealthy", "degraded"] text
  else if "exited".toList <+: ascii then
    leadingToken text = codeUnits "exited" ∧ Unmarked text
  else if ascii ∈ agreedWords.map String.toList then True
  else if ascii ∈ splitWords.map String.toList then False
  else ¬ ReadsOffline text window ∧ ¬ (ReadsWell text window ∧ ReadsBadly text window)

end

section

variable {text window : List ℕ}

/-- A token that a word opens is in no list of words that it does not open. -/
theorem not_in_of_front {word : String} {words : List String} {token : List ℕ}
    (hfront : codeUnits word <+: token) (h : ∀ other ∈ words, ¬ codeUnits word <+: codeUnits other) :
    ¬ Among words token := by
  intro hin
  obtain ⟨other, hother, rfl⟩ := List.mem_map.1 hin
  exact h other hother hfront

theorem running_iff (hfront : codeUnits "up" <+: leadingToken text)
    (hwindow : codeUnits "up" <+: leadingToken window) :
    OneVerdict (verdictsOf .running text window) ↔ ¬ HasMarker ["unhealthy", "degraded"] text := by
  have hnode : ((stateOfText (codeUnits RuntimeServiceStatus.running.wireName)).or
      (stateOfText text)).getD .unknown = .healthy := by
    have hrunning : stateOfText (codeUnits RuntimeServiceStatus.running.wireName) =
        some .healthy := by decide +kernel
    rw [hrunning]
    rfl
  have hbad : ¬ Among ["unhealthy", "degraded"] (leadingToken text) :=
    not_in_of_front hfront (by decide)
  have hoffline : ¬ Among offlineTokens (leadingToken text) := not_in_of_front hfront (by decide)
  have hexited : ¬ Among ["exited", "dead"] (leadingToken text) := not_in_of_front hfront (by decide)
  have hbad' : ¬ Among ["unhealthy", "degraded", "failed"] (leadingToken window) :=
    not_in_of_front hwindow (by decide)
  have hoffline' : ¬ Among offlineTokens (leadingToken window) := not_in_of_front hwindow (by decide)
  have hgood : Says (ServiceState.verdict .healthy) True False False := by
    constructor <;> simp [ServiceState.verdict]
  have hrunning : Says (serviceVerdict .running) True False False := hgood
  rw [verdictsOf, hnode, oneVerdict_iff_says (says_card text) (says_status text) hgood
    (says_word (leadingToken window)) hrunning]
  simp only [hbad, hoffline, hexited, hbad', hoffline', and_false, or_false, or_true, true_and,
    not_false_eq_true, and_true]

theorem stopped_iff (hfront : codeUnits "exited" <+: leadingToken text)
    (hwindow : leadingToken text = codeUnits "exited" →
      leadingToken window = codeUnits "exited") :
    OneVerdict (verdictsOf .stopped text window) ↔
      leadingToken text = codeUnits "exited" ∧ Unmarked text := by
  have hnode : ((stateOfText (codeUnits RuntimeServiceStatus.stopped.wireName)).or
      (stateOfText text)).getD .unknown = .offline := by
    have hstopped : stateOfText (codeUnits RuntimeServiceStatus.stopped.wireName) =
        some .offline := by decide +kernel
    rw [hstopped]
    rfl
  have hoffline : Says (ServiceState.verdict .offline) False False True := by
    constructor <;> simp [ServiceState.verdict]
  have htoken : Among ["exited", "dead"] (leadingToken text) ↔
      leadingToken text = codeUnits "exited" := by
    refine ⟨fun h => ?_, fun h => h ▸ among_codeUnits.2 (by decide)⟩
    rcases List.mem_pair.1 h with hexited | hdead
    · exact hexited
    · rw [hdead] at hfront
      exact absurd hfront (by decide)
  have hstopped : Says (serviceVerdict .stopped) False False True := hoffline
  rw [verdictsOf, hnode, oneVerdict_iff_says (says_card text) (says_status text) hoffline
    (says_word (leadingToken window)) hstopped]
  constructor
  · rintro ⟨-, ⟨-, hstatus, -⟩ | hnone⟩
    · exact ⟨htoken.1 hstatus.2, hstatus.1⟩
    · exact absurd (.inr (.inr (.inl trivial))) hnone
  · rintro ⟨hexited, hunmarked⟩
    have hhealthy : ¬ HasMarker ["healthy"] text := fun h => hunmarked (h.mono (by decide))
    have hin (words : List String) : Among words (codeUnits "exited") ↔ "exited" ∈ words :=
      among_codeUnits
    rw [hwindow hexited, hexited]
    simp [hin, hhealthy, hunmarked, goodTokens, offlineTokens]

theorem unknown_iff : OneVerdict (verdictsOf .unknown text window) ↔
    ¬ ReadsOffline text window ∧ ¬ (ReadsWell text window ∧ ReadsBadly text window) := by
  have hnode : (stateOfText (codeUnits RuntimeServiceStatus.unknown.wireName)).or
      (stateOfText text) = stateOfText text := by
    have hunknown : stateOfText (codeUnits RuntimeServiceStatus.unknown.wireName) = none := by
      decide +kernel
    rw [hunknown, Option.none_or]
  have hnothing : Says (serviceVerdict .unknown) False False False := by
    constructor <;> simp [serviceVerdict]
  have hgood : Among ["up", "running"] (leadingToken text) → Among goodTokens (leadingToken text) :=
    fun h => h.mono (by decide)
  have hoffline : Among ["exited", "dead"] (leadingToken text) →
      Among offlineTokens (leadingToken text) := fun h => h.mono (by decide)
  rw [verdictsOf, hnode, oneVerdict_iff_says (says_card text) (says_status text) (says_text text)
    (says_word (leadingToken window)) hnothing]
  -- the endpoint says nothing that the card does not say
  have hwell : ((HasMarker ["healthy"] text ∨ Unmarked text ∧ Among goodTokens (leadingToken text)) ∨
      (HasMarker ["healthy"] text ∨ Unmarked text ∧ Among ["up", "running"] (leadingToken text)) ∨
      SaysHealthy text ∨ Among goodTokens (leadingToken window) ∨ False) ↔ ReadsWell text window := by
    unfold ReadsWell
    grind
  have hoff : (Unmarked text ∧ Among offlineTokens (leadingToken text) ∨
      Unmarked text ∧ Among ["exited", "dead"] (leadingToken text) ∨ SaysOffline text ∨
      Among offlineTokens (leadingToken window) ∨ False) ↔ ReadsOffline text window := by
    unfold ReadsOffline
    grind
  rw [hwell, hoff]
  constructor
  · rintro ⟨hgoodbad, hall | hnone⟩
    · exact absurd hall.2.2.2.2 not_false
    · refine ⟨hnone, fun ⟨hgood, hbad⟩ => hgoodbad ⟨hgood, ?_⟩⟩
      unfold ReadsBadly at hbad
      grind
  · rintro ⟨hnone, hboth⟩
    refine ⟨fun ⟨hgood, hany⟩ => ?_, .inr hnone⟩
    unfold ReadsBadly at hboth
    rw [← hoff] at hnone
    grind

theorem fromStatusText_congr {value other : String}
    (h : Text.asciiLower value.toList = Text.asciiLower other.toList) :
    RuntimeServiceStatus.fromStatusText value = .fromStatusText other := by
  unfold RuntimeServiceStatus.fromStatusText
  rw [h]

theorem fromStatusText_up {value : String}
    (h : "up".toList <+: Text.asciiLower value.toList) :
    RuntimeServiceStatus.fromStatusText value = .running := by
  unfold RuntimeServiceStatus.fromStatusText
  simp only [Text.startsWith, h, decide_true, Bool.true_or, if_true]

/-- A text that starts with the word is none of the words that do not. -/
theorem ne_of_front {ascii : List Char} {word : String} (hfront : word.toList <+: ascii)
    {other : String} (h : ¬ word.toList <+: other.toList) : (ascii == other.toList) = false := by
  rw [beq_eq_false_iff_ne]
  rintro rfl
  exact h hfront

theorem fromStatusText_exited {value : String}
    (h : "exited".toList <+: Text.asciiLower value.toList) :
    RuntimeServiceStatus.fromStatusText value = .stopped := by
  have hup : ¬ "up".toList <+: Text.asciiLower value.toList := by
    intro hprefix
    have hboth := List.prefix_or_prefix_of_prefix h hprefix
    revert hboth
    decide
  unfold RuntimeServiceStatus.fromStatusText
  have hne (other : String) (hother : ¬ "exited".toList <+: other.toList) :
      (Text.asciiLower value.toList == other.toList) = false := ne_of_front h hother
  simp only [Text.startsWith, hup, h, hne "running" (by decide), hne "starting" (by decide),
    hne "created" (by decide), hne "restarting" (by decide), hne "stopping" (by decide),
    decide_true, decide_false, Bool.or_self, Bool.or_true, Bool.true_or, Bool.false_eq_true,
    if_false, if_true]

theorem fromStatusText_unknown {value : String}
    (hup : ¬ "up".toList <+: Text.asciiLower value.toList)
    (hexited : ¬ "exited".toList <+: Text.asciiLower value.toList)
    (hagreed : Text.asciiLower value.toList ∉ agreedWords.map String.toList)
    (hsplit : Text.asciiLower value.toList ∉ splitWords.map String.toList) :
    RuntimeServiceStatus.fromStatusText value = .unknown := by
  unfold RuntimeServiceStatus.fromStatusText
  have hne (other : String) (hother : other ∈ agreedWords ++ splitWords) :
      (Text.asciiLower value.toList == other.toList) = false := by
    rw [beq_eq_false_iff_ne]
    intro heq
    rcases List.mem_append.1 hother with hmem | hmem
    · exact hagreed (heq ▸ List.mem_map_of_mem hmem)
    · exact hsplit (heq ▸ List.mem_map_of_mem hmem)
  have hwhole : (Text.asciiLower value.toList == "exited".toList) = false := by
    rw [beq_eq_false_iff_ne]
    intro heq
    exact hexited (heq ▸ List.prefix_rfl)
  simp only [Text.startsWith, hup, hexited, hwhole, hne "running" (by decide),
    hne "starting" (by decide), hne "created" (by decide), hne "restarting" (by decide),
    hne "stopping" (by decide), hne "stopped" (by decide), hne "dead" (by decide),
    hne "paused" (by decide), hne "removing" (by decide), hne "degraded" (by decide),
    hne "failed" (by decide), hne "error" (by decide), decide_false, Bool.or_self,
    Bool.false_eq_true, if_false]

theorem asciiLower_word {word : String} (hword : StatusWord word) :
    Text.asciiLower word.toList = word.toList := by
  refine (List.map_congr_left fun c hc => ?_).trans (List.map_id _)
  have hletter := hword.letters c hc
  have hascii : c.toNat < 128 := by
    simp only [isLowerUnit, Bool.and_eq_true, decide_eq_true_eq] at hletter
    exact lt_of_le_of_lt hletter.2 (by decide)
  exact Text.forall_ascii (P := fun c => isLowerUnit c.toNat = true → c.toLower = c) (by decide)
    hascii hletter

/-- A whole word reads as itself everywhere. -/
theorem verdictsOf_word {value word : String}
    (halike : ReadsAlike (Text.asciiLower value.toList) text window) (hword : StatusWord word)
    (h : Text.asciiLower value.toList = word.toList) :
    verdictsOf (.fromStatusText value) text window =
      verdictsOf (.fromStatusText word) (codeUnits word) (codeUnits word) := by
  obtain ⟨htext, hwindow⟩ := halike.whole word hword h
  rw [htext, hwindow, fromStatusText_congr (h.trans (asciiLower_word hword).symm)]

end

/-- The five readings of a container's status are one verdict exactly when the front, the
leading tokens, the marker and the words of the text allow it. -/
theorem one_verdict_iff (unicode : UnicodeTables) (htable : LowersByUnits unicode.toLowerCase)
    (container : ContainerRecord) :
    OneVerdict (verdicts unicode container) ↔
      OneReading (statusText unicode container) (statusWindow unicode container)
        (Text.asciiLower container.status.toList) := by
  have halike : ReadsAlike (Text.asciiLower container.status.toList)
      (statusText unicode container) (statusWindow unicode container) :=
    readsAlike htable container.status
  rw [verdicts_eq htable, OneReading]
  split_ifs with hup hexited hagreed hsplit
  · obtain ⟨hfront, hwindow⟩ := halike.front "up" (by decide) hup
    rw [fromStatusText_up hup]
    exact running_iff hfront hwindow
  · rw [fromStatusText_exited hexited]
    exact stopped_iff (halike.front "exited" (by decide) hexited).1
      (halike.token "exited" (by decide) hexited)
  · obtain ⟨word, hword, hascii⟩ := List.mem_map.1 hagreed
    have hall : ∀ word ∈ agreedWords, StatusWord word ∧ OneVerdict
        (verdictsOf (.fromStatusText word) (codeUnits word) (codeUnits word)) := by
      decide +kernel
    obtain ⟨hstatus, hone⟩ := hall word hword
    rw [verdictsOf_word halike hstatus hascii.symm]
    exact iff_of_true hone trivial
  · obtain ⟨word, hword, hascii⟩ := List.mem_map.1 hsplit
    have hall : ∀ word ∈ splitWords, StatusWord word ∧ ¬ OneVerdict
        (verdictsOf (.fromStatusText word) (codeUnits word) (codeUnits word)) := by
      decide +kernel
    obtain ⟨hstatus, hnot⟩ := hall word hword
    rw [verdictsOf_word halike hstatus hascii.symm]
    exact iff_of_false hnot id
  · rw [fromStatusText_unknown hup hexited hagreed hsplit]
    exact unknown_iff

/-- The tables of a program that lowers ASCII letters only. -/
def asciiTables : UnicodeTables where
  normalizeNFC := id
  toLowerCase := List.map lowerUnit

theorem lowersByUnits_ascii : LowersByUnits asciiTables.toLowerCase := by
  intro units
  refine ⟨units.map fun unit => [lowerUnit unit], ?_, ?_⟩
  · refine List.forall₂_map_right_iff.2 (List.forall₂_same.2 fun unit _ => ?_)
    unfold UnitImage
    split_ifs with hplain
    · rfl
    · rw [not_or] at hplain
      refine ⟨List.cons_ne_nil _ _, fun v hv => ?_⟩
      obtain rfl := List.mem_singleton.1 hv
      have hparen : unit ≠ openParen := fun heq => hplain.1 (by rw [heq]; decide)
      rw [isSeparator_lowerUnit]
      simp [isSeparator, hplain.2, hparen]
  · rw [← List.flatMap_def]
    exact (List.map_eq_flatMap).trans rfl

def containerWithStatus (status : String) : ContainerRecord where
  id := "0f"
  name := "web"
  image := "nginx"
  status := status
  role := "web"
  networks := []
  ports := []
  publishesOnUnspecifiedAddress := false
  mounts := []
  dependsOn := []

theorem one_verdict_iff_applied :
    OneVerdict (verdicts asciiTables (containerWithStatus "Exited (0) 2 hours ago")) ↔
      OneReading (statusText asciiTables (containerWithStatus "Exited (0) 2 hours ago"))
        (statusWindow asciiTables (containerWithStatus "Exited (0) 2 hours ago"))
        (Text.asciiLower "Exited (0) 2 hours ago".toList) :=
  one_verdict_iff asciiTables lowersByUnits_ascii (containerWithStatus "Exited (0) 2 hours ago")

/-- The card calls the container degraded, the findings and the runtime node call it running. -/
theorem unhealthy_runs_well : ¬ ∀ (unicode : UnicodeTables) (container : ContainerRecord),
    LowersByUnits unicode.toLowerCase → OneVerdict (verdicts unicode container) := by
  intro hall
  have hone := hall asciiTables (containerWithStatus "Up 3 hours (unhealthy)") lowersByUnits_ascii
  revert hone
  decide +kernel

end DockerMap.Web
