import DockerMap.Api.Publication
import DockerMap.Proofs.TextRedaction
import Mathlib.Data.List.Forall2

/-! The two publication boundaries side by side. They replace the same characters, and read
the same words in a text; they differ in what counts as white space and in the lowercase
form of the Kelvin sign. -/

namespace DockerMap

open Text

def kelvinSign : Char := '\u212A'

/-- What the Unicode tables make of one character. Besides ASCII, the Kelvin sign and the
dotted capital I are the only characters with an ASCII character in their lowercase form. -/
inductive LowerImage : Char → List Char → Prop
  | ascii {c : Char} (h : c.toNat < 128) : LowerImage c [c.toLower]
  | kelvin : LowerImage kelvinSign ['k']
  | dotted : LowerImage '\u0130' ['i', '\u0307']
  | space {c : Char} (h : Api.isWhitespace c = true) : LowerImage c [c]
  | other {c d : Char} (hc : 128 ≤ c.toNat) (hkelvin : c ≠ kelvinSign)
      (hspace : Api.isWhitespace c = false) (hd : 128 ≤ d.toNat)
      (hdspace : Api.isWhitespace d = false) : LowerImage c [d]

/-- `String.prototype.toLowerCase` puts an image in place of every character. -/
def LowersByTable (toLowerCase : String → String) : Prop :=
  ∀ value, ∃ pieces, List.Forall₂ LowerImage value.toList pieces ∧
    (toLowerCase value).toList = pieces.flatten

/-- ASCII case folding that reads the Kelvin sign as the letter k. -/
def foldCharacter (c : Char) : Char := if c = kelvinSign then 'k' else c.toLower

/-! The text as both boundaries see it -/

def sharedSpace (c : Char) : Bool := isWhitespace c && Api.isWhitespace c

/-- Something reads as a secret in ASCII letters and white space common to both boundaries. -/
def ReadsAsSharedSecret (value : String) : Prop :=
  ReadsAsSecret sharedSpace value.toList (asciiLower value.toList)

/-- A flag or the bearer scheme, set off by Unicode `White_Space`: U+0085 is one. -/
def ReadsWithNextLine (value : String) : Prop :=
  (∃ flag ∈ sensitiveFlags, OccursAsFlag isWhitespace '=' flag (asciiLower value.toList)) ∨
    Leads isWhitespace bearerWord (asciiLower value.toList)

/-- A word in letters of which the Kelvin sign is one, or a flag or the bearer scheme in
these letters, set off by ECMAScript white space: U+FEFF is one. -/
def ReadsWithKelvinOrMark (value : String) : Prop :=
  (∃ word ∈ sensitiveWords, word <:+: value.toList.map foldCharacter) ∨
    (∃ flag ∈ sensitiveFlags,
      OccursAsFlag Api.isWhitespace '=' flag (value.toList.map foldCharacter)) ∨
    Leads Api.isWhitespace bearerWord (value.toList.map foldCharacter)

def ReadsAlike (value : String) : Prop :=
  ReadsAsSharedSecret value ∨ (ReadsWithNextLine value ↔ ReadsWithKelvinOrMark value)

/-! Images of characters -/

theorem forall₂_append_right {α β : Type*} {R : α → β → Prop} {l : List α} {p q : List β}
    (h : List.Forall₂ R l (p ++ q)) :
    ∃ l₁ l₂, l = l₁ ++ l₂ ∧ List.Forall₂ R l₁ p ∧ List.Forall₂ R l₂ q :=
  ⟨l.take p.length, l.drop p.length, (List.take_append_drop _ _).symm,
    List.forall₂_take_append l p q h, List.forall₂_drop_append l p q h⟩

theorem forall₂_append_left {α β : Type*} {R : α → β → Prop} {l₁ l₂ : List α} {p : List β}
    (h : List.Forall₂ R (l₁ ++ l₂) p) :
    ∃ p₁ p₂, p = p₁ ++ p₂ ∧ List.Forall₂ R l₁ p₁ ∧ List.Forall₂ R l₂ p₂ := by
  obtain ⟨p₁, p₂, hp, h₁, h₂⟩ := forall₂_append_right (List.Forall₂.flip h)
  exact ⟨p₁, p₂, hp, h₁.flip, h₂.flip⟩

theorem foldCharacter_of_not_ascii {c : Char} (hc : 128 ≤ c.toNat) (hkelvin : c ≠ kelvinSign) :
    foldCharacter c = c := by
  rw [foldCharacter, if_neg hkelvin, toLower_of_not_ascii hc]

theorem foldCharacter_of_ascii {c : Char} (hc : c.toNat < 128) : foldCharacter c = c.toLower := by
  have hkelvin : c ≠ kelvinSign := by
    rintro rfl
    exact absurd hc (by decide)
  rw [foldCharacter, if_neg hkelvin]

theorem isWhitespace_toLower (c : Char) : Api.isWhitespace c.toLower = Api.isWhitespace c := by
  by_cases hascii : c.toNat < 128
  · exact forall_ascii (P := fun c => Api.isWhitespace c.toLower = Api.isWhitespace c)
      (by decide) hascii
  · rw [toLower_of_not_ascii (by omega)]

theorem isWhitespace_foldCharacter (c : Char) :
    Api.isWhitespace (foldCharacter c) = Api.isWhitespace c := by
  unfold foldCharacter
  split_ifs with hkelvin
  · rw [hkelvin]
    decide
  · exact isWhitespace_toLower c

theorem LowerImage.space_iff {c : Char} {piece : List Char} (h : LowerImage c piece) :
    (∀ d ∈ piece, Api.isWhitespace d = true) ↔ Api.isWhitespace (foldCharacter c) = true := by
  rw [isWhitespace_foldCharacter]
  cases h with
  | ascii => simp [isWhitespace_toLower]
  | kelvin => decide
  | dotted => decide
  | space => simp
  | other _ _ hspace _ hdspace => simp [hspace, hdspace]

theorem LowerImage.ne_nil {c : Char} {piece : List Char} (h : LowerImage c piece) :
    piece ≠ [] := by
  cases h <;> simp

/-- Where a character folds to ASCII, its image is that character. -/
theorem LowerImage.eq_of_fold {c d : Char} {piece : List Char} (h : LowerImage c piece)
    (hfold : foldCharacter c = d) (hd : d.toNat < 128) : piece = [d] := by
  cases h with
  | ascii hc => rw [← hfold, foldCharacter_of_ascii hc]
  | kelvin => rw [← hfold]; decide
  | dotted =>
    subst hfold
    exact absurd hd (by decide)
  | space hspace =>
    by_cases hc : c.toNat < 128
    · have hlower := forall_ascii (P := fun c => Api.isWhitespace c = true → c.toLower = c)
        (by decide) hc hspace
      rw [← hfold, foldCharacter_of_ascii hc, hlower]
    · have hkelvin : c ≠ kelvinSign := by
        rintro rfl
        exact absurd hspace (by decide)
      rw [← hfold, foldCharacter_of_not_ascii (by omega) hkelvin]
  | other hc hkelvin =>
    rw [foldCharacter_of_not_ascii hc hkelvin] at hfold
    subst hfold
    omega

theorem LowerImage.fold_eq {c d : Char} (h : LowerImage c [d]) (hd : d.toNat < 128) :
    foldCharacter c = d := by
  generalize hpiece : [d] = piece at h
  cases h with
  | ascii hc =>
    cases hpiece
    exact foldCharacter_of_ascii hc
  | kelvin =>
    cases hpiece
    decide
  | dotted => cases hpiece
  | space hspace =>
    cases hpiece
    rw [foldCharacter_of_ascii hd]
    exact forall_ascii (P := fun c => Api.isWhitespace c = true → c.toLower = c)
      (by decide) hd hspace
  | other _ _ _ hnot =>
    cases hpiece
    omega

/-! Words in the lowercase text -/

/-- A word of ASCII characters that does not end where the image of a dotted I could. -/
structure PlainWord (word : List Char) : Prop where
  nonempty : word ≠ []
  ascii : ∀ c ∈ word, c.toNat < 128
  last : ∀ c ∈ word.getLast?, c ≠ 'i'

theorem LowerImage.aligns {c : Char} {piece word : List Char} (h : LowerImage c piece)
    (hword : PlainWord word) : Aligns word piece := by
  cases h with
  | dotted =>
    refine Or.inr ⟨['i'], '\u0307', rfl, fun hmem => absurd (hword.ascii _ hmem) (by decide), ?_⟩
    intro c hc hmem
    exact hword.last c hc (List.mem_singleton.1 hmem)
  | ascii | kelvin | space | other => exact Or.inl ⟨_, rfl⟩

section

variable {l : List Char} {pieces : List (List Char)} {word : List Char}

theorem aligns_of_forall₂ (h : List.Forall₂ LowerImage l pieces) (hword : PlainWord word) :
    ∀ piece ∈ pieces, Aligns word piece := by
  induction h with
  | nil => simp
  | cons himage _ ih =>
    intro piece hpiece
    rcases List.mem_cons.1 hpiece with rfl | hpiece
    · exact himage.aligns hword
    · exact ih piece hpiece

theorem map_fold_of_singletons (hword : ∀ c ∈ word, c.toNat < 128)
    (h : List.Forall₂ LowerImage l (word.map fun c => [c])) : l.map foldCharacter = word := by
  induction word generalizing l with
  | nil =>
    cases h
    rfl
  | cons c word ih =>
    cases h with
    | cons himage htail =>
      rw [List.map_cons, himage.fold_eq (hword c List.mem_cons_self),
        ih (fun d hd => hword d (List.mem_cons_of_mem _ hd)) htail]

theorem singletons_of_map_fold (hword : ∀ c ∈ word, c.toNat < 128)
    (hfold : l.map foldCharacter = word) (h : List.Forall₂ LowerImage l pieces) :
    pieces = word.map fun c => [c] := by
  induction h generalizing word with
  | nil =>
    cases hfold
    rfl
  | cons himage _ ih =>
    subst hfold
    rw [List.map_cons] at hword ⊢
    rw [List.map_cons, himage.eq_of_fold rfl (hword _ List.mem_cons_self),
      ih (fun d hd => hword d (List.mem_cons_of_mem _ hd)) rfl]

/-- A word of the lowercase text comes from characters that fold to it. -/
theorem exists_fold_of_lower (h : List.Forall₂ LowerImage l pieces) (hword : PlainWord word)
    {a b : List Char} (hflat : pieces.flatten = a ++ (word ++ b)) :
    ∃ l₁ l₂ l₃, l = l₁ ++ (l₂ ++ l₃) ∧ l₂.map foldCharacter = word ∧
      (∃ p₁, List.Forall₂ LowerImage l₁ p₁ ∧ p₁.flatten = a) ∧
      ∃ p₃, List.Forall₂ LowerImage l₃ p₃ ∧ p₃.flatten = b := by
  obtain ⟨before, after, rfl, hbefore, hafter⟩ :=
    split_of_pieces hword.nonempty (aligns_of_forall₂ h hword) hflat
  rw [List.append_assoc] at h
  obtain ⟨l₁, rest, rfl, h₁, hrest⟩ := forall₂_append_right h
  obtain ⟨l₂, l₃, rfl, h₂, h₃⟩ := forall₂_append_right hrest
  exact ⟨l₁, l₂, l₃, rfl, map_fold_of_singletons hword.ascii h₂, ⟨before, h₁, hbefore⟩,
    ⟨after, h₃, hafter⟩⟩

theorem exists_lower_of_fold (h : List.Forall₂ LowerImage l pieces) (hword : PlainWord word)
    {a b : List Char} (hfold : l.map foldCharacter = a ++ (word ++ b)) :
    ∃ l₁ p₁ b', l₁.map foldCharacter = a ∧ List.Forall₂ LowerImage l₁ p₁ ∧
      pieces.flatten = p₁.flatten ++ (word ++ b') := by
  obtain ⟨l₁, rest, rfl, ha, hrest⟩ := List.map_eq_append_iff.1 hfold
  obtain ⟨l₂, l₃, rfl, hmiddle, -⟩ := List.map_eq_append_iff.1 hrest
  obtain ⟨p₁, q, rfl, h₁, hq⟩ := forall₂_append_left h
  obtain ⟨p₂, p₃, rfl, h₂, -⟩ := forall₂_append_left hq
  refine ⟨l₁, p₁, p₃.flatten, ha, h₁, ?_⟩
  rw [singletons_of_map_fold hword.ascii hmiddle h₂, List.flatten_append, List.flatten_append,
    ← List.flatMap_def, List.flatMap_singleton']

theorem infix_lower_iff (h : List.Forall₂ LowerImage l pieces) (hword : PlainWord word) :
    word <:+: pieces.flatten ↔ word <:+: l.map foldCharacter := by
  constructor
  · rintro ⟨a, b, hflat⟩
    rw [List.append_assoc] at hflat
    obtain ⟨l₁, l₂, l₃, rfl, rfl, -, -⟩ := exists_fold_of_lower h hword hflat.symm
    exact ⟨l₁.map foldCharacter, l₃.map foldCharacter, by simp⟩
  · rintro ⟨a, b, hfold⟩
    rw [List.append_assoc] at hfold
    obtain ⟨l₁, p₁, b', -, -, hflat⟩ := exists_lower_of_fold h hword hfold.symm
    exact ⟨p₁.flatten, b', by rw [hflat, List.append_assoc]⟩

theorem eq_nil_of_flatten (h : List.Forall₂ LowerImage l pieces) (hnil : pieces.flatten = []) :
    l = [] := by
  cases h with
  | nil => rfl
  | cons himage =>
    rw [List.flatten_cons, List.append_eq_nil_iff] at hnil
    exact absurd hnil.1 himage.ne_nil

theorem prefix_lower_iff (h : List.Forall₂ LowerImage l pieces) (hword : PlainWord word) :
    word <+: pieces.flatten ↔ word <+: l.map foldCharacter := by
  constructor
  · rintro ⟨b, hflat⟩
    obtain ⟨l₁, l₂, l₃, rfl, rfl, ⟨p₁, h₁, hnil⟩, -⟩ :=
      exists_fold_of_lower (a := []) h hword hflat.symm
    rw [eq_nil_of_flatten h₁ hnil]
    exact ⟨l₃.map foldCharacter, by simp⟩
  · rintro ⟨b, hfold⟩
    obtain ⟨l₁, p₁, b', hnil, h₁, hflat⟩ := exists_lower_of_fold (a := []) h hword hfold.symm
    cases List.map_eq_nil_iff.1 hnil
    cases h₁
    exact ⟨b', hflat.symm⟩

theorem eq_lower_iff (h : List.Forall₂ LowerImage l pieces) (hword : PlainWord word) :
    pieces.flatten = word ↔ l.map foldCharacter = word := by
  constructor
  · intro hflat
    obtain ⟨l₁, l₂, l₃, rfl, hfold, ⟨p₁, h₁, hnil₁⟩, ⟨p₃, h₃, hnil₃⟩⟩ :=
      exists_fold_of_lower (a := []) (b := []) h hword (by simpa using hflat)
    rw [eq_nil_of_flatten h₁ hnil₁, eq_nil_of_flatten h₃ hnil₃, List.nil_append,
      List.append_nil, hfold]
  · intro hfold
    rw [singletons_of_map_fold hword.ascii hfold h, ← List.flatMap_def, List.flatMap_singleton']

theorem spaces_lower_iff (h : List.Forall₂ LowerImage l pieces) :
    (∀ d ∈ pieces.flatten, Api.isWhitespace d = true) ↔
      ∀ d ∈ l.map foldCharacter, Api.isWhitespace d = true := by
  induction h with
  | nil => simp
  | cons himage _ ih =>
    rw [List.flatten_cons, List.map_cons, List.forall_mem_append, List.forall_mem_cons,
      himage.space_iff, ih]

theorem leads_lower_iff (h : List.Forall₂ LowerImage l pieces) (hword : PlainWord word) :
    Leads Api.isWhitespace word pieces.flatten ↔
      Leads Api.isWhitespace word (l.map foldCharacter) := by
  constructor
  · rintro ⟨a, b, hflat, ha⟩
    rw [List.append_assoc] at hflat
    obtain ⟨l₁, l₂, l₃, rfl, rfl, ⟨p₁, h₁, rfl⟩, -⟩ := exists_fold_of_lower h hword hflat
    exact ⟨l₁.map foldCharacter, l₃.map foldCharacter, by simp, (spaces_lower_iff h₁).1 ha⟩
  · rintro ⟨a, b, hfold, ha⟩
    rw [List.append_assoc] at hfold
    obtain ⟨l₁, p₁, b', rfl, h₁, hflat⟩ := exists_lower_of_fold h hword hfold
    exact ⟨p₁.flatten, b', by rw [hflat, List.append_assoc], (spaces_lower_iff h₁).2 ha⟩

end

/-! What the Node boundary reads -/

theorem plainWord_of_words : ∀ word ∈ sensitiveWords, PlainWord word := by
  have hdec : ∀ word ∈ sensitiveWords, word ≠ [] ∧ (∀ c ∈ word, c.toNat < 128) ∧
      ∀ c ∈ word.getLast?, c ≠ 'i' := by
    decide
  intro word hword
  obtain ⟨hne, hascii, hlast⟩ := hdec word hword
  exact ⟨hne, hascii, hlast⟩

theorem plainWord_of_flags : ∀ flag ∈ sensitiveFlags,
    PlainWord flag ∧ PlainWord (flag ++ ['=']) := by
  have hdec : ∀ flag ∈ sensitiveFlags, flag ≠ [] ∧ (∀ c ∈ flag, c.toNat < 128) ∧
      ∀ c ∈ flag.getLast?, c ≠ 'i' := by
    decide
  intro flag hflag
  obtain ⟨hne, hascii, hlast⟩ := hdec flag hflag
  refine ⟨⟨hne, hascii, hlast⟩, ⟨by simp, ?_, ?_⟩⟩
  · intro c hc
    rcases List.mem_append.1 hc with hc | hc
    · exact hascii c hc
    · rw [List.mem_singleton.1 hc]
      decide
  · intro c hc
    rw [List.getLast?_concat] at hc
    cases hc
    decide

theorem plainWord_bearer : PlainWord bearerWord :=
  ⟨by decide, by decide, by decide⟩

theorem spaceClass_api : SpaceClass Api.isWhitespace where
  flags := by decide
  equals := by decide
  bearer := by decide

theorem isWhitespace_comp_fold : Api.isWhitespace ∘ foldCharacter = Api.isWhitespace :=
  funext isWhitespace_foldCharacter

variable {toLowerCase : String → String}

theorem exists_sensitiveWord_lower {value : String} {pieces : List (List Char)}
    (h : List.Forall₂ LowerImage value.toList pieces) :
    (∃ word ∈ sensitiveWords, word <:+: pieces.flatten) ↔
      ∃ word ∈ sensitiveWords, word <:+: value.toList.map foldCharacter := by
  constructor
  · rintro ⟨word, hword, hin⟩
    exact ⟨word, hword, (infix_lower_iff h (plainWord_of_words word hword)).1 hin⟩
  · rintro ⟨word, hword, hin⟩
    exact ⟨word, hword, (infix_lower_iff h (plainWord_of_words word hword)).2 hin⟩

/-- The lowercase form of a token is a flag when its folded form is. -/
theorem isSensitiveFlag_lower (htable : LowersByTable toLowerCase) (token : List Char) :
    isSensitiveFlag (toLowerCase (String.ofList token)).toList =
      isSensitiveFlag (token.map foldCharacter) := by
  obtain ⟨pieces, hpieces, hlower⟩ := htable (String.ofList token)
  rw [String.toList_ofList] at hpieces
  rw [Bool.eq_iff_iff, isSensitiveFlag_iff, isSensitiveFlag_iff, hlower]
  constructor
  · rintro ⟨flag, hflag, hmatch⟩
    obtain ⟨hplain, hequals⟩ := plainWord_of_flags flag hflag
    exact ⟨flag, hflag, hmatch.imp (eq_lower_iff hpieces hplain).1
      (prefix_lower_iff hpieces hequals).1⟩
  · rintro ⟨flag, hflag, hmatch⟩
    obtain ⟨hplain, hequals⟩ := plainWord_of_flags flag hflag
    exact ⟨flag, hflag, hmatch.imp (eq_lower_iff hpieces hplain).2
      (prefix_lower_iff hpieces hequals).2⟩

def nodeFlag (toLowerCase : String → String) (token : List Char) : Bool :=
  let token := (toLowerCase (String.ofList token)).toList
  Api.sensitiveFlags.any fun flag =>
    token == flag.toList || Text.startsWith token (flag.toList ++ ['='])

theorem nodeFlag_eq (token : List Char) :
    nodeFlag toLowerCase token =
      isSensitiveFlag (toLowerCase (String.ofList token)).toList := by
  have hflags : sensitiveFlags = Api.sensitiveFlags.map String.toList := rfl
  rw [nodeFlag, isSensitiveFlag, hflags, List.any_map]
  rfl

theorem exists_nodeFlag_iff (htable : LowersByTable toLowerCase) (value : List Char) :
    (∃ token ∈ value.splitOnP Api.isWhitespace, nodeFlag toLowerCase token = true) ↔
      ∃ flag ∈ sensitiveFlags,
        OccursAsFlag Api.isWhitespace '=' flag (value.map foldCharacter) := by
  rw [← exists_flag_iff spaceClass_api, splitOnP_map, isWhitespace_comp_fold]
  simp only [nodeFlag_eq, isSensitiveFlag_lower htable, List.mem_map]
  constructor
  · rintro ⟨token, htoken, hflag⟩
    exact ⟨token.map foldCharacter, ⟨token, htoken, rfl⟩, hflag⟩
  · rintro ⟨-, ⟨token, htoken, rfl⟩, hflag⟩
    exact ⟨token, htoken, hflag⟩

theorem containsUrlUserinfo_api (value : List Char) :
    Api.containsUrlUserinfo value = containsUrlUserinfo value := rfl

theorem isSensitiveText_api_iff (htable : LowersByTable toLowerCase) (value : String) :
    Api.isSensitiveText toLowerCase value = true ↔
      ReadsAsSecret Api.isWhitespace value.toList (value.toList.map foldCharacter) := by
  obtain ⟨pieces, hpieces, hlower⟩ := htable value
  have hneedles : (Api.sensitiveNeedles.any fun needle =>
      Text.contains pieces.flatten needle.toList) = containsSensitiveAssignment pieces.flatten := by
    have hwords : sensitiveAssignments = Api.sensitiveNeedles.map String.toList := by
      rw [sensitiveAssignments, Api.sensitiveNeedles]
    rw [containsSensitiveAssignment, hwords, List.any_map, Function.comp_def]
  have hmarker : contains pieces.flatten "dockermap_test_fake_".toList = true ↔
      testMarker <:+: pieces.flatten :=
    decide_eq_true_iff
  have hflags : ((value.toList.splitOnP Api.isWhitespace).any (nodeFlag toLowerCase)) = true ↔
      ∃ flag ∈ sensitiveFlags,
        OccursAsFlag Api.isWhitespace '=' flag (value.toList.map foldCharacter) := by
    rw [List.any_eq_true]
    exact exists_nodeFlag_iff htable value.toList
  have hbearer : startsWith (pieces.flatten.dropWhile Api.isWhitespace) "bearer ".toList = true ↔
      Leads Api.isWhitespace bearerWord (value.toList.map foldCharacter) :=
    (leads_iff spaceClass_api _).trans (leads_lower_iff hpieces plainWord_bearer)
  have hscheme (word : List Char) (hmem : "authorization=".toList <:+: word)
      (hword : contains pieces.flatten word = true) :
      ∃ word ∈ sensitiveAssignments, word <:+: pieces.flatten := by
    simp only [contains, decide_eq_true_eq] at hword
    exact ⟨"authorization=".toList, by decide, hmem.trans hword⟩
  rw [ReadsAsSecret, ← exists_sensitiveWord_lower hpieces, exists_sensitiveWord_iff, ← hmarker,
    ← hflags, ← hbearer]
  simp only [Api.isSensitiveText, hlower, hneedles, Bool.or_eq_true, containsUrlUserinfo_api,
    ← containsSensitiveAssignment_iff] at hscheme ⊢
  constructor
  · rintro ((((((h | h) | h) | h) | h) | h) | h)
    · exact Or.inl (Or.inl h)
    · exact Or.inr (Or.inl h)
    · exact Or.inl (Or.inr h)
    · exact Or.inr (Or.inr (Or.inl h))
    · exact Or.inr (Or.inr (Or.inr h))
    · exact Or.inl (Or.inr (hscheme _ (by decide) h))
    · exact Or.inl (Or.inr (hscheme _ (by decide) h))
  · rintro ((h | h) | h | h | h)
    · exact Or.inl (Or.inl (Or.inl (Or.inl (Or.inl (Or.inl h)))))
    · exact Or.inl (Or.inl (Or.inl (Or.inl (Or.inr h))))
    · exact Or.inl (Or.inl (Or.inl (Or.inl (Or.inl (Or.inr h)))))
    · exact Or.inl (Or.inl (Or.inl (Or.inr h)))
    · exact Or.inl (Or.inl (Or.inr h))

/-! What the two boundaries share -/

theorem fold_eq_toLower {c : Char} (h : c.toLower.toNat < 128) : foldCharacter c = c.toLower := by
  have hkelvin : c ≠ kelvinSign := by
    rintro rfl
    exact absurd h (by decide)
  rw [foldCharacter, if_neg hkelvin]

theorem map_fold_of_lower {l word : List Char} (hword : ∀ c ∈ word, c.toNat < 128)
    (h : asciiLower l = word) : l.map foldCharacter = word := by
  subst h
  exact List.map_congr_left fun c hc => fold_eq_toLower (hword _ (List.mem_map_of_mem hc))

/-- An ASCII word of the lowercase text stands in the folded text between the same
characters. -/
theorem fold_split {l a word b : List Char} (hword : ∀ c ∈ word, c.toNat < 128)
    (h : asciiLower l = a ++ word ++ b) :
    ∃ l₁ l₃, l.map foldCharacter = l₁.map foldCharacter ++ word ++ l₃.map foldCharacter ∧
      asciiLower l₁ = a ∧ asciiLower l₃ = b := by
  obtain ⟨front, l₃, rfl, hfront, hb⟩ := List.map_eq_append_iff.1 h
  obtain ⟨l₁, l₂, rfl, ha, hmiddle⟩ := List.map_eq_append_iff.1 hfront
  refine ⟨l₁, l₃, ?_, ha, hb⟩
  rw [List.map_append, List.map_append, map_fold_of_lower hword hmiddle]

theorem space_fold_of_shared {c : Char} (h : sharedSpace c.toLower = true) :
    Api.isWhitespace (foldCharacter c) = true := by
  rw [sharedSpace, isWhitespace_toLower, Bool.and_eq_true] at h
  rw [isWhitespace_foldCharacter]
  exact h.2

theorem occursAsFlag_fold_of_shared {l flag : List Char} (hflag : ∀ c ∈ flag, c.toNat < 128)
    (h : OccursAsFlag sharedSpace '=' flag (asciiLower l)) :
    OccursAsFlag Api.isWhitespace '=' flag (l.map foldCharacter) := by
  obtain ⟨a, b, hl, ha, hb⟩ := h
  obtain ⟨l₁, l₃, hfold, rfl, rfl⟩ := fold_split hflag hl
  refine ⟨_, _, hfold, ?_, ?_⟩
  · intro c hc
    rw [List.getLast?_map, Option.mem_def, Option.map_eq_some_iff] at hc
    obtain ⟨d, hd, rfl⟩ := hc
    exact space_fold_of_shared (ha _ (by rw [asciiLower, List.getLast?_map, hd]; rfl))
  · intro c hc
    rw [List.head?_map, Option.mem_def, Option.map_eq_some_iff] at hc
    obtain ⟨d, hd, rfl⟩ := hc
    rcases hb d.toLower (by rw [asciiLower, List.head?_map, hd]; rfl) with hspace | hequals
    · exact Or.inl (space_fold_of_shared hspace)
    · exact Or.inr ((fold_eq_toLower (by rw [hequals]; decide)).trans hequals)

theorem leads_fold_of_shared {l : List Char} (h : Leads sharedSpace bearerWord (asciiLower l)) :
    Leads Api.isWhitespace bearerWord (l.map foldCharacter) := by
  obtain ⟨a, b, hl, ha⟩ := h
  obtain ⟨l₁, l₃, hfold, rfl, rfl⟩ := fold_split plainWord_bearer.ascii hl
  refine ⟨_, _, hfold, ?_⟩
  intro c hc
  obtain ⟨d, hd, rfl⟩ := List.mem_map.1 hc
  exact space_fold_of_shared (ha _ (List.mem_map_of_mem hd))

theorem isWhitespace_of_shared (l : List Char) :
    ∀ c ∈ l, sharedSpace c = true → isWhitespace c = true := fun c _ h => by
  rw [sharedSpace, Bool.and_eq_true] at h
  exact h.1

theorem sensitive_iff (value : String) :
    isSensitiveText value.toList = true ↔
      ReadsAsSharedSecret value ∨ ReadsWithNextLine value := by
  rw [isSensitiveText_iff]
  constructor
  · rintro (h | h | h | h)
    · exact Or.inl (Or.inl h)
    · exact Or.inl (Or.inr (Or.inl h))
    · exact Or.inr (Or.inl h)
    · exact Or.inr (Or.inr h)
  · rintro ((h | h | ⟨flag, hflag, h⟩ | h) | h | h)
    · exact Or.inl h
    · exact Or.inr (Or.inl h)
    · exact Or.inr (Or.inr (Or.inl ⟨flag, hflag, h.mono (isWhitespace_of_shared _)⟩))
    · exact Or.inr (Or.inr (Or.inr (h.mono (isWhitespace_of_shared _))))
    · exact Or.inr (Or.inr (Or.inl h))
    · exact Or.inr (Or.inr (Or.inr h))

theorem sensitive_api_iff (htable : LowersByTable toLowerCase) (value : String) :
    Api.isSensitiveText toLowerCase value = true ↔
      ReadsAsSharedSecret value ∨ ReadsWithKelvinOrMark value := by
  rw [isSensitiveText_api_iff htable]
  constructor
  · rintro (h | h | h | h)
    · exact Or.inr (Or.inl h)
    · exact Or.inl (Or.inr (Or.inl h))
    · exact Or.inr (Or.inr (Or.inl h))
    · exact Or.inr (Or.inr (Or.inr h))
  · rintro ((⟨word, hword, a, b, h⟩ | h | ⟨flag, hflag, h⟩ | h) | h | h | h)
    · obtain ⟨l₁, l₃, hfold, -, -⟩ := fold_split (plainWord_of_words word hword).ascii h.symm
      exact Or.inl ⟨word, hword, _, _, hfold.symm⟩
    · exact Or.inr (Or.inl h)
    · exact Or.inr (Or.inr (Or.inl ⟨flag, hflag,
        occursAsFlag_fold_of_shared (plainWord_of_flags flag hflag).1.ascii h⟩))
    · exact Or.inr (Or.inr (Or.inr (leads_fold_of_shared h)))
    · exact Or.inl h
    · exact Or.inr (Or.inr (Or.inl h))
    · exact Or.inr (Or.inr (Or.inr h))

theorem classifications_agree_iff (htable : LowersByTable toLowerCase) (value : String) :
    Api.isSensitiveText toLowerCase value = isSensitiveText value.toList ↔ ReadsAlike value := by
  rw [Bool.eq_iff_iff, sensitive_iff, sensitive_api_iff htable, ReadsAlike]
  by_cases hshared : ReadsAsSharedSecret value
  · simp [hshared]
  · simp only [hshared, false_or]
    exact iff_comm

/-! Texts without the characters the boundaries read differently -/

def nextLine : Char := '\u0085'

def byteOrderMark : Char := '\uFEFF'

theorem isWhitespace_eq {c : Char} (hnext : c ≠ nextLine) (hmark : c ≠ byteOrderMark) :
    isWhitespace c = Api.isWhitespace c := by
  have hnext' : (c.toNat == 0x85) = false := by
    rw [beq_eq_false_iff_ne]
    exact fun h => hnext (Char.toNat_inj.1 h)
  have hmark' : (c.toNat == 0xFEFF) = false := by
    rw [beq_eq_false_iff_ne]
    exact fun h => hmark (Char.toNat_inj.1 h)
  simp only [isWhitespace, Api.isWhitespace, hnext', hmark', Bool.or_false]

theorem toLower_ne {c d : Char} (hc : c ≠ d) (hd : 128 ≤ d.toNat) : c.toLower ≠ d := by
  by_cases hascii : c.toNat < 128
  · have hlower : c.toLower.toNat < 128 :=
      forall_ascii (P := fun c => c.toLower.toNat < 128) (by decide) hascii
    rintro rfl
    omega
  · rw [toLower_of_not_ascii (by omega)]
    exact hc

theorem readsAlike_of_absent {value : String} (hkelvin : kelvinSign ∉ value.toList)
    (hnext : nextLine ∉ value.toList) (hmark : byteOrderMark ∉ value.toList) :
    ReadsAlike value := by
  have hfold : value.toList.map foldCharacter = asciiLower value.toList := by
    refine List.map_congr_left fun c hc => ?_
    have hne : c ≠ kelvinSign := fun h => hkelvin (h ▸ hc)
    rw [foldCharacter, if_neg hne]
  have hspace : ∀ c ∈ asciiLower value.toList, isWhitespace c = Api.isWhitespace c := by
    intro c hc
    obtain ⟨d, hd, rfl⟩ := List.mem_map.1 hc
    exact isWhitespace_eq (toLower_ne (fun h => hnext (h ▸ hd)) (by decide))
      (toLower_ne (fun h => hmark (h ▸ hd)) (by decide))
  have hto : ∀ c ∈ asciiLower value.toList, isWhitespace c = true → Api.isWhitespace c = true :=
    fun c hc h => hspace c hc ▸ h
  have hfrom : ∀ c ∈ asciiLower value.toList, Api.isWhitespace c = true → isWhitespace c = true :=
    fun c hc h => (hspace c hc).symm ▸ h
  by_cases hword : ∃ word ∈ sensitiveWords, word <:+: asciiLower value.toList
  · exact Or.inl (Or.inl hword)
  · refine Or.inr ?_
    rw [ReadsWithNextLine, ReadsWithKelvinOrMark, hfold]
    simp only [hword, false_or]
    constructor
    · rintro (⟨flag, hflag, h⟩ | h)
      · exact Or.inl ⟨flag, hflag, h.mono hto⟩
      · exact Or.inr (h.mono hto)
    · rintro (⟨flag, hflag, h⟩ | h)
      · exact Or.inl ⟨flag, hflag, h.mono hfrom⟩
      · exact Or.inr (h.mono hfrom)

theorem insensitive_redactedValue (htable : LowersByTable toLowerCase) :
    Api.isSensitiveText toLowerCase redactedValue = false := by
  rw [(classifications_agree_iff htable redactedValue).2
    (readsAlike_of_absent (by decide) (by decide) (by decide))]
  exact isPublished_redactedValue.insensitive

/-! Agreement -/

theorem isUnsafeDisplayCharacter_eq (c : Char) :
    Api.isUnsafeDisplayCharacter c = unsafeRuntimeDisplayCharacter c := by
  simp only [Api.isUnsafeDisplayCharacter, unsafeRuntimeDisplayCharacter, isControl]

theorem publishDisplayText_eq (value : String) :
    Api.publishDisplayText toLowerCase value =
      normalizeRuntimeDisplayString
        (if Api.isSensitiveText toLowerCase value then redactedValue else value) := by
  simp only [Api.publishDisplayText, isUnsafeDisplayCharacter_eq]
  rfl

theorem publishedTexts_agree_iff (htable : LowersByTable toLowerCase) (value : String) :
    Api.publishDisplayText toLowerCase value = redactRuntimeDisplayText value ↔
      ReadsAlike value := by
  rw [← classifications_agree_iff htable, publishDisplayText_eq, redactRuntimeDisplayText,
    redactSensitiveText]
  constructor
  · intro h
    -- a text published as the marker is the marker, which neither boundary redacts
    have hmarker : normalizeRuntimeDisplayString value =
        normalizeRuntimeDisplayString redactedValue → value = redactedValue := by
      intro hnormal
      simp only [normalizeRuntimeDisplayString, String.ofList_inj] at hnormal
      have hfixed : redactedValue.toList.map normalizeCharacter = redactedValue.toList := by
        decide
      rw [hfixed] at hnormal
      exact String.toList_injective (masks_normalizeCharacter.eq_of_map hnormal (by decide))
    cases hnode : Api.isSensitiveText toLowerCase value <;>
      cases hrust : isSensitiveText value.toList
    · rfl
    · rw [hnode, hrust] at h
      rw [hmarker h, isPublished_redactedValue.insensitive] at hrust
      cases hrust
    · rw [hnode, hrust] at h
      rw [hmarker h.symm, insensitive_redactedValue htable] at hnode
      cases hnode
    · rfl
  · intro h
    rw [h]

/-- The boundaries classify a text alike, and publish the same text, exactly when it reads
alike; they always replace the same characters. -/
theorem display_text_agrees_iff (htable : LowersByTable toLowerCase) (value : String) :
    (Api.publishDisplayText toLowerCase value = redactRuntimeDisplayText value ↔
        ReadsAlike value) ∧
      (Api.isSensitiveText toLowerCase value = isSensitiveText value.toList ↔
        ReadsAlike value) ∧
      (∀ c, Api.isUnsafeDisplayCharacter c = unsafeRuntimeDisplayCharacter c) ∧
      (kelvinSign ∉ value.toList → nextLine ∉ value.toList → byteOrderMark ∉ value.toList →
        ReadsAlike value) :=
  ⟨publishedTexts_agree_iff htable value, classifications_agree_iff htable value,
    isUnsafeDisplayCharacter_eq, readsAlike_of_absent⟩

/-- The table at ASCII letters, the Kelvin sign and the dotted I. -/
def lowerCharacter (c : Char) : List Char :=
  if c = '\u0130' then ['i', '\u0307'] else [foldCharacter c]

def lowerText (value : String) : String := String.ofList (value.toList.flatMap lowerCharacter)

theorem lowerImage_lowerCharacter (c : Char) : LowerImage c (lowerCharacter c) := by
  unfold lowerCharacter
  split_ifs with hdotted
  · rw [hdotted]
    exact .dotted
  · by_cases hascii : c.toNat < 128
    · rw [foldCharacter_of_ascii hascii]
      exact .ascii hascii
    · by_cases hkelvin : c = kelvinSign
      · rw [hkelvin]
        exact .kelvin
      · rw [foldCharacter_of_not_ascii (by omega) hkelvin]
        cases hspace : Api.isWhitespace c with
        | true => exact .space hspace
        | false => exact .other (by omega) hkelvin hspace (by omega) hspace

theorem lowersByTable_lowerText : LowersByTable lowerText := fun value => by
  refine ⟨value.toList.map lowerCharacter, ?_, ?_⟩
  · rw [List.forall₂_map_right_iff, List.forall₂_same]
    exact fun c _ => lowerImage_lowerCharacter c
  · rw [lowerText, String.toList_ofList, List.flatMap_def]

theorem display_text_agrees_plain :
    Api.publishDisplayText lowerText "GET https://user:pw@host/path" =
      redactRuntimeDisplayText "GET https://user:pw@host/path" :=
  (display_text_agrees_iff lowersByTable_lowerText _).1.2
    ((display_text_agrees_iff lowersByTable_lowerText _).2.2.2 (by decide)
      (by decide) (by decide))

/-- The Kelvin sign is a k to Node only; U+0085 is white space to the daemon only. -/
theorem display_text_differs :
    Api.publishDisplayText lowerText "to\u212Aen=x" = "[redacted]" ∧
      redactRuntimeDisplayText "to\u212Aen=x" = "to\u212Aen=x" ∧
      Api.publishDisplayText lowerText "--token\u0085x" = "--token\uFFFDx" ∧
      redactRuntimeDisplayText "--token\u0085x" = "[redacted]" :=
  ⟨by decide, by decide, by decide, by decide⟩

end DockerMap
