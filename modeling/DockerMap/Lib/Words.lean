import DockerMap.Lib.Text
import Mathlib.Data.List.Chain
import Mathlib.Data.List.TakeWhile

/-! The words of a text: its maximal runs of characters that are not whitespace. -/

namespace Text

variable {b l r w t : List Char} {c : Char}

def Blank (l : List Char) : Prop := ∀ c ∈ l, isWhitespace c = true

def IsWord (w : List Char) : Prop := w ≠ [] ∧ ∀ c ∈ w, isWhitespace c = false

/-- Where a word can end. -/
def StartsBlank (l : List Char) : Prop := ∀ c ∈ l.head?, isWhitespace c = true

/-- No whitespace at either end. -/
def Trimmed (l : List Char) : Prop :=
  (∀ c ∈ l.head?, isWhitespace c = false) ∧ ∀ c ∈ l.getLast?, isWhitespace c = false

/-- What follows the first word and the whitespace after it. -/
def dropWord (l : List Char) : List Char := trimStart (l.dropWhile fun c => !isWhitespace c)

/-- `join(" ")`. -/
def joinWords (words : List (List Char)) : List Char := List.intercalate [' '] words

def NotBothBlank (c d : Char) : Prop := ¬ (isWhitespace c = true ∧ isWhitespace d = true)

/-- Its whitespace is single plain spaces. -/
def SingleSpaced (l : List Char) : Prop :=
  (∀ c ∈ l, isWhitespace c = true → c = ' ') ∧ l.IsChain NotBothBlank

instance (l : List Char) : Decidable (Blank l) :=
  inferInstanceAs (Decidable (∀ c ∈ l, isWhitespace c = true))

instance (w : List Char) : Decidable (IsWord w) :=
  inferInstanceAs (Decidable (w ≠ [] ∧ ∀ c ∈ w, isWhitespace c = false))

instance (c d : Char) : Decidable (NotBothBlank c d) :=
  inferInstanceAs (Decidable (¬ (isWhitespace c = true ∧ isWhitespace d = true)))

instance (l : List Char) : Decidable (SingleSpaced l) :=
  inferInstanceAs (Decidable ((∀ c ∈ l, isWhitespace c = true → c = ' ') ∧
    l.IsChain NotBothBlank))

/-! Trimming -/

theorem trimStart_append_of_blank (hb : Blank b) (l : List Char) :
    trimStart (b ++ l) = trimStart l :=
  List.dropWhile_append_of_pos hb

theorem trimStart_of_head (h : ∀ c ∈ l.head?, isWhitespace c = false) : trimStart l = l := by
  cases l with
  | nil => rfl
  | cons c l => exact List.dropWhile_cons_of_neg (by simp [h c rfl])

theorem exists_blank (l : List Char) : ∃ b, Blank b ∧ l = b ++ trimStart l :=
  ⟨l.takeWhile isWhitespace, fun _ hc => List.mem_takeWhile_imp hc,
    List.takeWhile_append_dropWhile.symm⟩

theorem head_trimStart (l : List Char) : ∀ c ∈ (trimStart l).head?, isWhitespace c = false := by
  intro c hc
  have hnot := List.head?_dropWhile_not isWhitespace l
  rw [Option.mem_def] at hc
  rw [trimStart] at hc
  rw [hc] at hnot
  exact hnot

theorem trimStart_eq_nil : trimStart l = [] ↔ Blank l := List.dropWhile_eq_nil_iff

/-- A text is its trimmed part between two blank ones. -/
theorem exists_trim (l : List Char) : ∃ a b, Blank a ∧ Blank b ∧ l = a ++ trim l ++ b := by
  obtain ⟨a, ha, hl⟩ := exists_blank l
  obtain ⟨b, hb, hr⟩ := exists_blank (trimStart l).reverse
  refine ⟨a, b.reverse, ha, fun c hc => hb c (List.mem_reverse.1 hc), ?_⟩
  have hrest : trimStart l = trim l ++ b.reverse := by
    rw [← List.reverse_reverse (trimStart l), hr, List.reverse_append]
    rfl
  rw [List.append_assoc, ← hrest]
  exact hl

theorem Trimmed.trimStart (ht : Trimmed t) : trimStart t = t := trimStart_of_head ht.1

theorem Trimmed.trim (ht : Trimmed t) : trim t = t := by
  have hreverse : Text.trimStart t.reverse = t.reverse :=
    trimStart_of_head fun c hc => ht.2 c (by rwa [List.head?_reverse] at hc)
  rw [Text.trim, ht.trimStart, hreverse, List.reverse_reverse]

theorem trimmed_trim (l : List Char) : Trimmed (trim l) := by
  obtain ⟨b, -, hr⟩ := exists_blank (trimStart l).reverse
  have hrest : trimStart l = trim l ++ b.reverse := by
    rw [← List.reverse_reverse (trimStart l), hr, List.reverse_append]
    rfl
  constructor
  · intro c hc
    refine head_trimStart l c ?_
    rw [hrest, List.head?_append, Option.mem_def.1 hc]
    rfl
  · intro c hc
    rw [trim, List.getLast?_reverse] at hc
    exact head_trimStart _ c hc

theorem trim_eq_nil : trim l = [] ↔ Blank l := by
  rw [trim, List.reverse_eq_nil_iff, trimStart_eq_nil, ← trimStart_eq_nil (l := l)]
  constructor
  · intro h
    cases hrest : trimStart l with
    | nil => rfl
    | cons c rest =>
      have hc := head_trimStart l c (by rw [hrest]; rfl)
      rw [h c (by rw [hrest]; simp)] at hc
      cases hc
  · intro h
    rw [h]
    exact fun c hc => absurd hc List.not_mem_nil

/-- What is between blank ends. -/
theorem trim_append_append {a : List Char} (ha : Blank a) (ht : Trimmed t) (hb : Blank b) :
    trim (a ++ (t ++ b)) = t := by
  cases t with
  | nil =>
    refine trim_eq_nil.2 fun c hc => ?_
    rw [List.nil_append, List.mem_append] at hc
    exact hc.elim (ha c) (hb c)
  | cons d t =>
    have hstart : trimStart (d :: t ++ b) = d :: t ++ b := trimStart_of_head ht.1
    have hreverse : trimStart (d :: t).reverse = (d :: t).reverse :=
      trimStart_of_head fun c hc => ht.2 c (by rwa [List.head?_reverse] at hc)
    have hb' : Blank b.reverse := fun c hc => hb c (List.mem_reverse.1 hc)
    rw [trim, trimStart_append_of_blank ha, hstart, List.reverse_append,
      trimStart_append_of_blank hb', hreverse, List.reverse_reverse]

theorem trim_append_blank (l : List Char) (hb : Blank b) : trim (l ++ b) = trim l := by
  obtain ⟨a, b', ha, hb', hl⟩ := exists_trim l
  have hends : Blank (b' ++ b) := fun c hc => (List.mem_append.1 hc).elim (hb' c) (hb c)
  conv_lhs => rw [hl]
  rw [List.append_assoc, List.append_assoc]
  exact trim_append_append ha (trimmed_trim l) hends

theorem trimmed_iff : Trimmed t ↔ trim t = t :=
  ⟨Trimmed.trim, fun h => h ▸ trimmed_trim t⟩

/-- The end of a trimmed text. -/
theorem Trimmed.suffix (ht : Trimmed t) (h : l <:+ t)
    (hhead : ∀ c ∈ l.head?, isWhitespace c = false) : Trimmed l := by
  refine ⟨hhead, fun c hc => ht.2 c ?_⟩
  obtain ⟨front, rfl⟩ := h
  rw [List.getLast?_append, Option.mem_def.1 hc]
  rfl

/-- Whitespace around a text does not matter to what is left of it. -/
theorem trim_eq_trimStart (ht : Trimmed t) (h : l <:+ t) : trim l = trimStart l := by
  have hsuffix : trimStart l <:+ t := (List.dropWhile_suffix _).trans h
  rw [← (ht.suffix hsuffix (head_trimStart l)).trim, trim, trim,
    (trimStart_of_head (head_trimStart l) : trimStart (trimStart l) = trimStart l)]

/-! Splitting -/

theorem splitWhitespace_append_space (l r : List Char) (hc : isWhitespace c = true) :
    splitWhitespace (l ++ c :: r) = splitWhitespace l ++ splitWhitespace r := by
  rw [splitWhitespace, List.splitOnP_append_cons l r hc, List.filter_append]
  rfl

theorem splitWhitespace_word (hw : IsWord w) : splitWhitespace w = [w] := by
  rw [splitWhitespace, List.splitOnP_eq_singleton hw.2, List.filter_cons_of_pos (by simpa using hw.1)]
  rfl

theorem splitWhitespace_blank_append (hb : Blank b) (l : List Char) :
    splitWhitespace (b ++ l) = splitWhitespace l := by
  induction b with
  | nil => rfl
  | cons c b ih =>
    rw [Blank, List.forall_mem_cons] at hb
    rw [List.cons_append]
    refine Eq.trans (splitWhitespace_append_space [] (b ++ l) hb.1) ?_
    exact ih hb.2

theorem splitWhitespace_blank (hb : Blank b) : splitWhitespace b = [] := by
  have h := splitWhitespace_blank_append hb []
  rwa [List.append_nil] at h

theorem splitWhitespace_word_append (hw : IsWord w) (hl : StartsBlank l) :
    splitWhitespace (w ++ l) = w :: splitWhitespace l := by
  cases l with
  | nil => rw [List.append_nil, splitWhitespace_word hw]; rfl
  | cons c l =>
    have hc := hl c rfl
    rw [splitWhitespace_append_space w l hc, splitWhitespace_word hw]
    exact congrArg (w :: ·) (splitWhitespace_append_space [] l hc).symm

/-! The first word -/

/-- A text is blank, or it has a first word. -/
theorem blank_or_word (l : List Char) :
    Blank l ∨ ∃ b w r, l = b ++ (w ++ r) ∧ Blank b ∧ IsWord w ∧ StartsBlank r := by
  obtain ⟨b, hb, hl⟩ := exists_blank l
  by_cases hblank : Blank l
  · exact Or.inl hblank
  · refine Or.inr ⟨b, (trimStart l).takeWhile fun c => !isWhitespace c,
      (trimStart l).dropWhile fun c => !isWhitespace c, ?_, hb, ⟨?_, ?_⟩, ?_⟩
    · rw [List.takeWhile_append_dropWhile]
      exact hl
    · intro hnil
      cases hrest : trimStart l with
      | nil => exact hblank (trimStart_eq_nil.1 hrest)
      | cons c rest =>
        have hc := head_trimStart l c (by rw [hrest]; rfl)
        rw [hrest, List.takeWhile_cons_of_pos (by simp [hc])] at hnil
        cases hnil
    · intro c hc
      simpa using List.mem_takeWhile_imp hc
    · intro c hc
      have hnot := List.head?_dropWhile_not (fun c => !isWhitespace c) (trimStart l)
      rw [Option.mem_def.1 hc] at hnot
      simpa using hnot

theorem words_induction {P : List Char → Prop} (hblank : ∀ l, Blank l → P l)
    (hword : ∀ b w r, Blank b → IsWord w → StartsBlank r → P r → P (b ++ (w ++ r)))
    (l : List Char) : P l := by
  induction hn : l.length using Nat.strong_induction_on generalizing l with
  | _ n ih =>
    rcases blank_or_word l with hb | ⟨b, w, r, rfl, hb, hw, hr⟩
    · exact hblank l hb
    · refine hword b w r hb hw hr (ih r.length ?_ r rfl)
      have hpos := List.length_pos_iff.2 hw.1
      simp only [List.length_append] at hn
      omega

theorem isWord_of_mem (h : w ∈ splitWhitespace l) : IsWord w := by
  induction l using words_induction with
  | hblank l hb =>
    rw [splitWhitespace_blank hb] at h
    cases h
  | hword b v r hb hv hr ih =>
    rw [splitWhitespace_blank_append hb, splitWhitespace_word_append hv hr, List.mem_cons] at h
    rcases h with rfl | h
    · exact hv
    · exact ih h

theorem splitWhitespace_eq_nil : splitWhitespace l = [] ↔ Blank l := by
  refine ⟨fun h => ?_, splitWhitespace_blank⟩
  rcases blank_or_word l with hb | ⟨b, w, r, rfl, hb, hw, hr⟩
  · exact hb
  · rw [splitWhitespace_blank_append hb, splitWhitespace_word_append hw hr] at h
    cases h

theorem IsWord.trimStart_append (hw : IsWord w) (l : List Char) : trimStart (w ++ l) = w ++ l := by
  refine trimStart_of_head fun c hc => hw.2 c ?_
  rw [List.head?_append_of_ne_nil _ hw.1] at hc
  exact List.mem_of_mem_head? hc

theorem dropWord_append (hw : IsWord w) (hr : StartsBlank r) : dropWord (w ++ r) = trimStart r := by
  rw [dropWord, List.dropWhile_append_of_pos fun c hc => by simp [hw.2 c hc]]
  cases r with
  | nil => rfl
  | cons c r => rw [List.dropWhile_cons_of_neg (by simp [hr c rfl])]

theorem head_dropWord_iterate (n : ℕ) {l : List Char}
    (hl : ∀ c ∈ l.head?, isWhitespace c = false) :
    ∀ c ∈ (dropWord^[n] l).head?, isWhitespace c = false := by
  cases n with
  | zero => exact hl
  | succ n =>
    rw [Function.iterate_succ_apply']
    exact head_trimStart _

theorem dropWord_iterate_suffix (n : ℕ) (l : List Char) : dropWord^[n] l <:+ l := by
  induction n with
  | zero => exact List.suffix_refl l
  | succ n ih =>
    rw [Function.iterate_succ_apply']
    exact ((List.dropWhile_suffix _).trans (List.dropWhile_suffix _)).trans ih

@[simp]
theorem dropWord_nil : dropWord [] = [] := rfl

theorem dropWord_iterate_nil (n : ℕ) : dropWord^[n] [] = [] := by
  induction n with
  | zero => rfl
  | succ n ih => rw [Function.iterate_succ_apply, dropWord_nil, ih]

/-- What is left after so many words has the words after them. -/
theorem splitWhitespace_dropWord (n : ℕ) (l : List Char) :
    splitWhitespace (dropWord^[n] (trimStart l)) = (splitWhitespace l).drop n := by
  induction l using words_induction generalizing n with
  | hblank l hb =>
    rw [trimStart_eq_nil.2 hb, dropWord_iterate_nil, splitWhitespace_blank hb, List.drop_nil]
    rfl
  | hword b w r hb hw hr ih =>
    rw [trimStart_append_of_blank hb, hw.trimStart_append, splitWhitespace_blank_append hb,
      splitWhitespace_word_append hw hr]
    cases n with
    | zero => exact splitWhitespace_word_append hw hr
    | succ n =>
      rw [Function.iterate_succ_apply, dropWord_append hw hr, List.drop_succ_cons]
      exact ih n

theorem dropWord_iterate_eq_nil (n : ℕ) (l : List Char) :
    dropWord^[n] (trimStart l) = [] ↔ (splitWhitespace l).length ≤ n := by
  rw [← List.drop_eq_nil_iff, ← splitWhitespace_dropWord, splitWhitespace_eq_nil]
  refine ⟨fun h => ?_, fun h => ?_⟩
  · rw [h]
    exact fun c hc => absurd hc List.not_mem_nil
  · rw [← trimStart_of_head (head_dropWord_iterate n (head_trimStart l))]
    exact trimStart_eq_nil.2 h

/-! Looking for the words one after the other -/

/-- The first occurrence of the first word is the first word. -/
theorem afterFirst_word (hb : Blank b) (hw : IsWord w) (r : List Char) :
    afterFirst w (b ++ (w ++ r)) = some r := by
  induction b with
  | nil =>
    cases w with
    | nil => exact absurd rfl hw.1
    | cons c w =>
      rw [List.nil_append, List.cons_append, afterFirst, ← List.cons_append,
        if_pos (List.prefix_append (c :: w) r), List.drop_left]
  | cons c b ih =>
    rw [Blank, List.forall_mem_cons] at hb
    have hnot : ¬ w <+: c :: (b ++ (w ++ r)) := by
      intro hprefix
      cases w with
      | nil => exact hw.1 rfl
      | cons d w =>
        have hd : d = c := (List.cons_prefix_cons.1 hprefix).1
        have hfalse := hw.2 d List.mem_cons_self
        rw [hd, hb.1] at hfalse
        cases hfalse
    rw [List.cons_append, afterFirst, if_neg hnot]
    exact ih hb.2

/-- What follows the tokens, each looked for after the one before it. -/
def afterTokens (tokens : List (List Char)) (l : List Char) : Option (List Char) :=
  tokens.foldlM (fun rest token => afterFirst token rest) l

theorem afterTokens_take (n : ℕ) (l : List Char) :
    ∃ rest, afterTokens ((splitWhitespace l).take n) l = some rest ∧ rest <:+ l ∧
      trimStart rest = dropWord^[n] (trimStart l) := by
  induction l using words_induction generalizing n with
  | hblank l hb =>
    refine ⟨l, ?_, List.suffix_refl l, ?_⟩
    · rw [splitWhitespace_blank hb, List.take_nil]
      rfl
    · rw [trimStart_eq_nil.2 hb, dropWord_iterate_nil]
  | hword b w r hb hw hr ih =>
    cases n with
    | zero => exact ⟨_, rfl, List.suffix_refl _, rfl⟩
    | succ n =>
      obtain ⟨rest, hrest, hsuffix, htrim⟩ := ih n
      refine ⟨rest, ?_, ?_, ?_⟩
      · rw [splitWhitespace_blank_append hb, splitWhitespace_word_append hw hr,
          List.take_succ_cons, afterTokens, List.foldlM_cons, afterFirst_word hb hw]
        exact hrest
      · exact hsuffix.trans ((List.suffix_append w r).trans (List.suffix_append b _))
      · rw [trimStart_append_of_blank hb, hw.trimStart_append, Function.iterate_succ_apply,
          dropWord_append hw hr]
        exact htrim

/-! Rejoining -/

theorem joinWords_cons (w : List Char) {words : List (List Char)} (h : words ≠ []) :
    joinWords (w :: words) = w ++ ' ' :: joinWords words := by
  cases words with
  | nil => exact absurd rfl h
  | cons v words => rfl

theorem singleSpaced_word (hw : IsWord w) : SingleSpaced w := by
  have hnot : ∀ c ∈ w, isWhitespace c = true → False := fun c hc hspace =>
    absurd ((hw.2 c hc).symm.trans hspace) (by decide)
  have hpairs : w.Pairwise NotBothBlank :=
    List.pairwise_of_forall_mem_list fun c hc _ _ hboth => hnot c hc hboth.1
  exact ⟨fun c hc hspace => (hnot c hc hspace).elim, hpairs.isChain⟩

theorem head_joinWords {words : List (List Char)} (h : ∀ w ∈ words, IsWord w) :
    ∀ c ∈ (joinWords words).head?, isWhitespace c = false := by
  cases words with
  | nil => exact fun c hc => by cases hc
  | cons w words =>
    have hw := h w List.mem_cons_self
    have hhead : (joinWords (w :: words)).head? = w.head? := by
      cases words with
      | nil => simp [joinWords]
      | cons v words =>
        rw [joinWords_cons w (List.cons_ne_nil v words), List.head?_append_of_ne_nil _ hw.1]
    rw [hhead]
    exact fun c hc => hw.2 c (List.mem_of_mem_head? hc)

theorem singleSpaced_joinWords {words : List (List Char)} (h : ∀ w ∈ words, IsWord w) :
    SingleSpaced (joinWords words) := by
  induction words with
  | nil => exact ⟨fun c hc => absurd hc List.not_mem_nil, List.isChain_nil⟩
  | cons w words ih =>
    have hw := singleSpaced_word (h w List.mem_cons_self)
    have hrest := ih fun v hv => h v (List.mem_cons_of_mem w hv)
    have hhead := head_joinWords fun v hv => h v (List.mem_cons_of_mem w hv)
    have hword := (h w List.mem_cons_self).2
    cases words with
    | nil => simpa [joinWords] using hw
    | cons v words =>
      rw [joinWords_cons w (List.cons_ne_nil v words)]
      constructor
      · intro c hc hspace
        rw [List.mem_append, List.mem_cons] at hc
        rcases hc with hc | rfl | hc
        · exact hw.1 c hc hspace
        · rfl
        · exact hrest.1 c hc hspace
      · rw [List.isChain_append, List.isChain_cons]
        refine ⟨hw.2, ⟨fun d hd hboth => ?_, hrest.2⟩, fun c hc d _ hboth => ?_⟩
        · rw [hhead d hd] at hboth
          cases hboth.2
        · rw [hword c (List.mem_of_mem_getLast? hc)] at hboth
          cases hboth.1

theorem joinWords_splitWhitespace (hspaced : SingleSpaced l)
    (hlast : ∀ c ∈ l.getLast?, isWhitespace c = false) :
    joinWords (splitWhitespace l) = trimStart l := by
  induction l using words_induction with
  | hblank l hb =>
    rw [splitWhitespace_blank hb, trimStart_eq_nil.2 hb]
    rfl
  | hword b w r hb hw hr ih =>
    rw [splitWhitespace_blank_append hb, splitWhitespace_word_append hw hr,
      trimStart_append_of_blank hb, hw.trimStart_append]
    have hsuffix : r <:+ b ++ (w ++ r) := (List.suffix_append w r).trans (List.suffix_append b _)
    cases r with
    | nil =>
      have hnil : splitWhitespace [] = [] := rfl
      rw [hnil, List.append_nil]
      exact List.append_nil w
    | cons c r =>
      -- one space follows the word, and another word after it
      have hchain : (c :: r).IsChain NotBothBlank := hspaced.2.suffix hsuffix
      have hc := hr c rfl
      have hspace : c = ' ' := hspaced.1 c (hsuffix.subset List.mem_cons_self) hc
      have hhead : ∀ d ∈ r.head?, isWhitespace d = false := by
        intro d hd
        rw [List.isChain_cons] at hchain
        exact Bool.eq_false_iff.2 fun hd' => hchain.1 d hd ⟨hc, hd'⟩
      have hlast' : ∀ d ∈ (c :: r).getLast?, isWhitespace d = false := by
        intro d hd
        refine hlast d ?_
        rw [← List.append_assoc, List.getLast?_append, Option.mem_def.1 hd]
        rfl
      have htrim : trimStart (c :: r) = r := by
        rw [trimStart, List.dropWhile_cons_of_pos hc]
        exact trimStart_of_head hhead
      have hnonempty : splitWhitespace (c :: r) ≠ [] := by
        intro hnil
        have hblank := splitWhitespace_eq_nil.1 hnil
        have hend := hlast' _ (List.getLast?_eq_getLast_of_ne_nil (List.cons_ne_nil c r))
        rw [hblank _ (List.getLast_mem _)] at hend
        cases hend
      rw [joinWords_cons w hnonempty, ih ⟨fun d hd => hspaced.1 d (hsuffix.subset hd), hchain⟩ hlast',
        htrim, hspace]

/-- Rejoining the words gives a trimmed text back exactly when its whitespace is single plain
spaces. -/
theorem joinWords_eq_iff (ht : Trimmed t) : joinWords (splitWhitespace t) = t ↔ SingleSpaced t := by
  constructor
  · intro h
    rw [← h]
    exact singleSpaced_joinWords fun w hw => isWord_of_mem hw
  · intro h
    rw [joinWords_splitWhitespace h ht.2, ht.trimStart]

end Text
