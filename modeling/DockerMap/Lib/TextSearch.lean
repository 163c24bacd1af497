import DockerMap.Lib.Text
import Mathlib.Data.List.TakeWhile

/-! Where a word occurs in a text, and what masking characters or cutting the text off can
do to it. Masking puts one mark, foreign to the words searched for, in place of characters;
cutting off leaves a tail that shares no character with them. -/

namespace Text

variable {α : Type*}

/-! Tokens between separators -/

/-- The text ends where a token may begin. -/
def EndsAt (sep : α → Bool) (l : List α) : Prop := ∀ c ∈ l.getLast?, sep c = true

/-- The text begins where a token may end. -/
def StartsAt (sep : α → Bool) (l : List α) : Prop := ∀ c ∈ l.head?, sep c = true

theorem endsAt_nil (sep : α → Bool) : EndsAt sep [] := fun _ h => by cases h

theorem startsAt_nil (sep : α → Bool) : StartsAt sep [] := fun _ h => by cases h

theorem endsAt_append_singleton {sep : α → Bool} {l : List α} {c : α} :
    EndsAt sep (l ++ [c]) ↔ sep c = true := by
  simp [EndsAt]

theorem startsAt_cons {sep : α → Bool} {l : List α} {c : α} :
    StartsAt sep (c :: l) ↔ sep c = true := by
  simp [StartsAt]

theorem exists_first {sep : α → Bool} {l : List α} (h : ¬ ∀ c ∈ l, sep c = false) :
    ∃ first c rest, l = first ++ c :: rest ∧ sep c = true ∧ ∀ d ∈ first, sep d = false := by
  induction l with
  | nil => simp at h
  | cons c l ih =>
    by_cases hc : sep c = true
    · exact ⟨[], c, l, rfl, hc, by simp⟩
    · have hc' : sep c = false := by simpa using hc
      obtain ⟨first, d, rest, rfl, hd, hfirst⟩ := ih fun hall => h (by simpa [hc'] using hall)
      exact ⟨c :: first, d, rest, rfl, hd, by simpa [hc'] using hfirst⟩

theorem mem_splitOnP_of_parts {sep : α → Bool} {a t b : List α} (ht : ∀ c ∈ t, sep c = false)
    (ha : EndsAt sep a) (hb : StartsAt sep b) : t ∈ (a ++ t ++ b).splitOnP sep := by
  have htail : t ∈ (t ++ b).splitOnP sep := by
    cases b with
    | nil => simp [List.splitOnP_eq_singleton ht]
    | cons c b =>
      rw [List.splitOnP_append_cons _ _ (startsAt_cons.1 hb), List.splitOnP_eq_singleton ht]
      exact List.mem_cons_self
  rcases List.eq_nil_or_concat' a with rfl | ⟨a, c, rfl⟩
  · simpa using htail
  · rw [List.append_assoc, List.append_assoc, List.singleton_append,
      List.splitOnP_append_cons _ _ (endsAt_append_singleton.1 ha)]
    exact List.mem_append_right _ htail

theorem parts_of_mem_splitOnP {sep : α → Bool} {l t : List α} (h : t ∈ l.splitOnP sep) :
    (∀ c ∈ t, sep c = false) ∧ ∃ a b, l = a ++ t ++ b ∧ EndsAt sep a ∧ StartsAt sep b := by
  induction hn : l.length using Nat.strong_induction_on generalizing l with
  | _ n ih =>
    by_cases hnone : ∀ c ∈ l, sep c = false
    · rw [List.splitOnP_eq_singleton hnone, List.mem_singleton] at h
      subst h
      exact ⟨hnone, [], [], by simp, endsAt_nil _, startsAt_nil _⟩
    · obtain ⟨first, c, rest, rfl, hc, hfirst⟩ := exists_first hnone
      rw [List.splitOnP_append_cons _ _ hc, List.splitOnP_eq_singleton hfirst,
        List.singleton_append, List.mem_cons] at h
      rcases h with rfl | h
      · exact ⟨hfirst, [], c :: rest, by simp, endsAt_nil _, startsAt_cons.2 hc⟩
      · have hlt : rest.length < n := by
          rw [← hn, List.length_append, List.length_cons]
          omega
        obtain ⟨ht, a, b, rfl, ha, hb⟩ := ih rest.length hlt h rfl
        refine ⟨ht, first ++ c :: a, b, by simp, ?_, hb⟩
        rcases List.eq_nil_or_concat' a with rfl | ⟨a, d, rfl⟩
        · exact endsAt_append_singleton.2 hc
        · rw [show first ++ c :: (a ++ [d]) = (first ++ c :: a) ++ [d] by simp]
          exact endsAt_append_singleton.2 (endsAt_append_singleton.1 ha)

theorem splitOnP_map {β : Type*} (f : α → β) (sep : β → Bool) (l : List α) :
    (l.map f).splitOnP sep = (l.splitOnP (sep ∘ f)).map (List.map f) := by
  induction l with
  | nil => rfl
  | cons c l ih =>
    rw [List.map_cons, List.splitOnP_cons_eq_if_modifyHead, List.splitOnP_cons_eq_if_modifyHead,
      Function.comp_apply, ih]
    split_ifs
    · rfl
    · obtain ⟨t, ts, hts⟩ := List.exists_cons_of_ne_nil (List.splitOnP_ne_nil (sep ∘ f) l)
      rw [hts]
      rfl

/-- The word is a token, or a token begins with it and goes on with the character `eq`. -/
def OccursAsFlag (sep : α → Bool) (eq : α) (flag l : List α) : Prop :=
  ∃ a b, l = a ++ flag ++ b ∧ EndsAt sep a ∧ ∀ c ∈ b.head?, sep c = true ∨ c = eq

theorem occursAsFlag_iff {sep : α → Bool} {eq : α} {flag l : List α}
    (hflag : ∀ c ∈ flag, sep c = false) (heq : sep eq = false) :
    OccursAsFlag sep eq flag l ↔ ∃ t ∈ l.splitOnP sep, t = flag ∨ flag ++ [eq] <+: t := by
  constructor
  · rintro ⟨a, b, rfl, ha, hb⟩
    by_cases hsep : StartsAt sep b
    · exact ⟨flag, mem_splitOnP_of_parts hflag ha hsep, Or.inl rfl⟩
    · -- the token reaches from the flag over `eq` to the next separator
      obtain ⟨c, b, rfl⟩ : ∃ c b', b = c :: b' := by
        cases b with
        | nil => exact absurd (startsAt_nil sep) hsep
        | cons c b => exact ⟨c, b, rfl⟩
      have hc : c = eq := (hb c rfl).resolve_left fun h => hsep (startsAt_cons.2 h)
      subst hc
      have hsplit := List.takeWhile_append_dropWhile (p := fun d => !sep d) (l := b)
      have htake : ∀ d ∈ b.takeWhile fun d => !sep d, sep d = false := fun d hd => by
        simpa using List.mem_takeWhile_imp hd
      refine ⟨flag ++ c :: b.takeWhile fun d => !sep d, ?_, Or.inr ⟨b.takeWhile fun d => !sep d,
        by simp⟩⟩
      have hmem := @mem_splitOnP_of_parts _ sep a (flag ++ c :: b.takeWhile fun d => !sep d)
        (b.dropWhile fun d => !sep d) ?_ ha ?_
      · rw [show a ++ flag ++ c :: b = a ++ (flag ++ c :: b.takeWhile fun d => !sep d) ++
          b.dropWhile fun d => !sep d by simp [hsplit]]
        exact hmem
      · intro d hd
        rw [List.mem_append, List.mem_cons] at hd
        rcases hd with hd | rfl | hd
        · exact hflag d hd
        · exact heq
        · exact htake d hd
      · intro d hd
        have := List.head?_dropWhile_not (fun d => !sep d) b
        rw [hd] at this
        simpa using this
  · rintro ⟨t, ht, htflag⟩
    obtain ⟨-, a, b, rfl, ha, hb⟩ := parts_of_mem_splitOnP ht
    rcases htflag with rfl | ⟨rest, rfl⟩
    · exact ⟨a, b, rfl, ha, fun c hc => Or.inl (hb c hc)⟩
    · refine ⟨a, eq :: rest ++ b, by simp, ha, ?_⟩
      intro c hc
      cases hc
      exact Or.inr rfl

/-! Words after leading space -/

theorem startsWith_dropWhile_iff {space : α → Bool} {c : α} {word l : List α}
    (hc : space c = false) :
    c :: word <+: l.dropWhile space ↔
      ∃ a b, l = a ++ c :: word ++ b ∧ ∀ d ∈ a, space d = true := by
  constructor
  · rintro ⟨b, hb⟩
    refine ⟨l.takeWhile space, b, ?_, fun d hd => List.mem_takeWhile_imp hd⟩
    rw [List.append_assoc, hb, List.takeWhile_append_dropWhile]
  · rintro ⟨a, b, rfl, ha⟩
    rw [List.append_assoc, List.dropWhile_append_of_pos ha, List.cons_append,
      List.dropWhile_cons_of_neg (by simp [hc])]
    exact ⟨b, rfl⟩

/-- The word follows nothing but space. -/
def Leads (space : α → Bool) (word l : List α) : Prop :=
  ∃ a b, l = a ++ word ++ b ∧ ∀ d ∈ a, space d = true

theorem OccursAsFlag.mono {sep sep' : α → Bool} {eq : α} {flag l : List α}
    (hsep : ∀ c ∈ l, sep c = true → sep' c = true) (h : OccursAsFlag sep eq flag l) :
    OccursAsFlag sep' eq flag l := by
  obtain ⟨a, b, rfl, ha, hb⟩ := h
  refine ⟨a, b, rfl, fun c hc => ?_, fun c hc => ?_⟩
  · exact hsep c (by simp [List.mem_of_getLast? hc]) (ha c hc)
  · exact (hb c hc).imp_left (hsep c (by simp [List.mem_of_head? hc]))

theorem Leads.mono {space space' : α → Bool} {word l : List α}
    (hspace : ∀ c ∈ l, space c = true → space' c = true) (h : Leads space word l) :
    Leads space' word l := by
  obtain ⟨a, b, rfl, ha⟩ := h
  exact ⟨a, b, rfl, fun c hc => hspace c (by simp [hc]) (ha c hc)⟩

/-! Masking -/

/-- Every character is kept or replaced by the mark. -/
def Masks (f : α → α) (mark : α) : Prop := ∀ c, f c = c ∨ f c = mark

section

variable {f : α → α} {mark : α} {word l : List α}

theorem Masks.eq_of_map (hf : Masks f mark) (h : l.map f = word) (hword : mark ∉ word) :
    l = word := by
  have hkept : ∀ c ∈ l, f c = c := fun c hc =>
    (hf c).resolve_right fun hmark => hword (h ▸ hmark ▸ List.mem_map_of_mem hc)
  rw [← h, List.map_congr_left hkept, List.map_id']

theorem Masks.apply_eq_iff (hf : Masks f mark) {a : α} (ha : a ≠ mark) (hfix : f a = a) (c : α) :
    f c = a ↔ c = a := by
  constructor
  · intro h
    rw [← h]
    exact ((hf c).resolve_right fun hmark => ha (h.symm.trans hmark)).symm
  · rintro rfl
    exact hfix

theorem Masks.infix (hf : Masks f mark) (hword : mark ∉ word) (h : word <:+: l.map f) :
    word <:+: l := by
  obtain ⟨m, hm, rfl⟩ := List.infix_map_iff.1 h
  rwa [← hf.eq_of_map rfl hword]

/-- Where a word is found in the masked text, it stands in the text. -/
theorem Masks.split (hf : Masks f mark) (hword : mark ∉ word) {a b : List α}
    (h : l.map f = a ++ word ++ b) :
    ∃ a' b', l = a' ++ word ++ b' ∧ a'.map f = a ∧ b'.map f = b := by
  obtain ⟨front, b', rfl, hfront, hb⟩ := List.map_eq_append_iff.1 h
  obtain ⟨a', m, rfl, ha, hm⟩ := List.map_eq_append_iff.1 hfront
  rw [hf.eq_of_map hm hword]
  exact ⟨a', b', rfl, ha, hb⟩

theorem Masks.occursAsFlag (hf : Masks f mark) {sep : α → Bool} {eq : α} (hsep : sep mark = false)
    (heq : mark ≠ eq) (hword : mark ∉ word) (h : OccursAsFlag sep eq word (l.map f)) :
    OccursAsFlag sep eq word l := by
  obtain ⟨a, b, hl, ha, hb⟩ := h
  obtain ⟨a, b, rfl, rfl, rfl⟩ := hf.split hword hl
  refine ⟨a, b, rfl, fun c hc => ?_, fun c hc => ?_⟩
  · have hsepc := ha (f c) (by rw [List.getLast?_map, hc]; rfl)
    rcases hf c with hkept | hmark
    · rwa [hkept] at hsepc
    · rw [hmark, hsep] at hsepc
      cases hsepc
  · have hnext := hb (f c) (by rw [List.head?_map, hc]; rfl)
    rcases hf c with hkept | hmark
    · rwa [hkept] at hnext
    · rw [hmark, hsep] at hnext
      exact absurd (hnext.resolve_left Bool.false_ne_true) heq

theorem Masks.leads (hf : Masks f mark) {space : α → Bool} (hspace : space mark = false)
    (hword : mark ∉ word) (h : Leads space word (l.map f)) : Leads space word l := by
  obtain ⟨a, b, hl, ha⟩ := h
  obtain ⟨a, b, rfl, rfl, rfl⟩ := hf.split hword hl
  refine ⟨a, b, rfl, fun c hc => ?_⟩
  have hspacec := ha (f c) (List.mem_map_of_mem hc)
  rcases hf c with hkept | hmark
  · rwa [hkept] at hspacec
  · rw [hmark, hspace] at hspacec
    cases hspacec

theorem Masks.prefix_iff (hf : Masks f mark) (hword : mark ∉ word) (hfix : ∀ c ∈ word, f c = c) :
    word <+: l.map f ↔ word <+: l := by
  constructor
  · intro h
    obtain ⟨m, hm, rfl⟩ := List.prefix_map_iff.1 h
    rwa [← hf.eq_of_map rfl hword]
  · rintro ⟨b, rfl⟩
    rw [List.map_append, List.map_congr_left hfix, List.map_id']
    exact ⟨b.map f, rfl⟩

end

theorem Masks.afterFirst {f : Char → Char} {mark : Char} {word : List Char} (hf : Masks f mark)
    (hword : mark ∉ word) (hfix : ∀ c ∈ word, f c = c) (l : List Char) :
    afterFirst word (l.map f) = (afterFirst word l).map (List.map f) := by
  induction l with
  | nil =>
    simp only [List.map_nil, Text.afterFirst]
    split_ifs <;> rfl
  | cons c l ih =>
    have hiff := hf.prefix_iff (l := c :: l) hword hfix
    simp only [List.map_cons] at hiff ⊢
    simp only [Text.afterFirst, hiff]
    split_ifs
    · rw [← List.map_cons, Option.map_some, List.map_drop]
    · exact ih

/-! Cutting off -/

section

variable {word p q r : List α}

/-- A word whose last character is foreign to the tail lies before it. -/
theorem split_of_foreign_last {w : List α} {c : α} (hforeign : c ∉ q) {a b : List α}
    (h : p ++ q = a ++ (w ++ [c]) ++ b) : ∃ b', p = a ++ (w ++ [c]) ++ b' ∧ b = b' ++ q := by
  rcases List.append_eq_append_iff.1 h with ⟨rest, hfront, hq⟩ | ⟨b', hp, hb⟩
  · rcases List.eq_nil_or_concat' rest with rfl | ⟨rest, d, rfl⟩
    · exact ⟨[], by simpa using hfront.symm, by simpa using hq.symm⟩
    · rw [← List.append_assoc, ← List.append_assoc] at hfront
      obtain ⟨-, hcd⟩ := List.append_inj' hfront rfl
      cases hcd
      exact absurd (by rw [hq]; simp) hforeign
  · exact ⟨b', hp, hb⟩

theorem infix_of_foreign_last {w : List α} {c : α} (hforeign : c ∉ q)
    (h : w ++ [c] <:+: p ++ q) : w ++ [c] <:+: p := by
  obtain ⟨a, b, h⟩ := h
  obtain ⟨b', hp, -⟩ := split_of_foreign_last hforeign h.symm
  exact ⟨a, b', hp.symm⟩

/-- A word foreign to the tail lies before it. -/
theorem split_of_foreign (hne : word ≠ []) (hforeign : ∀ c ∈ word, c ∉ q) {a b : List α}
    (h : p ++ q = a ++ word ++ b) : ∃ b', p = a ++ word ++ b' ∧ b = b' ++ q := by
  obtain ⟨w, c, rfl⟩ := (List.eq_nil_or_concat' word).resolve_left hne
  exact split_of_foreign_last (hforeign c (by simp)) h

theorem infix_of_cut (hne : word ≠ []) (hforeign : ∀ c ∈ word, c ∉ q) (h : word <:+: p ++ q) :
    word <:+: p := by
  obtain ⟨w, c, rfl⟩ := (List.eq_nil_or_concat' word).resolve_left hne
  exact infix_of_foreign_last (hforeign c (by simp)) h

/-- No flag appears where a text is cut off: the tail neither ends one nor follows it. -/
theorem occursAsFlag_of_cut {sep : α → Bool} {eq : α} (hne : word ≠ [])
    (hforeign : ∀ c ∈ word, c ∉ q) (hq : ∃ c ∈ q.head?, sep c = false ∧ c ≠ eq)
    (h : OccursAsFlag sep eq word (p ++ q)) : OccursAsFlag sep eq word (p ++ r) := by
  obtain ⟨a, b, hl, ha, hb⟩ := h
  obtain ⟨b', rfl, rfl⟩ := split_of_foreign hne hforeign hl
  obtain ⟨c, hc, hsep, heq⟩ := hq
  cases b' with
  | nil =>
    rcases hb c (by simpa using hc) with hcsep | hceq
    · rw [hsep] at hcsep
      cases hcsep
    · exact absurd hceq heq
  | cons d b' => exact ⟨a, d :: b' ++ r, by simp, ha, fun c hc => hb c (by simpa using hc)⟩

theorem leads_of_cut {space : α → Bool} (hne : word ≠ []) (hforeign : ∀ c ∈ word, c ∉ q)
    (h : Leads space word (p ++ q)) : Leads space word (p ++ r) := by
  obtain ⟨a, b, hl, ha⟩ := h
  obtain ⟨b', rfl, rfl⟩ := split_of_foreign hne hforeign hl
  exact ⟨a, b' ++ r, by simp, ha⟩

end

theorem infix_of_afterFirst {word l x : List Char} (h : afterFirst word l = some x) :
    word <:+: l := by
  induction l with
  | nil =>
    rw [afterFirst] at h
    split_ifs at h with hnil
    rw [hnil]
  | cons c l ih =>
    rw [afterFirst] at h
    split_ifs at h with hpre
    · exact hpre.isInfix
    · exact (ih h).trans (List.suffix_cons c l).isInfix

/-- What follows the first occurrence of a word, by what stands before it. -/
theorem afterFirst_eq_some {word l x : List Char} (hne : word ≠ []) :
    afterFirst word l = some x ↔
      ∃ before, l = before ++ word ++ x ∧ ¬ word <:+: before ++ word.dropLast := by
  have hshort : word.dropLast.length < word.length := by
    rw [List.length_dropLast]
    exact Nat.sub_lt (List.length_pos_iff.2 hne) Nat.one_pos
  induction l with
  | nil =>
    rw [afterFirst, if_neg hne]
    simp only [reduceCtorEq, false_iff, not_exists, not_and]
    intro before hlist
    exact absurd (List.append_eq_nil_iff.1 (List.append_eq_nil_iff.1 hlist.symm).1).2 hne
  | cons c l ih =>
    rw [afterFirst]
    split_ifs with hprefix
    · obtain ⟨rest, hrest⟩ := hprefix
      rw [← hrest, List.drop_left, Option.some.injEq]
      constructor
      · rintro rfl
        exact ⟨[], rfl, fun hinfix => absurd hinfix.length_le (not_le.2 hshort)⟩
      · rintro ⟨before, hlist, hfirst⟩
        cases before with
        | nil => exact List.append_cancel_left hlist
        | cons d before =>
          refine absurd (List.IsPrefix.isInfix ?_) hfirst
          have hfront : d :: before ++ word.dropLast <+: d :: before ++ word ++ x := by
            rw [List.append_assoc]
            exact (List.prefix_append_right_inj _).2
              ((List.dropLast_prefix word).trans (List.prefix_append word x))
          refine List.prefix_of_prefix_length_le ⟨rest, hlist⟩ hfront ?_
          rw [List.length_append, List.length_cons, List.length_dropLast]
          omega
    · refine ih.trans ?_
      constructor
      · rintro ⟨before, rfl, hfirst⟩
        refine ⟨c :: before, rfl, fun hinfix => ?_⟩
        rw [List.cons_append, List.infix_cons_iff] at hinfix
        rcases hinfix with hstart | hinfix
        · refine hprefix (hstart.trans ?_)
          rw [List.append_assoc]
          exact (List.prefix_append_right_inj (c :: before)).2
            ((List.dropLast_prefix word).trans (List.prefix_append word x))
        · exact hfirst hinfix
      · rintro ⟨before, hlist, hfirst⟩
        cases before with
        | nil => exact absurd ⟨x, hlist.symm⟩ hprefix
        | cons d before =>
          obtain ⟨-, rfl⟩ := List.cons.inj hlist
          exact ⟨before, rfl, fun hwithin => hfirst (hwithin.trans (List.suffix_cons _ _).isInfix)⟩

theorem afterFirst_append {word p x : List Char} (h : afterFirst word p = some x)
    (r : List Char) : afterFirst word (p ++ r) = some (x ++ r) := by
  induction p with
  | nil =>
    rw [afterFirst] at h
    split_ifs at h with hnil
    cases h
    subst hnil
    cases r with
    | nil => rfl
    | cons c r => simp [afterFirst]
  | cons c p ih =>
    rw [afterFirst] at h
    rw [List.cons_append, afterFirst]
    split_ifs at h with hpre
    · cases h
      rw [← List.cons_append, if_pos (hpre.trans (List.prefix_append _ _)),
        List.drop_append_of_le_length hpre.length_le]
    · have hlen := (infix_of_afterFirst h).length_le
      have hlonger : ¬ word <+: c :: (p ++ r) := fun hword =>
        hpre (List.prefix_of_prefix_length_le hword
          (by rw [← List.cons_append]; exact List.prefix_append _ _)
          (by rw [List.length_cons]; omega))
      rw [if_neg hlonger]
      exact ih h

theorem afterFirst_of_cut {word p q y : List Char} (hne : word ≠ [])
    (hforeign : ∀ c ∈ word, c ∉ q) (h : afterFirst word (p ++ q) = some y) :
    ∃ x, afterFirst word p = some x ∧ y = x ++ q := by
  induction p with
  | nil =>
    have hnil := infix_of_cut (p := []) hne hforeign (infix_of_afterFirst h)
    exact absurd (List.infix_nil.1 hnil) hne
  | cons c p ih =>
    rw [List.cons_append, afterFirst] at h
    rw [afterFirst]
    split_ifs at h with hpre
    · obtain ⟨b, hb⟩ := hpre
      obtain ⟨b', hp, rfl⟩ := split_of_foreign (p := c :: p) (a := []) hne hforeign
        (by rw [List.nil_append, hb, List.cons_append])
      rw [List.nil_append] at hp
      rw [← List.cons_append, hp, List.append_assoc, List.drop_left] at h
      cases h
      exact ⟨b', by rw [hp, if_pos (List.prefix_append _ _), List.drop_left], rfl⟩
    · have hshorter : ¬ word <+: c :: p := fun hword =>
        hpre (by rw [← List.cons_append]; exact hword.trans (List.prefix_append _ _))
      rw [if_neg hshorter]
      exact ih h

/-! Rendering character by character. A text is rendered as one piece for each character;
a word found in the rendering is made of one-character pieces when every longer piece ends
in a character foreign to the word and the word cannot end within it. -/

def Aligns (word piece : List α) : Prop :=
  (∃ c, piece = [c]) ∨
    ∃ front mark, piece = front ++ [mark] ∧ mark ∉ word ∧ ∀ c ∈ word.getLast?, c ∉ front

section

variable {word b : List α} {pieces : List (List α)}

theorem Aligns.tail {c : α} {piece : List α} (h : Aligns (c :: word) piece) :
    Aligns word piece := by
  rcases h with hsingle | ⟨front, mark, rfl, hmark, hlast⟩
  · exact Or.inl hsingle
  · refine Or.inr ⟨front, mark, rfl, fun hmem => hmark (List.mem_cons_of_mem _ hmem), ?_⟩
    intro d hd
    refine hlast d ?_
    rcases List.eq_nil_or_concat' word with rfl | ⟨word, e, rfl⟩
    · cases hd
    · rw [← List.cons_append, List.getLast?_concat]
      rwa [List.getLast?_concat] at hd

/-- No word begins within a longer piece. -/
theorem not_word_in_front {front a rest : List α} {mark : α} (hne : word ≠ [])
    (hmark : mark ∉ word) (hlast : ∀ c ∈ word.getLast?, c ∉ front)
    (hlen : a.length ≤ front.length) : front ++ mark :: rest ≠ a ++ (word ++ b) := by
  intro h
  rcases List.append_eq_append_iff.1 h with ⟨extra, ha, hmid⟩ | ⟨middle, hfront, hmid⟩
  · have hextra : extra = [] := by
      rw [← List.length_eq_zero_iff]
      rw [ha, List.length_append] at hlen
      omega
    subst hextra
    cases word with
    | nil => exact hne rfl
    | cons c word =>
      rw [List.nil_append, List.cons_append, List.cons.injEq] at hmid
      exact hmark (hmid.1 ▸ List.mem_cons_self)
  · rcases List.append_eq_append_iff.1 hmid with ⟨extra, hmiddle, -⟩ | ⟨extra, hword, hrest⟩
    · obtain ⟨word, c, rfl⟩ := (List.eq_nil_or_concat' word).resolve_left hne
      exact hlast c (by rw [List.getLast?_concat]; rfl) (by rw [hfront, hmiddle]; simp)
    · cases extra with
      | nil =>
        obtain ⟨word, c, rfl⟩ := (List.eq_nil_or_concat' word).resolve_left hne
        exact hlast c (by rw [List.getLast?_concat]; rfl)
          (by rw [hfront]; rw [List.append_nil] at hword; rw [← hword]; simp)
      | cons c extra =>
        rw [List.cons_append, List.cons.injEq] at hrest
        exact hmark (by rw [hword, hrest.1]; simp)

theorem prefix_of_pieces (h : ∀ piece ∈ pieces, Aligns word piece)
    (hflat : pieces.flatten = word ++ b) :
    ∃ after, pieces = word.map (fun c => [c]) ++ after ∧ after.flatten = b := by
  induction word generalizing pieces with
  | nil => exact ⟨pieces, rfl, hflat⟩
  | cons c word ih =>
    cases pieces with
    | nil => cases hflat
    | cons piece pieces =>
      rw [List.flatten_cons] at hflat
      rcases h piece List.mem_cons_self with ⟨d, rfl⟩ | ⟨front, mark, rfl, hmark, hlast⟩
      · rw [List.singleton_append, List.cons_append, List.cons.injEq] at hflat
        obtain ⟨rfl, hflat⟩ := hflat
        obtain ⟨after, rfl, hafter⟩ :=
          ih (fun piece hpiece => (h piece (List.mem_cons_of_mem _ hpiece)).tail) hflat
        exact ⟨after, rfl, hafter⟩
      · rw [List.append_assoc] at hflat
        exact absurd hflat (not_word_in_front (a := []) (List.cons_ne_nil c word) hmark hlast
          (Nat.zero_le _))

theorem split_of_pieces {a : List α} (hne : word ≠ []) (h : ∀ piece ∈ pieces, Aligns word piece)
    (hflat : pieces.flatten = a ++ (word ++ b)) :
    ∃ before after, pieces = before ++ word.map (fun c => [c]) ++ after ∧
      before.flatten = a ∧ after.flatten = b := by
  induction pieces generalizing a with
  | nil =>
    have hnil : word = [] := by
      have := congrArg List.length hflat
      simp only [List.flatten_nil, List.length_nil, List.length_append] at this
      exact List.length_eq_zero_iff.1 (by omega)
    exact absurd hnil hne
  | cons piece pieces ih =>
    cases a with
    | nil =>
      obtain ⟨after, hpieces, hafter⟩ := prefix_of_pieces h hflat
      exact ⟨[], after, hpieces, rfl, hafter⟩
    | cons c a =>
      have hrest : ∀ piece ∈ pieces, Aligns word piece := fun piece hpiece =>
        h piece (List.mem_cons_of_mem _ hpiece)
      rw [List.flatten_cons] at hflat
      rcases h piece List.mem_cons_self with ⟨d, rfl⟩ | ⟨front, mark, rfl, hmark, hlast⟩
      · rw [List.singleton_append, List.cons_append, List.cons.injEq] at hflat
        obtain ⟨rfl, hflat⟩ := hflat
        obtain ⟨before, after, rfl, rfl, hafter⟩ := ih hrest hflat
        exact ⟨[d] :: before, after, rfl, rfl, hafter⟩
      · by_cases hlen : (c :: a).length ≤ front.length
        · rw [List.append_assoc] at hflat
          exact absurd hflat (not_word_in_front hne hmark hlast hlen)
        · obtain ⟨a', ha⟩ : front ++ [mark] <+: c :: a := by
            refine List.prefix_of_prefix_length_le ⟨pieces.flatten, hflat⟩
              (List.prefix_append _ _) ?_
            rw [List.length_append, List.length_singleton]
            omega
          rw [← ha, List.append_assoc (front ++ [mark]), List.append_cancel_left_eq] at hflat
          obtain ⟨before, after, rfl, rfl, hafter⟩ := ih hrest hflat
          exact ⟨(front ++ [mark]) :: before, after, rfl, by rw [List.flatten_cons, ha], hafter⟩

end

end Text
