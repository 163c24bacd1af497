import DockerMap.Lib.Text

/-! JSON values and their compact rendering. Two values never render to the same
text, so comparing renderings compares values. -/

inductive Json
  | null
  | bool (b : Bool)
  | num (n : ℕ)
  | str (s : String)
  | arr (items : List Json)
  | obj (fields : List (String × Json))

namespace Json

def hexDigit (n : ℕ) : Char := Nat.digitChar n

/-- One character of a string literal: the short escapes, `\u00XX` for the other
control characters, everything else as it is. -/
def escapeChar (c : Char) : List Char :=
  if c = '"' then ['\\', '"']
  else if c = '\\' then ['\\', '\\']
  else if c = '\x08' then ['\\', 'b']
  else if c = '\x0C' then ['\\', 'f']
  else if c = '\n' then ['\\', 'n']
  else if c = '\r' then ['\\', 'r']
  else if c = '\t' then ['\\', 't']
  else if c.toNat < 0x20 then
    ['\\', 'u', '0', '0', hexDigit (c.toNat / 16), hexDigit (c.toNat % 16)]
  else [c]

def escape : List Char → List Char
  | [] => []
  | c :: s => escapeChar c ++ escape s

def renderStr (s : String) : List Char := '"' :: escape s.toList ++ ['"']

mutual

def render : Json → List Char
  | null => "null".toList
  | bool true => "true".toList
  | bool false => "false".toList
  | num n => Nat.toDigits 10 n
  | str s => renderStr s
  | arr [] => ['[', ']']
  | arr (j :: items) => '[' :: render j ++ renderItems items
  | obj [] => ['{', '}']
  | obj ((k, j) :: fields) => '{' :: renderStr k ++ ':' :: render j ++ renderFields fields

/-- What follows the first item, the closing bracket included. -/
def renderItems : List Json → List Char
  | [] => [']']
  | j :: items => ',' :: render j ++ renderItems items

def renderFields : List (String × Json) → List Char
  | [] => ['}']
  | (k, j) :: fields => ',' :: renderStr k ++ ':' :: render j ++ renderFields fields

end

/-- `serde_json::to_string`. -/
def toText (j : Json) : String := String.ofList (render j)

/-! Strings are read back character by character -/

def unescapeShort : Char → Option Char
  | '"' => some '"'
  | '\\' => some '\\'
  | 'b' => some '\x08'
  | 'f' => some '\x0C'
  | 'n' => some '\n'
  | 'r' => some '\r'
  | 't' => some '\t'
  | _ => none

/-- The first character of a string body; `none` at the closing quote. -/
def readChar : List Char → Option (Char × List Char)
  | '\\' :: 'u' :: _ :: _ :: a :: b :: r =>
      some (Char.ofNat (Text.hexDigitValue a * 16 + Text.hexDigitValue b), r)
  | '\\' :: e :: r => (unescapeShort e).map fun c => (c, r)
  | '"' :: _ => none
  | c :: r => some (c, r)
  | [] => none

theorem ofNat_hexDigits {n : ℕ} (h : n < 32) :
    Char.ofNat (Text.hexDigitValue (hexDigit (n / 16)) * 16 +
      Text.hexDigitValue (hexDigit (n % 16))) = Char.ofNat n := by
  rw [hexDigit, hexDigit, Text.hexDigitValue_digitChar _ (by omega),
    Text.hexDigitValue_digitChar _ (by omega), Nat.div_add_mod']

theorem readChar_cons {c : Char} (h1 : c ≠ '"') (h2 : c ≠ '\\') (r : List Char) :
    readChar (c :: r) = some (c, r) := by
  unfold readChar
  split <;> simp_all

theorem readChar_escapeChar (c : Char) (r : List Char) :
    readChar (escapeChar c ++ r) = some (c, r) := by
  unfold escapeChar
  split_ifs with h1 h2 h3 h4 h5 h6 h7 h8
  · simp [h1, readChar, unescapeShort]
  · simp [h2, readChar, unescapeShort]
  · simp [h3, readChar, unescapeShort]
  · simp [h4, readChar, unescapeShort]
  · simp [h5, readChar, unescapeShort]
  · simp [h6, readChar, unescapeShort]
  · simp [h7, readChar, unescapeShort]
  · simp only [List.cons_append, List.nil_append, readChar, ofNat_hexDigits h8, Char.ofNat_toNat]
  · exact readChar_cons h1 h2 r

theorem escape_append_inj {s t r r' : List Char}
    (h : escape s ++ '"' :: r = escape t ++ '"' :: r') : s = t ∧ r = r' := by
  have hquote : ∀ (l : List Char), readChar ('"' :: l) = none := fun l => rfl
  induction s generalizing t with
  | nil =>
    cases t with
    | nil => simpa [escape] using h
    | cons d t =>
      have := congrArg readChar h
      rw [escape, escape, List.append_assoc, readChar_escapeChar, List.nil_append, hquote] at this
      cases this
  | cons c s ih =>
    cases t with
    | nil =>
      have := congrArg readChar h
      rw [escape, escape, List.append_assoc, readChar_escapeChar, List.nil_append, hquote] at this
      cases this
    | cons d t =>
      have := congrArg readChar h
      rw [escape, escape, List.append_assoc, List.append_assoc, readChar_escapeChar,
        readChar_escapeChar, Option.some.injEq, Prod.mk.injEq] at this
      obtain ⟨hc, hrest⟩ := this
      obtain ⟨hs, hr⟩ := ih hrest
      exact ⟨by rw [hc, hs], hr⟩

theorem renderStr_append_inj {s t : String} {r r' : List Char}
    (h : renderStr s ++ r = renderStr t ++ r') : s = t ∧ r = r' := by
  unfold renderStr at h
  simp only [List.cons_append, List.append_assoc, List.nil_append, List.cons.injEq, true_and] at h
  obtain ⟨hs, hr⟩ := escape_append_inj h
  exact ⟨String.toList_injective hs, hr⟩

/-! Numbers end where the digits end -/

def NoDigit (r : List Char) : Prop := ∀ c t, r = c :: t → c.isDigit = false

theorem noDigit_cons {c : Char} (h : c.isDigit = false) (t : List Char) : NoDigit (c :: t) := by
  intro c' t' heq
  cases heq
  exact h

theorem noDigit_nil : NoDigit [] := by
  intro c t h
  cases h

theorem takeWhile_digits {l r : List Char} (h : ∀ c ∈ l, c.isDigit) (hr : NoDigit r) :
    (l ++ r).takeWhile Char.isDigit = l := by
  rw [List.takeWhile_append_of_pos h]
  cases r with
  | nil => simp
  | cons c t => simp [hr c t rfl]

theorem toDigits_append_inj {m n : ℕ} {r r' : List Char} (hr : NoDigit r) (hr' : NoDigit r')
    (h : Nat.toDigits 10 m ++ r = Nat.toDigits 10 n ++ r') : m = n ∧ r = r' := by
  have hdigits : ∀ k, ∀ c ∈ Nat.toDigits 10 k, c.isDigit := fun k c hc =>
    Nat.isDigit_of_mem_toDigits (by decide) (by decide) hc
  have htake := congrArg (List.takeWhile Char.isDigit) h
  rw [takeWhile_digits (hdigits m) hr, takeWhile_digits (hdigits n) hr'] at htake
  rw [htake] at h
  exact ⟨Text.toDigits_injective htake, List.append_cancel_left h⟩

theorem noDigit_renderItems (items : List Json) (r : List Char) :
    NoDigit (renderItems items ++ r) := by
  cases items with
  | nil => exact noDigit_cons (by decide) _
  | cons j items => exact noDigit_cons (by decide) _

theorem noDigit_renderFields (fields : List (String × Json)) (r : List Char) :
    NoDigit (renderFields fields ++ r) := by
  cases fields with
  | nil => exact noDigit_cons (by decide) _
  | cons f fields => exact noDigit_cons (by decide) _

/-! The first character names the constructor -/

def kind : Json → ℕ
  | null => 0
  | bool true => 1
  | bool false => 2
  | num _ => 3
  | str _ => 4
  | arr _ => 5
  | obj _ => 6

def headKind (c : Char) : ℕ :=
  if c = 'n' then 0 else if c = 't' then 1 else if c = 'f' then 2 else if c.isDigit then 3
  else if c = '"' then 4 else if c = '[' then 5 else 6

theorem headKind_of_isDigit {c : Char} (h : c.isDigit) : headKind c = 3 := by
  unfold headKind
  split_ifs with h1 h2 h3
  · exact absurd h (by rw [h1]; decide)
  · exact absurd h (by rw [h2]; decide)
  · exact absurd h (by rw [h3]; decide)
  · rfl

theorem render_head (j : Json) : ∃ c t, render j = c :: t ∧ headKind c = kind j := by
  match j with
  | null => exact ⟨'n', _, rfl, rfl⟩
  | bool true => exact ⟨'t', _, rfl, rfl⟩
  | bool false => exact ⟨'f', _, rfl, rfl⟩
  | num n =>
    cases hd : Nat.toDigits 10 n with
    | nil => exact absurd hd Nat.toDigits_ne_nil
    | cons c t =>
      have hc : c.isDigit := Nat.isDigit_of_mem_toDigits (b := 10) (n := n) (by decide) (by decide)
        (hd ▸ List.mem_cons_self)
      exact ⟨c, t, by rw [render, hd], by rw [headKind_of_isDigit hc, kind]⟩
  | str s => exact ⟨'"', _, by rw [render, renderStr]; rfl, by rw [kind]; decide⟩
  | arr [] => exact ⟨'[', _, by rw [render], by rw [kind]; decide⟩
  | arr (i :: items) => exact ⟨'[', _, by rw [render]; rfl, by rw [kind]; decide⟩
  | obj [] => exact ⟨'{', _, by rw [render], by rw [kind]; decide⟩
  | obj ((k, i) :: fields) => exact ⟨'{', _, by rw [render]; rfl, by rw [kind]; decide⟩

theorem kind_eq_of_render {j j' : Json} {r r' : List Char}
    (h : render j ++ r = render j' ++ r') : kind j = kind j' := by
  obtain ⟨c, t, hj, hc⟩ := render_head j
  obtain ⟨c', t', hj', hc'⟩ := render_head j'
  rw [hj, hj', List.cons_append, List.cons_append, List.cons.injEq] at h
  rw [← hc, ← hc', h.1]

theorem not_render_close (j : Json) (x y : List Char) : render j ++ x ≠ ']' :: y := by
  match j with
  | null => simp [render]
  | bool true => simp [render]
  | bool false => simp [render]
  | num n =>
    intro h
    have hd : ']' ∈ Nat.toDigits 10 n := by
      cases hn : Nat.toDigits 10 n with
      | nil => exact absurd hn Nat.toDigits_ne_nil
      | cons c t => rw [render, hn, List.cons_append, List.cons.injEq] at h; simp [h.1]
    exact absurd hd (Text.not_mem_toDigits (by decide) n)
  | str s => simp [render, renderStr]
  | arr [] => simp [render]
  | arr (i :: items) => simp [render]
  | obj [] => simp [render]
  | obj ((k, i) :: fields) => simp [render]

/-! A rendering is a prefix code -/

mutual

theorem render_append_inj (j : Json) {j' : Json} {r r' : List Char} (hr : NoDigit r)
    (hr' : NoDigit r') (h : render j ++ r = render j' ++ r') : j = j' ∧ r = r' := by
  have hk := kind_eq_of_render h
  match j, j' with
  | null, null => exact ⟨rfl, List.append_cancel_left h⟩
  | bool true, bool true => exact ⟨rfl, List.append_cancel_left h⟩
  | bool false, bool false => exact ⟨rfl, List.append_cancel_left h⟩
  | num m, num n =>
    rw [render, render] at h
    obtain ⟨hmn, hrr⟩ := toDigits_append_inj hr hr' h
    exact ⟨by rw [hmn], hrr⟩
  | str s, str t =>
    rw [render, render] at h
    obtain ⟨hst, hrr⟩ := renderStr_append_inj h
    exact ⟨by rw [hst], hrr⟩
  | arr [], arr [] =>
    rw [render] at h
    exact ⟨rfl, List.append_cancel_left h⟩
  | arr [], arr (i' :: items') =>
    rw [render, render] at h
    simp only [List.cons_append, List.nil_append, List.append_assoc, List.cons.injEq,
      true_and] at h
    exact absurd h.symm (not_render_close i' _ _)
  | arr (i :: items), arr [] =>
    rw [render, render] at h
    simp only [List.cons_append, List.nil_append, List.append_assoc, List.cons.injEq,
      true_and] at h
    exact absurd h (not_render_close i _ _)
  | arr (i :: items), arr (i' :: items') =>
    rw [render, render] at h
    simp only [List.cons_append, List.append_assoc, List.cons.injEq, true_and] at h
    obtain ⟨hi, htail⟩ := render_append_inj i (noDigit_renderItems _ _)
      (noDigit_renderItems _ _) h
    obtain ⟨hitems, hrr⟩ := renderItems_append_inj items htail
    exact ⟨by rw [hi, hitems], hrr⟩
  | obj [], obj [] =>
    rw [render] at h
    exact ⟨rfl, List.append_cancel_left h⟩
  | obj [], obj ((k', i') :: fields') =>
    rw [render, render, renderStr] at h
    simp at h
  | obj ((k, i) :: fields), obj [] =>
    rw [render, render, renderStr] at h
    simp at h
  | obj ((k, i) :: fields), obj ((k', i') :: fields') =>
    rw [render, render] at h
    simp only [List.cons_append, List.append_assoc, List.cons.injEq, true_and] at h
    obtain ⟨hkey, hcolon⟩ := renderStr_append_inj h
    rw [List.cons.injEq] at hcolon
    obtain ⟨hi, htail⟩ := render_append_inj i (noDigit_renderFields _ _)
      (noDigit_renderFields _ _) hcolon.2
    obtain ⟨hfields, hrr⟩ := renderFields_append_inj fields htail
    exact ⟨by rw [hkey, hi, hfields], hrr⟩

theorem renderItems_append_inj (items : List Json) {items' : List Json} {r r' : List Char}
    (h : renderItems items ++ r = renderItems items' ++ r') : items = items' ∧ r = r' := by
  match items, items' with
  | [], [] => exact ⟨rfl, List.append_cancel_left h⟩
  | [], j' :: items' => simp [renderItems] at h
  | j :: items, [] => simp [renderItems] at h
  | j :: items, j' :: items' =>
    rw [renderItems, renderItems] at h
    simp only [List.cons_append, List.append_assoc, List.cons.injEq, true_and] at h
    obtain ⟨hj, htail⟩ := render_append_inj j (noDigit_renderItems _ _)
      (noDigit_renderItems _ _) h
    obtain ⟨hitems, hrr⟩ := renderItems_append_inj items htail
    exact ⟨by rw [hj, hitems], hrr⟩

theorem renderFields_append_inj (fields : List (String × Json))
    {fields' : List (String × Json)} {r r' : List Char}
    (h : renderFields fields ++ r = renderFields fields' ++ r') : fields = fields' ∧ r = r' := by
  match fields, fields' with
  | [], [] => exact ⟨rfl, List.append_cancel_left h⟩
  | [], (k', j') :: fields' => simp [renderFields] at h
  | (k, j) :: fields, [] => simp [renderFields] at h
  | (k, j) :: fields, (k', j') :: fields' =>
    rw [renderFields, renderFields] at h
    simp only [List.cons_append, List.append_assoc, List.cons.injEq, true_and] at h
    obtain ⟨hkey, hcolon⟩ := renderStr_append_inj h
    rw [List.cons.injEq] at hcolon
    obtain ⟨hj, htail⟩ := render_append_inj j (noDigit_renderFields _ _)
      (noDigit_renderFields _ _) hcolon.2
    obtain ⟨hfields, hrr⟩ := renderFields_append_inj fields htail
    exact ⟨by rw [hkey, hj, hfields], hrr⟩

end

theorem render_injective : Function.Injective render := by
  intro j j' h
  have h' : render j ++ [] = render j' ++ [] := by rw [h]
  exact (render_append_inj j noDigit_nil noDigit_nil h').1

theorem toText_injective : Function.Injective toText := by
  intro j j' h
  exact render_injective (String.ofList_injective h)

/-! Encoders -/

variable {α : Type*}

/-- A faithful encoding: no two values share one, and `null` is left for absence. -/
class Encode (α : Type*) where
  encode : α → Json
  injective : Function.Injective encode
  ne_null : ∀ a, encode a ≠ null

export Encode (encode)

@[simp] theorem encode_inj [Encode α] {a b : α} : encode a = encode b ↔ a = b :=
  Encode.injective.eq_iff

instance : Encode String := ⟨str, fun _ _ h => str.inj h, fun _ h => nomatch h⟩
instance : Encode ℕ := ⟨num, fun _ _ h => num.inj h, fun _ h => nomatch h⟩
instance : Encode Bool := ⟨bool, fun _ _ h => bool.inj h, fun _ h => nomatch h⟩

instance [Encode α] : Encode (List α) where
  encode l := arr (l.map encode)
  injective := fun _ _ h => Encode.injective.list_map (arr.inj h)
  ne_null := fun _ h => nomatch h

/-- An enumeration is encoded by the names of its variants. -/
@[reducible] def Encode.ofNames (name : α → String) (h : Function.Injective name) : Encode α :=
  ⟨fun a => str (name a), fun _ _ heq => h (str.inj heq), fun _ heq => nomatch heq⟩

/-- A field that is `null` when it has no value. -/
def nullable [Encode α] : Option α → Json
  | none => null
  | some a => encode a

@[simp] theorem nullable_inj [Encode α] {a b : Option α} : nullable a = nullable b ↔ a = b := by
  cases a with
  | none =>
    cases b with
    | none => simp
    | some b => simpa [nullable] using (Encode.ne_null b).symm
  | some a =>
    cases b with
    | none => simpa [nullable] using Encode.ne_null a
    | some b => simp [nullable]

@[simp] theorem map_encode_inj [Encode α] {a b : Option α} :
    a.map encode = b.map encode ↔ a = b :=
  (Option.map_injective Encode.injective).eq_iff

/-- The fields that have a value. -/
def present : List (String × Option Json) → List (String × Json)
  | [] => []
  | (_, none) :: fields => present fields
  | (name, some j) :: fields => (name, j) :: present fields

def record (fields : List (String × Option Json)) : Json := obj (present fields)

theorem mem_names_of_mem_present {fields : List (String × Option Json)} {name : String} {j : Json}
    (h : (name, j) ∈ present fields) : name ∈ fields.map Prod.fst := by
  induction fields with
  | nil => simp [present] at h
  | cons f fields ih =>
    obtain ⟨n, o⟩ := f
    cases o with
    | none => exact List.mem_cons_of_mem _ (ih h)
    | some i =>
      rw [present, List.mem_cons, Prod.mk.injEq] at h
      rcases h with ⟨rfl, -⟩ | h
      · exact List.mem_cons_self
      · exact List.mem_cons_of_mem _ (ih h)

/-- Records over the same distinct field names agree field by field. -/
theorem present_inj {fields fields' : List (String × Option Json)}
    (hnames : fields.map Prod.fst = fields'.map Prod.fst) (hnodup : (fields.map Prod.fst).Nodup)
    (h : present fields = present fields') : fields = fields' := by
  induction fields generalizing fields' with
  | nil => simpa using hnames.symm
  | cons f fields ih =>
    obtain ⟨n, o⟩ := f
    cases fields' with
    | nil => simp at hnames
    | cons f' fields' =>
      obtain ⟨n', o'⟩ := f'
      simp only [List.map_cons, List.cons.injEq] at hnames
      obtain ⟨rfl, hnames⟩ := hnames
      rw [List.map_cons, List.nodup_cons] at hnodup
      obtain ⟨hfresh, hnodup⟩ := hnodup
      cases o with
      | none =>
        cases o' with
        | none => rw [ih hnames hnodup h]
        | some i' =>
          have hmem : (n, i') ∈ present fields := by
            rw [present, present] at h
            exact h ▸ List.mem_cons_self
          exact absurd (mem_names_of_mem_present hmem) hfresh
      | some i =>
        cases o' with
        | none =>
          have hmem : (n, i) ∈ present fields' := by
            rw [present, present] at h
            exact h ▸ List.mem_cons_self
          exact absurd (hnames ▸ mem_names_of_mem_present hmem) hfresh
        | some i' =>
          rw [present, present, List.cons.injEq, Prod.mk.injEq] at h
          rw [h.1.2, ih hnames hnodup h.2]

theorem record_inj {fields fields' : List (String × Option Json)}
    (h : record fields = record fields')
    (hnames : fields.map Prod.fst = fields'.map Prod.fst) (hnodup : (fields.map Prod.fst).Nodup) :
    fields = fields' :=
  present_inj hnames hnodup (obj.inj h)

theorem record_ne_null (fields : List (String × Option Json)) : record fields ≠ null :=
  fun h => nomatch h

/-- The value of a field of an object. -/
def field? (name : String) : Json → Option Json
  | obj fields => (fields.find? fun f => f.1 = name).map Prod.snd
  | _ => none

end Json
