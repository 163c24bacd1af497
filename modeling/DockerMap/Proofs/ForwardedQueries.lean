import DockerMap.Api.RequestContracts
import DockerMap.Daemon.RequestQueries
import DockerMap.Lib.Words
import DockerMap.Proofs.FormQuery
import DockerMap.Proofs.LogAgreement

/-! The queries that the browser API forwards, as the daemon reads them. -/

namespace DockerMap

open FormEncoding (utf8 serialize)
open JavaScript (isSpaceUnit codeUnits)

theorem bind_eq_ok {ε α β : Type} {result : Except ε α} {next : α → Except ε β} {b : β} :
    (result >>= next) = .ok b ↔ ∃ a, result = .ok a ∧ next a = .ok b := by
  cases result with
  | error failure => exact iff_of_false (fun h => by cases h) fun ⟨a, h, _⟩ => by cases h
  | ok a => exact ⟨fun h => ⟨a, rfl, h⟩, fun ⟨a', h, h'⟩ => by cases h; exact h'⟩

/-! White space -/

/-- White space to the daemon only. -/
def nextLineControl : Char := '\u0085'

def KeepsEnds (text : String) : Prop :=
  text.toList.head? ≠ some nextLineControl ∧ text.toList.getLast? ≠ some nextLineControl

instance (text : String) : Decidable (KeepsEnds text) :=
  inferInstanceAs (Decidable (text.toList.head? ≠ some nextLineControl ∧
    text.toList.getLast? ≠ some nextLineControl))

theorem isWhitespace_iff {c : Char} (h : isSpaceUnit c.toNat = false) :
    Text.isWhitespace c = false ↔ c ≠ nextLineControl := by
  have hline : c = nextLineControl ↔ c.toNat = 0x85 := by
    rw [← Char.toNat_inj]
    exact Iff.rfl
  simp only [isSpaceUnit, Bool.or_eq_false_iff, Bool.and_eq_false_iff, decide_eq_false_iff_not,
    beq_eq_false_iff_ne] at h
  rw [Ne, hline]
  simp only [Text.isWhitespace, Bool.or_eq_false_iff, Bool.and_eq_false_iff,
    decide_eq_false_iff_not, beq_eq_false_iff_ne]
  omega

/-- No white space of JavaScript at either end. -/
def ScriptTrimmed (text : List Char) : Prop :=
  (∀ c ∈ text.head?, isSpaceUnit c.toNat = false) ∧
    ∀ c ∈ text.getLast?, isSpaceUnit c.toNat = false

theorem head_dropWhile {α : Type*} (p : α → Bool) (l : List α) :
    ∀ a ∈ (l.dropWhile p).head?, p a = false := by
  intro a ha
  have hhead := List.head?_dropWhile_not p l
  rw [Option.mem_def.1 ha] at hhead
  exact hhead

theorem scriptTrimmed_trim (text : List Char) : ScriptTrimmed (JavaScript.trim text) := by
  set space : Char → Bool := fun c => isSpaceUnit c.toNat with hspace
  have htrim : JavaScript.trim text =
      ((text.dropWhile space).reverse.dropWhile space).reverse := rfl
  constructor
  · intro c hc
    obtain ⟨back, hback⟩ := List.dropWhile_suffix (l := (text.dropWhile space).reverse) space
    have hfront : text.dropWhile space = JavaScript.trim text ++ back.reverse := by
      rw [htrim, ← List.reverse_append, hback, List.reverse_reverse]
    refine head_dropWhile space text c ?_
    rw [hfront, List.head?_append, Option.mem_def.1 hc]
    rfl
  · intro c hc
    rw [htrim, List.getLast?_reverse] at hc
    exact head_dropWhile space _ c hc

theorem trim_eq_iff {text : List Char} (h : ScriptTrimmed text) : Text.trim text = text ↔
    text.head? ≠ some nextLineControl ∧ text.getLast? ≠ some nextLineControl := by
  rw [← Text.trimmed_iff, Text.Trimmed]
  refine and_congr ?_ ?_
  · cases hhead : text.head? with
    | none => simp
    | some c =>
      have hc := isWhitespace_iff (h.1 c hhead)
      simpa using hc
  · cases hlast : text.getLast? with
    | none => simp
    | some c =>
      have hc := isWhitespace_iff (h.2 c hlast)
      simpa using hc

theorem trimText_eq_iff {text : String} (h : ScriptTrimmed text.toList) :
    trimText text = text ↔ KeepsEnds text := by
  rw [trimText, KeepsEnds, ← trim_eq_iff h, ← String.toList_inj, String.toList_ofList]

/-- Trimming takes characters off. -/
theorem trim_sublist (text : List Char) : (Text.trim text).Sublist text := by
  obtain ⟨a, b, -, -, heq⟩ := Text.exists_trim text
  conv_rhs => rw [heq]
  exact (List.sublist_append_right a _).trans (List.sublist_append_left _ b)

/-! Texts that the API takes -/

structure IsRead (contract : Api.StringQueryContract) (text : String) : Prop where
  required : contract.required = true → text ≠ ""
  ends : ScriptTrimmed text.toList
  length : Api.lengthOf text ≤ contract.maxLength
  clean : '\x00' ∉ text.toList
  pattern : text ≠ "" → ∀ pattern ∈ contract.pattern, pattern text.toList = true

theorem isRead_of_readQueryString {contract : Api.StringQueryContract}
    {value : Option (List String)} {text : String}
    (h : Api.readQueryString value contract = .ok text) : IsRead contract text := by
  rcases value with _ | _ | ⟨value, _ | ⟨second, rest⟩⟩
  · rw [Api.readQueryString] at h
    split_ifs at h with hrequired
    · cases h
    · cases h
      refine ⟨fun hreq => absurd hreq hrequired, ⟨?_, ?_⟩, Nat.zero_le _, ?_, fun hne => ?_⟩
      · exact fun c hc => by cases hc
      · exact fun c hc => by cases hc
      · exact List.not_mem_nil
      · exact absurd rfl hne
  · cases h
  · rw [Api.readQueryString] at h
    split_ifs at h with hrequired hlength hshort hpattern
    all_goals first | cases h; done | skip
    · cases h
      rw [not_or, not_lt] at hlength
      refine ⟨fun hreq hempty => hrequired ⟨hempty, hreq⟩, ?_, hlength.1, hlength.2,
        fun hne pattern hmem => ?_⟩
      · rw [Api.trimText, String.toList_ofList]
        exact scriptTrimmed_trim _
      · by_contra hfails
        refine hpattern ⟨hne, ?_⟩
        rw [Option.any_eq_true]
        exact ⟨pattern, hmem, by rw [Bool.not_eq_true] at hfails; rw [hfails]; rfl⟩
  · cases h

/-- Characters are counted no higher than code units. -/
theorem length_le_lengthOf (text : String) : text.toList.length ≤ Api.lengthOf text := by
  have hchars (l : List Char) : l.length ≤ (l.flatMap JavaScript.unitsOf).length := by
    induction l with
    | nil => exact le_refl _
    | cons c l ih =>
      have hone : 1 ≤ (JavaScript.unitsOf c).length := by
        rw [JavaScript.unitsOf]
        split_ifs
        · exact le_refl 1
        · exact Nat.le_add_left 1 1
      rw [List.flatMap_cons, List.length_append, List.length_cons]
      omega
  exact hchars text.toList

/-! Forwarded pairs -/

/-- What the daemon sees of a path. -/
def rawQuery (path : String) : Option String :=
  (Text.splitOnce '?' path.toList).map fun parts => String.ofList parts.2

theorem rawQuery_append {base : String} (h : '?' ∉ base.toList) (query : String) :
    rawQuery (base ++ "?" ++ query) = some query := by
  rw [rawQuery, String.toList_append, String.toList_append, List.append_assoc]
  change (Text.splitOnce '?' (base.toList ++ '?' :: query.toList)).map _ = _
  rw [Text.splitOnce_append h, Option.map_some, String.ofList_toList]

theorem rawQuery_withSuffix (base : String) (h : '?' ∉ base.toList)
    (params : List (String × String)) :
    (rawQuery (Api.withSuffix base params)).getD "" = String.ofList (serialize params) := by
  rw [Api.withSuffix]
  split_ifs with hempty
  · rw [rawQuery_append h, Option.getD_some]
  · rw [rawQuery, Text.splitOnce_eq_none h, Option.map_none, Option.getD_none,
      not_not.1 hempty]

theorem strictFormUrlencodedUtf8_serialize (params : List (String × String)) :
    strictFormUrlencodedUtf8 (String.ofList (serialize params)) = true := by
  rw [strictFormUrlencodedUtf8_iff, String.toList_ofList]
  exact FormEncoding.exact_serialize params

theorem decodeQuery_serialize {raw : Option String} {params : List (String × String)}
    (h : raw.getD "" = String.ofList (serialize params)) : decodeQuery raw = .ok params := by
  have hvalid : validateStrictFormUrlencoded (String.ofList (serialize params)) = .ok () := by
    rw [validateStrictFormUrlencoded_iff, String.toList_ofList]
    exact FormEncoding.exact_serialize params
  rw [decodeQuery, h, hvalid, String.toList_ofList, FormEncoding.parse_serialize]
  rfl

theorem get?_foldl_set {params : List (String × String)} (h : (params.map Prod.fst).Nodup)
    (values : InsertionMap String String) (name : String) :
    (params.foldl (fun values pair => values.set pair.1 pair.2) values).get? name =
      (params.lookup name).or (values.get? name) := by
  induction params generalizing values with
  | nil => rfl
  | cons pair params ih =>
    rw [List.map_cons, List.nodup_cons] at h
    rw [List.foldl_cons, ih h.2, InsertionMap.get?_set, List.lookup_cons]
    by_cases hname : name = pair.1
    · have hnone : params.lookup name = none := by
        rw [List.lookup_eq_none_iff]
        intro other hother
        rw [hname, bne_iff_ne]
        rintro heq
        exact h.1 (heq ▸ List.mem_map_of_mem hother)
      rw [if_pos hname, hnone, hname, beq_self_eq_true]
      rfl
    · rw [if_neg hname, beq_false_of_ne hname]

/-- Pairs of known and different names are collected. -/
theorem collectValues_eq {names : List String} {failure : ApiError}
    {params : List (String × String)} (hnames : ∀ pair ∈ params, pair.1 ∈ names)
    (hnodup : (params.map Prod.fst).Nodup) {values : InsertionMap String String}
    (hfresh : ∀ pair ∈ params, values.get? pair.1 = none) :
    collectValues names failure params values =
      .ok (params.foldl (fun values pair => values.set pair.1 pair.2) values) := by
  induction params generalizing values with
  | nil => rfl
  | cons pair params ih =>
    obtain ⟨name, value⟩ := pair
    rw [List.forall_mem_cons] at hnames hfresh
    rw [List.map_cons, List.nodup_cons] at hnodup
    have hknown : names.contains name = true := List.contains_iff_mem.2 hnames.1
    rw [collectValues, hknown, hfresh.1, if_neg (by decide), List.foldl_cons]
    refine ih hnames.2 hnodup.2 fun other hother => ?_
    rw [InsertionMap.get?_set, if_neg, hfresh.2 other hother]
    rintro rfl
    exact hnodup.1 (List.mem_map.2 ⟨other, hother, rfl⟩)

theorem collectValues_forwarded {names : List String} (failure : ApiError)
    {params : List (String × String)} (h : (params.map Prod.fst).Sublist names)
    (hnodup : names.Nodup) : ∃ values, collectValues names failure params ∅ = .ok values ∧
      ∀ name, values.get? name = params.lookup name := by
  refine ⟨_, collectValues_eq (fun pair hpair => h.subset (List.mem_map_of_mem hpair))
    (hnodup.sublist h) fun _ _ => rfl, fun name => ?_⟩
  rw [get?_foldl_set (hnodup.sublist h)]
  exact Option.or_none

/-- A text that is only forwarded when there is one. -/
def optional (text : String) : Option String := if text ≠ "" then some text else none

theorem optionalParam_eq (name value : String) :
    Api.optionalParam name value = ((optional value).map (name, ·)).toList := by
  rw [Api.optionalParam, optional]
  split_ifs <;> rfl

theorem lookup_toList (name key : String) (value : Option String) :
    ((value.map (name, ·)).toList).lookup key = if key = name then value else none := by
  cases value with
  | none => split_ifs <;> rfl
  | some value =>
    rw [Option.map_some, Option.toList_some, List.lookup_cons]
    split_ifs with hkey
    · rw [hkey, beq_self_eq_true]
    · rw [beq_false_of_ne hkey]
      rfl

theorem names_toList (name : String) (value : Option String) :
    (((value.map (name, ·)).toList).map Prod.fst).Sublist [name] := by
  cases value with
  | none => exact List.nil_sublist _
  | some value => exact List.Sublist.refl _

/-! Logs -/

def cursorNumbers (cursor : LogCursor) : ℕ × ℕ := (cursor.millis.val, cursor.offset)

/-- The numbers that a cursor text tells. -/
def toldNumbers (cursor : String) : ℕ × ℕ :=
  (Nat.ofDigitChars 10 (Api.cursorParts cursor).1 0,
    Nat.ofDigitChars 10 (Api.cursorParts cursor).2 0)

/-- The daemon's request has the fields that the API read. -/
structure SameLogs (fields : Api.LogsFields) (request : LogsRequest) : Prop where
  service : request.service = optional fields.service
  q : request.q = optional fields.q
  cursor : request.cursor.map cursorNumbers = (optional fields.cursor).map toldNumbers
  limit : request.limit = fields.limit.getD defaultLogPageSize

/-- The fields that the API can have read. -/
structure IsReadLogs (fields : Api.LogsFields) : Prop where
  service : IsRead Api.LogsQueryContract.service fields.service
  q : IsRead Api.LogsQueryContract.q fields.q
  cursor : IsRead Api.LogsQueryContract.cursor fields.cursor
  limit : ∀ limit ∈ fields.limit, 1 ≤ limit ∧ limit ≤ 500

theorem limit_of_readQueryInteger {value : Option (List String)} {limit : Option ℕ}
    (h : Api.readQueryInteger value Api.LogsQueryContract.limit = .ok limit) :
    ∀ n ∈ limit, 1 ≤ n ∧ n ≤ 500 := by
  rcases value with _ | _ | ⟨value, _ | ⟨second, rest⟩⟩
  · cases h
    exact fun n hn => by cases hn
  · cases h
  · rw [Api.readQueryInteger] at h
    split_ifs at h with hdigits
    · cases h
    · dsimp only at h
      split_ifs at h with hrange
      · cases h
      · cases h
        rintro n hn
        cases hn
        simp only [not_or, not_lt] at hrange
        exact hrange.2
  · cases h

theorem isReadLogs_of_readLogsFields {query : Api.Query} {fields : Api.LogsFields}
    (h : Api.readLogsFields query = .ok fields) : IsReadLogs fields := by
  rw [Api.readLogsFields, bind_eq_ok] at h
  obtain ⟨-, -, h⟩ := h
  rw [bind_eq_ok] at h
  obtain ⟨service, hservice, h⟩ := h
  rw [bind_eq_ok] at h
  obtain ⟨q, hq, h⟩ := h
  rw [bind_eq_ok] at h
  obtain ⟨cursor, hcursor, h⟩ := h
  rw [bind_eq_ok] at h
  obtain ⟨limit, hlimit, h⟩ := h
  cases h
  exact ⟨isRead_of_readQueryString hservice, isRead_of_readQueryString hq,
    isRead_of_readQueryString hcursor, limit_of_readQueryInteger hlimit⟩

theorem logsParams_eq (fields : Api.LogsFields) : Api.logsParams fields =
    ((optional fields.service).map ("service", ·)).toList ++
      ((optional fields.q).map ("q", ·)).toList ++
      ((optional fields.cursor).map ("cursor", ·)).toList ++
      ((fields.limit.map Api.decimal).map ("limit", ·)).toList := by
  rw [Api.logsParams, optionalParam_eq, optionalParam_eq, optionalParam_eq, Option.map_map]
  rfl

theorem names_logsParams (fields : Api.LogsFields) :
    ((Api.logsParams fields).map Prod.fst).Sublist ["service", "q", "cursor", "limit"] := by
  rw [logsParams_eq, List.map_append, List.map_append, List.map_append]
  exact (((names_toList _ _).append (names_toList _ _)).append (names_toList _ _)).append
    (names_toList _ _)

theorem isServiceText_of_isRead {service : String}
    (h : IsRead Api.LogsQueryContract.service service) (hends : Text.trim service.toList =
      service.toList) : isServiceText service = true := by
  rw [isServiceText, hends]
  by_cases hempty : service = ""
  · rw [hempty]
    rfl
  · have hpattern := h.pattern hempty Api.isContainerName rfl
    rw [Api.isContainerName, Bool.and_eq_true] at hpattern
    obtain ⟨hhead, htail⟩ := hpattern
    cases hservice : service.toList with
    | nil => rfl
    | cons c rest =>
      rw [hservice, List.head?_cons, Option.any_some] at hhead
      rw [hservice, List.tail_cons] at htail
      rw [List.head?_cons, Option.any_some, hhead, List.all_cons, hhead, htail]
      rfl

theorem keepsEnds_of_ascii {text : String} (h : ∀ c ∈ text.toList, c.toNat < 128) :
    KeepsEnds text := by
  have hline : ¬ nextLineControl.toNat < 128 := by decide
  exact ⟨fun hhead => hline (h nextLineControl (List.mem_of_head? hhead)),
    fun hlast => hline (h nextLineControl (List.mem_of_getLast? hlast))⟩

theorem ascii_of_isContainerName {text : List Char} (h : Api.isContainerName text = true) :
    ∀ c ∈ text, c.toNat < 128 := by
  rw [Api.isContainerName, Bool.and_eq_true] at h
  obtain ⟨hhead, htail⟩ := h
  cases text with
  | nil => exact fun c hc => by cases hc
  | cons first rest =>
    refine List.forall_mem_cons.2 ⟨Text.ascii_of_isAlphanum hhead, fun c hc => ?_⟩
    have hmark := List.all_eq_true.1 htail c hc
    rw [Bool.or_eq_true] at hmark
    rcases hmark with halphanum | hmark
    · exact Text.ascii_of_isAlphanum halphanum
    · have hmarks : ∀ c ∈ ['_', '.', '-'], c.toNat < 128 := by decide
      exact hmarks c (List.contains_iff_mem.1 hmark)

theorem ascii_of_isDigit {c : Char} (h : c.isDigit = true) : c.toNat < 128 := by
  obtain ⟨d, hd, rfl⟩ := Text.exists_digit h
  have hdigits : ∀ d < 10, (Nat.digitChar d).toNat < 128 := by decide
  exact hdigits d hd

theorem ascii_of_isDigits {text : List Char} (h : Api.isDigits text = true) :
    ∀ c ∈ text, c.toNat < 128 := by
  rw [Api.isDigits, Bool.and_eq_true] at h
  exact fun c hc => ascii_of_isDigit (List.all_eq_true.1 h.2 c hc)

theorem acceptedCursor_of_isRead {cursor : String}
    (h : IsRead Api.LogsQueryContract.cursor cursor) (hne : cursor ≠ "") :
    Api.acceptedCursor cursor = true := by
  have hpattern := h.pattern hne Api.isCursor rfl
  have hlength : cursor.toList.length ≤ 32 := (length_le_lengthOf cursor).trans h.length
  rw [Api.isCursor, Bool.and_eq_true] at hpattern
  rw [Api.acceptedCursor, decide_eq_true hlength, Bool.true_and, Bool.and_eq_true]
  refine ⟨hpattern.1, ?_⟩
  have hrest := hpattern.2
  revert hrest
  cases cursor.toList.dropWhile Char.isDigit with
  | nil => exact fun _ => rfl
  | cons c offset =>
    intro hrest
    by_cases hc : c = ':'
    · subst hc
      exact hrest
    · simp [hc] at hrest

theorem ascii_of_acceptedCursor {cursor : String} (h : Api.acceptedCursor cursor = true) :
    ∀ c ∈ cursor.toList, c.toNat < 128 := by
  obtain ⟨millis, -, hmillis, ⟨heq, -⟩ | ⟨offset, -, hoffset, heq, -⟩⟩ := accepted_parts h
  · rw [heq]
    exact fun c hc => ascii_of_isDigit (List.all_eq_true.1 hmillis c hc)
  · rw [heq, List.forall_mem_append, List.forall_mem_cons]
    refine ⟨fun c hc => ascii_of_isDigit (List.all_eq_true.1 hmillis c hc), by decide, ?_⟩
    exact fun c hc => ascii_of_isDigit (List.all_eq_true.1 hoffset c hc)

theorem parseLimitText_decimal {n : ℕ} (h : n ≤ 500) : parseLimitText (Api.decimal n) = .ok n := by
  have hbound : n < usizeBound := h.trans_lt (by decide)
  have hall : (Nat.toDigits 10 n).all Char.isDigit = true :=
    List.all_eq_true.2 fun c hc => Nat.isDigit_of_mem_toDigits (by decide) (by decide) hc
  rw [parseLimitText, Api.decimal, String.toList_ofList, hall, if_neg (by decide),
    Text.parseUnsigned_toDigits hbound]
  rfl

theorem parseLogsQuery_forwarded {fields : Api.LogsFields} (h : IsReadLogs fields)
    {raw : Option String}
    (hraw : raw.getD "" = String.ofList (serialize (Api.logsParams fields))) :
    parseLogsQuery raw = .ok
      { service := optional fields.service
        q := optional fields.q
        cursor := optional fields.cursor
        limit := fields.limit } := by
  obtain ⟨values, hvalues, hget⟩ := collectValues_forwarded invalidLogsQuery
    (names_logsParams fields) (by decide)
  have hservice : values.get? "service" = optional fields.service := by
    rw [hget, logsParams_eq]
    simp [List.lookup_append, lookup_toList, -Option.map_map]
  have hq : values.get? "q" = optional fields.q := by
    rw [hget, logsParams_eq]
    simp [List.lookup_append, lookup_toList, -Option.map_map]
  have hcursor : values.get? "cursor" = optional fields.cursor := by
    rw [hget, logsParams_eq]
    simp [List.lookup_append, lookup_toList, -Option.map_map]
  have hlimit : values.get? "limit" = fields.limit.map Api.decimal := by
    rw [hget, logsParams_eq]
    simp [List.lookup_append, lookup_toList, -Option.map_map]
  have hlimits : (fields.limit.map Api.decimal).mapM parseLimitText = .ok fields.limit := by
    cases hfields : fields.limit with
    | none => rfl
    | some n =>
      rw [Option.map_some, Option.mapM_some, parseLimitText_decimal (h.limit n hfields).2]
      rfl
  have htext : (optional fields.service).any (fun value => !isServiceText value) = false := by
    rw [optional]
    split_ifs with hne
    · have hends : Text.trim fields.service.toList = fields.service.toList :=
        (trim_eq_iff h.service.ends).2
          (keepsEnds_of_ascii (ascii_of_isContainerName (h.service.pattern hne _ rfl)))
      rw [Option.any_some, isServiceText_of_isRead h.service hends]
      rfl
    · rfl
  rw [parseLogsQuery, hraw]
  simp only [strictFormUrlencodedUtf8_serialize, String.toList_ofList,
    FormEncoding.parse_serialize, hvalues, Bool.not_true, Bool.false_eq_true, if_false]
  refine bind_eq_ok.2 ⟨values, rfl, bind_eq_ok.2 ⟨fields.limit, ?_, ?_⟩⟩
  · rw [hlimit, hlimits]
  · rw [hservice, hq, hcursor, htext, if_neg Bool.false_ne_true]
    rfl

theorem trimText_of_ascii {text : String} (hends : ScriptTrimmed text.toList)
    (h : ∀ c ∈ text.toList, c.toNat < 128) : trimText text = text :=
  (trimText_eq_iff hends).2 (keepsEnds_of_ascii h)

theorem validateOptionalQuery_optional {text : String} {maxChars : ℕ}
    (hlength : text.toList.length ≤ maxChars) (hclean : '\x00' ∉ text.toList) (name : String) :
    validateOptionalQuery (optional text) name maxChars = .ok (optional (trimText text)) := by
  by_cases hempty : text = ""
  · rw [hempty]
    rfl
  · have hsublist := trim_sublist text.toList
    have htrim : (trimText text).toList = Text.trim text.toList := String.toList_ofList ..
    have hfits : ¬ (maxChars < (trimText text).toList.length ∨
        '\x00' ∈ (trimText text).toList) := by
      rw [htrim, not_or, not_lt]
      exact ⟨hsublist.length_le.trans hlength, fun hmem => hclean (hsublist.subset hmem)⟩
    rw [optional, if_pos hempty, validateOptionalQuery, if_neg hfits, optional]
    by_cases hblank : trimText text = ""
    · rw [if_pos hblank, if_neg (not_not.2 hblank)]
    · rw [if_neg hblank, if_pos hblank]

theorem parseLogLimit_of_read {limit : Option ℕ} (h : ∀ n ∈ limit, 1 ≤ n ∧ n ≤ 500) :
    parseLogLimit limit = .ok (limit.getD defaultLogPageSize) := by
  cases limit with
  | none => rfl
  | some n => exact if_pos (h n rfl)

/-- Only the cursor can be rejected. -/
theorem readLogsRequest_forwarded {fields : Api.LogsFields} (h : IsReadLogs fields)
    {raw : Option String}
    (hraw : raw.getD "" = String.ofList (serialize (Api.logsParams fields)))
    {request : LogsRequest} :
    readLogsRequest raw = .ok request ↔
      ∃ cursor, parseLogCursor (optional fields.cursor) = .ok cursor ∧
        request =
          { service := optional fields.service
            q := optional (trimText fields.q)
            cursor
            limit := fields.limit.getD defaultLogPageSize } := by
  have hservice : trimText fields.service = fields.service := by
    by_cases hempty : fields.service = ""
    · rw [hempty]
      rfl
    · exact trimText_of_ascii h.service.ends
        (ascii_of_isContainerName (h.service.pattern hempty _ rfl))
  have hserviceRead := validateOptionalQuery_optional
    ((length_le_lengthOf fields.service).trans h.service.length) h.service.clean "service"
  have hqRead := validateOptionalQuery_optional
    ((length_le_lengthOf fields.q).trans h.q.length) h.q.clean "q"
  rw [hservice] at hserviceRead
  constructor
  · intro hok
    rw [readLogsRequest, parseLogsQuery_forwarded h hraw, bind_eq_ok] at hok
    obtain ⟨query, hquery, hok⟩ := hok
    cases hquery
    rw [bind_eq_ok] at hok
    obtain ⟨service, hserviceOk, hok⟩ := hok
    cases hserviceOk.symm.trans hserviceRead
    rw [bind_eq_ok] at hok
    obtain ⟨q, hqOk, hok⟩ := hok
    cases hqOk.symm.trans hqRead
    rw [bind_eq_ok] at hok
    obtain ⟨cursor, hcursor, hok⟩ := hok
    rw [bind_eq_ok] at hok
    obtain ⟨limit, hlimit, hok⟩ := hok
    cases hlimit.symm.trans (parseLogLimit_of_read h.limit)
    cases hok
    exact ⟨cursor, hcursor, rfl⟩
  · rintro ⟨cursor, hcursor, rfl⟩
    rw [readLogsRequest, parseLogsQuery_forwarded h hraw]
    exact bind_eq_ok.2 ⟨_, rfl, bind_eq_ok.2 ⟨_, hserviceRead, bind_eq_ok.2 ⟨_, hqRead,
      bind_eq_ok.2 ⟨_, hcursor, bind_eq_ok.2 ⟨_, parseLogLimit_of_read h.limit, rfl⟩⟩⟩⟩⟩

/-- A cursor is read when its numbers fit. -/
theorem parseLogCursor_optional {cursor : String}
    (h : IsRead Api.LogsQueryContract.cursor cursor) :
    (∃ parsed, parseLogCursor (optional cursor) = .ok parsed ∧
        parsed.map cursorNumbers = (optional cursor).map toldNumbers) ↔
      (cursor ≠ "" → cursorFits cursor = true) := by
  by_cases hempty : cursor = ""
  · rw [hempty]
    exact iff_of_true ⟨none, rfl, rfl⟩ fun hne => absurd rfl hne
  · have haccepted := acceptedCursor_of_isRead h hempty
    have htrim := trimText_of_ascii h.ends (ascii_of_acceptedCursor haccepted)
    have hread := validateOptionalQuery_optional
      ((length_le_lengthOf cursor).trans h.length) h.clean "cursor"
    rw [htrim, optional, if_pos hempty] at hread
    have hparsed := parse_accepted haccepted
    have hcursor : parseLogCursor (some cursor) = some <$> (LogCursor.parse cursor).elim
        (badRequest "query parameter `cursor` must be `millis` or `millis:offset`") .ok := by
      rw [parseLogCursor]
      exact (congrArg (· >>= _) hread).trans rfl
    rw [optional, if_pos hempty, hcursor]
    by_cases hfits : cursorFits cursor = true
    · rw [if_pos hfits] at hparsed
      obtain ⟨parsed, hsome, hmillis, hoffset⟩ := hparsed
      rw [hsome]
      refine iff_of_true ⟨some parsed, rfl, ?_⟩ fun _ => hfits
      rw [Option.map_some, Option.map_some, cursorNumbers, toldNumbers, hmillis, hoffset]
    · rw [if_neg hfits] at hparsed
      rw [hparsed]
      refine iff_of_false ?_ fun hall => hfits (hall hempty)
      rintro ⟨parsed, hok, -⟩
      cases hok

theorem optional_eq_iff {a b : String} : optional a = optional b ↔ a = b := by
  rw [optional, optional]
  split_ifs with ha hb hb
  · exact Option.some_inj
  · refine iff_of_false (by simp) fun heq => ?_
    exact ha (heq.trans (not_not.1 hb))
  · refine iff_of_false (by simp) fun heq => ?_
    exact hb (heq.symm.trans (not_not.1 ha))
  · exact iff_of_true rfl ((not_not.1 ha).trans (not_not.1 hb).symm)

/-- A log request is read as it was meant exactly when its text keeps its ends and the numbers of
its cursor fit. -/
theorem logs_forwarded_iff {fields : Api.LogsFields} (h : IsReadLogs fields) :
    (∃ request, readLogsRequest (rawQuery (Api.withSuffix "/daemon/logs"
        (Api.logsParams fields))) = .ok request ∧ SameLogs fields request) ↔
      KeepsEnds fields.q ∧ (fields.cursor ≠ "" → cursorFits fields.cursor = true) := by
  have hraw := rawQuery_withSuffix "/daemon/logs" (by decide) (Api.logsParams fields)
  rw [← parseLogCursor_optional h.cursor, ← trimText_eq_iff h.q.ends]
  constructor
  · rintro ⟨request, hrequest, hsame⟩
    obtain ⟨cursor, hcursor, rfl⟩ := (readLogsRequest_forwarded h hraw).1 hrequest
    exact ⟨optional_eq_iff.1 hsame.q, cursor, hcursor, hsame.cursor⟩
  · rintro ⟨hq, cursor, hcursor, hnumbers⟩
    refine ⟨_, (readLogsRequest_forwarded h hraw).2 ⟨cursor, hcursor, rfl⟩, rfl, ?_, hnumbers, rfl⟩
    exact congrArg optional hq

/-! Compose scans -/

theorem readRepeatedQueryString_ok {value text : String}
    (h : Api.readRepeatedQueryString Api.ComposeScanQueryContract.file value = .ok text) :
    text ≠ "" ∧ ScriptTrimmed text.toList ∧ '\x00' ∉ text.toList := by
  rw [Api.readRepeatedQueryString] at h
  split_ifs at h with hempty hfails
  · cases h
  · cases h
  · cases h
    rw [not_or, not_or] at hfails
    refine ⟨hempty, ?_, hfails.2.1⟩
    rw [Api.trimText, String.toList_ofList]
    exact scriptTrimmed_trim _

theorem mapM_ok {ε α β : Type} {f : α → Except ε β} {P : β → Prop}
    (h : ∀ a b, f a = .ok b → P b) {l : List α} {l' : List β} (hl : l.mapM f = .ok l') :
    l'.length = l.length ∧ ∀ b ∈ l', P b := by
  induction l generalizing l' with
  | nil =>
    cases hl
    exact ⟨rfl, fun b hb => by cases hb⟩
  | cons a l ih =>
    rw [List.mapM_cons, bind_eq_ok] at hl
    obtain ⟨b, hb, hl⟩ := hl
    rw [bind_eq_ok] at hl
    obtain ⟨rest, hrest, hl⟩ := hl
    cases hl
    obtain ⟨hlength, hall⟩ := ih hrest
    exact ⟨congrArg (· + 1) hlength, List.forall_mem_cons.2 ⟨h a b hb, hall⟩⟩

theorem mapM_eq_self {ε α : Type} {f : α → Except ε α} {l : List α} :
    l.mapM f = .ok l ↔ ∀ a ∈ l, f a = .ok a := by
  induction l with
  | nil => exact iff_of_true rfl fun a ha => by cases ha
  | cons a l ih =>
    rw [List.mapM_cons, bind_eq_ok, List.forall_mem_cons, ← ih]
    constructor
    · rintro ⟨a', ha, h⟩
      rw [bind_eq_ok] at h
      obtain ⟨l', hl, heq⟩ := h
      cases heq
      exact ⟨ha, hl⟩
    · rintro ⟨ha, hl⟩
      exact ⟨a, ha, bind_eq_ok.2 ⟨l, hl, rfl⟩⟩

structure IsReadFiles (files : List String) : Prop where
  few : files.length ≤ 8
  texts : ∀ file ∈ files, file ≠ "" ∧ ScriptTrimmed file.toList ∧ '\x00' ∉ file.toList

theorem isReadFiles_of_readComposeScanFiles {query : Api.Query} {files : List String}
    (h : Api.readComposeScanFiles query = .ok files) : IsReadFiles files := by
  rw [Api.readComposeScanFiles, bind_eq_ok] at h
  obtain ⟨-, -, h⟩ := h
  rw [Api.readRepeatedQueryStrings] at h
  split_ifs at h with hmany
  · cases h
  · obtain ⟨hlength, htexts⟩ := mapM_ok (fun _ _ => readRepeatedQueryString_ok) h
    exact ⟨hlength.trans_le (not_lt.1 hmany), htexts⟩

theorem validateComposeFile_eq_self {file : String} (hne : file ≠ "")
    (hends : ScriptTrimmed file.toList) (hclean : '\x00' ∉ file.toList) :
    validateComposeFile file = .ok file ↔
      KeepsEnds file ∧ byteLength file ≤ maxComposeFileChars := by
  rw [← trimText_eq_iff hends, validateComposeFile]
  by_cases htrim : trimText file = file
  · rw [htrim, and_iff_right rfl]
    by_cases hlength : byteLength file ≤ maxComposeFileChars
    · exact iff_of_true ((if_neg hne).trans (if_neg (not_or.2 ⟨not_lt.2 hlength, hclean⟩))) hlength
    · refine iff_of_false (fun hok => ?_) hlength
      rw [if_neg hne, if_pos (Or.inl (not_le.1 hlength))] at hok
      cases hok
  · refine iff_of_false (fun hok => ?_) fun hand => htrim hand.1
    split_ifs at hok
    · cases hok
    · cases hok
    · exact htrim (Except.ok.inj hok)

/-- The files are read as they were meant exactly when each keeps its ends and is short in UTF-8. -/
theorem composeScan_forwarded_iff {files : List String} (h : IsReadFiles files)
    {raw : Option String}
    (hraw : raw.getD "" = String.ofList (serialize (Api.composeScanParams files))) :
    parseComposeScanQuery raw = .ok ⟨files⟩ ↔
      ∀ file ∈ files, KeepsEnds file ∧ byteLength file ≤ maxComposeFileChars := by
  have hnames : (Api.composeScanParams files).any (fun pair => pair.1 ≠ "file") = false := by
    rw [Api.composeScanParams, List.any_map, List.any_eq_false]
    intro file _
    simp
  have hvalues : (Api.composeScanParams files).map Prod.snd = files := by
    rw [Api.composeScanParams, List.map_map]
    exact List.map_id _
  have hfiles : validateComposeFiles files = .ok files ↔ ∀ file ∈ files,
      validateComposeFile file = .ok file := by
    rw [validateComposeFiles, bind_eq_ok, ← mapM_eq_self]
    constructor
    · rintro ⟨files', hmap, hok⟩
      split_ifs at hok with hmany
      · cases hok
      · cases hok
        exact hmap
    · exact fun hmap => ⟨files, hmap, if_neg (not_lt.2 h.few)⟩
  have hparse : parseComposeScanQuery raw = .ok ⟨files⟩ ↔
      validateComposeFiles files = .ok files := by
    rw [parseComposeScanQuery, decodeQuery_serialize hraw]
    change ((if (Api.composeScanParams files).any (fun pair => pair.1 ≠ "file") then _ else _) :
      Except ApiError ComposeScanQuery) = _ ↔ _
    rw [hnames, if_neg Bool.false_ne_true, hvalues, bind_eq_ok]
    constructor
    · rintro ⟨files', hok, heq⟩
      cases heq
      exact hok
    · exact fun hok => ⟨files, hok, rfl⟩
  rw [hparse, hfiles]
  exact forall₂_congr fun file hfile => validateComposeFile_eq_self (h.texts file hfile).1
    (h.texts file hfile).2.1 (h.texts file hfile).2.2

/-! Edit plans -/

structure IsReadEditPlan (fields : Api.ComposeEditPlanFields) : Prop where
  file : IsRead Api.ComposeEditPlanQueryContract.file fields.file
  service : IsRead Api.ComposeEditPlanQueryContract.service fields.service
  mount : IsRead Api.ComposeEditPlanQueryContract.mount fields.mount
  source : IsRead Api.ComposeEditPlanQueryContract.source fields.source
  target : IsRead Api.ComposeEditPlanQueryContract.target fields.target

theorem isReadEditPlan_of_readComposeEditPlanFields {query : Api.Query}
    {fields : Api.ComposeEditPlanFields} (h : Api.readComposeEditPlanFields query = .ok fields) :
    IsReadEditPlan fields := by
  rw [Api.readComposeEditPlanFields, bind_eq_ok] at h
  obtain ⟨-, -, h⟩ := h
  rw [bind_eq_ok] at h
  obtain ⟨file, hfile, h⟩ := h
  rw [bind_eq_ok] at h
  obtain ⟨service, hservice, h⟩ := h
  rw [bind_eq_ok] at h
  obtain ⟨mount, hmount, h⟩ := h
  rw [bind_eq_ok] at h
  obtain ⟨source, hsource, h⟩ := h
  rw [bind_eq_ok] at h
  obtain ⟨target, htarget, h⟩ := h
  cases h
  exact ⟨isRead_of_readQueryString hfile, isRead_of_readQueryString hservice,
    isRead_of_readQueryString hmount, isRead_of_readQueryString hsource,
    isRead_of_readQueryString htarget⟩

theorem composeEditPlanParams_eq (fields : Api.ComposeEditPlanFields) :
    Api.composeEditPlanParams fields =
      ((some fields.file).map ("file", ·)).toList ++
        ((some fields.service).map ("service", ·)).toList ++
        ((some fields.mount).map ("mount", ·)).toList ++
        ((optional fields.source).map ("source", ·)).toList ++
        ((optional fields.target).map ("target", ·)).toList := by
  rw [Api.composeEditPlanParams, optionalParam_eq, optionalParam_eq]
  rfl

theorem names_composeEditPlanParams (fields : Api.ComposeEditPlanFields) :
    ((Api.composeEditPlanParams fields).map Prod.fst).Sublist
      ["file", "service", "mount", "source", "target"] := by
  rw [composeEditPlanParams_eq, List.map_append, List.map_append, List.map_append, List.map_append]
  exact ((((names_toList _ _).append (names_toList _ _)).append (names_toList _ _)).append
    (names_toList _ _)).append (names_toList _ _)

theorem validateOptionalRawQuery_eq_self {text : String} (hends : ScriptTrimmed text.toList)
    (hclean : '\x00' ∉ text.toList) (maximum : ℕ) :
    validateOptionalRawQuery text maximum = .ok text ↔
      KeepsEnds text ∧ byteLength text ≤ maximum := by
  rw [← trimText_eq_iff hends, validateOptionalRawQuery]
  by_cases htrim : trimText text = text
  · rw [htrim, and_iff_right rfl]
    by_cases hlength : byteLength text ≤ maximum
    · exact iff_of_true (if_neg (not_or.2 ⟨not_lt.2 hlength, hclean⟩)) hlength
    · refine iff_of_false (fun hok => ?_) hlength
      rw [if_pos (Or.inl (not_le.1 hlength))] at hok
      cases hok
  · refine iff_of_false (fun hok => ?_) fun hand => htrim hand.1
    split_ifs at hok
    exact htrim (Except.ok.inj hok)

theorem requiredValue_eq_self {values : InsertionMap String String} {name text : String}
    (hget : values.get? name = some text) (hne : text ≠ "") (hends : ScriptTrimmed text.toList)
    (hclean : '\x00' ∉ text.toList) (maximum : ℕ) :
    requiredValue values name maximum = .ok text ↔
      KeepsEnds text ∧ byteLength text ≤ maximum := by
  rw [requiredValue, hget, ← validateOptionalRawQuery_eq_self hends hclean maximum]
  dsimp only
  rw [validateRequiredRawQuery, bind_eq_ok]
  constructor
  · rintro ⟨text', hok, heq⟩
    split_ifs at heq with hempty
    cases heq
    exact hok
  · exact fun hok => ⟨text, hok, if_neg hne⟩

theorem mapM_validateOptionalRawQuery {text : String} (hends : ScriptTrimmed text.toList)
    (hclean : '\x00' ∉ text.toList) (maximum : ℕ) :
    (optional text).mapM (fun value => validateOptionalRawQuery value maximum) =
        .ok (optional text) ↔ KeepsEnds text ∧ byteLength text ≤ maximum := by
  rw [← validateOptionalRawQuery_eq_self hends hclean maximum, optional]
  split_ifs with hne
  · rw [Option.mapM_some]
    constructor
    · intro hok
      cases hvalid : validateOptionalRawQuery text maximum with
      | error failure =>
        rw [hvalid] at hok
        cases hok
      | ok text' =>
        rw [hvalid] at hok
        cases hok
        rfl
    · intro hok
      rw [hok]
      rfl
  · obtain rfl := not_not.1 hne
    exact iff_of_true rfl ((validateOptionalRawQuery_eq_self hends hclean maximum).2
      ⟨by decide, Nat.zero_le _⟩)

/-- The number of a mount is read. -/
theorem mount_forwarded {mount : String}
    (h : IsRead Api.ComposeEditPlanQueryContract.mount mount) :
    KeepsEnds mount ∧ byteLength mount ≤ 16 ∧
      parseMountText mount = .ok (Nat.ofDigitChars 10 mount.toList 0) := by
  have hdigits := h.pattern (h.required rfl) Api.isDigits rfl
  have hascii := ascii_of_isDigits hdigits
  rw [Api.isDigits, Bool.and_eq_true] at hdigits
  have hlength : mount.toList.length ≤ 16 := (length_le_lengthOf mount).trans h.length
  have hbound : Nat.ofDigitChars 10 mount.toList 0 < usizeBound :=
    (Text.ofDigitChars_lt (List.all_eq_true.1 hdigits.2)).trans_le
      ((Nat.pow_le_pow_right (by decide) hlength).trans (by decide))
  refine ⟨keepsEnds_of_ascii hascii, ?_, ?_⟩
  · rw [byteLength, Text.byteLength_ascii hascii]
    exact hlength
  · rw [parseMountText, hdigits.2, if_neg (by decide),
      Text.parseUnsigned_of_digits (of_decide_eq_true hdigits.1) hdigits.2, if_pos hbound]
    rfl

/-- A forwarded text that the daemon reads as it was meant: it keeps its ends and is short in
UTF-8. -/
def Forwards (maximum : ℕ) (text : String) : Prop := KeepsEnds text ∧ byteLength text ≤ maximum

theorem composeEditPlan_forwarded_iff {fields : Api.ComposeEditPlanFields}
    (h : IsReadEditPlan fields) {raw : Option String}
    (hraw : raw.getD "" = String.ofList (serialize (Api.composeEditPlanParams fields))) :
    parseComposeEditPlanQuery raw = .ok
        { file := fields.file
          service := fields.service
          mount := Nat.ofDigitChars 10 fields.mount.toList 0
          source := optional fields.source
          target := optional fields.target } ↔
      Forwards maxComposeFileChars fields.file ∧
        Forwards maxComposeServiceChars fields.service ∧
        Forwards maxComposeFileChars fields.source ∧
        Forwards maxComposeFileChars fields.target := by
  obtain ⟨values, hvalues, hget⟩ := collectValues_forwarded malformedQuery
    (names_composeEditPlanParams fields) (by decide)
  have hlookup (name : String) := hget name
  simp only [composeEditPlanParams_eq, List.lookup_append, lookup_toList] at hlookup
  have hfile : values.get? "file" = some fields.file := hlookup "file"
  have hservice : values.get? "service" = some fields.service := hlookup "service"
  have hmount : values.get? "mount" = some fields.mount := hlookup "mount"
  have hsource : values.get? "source" = optional fields.source := by
    rw [hlookup]
    simp
  have htarget : values.get? "target" = optional fields.target := by
    rw [hlookup]
    simp
  obtain ⟨hmountEnds, hmountLength, hmountNumber⟩ := mount_forwarded h.mount
  have hfileIff := requiredValue_eq_self hfile (h.file.required rfl) h.file.ends h.file.clean
    maxComposeFileChars
  have hserviceIff := requiredValue_eq_self hservice (h.service.required rfl) h.service.ends
    h.service.clean maxComposeServiceChars
  have hmountRead := (requiredValue_eq_self hmount (h.mount.required rfl) h.mount.ends
    h.mount.clean 16).2 ⟨hmountEnds, hmountLength⟩
  have hsourceIff := mapM_validateOptionalRawQuery h.source.ends h.source.clean
    maxComposeFileChars
  have htargetIff := mapM_validateOptionalRawQuery h.target.ends h.target.clean
    maxComposeFileChars
  rw [Forwards, Forwards, Forwards, Forwards, ← hfileIff, ← hserviceIff, ← hsourceIff,
    ← htargetIff, parseComposeEditPlanQuery, decodeQuery_serialize hraw, bind_eq_ok]
  constructor
  · rintro ⟨params, hparams, hok⟩
    cases hparams
    rw [hvalues, bind_eq_ok] at hok
    obtain ⟨collected, hcollected, hok⟩ := hok
    cases hcollected
    rw [bind_eq_ok] at hok
    obtain ⟨file, hfileRead, hok⟩ := hok
    rw [bind_eq_ok] at hok
    obtain ⟨service, hserviceRead, hok⟩ := hok
    rw [bind_eq_ok] at hok
    obtain ⟨mountText, -, hok⟩ := hok
    rw [bind_eq_ok] at hok
    obtain ⟨mount, -, hok⟩ := hok
    rw [bind_eq_ok] at hok
    obtain ⟨source, hsourceRead, hok⟩ := hok
    rw [bind_eq_ok] at hok
    obtain ⟨target, htargetRead, hok⟩ := hok
    cases hok
    rw [hsource] at hsourceRead
    rw [htarget] at htargetRead
    exact ⟨hfileRead, hserviceRead, hsourceRead, htargetRead⟩
  · rintro ⟨hfileRead, hserviceRead, hsourceRead, htargetRead⟩
    refine ⟨_, rfl, ?_⟩
    rw [hvalues]
    refine bind_eq_ok.2 ⟨values, rfl, bind_eq_ok.2 ⟨_, hfileRead, bind_eq_ok.2
      ⟨_, hserviceRead, bind_eq_ok.2 ⟨_, hmountRead, bind_eq_ok.2 ⟨_, hmountNumber, ?_⟩⟩⟩⟩⟩
    rw [hsource, htarget]
    exact bind_eq_ok.2 ⟨_, hsourceRead, bind_eq_ok.2 ⟨_, htargetRead, rfl⟩⟩

/-! Routes -/

theorem map_eq_ok {ε α β : Type} {result : Except ε α} {f : α → β} {b : β} :
    result.map f = .ok b ↔ ∃ a, result = .ok a ∧ f a = b := by
  cases result with
  | error failure => exact iff_of_false (fun h => by cases h) fun ⟨a, h, _⟩ => by cases h
  | ok a =>
    refine ⟨fun h => ⟨a, rfl, Except.ok.inj h⟩, ?_⟩
    rintro ⟨a', h, rfl⟩
    cases h
    rfl

theorem logs_handler {raw : Option String} {path : String}
    (h : Api.ReadHandlers.logs raw = .ok path) :
    ∃ fields, Api.readLogsFields (Api.expressQuery (raw.getD "")) = .ok fields ∧
      Api.withSuffix "/daemon/logs" (Api.logsParams fields) = path := by
  rw [Api.ReadHandlers.logs, bind_eq_ok] at h
  obtain ⟨-, -, h⟩ := h
  exact map_eq_ok.1 h

theorem composeScan_handler {raw : Option String} {path : String}
    (h : Api.ReadHandlers.composeScan raw = .ok path) :
    ∃ files, Api.readComposeScanFiles (Api.expressQuery (raw.getD "")) = .ok files ∧
      Api.withSuffix "/daemon/compose/scan" (Api.composeScanParams files) = path := by
  rw [Api.ReadHandlers.composeScan, bind_eq_ok] at h
  obtain ⟨-, -, h⟩ := h
  exact map_eq_ok.1 h

theorem replaceFirst_scan (rest : List Char) :
    Text.replaceFirst "/scan".toList "/graph".toList ("/daemon/compose/scan".toList ++ rest) =
      "/daemon/compose/graph".toList ++ rest := by
  simp [Text.replaceFirst]

theorem composeGraph_handler {raw : Option String} {path : String}
    (h : Api.ReadHandlers.composeGraph raw = .ok path) :
    ∃ files, Api.readComposeScanFiles (Api.expressQuery (raw.getD "")) = .ok files ∧
      Api.withSuffix "/daemon/compose/graph" (Api.composeScanParams files) = path := by
  rw [Api.ReadHandlers.composeGraph, bind_eq_ok] at h
  obtain ⟨-, -, h⟩ := h
  rw [bind_eq_ok] at h
  obtain ⟨scan, hscan, hpath⟩ := h
  obtain ⟨files, hfiles, rfl⟩ := map_eq_ok.1 hscan
  refine ⟨files, hfiles, ?_⟩
  rw [← Except.ok.inj hpath, Api.withSuffix, Api.withSuffix]
  split_ifs
  · rw [← String.toList_inj, String.toList_ofList, String.toList_append, String.toList_append,
      String.toList_append, String.toList_append, List.append_assoc, List.append_assoc,
      replaceFirst_scan]
  · rw [← String.toList_inj, String.toList_ofList]
    exact (List.append_nil _).symm.trans (by rw [List.append_nil]; exact replaceFirst_scan [])

theorem composeEditPlan_handler {raw : Option String} {path : String}
    (h : Api.ReadHandlers.composeEditPlan raw = .ok path) :
    ∃ fields, Api.readComposeEditPlanFields (Api.expressQuery (raw.getD "")) = .ok fields ∧
      "/daemon/compose/edit-plan" ++ "?" ++
        String.ofList (serialize (Api.composeEditPlanParams fields)) = path := by
  rw [Api.ReadHandlers.composeEditPlan, bind_eq_ok] at h
  obtain ⟨-, -, h⟩ := h
  exact map_eq_ok.1 h

/-- What the API takes, the daemon takes for the same exactly when no text begins or ends with
U+0085, the texts of Compose are short in UTF-8 too, and the numbers of a cursor fit. -/
theorem queries_forwarded_iff (raw : Option String) :
    (∀ path, Api.ReadHandlers.logs raw = .ok path →
      ∃ fields, Api.readLogsFields (Api.expressQuery (raw.getD "")) = .ok fields ∧
        ((∃ request, readLogsRequest (rawQuery path) = .ok request ∧ SameLogs fields request) ↔
          KeepsEnds fields.q ∧ (fields.cursor ≠ "" → cursorFits fields.cursor = true))) ∧
    (∀ path, Api.ReadHandlers.composeScan raw = .ok path ∨
        Api.ReadHandlers.composeGraph raw = .ok path →
      ∃ files, Api.readComposeScanFiles (Api.expressQuery (raw.getD "")) = .ok files ∧
        (parseComposeScanQuery (rawQuery path) = .ok ⟨files⟩ ↔
          ∀ file ∈ files, Forwards maxComposeFileChars file)) ∧
    ∀ path, Api.ReadHandlers.composeEditPlan raw = .ok path →
      ∃ fields, Api.readComposeEditPlanFields (Api.expressQuery (raw.getD "")) = .ok fields ∧
        (parseComposeEditPlanQuery (rawQuery path) = .ok
            { file := fields.file
              service := fields.service
              mount := Nat.ofDigitChars 10 fields.mount.toList 0
              source := optional fields.source
              target := optional fields.target } ↔
          Forwards maxComposeFileChars fields.file ∧
            Forwards maxComposeServiceChars fields.service ∧
            Forwards maxComposeFileChars fields.source ∧
            Forwards maxComposeFileChars fields.target) := by
  refine ⟨fun path h => ?_, fun path h => ?_, fun path h => ?_⟩
  · obtain ⟨fields, hfields, rfl⟩ := logs_handler h
    exact ⟨fields, hfields, logs_forwarded_iff (isReadLogs_of_readLogsFields hfields)⟩
  · rcases h with hscan | hgraph
    · obtain ⟨files, hfiles, rfl⟩ := composeScan_handler hscan
      exact ⟨files, hfiles, composeScan_forwarded_iff
        (isReadFiles_of_readComposeScanFiles hfiles) (rawQuery_withSuffix _ (by decide) _)⟩
    · obtain ⟨files, hfiles, rfl⟩ := composeGraph_handler hgraph
      exact ⟨files, hfiles, composeScan_forwarded_iff
        (isReadFiles_of_readComposeScanFiles hfiles) (rawQuery_withSuffix _ (by decide) _)⟩
  · obtain ⟨fields, hfields, rfl⟩ := composeEditPlan_handler h
    refine ⟨fields, hfields, composeEditPlan_forwarded_iff
      (isReadEditPlan_of_readComposeEditPlanFields hfields) ?_⟩
    rw [rawQuery_append (by decide), Option.getD_some]

/-! A cursor -/

theorem decodeUriFrom_plain {units : List ℕ} (h : ∀ unit ∈ units, unit ≠ 0x25) :
    JavaScript.decodeUriComponent units = some units := by
  have hempty : Utf8.isText [] = true := Utf8.isText_iff.2 (Utf8.isText_utf8 [])
  have hnil : JavaScript.decodeRun [] = some [] := by
    rw [JavaScript.decodeRun, if_pos hempty]
    rfl
  rw [JavaScript.decodeUriComponent]
  induction units with
  | nil => exact hnil
  | cons unit units ih =>
    rw [List.forall_mem_cons] at h
    have hrest := ih h.2
    rcases units with _ | ⟨high, _ | ⟨low, rest⟩⟩
    · rw [JavaScript.decodeUriFrom, if_neg h.1, hnil, hrest]
      · rfl
      · exact fun _ _ _ heq => by cases heq
    · rw [JavaScript.decodeUriFrom, if_neg h.1, hnil, hrest]
      · rfl
      · exact fun _ _ _ heq => by cases heq
    · rw [JavaScript.decodeUriFrom, if_neg h.1, hnil, hrest]
      rfl

def cursorFields (cursor : String) : Api.LogsFields where
  service := ""
  q := ""
  cursor := cursor
  limit := none

theorem logs_of_cursor {raw cursor : String} (hplain : ∀ unit ∈ codeUnits raw, unit ≠ 0x25)
    (hspace : (codeUnits raw).map Api.plusToSpace = codeUnits raw)
    (hpair : (codeUnits raw).splitOnP (· == 0x26) = [codeUnits raw])
    (hname : ((codeUnits raw).takeWhile (· ≠ 0x3D)).map Api.plusToSpace = codeUnits "cursor")
    (hfields : Api.readLogsFields (Api.expressQuery raw) = .ok (cursorFields cursor)) :
    Api.ReadHandlers.logs (some raw) =
      .ok (Api.withSuffix "/daemon/logs" (Api.logsParams (cursorFields cursor))) := by
  have hparameter : Api.parameterOf Api.logsQueryContract (codeUnits "cursor") =
      some (some (.string Api.LogsQueryContract.cursor)) := rfl
  have hstrict : Api.assertStrictRequestQueryEncoding (some raw) Api.logsQueryContract =
      .ok () := by
    rw [Api.assertStrictRequestQueryEncoding, hspace, decodeUriFrom_plain hplain, hpair]
    dsimp only
    rw [Api.assertPairs, hname, decodeUriFrom_plain (by decide)]
    dsimp only
    rw [hparameter]
    rfl
  rw [Api.ReadHandlers.logs, hstrict]
  exact map_eq_ok.2 ⟨_, hfields, rfl⟩

theorem logs_shortCursor : Api.ReadHandlers.logs (some "cursor=1700000000000:2") =
    .ok (Api.withSuffix "/daemon/logs" (Api.logsParams (cursorFields "1700000000000:2"))) :=
  logs_of_cursor (by decide) (by decide +kernel) (by decide +kernel) (by decide +kernel)
    (by decide)

theorem logs_longCursor : Api.ReadHandlers.logs (some "cursor=99999999999999999999") =
    .ok (Api.withSuffix "/daemon/logs"
      (Api.logsParams (cursorFields "99999999999999999999"))) :=
  logs_of_cursor (by decide) (by decide +kernel) (by decide +kernel) (by decide +kernel)
    (by decide)

/-- A cursor of twenty digits passes the API, and the daemon cannot read it. -/
theorem queries_forwarded_applied :
    (∃ path, Api.ReadHandlers.logs (some "cursor=1700000000000:2") = .ok path ∧
      ∃ request, readLogsRequest (rawQuery path) = .ok request ∧
        SameLogs (cursorFields "1700000000000:2") request) ∧
    ∃ path, Api.ReadHandlers.logs (some "cursor=99999999999999999999") = .ok path ∧
      ¬∃ request, readLogsRequest (rawQuery path) = .ok request ∧
        SameLogs (cursorFields "99999999999999999999") request := by
  constructor
  · refine ⟨_, logs_shortCursor, ?_⟩
    obtain ⟨fields, hfields, hiff⟩ := (queries_forwarded_iff _).1 _ logs_shortCursor
    have hread : Api.readLogsFields (Api.expressQuery "cursor=1700000000000:2") =
      .ok (cursorFields "1700000000000:2") := by decide
    obtain rfl := Except.ok.inj (hread.symm.trans hfields)
    exact hiff.2 ⟨by decide, fun _ => by decide +kernel⟩
  · refine ⟨_, logs_longCursor, ?_⟩
    obtain ⟨fields, hfields, hiff⟩ := (queries_forwarded_iff _).1 _ logs_longCursor
    have hread : Api.readLogsFields (Api.expressQuery "cursor=99999999999999999999") =
      .ok (cursorFields "99999999999999999999") := by decide
    obtain rfl := Except.ok.inj (hread.symm.trans hfields)
    have hfits : cursorFits "99999999999999999999" = false := by decide
    exact fun h => Bool.false_ne_true (hfits.symm.trans ((hiff.1 h).2 (by decide)))

end DockerMap
