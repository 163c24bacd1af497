import DockerMap.Core.HistoryValidation
import DockerMap.Proofs.FindingPresentation
import DockerMap.Proofs.HistoryReplay
import DockerMap.Proofs.Revisions
import DockerMap.Web.ObservedHistory

/-! Every response of the observed history is one its readers accept: the daemon's own type,
the check of the Node boundary and the check of the browser. -/

namespace DockerMap

open Api (HistoryCursor)
open BoundedLog (retain)
open Json (encode)
open ObservedHistoryCache (UnusableClock maxSafeJsInteger pushChange)
open Runs (Steps anyStep run)

/-! Ids -/

/-- Sequences are counted in 64 bits; the source stops the process on overflow. -/
def counterBound : ℕ := 2 ^ 64

theorem toList_token (boot : String) (n : ℕ) :
    (ChangeToken.text boot n).toList = boot.toList ++ '-' :: Nat.toDigits 10 n := by
  rw [ChangeToken.text, String.toList_append, String.toList_append, List.append_assoc]
  change _ ++ (['-'] ++ (Nat.repr n).toList) = _
  rw [Nat.toList_repr, List.singleton_append]

theorem BootToken.length (boot : BootToken) : boot.text.toList.length = 32 := boot.wellFormed.1

theorem BootToken.hex (boot : BootToken) : ∀ c ∈ boot.text.toList, isLowerHex c = true :=
  List.all_eq_true.1 boot.wellFormed.2

theorem BootToken.dash_not_mem (boot : BootToken) : '-' ∉ boot.text.toList :=
  fun hmem => ne_dash_of_hex (boot.hex _ hmem) rfl

/-- The digits of a positive counter: no leading zero, twenty at most. -/
theorem digits_of_counter {n : ℕ} (hpos : 0 < n) (hbound : n < counterBound) :
    ∃ first rest, Nat.toDigits 10 n = first :: rest ∧ first.isDigit = true ∧ first ≠ '0' ∧
      rest.all Char.isDigit = true ∧ rest.length ≤ 19 := by
  have hdigit : ∀ c ∈ Nat.toDigits 10 n, c.isDigit = true := fun c hc =>
    Nat.isDigit_of_mem_toDigits (by decide) (by decide) hc
  have hlength : (Nat.toDigits 10 n).length ≤ 20 := by
    refine (Nat.length_toDigits_le_iff (by decide) (by decide)).2 (hbound.trans ?_)
    rw [counterBound]
    norm_num
  obtain ⟨first, hfirst, hne⟩ := Text.head_toDigits hpos
  obtain ⟨rest, hlist⟩ := List.head?_eq_some_iff.1 hfirst
  rw [hlist] at hdigit hlength
  rw [List.forall_mem_cons] at hdigit
  exact ⟨first, rest, hlist, hdigit.1, hne, List.all_eq_true.2 hdigit.2,
    Nat.le_of_succ_le_succ hlength⟩

section

variable (boot : BootToken) {n : ℕ} (hpos : 0 < n) (hbound : n < counterBound)
include hpos hbound

theorem observedEventIdParts_token :
    observedEventIdParts (ChangeToken.text boot.text n).toList = some (boot.text.toList, n) := by
  obtain ⟨first, rest, hlist, hdigit, hne, hrest, -⟩ := digits_of_counter hpos hbound
  have hsplit : Text.splitOnce '-' (ChangeToken.text boot.text n).toList =
      some (boot.text.toList, Nat.toDigits 10 n) := by
    rw [toList_token]
    exact Text.splitOnce_append boot.dash_not_mem _
  have hparse := Text.parseUnsigned_toDigits hbound
  rw [counterBound] at hparse
  have hid : isObservedEventId (ChangeToken.text boot.text n).toList = true := by
    rw [isObservedEventId, hsplit]
    dsimp only
    rw [hparse, hlist, boot.length, boot.wellFormed.2]
    simp [Text.startsWith, hdigit, hrest, hne.symm]
  rw [observedEventIdParts, if_pos hid, hsplit, Option.bind_some]
  dsimp only
  rw [hparse, Option.map_some]

theorem eventIdParts_token :
    Api.eventIdParts (some (.str (ChangeToken.text boot.text n))) =
      some (boot.text.toList, n) := by
  obtain ⟨first, rest, hlist, hdigit, hne, hrest, hlength⟩ := digits_of_counter hpos hbound
  have htake : (ChangeToken.text boot.text n).toList.take 32 = boot.text.toList := by
    rw [toList_token, ← boot.length, List.take_left]
  have hdrop : (ChangeToken.text boot.text n).toList.drop 32 = '-' :: first :: rest := by
    rw [toList_token, ← boot.length, List.drop_left, hlist]
  have hvalue : Nat.ofDigitChars 10 (first :: rest) 0 = n := by
    rw [← hlist, Nat.ofDigitChars_ten_toDigits]
  rw [Api.eventIdParts, asText_str, Option.bind_some, htake, hdrop]
  refine (if_pos ?_).trans (by rw [hvalue])
  rw [boot.length, boot.wellFormed.2]
  simp [hdigit, hrest, hne, hlength]

end

theorem isPlain_token (boot : BootToken) (n : ℕ) : isPlain (ChangeToken.text boot.text n) = true := by
  have hdigits : ∀ c ∈ Nat.toDigits 10 n, isLowerHex c = true := fun c hc =>
    hex_of_digit (Nat.isDigit_of_mem_toDigits (by decide) (by decide) hc)
  have hall : ∀ c ∈ (ChangeToken.text boot.text n).toList, isLowerHex c = true ∨ c = '-' := by
    intro c hc
    rw [toList_token] at hc
    rcases List.mem_append.1 hc with hc | hc
    · exact Or.inl (boot.hex c hc)
    · exact (List.mem_cons.1 hc).symm.imp_left (hdigits c)
  refine isPlain_of_slug (fun c hc => (hexCharacter (hall c hc)).1) ?_ fun hmarker => ?_
  · rw [toList_token, List.count_append, count_dash_of_hex boot.hex, List.count_cons_self,
      count_dash_of_hex hdigits]
  · exact absurd (marker_of_hex (p := []) hall hmarker) (by decide)

/-- A revision is present and fits the bound of its type. -/
theorem token_fits (boot : BootToken) {n : ℕ} (hbound : n < counterBound) :
    ChangeToken.text boot.text n ≠ "" ∧
      Text.byteLength (ChangeToken.text boot.text n).toList ≤ 64 := by
  have hlength : (Nat.toDigits 10 n).length ≤ 20 := by
    refine (Nat.length_toDigits_le_iff (by decide) (by decide)).2 (hbound.trans ?_)
    rw [counterBound]
    norm_num
  constructor
  · intro hempty
    have htext := toList_token boot.text n
    rw [hempty] at htext
    exact absurd htext.symm (List.append_ne_nil_of_right_ne_nil _ (List.cons_ne_nil _ _))
  · have hascii : ∀ c ∈ (ChangeToken.text boot.text n).toList, c.toNat < 128 := fun c hc =>
      (quietCharacter (((isPlain_iff _).1 (isPlain_token boot n)).1 c hc)).1
    rw [Text.byteLength_ascii hascii, toList_token, List.length_append, boot.length,
      List.length_cons]
    omega

theorem isObservedContainerId_identity (raw : String) :
    isObservedContainerId (observedContainerIdentity raw).toList = true := by
  have htext : (observedContainerIdentity raw).toList =
      "docker_container_".toList ++ (Sha256.hex raw).toList := String.toList_append
  have hstart : Text.startsWith (observedContainerIdentity raw).toList
      "docker_container_".toList = true := by
    rw [htext]
    exact decide_eq_true (List.prefix_append _ _)
  have hdrop : (observedContainerIdentity raw).toList.drop "docker_container_".toList.length =
      (Sha256.hex raw).toList := by
    rw [htext]
    exact List.drop_left
  have hlength := Sha256.length_hex raw
  have hhex := List.all_eq_true.2 (hex_sha256 raw)
  simp only [isObservedContainerId, hstart, hdrop, hlength, hhex, beq_self_eq_true, Bool.and_self]

theorem digestAfter_identity (raw : String) :
    (Api.digestAfter "docker_container_" (some (.str (observedContainerIdentity raw)))).isSome := by
  have hdigest : Api.digestAfter "docker_container_"
      (some (.str (observedContainerIdentity raw))) = some (Sha256.hex raw) :=
    digestAfter_eq_some.2 ⟨rfl, Sha256.length_hex raw, hex_sha256 raw⟩
  rw [hdigest, Option.isSome_some]

theorem isPlain_identity (raw : String) : isPlain (observedContainerIdentity raw) = true :=
  isPlain_append_digest (by decide +kernel) (hex_sha256 raw)

/-! What the readers rely on -/

/-- An event under its sequence. -/
abbrev Numbered := ℕ × ObservedChangeEvent

/-- One event of an epoch. -/
structure Admits (boot : BootToken) (entry : Numbered) : Prop where
  id : entry.2.id = ChangeToken.text boot.text entry.1
  positive : 0 < entry.1
  bounded : entry.1 < counterBound
  safe : entry.2.observedAtMs ≤ maxSafeJsInteger
  container : ∃ raw, entry.2.containerId = observedContainerIdentity raw
  coherent : entry.2.coherentTransition = true

def Earlier (older newer : Numbered) : Prop :=
  older.1 < newer.1 ∧ older.2.observedAtMs ≤ newer.2.observedAtMs

/-- What a reader has seen of an epoch lies after the entries that are left. -/
structure Precedes (boot : BootToken) (cursor : HistoryCursor) (entries : List Numbered) :
    Prop where
  ids : ∀ entry ∈ entries, entry.2.id ∉ cursor.ids
  times : ∀ prior ∈ cursor.priorObservedAt, ∀ entry ∈ entries, entry.2.observedAtMs ≤ prior
  epoch : ∀ known ∈ cursor.epoch, known = boot.text.toList
  sequences : ∀ prior ∈ cursor.priorSequence, ∀ entry ∈ entries, entry.1 < prior

theorem precedes_start (boot : BootToken) (entries : List Numbered) :
    Precedes boot {} entries where
  ids _ _ := List.not_mem_nil
  times _ h := nomatch h
  epoch _ h := nomatch h
  sequences _ h := nomatch h

section

variable {boot : BootToken} {cursor : HistoryCursor} {entry : Numbered} {entries : List Numbered}

theorem Precedes.follows (h : Precedes boot cursor (entry :: entries)) :
    Api.followsCursor cursor entry.2.id entry.2.observedAtMs boot.text.toList entry.1 = true := by
  simp only [Api.followsCursor, Bool.and_eq_true, Bool.not_eq_true', List.contains_eq_mem,
    decide_eq_false_iff_not, Option.all_eq_true, beq_iff_eq, decide_eq_true_eq]
  exact ⟨⟨⟨h.ids entry List.mem_cons_self,
      fun prior hprior => h.times prior hprior entry List.mem_cons_self⟩,
    fun known hknown => (h.epoch known hknown).symm⟩,
    fun prior hprior => h.sequences prior hprior entry List.mem_cons_self⟩

theorem Precedes.next (h : Precedes boot cursor (entry :: entries))
    (hadmits : ∀ other ∈ entry :: entries, Admits boot other)
    (hordered : ∀ older ∈ entries, Earlier older entry) :
    Precedes boot (cursor.next entry.2.id entry.2.observedAtMs boot.text.toList entry.1)
      entries where
  ids older holder := by
    have hother := hadmits older (List.mem_cons_of_mem _ holder)
    have hne : older.2.id ≠ entry.2.id := by
      rw [hother.id, (hadmits entry List.mem_cons_self).id]
      exact fun heq => (hordered older holder).1.ne (ChangeToken.text_injective _ heq)
    exact List.not_mem_cons_of_ne_of_not_mem hne (h.ids older (List.mem_cons_of_mem _ holder))
  times prior hprior older holder := by
    cases hprior
    exact (hordered older holder).2
  epoch known hknown := by
    cases hknown
    rfl
  sequences prior hprior older holder := by
    cases hprior
    exact (hordered older holder).1

/-! The daemon's own type -/

theorem tryFrom_event (h : Admits boot entry) : ObservedChangeEvent.tryFrom entry.2 = .ok entry.2 := by
  have hparts := observedEventIdParts_token boot h.positive h.bounded
  have hid : isObservedEventId entry.2.id.toList = true := by
    by_contra hid
    rw [h.id] at hid
    rw [observedEventIdParts, if_neg hid] at hparts
    cases hparts
  obtain ⟨raw, hcontainer⟩ := h.container
  rw [ObservedChangeEvent.tryFrom, hid, hcontainer, isObservedContainerId_identity, h.coherent]
  rfl

theorem mapM_tryFrom (h : ∀ entry ∈ entries, Admits boot entry) :
    (entries.map Prod.snd).mapM ObservedChangeEvent.tryFrom = .ok (entries.map Prod.snd) := by
  induction entries with
  | nil => rfl
  | cons entry entries ih =>
    rw [List.forall_mem_cons] at h
    rw [List.map_cons, List.mapM_cons, tryFrom_event h.1, ih h.2]
    rfl

theorem checkEvents_ok (previous : Option PreviousEvent) (ids : List String)
    (hadmits : ∀ entry ∈ entries, Admits boot entry)
    (hordered : entries.Pairwise fun newer older => Earlier older newer)
    (hprecedes : Precedes boot
      { ids := ids
        priorObservedAt := previous.map Prod.fst
        epoch := previous.map fun event => event.2.1
        priorSequence := previous.map fun event => event.2.2 } entries) :
    checkEvents previous ids (entries.map Prod.snd) = .ok () := by
  induction entries generalizing previous ids with
  | nil => rfl
  | cons entry entries ih =>
    have hentry := hadmits entry List.mem_cons_self
    have hparts : observedEventIdParts entry.2.id.toList = some (boot.text.toList, entry.1) := by
      rw [hentry.id]
      exact observedEventIdParts_token boot hentry.positive hentry.bounded
    rw [List.pairwise_cons] at hordered
    have hfresh : ids.contains entry.2.id = false := by
      rw [List.contains_eq_mem, decide_eq_false_iff_not]
      exact hprecedes.ids entry List.mem_cons_self
    rw [List.map_cons, checkEvents, hparts]
    dsimp only
    rw [hfresh, if_neg Bool.false_ne_true, if_neg]
    · exact ih _ _ (fun older holder => hadmits older (List.mem_cons_of_mem _ holder)) hordered.2
        (hprecedes.next hadmits hordered.1)
    · -- the newer event of the list is no older and of the same epoch
      cases previous with
      | none => exact Bool.false_ne_true
      | some event =>
        have htime := hprecedes.times _ rfl entry List.mem_cons_self
        have hepoch := hprecedes.epoch _ rfl
        have hsequence := hprecedes.sequences _ rfl entry List.mem_cons_self
        simp [htime, hepoch, hsequence]

/-! The Node boundary -/

section

variable (event : ObservedChangeEvent)

@[simp] theorem event_id : (encode event).field? "id" = some (.str event.id) := rfl

@[simp] theorem event_kind : (encode event).field? "kind" = some (.str event.kind.wireName) := rfl

@[simp] theorem event_observedAtMs :
    (encode event).field? "observedAtMs" = some (.num event.observedAtMs) := rfl

@[simp] theorem event_containerId :
    (encode event).field? "containerId" = some (.str event.containerId) := rfl

@[simp] theorem event_previousStatus :
    (encode event).field? "previousStatus" = some (Json.nullable event.previousStatus) := rfl

@[simp] theorem event_currentStatus :
    (encode event).field? "currentStatus" = some (Json.nullable event.currentStatus) := rfl

end

/-- The three ways a transition is coherent. -/
theorem coherent_cases {event : ObservedChangeEvent} (h : event.coherentTransition = true) :
    (event.kind = .containerAppeared ∧ event.previousStatus = none ∧
        ∃ current, event.currentStatus = some current) ∨
      (event.kind = .containerDisappeared ∧ event.currentStatus = none ∧
        ∃ previous, event.previousStatus = some previous) ∨
      (event.kind = .containerStatusChanged ∧ ∃ previous current,
        event.previousStatus = some previous ∧ event.currentStatus = some current ∧
          previous ≠ current) := by
  obtain ⟨id, kind, observedAtMs, containerId, previous, current⟩ := event
  cases kind with
  | containerAppeared =>
    cases previous <;> cases current <;> simp_all [ObservedChangeEvent.coherentTransition]
  | containerDisappeared =>
    cases previous <;> cases current <;> simp_all [ObservedChangeEvent.coherentTransition]
  | containerStatusChanged =>
    cases previous <;> cases current <;> simp_all [ObservedChangeEvent.coherentTransition]

theorem strictEqual_status {previous current : ObservedContainerStatus} (h : previous ≠ current) :
    JavaScript.strictEqual (some (encode previous)) (some (encode current)) = false := by
  change (previous.wireName == current.wireName) = false
  rw [beq_eq_false_iff_ne]
  exact fun heq => h (ObservedContainerStatus.wireName_injective heq)

theorem hasCoherentStatuses_encode {event : ObservedChangeEvent}
    (h : event.coherentTransition = true) : Api.hasCoherentStatuses (encode event) = true := by
  unfold Api.hasCoherentStatuses Api.hasText
  rw [event_previousStatus, event_currentStatus, event_kind, asText_str]
  rcases coherent_cases h with ⟨hkind, hprevious, current, hcurrent⟩ |
    ⟨hkind, hcurrent, previous, hprevious⟩ | ⟨hkind, previous, current, hprevious, hcurrent, hne⟩
  · rw [hkind, hprevious, hcurrent]
    rfl
  · rw [hkind, hprevious, hcurrent]
    rfl
  · have hstrict := strictEqual_status hne
    rw [hkind, hprevious, hcurrent]
    dsimp only [Json.nullable]
    rw [hstrict]
    rfl

theorem number_of_safe {n : ℕ} (h : n ≤ maxSafeJsInteger) : Binary64.ofNat n = n :=
  Binary64.ofNat_of_lt (h.trans_lt (by decide))

theorem sequence_le_max {n : ℕ} (h : n < counterBound) : n ≤ Api.maxSequence := Nat.le_of_lt_succ h

theorem eventIdParts_encode (h : Admits boot entry) :
    Api.eventIdParts ((encode entry.2).field? "id") = some (boot.text.toList, entry.1) := by
  rw [event_id, h.id]
  exact eventIdParts_token boot h.positive h.bounded

theorem hasCoherentEvents_encode (hadmits : ∀ entry ∈ entries, Admits boot entry)
    (hordered : entries.Pairwise fun newer older => Earlier older newer)
    (hprecedes : Precedes boot cursor entries) :
    Api.hasCoherentEvents cursor (entries.map fun entry => encode entry.2) = true := by
  induction entries generalizing cursor with
  | nil => rfl
  | cons entry entries ih =>
    have hentry := hadmits entry List.mem_cons_self
    obtain ⟨raw, hcontainer⟩ := hentry.container
    have hrecord : Api.isRecord (encode entry.2) = true := rfl
    have hrest := ih (fun older holder => hadmits older (List.mem_cons_of_mem _ holder))
      (List.pairwise_cons.1 hordered).2
      (hprecedes.next hadmits (List.pairwise_cons.1 hordered).1)
    rw [List.map_cons, Api.hasCoherentEvents, eventIdParts_encode hentry, event_id,
      event_observedAtMs, event_containerId, hcontainer, digestAfter_identity, hrecord, asText_str,
      JavaScript.asNumber_num, number_of_safe hentry.safe]
    dsimp only
    rw [hprecedes.follows, hasCoherentStatuses_encode hentry.coherent, hrest,
      decide_eq_true (sequence_le_max hentry.bounded)]
    rfl

/-! The browser -/

theorem isStatus_nullable (status : Option ObservedContainerStatus) :
    Web.isStatus (some (Json.nullable status)) = true := by
  rcases status with _ | _ | _ | _ <;> rfl

theorem isTransition_encode {event : ObservedChangeEvent}
    (h : event.coherentTransition = true) : Web.isTransition (encode event) = true := by
  unfold Web.isTransition Api.hasText
  rw [event_previousStatus, event_currentStatus, event_kind, asText_str]
  rcases coherent_cases h with ⟨hkind, hprevious, current, hcurrent⟩ |
    ⟨hkind, hcurrent, previous, hprevious⟩ | ⟨hkind, previous, current, hprevious, hcurrent, hne⟩
  · rw [hkind, hprevious, hcurrent]
    rfl
  · rw [hkind, hprevious, hcurrent]
    rfl
  · have hstrict := strictEqual_status hne
    rw [hkind, hprevious, hcurrent]
    dsimp only [Json.nullable]
    rw [hstrict]
    rfl

theorem isEventRecord_encode (h : Admits boot entry) : Web.isEventRecord (encode entry.2) = true := by
  obtain ⟨raw, hcontainer⟩ := h.container
  have hkeys : (Web.ownKeys (encode entry.2)).length = Web.eventKeys.length := by
    change (List.dedup ["id", "kind", "observedAtMs", "containerId", "previousStatus",
      "currentStatus"]).length = _
    decide
  have hown : Web.eventKeys.all (fun key => ((encode entry.2).field? key).isSome) = true := rfl
  have hrecord : Api.isRecord (encode entry.2) = true := rfl
  have htext : JavaScript.propertyText (some (.str (observedContainerIdentity raw))) =
      observedContainerIdentity raw := by rw [JavaScript.propertyText, JavaScript.textOf]
  rw [Web.isEventRecord, hrecord, hkeys, hown, event_containerId, hcontainer, htext,
    digestAfter_identity]
  simp

theorem validCandidates_encode (hadmits : ∀ entry ∈ entries, Admits boot entry)
    (hordered : entries.Pairwise fun newer older => Earlier older newer)
    (hprecedes : Precedes boot cursor entries) :
    Web.validCandidates cursor (entries.map fun entry => encode entry.2) = true := by
  induction entries generalizing cursor with
  | nil => rfl
  | cons entry entries ih =>
    have hentry := hadmits entry List.mem_cons_self
    have hrest := ih (fun older holder => hadmits older (List.mem_cons_of_mem _ holder))
      (List.pairwise_cons.1 hordered).2
      (hprecedes.next hadmits (List.pairwise_cons.1 hordered).1)
    have hsafe : Api.safeInteger (some (.num entry.2.observedAtMs)) =
        some entry.2.observedAtMs := by
      rw [Api.safeInteger, number_of_safe hentry.safe]
      exact if_pos hentry.safe
    rw [List.map_cons, Web.validCandidates, eventIdParts_encode hentry,
      isEventRecord_encode hentry, event_id, event_observedAtMs, asText_str, hsafe]
    dsimp only
    rw [event_previousStatus, event_currentStatus, isStatus_nullable, isStatus_nullable,
      hprecedes.follows, isTransition_encode hentry.coherent, hrest,
      decide_eq_true (sequence_le_max hentry.bounded)]
    rfl

/-! What the Node boundary redacts -/

theorem publish_status {toLowerCase : String → String} (htable : LowersByTable toLowerCase)
    (status : Option ObservedContainerStatus) :
    Api.publishApiPayload toLowerCase (Json.nullable status) = Json.nullable status := by
  have hplain : ∀ status : ObservedContainerStatus, isPlain status.wireName = true := by
    intro status
    cases status <;> decide +kernel
  cases status with
  | none => rfl
  | some status => exact publish_name htable (hplain status)

/-- There is nothing to redact in an event. -/
theorem publish_encode_event {toLowerCase : String → String} (htable : LowersByTable toLowerCase)
    (h : Admits boot entry) :
    Api.publishApiPayload toLowerCase (encode entry.2) = encode entry.2 := by
  have hkind : ∀ kind : ObservedChangeKind, isPlain kind.wireName = true := by
    intro kind
    cases kind <;> decide +kernel
  obtain ⟨raw, hcontainer⟩ := h.container
  have hid : Api.publishApiPayload toLowerCase (encode entry.2.id) = encode entry.2.id := by
    rw [h.id]
    exact publish_name htable (isPlain_token boot entry.1)
  have hcontainerId : Api.publishApiPayload toLowerCase (encode entry.2.containerId) =
      encode entry.2.containerId := by
    rw [hcontainer]
    exact publish_name htable (isPlain_identity raw)
  have hkindName : Api.publishApiPayload toLowerCase (encode entry.2.kind) =
      encode entry.2.kind := publish_name htable (hkind entry.2.kind)
  refine (publish_record htable ["id", "kind", "observedAtMs", "containerId", "previousStatus",
    "currentStatus"] rfl (by decide +kernel) (by decide)).trans ?_
  simp only [List.map_cons, List.map_nil, Option.map_some, hid, hkindName, hcontainerId,
    publish_status htable]
  rfl

end

/-! What the daemon retains -/

structure Retained (history : ObservedHistoryCache) (boot : BootToken) (entry : Numbered) :
    Prop where
  id : entry.2.id = ChangeToken.text boot.text entry.1
  positive : 0 < entry.1
  numbered : entry.1 ≤ history.nextSequence
  safe : entry.2.observedAtMs ≤ maxSafeJsInteger
  observed : ∃ last ∈ history.lastObservedAtMs, entry.2.observedAtMs ≤ last
  container : ∃ raw, entry.2.containerId = observedContainerIdentity raw
  coherent : entry.2.coherentTransition = true

/-- The retained events of one epoch, oldest first. -/
structure RetainsEpoch (history : ObservedHistoryCache) (boot : BootToken)
    (entries : List Numbered) : Prop where
  epoch : history.boot = boot.text
  events : history.events = entries.map Prod.snd
  capped : entries.length ≤ maxObservedChangeEvents
  retained : ∀ entry ∈ entries, Retained history boot entry
  ordered : entries.Pairwise Earlier
  baseline : ∀ inventory ∈ history.baseline, ∃ snapshot,
    inventory = observedContainerInventory snapshot

theorem retainsEpoch_fresh (boot : BootToken) {baseline : Option ObservedContainerInventory}
    (h : ∀ inventory ∈ baseline, ∃ snapshot, inventory = observedContainerInventory snapshot) :
    RetainsEpoch { boot := boot.text, baseline := baseline } boot [] where
  epoch := rfl
  events := rfl
  capped := Nat.zero_le _
  retained _ h := nomatch h
  ordered := List.Pairwise.nil
  baseline := h

/-- The events of the changes under their sequences. -/
def numberedEvents (boot : String) (observedAtMs : ℕ) : ℕ → List StatusChange → List Numbered
  | _, [] => []
  | sequence, change :: changes =>
      (sequence + 1, changeEvent boot observedAtMs (sequence + 1) change) ::
        numberedEvents boot observedAtMs (sequence + 1) changes

section

variable (boot : String) (observedAtMs sequence : ℕ) (changes : List StatusChange)

theorem numberedEvents_events : (numberedEvents boot observedAtMs sequence changes).map Prod.snd =
    changeEvents boot observedAtMs sequence changes := by
  induction changes generalizing sequence with
  | nil => rfl
  | cons change changes ih => rw [numberedEvents, List.map_cons, ih, changeEvents]

theorem mem_numberedEvents {entry : Numbered}
    (h : entry ∈ numberedEvents boot observedAtMs sequence changes) :
    sequence < entry.1 ∧ entry.1 ≤ sequence + changes.length ∧
      ∃ change ∈ changes, entry.2 = changeEvent boot observedAtMs entry.1 change := by
  induction changes generalizing sequence with
  | nil => cases h
  | cons change changes ih =>
    rw [List.length_cons]
    rcases List.mem_cons.1 h with rfl | h
    · exact ⟨Nat.lt_succ_self _, by omega, change, List.mem_cons_self, rfl⟩
    · obtain ⟨hlow, hhigh, other, hother, heq⟩ := ih (sequence + 1) h
      exact ⟨by omega, by omega, other, List.mem_cons_of_mem _ hother, heq⟩

theorem numberedEvents_ordered :
    (numberedEvents boot observedAtMs sequence changes).Pairwise Earlier := by
  induction changes generalizing sequence with
  | nil => exact List.Pairwise.nil
  | cons change changes ih =>
    rw [numberedEvents, List.pairwise_cons]
    refine ⟨fun entry hentry => ?_, ih _⟩
    obtain ⟨hlow, -, other, -, heq⟩ := mem_numberedEvents _ _ _ _ hentry
    refine ⟨hlow, ?_⟩
    rw [heq]
    exact le_refl observedAtMs

end

/-- A change between two inventories is coherent and concerns a container of one of them. -/
theorem change_admissible {previous current : DockerSnapshot} {change : StatusChange}
    (h : change ∈ changesBetween (observedContainerInventory previous)
      (observedContainerInventory current)) (boot : String) (observedAtMs sequence : ℕ) :
    (∃ raw, change.key = observedContainerIdentity raw) ∧
      (changeEvent boot observedAtMs sequence change).coherentTransition = true := by
  obtain ⟨hbefore, hafter, hne, -⟩ := MapDiff.mem_diff_iff.1 h
  have hknown : ∀ snapshot : DockerSnapshot,
      (observedContainerInventory snapshot).containers.get? change.key ≠ none →
        ∃ raw, change.key = observedContainerIdentity raw := by
    intro snapshot hsome
    rw [(inventory_spec snapshot change.key).1] at hsome
    have hrecords : recordsOf snapshot.containers change.key ≠ [] := by
      intro hnil
      rw [hnil] at hsome
      exact hsome rfl
    obtain ⟨container, hcontainer⟩ := List.exists_mem_of_ne_nil _ hrecords
    exact ⟨container.id, (of_decide_eq_true (List.mem_filter.1 hcontainer).2).symm⟩
  obtain ⟨key, before, after⟩ := change
  cases before with
  | none =>
    obtain ⟨status, rfl⟩ := Option.ne_none_iff_exists'.1 (Ne.symm hne)
    refine ⟨hknown current ?_, rfl⟩
    rw [← hafter]
    exact Option.some_ne_none status
  | some status =>
    refine ⟨hknown previous ?_, ?_⟩
    · rw [← hbefore]
      exact Option.some_ne_none status
    · cases after with
      | none => rfl
      | some later => exact decide_eq_true hne

/-- What is retained stays retained as the counter and the clock move on. -/
theorem Retained.later {history later : ObservedHistoryCache} {boot : BootToken} {entry : Numbered}
    (h : Retained history boot entry) (hsequence : history.nextSequence ≤ later.nextSequence)
    {now : ℕ} (hnow : later.lastObservedAtMs = some now)
    (hclock : ∀ last ∈ history.lastObservedAtMs, last ≤ now) : Retained later boot entry where
  id := h.id
  positive := h.positive
  numbered := h.numbered.trans hsequence
  safe := h.safe
  observed := by
    obtain ⟨last, hlast, hle⟩ := h.observed
    exact ⟨now, hnow, hle.trans (hclock last hlast)⟩
  container := h.container
  coherent := h.coherent

theorem retained_new {later : ObservedHistoryCache} {boot : BootToken} {entry : Numbered}
    {previous current : DockerSnapshot} {change : StatusChange} (hpositive : 0 < entry.1)
    (hnumbered : entry.1 ≤ later.nextSequence)
    (hnow : later.lastObservedAtMs = some current.lastUpdated)
    (hsafe : current.lastUpdated ≤ maxSafeJsInteger)
    (hchange : change ∈ changesBetween (observedContainerInventory previous)
      (observedContainerInventory current))
    (hevent : entry.2 = changeEvent boot.text current.lastUpdated entry.1 change) :
    Retained later boot entry := by
  obtain ⟨hkey, hcoherent⟩ :=
    change_admissible hchange boot.text current.lastUpdated entry.1
  refine ⟨?_, hpositive, hnumbered, ?_, ⟨current.lastUpdated, hnow, ?_⟩, ?_, ?_⟩ <;> rw [hevent]
  · rfl
  · exact hsafe
  · exact le_refl current.lastUpdated
  · exact hkey
  · exact hcoherent

theorem retainsEpoch_push {history : ObservedHistoryCache} {boot : BootToken}
    {entries : List Numbered} (h : RetainsEpoch history boot entries)
    {previous current : DockerSnapshot} (hclock : ¬ UnusableClock history current)
    {changes : List StatusChange}
    (hchanges : ∀ change ∈ changes, change ∈ changesBetween
      (observedContainerInventory previous) (observedContainerInventory current)) :
    RetainsEpoch
      (changes.foldl (pushChange current.lastUpdated)
        { history with
          lastObservedAtMs := some current.lastUpdated
          baseline := some (observedContainerInventory current) }) boot
      (retain maxObservedChangeEvents
        (entries ++ numberedEvents boot.text current.lastUpdated history.nextSequence changes)) := by
  have hlength : history.events.length ≤ maxObservedChangeEvents := by
    rw [h.events, List.length_map]
    exact h.capped
  have hpush := ObservedHistoryCache.foldl_pushChange current.lastUpdated
    { history with
      lastObservedAtMs := some current.lastUpdated
      baseline := some (observedContainerInventory current) } hlength changes
  dsimp only at hpush
  have hsafe : current.lastUpdated ≤ maxSafeJsInteger := not_lt.1 fun hlt => hclock (Or.inl hlt)
  have hlast : ∀ last ∈ history.lastObservedAtMs, last ≤ current.lastUpdated := fun last hlast =>
    not_lt.1 fun hlt => hclock (Or.inr ⟨last, hlast, hlt⟩)
  set added := numberedEvents boot.text current.lastUpdated history.nextSequence changes with hadded
  have hnew : ∀ entry ∈ added, history.nextSequence < entry.1 ∧
      entry.1 ≤ history.nextSequence + changes.length ∧
      ∃ change ∈ changes, entry.2 = changeEvent boot.text current.lastUpdated entry.1 change :=
    fun entry hentry => mem_numberedEvents _ _ _ _ hentry
  rw [hpush]
  refine ⟨h.epoch, ?_, BoundedLog.length_retain_le _ _, ?_, ?_, ?_⟩
  · change retain maxObservedChangeEvents (history.events ++
      changeEvents history.boot current.lastUpdated history.nextSequence changes) = _
    rw [h.epoch, h.events, ← numberedEvents_events, ← List.map_append, retain, retain,
      List.map_drop, List.length_map]
  · intro entry hentry
    rcases List.mem_append.1 ((BoundedLog.retain_suffix _ _).subset hentry) with hold | hadd
    · exact (h.retained entry hold).later (Nat.le_add_right _ _) rfl hlast
    · obtain ⟨hlow, hhigh, change, hchange, hevent⟩ := hnew entry hadd
      exact retained_new (Nat.zero_lt_of_lt hlow) hhigh rfl hsafe (hchanges change hchange) hevent
  · refine List.Pairwise.sublist (BoundedLog.retain_suffix _ _).sublist ?_
    refine List.pairwise_append.2 ⟨h.ordered, numberedEvents_ordered _ _ _ _, ?_⟩
    intro older holder newer hnewer
    obtain ⟨hlow, -, change, -, hevent⟩ := hnew newer hnewer
    obtain ⟨last, hmem, hle⟩ := (h.retained older holder).observed
    refine ⟨(h.retained older holder).numbered.trans_lt hlow, ?_⟩
    rw [hevent]
    exact hle.trans (hlast last hmem)
  · intro inventory hinventory
    exact ⟨current, (Option.some.inj hinventory).symm⟩

theorem retainsEpoch_observe {history : ObservedHistoryCache} {boot : BootToken}
    {entries : List Numbered} (h : RetainsEpoch history boot entries) (freshBoot : BootToken)
    (snapshot : DockerSnapshot) :
    ∃ boot entries,
      RetainsEpoch (history.observePublishedSnapshot freshBoot snapshot) boot entries := by
  by_cases hclock : UnusableClock history snapshot
  · rw [ObservedHistoryCache.observe_of_unusable freshBoot hclock]
    exact ⟨freshBoot, [], retainsEpoch_fresh freshBoot fun inventory hinventory =>
      ⟨snapshot, (Option.some.inj hinventory).symm⟩⟩
  · rw [ObservedHistoryCache.observe_of_usable freshBoot hclock]
    cases hbaseline : history.baseline with
    | none =>
      have hnone : ∀ change ∈ ([] : List StatusChange), change ∈ changesBetween
          (observedContainerInventory snapshot) (observedContainerInventory snapshot) :=
        fun _ hchange => absurd hchange List.not_mem_nil
      exact ⟨boot, _, retainsEpoch_push h hclock hnone⟩
    | some inventory =>
      obtain ⟨previous, rfl⟩ := h.baseline inventory hbaseline
      exact ⟨boot, _, retainsEpoch_push h hclock fun change hchange => hchange⟩

/-! Responses -/

/-- The three counters a response shows, in 64 bits. -/
structure CountersFit (cache : DaemonCache) : Prop where
  history : cache.observedHistory.nextSequence < counterBound
  model : cache.revision.sequence < counterBound
  docker : cache.dockerObservationRevision.sequence < counterBound

instance (cache : DaemonCache) : Decidable (CountersFit cache) :=
  decidable_of_iff
    (cache.observedHistory.nextSequence < counterBound ∧ cache.revision.sequence < counterBound ∧
      cache.dockerObservationRevision.sequence < counterBound)
    ⟨fun ⟨history, model, docker⟩ => ⟨history, model, docker⟩,
      fun h => ⟨h.history, h.model, h.docker⟩⟩

structure Admissible (response : ObservedChangeHistoryResponse) : Prop where
  capped : response.events.length ≤ maxObservedChangeEvents
  epoch : ∃ (boot : BootToken) (sequences : List ℕ),
    response.events.map ObservedChangeEvent.id = sequences.map (ChangeToken.text boot.text) ∧
      sequences.Pairwise (· > ·)
  times : (response.events.map ObservedChangeEvent.observedAtMs).Pairwise (· ≥ ·)
  distinct : (response.events.map ObservedChangeEvent.id).Nodup
  coherent : ∀ event ∈ response.events, event.coherentTransition = true
  deserialized : response.deserialize = .ok response
  node : Api.hasCoherentObservedHistory (encode response) = true
  browser : Web.validEvents (encode response.events) = true
  published : ∀ toLowerCase, LowersByTable toLowerCase →
    Api.publishApiPayload toLowerCase (encode response) = encode response

theorem publish_encode_response {toLowerCase : String → String}
    (htable : LowersByTable toLowerCase) {response : ObservedChangeHistoryResponse}
    (hcurrent : ∀ revision ∈ response.currentModelRevision, isPlain revision = true)
    (hobserved : ∀ revision ∈ response.observedRevision, isPlain revision = true)
    (hevents : ∀ event ∈ response.events,
      Api.publishApiPayload toLowerCase (encode event) = encode event) :
    Api.publishApiPayload toLowerCase (encode response) = encode response := by
  have hmode : ∀ mode : RuntimeMode, isPlain mode.wireName = true := by
    intro mode
    cases mode <;> decide +kernel
  have hsource : Api.publishApiPayload toLowerCase (encode response.source) =
      encode response.source := publish_name htable (hmode response.source)
  have hrevision : ∀ revision : Option String, (∀ text ∈ revision, isPlain text = true) →
      Api.publishApiPayload toLowerCase (Json.nullable revision) = Json.nullable revision := by
    intro revision hplain
    cases revision with
    | none => rfl
    | some text => exact publish_name htable (hplain text rfl)
  have hitems : Api.publishApiPayload toLowerCase (encode response.events) =
      encode response.events := by
    change Api.publishApiPayload toLowerCase (.arr (response.events.map encode)) =
      .arr (response.events.map encode)
    rw [Api.publishApiPayload, publishItems_eq_map, List.map_map]
    exact congrArg Json.arr (List.map_congr_left hevents)
  refine (publish_record htable ["source", "baselineEstablished", "currentModelRevision",
    "observedRevision", "events"] rfl (by decide +kernel) (by decide)).trans ?_
  simp only [List.map_cons, List.map_nil, Option.map_some, hsource, hrevision _ hcurrent,
    hrevision _ hobserved, hitems]
  rfl

/-- Without a Docker source there is nothing to tell. -/
theorem admissible_mock (history : ObservedHistoryCache)
    (currentModelRevision observedRevision : String) :
    Admissible (history.response .mock currentModelRevision observedRevision) where
  capped := Nat.zero_le _
  epoch := ⟨⟨"00000000000000000000000000000000", by decide⟩, [], rfl, List.Pairwise.nil⟩
  times := List.Pairwise.nil
  distinct := List.nodup_nil
  coherent _ h := nomatch h
  deserialized := rfl
  node := rfl
  browser := rfl
  published _ htable := publish_encode_response htable (fun _ h => nomatch h)
    (fun _ h => nomatch h) fun _ h => nomatch h

theorem admissible_docker {history : ObservedHistoryCache} {boot modelBoot dockerBoot : BootToken}
    {entries : List Numbered} {modelSequence dockerSequence : ℕ}
    (h : RetainsEpoch history boot entries) (hbaseline : history.baseline ≠ none)
    (hcounter : history.nextSequence < counterBound) (hmodel : modelSequence < counterBound)
    (hdocker : dockerSequence < counterBound) :
    Admissible (history.response .docker (ChangeToken.text modelBoot.text modelSequence)
      (ChangeToken.text dockerBoot.text dockerSequence)) := by
  have hresponse : history.response .docker (ChangeToken.text modelBoot.text modelSequence)
      (ChangeToken.text dockerBoot.text dockerSequence) =
      { source := .docker
        baselineEstablished := true
        currentModelRevision := some (ChangeToken.text modelBoot.text modelSequence)
        observedRevision := some (ChangeToken.text dockerBoot.text dockerSequence)
        events := entries.reverse.map Prod.snd } := by
    rw [ObservedHistoryCache.response, if_neg (by simp [hbaseline]), h.events, List.map_reverse]
  have hordered : entries.reverse.Pairwise fun newer older => Earlier older newer :=
    List.pairwise_reverse.2 h.ordered
  have hadmits : ∀ entry ∈ entries.reverse, Admits boot entry := by
    intro entry hentry
    have hretained := h.retained entry (List.mem_reverse.1 hentry)
    exact ⟨hretained.id, hretained.positive, hretained.numbered.trans_lt hcounter,
      hretained.safe, hretained.container, hretained.coherent⟩
  have hcapped : (entries.reverse.map Prod.snd).length ≤ maxObservedChangeEvents := by
    rw [List.length_map, List.length_reverse]
    exact h.capped
  have hids : (entries.reverse.map Prod.snd).map ObservedChangeEvent.id =
      (entries.reverse.map Prod.fst).map (ChangeToken.text boot.text) := by
    rw [List.map_map, List.map_map]
    exact List.map_congr_left fun entry hentry => (hadmits entry hentry).id
  have hdecreasing : (entries.reverse.map Prod.fst).Pairwise (· > ·) :=
    List.pairwise_map.2 (hordered.imp fun hearlier => hearlier.1)
  have hencoded : (entries.reverse.map Prod.snd).map encode =
      entries.reverse.map fun entry => encode entry.2 := by
    rw [List.map_map]
    rfl
  obtain ⟨hmodelText, hmodelLength⟩ := token_fits modelBoot hmodel
  obtain ⟨hdockerText, hdockerLength⟩ := token_fits dockerBoot hdocker
  rw [hresponse]
  refine ⟨hcapped, ⟨boot, _, hids, hdecreasing⟩, ?_, ?_, ?_, ?_, ?_, ?_, ?_⟩
  · rw [List.map_map]
    exact List.pairwise_map.2 (hordered.imp fun hearlier => hearlier.2)
  · rw [hids]
    exact List.Nodup.map (ChangeToken.text_injective boot.text) (hdecreasing.imp fun hlt => hlt.ne')
  · intro event hevent
    obtain ⟨entry, hentry, rfl⟩ := List.mem_map.1 hevent
    exact (hadmits entry hentry).coherent
  · have hevents := checkEvents_ok none [] hadmits hordered (precedes_start boot _)
    have hcoherent : ObservedChangeHistoryResponse.sourceCoherent
        { source := .docker
          baselineEstablished := true
          currentModelRevision := some (ChangeToken.text modelBoot.text modelSequence)
          observedRevision := some (ChangeToken.text dockerBoot.text dockerSequence)
          events := entries.reverse.map Prod.snd } = true := by
      simp [ObservedChangeHistoryResponse.sourceCoherent,
        ObservedChangeHistoryResponse.revisionsPresent, hmodelText, hmodelLength, hdockerText,
        hdockerLength]
    rw [ObservedChangeHistoryResponse.deserialize]
    dsimp only
    rw [mapM_tryFrom hadmits]
    change ObservedChangeHistoryResponse.tryFrom _ = _
    rw [ObservedChangeHistoryResponse.tryFrom, hcoherent]
    dsimp only
    have hroom : ¬ 64 < (entries.reverse.map Prod.snd).length := not_lt.2 hcapped
    rw [if_neg (by decide), if_neg hroom, hevents]
    rfl
  · have hevents := hasCoherentEvents_encode hadmits hordered (precedes_start boot _)
    rw [← hencoded] at hevents
    have hmodelField : Api.isNonEmptyText
        (some (.str (ChangeToken.text modelBoot.text modelSequence))) = true :=
      decide_eq_true hmodelText
    have hdockerField : Api.isNonEmptyText
        (some (.str (ChangeToken.text dockerBoot.text dockerSequence))) = true :=
      decide_eq_true hdockerText
    change (true && (
      Api.isNonEmptyText (some (.str (ChangeToken.text modelBoot.text modelSequence))) &&
        Api.isNonEmptyText (some (.str (ChangeToken.text dockerBoot.text dockerSequence))) &&
          Api.hasCoherentEvents {} ((entries.reverse.map Prod.snd).map encode))) = true
    rw [hmodelField, hdockerField, hevents]
    rfl
  · have hevents := validCandidates_encode hadmits hordered (precedes_start boot _)
    rw [← hencoded] at hevents
    change (decide (((entries.reverse.map Prod.snd).map encode).length ≤ 64) &&
      Web.validCandidates {} _) = true
    rw [hevents, Bool.and_true, List.length_map]
    exact decide_eq_true hcapped
  · intro toLowerCase htable
    refine publish_encode_response htable ?_ ?_ ?_
    · rintro _ ⟨⟩
      exact isPlain_token modelBoot modelSequence
    · rintro _ ⟨⟩
      exact isPlain_token dockerBoot dockerSequence
    · intro event hevent
      obtain ⟨entry, hentry, rfl⟩ := List.mem_map.1 hevent
      exact publish_encode_event htable (hadmits entry hentry)

/-! The revision of the Docker observation -/

/-- A step assigns the Docker revision once or leaves it. -/
def AssignsOnce (before after : DockerObservationRevision) : Prop :=
  after = before ∨ ∃ observable, after = before.assign observable

theorem dockerRevision_publish (cache updated : DaemonCache) (boots : PublicationBoots) :
    AssignsOnce cache.dockerObservationRevision
      (publishDockerSnapshotCache cache updated boots).dockerObservationRevision := by
  refine Or.inr ⟨dockerObservable updated.snapshot updated.mode, ?_⟩
  simp only [publishDockerSnapshotCache]
  unfold DaemonCache.observeHistory
  split_ifs <;> rfl

theorem dockerRevision_claim (cache : DaemonCache) (now activeWorkers : ℕ)
    (wall : ProviderSlot → Option ℕ) :
    AssignsOnce cache.dockerObservationRevision
      (claimDueProviderSlots cache now activeWorkers wall).dockerObservationRevision := by
  simp only [claimDueProviderSlots]
  split_ifs
  · exact Or.inl rfl
  · exact Or.inr ⟨dockerObservable cache.snapshot cache.mode, rfl⟩

theorem dockerRevision_apply (processBoot : BootToken) (cache : DaemonCache) (slot : ProviderSlot)
    (observed : Observed) (outcome : ProviderCollectionOutcome) (completedMs : Option ℕ)
    (completedAt : ℕ) :
    AssignsOnce cache.dockerObservationRevision
      (applyProviderSlotOutcome processBoot cache slot observed outcome completedMs
        completedAt).dockerObservationRevision := by
  unfold applyProviderSlotOutcome
  split_ifs
  · exact Or.inr ⟨dockerObservable cache.snapshot cache.mode, rfl⟩
  · exact Or.inl rfl

theorem dockerRevision_step {processBoot : BootToken} {s s' : AppState} {e : Event}
    (h : step processBoot s e = some s') :
    AssignsOnce s.cache.dockerObservationRevision s'.cache.dockerObservationRevision := by
  cases e with
  | publish read now boots publication =>
    obtain ⟨-, rfl⟩ := step_publish h
    exact dockerRevision_publish ..
  | refreshClaim now wall =>
    obtain ⟨observed, publishedAt, -, -, -, rfl⟩ := step_refreshClaim h
    exact dockerRevision_claim ..
  | start i =>
    obtain ⟨task, -, -, rfl⟩ := step_start h
    unfold startStep
    split_ifs <;> exact Or.inl rfl
  | finish i result =>
    obtain ⟨task, startedAt, -, -, rfl⟩ := step_finish h
    exact Or.inl rfl
  | timeout i =>
    obtain ⟨task, startedAt, -, -, rfl⟩ := step_timeout h
    exact Or.inl rfl
  | unwind slot =>
    obtain ⟨-, rfl⟩ := step_unwind h
    exact Or.inl rfl
  | apply i completedAt completedMs =>
    obtain ⟨task, outcome, readyAt, -, -, -, -, rfl⟩ := step_apply h
    exact dockerRevision_apply ..
  | followUpClaim i now wall =>
    obtain ⟨task, snapshot, appliedAt, -, -, -, -, rfl⟩ := step_followUpClaim h
    exact dockerRevision_claim ..
  | followUpSpawn i =>
    obtain ⟨task, snapshot, due, -, -, rfl⟩ := step_followUpSpawn h
    exact Or.inl rfl
  | tick elapsed =>
    obtain rfl := step_tick h
    exact Or.inl rfl

theorem dockerRevision_boot {before after : DockerObservationRevision}
    (h : AssignsOnce before after) : after.boot = before.boot := by
  rcases h with rfl | ⟨observable, rfl⟩
  · rfl
  · exact ChangeToken.assign_boot _ _

theorem dockerRevision_sequence {before after : DockerObservationRevision}
    (h : AssignsOnce before after) : after.sequence ≤ before.sequence + 1 := by
  rcases h with rfl | ⟨observable, rfl⟩
  · exact Nat.le_succ _
  · exact ChangeToken.assign_sequence_le _ _

/-- Both revisions advance at most once a step. -/
theorem revisions_le_length {processBoot : BootToken} {es : List Event} {s s' : AppState}
    (hrun : Steps (step processBoot) anyStep s es s') (hcarries : CarriesRevision s.cache) :
    s'.cache.revision.sequence ≤ s.cache.revision.sequence + es.length ∧
      s'.cache.dockerObservationRevision.sequence ≤
        s.cache.dockerObservationRevision.sequence + es.length := by
  induction hrun with
  | nil => exact ⟨le_refl _, le_refl _⟩
  | @snoc mid last es e hrun _ hstep ih =>
    have hmodel : last.cache.revision.sequence ≤ mid.cache.revision.sequence + 1 := by
      rw [(republished_step hstep (carriesRevision_run hrun hcarries)).revision]
      exact ChangeToken.assign_sequence_le _ _
    have hdocker := dockerRevision_sequence (dockerRevision_step hstep)
    rw [List.length_append, List.length_singleton]
    omega

/-! Runs -/

theorem baseline_observe (history : ObservedHistoryCache) (freshBoot : BootToken)
    (snapshot : DockerSnapshot) :
    (history.observePublishedSnapshot freshBoot snapshot).baseline =
      some (observedContainerInventory snapshot) := by
  have hpushes : ∀ (changes : List StatusChange) (history : ObservedHistoryCache),
      (changes.foldl (pushChange snapshot.lastUpdated) history).baseline = history.baseline := by
    intro changes
    induction changes with
    | nil => exact fun _ => rfl
    | cons change changes ih => exact fun history => ih (history.pushChange _ change)
  by_cases hclock : UnusableClock history snapshot
  · rw [ObservedHistoryCache.observe_of_unusable freshBoot hclock]
  · rw [ObservedHistoryCache.observe_of_usable freshBoot hclock]
    exact hpushes _ _

structure HistoryInv (cache : DaemonCache) : Prop where
  retains : ∃ boot entries, RetainsEpoch cache.observedHistory boot entries
  baseline : cache.mode = .docker → cache.observedHistory.baseline ≠ none
  docker : ∃ boot : BootToken, cache.dockerObservationRevision.boot = boot.text

theorem historyInv_publish {cache : DaemonCache} (h : HistoryInv cache) (updated : DaemonCache)
    (boots : PublicationBoots) : HistoryInv (publishDockerSnapshotCache cache updated boots) := by
  have hhistory := observedHistory_publish cache updated boots
  dsimp only at hhistory
  have hstart : ∃ boot entries, RetainsEpoch (if cache.mode = updated.mode then
      cache.observedHistory else { boot := boots.newSource.text }) boot entries := by
    split_ifs
    · exact h.retains
    · exact ⟨boots.newSource, [], retainsEpoch_fresh boots.newSource fun _ h => nomatch h⟩
  obtain ⟨boot, entries, hstart⟩ := hstart
  refine ⟨?_, fun hmode => ?_, ?_⟩
  · rw [hhistory]
    by_cases hdocker : updated.mode = .docker
    · rw [if_pos hdocker]
      exact retainsEpoch_observe hstart boots.newEpoch (observedSnapshot updated.snapshot)
    · rw [if_neg hdocker]
      exact ⟨boot, entries, hstart⟩
  · rw [DaemonCache.publish_mode] at hmode
    rw [hhistory, if_pos hmode, baseline_observe]
    exact Option.some_ne_none _
  · obtain ⟨dockerBoot, hboot⟩ := h.docker
    exact ⟨dockerBoot, (dockerRevision_boot (dockerRevision_publish cache updated boots)).trans hboot⟩

theorem historyInv_step {processBoot : BootToken} {s s' : AppState} {e : Event}
    (h : step processBoot s e = some s') (hinv : HistoryInv s.cache) : HistoryInv s'.cache := by
  rcases observedHistory_step h with ⟨updated, boots, -, hcache⟩ | ⟨-, hhistory, hmode⟩
  · rw [hcache]
    exact historyInv_publish hinv updated boots
  · obtain ⟨dockerBoot, hboot⟩ := hinv.docker
    refine ⟨?_, ?_, dockerBoot, (dockerRevision_boot (dockerRevision_step h)).trans hboot⟩
    · rw [hhistory]
      exact hinv.retains
    · rw [hhistory, hmode]
      exact hinv.baseline

theorem historyInv_new (processBoot : BootToken) (boots : CacheBoots) (now : ℕ) :
    HistoryInv (AppState.new processBoot boots now).cache where
  retains := ⟨boots.history, [], retainsEpoch_fresh boots.history fun _ h => nomatch h⟩
  baseline h := nomatch h
  docker := ⟨boots.docker, ChangeToken.assign_boot _ _⟩

/-- After any run the observed history is admissible, while its counters fit. -/
theorem observed_history_admissible {processBoot : BootToken} {boots : CacheBoots} {now : ℕ}
    {es : List Event} {s : AppState}
    (hrun : Steps (step processBoot) anyStep (AppState.new processBoot boots now) es s)
    (hcounters : CountersFit s.cache) : Admissible s.cache.observedHistoryResponse := by
  have hinv : HistoryInv s.cache := hrun.invariant (I := fun s => HistoryInv s.cache)
    (fun _ _ _ _ hstep hinv => historyInv_step hstep hinv) (historyInv_new processBoot boots now)
  have hnew := @carriesRevision_new processBoot boots now
  have hcarries := carriesRevision_run hrun hnew
  have hboot : s.cache.revision.boot = processBoot.text := by
    rw [(extends_run hrun hnew).boot]
    exact ChangeToken.assign_boot _ _
  obtain ⟨boot, entries, hretains⟩ := hinv.retains
  obtain ⟨dockerBoot, hdockerBoot⟩ := hinv.docker
  rw [DaemonCache.observedHistoryResponse, hcarries.snapshot, DaemonCache.dockerObservationToken,
    ChangeToken.current, ChangeToken.current, hboot, hdockerBoot]
  cases hmode : s.cache.mode with
  | mock => exact admissible_mock ..
  | docker =>
    exact admissible_docker hretains (hinv.baseline hmode) hcounters.history hcounters.model
      hcounters.docker

/-- One container is seen and gone again. -/
def disappearance : List Event :=
  [publishContainer 0, .refreshClaim 0 fun _ => some 0, publishEmpty 2000]

theorem disappearance_counted :
    ((run (step sampleBoot) anyStep (AppState.new sampleBoot sampleBoots 0) disappearance).map
      fun s => s.cache.observedHistory.nextSequence) = some 1 := by
  decide +kernel

theorem observed_history_admissible_disappearance :
    ∃ s, Steps (step sampleBoot) anyStep (AppState.new sampleBoot sampleBoots 0) disappearance s ∧
      s.cache.observedHistory.nextSequence = 1 ∧ Admissible s.cache.observedHistoryResponse := by
  obtain ⟨s, hrun, hsequence⟩ := Option.map_eq_some_iff.1 disappearance_counted
  have hsteps := Steps.of_run hrun
  have hnew := @carriesRevision_new sampleBoot sampleBoots 0
  obtain ⟨hmodel, hdocker⟩ := revisions_le_length hsteps hnew
  have hfirst : (AppState.new sampleBoot sampleBoots 0).cache.revision.sequence ≤ 1 :=
    ChangeToken.assign_sequence_le _ _
  have hfirstDocker :
      (AppState.new sampleBoot sampleBoots 0).cache.dockerObservationRevision.sequence ≤ 1 :=
    ChangeToken.assign_sequence_le _ _
  have hlength : disappearance.length = 3 := rfl
  rw [hlength] at hmodel hdocker
  refine ⟨s, hsteps, hsequence, observed_history_admissible hsteps ⟨?_, ?_, ?_⟩⟩
  · rw [hsequence]
    decide
  · exact (hmodel.trans (Nat.add_le_add_right hfirst 3)).trans_lt (by decide)
  · exact (hdocker.trans (Nat.add_le_add_right hfirstDocker 3)).trans_lt (by decide)

end DockerMap
