import DockerMap.Daemon.DisplayText
import DockerMap.Lib.TextSearch

/-! URLs that carry credentials. The detector reads the authority after the first `://` of a
text and no other. -/

namespace DockerMap

open Text (afterFirst)

/-- No character that ends an authority. -/
def InAuthority (part : List Char) : Prop := ∀ c ∈ part, c ∉ ['/', '?', '#']

instance (part : List Char) : Decidable (InAuthority part) :=
  inferInstanceAs (Decidable (∀ c ∈ part, c ∉ ['/', '?', '#']))

/-- `scheme://user@host` stands somewhere in the text. -/
def HasCredentialedUrl (text : List Char) : Prop :=
  ∃ before user after, text = before ++ "://".toList ++ user ++ '@' :: after ∧ InAuthority user

/-- The URL with the first `://` of the text names a user. -/
def FirstUrlNamesUser (text : List Char) : Prop :=
  ∃ before user after, text = before ++ "://".toList ++ user ++ '@' :: after ∧ InAuthority user ∧
    ¬ "://".toList <:+: before ++ ":/".toList

/-- Another detector takes the text for sensitive. -/
def isOtherwiseSensitive (value : List Char) : Bool :=
  let lower := Text.asciiLower value
  Text.contains lower "dockermap_test_fake_".toList || containsSensitiveAssignment lower ||
    containsSensitiveFlag lower || containsAuthScheme lower

theorem isSensitiveText_eq (value : List Char) :
    isSensitiveText value = (containsUrlUserinfo value || isOtherwiseSensitive value) := by
  rw [isSensitiveText, isOtherwiseSensitive]
  simp only [Bool.or_assoc, Bool.or_left_comm]

theorem contains_takeWhile_iff {authority : List Char} :
    (authority.takeWhile fun c => c ≠ '/' && c ≠ '?' && c ≠ '#').contains '@' = true ↔
      ∃ user after, authority = user ++ '@' :: after ∧ InAuthority user := by
  have hpart (c : Char) : (c ≠ '/' && c ≠ '?' && c ≠ '#') = true ↔ c ∉ ['/', '?', '#'] := by
    simp [and_assoc]
  rw [List.contains_eq_mem, decide_eq_true_eq]
  constructor
  · intro h
    obtain ⟨user, rest, hsplit⟩ := List.append_of_mem h
    have hall : ∀ c ∈ user, c ∉ ['/', '?', '#'] := by
      intro c hc
      have hmem : c ∈ authority.takeWhile fun c => c ≠ '/' && c ≠ '?' && c ≠ '#' := by
        rw [hsplit]
        exact List.mem_append_left _ hc
      have hkept := List.mem_takeWhile_imp hmem
      exact (hpart c).1 hkept
    refine ⟨user, rest ++ authority.dropWhile fun c => c ≠ '/' && c ≠ '?' && c ≠ '#', ?_, hall⟩
    have hwhole := List.takeWhile_append_dropWhile
      (p := fun c : Char => c ≠ '/' && c ≠ '?' && c ≠ '#') (l := authority)
    rw [hsplit, List.append_assoc, List.cons_append] at hwhole
    exact hwhole.symm
  · rintro ⟨user, after, rfl, huser⟩
    rw [List.takeWhile_append_of_pos fun c hc => (hpart c).2 (huser c hc),
      List.takeWhile_cons_of_pos (by decide)]
    exact List.mem_append_right user List.mem_cons_self

theorem containsUrlUserinfo_iff {value : List Char} :
    containsUrlUserinfo value = true ↔ FirstUrlNamesUser value := by
  have hdropLast : "://".toList.dropLast = ":/".toList := by decide
  have hne : "://".toList ≠ [] := by decide
  rw [containsUrlUserinfo]
  constructor
  · intro h
    cases hfirst : afterFirst "://".toList value with
    | none =>
      rw [hfirst] at h
      cases h
    | some authority =>
      rw [hfirst] at h
      obtain ⟨before, rfl, hnone⟩ := (Text.afterFirst_eq_some hne).1 hfirst
      obtain ⟨user, after, rfl, huser⟩ := contains_takeWhile_iff.1 h
      rw [hdropLast] at hnone
      exact ⟨before, user, after, (List.append_assoc _ _ _).symm, huser, hnone⟩
  · rintro ⟨before, user, after, rfl, huser, hnone⟩
    rw [List.append_assoc, (Text.afterFirst_eq_some hne).2 ⟨before, rfl, hdropLast ▸ hnone⟩]
    exact contains_takeWhile_iff.2 ⟨user, after, rfl, huser⟩

/-- A text that is not sensitive and holds a URL is not the marker itself. -/
theorem ne_redactedValue {value : String} (h : HasCredentialedUrl value.toList) :
    value ≠ redactedValue := by
  obtain ⟨before, user, after, htext, -⟩ := h
  have hat : '@' ∈ value.toList := by
    rw [htext]
    exact List.mem_append_right _ List.mem_cons_self
  intro hmarker
  rw [hmarker] at hat
  exact absurd hat (by decide)

/-- A URL with credentials is redacted exactly when it is the first of the text, or another
detector finds the text sensitive. -/
theorem redactSensitiveText_eq_iff {value : String} (h : HasCredentialedUrl value.toList) :
    redactSensitiveText value = redactedValue ↔
      FirstUrlNamesUser value.toList ∨ isOtherwiseSensitive value.toList = true := by
  rw [redactSensitiveText, ← containsUrlUserinfo_iff, ← Bool.or_eq_true, ← isSensitiveText_eq]
  constructor
  · intro hredacted
    split_ifs at hredacted with hsensitive
    · exact hsensitive
    · exact absurd hredacted (ne_redactedValue h)
  · exact fun hsensitive => if_pos hsensitive

theorem redactSensitiveText_eq_first :
    redactSensitiveText "GET https://user:pw@host/path" = redactedValue ↔
      FirstUrlNamesUser "GET https://user:pw@host/path".toList ∨
        isOtherwiseSensitive "GET https://user:pw@host/path".toList = true :=
  redactSensitiveText_eq_iff ⟨"GET https".toList, "user:pw".toList, "host/path".toList, by decide,
    by decide⟩

/-- A second URL keeps its password. -/
theorem second_url_published : ¬ ∀ value : String, HasCredentialedUrl value.toList →
    redactSensitiveText value = redactedValue := by
  intro h
  exact absurd (h "http://proxy/ http://user:pw@host" ⟨"http://proxy/ http".toList,
    "user:pw".toList, "host".toList, by decide, by decide⟩) (by decide)

end DockerMap
