import DockerMap.Api.FindingIdentity
import DockerMap.Core.SnapshotRuntime
import Mathlib.Data.List.TakeWhile

/-! The identity component of the two languages is one function, and it keeps its values apart
wherever it stands in an id. -/

namespace DockerMap

open JavaScript (codeUnits codePoints unitsOf)
open Sha256 (NoCollision)

/-! The slug -/

theorem isSlugCharacter_iff (c : Char) : isSlugCharacter c = true ↔
    ((0x41 ≤ c.toNat ∧ c.toNat ≤ 0x5A) ∨ (0x61 ≤ c.toNat ∧ c.toNat ≤ 0x7A) ∨
      (0x30 ≤ c.toNat ∧ c.toNat ≤ 0x39)) ∨ c.toNat = 0x2D ∨ c.toNat = 0x5F ∨
      c.toNat = 0x2E := by
  have hchar (d : Char) : (c == d) = true ↔ c.toNat = d.toNat := by
    rw [beq_iff_eq, Char.toNat_inj]
  simp only [isSlugCharacter, Bool.or_eq_true, Text.isAlphanum_iff, hchar, or_assoc]
  exact Iff.rfl

theorem isReadable_unitsOf (c : Char) : Api.isReadable (unitsOf c) = isSlugCharacter c := by
  rw [Bool.eq_iff_iff, isSlugCharacter_iff]
  rcases JavaScript.unitsOf_cases c with ⟨heq, -, -⟩ | ⟨lead, trail, heq, -, -, hvalue⟩
  · simp only [heq, Api.isReadable, Bool.or_eq_true, Bool.and_eq_true, decide_eq_true_eq,
      beq_iff_eq]
    omega
  · simp only [heq, Api.isReadable, Bool.false_eq_true, false_iff]
    omega

theorem unitsOf_of_isSlugCharacter {c : Char} (h : isSlugCharacter c = true) :
    unitsOf c = [c.toNat] := by
  rw [isSlugCharacter_iff] at h
  exact JavaScript.unitsOf_eq_singleton (by omega)

theorem slugUnits_unitsOf (emittedSeparator : Bool) (text : List Char) :
    Api.slugUnits emittedSeparator (text.map unitsOf) =
      (slugCharacters emittedSeparator text).map Char.toNat := by
  induction text generalizing emittedSeparator with
  | nil => rfl
  | cons c text ih =>
    rw [List.map_cons, Api.slugUnits, slugCharacters, isReadable_unitsOf]
    by_cases hreadable : isSlugCharacter c = true
    · rw [if_pos hreadable, if_pos hreadable, unitsOf_of_isSlugCharacter hreadable, ih]
      rfl
    · rw [if_neg hreadable, if_neg hreadable]
      cases emittedSeparator with
      | true => exact ih true
      | false => exact congrArg (0x2D :: ·) (ih true)

/-- Cutting off the trailing dashes from the front or from the back is the same. -/
theorem replaceTrailing_eq (units : List ℕ) :
    Api.replaceTrailing units = (units.reverse.dropWhile (· == 0x2D)).reverse := by
  induction units with
  | nil => rfl
  | cons unit units ih =>
    rw [Api.replaceTrailing, List.reverse_cons, List.dropWhile_append]
    by_cases hrest : units.all (· == 0x2D) = true
    · have hnil : units.reverse.dropWhile (· == 0x2D) = [] := by
        rw [List.dropWhile_eq_nil_iff]
        intro x hx
        exact List.all_eq_true.1 hrest x (List.mem_reverse.1 hx)
      have htail : Api.replaceTrailing units = [] := by rw [ih, hnil, List.reverse_nil]
      rw [hnil, List.isEmpty_nil, if_pos rfl, List.all_cons, hrest, Bool.and_true, htail]
      cases hunit : unit == 0x2D with
      | true => simp [hunit]
      | false => simp [hunit]
    · have hne : (units.reverse.dropWhile (· == 0x2D)).isEmpty = false := by
        rw [← Bool.not_eq_true, List.isEmpty_iff, List.dropWhile_eq_nil_iff]
        intro hall
        exact hrest (List.all_eq_true.2 fun x hx => hall x (List.mem_reverse.2 hx))
      rw [List.all_cons, if_neg (by simp [hrest]), hne, if_neg Bool.false_ne_true,
        List.reverse_append, ih]
      rfl

theorem dropWhile_map_toNat (l : List Char) :
    (l.map Char.toNat).dropWhile (· == 0x2D) = (l.dropWhile (· == '-')).map Char.toNat := by
  have hdash : (fun unit : ℕ => unit == 0x2D) ∘ Char.toNat = fun c => c == '-' := by
    funext c
    rw [Bool.eq_iff_iff, Function.comp_apply, beq_iff_eq, beq_iff_eq, ← Char.toNat_inj]
    rfl
  rw [List.dropWhile_map, hdash]

theorem trimSlug_map_toNat (slug : List Char) :
    Api.trimSlug (slug.map Char.toNat) = (trimDashes slug).map Char.toNat := by
  rw [Api.trimSlug, trimDashes, dropWhile_map_toNat, replaceTrailing_eq, ← List.map_reverse,
    dropWhile_map_toNat, List.map_reverse]

theorem slug_agrees (value : String) :
    Api.trimSlug (Api.slugUnits false (codePoints (codeUnits value))) =
      (trimDashes (slugCharacters false value.toList)).map Char.toNat := by
  rw [JavaScript.codePoints_codeUnits, slugUnits_unitsOf, trimSlug_map_toNat]

/-! ASCII -/

theorem ascii_of_mem_slugCharacters {emittedSeparator : Bool} {text : List Char} {c : Char}
    (h : c ∈ slugCharacters emittedSeparator text) : c.toNat < 0x10000 := by
  induction text generalizing emittedSeparator with
  | nil => cases h
  | cons d text ih =>
    rw [slugCharacters] at h
    split_ifs at h with hreadable hseparator
    · rcases List.mem_cons.1 h with rfl | h
      · rw [isSlugCharacter_iff] at hreadable
        omega
      · exact ih h
    · exact ih h
    · rcases List.mem_cons.1 h with rfl | h
      · decide
      · exact ih h

theorem mem_of_mem_trimDashes {slug : List Char} {c : Char} (h : c ∈ trimDashes slug) :
    c ∈ slug := by
  have hback := (List.dropWhile_sublist _).mem (List.mem_reverse.1 h)
  exact (List.dropWhile_sublist _).mem (List.mem_reverse.1 hback)

theorem ascii_of_mem_readableSlug {value : String} {c : Char} (h : c ∈ readableSlug value) :
    c.toNat < 0x10000 := by
  unfold readableSlug at h
  dsimp only at h
  split_ifs at h
  · revert c
    decide
  · exact ascii_of_mem_slugCharacters (mem_of_mem_trimDashes (List.mem_of_mem_take h))

theorem codeUnits_hex (value : String) :
    codeUnits (Sha256.hex value) = Api.sha256Hex (codeUnits value) := by
  have hascii : ∀ c ∈ (Sha256.hex value).toList, c.toNat < 0x10000 := by
    intro c hc
    obtain ⟨d, hd, rfl⟩ := Sha256.mem_hex hc
    have hdigits : ∀ d < 16, (Nat.digitChar d).toNat < 0x10000 := by decide
    exact hdigits d hd
  have hlist := JavaScript.codeUnits_ofList hascii
  rw [String.ofList_toList] at hlist
  rw [hlist, Api.sha256Hex, JavaScript.scalars_codeUnits, Sha256.hex, String.toList_ofList]

theorem codeUnits_append (a b : String) : codeUnits (a ++ b) = codeUnits a ++ codeUnits b := by
  rw [codeUnits, String.toList_append, List.flatMap_append]
  rfl

/-- The readable part of the two is cut at the same place. -/
theorem readable_agrees (value : String) :
    codeUnits (String.ofList (readableSlug value)) =
      (if (trimDashes (slugCharacters false value.toList)).map Char.toNat = [] then
        codeUnits "identity"
      else (trimDashes (slugCharacters false value.toList)).map Char.toNat).take 48 := by
  rw [JavaScript.codeUnits_ofList fun _ => ascii_of_mem_readableSlug, readableSlug]
  by_cases hempty : trimDashes (slugCharacters false value.toList) = []
  · rw [if_pos hempty, hempty]
    rfl
  · have hmap : (trimDashes (slugCharacters false value.toList)).map Char.toNat ≠ [] := by
      rwa [ne_eq, List.map_eq_nil_iff]
    rw [if_neg hempty, if_neg hmap, List.map_take]

theorem component_agrees (value : String) :
    Api.collisionResistantIdComponent (codeUnits value) =
      codeUnits (collisionResistantIdComponent value) := by
  rw [Api.collisionResistantIdComponent, collisionResistantIdComponent, codeUnits_append,
    codeUnits_append, codeUnits_hex, readable_agrees, slug_agrees]

/-! Ids of two components -/

theorem append_two_components_inj {base separator a a' b b' : String}
    (hsha : NoCollision [a, a', b, b'])
    (h : base ++ collisionResistantIdComponent a ++ separator ++ collisionResistantIdComponent b =
      base ++ collisionResistantIdComponent a' ++ separator ++
        collisionResistantIdComponent b') : a = a' ∧ b = b' := by
  obtain ⟨hfront, hb⟩ := append_component_inj hsha (by simp) (by simp) h
  have ha := append_component_inj hsha (by simp) (by simp) ((String.append_left_inj _).1 hfront)
  exact ⟨ha.2, hb⟩

/-- A component tells its value, an id of two components both of them, and the API computes the
component that the core computes. -/
theorem identity_components :
    (∀ a b, NoCollision [a, b] →
      collisionResistantIdComponent a = collisionResistantIdComponent b → a = b) ∧
    (∀ base separator a a' b b', NoCollision [a, a', b, b'] →
      base ++ collisionResistantIdComponent a ++ separator ++ collisionResistantIdComponent b =
        base ++ collisionResistantIdComponent a' ++ separator ++
          collisionResistantIdComponent b' → a = a' ∧ b = b') ∧
    (∀ (container container' : ContainerRecord) (port port' : String),
      NoCollision [container.id, container'.id, port, port'] →
      listenerId container port = listenerId container' port' →
        container.id = container'.id ∧ port = port') ∧
    ∀ value, Api.collisionResistantIdComponent (codeUnits value) =
      codeUnits (collisionResistantIdComponent value) := by
  refine ⟨?_, ?_, ?_, component_agrees⟩
  · intro a b hsha h
    have hempty : "" ++ collisionResistantIdComponent a = "" ++ collisionResistantIdComponent b := by
      rw [h]
    exact (append_component_inj hsha (by simp) (by simp) hempty).2
  · intro base separator a a' b b' hsha h
    exact append_two_components_inj hsha h
  · intro container container' port port' hsha h
    exact append_two_components_inj hsha h

/-- Two values of one slug, and their ids. -/
theorem one_slug_two_components : readableSlug "web app" = readableSlug "web/app" ∧
    collisionResistantIdComponent "web app" ≠ collisionResistantIdComponent "web/app" := by
  refine ⟨by decide, fun h => ?_⟩
  exact absurd (identity_components.1 "web app" "web/app" (by decide +kernel) h) (by decide)

end DockerMap
