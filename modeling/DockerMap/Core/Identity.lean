import DockerMap.Core.Models
import DockerMap.Lib.Sha256

/-! Stable, collision-resistant topology identifiers. -/

namespace DockerMap

def isSlugCharacter (character : Char) : Bool :=
  character.isAlphanum || character == '-' || character == '_' || character == '.'

/-- The slug loop; the flag is `emitted_separator`. -/
def slugCharacters : Bool → List Char → List Char
  | _, [] => []
  | emittedSeparator, character :: rest =>
      if isSlugCharacter character then character :: slugCharacters false rest
      else if emittedSeparator then slugCharacters true rest
      else '-' :: slugCharacters true rest

def trimDashes (slug : List Char) : List Char :=
  ((slug.dropWhile (· == '-')).reverse.dropWhile (· == '-')).reverse

def readableSlug (value : String) : List Char :=
  let slug := trimDashes (slugCharacters false value.toList)
  if slug = [] then "identity".toList else slug.take 48

/-- A readable slug and the digest of the untouched value. -/
def collisionResistantIdComponent (value : String) : String :=
  String.ofList (readableSlug value) ++ "--" ++ Sha256.hex value

/-- The separator of the parts of a composite identity. -/
def unitSeparator : String := "\x1F"

def pairIdentity (source target : String) : String :=
  collisionResistantIdComponent (source ++ unitSeparator ++ target)

theorem toList_append_component (base value : String) :
    (base ++ collisionResistantIdComponent value).toList =
      (base.toList ++ readableSlug value ++ ['-', '-']) ++ (Sha256.hex value).toList := by
  simp only [collisionResistantIdComponent, String.toList_append, String.toList_ofList,
    List.append_assoc]
  rfl

/-- An id ends with the digest of the value, whatever stands before. -/
theorem hex_eq_of_append_component {base base' value value' : String}
    (h : base ++ collisionResistantIdComponent value =
      base' ++ collisionResistantIdComponent value') : Sha256.hex value = Sha256.hex value' := by
  have hlist := congrArg String.toList h
  rw [toList_append_component, toList_append_component] at hlist
  exact String.toList_injective (List.append_inj_right' hlist
    (by rw [Sha256.length_hex, Sha256.length_hex]))

theorem append_component_inj {texts : List String} (hsha : Sha256.NoCollision texts)
    {base base' value value' : String} (hvalue : value ∈ texts) (hvalue' : value' ∈ texts)
    (h : base ++ collisionResistantIdComponent value =
      base' ++ collisionResistantIdComponent value') : base = base' ∧ value = value' := by
  obtain rfl := hsha _ hvalue _ hvalue' (hex_eq_of_append_component h)
  exact ⟨String.append_left_inj _ |>.1 h, rfl⟩

end DockerMap
