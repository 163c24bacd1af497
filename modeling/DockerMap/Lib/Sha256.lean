import DockerMap.Lib.Text

/-! SHA-256 of a text, as lowercase hexadecimal. -/

namespace Sha256

abbrev Word := BitVec 32

def choose (x y z : Word) : Word := (x &&& y) ^^^ (~~~x &&& z)

def majority (x y z : Word) : Word := (x &&& y) ^^^ (x &&& z) ^^^ (y &&& z)

def bigSigma0 (x : Word) : Word := x.rotateRight 2 ^^^ x.rotateRight 13 ^^^ x.rotateRight 22

def bigSigma1 (x : Word) : Word := x.rotateRight 6 ^^^ x.rotateRight 11 ^^^ x.rotateRight 25

def smallSigma0 (x : Word) : Word := x.rotateRight 7 ^^^ x.rotateRight 18 ^^^ (x >>> 3)

def smallSigma1 (x : Word) : Word := x.rotateRight 17 ^^^ x.rotateRight 19 ^^^ (x >>> 10)

def roundConstants : List Word :=
  [
    0x428a2f98, 0x71374491, 0xb5c0fbcf, 0xe9b5dba5, 0x3956c25b, 0x59f111f1, 0x923f82a4, 0xab1c5ed5,
    0xd807aa98, 0x12835b01, 0x243185be, 0x550c7dc3, 0x72be5d74, 0x80deb1fe, 0x9bdc06a7, 0xc19bf174,
    0xe49b69c1, 0xefbe4786, 0x0fc19dc6, 0x240ca1cc, 0x2de92c6f, 0x4a7484aa, 0x5cb0a9dc, 0x76f988da,
    0x983e5152, 0xa831c66d, 0xb00327c8, 0xbf597fc7, 0xc6e00bf3, 0xd5a79147, 0x06ca6351, 0x14292967,
    0x27b70a85, 0x2e1b2138, 0x4d2c6dfc, 0x53380d13, 0x650a7354, 0x766a0abb, 0x81c2c92e, 0x92722c85,
    0xa2bfe8a1, 0xa81a664b, 0xc24b8b70, 0xc76c51a3, 0xd192e819, 0xd6990624, 0xf40e3585, 0x106aa070,
    0x19a4c116, 0x1e376c08, 0x2748774c, 0x34b0bcb5, 0x391c0cb3, 0x4ed8aa4a, 0x5b9cca4f, 0x682e6ff3,
    0x748f82ee, 0x78a5636f, 0x84c87814, 0x8cc70208, 0x90befffa, 0xa4506ceb, 0xbef9a3f7, 0xc67178f2]

structure State where
  (a b c d e f g h : Word)
  deriving DecidableEq

def State.initial : State :=
  ⟨0x6a09e667, 0xbb67ae85, 0x3c6ef372, 0xa54ff53a,
    0x510e527f, 0x9b05688c, 0x1f83d9ab, 0x5be0cd19⟩

def State.add (s t : State) : State :=
  ⟨s.a + t.a, s.b + t.b, s.c + t.c, s.d + t.d, s.e + t.e, s.f + t.f, s.g + t.g, s.h + t.h⟩

def State.words (s : State) : List Word := [s.a, s.b, s.c, s.d, s.e, s.f, s.g, s.h]

def State.round (s : State) (k w : Word) : State :=
  let t1 := s.h + bigSigma1 s.e + choose s.e s.f s.g + k + w
  let t2 := bigSigma0 s.a + majority s.a s.b s.c
  ⟨t1 + t2, s.a, s.b, s.c, s.d + t1, s.e, s.f, s.g⟩

/-- The message schedule as a window of the next sixteen words. -/
def nextWord (window : List Word) : Word :=
  smallSigma1 (window.getD 14 0) + window.getD 9 0 + smallSigma0 (window.getD 1 0) +
    window.getD 0 0

def rounds : List Word → List Word → State → State
  | [], _, s => s
  | k :: ks, window, s =>
      rounds ks (window.tail ++ [nextWord window]) (s.round k (window.getD 0 0))

def compress (s : State) (block : List Word) : State := s.add (rounds roundConstants block s)

def bigEndian (bytes : List UInt8) : ℕ := bytes.foldl (fun n b => n * 256 + b.toNat) 0

/-- The message, a one bit, zeros and the bit length, in full blocks. -/
def pad (bytes : List UInt8) : List UInt8 :=
  bytes ++ 0x80 :: List.replicate ((119 - bytes.length % 64) % 64) 0 ++
    (List.range 8).map fun i => UInt8.ofNat (bytes.length * 8 / 256 ^ (7 - i))

def chunks {α : Type*} (size : ℕ) : ℕ → List α → List (List α)
  | 0, _ => []
  | n + 1, l => l.take size :: chunks size n (l.drop size)

def blocks (bytes : List UInt8) : List (List Word) :=
  let padded := pad bytes
  (chunks 64 (padded.length / 64) padded).map fun block =>
    (chunks 4 16 block).map fun word => BitVec.ofNat 32 (bigEndian word)

def digest (bytes : List UInt8) : State := (blocks bytes).foldl compress State.initial

/-- The digest of the UTF-8 bytes. -/
def hex (value : String) : String :=
  String.ofList ((digest (value.toList.flatMap String.utf8EncodeChar)).words.flatMap
    fun word => Text.hexPadded 8 word.toNat)

example : hex "abc" = "ba7816bf8f01cfea414140de5dae2223b00361a396177a9cb410ff61f20015ad" := by
  decide +kernel

theorem length_hexPadded (word : Word) : (Text.hexPadded 8 word.toNat).length = 8 := by
  have hdigits : (Nat.digits 16 word.toNat).length ≤ 8 := by
    rw [Nat.digits_length_le_iff (by norm_num)]
    exact word.isLt
  rw [Text.hexPadded_eq_map]
  simp only [List.length_map, List.length_reverse, List.length_append, List.length_replicate]
  omega

theorem length_hex (value : String) : (hex value).toList.length = 64 := by
  unfold hex
  simp only [String.toList_ofList, State.words, List.flatMap_cons, List.flatMap_nil,
    List.length_append, length_hexPadded, List.length_nil]

theorem mem_hex {value : String} {c : Char} (h : c ∈ (hex value).toList) :
    ∃ d < 16, c = Nat.digitChar d := by
  rw [hex, String.toList_ofList] at h
  obtain ⟨word, -, hc⟩ := List.mem_flatMap.1 h
  rw [Text.hexPadded_eq_map] at hc
  obtain ⟨d, hd, rfl⟩ := List.mem_map.1 hc
  refine ⟨d, ?_, rfl⟩
  rcases List.mem_append.1 (List.mem_reverse.1 hd) with hd | hd
  · exact Nat.digits_lt_base (by norm_num) hd
  · rw [(List.mem_replicate.1 hd).2]
    norm_num

/-- No two of the texts share a digest. -/
def NoCollision (texts : List String) : Prop :=
  ∀ a ∈ texts, ∀ b ∈ texts, hex a = hex b → a = b

instance (texts : List String) : Decidable (NoCollision texts) :=
  inferInstanceAs (Decidable (∀ a ∈ texts, ∀ b ∈ texts, hex a = hex b → a = b))

theorem NoCollision.mono {texts more : List String} (h : NoCollision more)
    (hsub : texts ⊆ more) : NoCollision texts :=
  fun a ha b hb => h a (hsub ha) b (hsub hb)

end Sha256
