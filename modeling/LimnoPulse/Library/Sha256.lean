import Mathlib.Data.List.Basic

/-!
# The SHA-256 digest

An executable transcription of the standard digest on byte lists.  It is used
where a number is cut out of a digest; identifiers that are digests of their
content are modelled by that content instead.
-/

namespace Sha256

/-- The round constants. -/
def roundConstants : List UInt32 :=
  [0x428a2f98, 0x71374491, 0xb5c0fbcf, 0xe9b5dba5, 0x3956c25b, 0x59f111f1, 0x923f82a4, 0xab1c5ed5,
   0xd807aa98, 0x12835b01, 0x243185be, 0x550c7dc3, 0x72be5d74, 0x80deb1fe, 0x9bdc06a7, 0xc19bf174,
   0xe49b69c1, 0xefbe4786, 0x0fc19dc6, 0x240ca1cc, 0x2de92c6f, 0x4a7484aa, 0x5cb0a9dc, 0x76f988da,
   0x983e5152, 0xa831c66d, 0xb00327c8, 0xbf597fc7, 0xc6e00bf3, 0xd5a79147, 0x06ca6351, 0x14292967,
   0x27b70a85, 0x2e1b2138, 0x4d2c6dfc, 0x53380d13, 0x650a7354, 0x766a0abb, 0x81c2c92e, 0x92722c85,
   0xa2bfe8a1, 0xa81a664b, 0xc24b8b70, 0xc76c51a3, 0xd192e819, 0xd6990624, 0xf40e3585, 0x106aa070,
   0x19a4c116, 0x1e376c08, 0x2748774c, 0x34b0bcb5, 0x391c0cb3, 0x4ed8aa4a, 0x5b9cca4f, 0x682e6ff3,
   0x748f82ee, 0x78a5636f, 0x84c87814, 0x8cc70208, 0x90befffa, 0xa4506ceb, 0xbef9a3f7, 0xc67178f2]

/-- The eight working variables. -/
structure State where
  (a b c d e f g h : UInt32)

/-- The initial hash value. -/
def State.initial : State :=
  ⟨0x6a09e667, 0xbb67ae85, 0x3c6ef372, 0xa54ff53a, 0x510e527f, 0x9b05688c, 0x1f83d9ab, 0x5be0cd19⟩

/-- Rotate a word to the right. -/
def rotr (x : UInt32) (n : UInt32) : UInt32 := (x >>> n) ||| (x <<< (32 - n))

/-- One compression round on one schedule word and one constant. -/
def State.round (s : State) (w k : UInt32) : State :=
  let bigS1 := rotr s.e 6 ^^^ rotr s.e 11 ^^^ rotr s.e 25
  let choose := (s.e &&& s.f) ^^^ ((~~~ s.e) &&& s.g)
  let t1 := s.h + bigS1 + choose + k + w
  let bigS0 := rotr s.a 2 ^^^ rotr s.a 13 ^^^ rotr s.a 22
  let majority := (s.a &&& s.b) ^^^ (s.a &&& s.c) ^^^ (s.b &&& s.c)
  ⟨t1 + (bigS0 + majority), s.a, s.b, s.c, s.d + t1, s.e, s.f, s.g⟩

/-- Extend the schedule by `n` words; it is held newest word first. -/
def extendSchedule : Nat → List UInt32 → List UInt32
  | 0, words => words
  | n + 1, words =>
    let w15 := words.getD 14 0
    let w2 := words.getD 1 0
    let s0 := rotr w15 7 ^^^ rotr w15 18 ^^^ (w15 >>> 3)
    let s1 := rotr w2 17 ^^^ rotr w2 19 ^^^ (w2 >>> 10)
    extendSchedule n ((words.getD 15 0 + s0 + words.getD 6 0 + s1) :: words)

/-- Compress one block of sixteen words. -/
def State.compress (s : State) (block : List UInt32) : State :=
  let schedule := (extendSchedule 48 block.reverse).reverse
  let t := (schedule.zip roundConstants).foldl (fun t (w, k) => t.round w k) s
  ⟨s.a + t.a, s.b + t.b, s.c + t.c, s.d + t.d, s.e + t.e, s.f + t.f, s.g + t.g, s.h + t.h⟩

/-- The last `count` bytes of a number, most significant first. -/
def bigEndian (count n : Nat) : List UInt8 :=
  (List.range count).reverse.map fun i => UInt8.ofNat (n >>> (8 * i))

/-- Append the end mark, the zero padding and the bit length. -/
def pad (message : List UInt8) : List UInt8 :=
  let zeros := (119 - message.length % 64) % 64
  message ++ 0x80 :: List.replicate zeros 0 ++ bigEndian 8 (8 * message.length)

/-- Read four bytes as a word. -/
def word : List UInt8 → UInt32
  | [b3, b2, b1, b0] => b3.toUInt32 <<< 24 ||| b2.toUInt32 <<< 16 ||| b1.toUInt32 <<< 8 ||| b0.toUInt32
  | _ => 0

/-- The digest of a byte string. -/
def digest (message : List UInt8) : List UInt8 :=
  let blocks := ((pad message).toChunks 4 |>.map word).toChunks 16
  let s := blocks.foldl State.compress State.initial
  [s.a, s.b, s.c, s.d, s.e, s.f, s.g, s.h].flatMap fun w => bigEndian 4 w.toNat

end Sha256
