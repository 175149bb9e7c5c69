/-
# The digest SHA-256

The message is padded to whole blocks of sixty-four bytes; each block is stretched to
sixty-four words and mixed into a state of eight words.
-/
import SessionTasks.Text.Digits
namespace SessionTasks.Sha256

/-! ## Constants -/

/-- The state before the first block. -/
def initial : List UInt32 :=
  [0x6a09e667, 0xbb67ae85, 0x3c6ef372, 0xa54ff53a, 0x510e527f, 0x9b05688c, 0x1f83d9ab, 0x5be0cd19]

/-- The constants of the sixty-four rounds. -/
def roundConstants : List UInt32 :=
  [0x428a2f98, 0x71374491, 0xb5c0fbcf, 0xe9b5dba5, 0x3956c25b, 0x59f111f1, 0x923f82a4, 0xab1c5ed5,
   0xd807aa98, 0x12835b01, 0x243185be, 0x550c7dc3, 0x72be5d74, 0x80deb1fe, 0x9bdc06a7, 0xc19bf174,
   0xe49b69c1, 0xefbe4786, 0x0fc19dc6, 0x240ca1cc, 0x2de92c6f, 0x4a7484aa, 0x5cb0a9dc, 0x76f988da,
   0x983e5152, 0xa831c66d, 0xb00327c8, 0xbf597fc7, 0xc6e00bf3, 0xd5a79147, 0x06ca6351, 0x14292967,
   0x27b70a85, 0x2e1b2138, 0x4d2c6dfc, 0x53380d13, 0x650a7354, 0x766a0abb, 0x81c2c92e, 0x92722c85,
   0xa2bfe8a1, 0xa81a664b, 0xc24b8b70, 0xc76c51a3, 0xd192e819, 0xd6990624, 0xf40e3585, 0x106aa070,
   0x19a4c116, 0x1e376c08, 0x2748774c, 0x34b0bcb5, 0x391c0cb3, 0x4ed8aa4a, 0x5b9cca4f, 0x682e6ff3,
   0x748f82ee, 0x78a5636f, 0x84c87814, 0x8cc70208, 0x90befffa, 0xa4506ceb, 0xbef9a3f7, 0xc67178f2]

/-! ## Padding -/

/-- The lowest `width` bytes of a number, highest first. -/
def bytes : (width : Nat) → Nat → List UInt8
  | 0, _ => []
  | width + 1, n => bytes width (n / 256) ++ [UInt8.ofNat n]

/-- The message, a mark, zeros, and the length of the message in bits. -/
def pad (message : List UInt8) : List UInt8 :=
  let zeros := (119 - message.length % 64) % 64
  message ++ 0x80 :: List.replicate zeros 0 ++ bytes 8 (message.length * 8)

/-! ## Mixing -/

/-- The bits of a word, moved right around. -/
def rotate (x : UInt32) (n : UInt32) : UInt32 := (x >>> n) ||| (x <<< (32 - n))

/-- Four bytes at a time, highest first. -/
def words : List UInt8 → List UInt32
  | a :: b :: c :: d :: rest =>
    ((a.toUInt32 <<< 24) ||| (b.toUInt32 <<< 16) ||| (c.toUInt32 <<< 8) ||| d.toUInt32)
      :: words rest
  | _ => []

/-- The next word of the schedule, from the last sixteen, newest first. -/
def nextWord (recent : List UInt32) : UInt32 :=
  let back (n : Nat) := recent.getD (n - 1) 0
  let a := back 15
  let b := back 2
  let small := rotate a 7 ^^^ rotate a 18 ^^^ (a >>> 3)
  let large := rotate b 17 ^^^ rotate b 19 ^^^ (b >>> 10)
  back 16 + small + back 7 + large

/-- Adds `n` words to a schedule that is kept newest first. -/
def extend : (n : Nat) → List UInt32 → List UInt32
  | 0, schedule => schedule
  | n + 1, schedule => extend n (nextWord schedule :: schedule)

/-- One round, with a constant and a word of the schedule. -/
def round (state : List UInt32) (input : UInt32 × UInt32) : List UInt32 :=
  match state with
  | [a, b, c, d, e, f, g, h] =>
    let high := rotate e 6 ^^^ rotate e 11 ^^^ rotate e 25
    let choice := (e &&& f) ^^^ (~~~e &&& g)
    let one := h + high + choice + input.1 + input.2
    let low := rotate a 2 ^^^ rotate a 13 ^^^ rotate a 22
    let majority := (a &&& b) ^^^ (a &&& c) ^^^ (b &&& c)
    [one + low + majority, a, b, c, d + one, e, f, g]
  | _ => state

/-- Mixes a block of sixteen words into the state. -/
def mix (state block : List UInt32) : List UInt32 :=
  let schedule := (extend 48 block.reverse).reverse
  state.zipWith (· + ·) ((roundConstants.zip schedule).foldl round state)

/-- Mixes the first `n` blocks of the words into the state. -/
def mixBlocks : (n : Nat) → (state words : List UInt32) → List UInt32
  | 0, state, _ => state
  | n + 1, state, words => mixBlocks n (mix state (words.take 16)) (words.drop 16)

/-- The eight words of the digest. -/
def digest (message : List UInt8) : List UInt32 :=
  let all := words (pad message)
  mixBlocks (all.length / 16) initial all

/-- The digest as sixty-four hexadecimal digits. -/
def hexDigest (message : List UInt8) : List Char :=
  (digest message).flatMap fun word => Text.hex 8 word.toNat

end SessionTasks.Sha256
