import Steward.Text.Decimal

/-!
# SHA-256

The digest of FIPS 180-4.  A message is padded to whole blocks of sixteen
words, each block is spread over sixty-four words, and each of those turns the
eight words of the state once.
-/

namespace Steward.Sha256

/-- The constants of the sixty-four turns. -/
def roundConstants : List UInt32 := [
  0x428a2f98, 0x71374491, 0xb5c0fbcf, 0xe9b5dba5, 0x3956c25b, 0x59f111f1, 0x923f82a4, 0xab1c5ed5,
  0xd807aa98, 0x12835b01, 0x243185be, 0x550c7dc3, 0x72be5d74, 0x80deb1fe, 0x9bdc06a7, 0xc19bf174,
  0xe49b69c1, 0xefbe4786, 0x0fc19dc6, 0x240ca1cc, 0x2de92c6f, 0x4a7484aa, 0x5cb0a9dc, 0x76f988da,
  0x983e5152, 0xa831c66d, 0xb00327c8, 0xbf597fc7, 0xc6e00bf3, 0xd5a79147, 0x06ca6351, 0x14292967,
  0x27b70a85, 0x2e1b2138, 0x4d2c6dfc, 0x53380d13, 0x650a7354, 0x766a0abb, 0x81c2c92e, 0x92722c85,
  0xa2bfe8a1, 0xa81a664b, 0xc24b8b70, 0xc76c51a3, 0xd192e819, 0xd6990624, 0xf40e3585, 0x106aa070,
  0x19a4c116, 0x1e376c08, 0x2748774c, 0x34b0bcb5, 0x391c0cb3, 0x4ed8aa4a, 0x5b9cca4f, 0x682e6ff3,
  0x748f82ee, 0x78a5636f, 0x84c87814, 0x8cc70208, 0x90befffa, 0xa4506ceb, 0xbef9a3f7, 0xc67178f2]

/-- The eight words that are turned. -/
structure State where
  a : UInt32
  b : UInt32
  c : UInt32
  d : UInt32
  e : UInt32
  f : UInt32
  g : UInt32
  h : UInt32

/-- The words before the first block. -/
def State.initial : State :=
  ⟨0x6a09e667, 0xbb67ae85, 0x3c6ef372, 0xa54ff53a, 0x510e527f, 0x9b05688c, 0x1f83d9ab, 0x5be0cd19⟩

/-- A word with its bits moved `n` places to the right in a circle. -/
def rotate (n word : UInt32) : UInt32 :=
  (word >>> n) ||| (word <<< (32 - n))

/-- One turn, given its constant and its word of the block. -/
def State.turn (state : State) (constant word : UInt32) : State :=
  let s1 := rotate 6 state.e ^^^ rotate 11 state.e ^^^ rotate 25 state.e
  let choice := (state.e &&& state.f) ^^^ (~~~state.e &&& state.g)
  let t1 := state.h + s1 + choice + constant + word
  let s0 := rotate 2 state.a ^^^ rotate 13 state.a ^^^ rotate 22 state.a
  let majority := (state.a &&& state.b) ^^^ (state.a &&& state.c) ^^^ (state.b &&& state.c)
  ⟨t1 + (s0 + majority), state.a, state.b, state.c, state.d + t1, state.e, state.f, state.g⟩

/-- The words added place by place. -/
def State.add (x y : State) : State :=
  ⟨x.a + y.a, x.b + y.b, x.c + y.c, x.d + y.d, x.e + y.e, x.f + y.f, x.g + y.g, x.h + y.h⟩

def State.words (state : State) : List UInt32 :=
  [state.a, state.b, state.c, state.d, state.e, state.f, state.g, state.h]

/-- One more word of a spread block. -/
def extend (words : Array UInt32) : Array UInt32 :=
  let back (n : Nat) : UInt32 := words.getD (words.size - n) 0
  let near := back 2
  let far := back 15
  let s1 := rotate 17 near ^^^ rotate 19 near ^^^ (near >>> 10)
  let s0 := rotate 7 far ^^^ rotate 18 far ^^^ (far >>> 3)
  words.push (back 16 + s0 + back 7 + s1)

/-- The sixty-four words of a block of sixteen. -/
def spread (block : List UInt32) : List UInt32 :=
  (Nat.repeat extend 48 block.toArray).toList

/-- The state after a block. -/
def absorb (state : State) (block : List UInt32) : State :=
  state.add ((roundConstants.zip (spread block)).foldl
    (fun turned (constant, word) => turned.turn constant word) state)

/-- The bytes of a number, the highest first, in a field of the given width. -/
def bytesOf : (width n : Nat) → List UInt8
  | 0, _ => []
  | width + 1, n => bytesOf width (n / 256) ++ [UInt8.ofNat (n % 256)]

/-- A message with a one bit, zeros up to a whole block, and its length in bits. -/
def pad (message : List UInt8) : List UInt8 :=
  let length := message.length
  message ++ 0x80 :: List.replicate ((119 - length % 64) % 64) 0 ++ bytesOf 8 (8 * length)

/-- Bytes taken together in fours as words. -/
def wordsOf : List UInt8 → List UInt32
  | a :: b :: c :: d :: rest =>
    (a.toUInt32 <<< 24 ||| b.toUInt32 <<< 16 ||| c.toUInt32 <<< 8 ||| d.toUInt32) :: wordsOf rest
  | _ => []

/-- The state after a sequence of words, block by block; `blocks` bounds their number. -/
def absorbAll : (blocks : Nat) → State → List UInt32 → State
  | 0, state, _ => state
  | blocks + 1, state, words =>
    if words.isEmpty then state
    else absorbAll blocks (absorb state (words.take 16)) (words.drop 16)

/-- The digest of a message, as eight words. -/
def digest (message : ByteArray) : List UInt32 :=
  let words := wordsOf (pad message.data.toList)
  (absorbAll (words.length / 16) State.initial words).words

/-- The digest of a message in hexadecimal digits. -/
def hexDigest (message : ByteArray) : String :=
  String.join ((digest message).map (fun word => Text.hex 8 word.toNat))

end Steward.Sha256
