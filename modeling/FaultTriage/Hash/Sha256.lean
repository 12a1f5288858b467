/-!
# SHA-256

The message is padded to blocks of sixteen 32-bit words; every block is extended to a schedule of
sixty-four words, which the compression function mixes into the chaining state.
-/

set_option autoImplicit false

namespace FaultTriage.Sha256

def rotateRight (word : UInt32) (amount : UInt32) : UInt32 :=
  (word >>> amount) ||| (word <<< (32 - amount))

def roundConstants : List UInt32 := [
  0x428a2f98, 0x71374491, 0xb5c0fbcf, 0xe9b5dba5, 0x3956c25b, 0x59f111f1, 0x923f82a4, 0xab1c5ed5,
  0xd807aa98, 0x12835b01, 0x243185be, 0x550c7dc3, 0x72be5d74, 0x80deb1fe, 0x9bdc06a7, 0xc19bf174,
  0xe49b69c1, 0xefbe4786, 0x0fc19dc6, 0x240ca1cc, 0x2de92c6f, 0x4a7484aa, 0x5cb0a9dc, 0x76f988da,
  0x983e5152, 0xa831c66d, 0xb00327c8, 0xbf597fc7, 0xc6e00bf3, 0xd5a79147, 0x06ca6351, 0x14292967,
  0x27b70a85, 0x2e1b2138, 0x4d2c6dfc, 0x53380d13, 0x650a7354, 0x766a0abb, 0x81c2c92e, 0x92722c85,
  0xa2bfe8a1, 0xa81a664b, 0xc24b8b70, 0xc76c51a3, 0xd192e819, 0xd6990624, 0xf40e3585, 0x106aa070,
  0x19a4c116, 0x1e376c08, 0x2748774c, 0x34b0bcb5, 0x391c0cb3, 0x4ed8aa4a, 0x5b9cca4f, 0x682e6ff3,
  0x748f82ee, 0x78a5636f, 0x84c87814, 0x8cc70208, 0x90befffa, 0xa4506ceb, 0xbef9a3f7, 0xc67178f2]

structure Chain where
  a : UInt32
  b : UInt32
  c : UInt32
  d : UInt32
  e : UInt32
  f : UInt32
  g : UInt32
  h : UInt32

def Chain.initial : Chain :=
  ⟨0x6a09e667, 0xbb67ae85, 0x3c6ef372, 0xa54ff53a, 0x510e527f, 0x9b05688c, 0x1f83d9ab, 0x5be0cd19⟩

def Chain.words (chain : Chain) : List UInt32 :=
  [chain.a, chain.b, chain.c, chain.d, chain.e, chain.f, chain.g, chain.h]

def Chain.add (left right : Chain) : Chain :=
  ⟨left.a + right.a, left.b + right.b, left.c + right.c, left.d + right.d, left.e + right.e,
    left.f + right.f, left.g + right.g, left.h + right.h⟩

/-- Continues a schedule: gives `count` words, of which `window` holds the next sixteen. -/
def scheduleFrom : Nat → List UInt32 → List UInt32
  | 0, _ => []
  | _ + 1, [] => []
  | count + 1, first :: window =>
      let near := window.getD 13 0
      let far := window.getD 0 0
      let mixedNear := rotateRight near 17 ^^^ rotateRight near 19 ^^^ (near >>> 10)
      let mixedFar := rotateRight far 7 ^^^ rotateRight far 18 ^^^ (far >>> 3)
      let next := mixedNear + window.getD 8 0 + mixedFar + first
      first :: scheduleFrom count (window ++ [next])

def round (chain : Chain) (constant word : UInt32) : Chain :=
  let mixedE := rotateRight chain.e 6 ^^^ rotateRight chain.e 11 ^^^ rotateRight chain.e 25
  let choice := (chain.e &&& chain.f) ^^^ (~~~ chain.e &&& chain.g)
  let first := chain.h + mixedE + choice + constant + word
  let mixedA := rotateRight chain.a 2 ^^^ rotateRight chain.a 13 ^^^ rotateRight chain.a 22
  let majority := (chain.a &&& chain.b) ^^^ (chain.a &&& chain.c) ^^^ (chain.b &&& chain.c)
  ⟨first + (mixedA + majority), chain.a, chain.b, chain.c, chain.d + first, chain.e, chain.f,
    chain.g⟩

def compress (chain : Chain) (block : List UInt32) : Chain :=
  let rounds := roundConstants.zip (scheduleFrom 64 block)
  chain.add (rounds.foldl (fun state pair => round state pair.1 pair.2) chain)

def groups {α : Type} (size : Nat) : Nat → List α → List (List α)
  | 0, _ => []
  | count + 1, elements => elements.take size :: groups size count (elements.drop size)

def wordOfBytes (bytes : List UInt8) : UInt32 :=
  bytes.foldl (fun word byte => (word <<< 8) ||| byte.toUInt32) 0

def lengthBytes (value : Nat) : List UInt8 :=
  (List.range 8).map fun index => UInt8.ofNat (value >>> (8 * (7 - index)))

/-- The message, a one bit, zeros, and the message length in bits: a whole number of blocks. -/
def pad (message : List UInt8) : List UInt8 :=
  let zeros := (119 - message.length % 64) % 64
  message ++ 0x80 :: (List.replicate zeros 0 ++ lengthBytes (8 * message.length))

def digest (message : List UInt8) : List UInt32 :=
  let padded := pad message
  let words := (groups 4 (padded.length / 4) padded).map wordOfBytes
  ((groups 16 (words.length / 16) words).foldl compress Chain.initial).words

end FaultTriage.Sha256
