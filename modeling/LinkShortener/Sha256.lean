import LinkShortener.Text.Hex
import LinkShortener.Text.Utf8

/-!
# SHA-256

The secure hash of the standard FIPS 180-4: a message is padded to blocks of sixteen words, and each
block is mixed into a state of eight words in sixty-four rounds.
-/

namespace LinkShortener.Sha256

/-- The words added in the sixty-four rounds. -/
def roundConstants : List UInt32 := [
  0x428a2f98, 0x71374491, 0xb5c0fbcf, 0xe9b5dba5, 0x3956c25b, 0x59f111f1, 0x923f82a4, 0xab1c5ed5,
  0xd807aa98, 0x12835b01, 0x243185be, 0x550c7dc3, 0x72be5d74, 0x80deb1fe, 0x9bdc06a7, 0xc19bf174,
  0xe49b69c1, 0xefbe4786, 0x0fc19dc6, 0x240ca1cc, 0x2de92c6f, 0x4a7484aa, 0x5cb0a9dc, 0x76f988da,
  0x983e5152, 0xa831c66d, 0xb00327c8, 0xbf597fc7, 0xc6e00bf3, 0xd5a79147, 0x06ca6351, 0x14292967,
  0x27b70a85, 0x2e1b2138, 0x4d2c6dfc, 0x53380d13, 0x650a7354, 0x766a0abb, 0x81c2c92e, 0x92722c85,
  0xa2bfe8a1, 0xa81a664b, 0xc24b8b70, 0xc76c51a3, 0xd192e819, 0xd6990624, 0xf40e3585, 0x106aa070,
  0x19a4c116, 0x1e376c08, 0x2748774c, 0x34b0bcb5, 0x391c0cb3, 0x4ed8aa4a, 0x5b9cca4f, 0x682e6ff3,
  0x748f82ee, 0x78a5636f, 0x84c87814, 0x8cc70208, 0x90befffa, 0xa4506ceb, 0xbef9a3f7, 0xc67178f2]

/-- The eight words that are mixed. -/
structure State where
  a : UInt32
  b : UInt32
  c : UInt32
  d : UInt32
  e : UInt32
  f : UInt32
  g : UInt32
  h : UInt32

def State.first : State where
  a := 0x6a09e667
  b := 0xbb67ae85
  c := 0x3c6ef372
  d := 0xa54ff53a
  e := 0x510e527f
  f := 0x9b05688c
  g := 0x1f83d9ab
  h := 0x5be0cd19

def rotate (word amount : UInt32) : UInt32 :=
  (word >>> amount) ||| (word <<< (32 - amount))

/-- One round with the word of the schedule and the constant of that round already added. -/
def State.round (state : State) (added : UInt32) : State :=
  let mixed := rotate state.e 6 ^^^ rotate state.e 11 ^^^ rotate state.e 25
  let choice := (state.e &&& state.f) ^^^ (~~~ state.e &&& state.g)
  let first := state.h + mixed + choice + added
  let spread := rotate state.a 2 ^^^ rotate state.a 13 ^^^ rotate state.a 22
  let majority := (state.a &&& state.b) ^^^ (state.a &&& state.c) ^^^ (state.b &&& state.c)
  { a := first + spread + majority, b := state.a, c := state.b, d := state.c
    e := state.d + first, f := state.e, g := state.f, h := state.g }

/-- Adds two states word by word. -/
def State.plus (first second : State) : State where
  a := first.a + second.a
  b := first.b + second.b
  c := first.c + second.c
  d := first.d + second.d
  e := first.e + second.e
  f := first.f + second.f
  g := first.g + second.g
  h := first.h + second.h

/-- A word from four bytes, high byte first. -/
def wordOfBytes (bytes : List UInt8) : UInt32 :=
  bytes.foldl (fun word byte => (word <<< 8) ||| byte.toUInt32) 0

/-- Four bytes of a word, high byte first. -/
def bytesOfWord (word : UInt32) : List UInt8 :=
  [(word >>> 24).toUInt8, (word >>> 16).toUInt8, (word >>> 8).toUInt8, word.toUInt8]

/-- The next word of the schedule, from the sixteen before it, the latest first. -/
def nextWord (latest : Array UInt32) : UInt32 :=
  let back (distance : Nat) : UInt32 := latest[latest.size - distance]?.getD 0
  let near := back 2
  let far := back 15
  (rotate near 17 ^^^ rotate near 19 ^^^ (near >>> 10)) + back 7 +
    (rotate far 7 ^^^ rotate far 18 ^^^ (far >>> 3)) + back 16

def schedule (block : List UInt8) : Array UInt32 :=
  let start := (List.range 16).map fun place => wordOfBytes ((block.drop (4 * place)).take 4)
  (List.range 48).foldl (fun words _ => words.push (nextWord words)) start.toArray

/-- Mixes one block of sixty-four bytes into the state. -/
def State.absorb (state : State) (block : List UInt8) : State :=
  let added := List.zipWith (· + ·) (schedule block).toList roundConstants
  state.plus (added.foldl State.round state)

/-- The message, a one bit, zeros up to a whole block, and the length of the message in bits. -/
def pad (message : List UInt8) : List UInt8 :=
  let zeros := (119 - message.length % 64) % 64
  let bits := 8 * message.length
  let lengthBytes := (List.range 8).map fun place => UInt8.ofNat (bits >>> (8 * (7 - place)))
  message ++ 0x80 :: List.replicate zeros 0 ++ lengthBytes

/-- Cuts bytes into the given number of blocks. -/
def blocks : Nat → List UInt8 → List (List UInt8)
  | 0, _ => []
  | count + 1, bytes => bytes.take 64 :: blocks count (bytes.drop 64)

/-- The thirty-two bytes of the hash. -/
def digest (message : List UInt8) : List UInt8 :=
  let padded := pad message
  let final := (blocks (padded.length / 64) padded).foldl State.absorb State.first
  [final.a, final.b, final.c, final.d, final.e, final.f, final.g, final.h].flatMap bytesOfWord

/-- The hash of a text in hexadecimal digits. -/
def ofText (text : String) : String :=
  Text.hexOfBytes (digest (Text.encodeUtf8 text))

end LinkShortener.Sha256
