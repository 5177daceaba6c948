import BankLedger.Text.Octets

/-!
# SHA-256

The digest of a message is a state of eight words, into which blocks of sixteen words are compressed
one after the other.  The message is padded to whole blocks, and its length is part of the padding.
-/

namespace BankLedger.Digest.Sha256

/-- The eight words that blocks are compressed into. -/
structure State where
  a : UInt32
  b : UInt32
  c : UInt32
  d : UInt32
  e : UInt32
  f : UInt32
  g : UInt32
  h : UInt32

/-- The state before the first block. -/
def initial : State :=
  ⟨0x6a09e667, 0xbb67ae85, 0x3c6ef372, 0xa54ff53a, 0x510e527f, 0x9b05688c, 0x1f83d9ab, 0x5be0cd19⟩

/-- The constants of the sixty-four rounds. -/
def constants : Array UInt32 :=
  #[0x428a2f98, 0x71374491, 0xb5c0fbcf, 0xe9b5dba5, 0x3956c25b, 0x59f111f1, 0x923f82a4, 0xab1c5ed5,
    0xd807aa98, 0x12835b01, 0x243185be, 0x550c7dc3, 0x72be5d74, 0x80deb1fe, 0x9bdc06a7, 0xc19bf174,
    0xe49b69c1, 0xefbe4786, 0x0fc19dc6, 0x240ca1cc, 0x2de92c6f, 0x4a7484aa, 0x5cb0a9dc, 0x76f988da,
    0x983e5152, 0xa831c66d, 0xb00327c8, 0xbf597fc7, 0xc6e00bf3, 0xd5a79147, 0x06ca6351, 0x14292967,
    0x27b70a85, 0x2e1b2138, 0x4d2c6dfc, 0x53380d13, 0x650a7354, 0x766a0abb, 0x81c2c92e, 0x92722c85,
    0xa2bfe8a1, 0xa81a664b, 0xc24b8b70, 0xc76c51a3, 0xd192e819, 0xd6990624, 0xf40e3585, 0x106aa070,
    0x19a4c116, 0x1e376c08, 0x2748774c, 0x34b0bcb5, 0x391c0cb3, 0x4ed8aa4a, 0x5b9cca4f, 0x682e6ff3,
    0x748f82ee, 0x78a5636f, 0x84c87814, 0x8cc70208, 0x90befffa, 0xa4506ceb, 0xbef9a3f7, 0xc67178f2]

/-- A word with its bits moved right, those that leave coming back on the left. -/
def rotateRight (count word : UInt32) : UInt32 :=
  (word >>> count) ||| (word <<< (32 - count))

/-- Three rotations of a word combined. -/
def mix (first second third word : UInt32) : UInt32 :=
  rotateRight first word ^^^ rotateRight second word ^^^ rotateRight third word

/-- Two rotations and a shift of a word combined. -/
def smear (first second shift word : UInt32) : UInt32 :=
  rotateRight first word ^^^ rotateRight second word ^^^ (word >>> shift)

/-- A schedule with its next word, which is made of four earlier ones. -/
def extend (words : Array UInt32) : Array UInt32 :=
  let earlier (distance : Nat) : UInt32 := words.getD (words.size - distance) 0
  words.push
    (smear 17 19 10 (earlier 2) + earlier 7 + smear 7 18 3 (earlier 15) + earlier 16)

/-- The words of the sixty-four rounds on a block. -/
def schedule (block : List UInt32) : Array UInt32 :=
  Nat.repeat extend 48 block.toArray

/-- One round. -/
def round (state : State) (constant word : UInt32) : State :=
  let ⟨a, b, c, d, e, f, g, h⟩ := state
  let chosen := (e &&& f) ^^^ (~~~e &&& g)
  let majority := (a &&& b) ^^^ (a &&& c) ^^^ (b &&& c)
  let first := h + mix 6 11 25 e + chosen + constant + word
  let second := mix 2 13 22 a + majority
  ⟨first + second, a, b, c, d + first, e, f, g⟩

/-- The state after a block. -/
def compress (state : State) (block : List UInt32) : State :=
  let words := schedule block
  let last := Nat.fold 64
    (fun index _ current => round current (constants.getD index 0) (words.getD index 0)) state
  ⟨state.a + last.a, state.b + last.b, state.c + last.c, state.d + last.d,
    state.e + last.e, state.f + last.f, state.g + last.g, state.h + last.h⟩

/-- The state after the whole blocks of some words. -/
def absorb (state : State) (words : List UInt32) : State :=
  if words.length < 16 then state else absorb (compress state (words.take 16)) (words.drop 16)
termination_by words.length
decreasing_by simp only [List.length_drop]; omega

/-- The words of four octets each. -/
def wordsOf : Octets → List UInt32
  | a :: b :: c :: d :: rest =>
      ((a.toUInt32 <<< 24) ||| (b.toUInt32 <<< 16) ||| (c.toUInt32 <<< 8) ||| d.toUInt32) ::
        wordsOf rest
  | _ => []

/-- The four octets of a word. -/
def octetsOf (word : UInt32) : Octets :=
  [(word >>> 24).toUInt8, (word >>> 16).toUInt8, (word >>> 8).toUInt8, word.toUInt8]

/-- What is added to a message of some octets to make whole blocks. -/
def padding (length : Nat) : Octets :=
  0x80 :: List.replicate ((119 - length % 64) % 64) 0 ++
    Octets.ofNat32 (length * 8 / UInt32.size) ++ Octets.ofNat32 (length * 8)

/-- The digest of a message of which a number of octets has led to a state. -/
def finish (state : State) (absorbed : Nat) (message : Octets) : Octets :=
  let ⟨a, b, c, d, e, f, g, h⟩ :=
    absorb state (wordsOf (message ++ padding (absorbed + message.length)))
  [a, b, c, d, e, f, g, h].flatMap octetsOf

/-- The digest of a message. -/
def digest (message : Octets) : Octets :=
  finish initial 0 message

end BankLedger.Digest.Sha256
