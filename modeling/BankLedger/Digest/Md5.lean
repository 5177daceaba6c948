import BankLedger.Text.Octets

/-!
# MD5

An old digest of sixteen octets, which older servers ask for when a password is proved.  Its words
have the least significant octet first.
-/

namespace BankLedger.Digest.Md5

/-- The four words that blocks are compressed into. -/
structure State where
  a : UInt32
  b : UInt32
  c : UInt32
  d : UInt32

/-- The state before the first block. -/
def initial : State :=
  ⟨0x67452301, 0xefcdab89, 0x98badcfe, 0x10325476⟩

/-- The constants of the sixty-four rounds. -/
def constants : Array UInt32 :=
  #[0xd76aa478, 0xe8c7b756, 0x242070db, 0xc1bdceee, 0xf57c0faf, 0x4787c62a, 0xa8304613, 0xfd469501,
    0x698098d8, 0x8b44f7af, 0xffff5bb1, 0x895cd7be, 0x6b901122, 0xfd987193, 0xa679438e, 0x49b40821,
    0xf61e2562, 0xc040b340, 0x265e5a51, 0xe9b6c7aa, 0xd62f105d, 0x02441453, 0xd8a1e681, 0xe7d3fbc8,
    0x21e1cde6, 0xc33707d6, 0xf4d50d87, 0x455a14ed, 0xa9e3e905, 0xfcefa3f8, 0x676f02d9, 0x8d2a4c8a,
    0xfffa3942, 0x8771f681, 0x6d9d6122, 0xfde5380c, 0xa4beea44, 0x4bdecfa9, 0xf6bb4b60, 0xbebfbc70,
    0x289b7ec6, 0xeaa127fa, 0xd4ef3085, 0x04881d05, 0xd9d4d039, 0xe6db99e5, 0x1fa27cf8, 0xc4ac5665,
    0xf4292244, 0x432aff97, 0xab9423a7, 0xfc93a039, 0x655b59c3, 0x8f0ccc92, 0xffeff47d, 0x85845dd1,
    0x6fa87e4f, 0xfe2ce6e0, 0xa3014314, 0x4e0811a1, 0xf7537e82, 0xbd3af235, 0x2ad7d2bb, 0xeb86d391]

/-- The rotations of four successive rounds, which repeat within each quarter. -/
def rotations : Array UInt32 :=
  #[7, 12, 17, 22, 5, 9, 14, 20, 4, 11, 16, 23, 6, 10, 15, 21]

/-- A word with its bits moved left, those that leave coming back on the right. -/
def rotateLeft (count word : UInt32) : UInt32 :=
  (word <<< count) ||| (word >>> (32 - count))

/-- How a round combines three words, and which word of the block it takes. -/
def combine (index : Nat) (b c d : UInt32) : UInt32 × Nat :=
  match index / 16 with
  | 0 => ((b &&& c) ||| (~~~b &&& d), index)
  | 1 => ((d &&& b) ||| (~~~d &&& c), (5 * index + 1) % 16)
  | 2 => (b ^^^ c ^^^ d, (3 * index + 5) % 16)
  | _ => (c ^^^ (b ||| ~~~d), 7 * index % 16)

/-- One round on the words of a block. -/
def round (words : Array UInt32) (index : Nat) (state : State) : State :=
  let ⟨a, b, c, d⟩ := state
  let (combined, taken) := combine index b c d
  let rotation := rotations.getD (index / 16 * 4 + index % 4) 0
  let sum := a + combined + constants.getD index 0 + words.getD taken 0
  ⟨d, b + rotateLeft rotation sum, b, c⟩

/-- The state after a block. -/
def compress (state : State) (block : List UInt32) : State :=
  let words := block.toArray
  let last := Nat.fold 64 (fun index _ current => round words index current) state
  ⟨state.a + last.a, state.b + last.b, state.c + last.c, state.d + last.d⟩

/-- The state after the whole blocks of some words. -/
def absorb (state : State) (words : List UInt32) : State :=
  if words.length < 16 then state else absorb (compress state (words.take 16)) (words.drop 16)
termination_by words.length
decreasing_by simp only [List.length_drop]; omega

/-- The words of four octets each. -/
def wordsOf : Octets → List UInt32
  | a :: b :: c :: d :: rest =>
      ((d.toUInt32 <<< 24) ||| (c.toUInt32 <<< 16) ||| (b.toUInt32 <<< 8) ||| a.toUInt32) ::
        wordsOf rest
  | _ => []

/-- The four octets of a word. -/
def octetsOf (word : UInt32) : Octets :=
  [word.toUInt8, (word >>> 8).toUInt8, (word >>> 16).toUInt8, (word >>> 24).toUInt8]

/-- What is added to a message of some octets to make whole blocks. -/
def padding (length : Nat) : Octets :=
  0x80 :: List.replicate ((119 - length % 64) % 64) 0 ++
    (Octets.ofNat32 (length * 8)).reverse ++ (Octets.ofNat32 (length * 8 / UInt32.size)).reverse

/-- The digest of a message. -/
def digest (message : Octets) : Octets :=
  let ⟨a, b, c, d⟩ := absorb initial (wordsOf (message ++ padding message.length))
  [a, b, c, d].flatMap octetsOf

end BankLedger.Digest.Md5
