import BankLedger.Digest.Sha256

/-!
# Keyed digests

A keyed digest is the digest of a digest, each started with a block made from the key.  `stretch`
repeats keyed digests to make guessing a password expensive.
-/

namespace BankLedger.Digest

/-- The two states that the blocks made from a key lead to. -/
structure HmacKey where
  inner : Sha256.State
  outer : Sha256.State

namespace HmacKey

/-- The number of octets in a block. -/
def blockSize : Nat := 64

/-- The state after a block that is made from a key and a filler. -/
def started (filler : UInt8) (block : Octets) : Sha256.State :=
  Sha256.absorb Sha256.initial (Sha256.wordsOf (block.map (· ^^^ filler)))

/-- A key.  One that is longer than a block is replaced by its digest. -/
def ofOctets (key : Octets) : HmacKey :=
  let short := if key.length ≤ blockSize then key else Sha256.digest key
  let block := short ++ List.replicate (blockSize - short.length) 0
  ⟨started 0x36 block, started 0x5c block⟩

/-- The keyed digest of a message. -/
def digest (key : HmacKey) (message : Octets) : Octets :=
  Sha256.finish key.outer blockSize (Sha256.finish key.inner blockSize message)

/-- The combination of some keyed digests, each but the first taken of the one before it, with those
already combined. -/
def chain (key : HmacKey) : Nat → Octets → Octets → Octets
  | 0, _, combined => combined
  | count + 1, previous, combined =>
      let next := key.digest previous
      key.chain count next (List.zipWith (· ^^^ ·) combined next)

end HmacKey

/-- The keyed digest of a message. -/
def hmac (key message : Octets) : Octets :=
  (HmacKey.ofOctets key).digest message

/-- The key of thirty-two octets that a password and a salt make in a number of rounds. -/
def stretch (password salt : Octets) (rounds : Nat) : Octets :=
  let key := HmacKey.ofOctets password
  let first := key.digest (salt ++ Octets.ofNat32 1)
  key.chain (rounds - 1) first first

end BankLedger.Digest
