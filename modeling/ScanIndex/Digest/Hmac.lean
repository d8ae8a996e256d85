import ScanIndex.Digest.Sha256

/-!
# Keyed digests

`hmac key message` is the keyed digest of a message.  It depends on the key only through
`blockKey key`, the key brought to the length of one block: longer keys are hashed, and shorter
ones are filled up with zeros.
-/

namespace ScanIndex

/-- The key brought to the length of one block. -/
def blockKey (key : List UInt8) : List UInt8 :=
  let key := if 64 < key.length then Sha256.hash key else key
  key ++ List.replicate (64 - key.length) 0

/-- The digest of a message under a key of one block. -/
def hmacOfBlock (block message : List UInt8) : List UInt8 :=
  let inner := Sha256.hash (block.map (· ^^^ 0x36) ++ message)
  Sha256.hash (block.map (· ^^^ 0x5c) ++ inner)

/-- The digest of a message under a key. -/
def hmac (key message : List UInt8) : List UInt8 := hmacOfBlock (blockKey key) message

/-- Keys with the same block give every message the same digest. -/
theorem hmac_congr {k k' : List UInt8} (h : blockKey k = blockKey k') (message : List UInt8) :
  hmac k message = hmac k' message
  := by
  rw [hmac, hmac, h]

end ScanIndex
