import Tutoring.Token.Sha256

/-!
# Keyed hashes

The hash of a message under a key, from SHA-256: nobody without the key can make it up.
-/

namespace Tutoring.Hmac

/-- The length of a block in bytes. -/
def blockSize : Nat := 64

/-- The key as one block. A longer key is hashed first. -/
def blockKey (key : List UInt8) : List UInt8 :=
  let short := if blockSize < key.length then Sha256.hash key else key
  short ++ List.replicate (blockSize - short.length) 0

/-- The hash of a message under a key. -/
def sha256 (key message : List UInt8) : List UInt8 :=
  let k := blockKey key
  Sha256.hash (k.map (· ^^^ 0x5c) ++ Sha256.hash (k.map (· ^^^ 0x36) ++ message))

end Tutoring.Hmac
