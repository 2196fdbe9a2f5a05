import Gatehouse.Digest.Sha2

/-! # Keyed hashes

A hash of a message that only the holder of the key can compute. -/

namespace Gatehouse.Hmac

open Sha2

variable {width : Nat}

/-- The key as one block: hashed if it is longer, then filled up with zeros. -/
def blockKey (v : Variant width) (key : Bytes) : Bytes :=
  let key := if v.blockBytes < key.length then digest v key else key
  key ++ List.replicate (v.blockBytes - key.length) 0

/-- The authentication code of a message. -/
def tag (v : Variant width) (key message : Bytes) : Bytes :=
  let block := blockKey v key
  let inner := digest v (block.map (· ^^^ 0x36) ++ message)
  digest v (block.map (· ^^^ 0x5c) ++ inner)

end Gatehouse.Hmac
