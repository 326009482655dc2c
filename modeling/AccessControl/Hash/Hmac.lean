import AccessControl.Hash.Sha2

/-!
# Keyed hashes

The keyed hash of a message: the digest of the outer key followed by the digest of the inner key and
the message. A key longer than a block is replaced by its own digest.
-/
namespace AccessControl.Sha2

variable {w : Nat}

/-- The key as one block. -/
def keyBlock (d : Digest w) (key : Bytes) : Bytes :=
  let short := if blockSize w < key.length then digest d key else key
  short ++ List.replicate (blockSize w - short.length) 0

def hmac (d : Digest w) (key message : Bytes) : Bytes :=
  let block := keyBlock d key
  digest d (block.map (· ^^^ 0x5C) ++ digest d (block.map (· ^^^ 0x36) ++ message))

end AccessControl.Sha2
