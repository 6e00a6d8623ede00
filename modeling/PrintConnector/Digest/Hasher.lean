import PrintConnector.Digest.Sha256

/-! SHA-256 of a message that comes in pieces.

A hasher takes in blocks as they fill up and keeps the bytes after them.
-/

namespace PrintConnector.Digest

structure Hasher where
  state : State := .start
  /-- The bytes of the block that is not full yet. -/
  pending : List UInt8 := []
  /-- How many bytes have come. -/
  length : Nat := 0
deriving DecidableEq, Repr

namespace Hasher

def update (hasher : Hasher) (piece : List UInt8) : Hasher :=
  let bytes := hasher.pending ++ piece
  let whole := bytes.length / 64 * 64
  { state := hasher.state.absorbAll (bytes.take whole)
    pending := bytes.drop whole
    length := hasher.length + piece.length }

/-- The digest of everything that has come. -/
def finish (hasher : Hasher) : List UInt8 :=
  (hasher.state.absorbAll (hasher.pending ++ padding hasher.length)).bytes

end Hasher

end PrintConnector.Digest
