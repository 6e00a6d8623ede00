import PrintConnector.Cache.Entry
import PrintConnector.Proofs.Digest.Hasher

namespace PrintConnector.Cache

open PrintConnector.Digest (Hasher fingerprint)

/-- An edition pairs the hash and the translation of the same bytes. -/
structure Edition.IsOf (edition : Edition) (bytes : List UInt8) : Prop where
  hash : edition.hash = fingerprint bytes
  translation : edition.translation = .ofText (.ofList (Text.Utf8.decodeLossy bytes))

/-- What the cloud service is told pairs the hash and the translation of the same
bytes. -/
structure Capabilities.IsOf (capabilities : Capabilities) (bytes : List UInt8) : Prop where
  hash : capabilities.hash = fingerprint bytes
  translation : ∃ translation : Ppd.Translation,
    translation = .ofText (.ofList (Text.Utf8.decodeLossy bytes)) ∧
      capabilities.printer = translation.printer ∧
      capabilities.manufacturer = translation.manufacturer ∧
      capabilities.model = translation.model

theorem Edition.IsOf.capabilities {edition : Edition} {bytes : List UInt8}
    (isOf : edition.IsOf bytes) : edition.capabilities.IsOf bytes where
  hash := isOf.hash
  translation := ⟨edition.translation, isOf.translation, rfl, rfl, rfl⟩

namespace Copy

variable {copy : Copy}

/-- The hasher has taken in what was copied. -/
def IsSound (copy : Copy) : Prop :=
  copy.hasher = Hasher.update {} copy.contents

theorem isSound_empty : IsSound {} := by
  have nothing : Digest.State.start.absorbAll [] = .start := by
    rw [Digest.State.absorbAll]
    rfl
  rw [IsSound, Hasher.update]
  exact congrArg (Hasher.mk · [] 0) nothing.symm

theorem IsSound.add (sound : copy.IsSound) (piece : List UInt8) : (copy.add piece).IsSound := by
  rw [IsSound, Copy.add, sound, Hasher.update_update]

theorem IsSound.edition (sound : copy.IsSound) (number : Nat) :
    (copy.edition number).IsOf copy.contents where
  hash := by
    rw [Copy.edition, sound, Hasher.finish_update]
    rfl
  translation := rfl

end Copy

end PrintConnector.Cache
