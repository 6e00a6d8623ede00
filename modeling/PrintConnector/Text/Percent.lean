import PrintConnector.Number.Numeral
import PrintConnector.Text.Utf8

/-! Percent-encoding: any text as one segment of a path.

A byte that is unreserved stands for itself.  Every other byte is a percent
sign and two hexadecimal digits in upper case.
-/

namespace PrintConnector.Text.Percent

/-- Letters, digits and the marks `-`, `.`, `_` and `~`, all of them ASCII. -/
def isUnreserved (byte : UInt8) : Bool :=
  (0x41 ≤ byte && byte ≤ 0x5A) || (0x61 ≤ byte && byte ≤ 0x7A) ||
    (0x30 ≤ byte && byte ≤ 0x39) || byte = 0x2D || byte = 0x2E || byte = 0x5F || byte = 0x7E

/-- A hexadecimal digit in upper case. -/
def upperHexDigit (value : Nat) : Char :=
  (Nat.digitChar (value % 16)).toUpper

def encodeByte (byte : UInt8) : List Char :=
  if isUnreserved byte then [Char.ofNat byte.toNat]
  else ['%', upperHexDigit (byte.toNat / 16), upperHexDigit byte.toNat]

def encodeBytes (bytes : List UInt8) : List Char :=
  bytes.flatMap encodeByte

/-- A text as a path segment. -/
def encode (text : String) : String :=
  .ofList (encodeBytes (Utf8.encode text.toList))

/-- The bytes of a path segment; none where a percent sign has no two digits
after it or a character is not ASCII. -/
def decode? : List Char → Option (List UInt8)
  | [] => some []
  | '%' :: high :: low :: rest => do
      let high ← Number.digitValue? 16 high
      let low ← Number.digitValue? 16 low
      (decode? rest).map (UInt8.ofNat (high * 16 + low) :: ·)
  | c :: rest =>
      if c = '%' || 128 ≤ c.toNat then none
      else (decode? rest).map (UInt8.ofNat c.toNat :: ·)

end PrintConnector.Text.Percent
