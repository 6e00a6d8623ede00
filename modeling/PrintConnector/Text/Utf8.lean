/-! UTF-8: writing characters as bytes and reading bytes as characters.

A reader takes one piece at a time: a whole character, or the longest run of
bytes that could have begun one and does not.  `decode?` refuses a broken
piece; `decodeLossy` puts U+FFFD in its place.
-/

namespace PrintConnector.Text.Utf8

/-- The bytes of a text. -/
def encode (text : List Char) : List UInt8 :=
  text.flatMap String.utf8EncodeChar

/-- What a byte that is not ASCII announces: how many bytes follow it, between
which bounds the next one lies, and the leading bits of the code point. -/
structure Lead where
  tails : Nat
  low : UInt8
  high : UInt8
  bits : Nat

/-- The announcement of a first byte; none for a byte that begins no character. -/
def Lead.ofByte? (byte : UInt8) : Option Lead :=
  if 0xC2 ≤ byte && byte ≤ 0xDF then some ⟨1, 0x80, 0xBF, byte.toNat - 0xC0⟩
  else if byte = 0xE0 then some ⟨2, 0xA0, 0xBF, 0⟩
  else if byte = 0xED then some ⟨2, 0x80, 0x9F, 0xD⟩
  else if 0xE1 ≤ byte && byte ≤ 0xEF then some ⟨2, 0x80, 0xBF, byte.toNat - 0xE0⟩
  else if byte = 0xF0 then some ⟨3, 0x90, 0xBF, 0⟩
  else if 0xF1 ≤ byte && byte ≤ 0xF3 then some ⟨3, 0x80, 0xBF, byte.toNat - 0xF0⟩
  else if byte = 0xF4 then some ⟨3, 0x80, 0x8F, 4⟩
  else none

/-- Reads the bytes that follow a first byte.  Only the one right after it has
narrower bounds. -/
def readTails : Nat → UInt8 → UInt8 → Nat → List UInt8 → Option Char × List UInt8
  | 0, _, _, bits, rest => (some (Char.ofNat bits), rest)
  | _ + 1, _, _, _, [] => (none, [])
  | tails + 1, low, high, bits, byte :: rest =>
      if low ≤ byte && byte ≤ high then
        readTails tails 0x80 0xBF (bits * 64 + (byte.toNat - 0x80)) rest
      else (none, byte :: rest)

/-- Reads one piece that starts with `byte`: its character, or none when the
piece is broken, and the bytes after it. -/
def readPiece (byte : UInt8) (rest : List UInt8) : Option Char × List UInt8 :=
  if byte < 0x80 then (some (Char.ofNat byte.toNat), rest)
  else match Lead.ofByte? byte with
    | none => (none, rest)
    | some lead => readTails lead.tails lead.low lead.high lead.bits rest

theorem readTails_length (tails : Nat) (low high : UInt8) (bits : Nat) (bytes : List UInt8) :
    (readTails tails low high bits bytes).2.length ≤ bytes.length := by
  fun_induction readTails tails low high bits bytes with
  | case1 => simp
  | case2 => simp
  | case3 _ _ _ _ _ _ _ ih => exact Nat.le_trans ih (by simp)
  | case4 => simp

theorem readPiece_length (byte : UInt8) (rest : List UInt8) :
    (readPiece byte rest).2.length ≤ rest.length := by
  unfold readPiece
  split
  · simp
  · split
    · simp
    · exact readTails_length ..

/-- All pieces of a byte sequence, broken ones as none. -/
def pieces : List UInt8 → List (Option Char)
  | [] => []
  | byte :: rest => (readPiece byte rest).1 :: pieces (readPiece byte rest).2
termination_by bytes => bytes.length
decreasing_by
  simp only [List.length_cons]
  exact Nat.lt_succ_of_le (readPiece_length byte rest)

/-- The text of a byte sequence without broken pieces. -/
def decode? (bytes : List UInt8) : Option (List Char) :=
  (pieces bytes).mapM id

/-- The text of a byte sequence, each broken piece read as U+FFFD. -/
def decodeLossy (bytes : List UInt8) : List Char :=
  (pieces bytes).map (·.getD '\uFFFD')

end PrintConnector.Text.Utf8
