import Mathlib.Tactic.IntervalCases
import PrintConnector.Text.Utf8

namespace PrintConnector.Text.Utf8

variable {c : Char} {text : List Char} {rest : List UInt8}

theorem toNat_ofNat {value : Nat} (small : value < 256) : (UInt8.ofNat value).toNat = value := by
  rw [UInt8.toNat_ofNat', Nat.mod_eq_of_lt small]

/-- A byte that follows the first one adds six bits. -/
theorem readTails_cons {tails bits six : Nat} {low high : UInt8} (small : six < 64)
    (lower : low.toNat ≤ six + 0x80) (upper : six + 0x80 ≤ high.toNat) :
    readTails (tails + 1) low high bits (UInt8.ofNat (six + 0x80) :: rest) =
      readTails tails 0x80 0xBF (bits * 64 + six) rest := by
  have byte := toNat_ofNat (show six + 0x80 < 256 by omega)
  have within : low ≤ UInt8.ofNat (six + 0x80) ∧ UInt8.ofNat (six + 0x80) ≤ high := by
    simp only [UInt8.le_iff_toNat_le, byte]
    exact ⟨lower, upper⟩
  rw [readTails, if_pos (by simpa using within), byte, Nat.add_sub_cancel]

theorem readPiece_ascii (ascii : c.toNat < 0x80) :
    readPiece (UInt8.ofNat c.toNat) rest = (some c, rest) := by
  have byte := toNat_ofNat (show c.toNat < 256 by omega)
  have isAscii : UInt8.ofNat c.toNat < 0x80 := by
    rw [UInt8.lt_iff_toNat_lt, byte]
    exact ascii
  rw [readPiece, if_pos isAscii, byte, Char.ofNat_toNat]

theorem ofByte?_two {lead : Nat} (lower : 2 ≤ lead) (upper : lead < 32) :
    Lead.ofByte? (UInt8.ofNat (lead + 0xC0)) = some ⟨1, 0x80, 0xBF, lead⟩ := by
  interval_cases lead <;> rfl

/-- The first byte of three rules out what fits in two, and surrogates. -/
theorem ofByte?_three {lead : Nat} (upper : lead < 16) :
    Lead.ofByte? (UInt8.ofNat (lead + 0xE0)) =
      some ⟨2, if lead = 0 then 0xA0 else 0x80, if lead = 13 then 0x9F else 0xBF, lead⟩ := by
  interval_cases lead <;> rfl

/-- The first byte of four rules out what fits in three, and what is too large. -/
theorem ofByte?_four {lead : Nat} (upper : lead < 5) :
    Lead.ofByte? (UInt8.ofNat (lead + 0xF0)) =
      some ⟨3, if lead = 0 then 0x90 else 0x80, if lead = 4 then 0x8F else 0xBF, lead⟩ := by
  interval_cases lead <;> rfl

theorem readPiece_lead {byte : UInt8} {lead : Lead} (high : 0x80 ≤ byte.toNat)
    (announced : Lead.ofByte? byte = some lead) :
    readPiece byte rest = readTails lead.tails lead.low lead.high lead.bits rest := by
  have notAscii : ¬ byte < 0x80 := by
    rw [UInt8.lt_iff_toNat_lt]
    exact Nat.not_lt.mpr high
  rw [readPiece, if_neg notAscii, announced]

theorem readPiece_two (lower : 0x80 ≤ c.toNat) (upper : c.toNat ≤ 0x7FF) :
    readPiece (UInt8.ofNat (c.toNat / 64 + 0xC0)) (UInt8.ofNat (c.toNat % 64 + 0x80) :: rest) =
      (some c, rest) := by
  have high : 0x80 ≤ (UInt8.ofNat (c.toNat / 64 + 0xC0)).toNat := by
    rw [toNat_ofNat (by omega)]
    omega
  rw [readPiece_lead high (ofByte?_two (by omega) (by omega)),
    readTails_cons (Nat.mod_lt _ (by decide)) (by simp) (by simp; omega), readTails,
    Nat.div_add_mod', Char.ofNat_toNat]

theorem readPiece_three (lower : 0x800 ≤ c.toNat) (upper : c.toNat ≤ 0xFFFF) :
    readPiece (UInt8.ofNat (c.toNat / 4096 + 0xE0))
        (UInt8.ofNat (c.toNat / 64 % 64 + 0x80) :: UInt8.ofNat (c.toNat % 64 + 0x80) :: rest) =
      (some c, rest) := by
  have valid : c.toNat < 0xD800 ∨ (0xDFFF < c.toNat ∧ c.toNat < 0x110000) := c.valid
  have high : 0x80 ≤ (UInt8.ofNat (c.toNat / 4096 + 0xE0)).toNat := by
    rw [toNat_ofNat (by omega)]
    omega
  have low : (if c.toNat / 4096 = 0 then (0xA0 : UInt8) else 0x80).toNat ≤
      c.toNat / 64 % 64 + 0x80 := by
    split
    · change 0xA0 ≤ _
      omega
    · change 0x80 ≤ _
      omega
  have bound : c.toNat / 64 % 64 + 0x80 ≤
      (if c.toNat / 4096 = 13 then (0x9F : UInt8) else 0xBF).toNat := by
    split
    · change _ ≤ 0x9F
      omega
    · change _ ≤ 0xBF
      omega
  have code : (c.toNat / 4096 * 64 + c.toNat / 64 % 64) * 64 + c.toNat % 64 = c.toNat := by omega
  rw [readPiece_lead high (ofByte?_three (by omega)),
    readTails_cons (Nat.mod_lt _ (by decide)) low bound,
    readTails_cons (Nat.mod_lt _ (by decide)) (by simp) (by simp; omega), readTails, code,
    Char.ofNat_toNat]

theorem readPiece_four (lower : 0x10000 ≤ c.toNat) :
    readPiece (UInt8.ofNat (c.toNat / 262144 + 0xF0))
        (UInt8.ofNat (c.toNat / 4096 % 64 + 0x80) :: UInt8.ofNat (c.toNat / 64 % 64 + 0x80) ::
          UInt8.ofNat (c.toNat % 64 + 0x80) :: rest) =
      (some c, rest) := by
  have valid : c.toNat < 0xD800 ∨ (0xDFFF < c.toNat ∧ c.toNat < 0x110000) := c.valid
  have high : 0x80 ≤ (UInt8.ofNat (c.toNat / 262144 + 0xF0)).toNat := by
    rw [toNat_ofNat (by omega)]
    omega
  have low : (if c.toNat / 262144 = 0 then (0x90 : UInt8) else 0x80).toNat ≤
      c.toNat / 4096 % 64 + 0x80 := by
    split
    · change 0x90 ≤ _
      omega
    · change 0x80 ≤ _
      omega
  have bound : c.toNat / 4096 % 64 + 0x80 ≤
      (if c.toNat / 262144 = 4 then (0x8F : UInt8) else 0xBF).toNat := by
    split
    · change _ ≤ 0x8F
      omega
    · change _ ≤ 0xBF
      omega
  have code : ((c.toNat / 262144 * 64 + c.toNat / 4096 % 64) * 64 + c.toNat / 64 % 64) * 64 +
      c.toNat % 64 = c.toNat := by omega
  rw [readPiece_lead high (ofByte?_four (by omega)),
    readTails_cons (Nat.mod_lt _ (by decide)) low bound,
    readTails_cons (Nat.mod_lt _ (by decide)) (by simp) (by simp; omega),
    readTails_cons (Nat.mod_lt _ (by decide)) (by simp) (by simp; omega), readTails, code,
    Char.ofNat_toNat]

/-- The bytes of a character are one piece, whatever follows them. -/
theorem utf8EncodeChar_read (c : Char) :
    ∃ byte tails, String.utf8EncodeChar c = byte :: tails ∧
      ∀ rest, readPiece byte (tails ++ rest) = (some c, rest) := by
  have valid : c.toNat < 0xD800 ∨ (0xDFFF < c.toNat ∧ c.toNat < 0x110000) := c.valid
  have code : c.val.toNat = c.toNat := rfl
  unfold String.utf8EncodeChar
  rw [code]
  simp only
  split
  · exact ⟨_, [], rfl, fun rest => readPiece_ascii (by omega)⟩
  · split
    · have lead : c.toNat / 64 % 0x20 = c.toNat / 64 := Nat.mod_eq_of_lt (by omega)
      exact ⟨_, _, rfl, fun rest => by rw [lead]; exact readPiece_two (by omega) (by omega)⟩
    · split
      · have lead : c.toNat / 4096 % 0x10 = c.toNat / 4096 := Nat.mod_eq_of_lt (by omega)
        exact ⟨_, _, rfl, fun rest => by rw [lead]; exact readPiece_three (by omega) (by omega)⟩
      · have lead : c.toNat / 262144 % 0x08 = c.toNat / 262144 := Nat.mod_eq_of_lt (by omega)
        exact ⟨_, _, rfl, fun rest => by rw [lead]; exact readPiece_four (by omega)⟩

theorem pieces_encode (text : List Char) : pieces (encode text) = text.map some := by
  induction text with
  | nil => simp [encode, pieces]
  | cons c text ih =>
      obtain ⟨byte, tails, written, read⟩ := utf8EncodeChar_read c
      have first : encode (c :: text) = byte :: (tails ++ encode text) := by
        rw [encode, List.flatMap_cons, written]
        rfl
      rw [first, pieces, read, ih]
      rfl

/-- Every text is what is read from its bytes. -/
theorem decode?_encode (text : List Char) : decode? (encode text) = some text := by
  rw [decode?, pieces_encode, List.mapM_map]
  induction text with
  | nil => rfl
  | cons c text ih =>
      rw [List.mapM_cons, ih]
      rfl

theorem encode_append (front back : List Char) :
    encode (front ++ back) = encode front ++ encode back :=
  List.flatMap_append

/-- A byte below 128 stands for its own character only. -/
theorem eq_of_mem_utf8EncodeChar {byte : UInt8} (member : byte ∈ String.utf8EncodeChar c)
    (ascii : byte.toNat < 0x80) : c.toNat = byte.toNat := by
  have valid : c.toNat < 0xD800 ∨ (0xDFFF < c.toNat ∧ c.toNat < 0x110000) := c.valid
  have code : c.val.toNat = c.toNat := rfl
  unfold String.utf8EncodeChar at member
  rw [code] at member
  simp only at member
  have high {number : Nat} (large : 0x80 ≤ number) (small : number < 256) :
      byte ≠ UInt8.ofNat number := by
    rintro rfl
    rw [toNat_ofNat small] at ascii
    omega
  split at member
  · rw [List.mem_singleton.mp member, toNat_ofNat (by omega)]
  · split at member
    · simp only [List.mem_cons, List.not_mem_nil, or_false] at member
      rcases member with first | second
      · exact absurd first (high (by omega) (by omega))
      · exact absurd second (high (by omega) (by omega))
    · split at member
      · simp only [List.mem_cons, List.not_mem_nil, or_false] at member
        rcases member with first | second | third
        · exact absurd first (high (by omega) (by omega))
        · exact absurd second (high (by omega) (by omega))
        · exact absurd third (high (by omega) (by omega))
      · simp only [List.mem_cons, List.not_mem_nil, or_false] at member
        rcases member with first | second | third | fourth
        · exact absurd first (high (by omega) (by omega))
        · exact absurd second (high (by omega) (by omega))
        · exact absurd third (high (by omega) (by omega))
        · exact absurd fourth (high (by omega) (by omega))

/-- A text has the line feeds that its bytes have. -/
theorem lineFeed_not_mem_encode (oneLine : '\n' ∉ text) : (0x0A : UInt8) ∉ encode text := by
  intro member
  obtain ⟨c, inText, inBytes⟩ := List.mem_flatMap.mp member
  have feed : c = '\n' := by
    rw [← Char.ofNat_toNat c, eq_of_mem_utf8EncodeChar inBytes (by decide)]
    rfl
  exact oneLine (feed ▸ inText)

/-- A character takes as many bytes as were announced. -/
theorem readTails_took {tails bits : Nat} {low high : UInt8} {bytes : List UInt8}
    (read : readTails tails low high bits bytes = (some c, rest)) :
    bytes.length = tails + rest.length := by
  fun_induction readTails tails low high bits bytes with
  | case1 =>
      obtain ⟨-, rfl⟩ := Prod.mk.inj read
      simp
  | case2 | case4 => simp at read
  | case3 low high bits tails byte bytes within ih =>
      have later := ih read
      simp only [List.length_cons]
      omega

/-- A character whose last bytes are missing cannot be read. -/
theorem readPiece_short {byte : UInt8} {tails front missing : List UInt8}
    (read : readPiece byte tails = (some c, [])) (cut : front ++ missing = tails)
    (short : missing ≠ []) : (readPiece byte front).1 = none := by
  have some_missing := List.length_pos_iff.mpr short
  have shorter := congrArg List.length cut
  rw [List.length_append] at shorter
  unfold readPiece at read ⊢
  split at read
  · obtain ⟨-, rfl⟩ := Prod.mk.inj read
    simp only [List.length_nil] at shorter
    omega
  · rename_i notAscii
    rw [if_neg notAscii]
    split at read
    · simp at read
    · have whole := readTails_took read
      simp only [List.length_nil] at whole
      by_contra readable
      obtain ⟨c, found⟩ := Option.ne_none_iff_exists'.mp readable
      have took := readTails_took (Prod.ext found rfl)
      omega

theorem decode?_nil : decode? [] = some [] := by
  simp [decode?, pieces]

theorem decode?_cons {byte : UInt8} {bytes : List UInt8} : decode? (byte :: bytes) =
    (readPiece byte bytes).1.bind fun c => (decode? (readPiece byte bytes).2).map (c :: ·) := by
  rw [decode?, pieces, List.mapM_cons]
  cases (readPiece byte bytes).1 with
  | none => rfl
  | some c =>
      change (decode? _).bind _ = _
      cases decode? (readPiece byte bytes).2 <;> rfl

/-- Of the first bytes of a text only its first characters are read, if anything. -/
theorem decode?_prefix {front missing : List UInt8} {read : List Char}
    (cut : front ++ missing = encode text) (decoded : decode? front = some read) :
    read <+: text := by
  induction text generalizing front read with
  | nil =>
      obtain ⟨rfl, -⟩ := List.append_eq_nil_iff.mp cut
      obtain rfl := Option.some.inj (decode?_nil.symm.trans decoded)
      exact List.prefix_rfl
  | cons c text ih =>
      obtain ⟨byte, tails, written, reads⟩ := utf8EncodeChar_read c
      have bytes : encode (c :: text) = byte :: (tails ++ encode text) := by
        rw [encode, List.flatMap_cons, written]
        rfl
      cases front with
      | nil =>
          obtain rfl := Option.some.inj (decode?_nil.symm.trans decoded)
          exact List.nil_prefix
      | cons first front =>
          rw [bytes, List.cons_append] at cut
          obtain ⟨rfl, behind⟩ := List.cons.inj cut
          rw [decode?_cons] at decoded
          rcases List.append_eq_append_iff.mp behind with ⟨rest, inside, -⟩ | ⟨rest, rfl, later⟩
          · by_cases whole : rest = []
            · have exactly : readPiece first front = (some c, []) := by
                have read := reads []
                rwa [List.append_nil, inside, whole, List.append_nil] at read
              rw [exactly, decode?_nil] at decoded
              obtain rfl := Option.some.inj decoded
              exact List.cons_prefix_cons.mpr ⟨rfl, List.nil_prefix⟩
            · have read := reads []
              rw [List.append_nil] at read
              rw [readPiece_short read inside.symm whole] at decoded
              contradiction
          · rw [reads] at decoded
            obtain ⟨others, onward, rfl⟩ := Option.map_eq_some_iff.mp decoded
            exact List.cons_prefix_cons.mpr ⟨rfl, ih later.symm onward⟩

theorem eq_map_some_of_mapM {pieces : List (Option Char)} (whole : pieces.mapM id = some text) :
    pieces = text.map some := by
  induction pieces generalizing text with
  | nil =>
      cases whole
      rfl
  | cons piece others ih =>
      rw [List.mapM_cons] at whole
      obtain ⟨c, first, whole⟩ := Option.bind_eq_some_iff.mp whole
      obtain ⟨later, onward, same⟩ := Option.bind_eq_some_iff.mp whole
      cases same
      rw [ih onward, List.map_cons, ← first]
      rfl

/-- What a piece leaves is the end of the bytes. -/
theorem readTails_suffix (tails bits : Nat) (low high : UInt8) (bytes : List UInt8) :
    (readTails tails low high bits bytes).2 <:+ bytes := by
  fun_induction readTails tails low high bits bytes with
  | case1 | case2 | case4 => exact List.suffix_rfl
  | case3 _ _ _ _ _ _ _ ih => exact ih.trans (List.suffix_cons ..)

theorem readPiece_suffix (byte : UInt8) (bytes : List UInt8) :
    (readPiece byte bytes).2 <:+ bytes := by
  unfold readPiece
  split
  · exact List.suffix_rfl
  · split
    · exact List.suffix_rfl
    · exact readTails_suffix ..

/-- Each byte that follows only adds to the number read before. -/
theorem readTails_code {tails bits : Nat} {low high : UInt8} {bytes : List UInt8}
    (read : readTails tails low high bits bytes = (some c, rest)) :
    ∃ code, bits ≤ code ∧ c = Char.ofNat code := by
  fun_induction readTails tails low high bits bytes with
  | case1 =>
      obtain ⟨first, -⟩ := Prod.mk.inj read
      exact ⟨_, Nat.le_refl _, (Option.some.inj first).symm⟩
  | case2 | case4 => simp at read
  | case3 low high bits tails byte bytes within ih =>
      obtain ⟨code, large, same⟩ := ih read
      exact ⟨code, by omega, same⟩

/-- The byte after the first one brings the number to sixteen at least. -/
theorem tail_of_ofByte? {byte : UInt8} {lead : Lead} (announced : Lead.ofByte? byte = some lead) :
    ∃ tails, lead.tails = tails + 1 ∧ 0x80 ≤ lead.low ∧
      16 ≤ lead.bits * 64 + (lead.low.toNat - 0x80) := by
  unfold Lead.ofByte? at announced
  split_ifs at announced <;> cases announced
  all_goals refine ⟨_, rfl, by dsimp only; decide, ?_⟩
  all_goals simp_all [UInt8.le_iff_toNat_le]
  all_goals omega

theorem toNat_char {code : Nat} (valid : code.isValidChar) : (Char.ofNat code).toNat = code := by
  rw [Char.ofNat, dif_pos valid]
  rfl

/-- A line feed is read from its own byte only. -/
theorem readPiece_feed {byte : UInt8} {bytes : List UInt8}
    (read : (readPiece byte bytes).1 = some '\n') : byte = 0x0A := by
  have code_of_feed {code : Nat} (feed : Char.ofNat code = '\n') : code = 10 := by
    have number := congrArg Char.toNat feed
    by_cases valid : code.isValidChar
    · rwa [toNat_char valid] at number
    · rw [Char.ofNat, dif_neg valid] at number
      exact absurd number (by decide)
  unfold readPiece at read
  split at read
  · rw [← UInt8.toNat_inj]
    exact code_of_feed (Option.some.inj read)
  · split at read
    · contradiction
    · rename_i lead announced
      -- A character of more bytes has a number that is too large.
      obtain ⟨tails, more, -, large⟩ := tail_of_ofByte? announced
      rw [more] at read
      cases bytes with
      | nil => simp [readTails] at read
      | cons next bytes =>
          rw [readTails] at read
          split at read
          · rename_i within
            have lower : lead.low.toNat ≤ next.toNat := by
              simp only [Bool.and_eq_true, decide_eq_true_iff, UInt8.le_iff_toNat_le] at within
              exact within.1
            obtain ⟨code, grown, same⟩ := readTails_code (Prod.ext read rfl)
            have feed := code_of_feed same.symm
            omega
          · simp at read

theorem readTails_append_feed (tails bits : Nat) {low : UInt8} (high : UInt8)
    (continues : 0x80 ≤ low) (bytes : List UInt8) :
    readTails tails low high bits (bytes ++ [0x0A]) =
      ((readTails tails low high bits bytes).1,
        (readTails tails low high bits bytes).2 ++ [0x0A]) := by
  fun_induction readTails tails low high bits bytes with
  | case1 => rw [readTails]
  | case2 tails low high bits =>
      have outside : ¬ (low ≤ 0x0A && 0x0A ≤ high) = true := by
        simp only [Bool.and_eq_true, decide_eq_true_iff, not_and]
        intro below
        exact absurd (UInt8.le_trans continues below) (by decide)
      rw [List.nil_append, readTails, if_neg outside]
  | case3 low high bits tails byte bytes within ih =>
      rw [List.cons_append, readTails, if_pos within, ih (by decide)]
  | case4 low high bits tails byte bytes outside =>
      rw [List.cons_append, readTails, if_neg outside]

theorem readPiece_append_feed (byte : UInt8) (bytes : List UInt8) :
    readPiece byte (bytes ++ [0x0A]) =
      ((readPiece byte bytes).1, (readPiece byte bytes).2 ++ [0x0A]) := by
  unfold readPiece
  split
  · rfl
  · split
    · rfl
    · rename_i lead announced
      obtain ⟨-, -, continues, -⟩ := tail_of_ofByte? announced
      exact readTails_append_feed _ _ _ continues bytes

/-- A line feed is a piece of its own, whatever stands before it. -/
theorem pieces_append_feed (bytes : List UInt8) :
    pieces (bytes ++ [0x0A]) = pieces bytes ++ [some '\n'] := by
  fun_induction pieces bytes with
  | case1 =>
      have alone : readPiece 0x0A [] = (some '\n', []) := rfl
      rw [List.nil_append, pieces, alone, pieces]
      rfl
  | case2 byte bytes ih =>
      rw [List.cons_append, pieces, readPiece_append_feed, ih, List.cons_append]

theorem feed_mem_of_pieces {bytes : List UInt8} (member : some '\n' ∈ pieces bytes) :
    (0x0A : UInt8) ∈ bytes := by
  fun_induction pieces bytes with
  | case1 => exact absurd member (List.not_mem_nil)
  | case2 byte bytes ih =>
      obtain read | later := List.mem_cons.mp member
      · exact readPiece_feed read.symm ▸ List.mem_cons_self ..
      · exact List.mem_cons_of_mem _ ((readPiece_suffix byte bytes).subset (ih later))

/-- The text of a line has its line feed at the end and nowhere else. -/
theorem decode?_line {bytes : List UInt8} (line : (0x0A : UInt8) ∉ bytes)
    (decoded : decode? (bytes ++ [0x0A]) = some text) :
    ∃ front, text = front ++ ['\n'] ∧ '\n' ∉ front := by
  have whole := eq_map_some_of_mapM decoded
  rw [pieces_append_feed] at whole
  obtain ⟨front, last, rfl, same, feed⟩ := List.map_eq_append_iff.mp whole.symm
  obtain rfl : last = ['\n'] := by
    simpa using feed
  exact ⟨front, rfl, fun member => line (feed_mem_of_pieces (same ▸ List.mem_map_of_mem member))⟩

end PrintConnector.Text.Utf8
