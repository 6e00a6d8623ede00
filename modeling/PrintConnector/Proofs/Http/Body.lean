import Mathlib.Data.List.TakeWhile
import PrintConnector.Proofs.Http.Head

namespace PrintConnector.Http

variable {ended : Bool} {head : Head} {payload : Payload} {fuel : Nat}

theorem takeBytes_append (ended : Bool) (data rest : List UInt8) :
    takeBytes ended data.length (data ++ rest) = .ok (data, rest) := by
  simp [takeBytes]

theorem readLine_empty (ended : Bool) (rest : List UInt8) :
    readLine ended (writeLine [] ++ rest) = .ok ([], rest) :=
  readLine_writeLine ended .nil rest

theorem length_writeLine_pos (line : List Char) : 0 < (writeLine line).length := by
  have written := congrArg List.length (writeLine_append line [])
  simp only [List.append_nil, List.length_append, List.length_cons, List.length_nil] at written
  omega

/-- Texts of which each takes a byte at least are no more than their bytes. -/
theorem length_le_flatMap {α : Type} {write : α → List UInt8} (items : List α)
    (solid : ∀ item ∈ items, 0 < (write item).length) :
    items.length ≤ (items.flatMap write).length := by
  induction items with
  | nil => simp
  | cons item items ih =>
      obtain ⟨first, others⟩ := List.forall_mem_cons.mp solid
      have later := ih others
      simp only [List.flatMap_cons, List.length_append, List.length_cons]
      omega

theorem skipTrailers_write (ended : Bool) {trailers : List (List Char)}
    (proper : ∀ line ∈ trailers, line ≠ [] ∧ OnOneLine line) (enough : trailers.length < fuel)
    (rest : List UInt8) :
    skipTrailers ended fuel (trailers.flatMap writeLine ++ (writeLine [] ++ rest)) = .ok rest := by
  induction trailers generalizing fuel with
  | nil =>
      obtain ⟨fuel, rfl⟩ := Nat.exists_eq_add_one.mpr enough
      rw [List.flatMap_nil, List.nil_append, skipTrailers, readLine_empty]
      rfl
  | cons line trailers ih =>
      obtain ⟨⟨some, oneLine⟩, others⟩ := List.forall_mem_cons.mp proper
      obtain ⟨fuel, rfl⟩ := Nat.exists_eq_add_one.mpr (Nat.zero_lt_of_lt enough)
      have later := ih others (show trailers.length < fuel by simpa using enough)
      have goesOn : line.isEmpty = false := by simpa using some
      rw [List.flatMap_cons, List.append_assoc, skipTrailers, readLine_writeLine ended oneLine]
      simp only [bind, Except.bind, goesOn, later]
      rfl

theorem readChunkSize_write {size : Nat} {spelling extension : List Char}
    (spelled : Number.Spells 16 size spelling) (fits : size < lengthBound)
    (proper : IsExtension extension) : readChunkSize (spelling ++ extension) = .ok size := by
  have read := Number.readDigits?_of_spells (by decide) (by decide) spelled
  have whole : ';' ∉ spelling := not_mem_of_digits read (by decide)
  have inFront : (spelling ++ extension).takeWhile (· ≠ ';') = spelling := by
    cases extension with
    | nil =>
        rw [List.append_nil, List.takeWhile_eq_self_iff]
        exact fun c member => decide_eq_true fun same => whole (same ▸ member)
    | cons c extension =>
        obtain ⟨absent | semicolon, -⟩ := proper
        · contradiction
        · obtain rfl : c = ';' := Option.some.inj semicolon
          exact takeWhile_ne whole extension
  have number : Number.hexUInt64? spelling = some size :=
    Number.natural?_of_spells (by decide) (by decide) spelled fits
  rw [readChunkSize, inFront, trim_of_digits read, number]

theorem onOneLine_sizeLine {size : Nat} {spelling extension : List Char}
    (spelled : Number.Spells 16 size spelling) (proper : IsExtension extension) :
    OnOneLine (spelling ++ extension) :=
  (onOneLine_of_digits (Number.readDigits?_of_spells (by decide) (by decide) spelled)).append
    proper.2

variable {last extension : List Char} {trailers : List (List Char)}

/-- The empty chunk ends a body, after its trailers. -/
theorem readChunks_last (ended : Bool) (spelled : Number.Spells 16 0 last)
    (proper : IsExtension extension) (lines : ∀ line ∈ trailers, line ≠ [] ∧ OnOneLine line)
    (enough : 0 < fuel) (rest : List UInt8) :
    readChunks ended fuel (writeLine (last ++ extension) ++
        (trailers.flatMap writeLine ++ (writeLine [] ++ rest))) = .ok (⟨[], 0⟩, rest) := by
  obtain ⟨fuel, rfl⟩ := Nat.exists_eq_add_one.mpr enough
  have size := readChunkSize_write spelled (by decide) proper
  have room := length_le_flatMap trailers fun line _ => length_writeLine_pos line
  have enough : trailers.length <
      (trailers.flatMap writeLine ++ (writeLine [] ++ rest)).length + 1 := by
    simp only [List.length_append]
    omega
  have skipped := skipTrailers_write ended lines enough rest
  rw [readChunks, readLine_writeLine ended (onOneLine_sizeLine spelled proper)]
  simp only [bind, Except.bind, size, orFail, Except.mapError, if_true, skipped]
  rfl

theorem readChunks_write (ended : Bool) {pieces : List Chunk}
    (proper : ∀ chunk ∈ pieces, chunk.IsProper) (spelled : Number.Spells 16 0 last)
    (behind : IsExtension extension) (lines : ∀ line ∈ trailers, line ≠ [] ∧ OnOneLine line)
    (enough : pieces.length < fuel) (rest : List UInt8) :
    readChunks ended fuel (pieces.flatMap Chunk.write ++ (writeLine (last ++ extension) ++
        (trailers.flatMap writeLine ++ (writeLine [] ++ rest)))) =
      .ok (⟨pieces.flatMap (·.data), (pieces.flatMap (·.data)).length⟩, rest) := by
  induction pieces generalizing fuel with
  | nil => exact readChunks_last ended spelled behind lines enough rest
  | cons chunk pieces ih =>
      obtain ⟨⟨some, bound, sized, inLine⟩, others⟩ := List.forall_mem_cons.mp proper
      obtain ⟨fuel, rfl⟩ := Nat.exists_eq_add_one.mpr (Nat.zero_lt_of_lt enough)
      have later := ih others (show pieces.length < fuel by simpa using enough)
      have size := readChunkSize_write sized bound inLine
      have notLast : chunk.data.length ≠ 0 := by simpa using some
      rw [List.flatMap_cons, Chunk.write, List.append_assoc, List.append_assoc, List.append_assoc,
        readChunks, readLine_writeLine ended (onOneLine_sizeLine sized inLine)]
      simp only [bind, Except.bind, size, orFail, Except.mapError, if_neg notLast,
        takeBytes_append, readLine_empty, later]
      simp
      rfl

theorem length_write_pos (chunk : Chunk) : 0 < chunk.write.length := by
  have line := length_writeLine_pos (chunk.size ++ chunk.extension)
  rw [Chunk.write, List.length_append]
  omega

/-- A body that fits its head is read to its end and no further. -/
theorem readBody_write (ended : Bool) (fits : payload.Fits head)
    (delimited : payload.IsDelimited) (rest : List UInt8) :
    readBody ended head (payload.write ++ rest) =
      .ok (⟨payload.data, payload.data.length⟩, rest) := by
  rw [readBody, fits.framing_eq]
  cases payload with
  | absent => rfl
  | whole data =>
      simp only [orFail, Except.mapError, Payload.framing, Payload.write, Payload.data, bind,
        Except.bind, takeBytes_append]
      rfl
  | chunks pieces last extension trailers =>
      obtain ⟨-, -, proper, spelled, behind, lines⟩ := fits
      have room := length_le_flatMap pieces fun chunk _ => length_write_pos chunk
      have enough : pieces.length <
          ((Payload.chunks pieces last extension trailers).write ++ rest).length + 1 := by
        simp only [Payload.write, List.length_append]
        omega
      have bytes : (Payload.chunks pieces last extension trailers).write ++ rest =
          pieces.flatMap Chunk.write ++ (writeLine (last ++ extension) ++
            (trailers.flatMap writeLine ++ (writeLine [] ++ rest))) := by simp [Payload.write]
      have read := readChunks_write ended proper spelled behind lines enough rest
      rw [← bytes] at read
      exact read
  | untilClose => exact delimited.elim

theorem readResponse_write {response : Response} (wellFormed : response.IsWellFormed)
    (delimited : response.payload.IsDelimited) (ended : Bool) (further : List UInt8) :
    ∃ unread, readHead ended (response.write ++ further) = .ok (response.head, unread) ∧
      readBody ended response.head unread =
        .ok (⟨response.payload.data, response.payload.data.length⟩, further) := by
  refine ⟨response.payload.write ++ further, ?_, ?_⟩
  · rw [Response.write, List.append_assoc]
    exact readHead_write ended wellFormed _
  · exact readBody_write ended wellFormed.payload delimited further

/-- A chunk that reads like the end of a body. -/
def lookalikeChunk : Chunk where
  size := "0A".toList
  extension := ";note".toList
  data := Text.Utf8.encode "0\r\n\r\nHTTP/".toList

theorem lookalikeChunk_proper : lookalikeChunk.IsProper := by
  have size : Number.Spells 16 lookalikeChunk.data.length lookalikeChunk.size := ⟨1, by decide⟩
  exact ⟨by decide, by decide, size, by decide⟩

def lookalike : Response where
  head := ⟨200, [("Last-Modified", "Tue"), ("Transfer-Encoding", "Chunked")]⟩
  reason := "OK".toList
  payload := .chunks [lookalikeChunk] "00".toList [] ["X-Trailer: yes".toList]

theorem lookalike_wellFormed : lookalike.IsWellFormed where
  minor := by decide
  status := by decide
  count := by decide
  headers := by decide
  reason := by decide
  payload := by
    have announced : lookalike.head.AnnouncesChunks :=
      ⟨"Chunked", by decide, [], [], by decide⟩
    have proper : ∀ chunk ∈ [lookalikeChunk], chunk.IsProper := by
      simp [lookalikeChunk_proper]
    exact ⟨by decide, announced, proper, ⟨1, by decide⟩, by decide, by decide⟩

theorem lookalike_read :
    lookalike.IsWellFormed ∧ lookalike.payload.IsDelimited ∧
      ∃ unread, readHead false (lookalike.write ++ lookalike.write) = .ok (lookalike.head, unread) ∧
        readBody false lookalike.head unread = .ok (⟨lookalikeChunk.data, 10⟩, lookalike.write) :=
  ⟨lookalike_wellFormed, trivial,
    readResponse_write lookalike_wellFormed trivial false lookalike.write⟩

end PrintConnector.Http
