import PrintConnector.Proofs.Http.Body

/-! A response that is cut short is not taken for a shorter one.

The last line before the connection ends needs no end, so a line that was cut may
be read as a shorter line.  But nothing is left behind it, and every reader that
goes on after a line needs more.  Only the empty line that ends a head or the
trailers is the last thing a reader needs, and there is nothing in it to lose but
its end.
-/

namespace PrintConnector.Http

open PrintConnector.Text.Utf8 (encode decode?)

variable {α : Type} {line : List Char} {cut behind : List UInt8} {fuel room : Nat}

/-- The first part of two pieces ends inside the first one, or reaches into the
second. -/
theorem prefix_append_cases {part front back : List α} (first : part <+: front ++ back) :
    (∃ missing, missing ≠ [] ∧ part ++ missing = front) ∨
      ∃ more, part = front ++ more ∧ more <+: back := by
  obtain ⟨rest, whole⟩ := first
  rcases List.append_eq_append_iff.mp whole with ⟨missing, rfl, -⟩ | ⟨more, rfl, rfl⟩
  · by_cases nothing : missing = []
    · exact .inr ⟨[], by simp [nothing], List.nil_prefix⟩
    · exact .inl ⟨missing, nothing, rfl⟩
  · exact .inr ⟨more, rfl, List.prefix_append ..⟩

/-- The reader stopped with an error and not to wait for more. -/
def Fails (result : Except Stop α) : Prop :=
  ∃ error, result = .error (.failed error)

theorem Fails.bind {β : Type} {first : Except Stop α} (fails : Fails first)
    (next : α → Except Stop β) : Fails (first >>= next) := by
  obtain ⟨error, rfl⟩ := fails
  exact ⟨error, rfl⟩

theorem fails_bind_of_ok {β : Type} {first : Except Stop α} {value : α}
    {next : α → Except Stop β} (done : first = .ok value) (fails : Fails (next value)) :
    Fails (first >>= next) := by
  rw [done]
  exact fails

theorem readLine_nil : Fails (readLine true []) :=
  ⟨_, rfl⟩

theorem readHeaders_nil : Fails (readHeaders true room []) := by
  rw [readHeaders.eq_def]
  exact readLine_nil.bind _

theorem skipTrailers_nil : Fails (skipTrailers true fuel []) := by
  cases fuel with
  | zero => exact ⟨_, rfl⟩
  | succ fuel => exact readLine_nil.bind _

theorem readChunks_nil : Fails (readChunks true fuel []) := by
  cases fuel with
  | zero => exact ⟨_, rfl⟩
  | succ fuel => exact readLine_nil.bind _

theorem takeBytes_short {count : Nat} (short : cut.length < count) :
    Fails (takeBytes true count cut) := by
  have missing : (cut.take count).length ≠ count := by
    rw [List.length_take]
    omega
  rw [takeBytes, if_neg missing]
  exact ⟨_, rfl⟩

/-- What is read of a line before all of it is there. -/
inductive Shortened (line : List Char) (cut : List UInt8) : Prop where
  | fails (failed : Fails (readLine true cut))
  /-- The line may come out shorter, and nothing is left behind it.  Only an empty
  line comes out empty. -/
  | read (front : List Char) (read : readLine true cut = .ok (front, []))
      (inside : front <+: line) (empty : front = [] → line = [])

/-- The first characters of a written line, without its end, are the first ones of
the line. -/
theorem dropLineEnd_prefix {read : List Char} (oneLine : OnOneLine line)
    (part : read <+: line ++ ['\r', '\n']) :
    dropLineEnd read <+: line ∧ (dropLineEnd read = [] → read ≠ [] → line = []) := by
  rcases prefix_append_cases part with ⟨missing, -, rfl⟩ | ⟨ending, rfl, atEnd⟩
  · have still : OnOneLine read := fun c member => oneLine c (List.mem_append_left _ member)
    have same : dropLineEnd read = read := by
      have dropped : dropLineEnd (read ++ []) = read := dropLineEnd_of_ends still (by simp)
      rwa [List.append_nil] at dropped
    rw [same]
    exact ⟨List.prefix_append .., fun nothing solid => absurd nothing solid⟩
  · have ends : ∀ c ∈ ending, isLineEnd c = true := by
      intro c member
      have among := atEnd.subset member
      simp only [List.mem_cons, List.not_mem_nil, or_false] at among
      rcases among with rfl | rfl <;> rfl
    rw [dropLineEnd_of_ends oneLine ends]
    exact ⟨List.prefix_rfl, fun nothing _ => nothing⟩

theorem readLine_unended (solid : cut ≠ []) (unended : lineFeed ∉ cut) :
    readLine true cut = match decode? cut with
      | some text => .ok (dropLineEnd text, [])
      | none => .error (.failed (.io .invalidData "stream did not contain valid UTF-8")) := by
  have before : ∀ byte ∈ cut, decide (byte ≠ lineFeed) = true := fun byte member =>
    decide_eq_true fun same => unended (same ▸ member)
  have split : splitLine cut = (cut, []) := by
    rw [splitLine, List.takeWhile_eq_self_iff.mpr before, List.dropWhile_eq_nil_iff.mpr before]
  have notEmpty : cut.isEmpty = false := by simpa using solid
  rw [readLine, notEmpty, split]
  rfl

theorem readLine_cut (oneLine : OnOneLine line) {missing : List UInt8} (lacks : missing ≠ [])
    (written : cut ++ missing = writeLine line) : Shortened line cut := by
  by_cases nothing : cut = []
  · exact .fails (nothing ▸ readLine_nil)
  · have text : '\n' ∉ line := fun member => (oneLine _ member).1 rfl
    have unended : lineFeed ∉ cut := by
      -- The only line feed of a written line is its last byte, which is missing.
      have whole := writeLine_append line []
      rw [List.append_nil, ← written] at whole
      rcases List.append_eq_append_iff.mp whole with ⟨more, inside, -⟩ | ⟨more, rfl, last⟩
      · intro member
        have among : lineFeed ∈ encode line ++ [0x0D] := by
          rw [inside]
          exact List.mem_append_left _ member
        rcases List.mem_append.mp among with inLine | atEnd
        · exact Text.Utf8.lineFeed_not_mem_encode text inLine
        · exact absurd atEnd (by decide)
      · have short : more = [] := by
          cases more with
          | nil => rfl
          | cons byte more =>
              have none := (List.cons.inj last).2
              simp [lacks] at none
        subst short
        rw [List.append_nil]
        intro member
        rcases List.mem_append.mp member with inLine | atEnd
        · exact Text.Utf8.lineFeed_not_mem_encode text inLine
        · exact absurd atEnd (by decide)
    have read := readLine_unended nothing unended
    cases decoded : decode? cut with
    | none =>
        rw [decoded] at read
        exact .fails ⟨_, read⟩
    | some characters =>
        rw [decoded] at read
        have part := Text.Utf8.decode?_prefix written decoded
        obtain ⟨inside, empty⟩ := dropLineEnd_prefix oneLine part
        refine .read _ read inside fun none => empty none ?_
        rintro rfl
        cases cut with
        | nil => exact nothing rfl
        | cons byte cut =>
            rw [Text.Utf8.decode?_cons] at decoded
            cases first : (Text.Utf8.readPiece byte cut).1 <;> simp [first] at decoded

/-- A reader either fails or reads the whole of a value, and what it leaves is a
part of what follows. -/
def FailsOrReads (result : Except Stop (α × List UInt8)) (value : α) (rest : List UInt8) : Prop :=
  Fails result ∨ ∃ more, result = .ok (value, more) ∧ more <+: rest

variable {rest : List UInt8}

theorem readHeaders_shortened (shortened : Shortened line cut) (goesOn : line ≠ []) :
    Fails (readHeaders true room cut) := by
  rw [readHeaders.eq_def]
  cases shortened with
  | fails failed => exact failed.bind _
  | read front read inside empty =>
      refine fails_bind_of_ok read ?_
      have solid : front.isEmpty = false := by
        rw [List.isEmpty_eq_false_iff]
        exact mt empty goesOn
      simp only [solid]
      cases room with
      | zero => exact ⟨_, rfl⟩
      | succ room =>
          cases readHeader? front with
          | none => exact ⟨_, rfl⟩
          | some header => exact readHeaders_nil.bind _

theorem readHeaders_cut {headers : List (String × String)}
    (proper : ∀ header ∈ headers, IsHeader header) (fits : headers.length ≤ room)
    (part : cut <+: headers.flatMap writeHeader ++ (writeLine [] ++ rest)) :
    FailsOrReads (readHeaders true room cut) headers rest := by
  induction headers generalizing cut room with
  | nil =>
      rw [List.flatMap_nil, List.nil_append] at part
      rcases prefix_append_cases part with ⟨missing, lacks, written⟩ | ⟨more, rfl, front⟩
      · cases readLine_cut OnOneLine.nil lacks written with
        | fails failed =>
            rw [readHeaders.eq_def]
            exact .inl (failed.bind _)
        | read front read inside empty =>
            obtain rfl := List.prefix_nil.mp inside
            exact .inr ⟨[], readHeaders_empty read rfl, List.nil_prefix⟩
      · exact .inr ⟨more, readHeaders_empty (readLine_empty true more) rfl, front⟩
  | cons header headers ih =>
      obtain ⟨first, others⟩ := List.forall_mem_cons.mp proper
      obtain ⟨room, rfl⟩ := Nat.exists_eq_add_one.mpr (Nat.zero_lt_of_lt fits)
      have oneLine := first.onOneLine
      rw [List.flatMap_cons, List.append_assoc] at part
      rcases prefix_append_cases part with ⟨missing, lacks, written⟩ | ⟨more, rfl, front⟩
      · exact .inl (readHeaders_shortened (readLine_cut oneLine lacks written) (by simp))
      · have later := ih others (Nat.le_of_succ_le_succ fits) front
        have goesOn : (header.1.toList ++ ':' :: ' ' :: header.2.toList).isEmpty = false := by simp
        have read := readLine_writeLine true oneLine more
        rw [FailsOrReads, readHeaders, writeHeader, read]
        simp only [bind, Except.bind, readHeader?_write first, goesOn]
        rcases later with ⟨error, failed⟩ | ⟨unread, read, left⟩
        · rw [failed]
          exact .inl ⟨error, rfl⟩
        · rw [read]
          exact .inr ⟨unread, rfl, left⟩

theorem readHead_cut {response : Response} (proper : response.IsWellFormed)
    (part : cut <+: response.writeHead ++ rest) :
    FailsOrReads (readHead true cut) response.head rest := by
  have oneLine := proper.onOneLine_statusLine
  rw [Response.writeHead, List.append_assoc, List.append_assoc] at part
  rcases prefix_append_cases part with ⟨missing, lacks, written⟩ | ⟨more, rfl, front⟩
  · left
    rw [readHead]
    cases readLine_cut oneLine lacks written with
    | fails failed => exact failed.bind _
    | read front read inside empty =>
        refine fails_bind_of_ok read ?_
        cases known : readStatus? front with
        | none =>
            simp only [known]
            exact ⟨_, rfl⟩
        | some status =>
            simp only [known]
            exact readHeaders_nil.bind _
  · have headers := readHeaders_cut proper.headers proper.count front
    rw [FailsOrReads, readHead, readLine_writeLine true oneLine]
    simp only [bind, Except.bind, readStatus?_statusLine proper.minor.2 proper.status]
    rcases headers with ⟨error, failed⟩ | ⟨unread, read, left⟩
    · rw [failed]
      exact .inl ⟨error, rfl⟩
    · rw [read]
      exact .inr ⟨unread, rfl, left⟩

theorem skipTrailers_cut {trailers : List (List Char)}
    (proper : ∀ line ∈ trailers, line ≠ [] ∧ OnOneLine line) (enough : cut.length < fuel)
    (part : cut <+: trailers.flatMap writeLine ++ (writeLine [] ++ rest)) :
    Fails (skipTrailers true fuel cut) ∨
      ∃ more, skipTrailers true fuel cut = .ok more ∧ more <+: rest := by
  induction trailers generalizing cut fuel with
  | nil =>
      obtain ⟨fuel, rfl⟩ := Nat.exists_eq_add_one.mpr (Nat.zero_lt_of_lt enough)
      rw [List.flatMap_nil, List.nil_append] at part
      rw [skipTrailers]
      rcases prefix_append_cases part with ⟨missing, lacks, written⟩ | ⟨more, rfl, front⟩
      · cases readLine_cut OnOneLine.nil lacks written with
        | fails failed => exact .inl (failed.bind _)
        | read front read inside empty =>
            obtain rfl := List.prefix_nil.mp inside
            rw [read]
            exact .inr ⟨[], rfl, List.nil_prefix⟩
      · rw [readLine_empty]
        exact .inr ⟨more, rfl, front⟩
  | cons line trailers ih =>
      obtain ⟨⟨solid, oneLine⟩, others⟩ := List.forall_mem_cons.mp proper
      obtain ⟨fuel, rfl⟩ := Nat.exists_eq_add_one.mpr (Nat.zero_lt_of_lt enough)
      rw [List.flatMap_cons, List.append_assoc] at part
      rw [skipTrailers]
      rcases prefix_append_cases part with ⟨missing, lacks, written⟩ | ⟨more, rfl, front⟩
      · left
        cases readLine_cut oneLine lacks written with
        | fails failed => exact failed.bind _
        | read front read inside empty =>
            refine fails_bind_of_ok read ?_
            have goesOn : front.isEmpty = false := List.isEmpty_eq_false_iff.mpr (mt empty solid)
            simp only [goesOn]
            exact skipTrailers_nil
      · have taken := length_writeLine_pos line
        rw [List.length_append] at enough
        have goesOn : line.isEmpty = false := List.isEmpty_eq_false_iff.mpr solid
        rw [readLine_writeLine true oneLine]
        simp only [bind, Except.bind, goesOn]
        exact ih others (by omega) front

/-- The line with the size of a chunk is never the last one. -/
theorem readChunks_shortened (shortened : Shortened line cut) :
    Fails (readChunks true fuel cut) := by
  cases fuel with
  | zero => exact ⟨_, rfl⟩
  | succ fuel =>
      rw [readChunks]
      cases shortened with
      | fails failed => exact failed.bind _
      | read front read inside empty =>
          refine fails_bind_of_ok read ?_
          cases sized : readChunkSize front with
          | error error =>
              simp only [sized]
              exact ⟨error, rfl⟩
          | ok size =>
              simp only [sized]
              refine fails_bind_of_ok rfl ?_
              by_cases last : size = 0
              · simp only [last, if_true]
                exact skipTrailers_nil.bind _
              · have short : ([] : List UInt8).length < size := Nat.pos_of_ne_zero last
                simp only [last, if_false]
                exact (takeBytes_short short).bind _

variable {last extension : List Char} {trailers : List (List Char)}

theorem readChunks_last_cut (spelled : Number.Spells 16 0 last) (proper : IsExtension extension)
    (lines : ∀ line ∈ trailers, line ≠ [] ∧ OnOneLine line) (enough : cut.length < fuel)
    (part : cut <+: writeLine (last ++ extension) ++
      (trailers.flatMap writeLine ++ (writeLine [] ++ rest))) :
    FailsOrReads (readChunks true fuel cut) ⟨[], 0⟩ rest := by
  have oneLine := onOneLine_sizeLine spelled proper
  obtain ⟨fuel, rfl⟩ := Nat.exists_eq_add_one.mpr (Nat.zero_lt_of_lt enough)
  rcases prefix_append_cases part with ⟨missing, lacks, written⟩ | ⟨more, rfl, front⟩
  · exact .inl (readChunks_shortened (readLine_cut oneLine lacks written))
  · have size := readChunkSize_write spelled (by decide) proper
    rw [FailsOrReads, readChunks, readLine_writeLine true oneLine]
    simp only [bind, Except.bind, size, orFail, Except.mapError, if_true]
    rcases skipTrailers_cut lines (Nat.lt_succ_self more.length) front with
      ⟨error, failed⟩ | ⟨unread, skipped, left⟩
    · rw [failed]
      exact .inl ⟨error, rfl⟩
    · rw [skipped]
      exact .inr ⟨unread, rfl, left⟩

theorem readChunks_cut {pieces : List Chunk} (proper : ∀ chunk ∈ pieces, chunk.IsProper)
    (spelled : Number.Spells 16 0 last) (behind : IsExtension extension)
    (lines : ∀ line ∈ trailers, line ≠ [] ∧ OnOneLine line) (enough : cut.length < fuel)
    (part : cut <+: pieces.flatMap Chunk.write ++ (writeLine (last ++ extension) ++
      (trailers.flatMap writeLine ++ (writeLine [] ++ rest)))) :
    FailsOrReads (readChunks true fuel cut)
      ⟨pieces.flatMap (·.data), (pieces.flatMap (·.data)).length⟩ rest := by
  induction pieces generalizing cut fuel with
  | nil => exact readChunks_last_cut spelled behind lines enough part
  | cons chunk pieces ih =>
      obtain ⟨⟨solid, bound, sized, inLine⟩, others⟩ := List.forall_mem_cons.mp proper
      obtain ⟨fuel, rfl⟩ := Nat.exists_eq_add_one.mpr (Nat.zero_lt_of_lt enough)
      have oneLine := onOneLine_sizeLine sized inLine
      rw [List.flatMap_cons, Chunk.write, List.append_assoc, List.append_assoc,
        List.append_assoc] at part
      rcases prefix_append_cases part with ⟨missing, lacks, written⟩ | ⟨content, rfl, inContent⟩
      · exact .inl (readChunks_shortened (readLine_cut oneLine lacks written))
      · have size := readChunkSize_write sized bound inLine
        have notLast : chunk.data.length ≠ 0 := by simpa using solid
        rw [FailsOrReads, readChunks, readLine_writeLine true oneLine]
        simp only [bind, Except.bind, size, orFail, Except.mapError, if_neg notLast]
        rcases prefix_append_cases inContent with ⟨missing, lacks, data⟩ | ⟨ending, rfl, inEnding⟩
        · have short : content.length < chunk.data.length := by
            have some := List.length_pos_of_ne_nil lacks
            rw [← data, List.length_append]
            omega
          obtain ⟨error, failed⟩ := takeBytes_short short
          rw [failed]
          exact .inl ⟨error, rfl⟩
        simp only [takeBytes_append]
        rcases prefix_append_cases inEnding with
          ⟨missing, lacks, written⟩ | ⟨following, rfl, inFollowing⟩
        · -- The data is complete, but the next size is missing.
          cases readLine_cut OnOneLine.nil lacks written with
          | fails failed =>
              obtain ⟨error, failed⟩ := failed
              simp only [failed]
              exact .inl ⟨error, rfl⟩
          | read front read inside empty =>
              obtain rfl := List.prefix_nil.mp inside
              have ended : Fails (readChunks true fuel []) := readChunks_nil
              obtain ⟨error, failed⟩ := ended
              simp only [read, List.isEmpty_nil, if_true, failed]
              exact .inl ⟨error, rfl⟩
        · simp only [List.length_append] at enough
          have taken := length_writeLine_pos []
          have later := ih others (show following.length < fuel by omega) inFollowing
          simp only [readLine_empty, List.isEmpty_nil, if_true]
          rcases later with ⟨error, failed⟩ | ⟨unread, read, left⟩
          · rw [failed]
            exact .inl ⟨error, rfl⟩
          · rw [read]
            refine .inr ⟨unread, ?_, left⟩
            simp
            rfl

theorem readBody_cut {head : Head} {payload : Payload} (fits : payload.Fits head)
    (delimited : payload.IsDelimited) (part : cut <+: payload.write ++ rest) :
    FailsOrReads (readBody true head cut) ⟨payload.data, payload.data.length⟩ rest := by
  rw [readBody, fits.framing_eq]
  cases payload with
  | absent => exact .inr ⟨cut, rfl, part⟩
  | whole data =>
      simp only [orFail, Except.mapError, Payload.framing, Payload.data, bind, Except.bind]
      rcases prefix_append_cases part with ⟨missing, lacks, written⟩ | ⟨more, rfl, front⟩
      · have short : cut.length < data.length := by
          have some := List.length_pos_of_ne_nil lacks
          have whole := congrArg List.length written
          rw [List.length_append] at whole
          simp only [Payload.write] at whole
          omega
        obtain ⟨error, failed⟩ := takeBytes_short short
        rw [failed]
        exact .inl ⟨error, rfl⟩
      · simp only [Payload.write, takeBytes_append]
        exact .inr ⟨more, rfl, front⟩
  | chunks pieces last extension trailers =>
      obtain ⟨-, -, proper, spelled, behind, lines⟩ := fits
      rw [Payload.write, List.append_assoc, List.append_assoc, List.append_assoc] at part
      exact readChunks_cut proper spelled behind lines (Nat.lt_succ_self _) part
  | untilClose => exact delimited.elim

/-- A response that is cut short anywhere fails to be read, or nothing of its body
is missing. -/
theorem readResponse_cut {response : Response} (wellFormed : response.IsWellFormed)
    (delimited : response.payload.IsDelimited) (part : cut <+: response.write) :
    Fails (readHead true cut) ∨
      ∃ unread, readHead true cut = .ok (response.head, unread) ∧
        (Fails (readBody true response.head unread) ∨
          readBody true response.head unread =
            .ok (⟨response.payload.data, response.payload.data.length⟩, [])) := by
  rcases readHead_cut wellFormed part with failed | ⟨unread, read, left⟩
  · exact .inl failed
  · rw [← List.append_nil response.payload.write] at left
    rcases readBody_cut wellFormed.payload delimited left with failed | ⟨more, body, nothing⟩
    · exact .inr ⟨unread, read, .inl failed⟩
    · obtain rfl := List.prefix_nil.mp nothing
      exact .inr ⟨unread, read, .inr body⟩

/-- The first digit of a size is left, and it reads like the size of the last
chunk. -/
theorem lookalike_cut :
    lookalike.IsWellFormed ∧ lookalike.payload.IsDelimited ∧
      lookalike.writeHead ++ [0x30] <+: lookalike.write ∧
      (Fails (readHead true (lookalike.writeHead ++ [0x30])) ∨
        ∃ unread, readHead true (lookalike.writeHead ++ [0x30]) = .ok (lookalike.head, unread) ∧
          (Fails (readBody true lookalike.head unread) ∨
            readBody true lookalike.head unread = .ok (⟨lookalikeChunk.data, 10⟩, []))) := by
  have part : lookalike.writeHead ++ [0x30] <+: lookalike.write := by
    rw [Response.write, List.prefix_append_right_inj]
    decide
  exact ⟨lookalike_wellFormed, trivial, part, readResponse_cut lookalike_wellFormed trivial part⟩

example : readBody true lookalike.head [0x30] = .error closedEarly := by
  cbv

end PrintConnector.Http
