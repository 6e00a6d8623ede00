import PrintConnector.Proofs.Http.Body

namespace PrintConnector.Http

variable {head : Head} {line : List Char} {bytes rest : List UInt8}

theorem bind_ok {α β : Type} {first : Except Stop α} {next : α → Except Stop β} {result : β}
    (done : first >>= next = .ok result) : ∃ value, first = .ok value ∧ next value = .ok result := by
  cases first with
  | error stop => contradiction
  | ok value => exact ⟨value, rfl, done⟩

theorem readLine_more (read : readLine false bytes = .ok (line, rest)) (ended : Bool)
    (more : List UInt8) : readLine ended (bytes ++ more) = .ok (line, rest ++ more) := by
  have feed : lineFeed ∈ bytes := by
    by_contra missing
    simp [readLine, missing] at read
  obtain ⟨front, back, rfl, first⟩ := List.eq_append_cons_of_mem feed
  rw [readLine_of_feed first] at read
  rw [List.append_assoc, List.cons_append, readLine_of_feed first]
  cases decoded : Text.Utf8.decode? (front ++ [lineFeed]) with
  | none => simp [decoded] at read
  | some text =>
      simp only [decoded, Except.ok.injEq, Prod.mk.injEq] at read
      obtain ⟨rfl, rfl⟩ := read
      rfl

theorem readHeaders_more {room : Nat} {headers : List (String × String)}
    (read : readHeaders false room bytes = .ok (headers, rest)) (ended : Bool)
    (more : List UInt8) : readHeaders ended room (bytes ++ more) = .ok (headers, rest ++ more) := by
  induction room generalizing bytes headers with
  | zero =>
      rw [readHeaders] at read
      obtain ⟨⟨line, after⟩, first, read⟩ := bind_ok read
      cases last : line.isEmpty with
      | true =>
          simp only [last, if_true] at read
          obtain ⟨rfl, rfl⟩ := Prod.mk.inj (Except.ok.inj read)
          exact readHeaders_empty (readLine_more first ended more) last
      | false =>
          simp only [last] at read
          contradiction
  | succ room ih =>
      rw [readHeaders] at read
      obtain ⟨⟨line, after⟩, first, read⟩ := bind_ok read
      cases last : line.isEmpty with
      | true =>
          simp only [last, if_true] at read
          obtain ⟨rfl, rfl⟩ := Prod.mk.inj (Except.ok.inj read)
          exact readHeaders_empty (readLine_more first ended more) last
      | false =>
          simp only [last, Bool.false_eq_true, if_false] at read
          cases named : readHeader? line with
          | none =>
              simp only [named] at read
              contradiction
          | some header =>
              simp only [named] at read
              obtain ⟨⟨others, behind⟩, later, read⟩ := bind_ok read
              obtain ⟨rfl, rfl⟩ := Prod.mk.inj (Except.ok.inj read)
              rw [readHeaders, readLine_more first ended more]
              simp only [bind, Except.bind, last, named, ih later]
              rfl

theorem readHead_more (read : readHead false bytes = .ok (head, rest)) (ended : Bool)
    (more : List UInt8) : readHead ended (bytes ++ more) = .ok (head, rest ++ more) := by
  rw [readHead] at read ⊢
  obtain ⟨⟨line, after⟩, first, read⟩ := bind_ok read
  rw [readLine_more first ended more]
  cases known : readStatus? line with
  | none =>
      simp only [known] at read
      contradiction
  | some status =>
      simp only [known] at read
      obtain ⟨⟨headers, behind⟩, later, read⟩ := bind_ok read
      obtain ⟨rfl, rfl⟩ := Prod.mk.inj (Except.ok.inj read)
      simp only [bind, Except.bind, known, readHeaders_more later ended more]
      rfl

theorem takeBytes_more {count : Nat} {data : List UInt8}
    (read : takeBytes false count bytes = .ok (data, rest)) (ended : Bool) (more : List UInt8) :
    takeBytes ended count (bytes ++ more) = .ok (data, rest ++ more) := by
  by_cases enough : count ≤ bytes.length
  · simp [takeBytes, enough] at read
    obtain ⟨rfl, rfl⟩ := read
    simp [takeBytes, List.take_append_of_le_length enough, List.drop_append_of_le_length enough,
      enough]
  · simp [takeBytes, enough] at read

theorem skipTrailers_more {early late : Nat} (read : skipTrailers false early bytes = .ok rest)
    (room : early ≤ late) (ended : Bool) (more : List UInt8) :
    skipTrailers ended late (bytes ++ more) = .ok (rest ++ more) := by
  induction early generalizing bytes late with
  | zero => contradiction
  | succ early ih =>
      obtain ⟨late, rfl⟩ := Nat.exists_eq_add_one.mpr (Nat.lt_of_lt_of_le early.succ_pos room)
      rw [skipTrailers] at read ⊢
      obtain ⟨⟨line, after⟩, first, read⟩ := bind_ok read
      rw [readLine_more first ended more]
      cases last : line.isEmpty with
      | true =>
          simp only [last, if_true] at read
          obtain rfl := Except.ok.inj read
          simp only [bind, Except.bind, last, if_true]
          rfl
      | false =>
          simp only [last, Bool.false_eq_true, if_false] at read
          have later := ih read (Nat.le_of_succ_le_succ room)
          simp only [bind, Except.bind, last, Bool.false_eq_true, if_false, later]

theorem readChunks_more {early late : Nat} {body : Body}
    (read : readChunks false early bytes = .ok (body, rest)) (room : early ≤ late)
    (ended : Bool) (more : List UInt8) :
    readChunks ended late (bytes ++ more) = .ok (body, rest ++ more) := by
  induction early generalizing bytes late body with
  | zero => contradiction
  | succ early ih =>
      obtain ⟨late, rfl⟩ := Nat.exists_eq_add_one.mpr (Nat.lt_of_lt_of_le early.succ_pos room)
      rw [readChunks] at read ⊢
      obtain ⟨⟨line, after⟩, first, read⟩ := bind_ok read
      obtain ⟨size, sized, read⟩ := bind_ok read
      rw [readLine_more first ended more]
      simp only [bind, Except.bind, sized]
      by_cases last : size = 0
      · rw [if_pos last] at read ⊢
        obtain ⟨behind, skipped, read⟩ := bind_ok read
        obtain ⟨rfl, rfl⟩ := Prod.mk.inj (Except.ok.inj read)
        have longer : after.length + 1 ≤ (after ++ more).length + 1 := by simp
        rw [skipTrailers_more skipped longer ended more]
        rfl
      · rw [if_neg last] at read ⊢
        obtain ⟨⟨chunk, behind⟩, taken, read⟩ := bind_ok read
        obtain ⟨⟨gap, onward⟩, second, read⟩ := bind_ok read
        rw [takeBytes_more taken ended more]
        simp only [readLine_more second ended more]
        cases empty : gap.isEmpty with
        | false =>
            simp only [empty] at read
            contradiction
        | true =>
            simp only [empty, if_true] at read
            obtain ⟨⟨others, final⟩, later, read⟩ := bind_ok read
            obtain ⟨rfl, rfl⟩ := Prod.mk.inj (Except.ok.inj read)
            simp only [if_true, ih later (Nat.le_of_succ_le_succ room)]
            rfl

theorem readBody_more {body : Body} (read : readBody false head bytes = .ok (body, rest))
    (ended : Bool) (more : List UInt8) :
    readBody ended head (bytes ++ more) = .ok (body, rest ++ more) := by
  rw [readBody] at read ⊢
  obtain ⟨framing, framed, read⟩ := bind_ok read
  rw [framed]
  cases framing with
  | empty =>
      obtain ⟨rfl, rfl⟩ := Prod.mk.inj (Except.ok.inj read)
      rfl
  | length count =>
      obtain ⟨⟨data, behind⟩, taken, read⟩ := bind_ok read
      obtain ⟨rfl, rfl⟩ := Prod.mk.inj (Except.ok.inj read)
      simp only [bind, Except.bind, takeBytes_more taken ended more]
      rfl
  | untilClose => contradiction
  | chunked =>
      have longer : bytes.length + 1 ≤ (bytes ++ more).length + 1 := by simp
      exact readChunks_more read longer ended more

variable {response : Response} {payload : Payload} {unread coming : List UInt8} {ended : Bool}

/-- A head is read from the bytes of a response as it was written, and the rest
of them is the body. -/
theorem readHead_exact (wellFormed : response.IsWellFormed)
    (written : unread ++ coming = response.write) (whole : ended = true → coming = [])
    (read : readHead ended unread = .ok (head, rest)) :
    head = response.head ∧ rest ++ coming = response.payload.write := by
  have full : readHead ended (unread ++ coming) = .ok (head, rest ++ coming) := by
    cases ended with
    | true =>
        rw [whole rfl, List.append_nil, List.append_nil]
        exact read
    | false => exact readHead_more read false coming
  rw [written, Response.write, readHead_write ended wellFormed] at full
  obtain ⟨same, left⟩ := Prod.mk.inj (Except.ok.inj full)
  exact ⟨same.symm, left.symm⟩

/-- A body is read as it was written, and nothing of it is left. -/
theorem readBody_exact {body : Body} (fits : payload.Fits head)
    (written : unread ++ coming = payload.write) (whole : ended = true → coming = [])
    (read : readBody ended head unread = .ok (body, rest)) :
    body.bytes = payload.data ∧ rest = [] ∧ coming = [] := by
  have full : readBody ended head payload.write = .ok (body, rest ++ coming) := by
    rw [← written]
    cases ended with
    | true =>
        rw [whole rfl, List.append_nil, List.append_nil]
        exact read
    | false => exact readBody_more read false coming
  have exact : readBody ended head payload.write = .ok (⟨payload.data, payload.data.length⟩, []) := by
    cases payload with
    | untilClose data =>
        rw [readBody, fits.framing_eq] at full ⊢
        cases ended with
        | true => rfl
        | false => contradiction
    | absent | whole data | chunks pieces last extension trailers =>
        have delimited := readBody_write ended fits trivial []
        rw [List.append_nil] at delimited
        exact delimited
  rw [exact] at full
  obtain ⟨rfl, left⟩ := Prod.mk.inj (Except.ok.inj full)
  obtain ⟨rfl, rfl⟩ := List.append_eq_nil_iff.mp left.symm
  exact ⟨rfl, rfl, rfl⟩

end PrintConnector.Http
