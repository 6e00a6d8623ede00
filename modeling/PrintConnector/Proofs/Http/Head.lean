import PrintConnector.Proofs.Http.Line
import PrintConnector.Proofs.Number.Numeral
import PrintConnector.Proofs.Text.Blank

namespace PrintConnector.Http

open PrintConnector.Text (trim occurs)

variable {ended : Bool} {head : Head} {payload : Payload} {rest : List UInt8}

theorem OnOneLine.append {front back : List Char} (first : OnOneLine front)
    (second : OnOneLine back) : OnOneLine (front ++ back) := by
  intro c member
  rcases List.mem_append.mp member with inFront | inBack
  · exact first c inFront
  · exact second c inBack

theorem OnOneLine.cons {c : Char} {text : List Char} (first : c ≠ '\n' ∧ c ≠ '\r')
    (second : OnOneLine text) : OnOneLine (c :: text) :=
  List.forall_mem_cons.mpr ⟨first, second⟩

theorem OnOneLine.nil : OnOneLine [] := by
  simp [OnOneLine]

/-- Text that is spelled in digits holds no character below the letters that is
no digit. -/
theorem not_mem_of_digits {base value : Nat} {text : List Char} {c : Char}
    (read : Number.readDigits? base 0 text = some value)
    (apart : c.toNat < 48 ∨ (57 < c.toNat ∧ c.toNat < 65)) : c ∉ text := by
  intro member
  have code := Number.code_of_digit (Number.isDigit_of_readDigits? read c member)
  omega

theorem onOneLine_of_digits {base value : Nat} {text : List Char}
    (read : Number.readDigits? base 0 text = some value) : OnOneLine text := by
  intro c member
  constructor
  · rintro rfl
    exact not_mem_of_digits read (by decide) member
  · rintro rfl
    exact not_mem_of_digits read (by decide) member

theorem readDigits?_digits (value : Nat) :
    Number.readDigits? 10 0 (Number.digits value) = some value :=
  Number.readDigits?_toDigits (by decide) (by decide) value

theorem readStatus?_statusLine {minor reason : List Char} {status : Nat}
    (oneWord : ' ' ∉ minor) (fits : status < 65536) :
    readStatus? (statusLine minor status reason) = some status := by
  have version : ' ' ∉ "HTTP/1.".toList ++ minor := by
    rw [List.mem_append]
    rintro (inName | inMinor)
    · exact absurd inName (by decide)
    · exact oneWord inMinor
  have number : ' ' ∉ Number.digits status :=
    not_mem_of_digits (readDigits?_digits status) (by decide)
  have named : "HTTP/1.".toList.isPrefixOf ("HTTP/1.".toList ++ minor) = true := by
    rw [List.isPrefixOf_iff_prefix]
    exact List.prefix_append ..
  have line (version : List Char) :
      version ++ ' ' :: Number.digits status ++ ' ' :: reason =
        version ++ ' ' :: (Number.digits status ++ ' ' :: reason) := by simp
  unfold statusLine readStatus?
  rw [line, takeWhile_ne version, dropWhile_ne version]
  refine (if_pos named).trans ?_
  rw [takeWhile_ne number, Number.uint16?_digits fits]

theorem trim_blank (text : List Char) : trim (' ' :: text) = trim text := by
  have blank : Text.isBlank ' ' = true := by decide
  rw [trim, Text.trimStart, List.dropWhile_cons, blank]
  rfl

theorem IsHeader.onOneLine {header : String × String} (proper : IsHeader header) :
    OnOneLine (header.1.toList ++ ':' :: ' ' :: header.2.toList) := by
  obtain ⟨-, -, name, -, value⟩ := proper
  exact name.append (.cons (by decide) (.cons (by decide) value))

theorem readHeader?_line {name value : String} (named : trim name.toList = name.toList)
    (trimmed : trim value.toList = value.toList) (oneName : ':' ∉ name.toList) :
    readHeader? (name.toList ++ ':' :: ' ' :: value.toList) = some (name, value) := by
  rw [readHeader?, dropWhile_ne oneName, takeWhile_ne oneName]
  simp only
  rw [named, trim_blank, trimmed, String.ofList_toList, String.ofList_toList]

theorem readHeader?_write {header : String × String} (proper : IsHeader header) :
    readHeader? (header.1.toList ++ ':' :: ' ' :: header.2.toList) = some header := by
  obtain ⟨named, trimmed, -, oneName, -⟩ := proper
  exact readHeader?_line named trimmed oneName

/-- An empty line ends the headers, however many there may still be. -/
theorem readHeaders_empty {room : Nat} {ended : Bool} {line : List Char} {bytes rest : List UInt8}
    (read : readLine ended bytes = .ok (line, rest)) (last : line.isEmpty = true) :
    readHeaders ended room bytes = .ok ([], rest) := by
  cases room with
  | zero | succ room =>
      rw [readHeaders, read]
      simp only [bind, Except.bind, last, if_true]
      rfl

theorem readHeaders_write (ended : Bool) {headers : List (String × String)}
    (proper : ∀ header ∈ headers, IsHeader header) {room : Nat} (fits : headers.length ≤ room)
    (rest : List UInt8) :
    readHeaders ended room (headers.flatMap writeHeader ++ writeLine [] ++ rest) =
      .ok (headers, rest) := by
  induction headers generalizing room with
  | nil =>
      rw [List.flatMap_nil, List.nil_append]
      exact readHeaders_empty (readLine_writeLine ended .nil rest) rfl
  | cons header headers ih =>
      obtain ⟨first, others⟩ := List.forall_mem_cons.mp proper
      have oneLine := first.onOneLine
      cases room with
      | zero => contradiction
      | succ room =>
          have later := ih others (Nat.le_of_succ_le_succ fits)
          have line : (header :: headers).flatMap writeHeader ++ writeLine [] ++ rest =
              writeLine (header.1.toList ++ ':' :: ' ' :: header.2.toList) ++
                (headers.flatMap writeHeader ++ writeLine [] ++ rest) := by
            simp [writeHeader]
          rw [line, readHeaders, readLine_writeLine ended oneLine]
          simp only [bind, Except.bind, readHeader?_write first, later]
          simp
          rfl

theorem Response.IsWellFormed.onOneLine_statusLine {response : Response}
    (proper : response.IsWellFormed) :
    OnOneLine (statusLine response.minor response.head.status response.reason) := by
  have version : OnOneLine "HTTP/1.".toList := by decide
  have number := onOneLine_of_digits (readDigits?_digits response.head.status)
  exact ((version.append proper.minor.1).append (.cons (by decide) number)).append
    (.cons (by decide) proper.reason)

theorem readHead_write (ended : Bool) {response : Response} (proper : response.IsWellFormed)
    (rest : List UInt8) :
    readHead ended (response.writeHead ++ rest) = .ok (response.head, rest) := by
  have oneLine := proper.onOneLine_statusLine
  have headers := readHeaders_write ended proper.headers proper.count rest
  rw [Response.writeHead, List.append_assoc, readHead, readLine_writeLine ended oneLine]
  simp only [bind, Except.bind, readStatus?_statusLine proper.minor.2 proper.status, headers]
  rfl

theorem occurs_iff_infix {word text : List Char} : occurs word text = true ↔ word <:+: text := by
  induction text with
  | nil => simp [occurs]
  | cons c text ih =>
      rw [occurs, Bool.or_eq_true, ih, List.infix_cons_iff, Option.isSome_iff_exists]
      have atFront : (∃ rest, Text.after? word (c :: text) = some rest) ↔ word <+: c :: text := by
        constructor
        · rintro ⟨rest, found⟩
          exact ⟨rest, (Text.after?_eq_some_iff.mp found).symm⟩
        · rintro ⟨rest, same⟩
          exact ⟨rest, Text.after?_eq_some_iff.mpr same.symm⟩
      rw [atFront]

theorem trim_of_digits {base value : Nat} {text : List Char}
    (read : Number.readDigits? base 0 text = some value) : trim text = text := by
  have solid : ∀ c ∈ text, Text.isBlank c = false := fun c member =>
    Number.not_isBlank_of_digit (Number.isDigit_of_readDigits? read c member)
  exact Text.trim_eq_self_iff.mpr ⟨fun c first => solid c (List.mem_of_mem_head? first),
    fun c last => solid c (List.mem_of_mem_getLast? last)⟩

theorem Head.isBodiless_iff : head.isBodiless = true ↔ head.HasNoBody := by
  simp [Head.isBodiless, Head.HasNoBody, or_assoc]

/-- How the end of a payload is known. -/
def Payload.framing : Payload → Framing
  | .absent => .empty
  | .whole data => .length data.length
  | .chunks .. => .chunked
  | .untilClose _ => .untilClose

theorem Head.announcesChunks_iff :
    ((head.header? "transfer-encoding").map (mentions "chunked")).getD false = true ↔
      head.AnnouncesChunks := by
  unfold Head.AnnouncesChunks
  cases head.header? "transfer-encoding" with
  | none => simp
  | some value => simp [mentions, occurs_iff_infix]

/-- A head tells how a payload that fits it ends. -/
theorem Payload.Fits.framing_eq (fits : payload.Fits head) :
    head.framing = .ok payload.framing := by
  cases payload with
  | absent =>
      rw [Head.framing, if_pos (Head.isBodiless_iff.mpr fits)]
      rfl
  | whole data =>
      obtain ⟨body, notChunked, ⟨value, header, spelled⟩, bound⟩ := fits
      have read := Number.readDigits?_of_spells (by decide) (by decide) spelled
      have length := Number.natural?_of_spells (by decide) (by decide) spelled bound
      rw [Head.framing, if_neg (mt Head.isBodiless_iff.mp body),
        if_neg (mt Head.announcesChunks_iff.mp notChunked), header]
      simp only [trim_of_digits read, Number.uint64?]
      rw [← lengthBound, length]
      rfl
  | chunks pieces last extension trailers =>
      obtain ⟨body, chunked, -⟩ := fits
      rw [Head.framing, if_neg (mt Head.isBodiless_iff.mp body),
        if_pos (Head.announcesChunks_iff.mpr chunked)]
      rfl
  | untilClose data =>
      obtain ⟨body, notChunked, noLength⟩ := fits
      rw [Head.framing, if_neg (mt Head.isBodiless_iff.mp body),
        if_neg (mt Head.announcesChunks_iff.mp notChunked), noLength]
      rfl

end PrintConnector.Http
