import PrintConnector.Http.Request
import PrintConnector.Proofs.Http.Stream
import PrintConnector.Proofs.Text.Percent

namespace PrintConnector.Http

open PrintConnector.Text

variable {ended : Bool} {bytes rest : List UInt8} {line piece : List Char}
  {printer other host value : String} {since : Option String}

/-- A text cut at every carriage return with a line feed after it. -/
def crlfPieces : List Char → List (List Char)
  | [] => [[]]
  | '\r' :: '\n' :: rest => [] :: crlfPieces rest
  | c :: rest =>
      match crlfPieces rest with
      | [] => [[c]]
      | first :: others => (c :: first) :: others

def requestLine (path : String) : List Char :=
  "GET ".toList ++ (path.toList ++ " HTTP/1.1".toList)

/-- The lines of a request up to the empty one that ends it. -/
def requestLines (path host : String) (since : Option String) : List (List Char) :=
  [requestLine path, "Host: ".toList ++ host.toList, "User-Agent: printbridge/0.3.0".toList,
    "Connection: keep-alive".toList] ++
    since.toList.map fun date => "If-Modified-Since: ".toList ++ date.toList

/-- The value of a header of some response. -/
def IsHeaderValue (value : String) : Prop :=
  ∃ ended bytes head rest name,
    readHead ended bytes = .ok (head, rest) ∧ (name, value) ∈ head.headers

theorem dropLineEnd_subset (line : List Char) : dropLineEnd line ⊆ line :=
  List.IsPrefix.subset <| List.rdropWhile_prefix isLineEnd line

/-- A line ends at the first line feed, which is not part of it. -/
theorem readLine_oneLine (read : readLine ended bytes = .ok (line, rest)) : '\n' ∉ line := by
  have before : lineFeed ∉ bytes.takeWhile (· ≠ lineFeed) := fun member =>
    absurd (List.mem_takeWhile_imp member) (by simp)
  unfold readLine at read
  split at read
  · contradiction
  split at read
  · contradiction
  simp only at read
  split at read
  · rename_i text decoded
    cases read
    unfold splitLine at decoded
    simp only at decoded
    split at decoded
    · have whole := Utf8.eq_map_some_of_mapM decoded
      intro member
      refine before (Utf8.feed_mem_of_pieces (whole ▸ List.mem_map_of_mem ?_))
      exact dropLineEnd_subset text member
    · rename_i feed _ after
      obtain rfl : feed = lineFeed := by
        have first := List.head?_dropWhile_not (· ≠ lineFeed) bytes
        simpa only [after, List.head?_cons, decide_eq_false_iff_not, ne_eq, Decidable.not_not]
          using first
      -- The line feed goes with the end of the line, and there is no other.
      obtain ⟨front, rfl, oneLine⟩ := Utf8.decode?_line before decoded
      rw [dropLineEnd_append (by simp [isLineEnd])]
      exact fun member => oneLine (dropLineEnd_subset front member)
  · contradiction

theorem readHeader?_value {header : String × String} (oneLine : '\n' ∉ line)
    (read : readHeader? line = some header) :
    trim header.2.toList = header.2.toList ∧ '\n' ∉ header.2.toList := by
  unfold readHeader? at read
  split at read
  · rename_i colon value after
    cases read
    rw [String.toList_ofList]
    have inside : value <:+: line := by
      have suffix : colon :: value <:+ line := after ▸ List.dropWhile_suffix _
      exact ((List.suffix_cons ..).trans suffix).isInfix
    have held := ((trim_isInfix value).trans inside).subset
    exact ⟨trim_trim value, fun member => oneLine (held member)⟩
  · contradiction

theorem readHeaders_values {room : Nat} {headers : List (String × String)}
    (read : readHeaders ended room bytes = .ok (headers, rest)) :
    ∀ header ∈ headers, trim header.2.toList = header.2.toList ∧ '\n' ∉ header.2.toList := by
  induction room generalizing bytes rest headers with
  | zero =>
      rw [readHeaders] at read
      obtain ⟨⟨line, after⟩, first, read⟩ := bind_ok read
      simp only at read
      split at read
      · obtain ⟨rfl, -⟩ := Prod.mk.inj (Except.ok.inj read)
        simp
      · contradiction
  | succ room ih =>
      rw [readHeaders] at read
      obtain ⟨⟨line, after⟩, first, read⟩ := bind_ok read
      simp only at read
      split at read
      · obtain ⟨rfl, -⟩ := Prod.mk.inj (Except.ok.inj read)
        simp
      · split at read
        · contradiction
        · rename_i header named
          obtain ⟨⟨others, behind⟩, later, read⟩ := bind_ok read
          obtain ⟨rfl, -⟩ := Prod.mk.inj (Except.ok.inj read)
          exact List.forall_mem_cons.mpr
            ⟨readHeader?_value (readLine_oneLine first) named, ih later⟩

theorem isLineEnd_of_solid {c : Char} (solid : isBlank c = false) : isLineEnd c = false := by
  rw [isLineEnd, Bool.or_eq_false_iff, decide_eq_false_iff_not, decide_eq_false_iff_not]
  constructor <;> rintro rfl <;> exact absurd solid (by decide)

/-- A head with one header can have any trimmed value without a line feed. -/
theorem readHead_date (trimmed : trim value.toList = value.toList)
    (oneLine : '\n' ∉ value.toList) :
    readHead true (writeLine "HTTP/1.1 200 OK".toList ++
        (writeLine ("Date".toList ++ ':' :: ' ' :: value.toList) ++ writeLine [])) =
      .ok (⟨200, [("Date", value)]⟩, []) := by
  have status : OnOneLine "HTTP/1.1 200 OK".toList := by decide
  have text : '\n' ∉ "Date".toList ++ ':' :: ' ' :: value.toList := by
    simpa using oneLine
  have kept : dropLineEnd ("Date".toList ++ ':' :: ' ' :: value.toList) =
      "Date".toList ++ ':' :: ' ' :: value.toList := by
    refine dropLineEnd_eq_self_iff.mpr fun c last => ?_
    have solid := (trim_eq_self_iff.mp trimmed).2
    generalize value.toList = text at last solid
    cases text with
    | nil =>
        obtain rfl : ' ' = c := by simpa using last
        rfl
    | cons first others =>
        exact isLineEnd_of_solid (solid c (by simpa [List.getLast?_append] using last))
  have header : readHeader? ("Date".toList ++ ':' :: ' ' :: value.toList) =
      some ("Date", value) :=
    readHeader?_line (by decide) trimmed (by decide)
  have empty := readLine_writeLine true .nil []
  rw [List.append_nil] at empty
  have headers : readHeaders true maxHeaders
      (writeLine ("Date".toList ++ ':' :: ' ' :: value.toList) ++ writeLine []) =
        .ok ([("Date", value)], []) := by
    have some : ("Date".toList ++ ':' :: ' ' :: value.toList).isEmpty = false := by simp
    rw [maxHeaders, readHeaders, readLine_line true text kept]
    simp only [bind, Except.bind, some, header, readHeaders_empty empty rfl]
    rfl
  rw [readHead, readLine_writeLine true status]
  simp only [bind, Except.bind, headers]
  rfl

/-- The values of headers are the trimmed texts without a line feed. -/
theorem isHeaderValue_iff :
    IsHeaderValue value ↔ trim value.toList = value.toList ∧ '\n' ∉ value.toList := by
  constructor
  · rintro ⟨ended, bytes, head, rest, name, read, member⟩
    rw [readHead] at read
    obtain ⟨⟨line, after⟩, -, read⟩ := bind_ok read
    simp only at read
    split at read
    · contradiction
    · obtain ⟨⟨headers, behind⟩, later, read⟩ := bind_ok read
      obtain ⟨rfl, -⟩ := Prod.mk.inj (Except.ok.inj read)
      exact readHeaders_values later (name, value) member
  · rintro ⟨trimmed, oneLine⟩
    exact ⟨true, _, _, _, _, readHead_date trimmed oneLine, List.mem_singleton_self _⟩

theorem getRequest_eq (path host : String) (since : Option String) :
    (getRequest path host since).toList =
      (requestLines path host since ++ [[]]).flatMap (· ++ ['\r', '\n']) := by
  cases since <;> simp [getRequest, toString, requestLines, requestLine]

theorem requestLine_ppdPath (printer : String) : requestLine (ppdPath printer) =
    "GET /printers/".toList ++ ((Percent.encode printer).toList ++ ".ppd HTTP/1.1".toList) := by
  rw [requestLine, ppdPath, printerPath]
  generalize Percent.encode printer = segment
  simp

/-- Without a line feed of its own a line is cut off where it ends. -/
theorem crlfPieces_line (oneLine : '\n' ∉ piece) (text : List Char) :
    crlfPieces (piece ++ '\r' :: '\n' :: text) = piece :: crlfPieces text := by
  induction piece with
  | nil => rfl
  | cons c piece ih =>
      obtain ⟨-, oneLine⟩ := List.ne_and_not_mem_of_not_mem_cons oneLine
      have whole := ih oneLine
      rw [List.cons_append, crlfPieces, whole]
      rintro more - ahead
      cases piece with
      | nil => simp at ahead
      | cons d piece =>
          obtain rfl := (List.cons.inj ahead).1
          exact oneLine (List.mem_cons_self ..)

theorem crlfPieces_lines {lines : List (List Char)} (oneLine : ∀ line ∈ lines, '\n' ∉ line) :
    crlfPieces (lines.flatMap (· ++ ['\r', '\n'])) = lines ++ [[]] := by
  induction lines with
  | nil => rfl
  | cons line lines ih =>
      obtain ⟨first, others⟩ := List.forall_mem_cons.mp oneLine
      rw [List.flatMap_cons, List.append_assoc, List.cons_append, List.cons_append,
        List.nil_append, crlfPieces_line first, ih others]
      rfl

theorem requestLines_oneLine {path : String} (address : '\n' ∉ path.toList)
    (authority : '\n' ∉ host.toList) (sent : ∀ date ∈ since, IsHeaderValue date) :
    ∀ line ∈ requestLines path host since, '\n' ∉ line := by
  have request : '\n' ∉ requestLine path := by
    have start : '\n' ∉ "GET ".toList := by decide
    have version : '\n' ∉ " HTTP/1.1".toList := by decide
    simp only [requestLine, List.mem_append, not_or]
    exact ⟨start, address, version⟩
  have server : '\n' ∉ "Host: ".toList ++ host.toList := by
    have name : '\n' ∉ "Host: ".toList := by decide
    exact List.mem_append.not.mpr (not_or.mpr ⟨name, authority⟩)
  have condition : ∀ date ∈ since.toList, '\n' ∉ "If-Modified-Since: ".toList ++ date.toList := by
    intro date given
    have name : '\n' ∉ "If-Modified-Since: ".toList := by decide
    have value := (isHeaderValue_iff.mp (sent date (Option.mem_toList.mp given))).2
    exact List.mem_append.not.mpr (not_or.mpr ⟨name, value⟩)
  simp only [requestLines, List.forall_mem_append, List.forall_mem_cons, List.forall_mem_map]
  exact ⟨⟨request, server, by decide, by decide, by simp⟩, condition⟩

/-- A request for a description has the lines that were written and ends with an empty
one.  Its first line has two spaces, and between them the name of the printer is told
by one segment, from which it can be read back. -/
theorem getRequest_lines (printer : String) {host : String} {since : Option String}
    (oneLine : '\n' ∉ host.toList) (sent : ∀ date ∈ since, IsHeaderValue date) :
    crlfPieces (getRequest (ppdPath printer) host since).toList =
        requestLines (ppdPath printer) host since ++ [[], []] ∧
      (requestLine (ppdPath printer)).count ' ' = 2 ∧
      (∃ segment, requestLine (ppdPath printer) =
          "GET /printers/".toList ++ (segment ++ ".ppd HTTP/1.1".toList) ∧ '/' ∉ segment ∧
        Percent.decode? segment = some (Utf8.encode printer.toList)) ∧
      ∀ other, requestLine (ppdPath other) = requestLine (ppdPath printer) → other = printer := by
  have address : '\n' ∉ (ppdPath printer).toList := by
    have start : '\n' ∉ "/printers/".toList := by decide
    have ending : '\n' ∉ ".ppd".toList := by decide
    have name := Percent.not_mem_encode (c := '\n') (by decide) printer
    simp only [ppdPath, printerPath, String.toList_append, List.mem_append, not_or]
    exact ⟨⟨start, name⟩, ending⟩
  have lines := requestLines_oneLine address oneLine sent
  refine ⟨?_, ?_, ⟨_, requestLine_ppdPath printer, Percent.not_mem_encode (by decide) printer,
    Percent.decode?_encode printer⟩, ?_⟩
  · rw [getRequest_eq, crlfPieces_lines, List.append_assoc]
    · rfl
    · exact List.forall_mem_append.mpr ⟨lines, by simp⟩
  · have name := Percent.not_mem_encode (c := ' ') (by decide) printer
    rw [requestLine_ppdPath, List.count_append, List.count_append, List.count_eq_zero.mpr name]
    decide
  · intro other same
    rw [requestLine_ppdPath, requestLine_ppdPath] at same
    have segments := List.append_cancel_right (List.append_cancel_left same)
    exact Percent.encode_injective (String.toList_inj.mp segments)

/-- A name that looks like the rest of a request. -/
def lookalikePrinter : String :=
  "Büro/1.ppd HTTP/1.1\r\nX: y"

theorem lookalikePrinter_requested :
    '\n' ∉ "127.0.0.1:631".toList ∧ IsHeaderValue "Tue\rX: y" ∧
      crlfPieces
          (getRequest (ppdPath lookalikePrinter) "127.0.0.1:631" (some "Tue\rX: y")).toList =
        requestLines (ppdPath lookalikePrinter) "127.0.0.1:631" (some "Tue\rX: y") ++ [[], []] ∧
      (requestLine (ppdPath lookalikePrinter)).count ' ' = 2 ∧
      ∃ segment, requestLine (ppdPath lookalikePrinter) =
          "GET /printers/".toList ++ (segment ++ ".ppd HTTP/1.1".toList) ∧
        Percent.decode? segment = some (Utf8.encode lookalikePrinter.toList) := by
  have oneLine : '\n' ∉ "127.0.0.1:631".toList := by decide
  have value : IsHeaderValue "Tue\rX: y" := isHeaderValue_iff.mpr (by decide)
  have sent : ∀ date ∈ some "Tue\rX: y", IsHeaderValue date := by simpa using value
  obtain ⟨lines, spaces, ⟨segment, whole, -, decoded⟩, -⟩ :=
    getRequest_lines lookalikePrinter oneLine sent
  exact ⟨oneLine, value, lines, spaces, segment, whole, decoded⟩

end PrintConnector.Http
