import Mathlib.Data.List.DropRight
import PrintConnector.Http.Printer
import PrintConnector.Proofs.Text.Utf8

namespace PrintConnector.Http

open PrintConnector.Text.Utf8 (encode decode?)

variable {line : List Char} {bytes : List UInt8}

theorem takeWhile_ne {α : Type} [DecidableEq α] {mark : α} {front : List α}
    (first : mark ∉ front) (rest : List α) :
    (front ++ mark :: rest).takeWhile (· ≠ mark) = front := by
  have before : ∀ item ∈ front, decide (item ≠ mark) = true := fun item member =>
    decide_eq_true fun same => first (same ▸ member)
  rw [List.takeWhile_append_of_pos before]
  simp

theorem dropWhile_ne {α : Type} [DecidableEq α] {mark : α} {front : List α}
    (first : mark ∉ front) (rest : List α) :
    (front ++ mark :: rest).dropWhile (· ≠ mark) = mark :: rest := by
  have before : ∀ item ∈ front, decide (item ≠ mark) = true := fun item member =>
    decide_eq_true fun same => first (same ▸ member)
  rw [List.dropWhile_append_of_pos before]
  simp

theorem splitLine_of_feed (first : lineFeed ∉ bytes) (rest : List UInt8) :
    splitLine (bytes ++ lineFeed :: rest) = (bytes ++ [lineFeed], rest) := by
  rw [splitLine, takeWhile_ne first, dropWhile_ne first]

theorem dropLineEnd_append {ending : List Char} (ends : ∀ c ∈ ending, isLineEnd c = true)
    (line : List Char) : dropLineEnd (line ++ ending) = dropLineEnd line := by
  have gone : ∀ c ∈ ending.reverse, isLineEnd c = true := fun c member =>
    ends c (List.mem_reverse.mp member)
  rw [dropLineEnd, List.reverse_append, List.dropWhile_append_of_pos gone, ← dropLineEnd]

theorem dropLineEnd_eq_self_iff :
    dropLineEnd line = line ↔ ∀ c ∈ line.getLast?, isLineEnd c = false := by
  have whole : dropLineEnd line = line ↔ line.reverse.dropWhile isLineEnd = line.reverse := by
    rw [dropLineEnd, List.reverse_eq_iff]
  rw [whole, ← List.head?_reverse]
  cases line.reverse with
  | nil => simp
  | cons last front =>
      rw [List.dropWhile_eq_self_iff]
      simp

/-- The end of a line goes, and nothing else of a line without one. -/
theorem dropLineEnd_of_ends {ending : List Char} (oneLine : OnOneLine line)
    (ends : ∀ c ∈ ending, isLineEnd c = true) : dropLineEnd (line ++ ending) = line := by
  rw [dropLineEnd_append ends, dropLineEnd_eq_self_iff]
  intro c last
  obtain ⟨notFeed, notReturn⟩ := oneLine c (List.mem_of_getLast? last)
  simp [isLineEnd, notFeed, notReturn]

theorem writeLine_append (line : List Char) (rest : List UInt8) :
    writeLine line ++ rest = (encode line ++ [0x0D]) ++ lineFeed :: rest := by
  have ending : encode ['\r', '\n'] = [0x0D, lineFeed] := by decide
  rw [writeLine, Text.Utf8.encode_append, ending]
  simp

theorem readLine_of_feed (first : lineFeed ∉ bytes) (ended : Bool) (rest : List UInt8) :
    readLine ended (bytes ++ lineFeed :: rest) =
      match decode? (bytes ++ [lineFeed]) with
      | some text => .ok (dropLineEnd text, rest)
      | none => .error (.failed (.io .invalidData "stream did not contain valid UTF-8")) := by
  have feed : (bytes ++ lineFeed :: rest).contains lineFeed = true := by simp
  have some : (bytes ++ lineFeed :: rest).isEmpty = false := by simp
  rw [readLine, feed, some, splitLine_of_feed first, Bool.not_true, Bool.and_false]
  rfl

/-- A carriage return within a line is part of it. -/
theorem readLine_line (ended : Bool) (text : '\n' ∉ line) (kept : dropLineEnd line = line)
    (rest : List UInt8) : readLine ended (writeLine line ++ rest) = .ok (line, rest) := by
  have first : lineFeed ∉ encode line ++ [0x0D] := by
    rw [List.mem_append]
    rintro (inLine | atEnd)
    · exact Text.Utf8.lineFeed_not_mem_encode text inLine
    · exact absurd atEnd (by decide)
  have whole : (encode line ++ [0x0D]) ++ [lineFeed] = encode (line ++ ['\r', '\n']) := by
    have written := writeLine_append line []
    rw [List.append_nil] at written
    exact written.symm
  have ends : ∀ c ∈ ['\r', '\n'], isLineEnd c = true := by simp [isLineEnd]
  rw [writeLine_append, readLine_of_feed first, whole, Text.Utf8.decode?_encode]
  simp only [dropLineEnd_append ends, kept]

theorem readLine_writeLine (ended : Bool) (oneLine : OnOneLine line) (rest : List UInt8) :
    readLine ended (writeLine line ++ rest) = .ok (line, rest) := by
  have kept : dropLineEnd (line ++ []) = line := dropLineEnd_of_ends oneLine (by simp)
  rw [List.append_nil] at kept
  exact readLine_line ended (fun member => (oneLine _ member).1 rfl) kept rest

end PrintConnector.Http
