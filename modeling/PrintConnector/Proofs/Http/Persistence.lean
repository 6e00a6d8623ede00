import PrintConnector.Proofs.Http.Request

namespace PrintConnector.Http

open PrintConnector.Text (trim sameFolded)

variable {ended : Bool} {bytes rest : List UInt8} {head : Head} {value : String}

/-- The words of a list with commas, in lower case. -/
def listedWords (value : String) : List (List Char) :=
  (value.toList.splitOn ',').map fun word => (trim word).map Char.toLower

/-- The first word of the first line. -/
def version? (ended : Bool) (bytes : List UInt8) : Option (List Char) :=
  match readLine ended bytes with
  | .ok (line, _) => some (line.takeWhile (· ≠ ' '))
  | .error _ => none

namespace Head

/-- One of the Connection headers lists a word. -/
def Announces (head : Head) (word : String) : Prop :=
  ∃ header ∈ head.headers,
    sameFolded header.1 "connection" = true ∧ word.toList ∈ listedWords header.2

instance (head : Head) (word : String) : Decidable (head.Announces word) :=
  inferInstanceAs (Decidable (∃ header ∈ head.headers,
    sameFolded header.1 "connection" = true ∧ word.toList ∈ listedWords header.2))

/-- The head tells where the body ends. -/
def IsDelimited (head : Head) : Prop :=
  head.HasNoBody ∨ head.AnnouncesChunks ∨
    ∃ value length, head.header? "content-length" = some value ∧
      Number.uint64? (trim value.toList) = some length

/-- The server keeps the connection open behind a response of a version. -/
structure Persists (head : Head) (version : List Char) : Prop where
  delimited : head.IsDelimited
  stays : ¬ head.Announces "close"
  asked : version = "HTTP/1.0".toList → head.Announces "keep-alive"

/-- The first Connection header is the word `close` and nothing else. -/
def SaysClose (head : Head) : Prop :=
  ∃ value, head.header? "connection" = some value ∧
    value.toList.map Char.toLower = "close".toList

/-- A Connection header lists `close`, but not alone or not as the first one. -/
def HidesClose (head : Head) : Prop :=
  ∃ header ∈ head.headers, sameFolded header.1 "connection" = true ∧
    "close".toList ∈ listedWords header.2 ∧
      (',' ∈ header.2.toList ∨ head.header? "connection" ≠ some header.2)

theorem mem_of_header? {name : String} (found : head.header? name = some value) :
    ∃ header ∈ head.headers, sameFolded header.1 name = true ∧ header.2 = value := by
  obtain ⟨header, first, rfl⟩ := Option.map_eq_some_iff.mp found
  have named := List.find?_some first
  exact ⟨header, List.mem_of_find?_eq_some first, named, rfl⟩

theorem framing_isDelimited_iff :
    (∃ framing, head.framing = .ok framing ∧ framing ≠ .untilClose) ↔ head.IsDelimited := by
  unfold framing IsDelimited
  rw [← isBodiless_iff, ← announcesChunks_iff]
  split
  · rename_i bodiless
    simp [bodiless]
  · rename_i body
    split
    · rename_i chunked
      simp [chunked]
    · rename_i whole
      rw [Bool.not_eq_true] at body whole
      rw [body, whole]
      cases head.header? "content-length" with
      | none => simp
      | some value => cases read : Number.uint64? (trim value.toList) <;> simp [read]

theorem saysClose_iff :
    ((head.header? "connection").map (sameFolded "close")).getD false = true ↔
      head.SaysClose := by
  unfold SaysClose
  cases head.header? "connection" with
  | none => simp
  | some value =>
      have word : "close".toList.map Char.toLower = "close".toList := by decide
      rw [Option.map_some, Option.getD_some, sameFolded, word, beq_iff_eq, eq_comm]
      constructor
      · exact fun same => ⟨value, rfl, same⟩
      · rintro ⟨first, found, same⟩
        exact Option.some.inj found ▸ same

theorem keepsAlive_iff :
    head.keepsAlive = true ↔ head.IsDelimited ∧ ¬ head.SaysClose := by
  rw [← framing_isDelimited_iff, ← saysClose_iff, keepsAlive]
  rcases head.framing with error | framing
  · simp
  · cases framing <;> simp

end Head

theorem listedWords_word (oneWord : ',' ∉ value.toList)
    (trimmed : trim value.toList = value.toList) :
    listedWords value = [value.toList.map Char.toLower] := by
  rw [listedWords, List.splitOn_eq_singleton oneWord, List.map_singleton, trimmed]

theorem trimmed_of_mem {header : String × String} (read : readHead ended bytes = .ok (head, rest))
    (member : header ∈ head.headers) : trim header.2.toList = header.2.toList :=
  (isHeaderValue_iff.mp ⟨ended, bytes, head, rest, header.1, read, member⟩).1

/-- The word `close` and nothing else is a list of this word. -/
theorem announces_of_saysClose (read : readHead ended bytes = .ok (head, rest))
    (closing : head.SaysClose) : head.Announces "close" := by
  obtain ⟨value, first, word⟩ := closing
  obtain ⟨header, member, named, rfl⟩ := Head.mem_of_header? first
  have oneWord : ',' ∉ header.2.toList := by
    intro inside
    have comma : ',' ∈ "close".toList := word ▸ List.mem_map.mpr ⟨',', inside, rfl⟩
    exact absurd comma (by decide)
  refine ⟨header, member, named, ?_⟩
  rw [listedWords_word oneWord (trimmed_of_mem read member), word]
  exact List.mem_singleton_self _

/-- What is announced by the first header and in one word is seen. -/
theorem saysClose_of_announces (read : readHead ended bytes = .ok (head, rest))
    (announced : head.Announces "close") : head.SaysClose ∨ head.HidesClose := by
  obtain ⟨header, member, named, listed⟩ := announced
  by_cases hidden : ',' ∈ header.2.toList ∨ head.header? "connection" ≠ some header.2
  · exact .inr ⟨header, member, named, listed, hidden⟩
  · obtain ⟨oneWord, first⟩ := not_or.mp hidden
    rw [listedWords_word oneWord (trimmed_of_mem read member), List.mem_singleton] at listed
    exact .inl ⟨header.2, Decidable.not_not.mp first, listed.symm⟩

/-- The first word of a head that was read is a version of HTTP/1. -/
theorem exists_version? (read : readHead ended bytes = .ok (head, rest)) :
    ∃ version, version? ended bytes = some version ∧ "HTTP/1.".toList <+: version := by
  rw [readHead] at read
  obtain ⟨⟨line, after⟩, first, read⟩ := bind_ok read
  simp only at read
  split at read
  · contradiction
  · rename_i status known
    refine ⟨line.takeWhile (· ≠ ' '), by rw [version?, first], ?_⟩
    unfold readStatus? at known
    simp only at known
    split at known
    · split at known
      · rename_i named
        exact List.isPrefixOf_iff_prefix.mp named
      · contradiction
    · contradiction

/-- The connection is kept behind every response that can be followed by another one.
It is kept as well where `close` stands in a list or in a later header, and behind a
response of HTTP/1.0 that did not ask for it, but behind no other response after which
the server closes. -/
theorem readHead_keepsAlive (read : readHead ended bytes = .ok (head, rest)) :
    (head.keepsAlive = true ↔ head.IsDelimited ∧ ¬ head.SaysClose) ∧
      ∃ version, version? ended bytes = some version ∧ "HTTP/1.".toList <+: version ∧
        (head.Persists version → head.keepsAlive = true) ∧
        (head.keepsAlive = true → head.Persists version ∨ head.HidesClose ∨
          (version = "HTTP/1.0".toList ∧ ¬ head.Announces "keep-alive")) := by
  obtain ⟨version, given, named⟩ := exists_version? read
  refine ⟨Head.keepsAlive_iff, version, given, named, ?_, ?_⟩
  · rintro ⟨delimited, stays, -⟩
    exact Head.keepsAlive_iff.mpr ⟨delimited, mt (announces_of_saysClose read) stays⟩
  · intro kept
    obtain ⟨delimited, silent⟩ := Head.keepsAlive_iff.mp kept
    by_cases announced : head.Announces "close"
    · exact .inr (.inl ((saysClose_of_announces read announced).resolve_left silent))
    by_cases asked : version = "HTTP/1.0".toList → head.Announces "keep-alive"
    · exact .inl ⟨delimited, announced, asked⟩
    · exact .inr (.inr (Classical.not_imp.mp asked))

theorem takeWhile_statusLine {minor reason : List Char} (status : Nat) (oneWord : ' ' ∉ minor) :
    (statusLine minor status reason).takeWhile (· ≠ ' ') = "HTTP/1.".toList ++ minor := by
  have whole : ' ' ∉ "HTTP/1.".toList ++ minor := by
    rw [List.mem_append]
    rintro (inName | inMinor)
    · exact absurd inName (by decide)
    · exact oneWord inMinor
  unfold statusLine
  generalize "HTTP/1.".toList ++ minor = version at whole ⊢
  rw [List.append_assoc, List.cons_append, takeWhile_ne whole]

theorem version?_write (ended : Bool) {response : Response} (proper : response.IsWellFormed)
    (rest : List UInt8) : version? ended (response.writeHead ++ rest) =
      some ("HTTP/1.".toList ++ response.minor) := by
  rw [version?, Response.writeHead, List.append_assoc,
    readLine_writeLine ended proper.onOneLine_statusLine]
  exact congrArg some (takeWhile_statusLine _ proper.minor.2)

/-- The description is the one that the client has. -/
def notModified (minor : Char) (headers : List (String × String)) : Response :=
  { minor := [minor], head := ⟨304, headers⟩, payload := .absent }

theorem notModified_isWellFormed {minor : Char} {headers : List (String × String)}
    (version : OnOneLine [minor] ∧ ' ' ∉ [minor]) (count : headers.length ≤ maxHeaders)
    (proper : ∀ header ∈ headers, IsHeader header) :
    (notModified minor headers).IsWellFormed :=
  ⟨version, show 304 < 65536 by decide, count, proper, .nil, .inr (.inr rfl)⟩

theorem readHead_notModified {minor : Char} {headers : List (String × String)}
    (proper : (notModified minor headers).IsWellFormed) :
    readHead true (notModified minor headers).writeHead = .ok (⟨304, headers⟩, []) ∧
      version? true (notModified minor headers).writeHead = some ("HTTP/1.".toList ++ [minor]) := by
  have head := readHead_write true proper []
  have version := version?_write true proper []
  rw [List.append_nil] at head version
  exact ⟨head, version⟩

/-- An old server keeps the connection when it says so. -/
theorem requestedPersistence_kept :
    readHead true (notModified '0' [("Connection", "Keep-Alive")]).writeHead =
        .ok (⟨304, [("Connection", "Keep-Alive")]⟩, []) ∧
      (⟨304, [("Connection", "Keep-Alive")]⟩ : Head).keepsAlive = true := by
  have proper : (notModified '0' [("Connection", "Keep-Alive")]).IsWellFormed :=
    notModified_isWellFormed (by decide) (by decide) (by decide)
  obtain ⟨read, -⟩ := readHead_notModified proper
  obtain ⟨-, version, -, -, kept, -⟩ := readHead_keepsAlive read
  exact ⟨read, kept ⟨.inl (.inr (.inr rfl)), by decide, fun _ => by decide⟩⟩

/-- The connection is kept behind a response after which the server does not keep it. -/
def KeptInVain (response : Response) : Prop :=
  ∃ version, readHead true response.writeHead = .ok (response.head, []) ∧
    version? true response.writeHead = some version ∧
    response.head.keepsAlive = true ∧ ¬ response.head.Persists version

theorem keptInVain_notModified {minor : Char} {headers : List (String × String)}
    (proper : (notModified minor headers).IsWellFormed)
    (kept : (⟨304, headers⟩ : Head).keepsAlive = true)
    (closing : ¬ (⟨304, headers⟩ : Head).Persists ("HTTP/1.".toList ++ [minor])) :
    KeptInVain (notModified minor headers) := by
  obtain ⟨read, given⟩ := readHead_notModified proper
  exact ⟨_, read, given, kept, closing⟩

/-- Three ways of saying that the connection closes. -/
theorem announcedClose_kept :
    KeptInVain (notModified '1' [("Connection", "close, TE")]) ∧
      KeptInVain (notModified '1' [("Connection", "keep-alive"), ("Connection", "close")]) ∧
      KeptInVain (notModified '0' []) := by
  refine ⟨keptInVain_notModified ?_ (by decide) fun persists => persists.stays (by decide),
    keptInVain_notModified ?_ (by decide) fun persists => persists.stays (by decide),
    keptInVain_notModified ?_ (by decide) fun persists => absurd (persists.asked rfl) (by decide)⟩
  · exact notModified_isWellFormed (by decide) (by decide) (by decide)
  · exact notModified_isWellFormed (by decide) (by decide) (by decide)
  · exact notModified_isWellFormed (by decide) (by decide) (by decide)

end PrintConnector.Http
