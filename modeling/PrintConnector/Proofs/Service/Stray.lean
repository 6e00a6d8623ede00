import PrintConnector.Proofs.Service.Harmless
import PrintConnector.Proofs.Service.Provenance

namespace PrintConnector.Service

open Cache (Disk Edition Entry FileName stemOf)

variable {fresh origin before after service : Service} {event : Event}
  {events front : List Event} {who other number : Nat} {printer : String}
  {request : Request} {phase : Phase} {marker : Option String} {edition : Edition} {entry : Entry}
  {name : FileName} {bytes : List UInt8} {result : Result} {settings : Settings}

/-- A document that a refresh brought which was then given up. -/
def Stray (origin : Service) (events : List Event) (name : FileName) (bytes : List UInt8) : Prop :=
  ∃ who printer marker, Sent events printer who bytes marker ∧ name.stem = stemOf printer ∧
    Deserted origin events who name.tag

theorem Stray.append (stray : Stray origin events name bytes) (more : List Event) :
    Stray origin (events ++ more) name bytes := by
  obtain ⟨who, printer, marker, sent, stem, deserted⟩ := stray
  exact ⟨who, printer, marker, sent.later (List.subset_append_left _ _), stem,
    deserted.append more⟩

/-- The hash, the translation and the marker of an entry are those of a document.  An entry
that has had none is of the empty file. -/
inductive Describes (events : List Event) (entry : Entry) : List UInt8 → Prop where
  | empty (current : entry.current = none) (marker : entry.marker = none) :
      Describes events entry []
  | document (who : Nat) {edition : Edition} {bytes : List UInt8}
      (current : entry.current = some edition) (isOf : edition.IsOf bytes)
      (sent : Sent events entry.printer who bytes entry.marker) : Describes events entry bytes

theorem Describes.step {later : Entry} (describes : Describes events entry bytes)
    (agrees : Agrees entry later) (more : List Event) :
    Describes (events ++ more) later bytes := by
  cases describes with
  | empty current marker =>
      exact .empty (agrees.current.trans current) (agrees.marker.trans marker)
  | document who current isOf sent =>
      refine .document who (agrees.current.trans current) isOf ?_
      rw [agrees.printer, agrees.marker]
      exact sent.later (List.subset_append_left _ _)

/-- A file has a document in it, or a stray one, unless the directory was removed. -/
def Keeps (origin : Service) (events : List Event) (service : Service) (name : FileName)
    (bytes : List UInt8) : Prop :=
  Removed events ∨ ∃ found, service.disk.content? name = some found ∧
    (found = bytes ∨ Stray origin events name found)

theorem Keeps.stray (keeps : Keeps origin events service name bytes)
    (stray : Stray origin events name bytes) (other : List UInt8) :
    Keeps origin events service name other := by
  obtain removed | ⟨found, content, rfl | strange⟩ := keeps
  · exact .inl removed
  · exact .inr ⟨found, content, .inr stray⟩
  · exact .inr ⟨found, content, .inr strange⟩

theorem Keeps.same (keeps : Keeps origin events before name bytes)
    (content : after.disk.content? name = before.disk.content? name) (more : List Event) :
    Keeps origin (events ++ more) after name bytes := by
  obtain removed | ⟨found, there, stored⟩ := keeps
  · exact .inl (List.mem_append_left _ removed)
  · exact .inr ⟨found, content.trans there, stored.imp_right (·.append more)⟩

/-- A refresh has put its document in the file of an entry and not in the other fields
yet. -/
inductive Landed (service : Service) (who number : Nat) (printer : String)
    (marker : Option String) (edition : Edition) : Prop where
  | placed {download : Nat} {target : FileName}
      (asked : service.call? who = some ⟨.refresh printer, .replacing number marker⟩)
      (working : service.jobs.entry? who =
        some (.replace download target (.cleaning (.ok edition))))
  | replaced
      (asked : service.call? who = some ⟨.refresh printer, .replaced number marker (.ok edition)⟩)

theorem Landed.asked (landed : service.Landed who number printer marker edition) :
    ∃ phase, service.call? who = some ⟨.refresh printer, phase⟩ ∧ phase.grip? = some number := by
  cases landed with
  | placed asked => exact ⟨_, asked, rfl⟩
  | replaced asked => exact ⟨_, asked, rfl⟩

theorem Landed.replaces (landed : service.Landed who number printer marker edition) :
    service.Replaces who number := by
  cases landed with
  | placed asked => exact .replacing (phase?_of_call? asked)
  | replaced asked => exact .replaced (phase?_of_call? asked)

theorem Landed.moved (landed : before.Landed who number printer marker edition)
    (calls : after.call? who = before.call? who)
    (jobs : after.jobs.entry? who = before.jobs.entry? who) :
    after.Landed who number printer marker edition := by
  cases landed with
  | placed asked working => exact .placed (calls.trans asked) (jobs.trans working)
  | replaced asked => exact .replaced (calls.trans asked)

/-- A refresh whose document has landed has nothing more to put in the file. -/
theorem Landed.not_places (landed : before.Landed who number printer marker edition)
    (orderly : before.Orderly) : ¬ Places before after who name := by
  rintro ⟨download, copy, placing, -⟩
  cases landed with
  | placed _ working => simp [working] at placing
  | replaced asked => simp [orderly.idle asked rfl] at placing

theorem Landed.file (landed : service.Landed who number printer marker edition)
    (orderly : service.Orderly) (found : service.entry? number = some entry) :
    entry.printer = printer ∧ entry.file = ⟨stemOf printer, number⟩ := by
  obtain ⟨phase, asked, grip⟩ := landed.asked
  obtain ⟨_, same, _, again, -, named⟩ := orderly.holds asked grip
  obtain rfl := Request.refresh.inj same
  obtain rfl := Option.some.inj (found.symm.trans again)
  refine ⟨named, ?_⟩
  rw [(orderly.named number entry found).1, named]

structure Tended (origin : Service) (events : List Event) (service : Service) : Prop where
  landed : ∀ who number printer marker edition,
    service.Landed who number printer marker edition →
    ∃ bytes, Came events who bytes marker ∧ edition.IsOf bytes ∧
      Keeps origin events service ⟨stemOf printer, number⟩ bytes
  entries : ∀ number entry, service.entry? number = some entry →
    ∃ bytes, Describes events entry bytes ∧ (Keeps origin events service entry.file bytes ∨
      ∃ who printer marker edition, service.Landed who number printer marker edition)
  filed : ∀ name bytes, service.disk.content? name = some bytes →
    (∃ entry, service.entry? name.tag = some entry ∧ entry.file = name) ∨
      Stray origin events name bytes

section Step

variable (traced : Traced origin front before) (orderly : before.Orderly)
  (reached : origin.run? front = some before) (taken : before.step? event = some after)

include traced orderly taken

/-- The file of an entry that stays changes only if a refresh puts its document there,
and that is stray or not yet in the other fields. -/
theorem Keeps.step (keeps : Keeps origin front before entry.file bytes)
    (found : before.entry? number = some entry) (refers : after.Refers number) :
    Keeps origin (front ++ [event]) after entry.file bytes ∨
      ∃ mover printer marker edition, before.Grips mover number ∧
        Places before after mover entry.file ∧
        after.Landed mover number printer marker edition := by
  have moved := move_of_step taken
  cases caller : event.caller? with
  | none =>
      left
      cases moved.aside caller with
      | pool | lose => exact keeps.same rfl _
      | removeDirectory => exact .inl (List.mem_append_right _ (List.mem_singleton_self _))
  | some mover =>
      rcases (orderly.course moved caller).content orderly.named found refers with same | places
      · exact .inl (keeps.same same _)
      · obtain ⟨tag, printer, marker, written, file, content, call, ⟨download, edition, working, -⟩,
          sent, owner⟩ := traced.placed orderly taken caller places
        rw [(orderly.named number entry found).1] at file
        obtain ⟨stem, rfl⟩ := FileName.mk.inj file
        -- The job that put it there may have outlived its refresh.
        rcases owner with asked | ⟨-, deserted⟩
        · exact .inr ⟨mover, printer, marker, edition, ⟨_, _, asked, rfl⟩, places,
            .placed (call.trans asked) working⟩
        · left
          refine .inr ⟨written, content, .inr ?_⟩
          rw [(orderly.named number entry found).1]
          exact Stray.append ⟨mover, printer, marker, sent, stem, deserted⟩ _

/-- Nobody else writes to the file of an entry that a refresh has locked. -/
theorem Keeps.held (asked : before.call? who = some ⟨.refresh printer, phase⟩)
    (grip : phase.grip? = some number)
    (keeps : Keeps origin front before ⟨stemOf printer, number⟩ bytes)
    (refers : after.Refers number) (idle : ¬ Places before after who ⟨stemOf printer, number⟩) :
    Keeps origin (front ++ [event]) after ⟨stemOf printer, number⟩ bytes := by
  obtain ⟨_, same, holds⟩ := orderly.holds asked grip
  obtain rfl := Request.refresh.inj same
  obtain ⟨entry, found, held, named⟩ := holds
  have file := (orderly.named number entry found).1
  rw [named] at file
  rw [← file] at keeps idle ⊢
  rcases keeps.step traced orderly taken found refers with kept | ⟨mover, _, _, _, grips, places, -⟩
  · exact kept
  · obtain ⟨_, _, moving, gripped⟩ := grips
    obtain ⟨_, -, others⟩ := orderly.holds moving gripped
    have mine : before.Holds who number printer := ⟨entry, found, held, named⟩
    obtain rfl := others.unique mine
    exact absurd places idle

theorem Traced.landed_placed {download : Nat} (caller : event.caller? = some who)
    (asked : after.call? who = some ⟨.refresh printer, .replacing number marker⟩)
    (working : after.jobs.entry? who = some (.replace download name (.cleaning (.ok edition)))) :
    ∃ bytes, Came (front ++ [event]) who bytes marker ∧ edition.IsOf bytes ∧
      Keeps origin (front ++ [event]) after ⟨stemOf printer, number⟩ bytes := by
  have done := working
  -- Generalized, so that the cases below may say what the job was doing.
  generalize same : Replacement.cleaning (.ok edition) = progress at working
  cases orderly.hauls (move_of_step taken) caller working with
  | take => contradiction
  | prepare _ prepared => exact absurd same.symm prepared.not_done
  | desert earlier => simp [finish_call? earlier] at asked
  | place earlier =>
      obtain ⟨_, _, _, bytes, rfl, content, call, ⟨_, _, again, isOf⟩, sent, owner⟩ :=
        traced.placed orderly taken caller ⟨download, _, earlier, working⟩
      obtain ⟨-, -, again⟩ := Job.replace.inj (Option.some.inj (done.symm.trans again))
      obtain rfl := Except.ok.inj (Replacement.cleaning.inj again)
      have known := call.symm.trans asked
      rcases owner with owner | ⟨concluded, -⟩
      · obtain ⟨asks, doing⟩ := Call.mk.inj (Option.some.inj (owner.symm.trans known))
        obtain rfl := Request.refresh.inj asks
        obtain ⟨rfl, rfl⟩ := Phase.replacing.inj doing
        exact ⟨bytes, List.mem_append_left _ sent.2, isOf, .inr ⟨bytes, content, .inl rfl⟩⟩
      · exact absurd ((phase?_of_call? known).symm.trans concluded) (by simp)

theorem Tended.landed_replaced (tended : Tended origin front before)
    (caller : event.caller? = some who)
    (asked : after.call? who = some ⟨.refresh printer, .replaced number marker (.ok edition)⟩) :
    ∃ bytes, Came (front ++ [event]) who bytes marker ∧ edition.IsOf bytes ∧
      Keeps origin (front ++ [event]) after ⟨stemOf printer, number⟩ bytes := by
  have moved := move_of_step taken
  cases found : before.call? who with
  | none =>
      obtain ⟨_, rfl, same⟩ := orderly.entered taken found asked
      exact absurd (Call.mk.inj same).2 (by simp)
  | some call =>
      obtain ⟨request, phase⟩ := call
      obtain ⟨next, known, turned⟩ := next_of_move moved caller found
      obtain ⟨rfl, rfl⟩ := Call.mk.inj (Option.some.inj (known.symm.trans asked))
      cases turned with
      | stay =>
          rcases orderly.settles_or_deserts moved caller found with ⟨_, -, rfl⟩ | ⟨-, rfl⟩
          · simp [finish_call? (call?_setEntry.trans found)] at asked
          · simp [finish_call? found] at asked
      | deliver =>
          cases orderly.resolves moved caller found with
          | wait _ kept => simp [kept] at asked
          | desert => simp [finish_call? found] at asked
          | deliver working told =>
              obtain rfl : _ = Except.ok edition := by simpa using told.symm.trans asked
              obtain ⟨bytes, came, isOf, keeps⟩ :=
                tended.landed who number printer marker edition (.placed found working)
              refine ⟨bytes, List.mem_append_left _ came, isOf, ?_⟩
              refine keeps.held traced orderly taken found rfl (.held asked rfl) ?_
              exact Landed.not_places (.placed found working) orderly

theorem Tended.landed_step (tended : Tended origin front before)
    (landed : after.Landed who number printer marker edition) :
    ∃ bytes, Came (front ++ [event]) who bytes marker ∧ edition.IsOf bytes ∧
      Keeps origin (front ++ [event]) after ⟨stemOf printer, number⟩ bytes := by
  by_cases caller : event.caller? = some who
  · cases landed with
    | placed asked working => exact traced.landed_placed orderly taken caller asked working
    | replaced asked => exact tended.landed_replaced traced orderly taken caller asked
  · obtain ⟨calls, jobs⟩ := orderly.stays taken caller
    have earlier := landed.moved calls.symm jobs.symm
    obtain ⟨bytes, came, isOf, keeps⟩ := tended.landed who number printer marker edition earlier
    obtain ⟨phase, asked, grip⟩ := earlier.asked
    refine ⟨bytes, List.mem_append_left _ came, isOf, ?_⟩
    refine keeps.held traced orderly taken asked grip ?_ (earlier.not_places orderly)
    exact .held (calls.trans asked) (handle?_of_grip grip)

/-- An entry that keeps its fields is of its file, or a refresh has a document for it in
hand. -/
theorem Tended.agreeing {later : Entry} (tended : Tended origin front before)
    (reached : origin.run? front = some before) (found : before.entry? number = some entry)
    (known : after.entry? number = some later) (agrees : Agrees entry later)
    (lasting : ∀ who printer marker edition, event.caller? = some who →
      before.Landed who number printer marker edition →
        after.Landed who number printer marker edition ∨ event = .abandon who) :
    ∃ bytes, Describes (front ++ [event]) later bytes ∧
      (Keeps origin (front ++ [event]) after later.file bytes ∨
        ∃ who printer marker edition, after.Landed who number printer marker edition) := by
  have refers := (orderly.step taken).referenced number later known
  obtain ⟨bytes, describes, keeps | ⟨who, printer, marker, edition, landed⟩⟩ :=
    tended.entries number entry found
  · refine ⟨bytes, describes.step agrees _, ?_⟩
    rw [agrees.file]
    refine (keeps.step traced orderly taken found refers).imp_right ?_
    rintro ⟨mover, printer, marker, edition, -, -, landed⟩
    exact ⟨mover, printer, marker, edition, landed⟩
  · refine ⟨bytes, describes.step agrees _, ?_⟩
    by_cases caller : event.caller? = some who
    · rcases lasting who printer marker edition caller landed with kept | rfl
      · exact .inr ⟨who, printer, marker, edition, kept⟩
      · -- The document in the file is stray from here on.
        obtain ⟨written, came, -, keeps⟩ := tended.landed who number printer marker edition landed
        obtain ⟨phase, asked, grip⟩ := landed.asked
        have kept := keeps.held traced orderly taken asked grip refers (landed.not_places orderly)
        rw [agrees.file, (landed.file orderly found).2]
        refine .inl (kept.stray ?_ bytes)
        refine ⟨who, printer, marker, ⟨?_, List.mem_append_left _ came⟩, rfl, front, [], before,
          rfl, reached, landed.replaces⟩
        exact List.mem_append_left _ (traced.asked who _ asked)
    · obtain ⟨calls, jobs⟩ := orderly.stays taken caller
      exact .inr ⟨who, printer, marker, edition, landed.moved calls jobs⟩

theorem Tended.settled {later : Entry} (tended : Tended origin front before)
    (asked : before.call? who = some ⟨.refresh printer, .replaced number marker (.ok edition)⟩)
    (same : after = (before.setEntry number fun entry =>
      { entry with marker, current := some edition }).finish who result)
    (found : before.entry? number = some entry) (known : after.entry? number = some later) :
    ∃ bytes, Describes (front ++ [event]) later bytes ∧
      Keeps origin (front ++ [event]) after later.file bytes := by
  have refers := (orderly.step taken).referenced number later known
  have landed : before.Landed who number printer marker edition := .replaced asked
  obtain ⟨bytes, came, isOf, keeps⟩ := tended.landed who number printer marker edition landed
  have kept := keeps.held traced orderly taken asked rfl refers (landed.not_places orderly)
  obtain ⟨isPrinter, file⟩ := landed.file orderly found
  rw [same] at known
  obtain ⟨changed, there, agrees⟩ := finish_entry known
  obtain rfl : { entry with marker, current := some edition } = changed := by
    simpa [found] using there
  refine ⟨bytes, .document who agrees.current isOf ?_, ?_⟩
  · rw [agrees.printer, agrees.marker, isPrinter]
    exact ⟨List.mem_append_left _ (traced.asked who _ asked), List.mem_append_left _ came⟩
  · rw [agrees.file, file]
    exact kept

omit traced in
/-- A new entry has an empty file, unless a stray document lay there. -/
theorem Tended.created (tended : Tended origin front before) (caller : event.caller? = some who)
    (missing : before.entry? number = none) (known : after.entry? number = some entry) :
    Describes (front ++ [event]) entry [] ∧ Keeps origin (front ++ [event]) after entry.file [] := by
  have creates := (orderly.course (move_of_step taken) caller).fresh number entry missing known
  obtain ⟨current, marker, file⟩ : entry.current = none ∧ entry.marker = none ∧
      entry.file = ⟨stemOf entry.printer, number⟩ := by
    rw [Option.some.inj (known.symm.trans creates.known)]
    exact ⟨rfl, rfl, rfl⟩
  refine ⟨.empty current marker, ?_⟩
  have content := creates.content
  rw [← file] at content
  cases there : before.disk.content? entry.file with
  | none => exact .inr ⟨[], by rw [content, there]; rfl, .inl rfl⟩
  | some found =>
      -- The number is new, so no entry owns the file that is there already.
      rcases tended.filed entry.file found there with ⟨old, present, -⟩ | stray
      · rw [file] at present
        simp [missing] at present
      · exact .inr ⟨found, by rw [content, there]; rfl, .inr (stray.append _)⟩

theorem Tended.unsettled {later : Entry} (tended : Tended origin front before)
    (reached : origin.run? front = some before) (caller : event.caller? = some who)
    (pending : ¬ ∃ printer marker edition, before.call? who =
      some ⟨.refresh printer, .replaced number marker (.ok edition)⟩)
    (found : before.entry? number = some entry) (known : after.entry? number = some later) :
    ∃ bytes, Describes (front ++ [event]) later bytes ∧
      (Keeps origin (front ++ [event]) after later.file bytes ∨
        ∃ who printer marker edition, after.Landed who number printer marker edition) := by
  have moved := move_of_step taken
  have agrees : Agrees entry later := by
    have course := orderly.course moved caller
    rcases course.entries number entry found with ⟨_, again, becomes⟩ | dropped
    · obtain rfl := Option.some.inj (known.symm.trans again)
      rcases becomes.settled with ⟨marker, current⟩ | ⟨edition, settles, -⟩
      · exact ⟨becomes.printer, becomes.file, marker, current⟩
      · obtain ⟨⟨request, phase⟩, asked, rfl⟩ := call?_of_phase? settles
        obtain ⟨printer, rfl, -⟩ := orderly.holds asked rfl
        exact absurd ⟨printer, _, edition, asked⟩ pending
    · simp [dropped.missing] at known
  refine tended.agreeing traced orderly taken reached found known agrees ?_
  intro mover printer marker edition called landed
  obtain rfl := Option.some.inj (called.symm.trans caller)
  -- A document in the file stays with the call that waits for it, until it is given up.
  cases landed with
  | replaced asked => exact absurd ⟨printer, marker, edition, asked⟩ pending
  | placed asked working =>
      cases orderly.resolves moved caller asked with
      | wait busy => exact absurd working (busy _ _ _)
      | desert => exact .inr rfl
      | deliver cleaning told =>
          obtain ⟨-, -, same⟩ := Job.replace.inj (Option.some.inj (cleaning.symm.trans working))
          obtain rfl := Replacement.cleaning.inj same
          exact .inl (.replaced told)

theorem Tended.entries_step (tended : Tended origin front before)
    (reached : origin.run? front = some before) (known : after.entry? number = some entry) :
    ∃ bytes, Describes (front ++ [event]) entry bytes ∧
      (Keeps origin (front ++ [event]) after entry.file bytes ∨
        ∃ who printer marker edition, after.Landed who number printer marker edition) := by
  have moved := move_of_step taken
  cases caller : event.caller? with
  | none =>
      have same : after.entry? number = before.entry? number := by
        cases moved.aside caller <;> rfl
      refine tended.agreeing traced orderly taken reached (same.symm.trans known) known
        ⟨rfl, rfl, rfl, rfl⟩ ?_
      intro who printer marker edition called
      simp [caller] at called
  | some mover =>
      cases found : before.entry? number with
      | none =>
          obtain ⟨describes, keeps⟩ := tended.created orderly taken caller found known
          exact ⟨[], describes, .inl keeps⟩
      | some old =>
          -- Only a refresh that settles changes the fields of an entry.
          by_cases replaced : ∃ printer marker edition, before.call? mover =
            some ⟨.refresh printer, .replaced number marker (.ok edition)⟩
          · obtain ⟨printer, marker, edition, asked⟩ := replaced
            rcases orderly.settles_or_deserts moved caller asked with ⟨_, -, same⟩ | ⟨rfl, same⟩
            · obtain ⟨bytes, describes, keeps⟩ :=
                tended.settled traced orderly taken asked same found known
              exact ⟨bytes, describes, .inl keeps⟩
            · obtain ⟨_, again, agrees⟩ := finish_entry (same ▸ known)
              obtain rfl := Option.some.inj (found.symm.trans again)
              refine tended.agreeing traced orderly taken reached found known agrees ?_
              intro who printer marker edition called _
              obtain rfl := Option.some.inj called
              exact .inr rfl
          · exact tended.unsettled traced orderly taken reached caller replaced found known

theorem Tended.filed_step (tended : Tended origin front before)
    (content : after.disk.content? name = some bytes) :
    (∃ entry, after.entry? name.tag = some entry ∧ entry.file = name) ∨
      Stray origin (front ++ [event]) name bytes := by
  have moved := move_of_step taken
  cases caller : event.caller? with
  | none =>
      cases moved.aside caller with
      | pool | lose => exact (tended.filed name bytes content).imp_right (·.append _)
      | removeDirectory => contradiction
  | some mover =>
      have course := orderly.course moved caller
      rcases course.files name with
        same | places | ⟨printer, creates, stem⟩ | ⟨entry, known, file, -⟩
      · rcases tended.filed name bytes (same.symm.trans content) with ⟨entry, known, file⟩ | stray
        · exact .inl (course.keeps_file content known file)
        · exact .inr (stray.append _)
      · obtain ⟨number, printer, marker, written, rfl, there, -, -, sent, owner⟩ :=
          traced.placed orderly taken caller places
        rcases owner with asked | ⟨-, deserted⟩
        · obtain ⟨_, same, entry, known, -, named⟩ := orderly.holds asked rfl
          obtain rfl := Request.refresh.inj same
          refine .inl (course.keeps_file content known ?_)
          rw [(orderly.named number entry known).1, named]
        · obtain rfl := Option.some.inj (there.symm.trans content)
          exact .inr (Stray.append ⟨mover, printer, marker, sent, rfl, deserted⟩ _)
      · refine .inl ⟨_, creates.known, ?_⟩
        rw [← stem]
      · exact .inl (course.keeps_file content known file)

theorem Tended.step (tended : Tended origin front before)
    (reached : origin.run? front = some before) : Tended origin (front ++ [event]) after where
  landed _ _ _ _ _ := tended.landed_step traced orderly taken
  entries _ _ := tended.entries_step traced orderly taken reached
  filed _ _ := tended.filed_step traced orderly taken

end Step

theorem start_tended (started : start settings = .ok fresh) : Tended fresh [] fresh := by
  obtain rfl := start_inv started
  refine ⟨?_, ?_, ?_⟩
  · rintro who number printer marker edition (asked | asked) <;> contradiction
  · intro number entry found
    contradiction
  · intro name bytes content
    contradiction

theorem run_tended (started : start settings = .ok fresh) (ran : fresh.run? events = some service) :
    Traced fresh events service ∧ Tended fresh events service := by
  refine (start_orderly started).induct_told
    (P := fun events service => Traced fresh events service ∧ Tended fresh events service) ran
    ⟨start_traced started, start_tended started⟩ ?_
  rintro front event before after reached orderly taken ⟨traced, tended⟩
  exact ⟨traced.step orderly reached taken, tended.step traced orderly taken reached⟩

end PrintConnector.Service
