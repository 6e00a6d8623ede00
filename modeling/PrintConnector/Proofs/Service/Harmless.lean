import PrintConnector.Proofs.Service.Renewal

namespace PrintConnector.Service

open Cache (Copy Disk Edition Entry Fault FileName stemOf)

variable {service fresh before after : Service} {event : Event}
  {events front middle back : List Event} {who other number download : Nat}
  {request : Request} {phase : Phase} {entry : Entry} {printer : String} {error : Error}
  {name : FileName} {settings : Settings}

/-- The new document of a refresh is in its place.  From then on the refresh cannot fail. -/
inductive Committed (service : Service) (who : Nat) : Prop where
  | placed {request : Request} {number download : Nat} {marker : Option String}
      {target : FileName} {edition : Edition}
      (asked : service.call? who = some ⟨request, .replacing number marker⟩)
      (working : service.jobs.entry? who =
        some (.replace download target (.cleaning (.ok edition))))
  | replaced {request : Request} {number : Nat} {marker : Option String} {edition : Edition}
      (asked : service.call? who = some ⟨request, .replaced number marker (.ok edition)⟩)
  | concluded {request : Request} {result : Result}
      (asked : service.call? who = some ⟨request, .finished result⟩)
      (other : ∀ error, result ≠ .refreshed (.error error))

theorem not_committed (failed : service.call? who =
    some ⟨request, .finished (.refreshed (.error error))⟩) : ¬ service.Committed who := by
  rintro (⟨asked, -⟩ | asked | ⟨asked, other⟩)
  · simp [failed] at asked
  · simp [failed] at asked
  · obtain ⟨-, same⟩ := Call.mk.inj (Option.some.inj (failed.symm.trans asked))
    exact other error (Phase.finished.inj same).symm

theorem committed_of_placed {number download : Nat} {marker : Option String} {target : FileName}
    {edition : Edition} (orderly : before.Orderly) (moved : before.Move event after)
    (caller : event.caller? = some who)
    (asked : before.call? who = some ⟨request, .replacing number marker⟩)
    (working : before.jobs.entry? who =
      some (.replace download target (.cleaning (.ok edition)))) : after.Committed who := by
  cases orderly.resolves moved caller asked with
  | wait busy => exact absurd working (busy _ _ _)
  | deliver cleaning told =>
      obtain ⟨-, -, same⟩ := Job.replace.inj (Option.some.inj (cleaning.symm.trans working))
      obtain rfl := Replacement.cleaning.inj same
      exact .replaced told
  | desert => exact .concluded (finish_call? asked) (by simp)

theorem committed_of_replaced {number : Nat} {marker : Option String} {edition : Edition}
    (orderly : before.Orderly) (moved : before.Move event after) (caller : event.caller? = some who)
    (asked : before.call? who = some ⟨request, .replaced number marker (.ok edition)⟩) :
    after.Committed who := by
  rcases orderly.settles_or_deserts moved caller asked with ⟨entry, -, rfl⟩ | ⟨-, rfl⟩
  · exact .concluded (finish_call? (call?_setEntry.trans asked)) (by simp)
  · exact .concluded (finish_call? asked) (by simp)

theorem Committed.step (committed : before.Committed who) (orderly : before.Orderly)
    (taken : before.step? event = some after) : after.Committed who := by
  have moved := move_of_step taken
  by_cases caller : event.caller? = some who
  · cases committed with
    | concluded asked other =>
        obtain ⟨next, found, turned⟩ := orderly.next_phase taken asked
        cases turned with
        | stay => exact .concluded found other
        | fail fails => cases fails
        | finish under => exact absurd rfl (under _)
    | replaced asked => exact committed_of_replaced orderly moved caller asked
    | placed asked working => exact committed_of_placed orderly moved caller asked working
  · obtain ⟨calls, jobs⟩ := orderly.stays taken caller
    cases committed with
    | placed asked working => exact .placed (calls.trans asked) (jobs.trans working)
    | replaced asked => exact .replaced (calls.trans asked)
    | concluded asked other => exact .concluded (calls.trans asked) other

theorem committed_of_places (orderly : after.Orderly) (places : Places before after who name) :
    after.Committed who := by
  obtain ⟨download, copy, -, working⟩ := places
  obtain ⟨⟨request, phase⟩, found⟩ := orderly.jobs who _ working
  rcases orderly.replacement found working with ⟨_, _, _, rfl, -⟩ | rfl
  · exact .placed found working
  · exact .concluded found (by simp)

theorem committed_of_settles {marker : Option String} {edition : Edition}
    (settles : service.Settles who number marker edition) : service.Committed who := by
  obtain ⟨⟨request, phase⟩, found, rfl⟩ := call?_of_phase? settles
  exact .replaced found

/-- An entry and its file are as they were, and it is listed as it was. -/
structure Untouched (before after : Service) (number : Nat) (entry : Entry) : Prop where
  known : ∃ later, after.entry? number = some later ∧ Agrees entry later
  listed : ∀ printer, after.listed? printer = some number ↔ before.listed? printer = some number
  content : after.disk.content? entry.file = before.disk.content? entry.file

/-- The entry of a printer holds something, or it is of another printer. -/
def Stands (service : Service) (printer : String) (number : Nat) (entry : Entry) : Prop :=
  (service.listed? entry.printer = some number ∧ entry.current ≠ none) ∨ entry.printer ≠ printer

section Failing

variable (orderly : before.Orderly) (taken : before.step? event = some after)
  (caller : event.caller? = some who)
  (asks : ∀ call, before.call? who = some call → call.request = .refresh printer)

include orderly asks

/-- A refresh strikes none but an empty entry of its printer. -/
theorem Orderly.not_strikes_standing (found : before.entry? number = some entry)
    (stands : before.Stands printer number entry) : ¬ before.Strikes who number := by
  rintro (⟨asked, -⟩ | asked | asked)
  · have same := asks _ asked
    contradiction
  · have same := asks _ asked
    contradiction
  · have fits := orderly.calls who _ asked
    obtain ⟨known, again, named⟩ := fits.handle number rfl
    obtain rfl := Option.some.inj (found.symm.trans again)
    rcases stands with ⟨-, holding⟩ | different
    · exact holding (fits.empty number _ entry (.inl rfl) found)
    · refine different (named printer ?_)
      rw [asks _ asked]
      rfl

theorem Orderly.refers_standing (course : Course (licenceOf before after who) who before after)
    (found : before.entry? number = some entry) (stands : before.Stands printer number entry) :
    after.Refers number := by
  have unstruck := orderly.not_strikes_standing asks found stands
  rcases stands with ⟨listed, -⟩ | different
  · rcases course.struck _ number listed with kept | strikes
    · exact .listed kept
    · exact absurd strikes unstruck
  · -- What the refresh has hold of is of its own printer.
    have foreign {call : Call} (known : before.call? who = some call) :
        ¬ before.About call.request number := by
      rintro ⟨same, again, named⟩
      obtain rfl := Option.some.inj (found.symm.trans again)
      refine different (named printer ?_)
      rw [asks _ known]
      rfl
    refine course.refers (orderly.referenced number entry found) ?_ ?_ ?_
    · intro _ _ strikes
      exact absurd strikes unstruck
    · intro call known handle
      exact absurd ((orderly.calls who call known).handle number handle) (foreign known)
    · intro entries working member
      obtain ⟨call, known⟩ := orderly.jobs who _ working
      rcases (orderly.calls who call known).job _ working with _ | _ | ⟨-, about⟩
      exact absurd (about number member) (foreign known)

include taken caller

theorem Orderly.untouched (openBefore : ¬ before.Committed who) (openAfter : ¬ after.Committed who)
    (found : before.entry? number = some entry) (stands : before.Stands printer number entry) :
    Untouched before after number entry := by
  have course := orderly.course (move_of_step taken) caller
  have refers := orderly.refers_standing asks course found stands
  obtain ⟨file, early⟩ := orderly.named number entry found
  rcases course.entries number entry found with ⟨later, known, becomes⟩ | dropped
  · rcases becomes.settled with ⟨marker, current⟩ | ⟨edition, settles, -⟩
    · refine ⟨⟨later, known, becomes.printer, becomes.file, marker, current⟩, ?_, ?_⟩
      · intro other
        constructor
        · intro listed
          rcases course.listed other number listed with kept | creates
          · exact kept
          · rw [creates.next] at early
            exact absurd early (Nat.lt_irrefl _)
        · intro listed
          rcases course.struck other number listed with kept | strikes
          · exact kept
          · exact absurd strikes (orderly.not_strikes_standing asks found stands)
      · rcases course.content orderly.named found refers with same | places
        · exact same
        · exact absurd (committed_of_places (orderly.step taken) places) openAfter
    · exact absurd (committed_of_settles settles) openBefore
  · exact absurd refers dropped.loose

end Failing

theorem Untouched.trans {later : Entry} (first : Untouched before service number entry)
    (agrees : Agrees entry later)
    (second : Untouched service after number later) : Untouched before after number entry := by
  obtain ⟨last, present, again⟩ := second.known
  refine ⟨⟨last, present, ?_⟩, ?_, ?_⟩
  · exact ⟨again.printer.trans agrees.printer, again.file.trans agrees.file,
      again.marker.trans agrees.marker, again.current.trans agrees.current⟩
  · intro printer
    exact (second.listed printer).trans (first.listed printer)
  · rw [← agrees.file, second.content, agrees.file]
    exact first.content

section Failed

variable (ran : service.run? back = some after)
  (failed : after.call? who = some ⟨.refresh printer, .finished (.refreshed (.error error))⟩)

include ran failed

/-- A refresh that fails in the end has not got to a new document before. -/
theorem Orderly.uncommitted (orderly : service.Orderly) : ¬ service.Committed who := by
  intro committed
  have stays : after.Committed who := by
    refine orderly.induct (P := fun service => service.Committed who) ran committed ?_
    intro event one two order taken committed
    exact committed.step order taken
  exact not_committed failed stays

theorem Orderly.asks (orderly : service.Orderly) :
    ∀ call, service.call? who = some call → call.request = .refresh printer := by
  rintro ⟨request, phase⟩ found
  obtain ⟨later, known⟩ := orderly.keeps_request ran found
  exact (Call.mk.inj (Option.some.inj (known.symm.trans failed))).1

end Failed

/-- At such a moment a refresh that was given up has put its document in a file after
all. -/
def Overtaken (moment : Service → Prop) (origin : Service) (events : List Event)
    (name : FileName) : Prop :=
  ∃ front event back who between next, events = front ++ event :: back ∧
    origin.run? front = some between ∧ between.step? event = some next ∧
    between.phase? who = some (.finished .abandoned) ∧ Places between next who name ∧
    moment between

theorem overtaken_last {moment : Service → Prop} (reached : fresh.run? front = some before)
    (taken : before.step? event = some after)
    (concluded : before.phase? who = some (.finished .abandoned))
    (places : Places before after who name) (meets : moment before) :
    Overtaken moment fresh (front ++ [event]) name :=
  ⟨front, event, [], who, before, after, rfl, reached, taken, concluded, places, meets⟩

theorem Overtaken.cons {moment : Service → Prop} (taken : before.step? event = some service)
    (overtaken : Overtaken moment service events name) :
    Overtaken moment before (event :: events) name := by
  obtain ⟨front, last, back, who, between, next, rfl, reached, placed⟩ := overtaken
  exact ⟨event :: front, last, back, who, between, next, rfl,
    run?_cons.mpr ⟨service, taken, reached⟩, placed⟩

theorem Overtaken.append {moment : Service → Prop}
    (overtaken : Overtaken moment before events name) (more : List Event) :
    Overtaken moment before (events ++ more) name := by
  obtain ⟨front, last, back, who, between, next, rfl, reached, placed⟩ := overtaken
  exact ⟨front, last, back ++ more, who, between, next, by simp, reached, placed⟩

/-- Whoever puts a document in a file has the lock of its entry, or was given
up. -/
theorem Orderly.places_cases (orderly : before.Orderly) (places : Places before after who name) :
    (before.Grips who name.tag ∧ ∃ entry, before.entry? name.tag = some entry ∧ entry.file = name) ∨
      before.phase? who = some (.finished .abandoned) := by
  obtain ⟨download, copy, working, -⟩ := places
  obtain ⟨⟨request, phase⟩, found⟩ := orderly.jobs who _ working
  rcases orderly.replacement found working with ⟨number, _, printer, rfl, rfl, rfl⟩ | rfl
  · obtain ⟨_, same, entry, known, -, named⟩ := orderly.holds found rfl
    obtain rfl := Request.refresh.inj same
    refine .inl ⟨⟨_, _, found, rfl⟩, entry, known, ?_⟩
    rw [(orderly.named number entry known).1, named]
  · exact .inr (phase?_of_call? found)

/-- An entry is empty and its lock is in the hands of a call, or it is struck off
the list for good. -/
inductive Vacant (service : Service) (who number : Nat) : Prop where
  | held {request : Request} {phase : Phase} {entry : Entry}
      (asked : service.call? who = some ⟨request, phase⟩) (handle : phase.handle? = some number)
      (known : service.entry? number = some entry) (held : entry.isHeldBy who = true)
      (empty : entry.current = none)
  | unlisted (early : number < service.nextEntry)
      (gone : ∀ printer, service.listed? printer ≠ some number)

theorem Orderly.stays_unlisted (orderly : before.Orderly) (taken : before.step? event = some after)
    (early : number < before.nextEntry) (gone : ∀ printer, before.listed? printer ≠ some number) :
    number < after.nextEntry ∧ ∀ printer, after.listed? printer ≠ some number := by
  have moved := move_of_step taken
  cases caller : event.caller? with
  | some mover =>
      have course := orderly.course moved caller
      refine ⟨Nat.lt_of_lt_of_le early course.nextEntry, ?_⟩
      intro printer listed
      rcases course.listed printer number listed with kept | creates
      · exact gone printer kept
      · rw [creates.next] at early
        exact absurd early (Nat.lt_irrefl _)
  | none =>
      cases moved.aside caller with
      | pool | lose | removeDirectory => exact ⟨early, gone⟩

theorem Orderly.vacant_other (orderly : before.Orderly) (taken : before.step? event = some after)
    (different : event.caller? ≠ some who) (asked : before.call? who = some ⟨request, phase⟩)
    (handle : phase.handle? = some number) (known : before.entry? number = some entry)
    (held : entry.isHeldBy who = true) (empty : entry.current = none) :
    after.Vacant who number := by
  obtain ⟨later, present, agrees, first⟩ := orderly.kept taken different asked handle known held
  have found := (orderly.stays taken different).1.trans asked
  exact .held found handle present first (agrees.current.trans empty)

/-- A call that ends with a failure has no entry any more, or one that holds
something. -/
theorem Ends.failing {state : Service} {result : Result}
    (ends : Ends state who event request phase result)
    (failed : result = .refreshed (.error error)) :
    phase.handle? = none ∨ ∃ number entry edition, state.entry? number = some entry ∧
      phase.handle? = some number ∧ entry.current = some edition := by
  cases ends with
  | failed known fails current => exact .inr ⟨_, _, _, known, fails.handle, current⟩
  | uncreated | unknown | nothing | discarded | answered => exact .inl rfl
  | read | confirmed | stopped | abandoned => simp at failed

/-- The refresh that has the lock of an empty entry keeps it or strikes the entry
off the list. -/
theorem Orderly.vacant_own (orderly : before.Orderly) (taken : before.step? event = some after)
    (caller : event.caller? = some who) (asked : before.call? who = some ⟨.refresh printer, phase⟩)
    (openBefore : ¬ before.Committed who) (openAfter : ¬ after.Committed who)
    (handle : phase.handle? = some number) (known : before.entry? number = some entry)
    (held : entry.isHeldBy who = true) (empty : entry.current = none) :
    after.Vacant who number := by
  have early := (orderly.named number entry known).2
  have fits := orderly.calls who _ asked
  have same {other : Call} (again : before.call? who = some other) :
      other = ⟨.refresh printer, phase⟩ := Option.some.inj (again.symm.trans asked)
  have moved := move_of_step taken
  cases moved with
  | enter new =>
      obtain rfl := Option.some.inj caller
      simp [new] at asked
  | create asked' | queue asked' | strike asked' | drain asked' | query asked' | shutGate asked'
  | sealUp asked' | hear asked' =>
      obtain rfl := Option.some.inj caller
      obtain ⟨-, rfl⟩ := Call.mk.inj (same asked')
      contradiction
  | ask asked' advanced =>
      obtain rfl := Option.some.inj ((advances_caller advanced).symm.trans caller)
      obtain ⟨-, rfl⟩ := Call.mk.inj (same asked')
      contradiction
  | forget asked' =>
      obtain rfl := Option.some.inj caller
      obtain ⟨again, -⟩ := Call.mk.inj (same asked')
      contradiction
  | fetch asked' | take asked' =>
      obtain rfl := Option.some.inj caller
      obtain ⟨-, rfl⟩ := Call.mk.inj (same asked')
      exact .held (call?_setPhase_self asked') handle known held empty
  | advance asked' advanced =>
      obtain rfl := Option.some.inj ((advances_caller advanced).symm.trans caller)
      obtain ⟨-, rfl⟩ := Call.mk.inj (same asked')
      exact .held (call?_setPhase_self asked') handle known held empty
  | answer asked' received =>
      obtain rfl := Option.some.inj caller
      obtain ⟨-, rfl⟩ := Call.mk.inj (same asked')
      rw [(received_inv received).1]
      exact .held (call?_setPhase_self asked') handle known held empty
  | fail asked' _ fails =>
      obtain rfl := Option.some.inj caller
      obtain ⟨-, rfl⟩ := Call.mk.inj (same asked')
      obtain rfl := Option.some.inj (fails.handle.symm.trans handle)
      exact .held (call?_setPhase_self asked') rfl known held empty
  | restart asked' _ _ unlisted =>
      obtain rfl := Option.some.inj caller
      obtain ⟨asks, rfl⟩ := Call.mk.inj (same asked')
      obtain rfl := Request.refresh.inj asks
      obtain rfl := Option.some.inj handle
      refine .unlisted early ?_
      intro other listed
      obtain ⟨_, again, named⟩ := orderly.listed other _ listed
      obtain rfl := Option.some.inj (known.symm.trans again)
      obtain ⟨_, again, about⟩ := fits.handle _ rfl
      obtain rfl := Option.some.inj (known.symm.trans again)
      obtain rfl := (about _ rfl).symm.trans named
      exact unlisted listed
  | settle asked' =>
      obtain rfl := Option.some.inj caller
      exact absurd (.replaced asked') openBefore
  | @unlist _ number' _ _ entry' _ asked' known' =>
      obtain rfl := Option.some.inj caller
      obtain ⟨-, rfl⟩ := Call.mk.inj (same asked')
      obtain rfl := Option.some.inj handle
      have gone := orderly.not_listed_strikeEntry known'
      obtain ⟨listing, struck⟩ := strikeEntry_eq before number' entry'
      rw [struck] at gone ⊢
      exact .unlisted early gone
  | release asked' =>
      obtain rfl := Option.some.inj caller
      obtain ⟨-, rfl⟩ := Call.mk.inj (same asked')
      obtain rfl := Option.some.inj handle
      exact .unlisted early (fits.struck _ _ rfl)
  | @finish _ _ _ _ result asked' ends =>
      obtain rfl := Option.some.inj (ends.caller.symm.trans caller)
      obtain ⟨-, rfl⟩ := Call.mk.inj (same asked')
      by_cases failing : ∃ error, result = .refreshed (.error error)
      · obtain ⟨error, failed⟩ := failing
        rcases ends.failing failed with loose | ⟨_, _, edition, known', handle', current⟩
        · simp [loose] at handle
        · obtain rfl := Option.some.inj (handle'.symm.trans handle)
          obtain rfl := Option.some.inj (known'.symm.trans known)
          simp [empty] at current
      · exact absurd (.concluded (finish_call? asked') (not_exists.mp failing)) openAfter
  | prepare working | place working =>
      obtain rfl := Option.some.inj caller
      exact .held asked handle known held empty
  | clean working =>
      obtain rfl := Option.some.inj caller
      unfold deliver
      split
      · rename_i doing
        obtain rfl := Option.some.inj ((phase?_of_call? asked).symm.trans doing)
        exact .held (call?_setPhase_self asked) handle known held empty
      · exact .held asked handle known held empty
  | discard working =>
      obtain rfl := Option.some.inj caller
      rcases fits.job _ working with _ | _ | ⟨⟨_, rfl⟩ | rfl, -⟩ <;> contradiction
  | reap | elapse | age | lose | removeDirectory => contradiction

/-- An entry has the file. -/
def Owns (service : Service) (name : FileName) : Prop :=
  ∃ entry, service.entry? name.tag = some entry ∧ entry.file = name

/-- A file belongs to an entry, unless a refresh that was given up has put its document
there when no entry had the file. -/
def Filed (origin : Service) (name : FileName) (events : List Event) (service : Service) : Prop :=
  ∀ bytes, service.disk.content? name = some bytes →
    service.Owns name ∨ Overtaken (¬ ·.Owns name) origin events name

theorem Filed.step (filed : Filed fresh name front before) (orderly : before.Orderly)
    (reached : fresh.run? front = some before) (taken : before.step? event = some after) :
    Filed fresh name (front ++ [event]) after := by
  have moved := move_of_step taken
  intro bytes content
  cases caller : event.caller? with
  | none =>
      cases moved.aside caller with
      | pool | lose => exact (filed bytes content).imp_right (·.append _)
      | removeDirectory => contradiction
  | some mover =>
      have course := orderly.course moved caller
      rcases course.files name with
        same | places | ⟨printer, creates, stem⟩ | ⟨entry, known, file, -⟩
      · rcases filed bytes (same.symm.trans content) with ⟨entry, known, file⟩ | overtaken
        · exact .inl (course.keeps_file content known file)
        · exact .inr (overtaken.append _)
      · by_cases owned : before.Owns name
        · obtain ⟨entry, known, file⟩ := owned
          exact .inl (course.keeps_file content known file)
        · rcases orderly.places_cases places with ⟨-, has⟩ | concluded
          · exact absurd has owned
          · exact .inr (overtaken_last reached taken concluded places owned)
      · refine .inl ⟨_, creates.known, ?_⟩
        rw [← stem]
      · exact .inl (course.keeps_file content known file)

theorem Filed.run (filed : Filed before name [] before) (orderly : before.Orderly)
    (ran : before.run? events = some after) : Filed before name events after :=
  orderly.induct_told (P := Filed before name) ran filed
    fun _ _ _ _ reached orderly taken filed => filed.step orderly reached taken

theorem start_filed (started : start settings = .ok fresh) : Filed fresh name [] fresh := by
  obtain rfl := start_inv started
  intro bytes content
  contradiction

theorem run_filed (started : start settings = .ok fresh) (ran : fresh.run? events = some service) :
    Filed fresh name events service :=
  (start_filed started).run (start_orderly started) ran

/-- A download is on its way into the cache, or it is gone. -/
inductive Received (service : Service) (who download : Nat) : Prop where
  | fetched {request : Request} {number : Nat} {exchange : Exchange (PpdReply Nat)}
      {marker : Option String}
      (asked : service.call? who = some ⟨request, .fetching number exchange⟩)
      (reply : exchange.reply? = some (.document download marker))
      (early : download < service.disk.nextDownload)
  | taken {target : FileName} {progress : Replacement}
      (working : service.jobs.entry? who = some (.replace download target progress))
      (early : download < service.disk.nextDownload)
  | gone (early : download < service.disk.nextDownload)
      (missing : service.disk.downloads.entry? download = none)

theorem Orderly.stays_gone (orderly : before.Orderly) (taken : before.step? event = some after)
    (early : download < before.disk.nextDownload)
    (missing : before.disk.downloads.entry? download = none) :
    after.disk.downloads.entry? download = none := by
  cases there : after.disk.downloads.entry? download with
  | none => rfl
  | some bytes =>
      have found := (orderly.downloads_fade taken).2 download bytes early there
      simp [missing] at found

/-- A refresh that has its answer goes on to take the document in. -/
theorem Orderly.received_fetched {number : Nat} {exchange : Exchange (PpdReply Nat)}
    {marker : Option String} (orderly : before.Orderly) (moved : before.Move event after)
    (caller : event.caller? = some who)
    (asked : before.call? who = some ⟨request, .fetching number exchange⟩)
    (reply : exchange.reply? = some (.document download marker))
    (early : download < after.disk.nextDownload) : after.Received who download := by
  have idle := orderly.idle asked rfl
  have same {other : Call} (again : before.call? who = some other) :
      other = ⟨request, .fetching number exchange⟩ := Option.some.inj (again.symm.trans asked)
  have position := Exchange.position_of_reply reply
  cases moved with
  | advance asked' advanced =>
      obtain rfl := Option.some.inj ((advances_caller advanced).symm.trans caller)
      obtain ⟨-, again⟩ := Call.mk.inj (same asked')
      obtain ⟨rfl, rfl⟩ := Phase.fetching.inj again
      exact .fetched (call?_setPhase_self asked') (reply?_advances advanced reply) early
  | take asked' concluded known =>
      obtain rfl := Option.some.inj caller
      obtain ⟨-, again⟩ := Call.mk.inj (same asked')
      obtain ⟨rfl, rfl⟩ := Phase.fetching.inj again
      obtain ⟨rfl, rfl⟩ : _ = download ∧ _ = marker := by simpa [concluded] using position
      exact .taken (jobs_addJob idle) early
  | answer asked' _ answered =>
      obtain rfl := Option.some.inj caller
      obtain ⟨-, again⟩ := Call.mk.inj (same asked')
      obtain ⟨rfl, rfl⟩ := Phase.fetching.inj again
      unfold Exchange.answered? at answered
      split at answered
      · rename_i asking
        simp [asking] at position
      · contradiction
  | fail asked' _ fails =>
      obtain rfl := Option.some.inj caller
      obtain ⟨-, rfl⟩ := Call.mk.inj (same asked')
      cases fails with
      | request concluded => simp [concluded] at position
      | unchanged concluded => simp [concluded] at position
  | finish asked' ends =>
      obtain rfl := Option.some.inj (ends.caller.symm.trans caller)
      obtain ⟨-, rfl⟩ := Call.mk.inj (same asked')
      cases ends with
      | confirmed _ concluded => simp [concluded] at position
      | stopped concluded => simp [concluded] at position
      | failed _ fails =>
          cases fails with
          | request concluded => simp [concluded] at position
          | unchanged concluded => simp [concluded] at position
      | abandoned loose => contradiction
  | enter new =>
      obtain rfl := Option.some.inj caller
      simp [asked] at new
  | ask asked' advanced =>
      obtain rfl := Option.some.inj ((advances_caller advanced).symm.trans caller)
      simp [asked] at asked'
  | create asked' | queue asked' | strike asked' | drain asked' | query asked' | fetch asked'
  | restart asked' | forget asked' | hear asked' | settle asked' | unlist asked' | release asked'
  | shutGate asked' | sealUp asked' =>
      obtain rfl := Option.some.inj caller
      simp [asked] at asked'
  | prepare working | place working | clean working | discard working =>
      obtain rfl := Option.some.inj caller
      simp [idle] at working
  | reap | elapse | age | lose | removeDirectory => contradiction

theorem Orderly.received_taken {target : FileName} {progress : Replacement}
    (orderly : before.Orderly) (moved : before.Move event after) (caller : event.caller? = some who)
    (working : before.jobs.entry? who = some (.replace download target progress))
    (early : download < after.disk.nextDownload) : after.Received who download := by
  have busy {request : Request} {phase : Phase} (asked : before.call? who = some ⟨request, phase⟩) :
      phase.works = true := by
    cases rests : phase.works with
    | true => rfl
    | false => simp [orderly.idle asked rests] at working
  have same {job : Job} (again : before.jobs.entry? who = some job) :
      job = .replace download target progress := Option.some.inj (again.symm.trans working)
  cases moved with
  | finish asked' ends =>
      obtain rfl := Option.some.inj (ends.caller.symm.trans caller)
      rw [← finish_jobs] at working
      exact .taken working early
  | prepare working' =>
      obtain rfl := Option.some.inj caller
      obtain ⟨rfl, rfl, rfl⟩ := Job.replace.inj (same working')
      exact .taken (jobs_setJob working') early
  | place working' =>
      obtain rfl := Option.some.inj caller
      obtain ⟨rfl, rfl, rfl⟩ := Job.replace.inj (same working')
      exact .taken (jobs_setJob working') early
  | clean working' =>
      obtain rfl := Option.some.inj caller
      obtain ⟨rfl, rfl, rfl⟩ := Job.replace.inj (same working')
      refine .gone early ?_
      unfold deliver
      split <;> exact Roster.entry_remove.trans (if_pos rfl)
  | discard working' =>
      obtain rfl := Option.some.inj caller
      simp [working] at working'
  | enter new =>
      obtain rfl := Option.some.inj caller
      obtain ⟨call, found⟩ := orderly.jobs _ _ working
      simp [new] at found
  | advance asked' advanced | ask asked' advanced =>
      obtain rfl := Option.some.inj ((advances_caller advanced).symm.trans caller)
      exact absurd (busy asked') (by simp [Phase.works])
  | fail asked' _ fails =>
      obtain rfl := Option.some.inj caller
      have works := busy asked'
      cases fails <;> simp [Phase.works] at works
  | create asked' | queue asked' | strike asked' | drain asked' | query asked' | fetch asked'
  | restart asked' | forget asked' | answer asked' | hear asked' | take asked' | settle asked'
  | unlist asked' | release asked' | shutGate asked' | sealUp asked' =>
      obtain rfl := Option.some.inj caller
      exact absurd (busy asked') (by simp [Phase.works])
  | reap | elapse | age | lose | removeDirectory => contradiction

theorem Received.step (received : before.Received who download) (orderly : before.Orderly)
    (step : before.step? event = some after) : after.Received who download := by
  have later := (orderly.downloads_fade step).1
  have gone (early : download < before.disk.nextDownload)
      (missing : before.disk.downloads.entry? download = none) : after.Received who download :=
    .gone (Nat.lt_of_lt_of_le early later) (orderly.stays_gone step early missing)
  have moved := move_of_step step
  by_cases caller : event.caller? = some who
  · cases received with
    | fetched asked reply early =>
        exact orderly.received_fetched moved caller asked reply (Nat.lt_of_lt_of_le early later)
    | taken working early =>
        exact orderly.received_taken moved caller working (Nat.lt_of_lt_of_le early later)
    | gone early missing => exact gone early missing
  · obtain ⟨calls, jobs⟩ := orderly.stays step caller
    cases received with
    | fetched asked reply early =>
        exact .fetched (calls.trans asked) reply (Nat.lt_of_lt_of_le early later)
    | taken working early => exact .taken (jobs.trans working) (Nat.lt_of_lt_of_le early later)
    | gone early missing => exact gone early missing

theorem Received.run (received : before.Received who download) (orderly : before.Orderly)
    (ran : before.run? events = some after) : after.Received who download := by
  refine orderly.induct (P := fun service => service.Received who download) ran received ?_
  intro event one two order taken received
  exact received.step order taken

/-- The document of an answer is on its way as soon as the answer is in. -/
theorem Orderly.received (orderly : before.Orderly) {bytes : List UInt8} {marker : Option String}
    (taken : before.step? (.answered who (.ok (.ppd (.document bytes marker)))) = some after)
    (asks : ∀ call, before.call? who = some call → call.request = .refresh printer) :
    after.Received who before.disk.nextDownload := by
  have moved := move_of_step taken
  cases moved with
  | @answer who number request exchange next reply between taken pool asked received answered =>
      obtain ⟨rfl, rfl⟩ := Prod.mk.inj received
      have replied : next.reply? = some (.document before.disk.nextDownload marker) :=
        Exchange.reply?_of_answered answered
      exact .fetched (call?_setPhase_self asked) replied (Nat.lt_succ_self _)
  | hear asked =>
      have suits := (orderly.calls who _ asked).suits
      rw [asks _ asked] at suits
      cases suits with
      | gripping grip => contradiction
  | advance _ advanced | ask _ advanced => cases advanced
  | finish _ ends => cases ends

end PrintConnector.Service
