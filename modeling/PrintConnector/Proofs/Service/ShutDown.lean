import PrintConnector.Proofs.Service.Refusal

namespace PrintConnector.Service

open Cache (FileName stemOf)

variable {fresh service before after : Service} {events front back : List Event}
  {settings : Settings} {who number mark : Nat} {printer : String} {name : FileName}

def Phase.isFinished : Phase → Bool
  | .finished _ => true
  | _ => false

/-- Every call is over. -/
def Quiet (service : Service) : Prop :=
  ∀ who call, service.call? who = some call → call.phase.isFinished = true

theorem quiet_of_calls
    (ended : (service.calls.all fun call => call.2.phase.isFinished) = true) : service.Quiet := by
  intro who call found
  exact List.all_eq_true.mp ended _ (Roster.mem_of_entry found)

theorem Quiet.finished (quiet : service.Quiet) {call : Call}
    (found : service.call? who = some call) : ∃ result, call.phase = .finished result := by
  have ended := quiet who call found
  cases phase : call.phase with
  | finished result => exact ⟨result, rfl⟩
  | _ => simp [phase, Phase.isFinished] at ended

theorem run_lends (started : start settings = .ok fresh) (ran : fresh.run? events = some service) :
    service.Lends :=
  (start_orderly started).induct ran (start_lends started) fun _ _ _ orderly taken lends =>
    lends.step orderly taken

theorem run_steadfast (started : start settings = .ok fresh)
    (ran : fresh.run? events = some service) (kept : ∀ who, .abandon who ∉ events) :
    service.Steadfast := by
  refine (start_orderly started).induct_along ran ?_ ?_
  · obtain rfl := start_inv started
    intro who call found
    contradiction
  · intro event member one two orderly taken steadfast
    refine steadfast.step orderly taken ?_
    rintro who rfl
    exact kept who member

/-- What was listed before a shutdown emptied the list is not listed later. -/
theorem Orderly.drained (orderly : before.Orderly)
    (asked : before.call? who = some ⟨.shutdown, .starting⟩) {fault : Option Cache.Fault}
    (ran : before.run? (.go who fault :: back) = some after)
    (listed : after.listed? printer = some number) : before.nextEntry ≤ number := by
  by_contra old
  obtain ⟨between, taken, rest⟩ := run?_cons.mp ran
  have emptied : before.begin who .shutdown fault = between := by
    simpa [step?, go?, asked] using taken
  have gone : number < between.nextEntry ∧ ∀ printer, between.listed? printer ≠ some number := by
    rw [← emptied]
    refine ⟨Nat.lt_of_not_le old, ?_⟩
    intro other there
    contradiction
  -- Numbers are only given out upwards, so what is off the list stays off it.
  have last : number < after.nextEntry ∧ ∀ printer, after.listed? printer ≠ some number := by
    refine (orderly.step taken).induct
      (P := fun service => number < service.nextEntry ∧
        ∀ printer, service.listed? printer ≠ some number) rest gone ?_
    rintro event one two order step ⟨early, gone⟩
    exact order.stays_unlisted step early gone
  exact last.2 printer listed

/-- Behind the shut gate refreshes fail, and their entries stay guarded. -/
structure Behind (service : Service) : Prop where
  lends : service.Lends
  shut : service.pool.gateOpen = false

theorem Behind.step {event : Event} (behind : before.Behind) (orderly : before.Orderly)
    (taken : before.step? event = some after) : after.Behind :=
  ⟨behind.lends.step orderly taken, (orderly.turns taken).frame.shut behind.shut⟩

/-- What was made behind the shut gate is not listed when every call is over. -/
theorem Behind.refused_entries (behind : before.Behind) (orderly : before.Orderly)
    (ran : before.run? back = some after) (kept : ∀ who, .abandon who ∉ back)
    (quiet : after.Quiet) (listed : after.listed? printer = some number) :
    number < before.nextEntry := by
  -- At first no entry has a number from the mark on, so there is nothing to guard.
  have guarded : before.Guarded before.nextEntry := by
    intro other old there late
    obtain ⟨entry, known, -⟩ := orderly.listed other old there
    exact absurd (orderly.named old entry known).2 (Nat.not_lt_of_le late)
  have last : after.Behind ∧ after.Guarded before.nextEntry := by
    refine orderly.induct_along
      (P := fun service => service.Behind ∧ service.Guarded before.nextEntry) ran
      ⟨behind, guarded⟩ ?_
    rintro event member one two order taken ⟨behind, guarded⟩
    refine ⟨behind.step order taken, guarded.step order behind.lends taken behind.shut ?_⟩
    rintro who rfl
    exact kept who member
  by_contra late
  obtain ⟨who, guards⟩ := last.2 printer number listed (Nat.le_of_not_lt late)
  cases guards.vacant with
  | held asked handle =>
      -- The guard has hold of its entry still, so it is not over.
      obtain ⟨result, rfl⟩ := quiet.finished asked
      contradiction
  | unlisted _ gone => exact gone printer listed

theorem Behind.refused (behind : before.Behind) (orderly : before.Orderly)
    (ran : before.run? (.call who (.refresh printer) :: back) = some after)
    (kept : ∀ who, .abandon who ∉ back) (quiet : after.Quiet) :
    ∃ error, after.call? who = some ⟨.refresh printer, .finished (.refreshed (.error error))⟩ ∧
      Rebuffs error := by
  obtain ⟨between, taken, rest⟩ := run?_cons.mp ran
  have order := orderly.step taken
  have entered : between.Barred who printer := by
    cases move_of_step taken with
    | enter new => exact ⟨.starting, call?_enter new, .starting⟩
    | advance _ advanced | ask _ advanced => cases advanced
    | finish _ ends => cases ends
  have last : after.Behind ∧ after.Barred who printer := by
    refine order.induct_along (P := fun service => service.Behind ∧ service.Barred who printer) rest
      ⟨behind.step orderly taken, entered⟩ ?_
    rintro event member one two order taken ⟨behind, barred⟩
    refine ⟨behind.step order taken, barred.step order behind.lends taken behind.shut ?_⟩
    rintro rfl
    exact kept who member
  obtain ⟨phase, found, bars⟩ := last.2
  obtain ⟨result, rfl⟩ := quiet.finished found
  cases bars with
  | finished rebuffs => exact ⟨_, found, rebuffs⟩

theorem Orderly.referenced_quiet (orderly : service.Orderly) (quiet : service.Quiet)
    (steadfast : service.Steadfast) (refers : service.Refers number) :
    ∃ printer, service.listed? printer = some number := by
  cases refers with
  | @listed printer listed => exact ⟨printer, listed⟩
  | held found handle =>
      obtain ⟨result, ended⟩ := quiet.finished found
      simp [ended, Phase.handle?] at handle
  | @discarded who entries working =>
      obtain ⟨call, found⟩ := orderly.jobs who _ working
      obtain ⟨result, ended⟩ := quiet.finished found
      have going := steadfast who call found
      rcases (orderly.calls who call found).job _ working with _ | _ | ⟨⟨_, doing⟩ | doing, -⟩
      · simp [ended] at doing
      · simp [doing, Phase.isGivenUp] at going

/-- A shutdown emptied the list when entries had been counted up to a number. -/
def DrainedAt (fresh : Service) (events : List Event) (mark : Nat) : Prop :=
  ∃ front who fault back before, events = front ++ .go who fault :: back ∧
    fresh.run? front = some before ∧ before.call? who = some ⟨.shutdown, .starting⟩ ∧
    before.nextEntry = mark

/-- The gate was shut when entries had been counted up to a number. -/
def ShutAt (fresh : Service) (events : List Event) (mark : Nat) : Prop :=
  ∃ front back before, events = front ++ back ∧ fresh.run? front = some before ∧
    before.pool.gateOpen = false ∧ before.nextEntry = mark

/-- A shutdown empties the list before it shuts the gate of the pool, and a refresh that
comes in between makes an entry that stays. -/
structure Closed (fresh : Service) (events : List Event) (service : Service) : Prop where
  parked : service.pool.parked = []
  live : service.pool.live = 0
  /-- What is still listed was made after the list was emptied and before the gate
  was shut. -/
  listed : ∀ printer number, service.listed? printer = some number →
    (∀ mark, DrainedAt fresh events mark → mark ≤ number) ∧
      ∀ mark, ShutAt fresh events mark → number < mark
  files : ∀ name bytes, service.disk.content? name = some bytes →
    ∃ printer, service.listed? printer = some name.tag ∧ name.stem = stemOf printer
  /-- If nothing was made in between, nothing is left. -/
  empty : ∀ mark, DrainedAt fresh events mark → ShutAt fresh events mark →
    service.listing = [] ∧ ∀ name, service.disk.content? name = none
  refused : ∀ front who printer back before,
    events = front ++ .call who (.refresh printer) :: back →
    fresh.run? front = some before → before.pool.gateOpen = false →
    ∃ error, service.call? who = some ⟨.refresh printer, .finished (.refreshed (.error error))⟩ ∧
      Rebuffs error

section Runs

variable (started : start settings = .ok fresh) (ran : fresh.run? events = some service)

include started ran

theorem DrainedAt.le (drained : DrainedAt fresh events mark)
    (listed : service.listed? printer = some number) : mark ≤ number := by
  obtain ⟨front, caller, fault, back, before, rfl, reached, asked, rfl⟩ := drained
  obtain ⟨_, again, rest⟩ := run?_split ran
  obtain rfl := Option.some.inj (reached.symm.trans again)
  exact ((start_orderly started).run reached).drained asked rest listed

variable (kept : ∀ who, .abandon who ∉ events) (quiet : service.Quiet)

include kept quiet

theorem ShutAt.lt (shut : ShutAt fresh events mark)
    (listed : service.listed? printer = some number) : number < mark := by
  obtain ⟨front, back, before, rfl, reached, shut, rfl⟩ := shut
  obtain ⟨_, again, rest⟩ := run?_split ran
  obtain rfl := Option.some.inj (reached.symm.trans again)
  have behind : before.Behind := ⟨run_lends started reached, shut⟩
  exact behind.refused_entries ((start_orderly started).run reached) rest
    (fun who member => kept who (List.mem_append_right _ member)) quiet listed

theorem listed_of_content {bytes : List UInt8}
    (content : service.disk.content? name = some bytes) :
    ∃ printer, service.listed? printer = some name.tag ∧ name.stem = stemOf printer := by
  have first := start_orderly started
  have orderly := first.run ran
  have steadfast := run_steadfast started ran kept
  rcases run_filed started ran bytes content with
    ⟨entry, known, file⟩ | ⟨front, event, back, mover, between, _, rfl, reached, _, given, _⟩
  · obtain ⟨printer, listed⟩ :=
      orderly.referenced_quiet quiet steadfast (orderly.referenced _ entry known)
    obtain ⟨_, again, named⟩ := orderly.listed printer _ listed
    obtain rfl := Option.some.inj (known.symm.trans again)
    refine ⟨printer, listed, ?_⟩
    rw [← file, (orderly.named _ entry known).1, named]
  · -- Only a refresh that was given up leaves a file that no entry has.
    obtain ⟨call, found, doing⟩ := call?_of_phase? given
    have going := run_steadfast started reached
      (fun who member => kept who (List.mem_append_left _ member)) mover call found
    simp [doing, Phase.isGivenUp] at going

omit kept in
theorem nobody_live (parked : service.pool.parked = []) : service.pool.live = 0 := by
  have lends := run_lends started ran
  obtain ⟨limits, balanced⟩ := lends.balanced
  have nobody : service.pool.borrowers = [] := by
    refine lends.nobody fun who call found => ?_
    obtain ⟨result, ended⟩ := quiet.finished found
    rw [ended]
    rfl
  rw [balanced.live_eq, Pool.borrowed, nobody, Pool.idle, parked]
  rfl

theorem run_closed (shutDown : service.phase? who = some (.finished .shutDown)) :
    Closed fresh events service := by
  have first := start_orderly started
  have orderly := first.run ran
  have lends := run_lends started ran
  have parked : service.pool.parked = [] := by
    obtain ⟨⟨request, phase⟩, found, rfl⟩ := call?_of_phase? shutDown
    obtain ⟨limits, balanced⟩ := lends.balanced
    exact balanced.emptied (lends.sealed who request found)
  refine
    { parked, live := nobody_live started ran quiet parked, listed := ?_
      files := fun _ _ => listed_of_content started ran kept quiet, empty := ?_, refused := ?_ }
  · intro printer number listed
    exact ⟨fun _ drained => drained.le started ran listed,
      fun _ shut => shut.lt started ran kept quiet listed⟩
  · intro mark drained shut
    have unlisted (printer : String) (number : Nat) : service.listed? printer ≠ some number := by
      intro listed
      have late := drained.le started ran listed
      exact absurd (shut.lt started ran kept quiet listed) (Nat.not_lt_of_le late)
    constructor
    · refine List.eq_nil_iff_forall_not_mem.mpr ?_
      rintro ⟨printer, number⟩ member
      exact unlisted printer number (lookup_of_mem orderly.keyed.listing member)
    · intro name
      cases content : service.disk.content? name with
      | none => rfl
      | some bytes =>
          obtain ⟨printer, listed, -⟩ := listed_of_content started ran kept quiet content
          exact absurd listed (unlisted printer name.tag)
  · rintro front caller printer back before rfl reached shut
    obtain ⟨_, again, rest⟩ := run?_split ran
    obtain rfl := Option.some.inj (reached.symm.trans again)
    have behind : before.Behind := ⟨run_lends started reached, shut⟩
    refine behind.refused (first.run reached) rest ?_ quiet
    intro who member
    exact kept who (List.mem_append_right _ (.tail _ member))

end Runs

/-- Everything is shut down while a printer is refreshed for the first time, and
another refresh comes too late. -/
def quietShutdown : List Event :=
  [.call 0 (.refresh "office"), .go 0 none, .go 0 none, .go 0 none, .go 0 none,
    .connected 0 (.ok ()), .go 0 none, .go 0 none, .call 1 .shutdown, .go 1 none,
    .answered 0 (.ok (.ppd (.document [42, 80, 80, 68] (some "m1")))), .go 0 none, .go 0 none,
    .go 0 none, .go 0 none, .work 1 none, .work 0 none, .work 0 none, .work 0 none, .work 0 none,
    .work 0 none, .work 0 none, .go 1 none, .go 1 none, .go 0 none,
    .call 2 (.refresh "office"), .go 2 none, .go 2 none, .go 2 none, .go 2 none, .go 2 none,
    .go 2 none, .work 2 none, .go 2 none]

theorem quietShutdown_closed :
    ∃ fresh service, start (.standard "cache") = .ok fresh ∧
      fresh.run? quietShutdown = some service ∧ (∀ who, .abandon who ∉ quietShutdown) ∧
      service.Quiet ∧ service.phase? 1 = some (.finished .shutDown) ∧
      Closed fresh quietShutdown service := by
  have started : start (.standard "cache") =
      .ok { pool := .start (.ofSettings (.standard "cache")) } := rfl
  have ran : run? { pool := .start (.ofSettings (.standard "cache")) } quietShutdown = some _ := rfl
  have kept : ∀ who, .abandon who ∉ quietShutdown := by simp [quietShutdown]
  exact ⟨_, _, started, ran, kept, quiet_of_calls rfl, rfl,
    run_closed started ran kept (quiet_of_calls rfl) (show phase? _ 1 = _ from rfl)⟩

/-- A refresh starts when a shutdown has emptied the list and has not shut the gate
yet, and another refresh comes after both. -/
def lateRefresh : List Event :=
  [.call 0 .shutdown, .go 0 none, .call 1 (.refresh "office"), .go 1 none, .go 1 none, .go 1 none,
    .go 1 none, .connected 1 (.ok ()), .go 1 none, .go 1 none, .work 0 none, .go 0 none, .go 0 none,
    .answered 1 (.ok (.ppd (.document [42, 80, 80, 68] (some "m1")))), .go 1 none, .go 1 none,
    .go 1 none, .work 1 none, .work 1 none, .work 1 none, .work 1 none, .work 1 none, .work 1 none,
    .go 1 none, .call 2 (.refresh "office"), .go 2 none, .go 2 none, .go 2 none, .go 2 none]

/-- The shutdown is over, and so is every other call, but the printer is listed with
its file for good. -/
theorem lateRefresh_stays :
    ∃ fresh service, start (.standard "cache") = .ok fresh ∧
      fresh.run? lateRefresh = some service ∧ (∀ who, .abandon who ∉ lateRefresh) ∧
      service.Quiet ∧ service.phase? 0 = some (.finished .shutDown) ∧
      service.phase? 2 = some (.finished (.refreshed (.error .poolClosed))) ∧
      service.listed? "office" = some 0 ∧
      service.disk.content? ⟨stemOf "office", 0⟩ = some [42, 80, 80, 68] := by
  have ran : run? { pool := .start (.ofSettings (.standard "cache")) } lateRefresh = some _ := rfl
  have kept : ∀ who, .abandon who ∉ lateRefresh := by simp [lateRefresh]
  exact ⟨_, _, rfl, ran, kept, quiet_of_calls rfl, rfl, rfl, rfl, rfl⟩

end PrintConnector.Service
