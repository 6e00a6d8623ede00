import PrintConnector.Proofs.Scheduler.Dialogue

namespace PrintConnector.Scheduler

open Http (Head Response)

/-- The bytes that have come over a connection since a call, and whether more can
come. -/
structure Intake where
  bytes : List UInt8 := []
  ended : Bool := false

namespace Intake

/-- What comes is put behind what has come before. -/
def next (intake : Intake) : Session.Event → Intake
  | .arrive bytes =>
      if intake.ended then intake else { intake with bytes := intake.bytes ++ bytes }
  | .hangUp => { intake with ended := true }
  | _ => intake

/-- The bytes begin with a whole response. -/
def Holds (intake : Intake) (head : Head) (body : Http.Body) : Prop :=
  ∃ behind rest, Http.readHead intake.ended intake.bytes = .ok (head, behind) ∧
    Http.readBody intake.ended head behind = .ok (body, rest)

/-- The bytes begin with the head of a response, and a connection stands behind
it. -/
structure IsHeaded (intake : Intake) (head : Head) (connection : Connection) : Prop where
  read : Http.readHead intake.ended intake.bytes = .ok (head, connection.unread)
  ended : intake.ended = connection.ended

end Intake

namespace Session

/-- The bytes that were there before the request. -/
def intake (session : Session) : Intake :=
  match session.activity with
  | .resting (some connection) => ⟨connection.unread, connection.ended⟩
  | _ => {}

/-- Something was asked for and is neither answered nor given up. -/
def UnderWay (session : Session) : Prop :=
  ∀ kept, session.activity ≠ .resting kept

/-- The event is a call. -/
def Event.IsCall : Event → Prop
  | .fetch .. | .reconnect => True
  | _ => False

/-- The session after some events; none where one is impossible. -/
def run? (session : Session) (events : List Event) : Option Session :=
  events.foldlM (fun session event => (session.step? event).map (·.1)) session

/-- The numbers of the files are used up. -/
def IsNumbered (session : Session) : Prop :=
  ∀ entry ∈ session.files, entry.1 < session.nextFile

/-- A call under way has read from the front of what has come, and there is no
file beside those from before it, but for the one into which it loads a
document. -/
def IsCalling (files : Roster (List UInt8)) (intake : Intake) (session : Session) : Prop :=
  match session.activity with
  | .resting _ => True
  | .dialing none => False
  | .dialing (some _) => session.files = files ∧ intake = {}
  | .heading connection => session.files = files ∧ intake = ⟨connection.unread, connection.ended⟩
  | .loading connection head file =>
      head.status = 200 ∧ files.entry? file = none ∧ session.files = files.add file [] ∧
        intake.IsHeaded head connection
  | .draining connection head => session.files = files ∧ intake.IsHeaded head connection

/-- A document was read to its end and is the only new file. -/
structure Keeps (files : Roster (List UInt8)) (intake : Intake) (session : Session) (file : Nat)
    (head : Head) : Prop where
  status : head.status = 200
  new : files.entry? file = none
  stored : ∃ body, intake.Holds head body ∧ session.files = files.add file body.bytes
  /-- Of a response as it is written nothing is missing. -/
  whole : ∀ response : Response, response.IsWellFormed →
    ∀ coming, intake.bytes ++ coming = response.write → (intake.ended = true → coming = []) →
      coming = [] ∧ session.files = files.add file response.payload.data

end Session

namespace Intake

variable {intake : Intake} {head : Head} {connection : Connection} {bytes : List UInt8}

theorem IsHeaded.arrive (headed : intake.IsHeaded head connection) (bytes : List UInt8) :
    (intake.next (.arrive bytes)).IsHeaded head
      (if connection.ended then connection
        else { connection with unread := connection.unread ++ bytes }) := by
  cases open? : connection.ended with
  | true =>
      have ended := headed.ended.trans open?
      simpa only [next, ended, if_true] using headed
  | false =>
      have ended := headed.ended.trans open?
      have read := headed.read
      rw [ended] at read
      simp only [next, ended, Bool.false_eq_true, if_false]
      exact ⟨Http.readHead_more read false bytes, rfl⟩

/-- A head stays what it is when the connection ends behind it. -/
theorem IsHeaded.hangUp (headed : intake.IsHeaded head connection) :
    (intake.next .hangUp).IsHeaded head { connection with ended := true } := by
  refine ⟨?_, rfl⟩
  have read := headed.read
  cases ended : intake.ended with
  | true =>
      rw [ended] at read
      exact read
  | false =>
      rw [ended] at read
      have more := Http.readHead_more read true []
      rw [List.append_nil, List.append_nil] at more
      exact more

/-- A well-formed response that was read to its end has come to its end. -/
theorem IsHeaded.exact {response : Response} {body : Http.Body} {coming rest : List UInt8}
    (headed : intake.IsHeaded head connection)
    (read : Http.readBody connection.ended head connection.unread = .ok (body, rest))
    (wellFormed : response.IsWellFormed) (written : intake.bytes ++ coming = response.write)
    (whole : intake.ended = true → coming = []) :
    coming = [] ∧ body.bytes = response.payload.data := by
  obtain ⟨rfl, left⟩ := Http.readHead_exact wellFormed written whole headed.read
  obtain ⟨same, -, arrived⟩ :=
    Http.readBody_exact wellFormed.payload left (headed.ended ▸ whole) read
  exact ⟨arrived, same⟩

end Intake

namespace Session

variable {session after before : Session} {outcome : Option Outcome} {event : Event}
  {files : Roster (List UInt8)} {intake : Intake}

theorem UnderWay.onConnection {change : Connection → Connection} (underWay : session.UnderWay)
    (changed : session.onConnection? change = some after) : after.UnderWay := by
  unfold onConnection? at changed
  split at changed
  · rename_i connection resting
    exact absurd resting (underWay _)
  · obtain rfl := Option.some.inj changed
    exact fun kept => nofun
  · obtain rfl := Option.some.inj changed
    exact fun kept => nofun
  · obtain rfl := Option.some.inj changed
    exact fun kept => nofun
  · contradiction

theorem IsCalling.onConnection {change : Connection → Connection}
    (calling : session.IsCalling files intake)
    (changed : session.onConnection? change = some after)
    (waiting : ∀ connection : Connection, intake = ⟨connection.unread, connection.ended⟩ →
      intake.next event = ⟨(change connection).unread, (change connection).ended⟩)
    (headed : ∀ head connection, intake.IsHeaded head connection →
      (intake.next event).IsHeaded head (change connection)) :
    after.IsCalling files (intake.next event) := by
  unfold onConnection? at changed
  rw [IsCalling] at calling
  cases doing : session.activity with
  | resting kept =>
      cases kept with
      | none =>
          simp only [doing] at changed
          contradiction
      | some connection =>
          simp only [doing] at changed
          obtain rfl := Option.some.inj changed
          trivial
  | dialing request =>
      simp only [doing] at changed
      contradiction
  | heading connection =>
      simp only [doing] at changed calling
      obtain rfl := Option.some.inj changed
      exact ⟨calling.1, waiting connection calling.2⟩
  | loading connection head file =>
      simp only [doing] at changed calling
      obtain rfl := Option.some.inj changed
      obtain ⟨status, new, added, read⟩ := calling
      exact ⟨status, new, added, headed head connection read⟩
  | draining connection head =>
      simp only [doing] at changed calling
      obtain rfl := Option.some.inj changed
      exact ⟨calling.1, headed head connection calling.2⟩

theorem IsCalling.arrive {bytes : List UInt8} (calling : session.IsCalling files intake)
    (stepped : session.step? (.arrive bytes) = some (after, outcome)) :
    after.IsCalling files (intake.next (.arrive bytes)) ∧ (session.UnderWay → after.UnderWay) := by
  obtain ⟨result, changed, same⟩ := Option.map_eq_some_iff.mp stepped
  obtain ⟨rfl, rfl⟩ := Prod.mk.inj same
  refine ⟨calling.onConnection changed ?_ fun head connection headed => headed.arrive bytes,
    fun underWay => underWay.onConnection changed⟩
  rintro connection rfl
  simp only [Intake.next]
  split
  · rfl
  · rfl

theorem IsCalling.hangUp (calling : session.IsCalling files intake)
    (stepped : session.step? .hangUp = some (after, outcome)) :
    after.IsCalling files (intake.next .hangUp) ∧ (session.UnderWay → after.UnderWay) := by
  obtain ⟨result, changed, same⟩ := Option.map_eq_some_iff.mp stepped
  obtain ⟨rfl, rfl⟩ := Prod.mk.inj same
  refine ⟨calling.onConnection changed ?_ fun head connection headed => headed.hangUp,
    fun underWay => underWay.onConnection changed⟩
  rintro connection rfl
  rfl

theorem IsCalling.dialed (calling : session.IsCalling files intake)
    (stepped : session.step? .dialed = some (after, outcome)) :
    after.IsCalling files intake ∧ after.UnderWay := by
  change session.dialed? = some (after, outcome) at stepped
  rw [IsCalling] at calling
  unfold dialed? at stepped
  split at stepped
  · rename_i dialing
    rw [dialing] at calling
    contradiction
  · rename_i request dialing
    rw [dialing] at calling
    obtain ⟨rfl, rfl⟩ := Prod.mk.inj (Option.some.inj stepped)
    exact ⟨calling, fun kept => nofun⟩
  · contradiction

/-- What is given up leaves the files as they were before the call. -/
theorem IsCalling.interrupt (calling : session.IsCalling files intake)
    (underWay : session.UnderWay) : session.interrupt.files = files := by
  rw [IsCalling] at calling
  unfold Session.interrupt temporary?
  cases doing : session.activity with
  | resting kept => exact absurd doing (underWay kept)
  | dialing request =>
      rw [doing] at calling
      cases request with
      | none => contradiction
      | some request => exact calling.1
  | heading connection =>
      rw [doing] at calling
      exact calling.1
  | loading connection head file =>
      rw [doing] at calling
      obtain ⟨-, new, added, -⟩ := calling
      simp only [added]
      exact Roster.remove_add new
  | draining connection head =>
      rw [doing] at calling
      exact calling.1

/-- How a call ends: with a document that is kept, or with the files as they were. -/
def Concludes (files : Roster (List UInt8)) (intake : Intake) (after : Session)
    (outcome : Option Outcome) : Prop :=
  (∃ file head,
    outcome = some (.fetched (.ok (.document file (head.header? "last-modified")))) ∧
      after.Keeps files intake file head) ∨
  (∀ file marker, outcome ≠ some (.fetched (.ok (.document file marker)))) ∧ after.files = files

theorem IsCalling.fail {error : Error} (calling : session.IsCalling files intake)
    (failed : session.fail? error = some (after, outcome)) :
    after.IsCalling files intake ∧ after.Concludes files intake outcome := by
  have underWay : session.UnderWay := by
    intro kept resting
    rw [fail?, resting] at failed
    contradiction
  obtain ⟨rfl, silent⟩ := fail?_inv failed
  exact ⟨trivial, .inr ⟨fun file marker => silent _, calling.interrupt underWay⟩⟩

theorem IsCalling.headed {connection : Connection} {head : Head} {unread : List UInt8}
    (calling : session.IsCalling files intake) (numbered : session.IsNumbered)
    (heading : session.activity = .heading connection)
    (read : Http.readHead connection.ended connection.unread = .ok (head, unread)) :
    (session.headed { connection with unread } head).IsCalling files intake ∧
      (session.headed { connection with unread } head).UnderWay := by
  rw [IsCalling, heading] at calling
  obtain ⟨same, rfl⟩ := calling
  unfold Session.headed
  split
  · rename_i found
    have new : files.entry? session.nextFile = none := by
      refine List.lookup_eq_none_iff.mpr fun entry member => ?_
      have below := numbered entry (same ▸ member)
      simpa using below.ne'
    refine ⟨⟨found, new, ?_, read, rfl⟩, fun kept => nofun⟩
    rw [same]
  · exact ⟨⟨same, read, rfl⟩, fun kept => nofun⟩

theorem IsCalling.read (calling : session.IsCalling files intake) (numbered : session.IsNumbered)
    (stepped : session.step? .read = some (after, outcome)) :
    after.IsCalling files intake ∧
      (¬ after.UnderWay → after.Concludes files intake outcome) := by
  change session.read? = some (after, outcome) at stepped
  have failing {error : Error} (failed : session.fail? error = some (after, outcome)) :
      after.IsCalling files intake ∧ (¬ after.UnderWay → after.Concludes files intake outcome) :=
    ⟨(calling.fail failed).1, fun _ => (calling.fail failed).2⟩
  unfold read? at stepped
  split at stepped
  · rename_i connection heading
    split at stepped
    · contradiction
    · exact failing stepped
    · rename_i head unread found
      obtain ⟨rfl, rfl⟩ := Prod.mk.inj (Option.some.inj stepped)
      obtain ⟨onward, underWay⟩ := calling.headed numbered heading found
      exact ⟨onward, fun ended => absurd underWay ended⟩
  · rename_i connection head file loading
    split at stepped
    · contradiction
    · exact failing stepped
    · rename_i body unread found
      obtain ⟨rfl, rfl⟩ := Prod.mk.inj (Option.some.inj stepped)
      rw [IsCalling, loading] at calling
      obtain ⟨status, new, added, headed⟩ := calling
      have stored : session.files.update file body.bytes = files.add file body.bytes := by
        rw [added]
        exact Roster.update_add new
      refine ⟨trivial, fun _ => .inl ⟨file, head, rfl, status, new, ?_, ?_⟩⟩
      · exact ⟨body, ⟨connection.unread, unread, headed.read, headed.ended ▸ found⟩, stored⟩
      · intro response wellFormed coming written whole
        obtain ⟨arrived, same⟩ := headed.exact found wellFormed written whole
        exact ⟨arrived, stored.trans (by rw [same])⟩
  · rename_i connection head draining
    split at stepped
    · contradiction
    · exact failing stepped
    · split at stepped
      · obtain ⟨rfl, rfl⟩ := Prod.mk.inj (Option.some.inj stepped)
        rw [IsCalling, draining] at calling
        exact ⟨trivial, fun _ => .inr ⟨fun file marker => by simp, calling.1⟩⟩
      · exact failing stepped
  · contradiction

theorem IsCalling.abandon (calling : session.IsCalling files intake)
    (stepped : session.step? .abandon = some (after, outcome)) :
    after.IsCalling files intake ∧ after.Concludes files intake outcome := by
  unfold step? at stepped
  simp only at stepped
  split at stepped
  · contradiction
  · rename_i busy
    obtain ⟨rfl, rfl⟩ := Prod.mk.inj (Option.some.inj stepped)
    exact ⟨trivial, .inr ⟨fun file marker => nofun, calling.interrupt busy⟩⟩

/-- A call goes on, or it is over and has left a whole document or nothing. -/
theorem IsCalling.step (calling : session.IsCalling files intake) (numbered : session.IsNumbered)
    (inside : ¬ event.IsCall) (stepped : session.step? event = some (after, outcome)) :
    after.IsCalling files (intake.next event) ∧
      (session.UnderWay → ¬ after.UnderWay → after.Concludes files intake outcome) := by
  cases event with
  | fetch printer marker => exact absurd trivial inside
  | reconnect => exact absurd trivial inside
  | dialed =>
      obtain ⟨onward, underWay⟩ := calling.dialed stepped
      exact ⟨onward, fun _ ended => absurd underWay ended⟩
  | arrive bytes =>
      obtain ⟨onward, stays⟩ := calling.arrive stepped
      exact ⟨onward, fun underWay ended => absurd (stays underWay) ended⟩
  | hangUp =>
      obtain ⟨onward, stays⟩ := calling.hangUp stepped
      exact ⟨onward, fun underWay ended => absurd (stays underWay) ended⟩
  | read => exact ⟨(calling.read numbered stepped).1, fun _ => (calling.read numbered stepped).2⟩
  | fail error => exact ⟨(calling.fail stepped).1, fun _ _ => (calling.fail stepped).2⟩
  | expire => exact ⟨(calling.fail stepped).1, fun _ _ => (calling.fail stepped).2⟩
  | abandon => exact ⟨(calling.abandon stepped).1, fun _ _ => (calling.abandon stepped).2⟩

theorem IsNumbered.interrupt (numbered : session.IsNumbered) : session.interrupt.IsNumbered := by
  intro entry member
  unfold Session.interrupt at member
  simp only at member
  split at member
  · exact numbered entry (List.mem_of_mem_filter member)
  · exact numbered entry member

theorem IsNumbered.headed {connection : Connection} {head : Head} (numbered : session.IsNumbered) :
    (session.headed connection head).IsNumbered := by
  unfold Session.headed
  split
  · intro entry member
    rcases List.mem_append.mp member with earlier | last
    · exact Nat.lt_succ_of_lt (numbered entry earlier)
    · rw [List.mem_singleton.mp last]
      exact Nat.lt_succ_self _
  · exact numbered

theorem IsNumbered.update (numbered : session.IsNumbered) (file : Nat) (bytes : List UInt8) :
    ∀ entry ∈ session.files.update file bytes, entry.1 < session.nextFile := by
  intro entry member
  obtain ⟨before, inside, rfl⟩ := List.mem_map.mp member
  have below := numbered before inside
  split
  · rename_i same
    exact same ▸ below
  · exact below

theorem IsNumbered.read (numbered : session.IsNumbered)
    (stepped : session.step? .read = some (after, outcome)) : after.IsNumbered := by
  change session.read? = some (after, outcome) at stepped
  have failing {error : Error} (failed : session.fail? error = some (after, outcome)) :
      after.IsNumbered := by
    obtain ⟨rfl, -⟩ := fail?_inv failed
    exact numbered.interrupt
  unfold read? at stepped
  split at stepped
  · split at stepped
    · contradiction
    · exact failing stepped
    · obtain ⟨rfl, rfl⟩ := Prod.mk.inj (Option.some.inj stepped)
      exact numbered.headed
  · split at stepped
    · contradiction
    · exact failing stepped
    · obtain ⟨rfl, rfl⟩ := Prod.mk.inj (Option.some.inj stepped)
      exact numbered.update _ _
  · split at stepped
    · contradiction
    · exact failing stepped
    · split at stepped
      · obtain ⟨rfl, rfl⟩ := Prod.mk.inj (Option.some.inj stepped)
        exact numbered
      · exact failing stepped
  · contradiction

theorem IsNumbered.step (numbered : session.IsNumbered)
    (stepped : session.step? event = some (after, outcome)) : after.IsNumbered := by
  have failing {error : Error} (failed : session.fail? error = some (after, outcome)) :
      after.IsNumbered := by
    obtain ⟨rfl, -⟩ := fail?_inv failed
    exact numbered.interrupt
  cases event with
  | fetch printer marker => grind [step?, fetch?, send, IsNumbered]
  | reconnect => grind [step?, reconnect?, IsNumbered]
  | dialed => grind [step?, dialed?, send, IsNumbered]
  | arrive bytes => grind [step?, onConnection?, IsNumbered]
  | hangUp => grind [step?, onConnection?, IsNumbered]
  | read => exact numbered.read stepped
  | fail error => exact failing stepped
  | expire => exact failing stepped
  | abandon =>
      unfold step? at stepped
      simp only at stepped
      split at stepped
      · contradiction
      · obtain ⟨rfl, rfl⟩ := Prod.mk.inj (Option.some.inj stepped)
        exact numbered.interrupt

variable {events earlier during : List Event}

theorem run?_cons_inv (ran : session.run? (event :: events) = some after) :
    ∃ next outcome, session.step? event = some (next, outcome) ∧ next.run? events = some after := by
  rw [run?, List.foldlM_cons] at ran
  obtain ⟨next, moved, ran⟩ := Option.bind_eq_some_iff.mp ran
  obtain ⟨⟨next, outcome⟩, stepped, rfl⟩ := Option.map_eq_some_iff.mp moved
  exact ⟨next, outcome, stepped, ran⟩

theorem IsNumbered.run (numbered : session.IsNumbered) (ran : session.run? events = some after) :
    after.IsNumbered := by
  induction events generalizing session with
  | nil =>
      obtain rfl := Option.some.inj ran
      exact numbered
  | cons event events ih =>
      obtain ⟨next, outcome, stepped, ran⟩ := run?_cons_inv ran
      exact ih (numbered.step stepped) ran

theorem IsCalling.run (calling : session.IsCalling files intake) (numbered : session.IsNumbered)
    (inside : ∀ event ∈ events, ¬ event.IsCall) (ran : session.run? events = some after) :
    after.IsCalling files (events.foldl Intake.next intake) := by
  induction events generalizing session intake with
  | nil =>
      obtain rfl := Option.some.inj ran
      exact calling
  | cons event events ih =>
      obtain ⟨first, others⟩ := List.forall_mem_cons.mp inside
      obtain ⟨next, outcome, stepped, ran⟩ := run?_cons_inv ran
      exact ih (calling.step numbered first stepped).1 (numbered.step stepped) others ran

theorem isCalling_of_fetch {printer : String} {marker : Option String}
    (stepped : session.step? (.fetch printer marker) = some (after, outcome)) :
    after.IsCalling session.files session.intake := by
  obtain ⟨result, called, same⟩ := Option.map_eq_some_iff.mp stepped
  obtain ⟨rfl, rfl⟩ := Prod.mk.inj same
  unfold fetch? at called
  unfold Session.intake
  split at called
  · rename_i connection resting
    obtain rfl := Option.some.inj called
    rw [resting]
    exact ⟨rfl, rfl⟩
  · rename_i resting
    obtain rfl := Option.some.inj called
    rw [resting]
    exact ⟨rfl, rfl⟩
  · contradiction

theorem not_isCall_of_underWay (underWay : session.UnderWay)
    (stepped : session.step? event = some (after, outcome)) : ¬ event.IsCall := by
  rintro call
  cases event with
  | fetch printer marker =>
      obtain ⟨result, called, -⟩ := Option.map_eq_some_iff.mp stepped
      unfold fetch? at called
      split at called
      · rename_i resting
        exact underWay _ resting
      · rename_i resting
        exact underWay _ resting
      · contradiction
  | reconnect =>
      obtain ⟨result, called, -⟩ := Option.map_eq_some_iff.mp stepped
      unfold reconnect? at called
      split at called
      · rename_i resting
        exact underWay _ resting
      · contradiction
  | dialed | arrive | hangUp | read | fail | expire | abandon => exact call

/-- A call that ends leaves one new file with the document of a response that was
read to its end, and says so, or it leaves the files as they were. -/
theorem run_allOrNothing {server printer : String} {timeout : Nat} {marker : Option String}
    (reached : (start server timeout).run? earlier = some before)
    (called : before.run? (.fetch printer marker :: during) = some session)
    (inside : ∀ event ∈ during, ¬ event.IsCall) (underWay : session.UnderWay)
    (stepped : session.step? event = some (after, outcome)) (ended : ¬ after.UnderWay) :
    after.Concludes before.files (during.foldl Intake.next before.intake) outcome := by
  have fresh : (start server timeout).IsNumbered := by
    intro entry member
    contradiction
  have numbered := fresh.run reached
  obtain ⟨opened, silent, fetched, onward⟩ := run?_cons_inv called
  have calling := (isCalling_of_fetch fetched).run (numbered.step fetched) inside onward
  have last := not_isCall_of_underWay underWay stepped
  exact (calling.step ((numbered.step fetched).run onward) last stepped).2 underWay ended

/-- A download that does not come to its end in time. -/
def lateDownload : List Event :=
  [.dialed, .fetch "office" none,
    .arrive (Http.lookalike.writeHead ++ Http.lookalike.payload.write.take 8), .read, .expire]

/-- A download that comes in two pieces. -/
def pieces : List Event :=
  [.dialed, .arrive (Http.lookalike.write.take 30), .arrive (Http.lookalike.write.drop 30), .read]

/-- A session that has given up its first download. -/
def afterLate (activity : Activity) (files : Roster (List UInt8)) (nextFile : Nat) : Session :=
  { start "cups:631" 5 with activity, files, nextFile }

/-- The connection of the second download. -/
def secondConnection (unread : List UInt8) : Connection where
  sent := [request "cups:631" "office" (some "Tue")]
  unread

theorem lateDownload_run :
    (start "cups:631" 5).run? lateDownload = some (afterLate (.resting none) [] 1) := by
  have head := Http.readHead_write false Http.lookalike_wellFormed
    (Http.lookalike.payload.write.take 8)
  simp [run?, lateDownload, step?, dialed?, start, fetch?, send, onConnection?, read?, head]
  exact ⟨_, rfl⟩

theorem pieces_run :
    (afterLate (.resting none) [] 1).run? (.fetch "office" (some "Tue") :: pieces) =
      some (afterLate (.loading (secondConnection Http.lookalike.payload.write)
        Http.lookalike.head 1) [(1, [])] 2) := by
  have head : Http.readHead false Http.lookalike.write =
      .ok (Http.lookalike.head, Http.lookalike.payload.write) :=
    Http.readHead_write false Http.lookalike_wellFormed _
  simp [run?, pieces, step?, dialed?, afterLate, start, fetch?, send, onConnection?, read?, head]
  rfl

/-- What is left of the second download. -/
def afterPieces : Session :=
  afterLate (.resting (some (secondConnection []))) [(1, Http.lookalikeChunk.data)] 2

theorem pieces_read :
    (afterLate (.loading (secondConnection Http.lookalike.payload.write) Http.lookalike.head 1)
      [(1, [])] 2).step? .read =
        some (afterPieces, some (.fetched (.ok (.document 1 (some "Tue"))))) := by
  have body : Http.readBody false Http.lookalike.head Http.lookalike.payload.write =
      .ok (⟨Http.lookalikeChunk.data, 10⟩, []) := by
    have whole := Http.readBody_write false Http.lookalike_wellFormed.payload trivial []
    rw [List.append_nil] at whole
    exact whole
  simp only [step?, read?, afterLate, secondConnection, body]
  rfl

theorem pieces_allOrNothing :
    ∃ session, (start "cups:631" 5).run? lateDownload = some (afterLate (.resting none) [] 1) ∧
      (afterLate (.resting none) [] 1).run? (.fetch "office" (some "Tue") :: pieces) =
        some session ∧
      (∀ event ∈ pieces, ¬ event.IsCall) ∧ session.UnderWay ∧
      session.step? .read =
        some (afterPieces, some (.fetched (.ok (.document 1 (some "Tue"))))) ∧
      ¬ afterPieces.UnderWay ∧
      afterPieces.Concludes [] (pieces.foldl Intake.next {})
        (some (.fetched (.ok (.document 1 (some "Tue"))))) := by
  have inside : ∀ event ∈ pieces, ¬ event.IsCall := by
    simp [pieces, Event.IsCall]
  have ended : ¬ afterPieces.UnderWay := fun underWay => underWay _ rfl
  refine ⟨_, lateDownload_run, pieces_run, inside, fun kept => nofun, pieces_read, ended, ?_⟩
  exact run_allOrNothing lateDownload_run pieces_run inside (fun kept => nofun) pieces_read ended

end Session

end PrintConnector.Scheduler
