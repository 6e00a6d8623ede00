import Mathlib.Data.List.Induction
import PrintConnector.Proofs.Http.Stream
import PrintConnector.Proofs.Roster
import PrintConnector.Scheduler.Dialogue

namespace PrintConnector.Scheduler

open Http (Head Response)
open Dialogue (Move)

/-- Nothing was said over a connection yet, or it stands right behind a response
that lets it be used again. -/
structure Dialogue.IsSettled (dialogue : Dialogue) (connection : Connection) : Prop where
  answered : dialogue.answered.map (·.1) = connection.sent
  read : connection.unread = []
  arrived : dialogue.coming = []
  last : ∀ request response, dialogue.answered.getLast? = some (request, response) →
    (response.head.status = 200 ∨ response.head.status = 304) ∧ response.head.keepsAlive = true

/-- Everything that was asked over a connection is answered, the last request
since it was made, and `owed` is what is left to read. -/
structure Dialogue.IsReading (dialogue : Dialogue) (call : Option (String × List Move))
    (connection : Connection) (response : Response) (owed : List UInt8) : Prop where
  answered : dialogue.answered.map (·.1) = connection.sent
  wellFormed : response.IsWellFormed
  last : ∃ request since, call = some (request, since) ∧
    .answer ⟨response, wellFormed⟩ ∈ since ∧
    dialogue.answered.getLast? = some (request, response)
  left : connection.unread ++ dialogue.coming = owed
  whole : connection.ended = true → dialogue.coming = []

/-- Everything that was asked over a connection is answered and read but the
last request. -/
structure Dialogue.IsWaiting (dialogue : Dialogue) (call : Option (String × List Move))
    (connection : Connection) : Prop where
  answered : ∃ request since, call = some (request, since) ∧
    connection.sent = dialogue.answered.map (·.1) ++ [request]
  read : connection.unread = []
  arrived : dialogue.coming = []

/-- What a session does fits what it has asked and what was answered. -/
def Dialogue.InStep (call : Option (String × List Move)) (dialogue : Dialogue) : Prop :=
  match dialogue.session.activity with
  | .resting none => True
  | .resting (some connection) => dialogue.IsSettled connection
  | .dialing none => True
  | .dialing (some request) => ∃ since, call = some (request, since)
  | .heading connection =>
      dialogue.IsWaiting call connection ∨
        ∃ response, dialogue.IsReading call connection response response.write
  | .loading connection head file =>
      ∃ response, dialogue.IsReading call connection response response.payload.write ∧
        response.head = head ∧ head.status = 200 ∧
        (dialogue.session.files.entry? file).isSome
  | .draining connection head =>
      ∃ response, dialogue.IsReading call connection response response.payload.write ∧
        response.head = head

/-- A reply is what a response says. -/
def Decodes (files : Roster (List UInt8)) (response : Response) : PpdReply Nat → Prop
  | .unchanged => response.head.status = 304
  | .document file marker =>
      response.head.status = 200 ∧ files.entry? file = some response.payload.data ∧
        marker = response.head.header? "last-modified"

/-- A reply is the answer that the last call got since it was made. -/
def Dialogue.Replies (call : Option (String × List Move)) (dialogue : Dialogue)
    (reply : PpdReply Nat) : Prop :=
  ∃ request since answer, call = some (request, since) ∧ .answer answer ∈ since ∧
    dialogue.answered.getLast? = some (request, answer.val) ∧
    Decodes dialogue.session.files answer.val reply

namespace Session

variable {session after : Session} {outcome : Option Outcome} {error : Error}

/-- What fails takes its connection with it and has no reply. -/
theorem fail?_inv (failed : session.fail? error = some (after, outcome)) :
    after = session.interrupt ∧ ∀ reply, outcome ≠ some (.fetched (.ok reply)) := by
  unfold fail? at failed
  split at failed
  · contradiction
  · obtain ⟨rfl, rfl⟩ := Prod.mk.inj (Option.some.inj failed)
    exact ⟨rfl, fun reply => nofun⟩
  · obtain ⟨rfl, rfl⟩ := Prod.mk.inj (Option.some.inj failed)
    exact ⟨rfl, fun reply => by simp⟩

theorem step?_server {event : Event} (stepped : session.step? event = some (after, outcome)) :
    after.server = session.server := by
  have failing {error : Error} (failed : session.fail? error = some (after, outcome)) :
      after.server = session.server := by
    rw [(fail?_inv failed).1]
    rfl
  cases event with
  | fetch printer marker => grind [step?, fetch?, send]
  | reconnect => grind [step?, reconnect?]
  | dialed => grind [step?, dialed?, send]
  | arrive bytes => grind [step?, onConnection?]
  | hangUp => grind [step?, onConnection?]
  | read => grind [step?, read?, headed, rest]
  | fail error => exact failing stepped
  | expire => exact failing stepped
  | abandon => grind [step?, interrupt]

end Session

namespace Dialogue

variable {dialogue after : Dialogue} {call : Option (String × List Move)} {outcome : Option Outcome}

theorem act?_inv {event : Session.Event} (acted : dialogue.act? event = some (after, outcome)) :
    ∃ session, dialogue.session.step? event = some (session, outcome) ∧
      after = { dialogue with session } := by
  obtain ⟨⟨session, result⟩, stepped, same⟩ := Option.map_eq_some_iff.mp acted
  obtain ⟨rfl, rfl⟩ := Prod.mk.inj same
  exact ⟨session, stepped, rfl⟩

theorem answer?_inv {response : Response} (answered : dialogue.answer? response = some after) :
    ∃ connection request, dialogue.session.connection? = some connection ∧
      connection.ended = false ∧ connection.sent[dialogue.answered.length]? = some request ∧
      after = { dialogue with
        answered := dialogue.answered ++ [(request, response)]
        coming := dialogue.coming ++ response.write } := by
  obtain ⟨connection, opened, answered⟩ := Option.bind_eq_some_iff.mp answered
  split at answered
  · contradiction
  · rename_i alive
    obtain ⟨request, next, answered⟩ := Option.bind_eq_some_iff.mp answered
    exact ⟨connection, request, opened, by simpa using alive, next,
      (Option.some.inj answered).symm⟩

/-- Without a connection there is nothing to be out of step with. -/
theorem inStep_of_resting (closed : dialogue.session.activity = .resting none) :
    dialogue.InStep call := by
  rw [InStep, closed]
  trivial

theorem inStep_of_interrupt {session : Session} :
    { dialogue with session := session.interrupt }.InStep call :=
  inStep_of_resting rfl

theorem IsSettled.send {connection : Connection} (settled : dialogue.IsSettled connection)
    (request : String) (session : Session) :
    IsWaiting { dialogue with session } (some (request, []))
      { connection with sent := connection.sent ++ [request] } where
  answered := ⟨request, [], rfl, by rw [settled.answered]⟩
  read := settled.read
  arrived := settled.arrived

theorem InStep.fetch {printer : String} {marker : Option String} (inStep : dialogue.InStep call)
    (fetched : dialogue.step? (.fetch printer marker) = some (after, outcome)) :
    after.InStep (some (Session.request dialogue.session.server printer marker, [])) ∧
      outcome = none := by
  obtain ⟨session, stepped, rfl⟩ := act?_inv fetched
  obtain ⟨result, sent, same⟩ := Option.map_eq_some_iff.mp stepped
  obtain ⟨rfl, rfl⟩ := Prod.mk.inj same
  refine ⟨?_, rfl⟩
  rw [InStep] at inStep
  unfold Session.fetch? at sent
  split at sent
  · rename_i connection resting
    rw [resting] at inStep
    obtain rfl := Option.some.inj sent
    exact .inl (IsSettled.send inStep _ _)
  · obtain rfl := Option.some.inj sent
    exact ⟨[], rfl⟩
  · contradiction

theorem InStep.dialed (inStep : dialogue.InStep call)
    (dialed : dialogue.step? .dialed = some (after, outcome)) :
    after.InStep call ∧ ∀ reply, outcome ≠ some (.fetched (.ok reply)) := by
  obtain ⟨⟨session, result⟩, stepped, same⟩ := Option.map_eq_some_iff.mp dialed
  obtain ⟨rfl, rfl⟩ := Prod.mk.inj same
  change dialogue.session.dialed? = some (session, result) at stepped
  rw [InStep] at inStep
  unfold Session.dialed? at stepped
  split at stepped
  · obtain ⟨rfl, rfl⟩ := Prod.mk.inj (Option.some.inj stepped)
    refine ⟨⟨rfl, rfl, rfl, ?_⟩, fun reply => nofun⟩
    intro request response missing
    contradiction
  · rename_i request dialing
    rw [dialing] at inStep
    obtain ⟨since, called⟩ := inStep
    obtain ⟨rfl, rfl⟩ := Prod.mk.inj (Option.some.inj stepped)
    exact ⟨.inl ⟨⟨request, since, called, rfl⟩, rfl, rfl⟩, fun reply => nofun⟩
  · contradiction

theorem IsWaiting.answer {connection : Connection} {request : String} {answer : Answer}
    (waiting : dialogue.IsWaiting call connection)
    (next : connection.sent[dialogue.answered.length]? = some request)
    (alive : connection.ended = false) :
    IsReading { dialogue with
        answered := dialogue.answered ++ [(request, answer.val)]
        coming := dialogue.coming ++ answer.val.write }
      (extend call (.answer answer)) connection answer.val answer.val.write := by
  obtain ⟨last, since, called, sent⟩ := waiting.answered
  have same : last = request := by
    rw [sent, List.getElem?_append_right (by simp)] at next
    simpa using next
  subst same called
  refine ⟨?_, answer.property, ⟨last, since ++ [.answer answer], rfl, by simp, by simp⟩, ?_, ?_⟩
  · rw [sent]
    simp
  · simp [waiting.read, waiting.arrived]
  · simp [alive]

theorem readHead_nil (ended : Bool) : ∃ stop, Http.readHead ended [] = .error stop := by
  cases ended with
  | true => exact ⟨_, rfl⟩
  | false => exact ⟨_, rfl⟩

theorem InStep.readHead {connection : Connection} {head : Head} {unread : List UInt8}
    (heading : dialogue.session.activity = .heading connection) (inStep : dialogue.InStep call)
    (read : Http.readHead connection.ended connection.unread = .ok (head, unread)) :
    InStep call
      { dialogue with session := dialogue.session.headed { connection with unread } head } := by
  rw [InStep, heading] at inStep
  obtain waiting | ⟨response, reading⟩ := inStep
  · obtain ⟨stop, starved⟩ := readHead_nil connection.ended
    rw [waiting.read, starved] at read
    contradiction
  · obtain ⟨rfl, left⟩ := Http.readHead_exact reading.wellFormed reading.left reading.whole read
    have onward (session : Session) : IsReading { dialogue with session } call
        { connection with unread } response response.payload.write :=
      ⟨reading.answered, reading.wellFormed, reading.last, left, reading.whole⟩
    unfold Session.headed
    split
    · rename_i found
      have added : ( Roster.entry? (dialogue.session.files.add dialogue.session.nextFile [])
          dialogue.session.nextFile).isSome := by
        rw [Roster.entry_add]
        simp
      exact ⟨response, onward _, rfl, found, added⟩
    · exact ⟨response, onward _, rfl⟩

/-- A response that was read to its end leaves its connection settled, if it
leaves it at all. -/
theorem IsReading.rest {connection : Connection} {response : Response} {owed unread : List UInt8}
    (reading : dialogue.IsReading call connection response owed)
    (fine : response.head.status = 200 ∨ response.head.status = 304)
    (read : unread = []) (arrived : dialogue.coming = []) (session : Session) :
    InStep call { dialogue with
      session := session.rest { connection with unread } response.head } := by
  unfold Session.rest
  cases kept : response.head.keepsAlive with
  | false => exact inStep_of_resting rfl
  | true =>
      obtain ⟨request, since, -, -, last⟩ := reading.last
      refine ⟨reading.answered, read, arrived, ?_⟩
      intro other answer found
      obtain ⟨rfl, rfl⟩ := Prod.mk.inj (Option.some.inj (last.symm.trans found))
      exact ⟨fine, kept⟩

theorem InStep.read (inStep : dialogue.InStep call)
    (read : dialogue.step? .read = some (after, outcome)) :
    after.InStep call ∧
      ∀ reply, outcome = some (.fetched (.ok reply)) → after.Replies call reply := by
  obtain ⟨session, stepped, rfl⟩ := act?_inv read
  change dialogue.session.read? = some (session, outcome) at stepped
  have failing {error : Error} (failed : dialogue.session.fail? error = some (session, outcome)) :
      InStep call { dialogue with session } ∧ ∀ reply, outcome = some (.fetched (.ok reply)) →
        Replies call { dialogue with session } reply := by
    obtain ⟨rfl, silent⟩ := Session.fail?_inv failed
    exact ⟨inStep_of_interrupt, fun reply same => absurd same (silent reply)⟩
  unfold Session.read? at stepped
  split at stepped
  · rename_i connection heading
    split at stepped
    · contradiction
    · exact failing stepped
    · rename_i head unread found
      obtain ⟨rfl, rfl⟩ := Prod.mk.inj (Option.some.inj stepped)
      exact ⟨inStep.readHead heading found, fun reply => nofun⟩
  · rename_i connection head file loading
    rw [InStep, loading] at inStep
    obtain ⟨response, reading, rfl, fine, known⟩ := inStep
    split at stepped
    · contradiction
    · exact failing stepped
    · rename_i body unread found
      obtain ⟨rfl, rfl⟩ := Prod.mk.inj (Option.some.inj stepped)
      obtain ⟨same, empty, arrived⟩ := Http.readBody_exact reading.wellFormed.payload reading.left
        reading.whole found
      refine ⟨reading.rest (.inl fine) empty arrived _, ?_⟩
      intro reply replied
      obtain rfl : PpdReply.document file _ = reply := by simpa using replied
      obtain ⟨request, since, called, given, last⟩ := reading.last
      have stored : Roster.entry? (dialogue.session.files.update file body.bytes) file =
          some response.payload.data := by
        obtain ⟨before, present⟩ := Option.isSome_iff_exists.mp known
        rw [Roster.entry_update, if_pos rfl, present, same]
        rfl
      exact ⟨request, since, ⟨response, reading.wellFormed⟩, called, given, last, fine, stored, rfl⟩
  · rename_i connection head draining
    rw [InStep, draining] at inStep
    obtain ⟨response, reading, rfl⟩ := inStep
    split at stepped
    · contradiction
    · exact failing stepped
    · rename_i body unread found
      split at stepped
      · rename_i unchanged
        obtain ⟨rfl, rfl⟩ := Prod.mk.inj (Option.some.inj stepped)
        obtain ⟨-, empty, arrived⟩ := Http.readBody_exact reading.wellFormed.payload reading.left
          reading.whole found
        refine ⟨reading.rest (.inr unchanged) empty arrived _, ?_⟩
        intro reply replied
        obtain rfl : PpdReply.unchanged = reply := by simpa using replied
        obtain ⟨request, since, called, given, last⟩ := reading.last
        exact ⟨request, since, ⟨response, reading.wellFormed⟩, called, given, last, unchanged⟩
      · exact failing stepped
  · contradiction

theorem InStep.answer {answer : Answer} (inStep : dialogue.InStep call)
    (answered : dialogue.step? (.answer answer) = some (after, outcome)) :
    after.InStep (extend call (.answer answer)) ∧ outcome = none := by
  obtain ⟨later, given, same⟩ := Option.map_eq_some_iff.mp answered
  obtain ⟨rfl, rfl⟩ := Prod.mk.inj same
  refine ⟨?_, rfl⟩
  obtain ⟨connection, request, opened, alive, next, rfl⟩ := answer?_inv given
  have unanswered : dialogue.answered.map (·.1) ≠ connection.sent := by
    intro all
    rw [← all] at next
    simp at next
  unfold Session.connection? at opened
  rw [InStep] at inStep ⊢
  cases doing : dialogue.session.activity with
  | resting kept =>
      simp only [doing] at opened inStep
      obtain rfl := opened
      exact absurd inStep.answered unanswered
  | dialing request =>
      simp only [doing] at opened
      contradiction
  | heading opening =>
      simp only [doing] at opened inStep
      obtain rfl := Option.some.inj opened
      obtain waiting | ⟨response, reading⟩ := inStep
      · exact .inr ⟨answer.val, waiting.answer next alive⟩
      · exact absurd reading.answered unanswered
  | loading opening head file =>
      simp only [doing] at opened inStep
      obtain rfl := Option.some.inj opened
      obtain ⟨response, reading, -⟩ := inStep
      exact absurd reading.answered unanswered
  | draining opening head =>
      simp only [doing] at opened inStep
      obtain rfl := Option.some.inj opened
      obtain ⟨response, reading, -⟩ := inStep
      exact absurd reading.answered unanswered

/-- Bytes that move from the server to the session are still to be read, in the
same order. -/
theorem InStep.onConnection {session : Session} {change : Connection → Connection}
    {coming : List UInt8} (inStep : dialogue.InStep call)
    (changed : dialogue.session.onConnection? change = some session)
    (sent : ∀ connection, (change connection).sent = connection.sent)
    (moved : ∀ connection, (connection.ended = true → dialogue.coming = []) →
      (change connection).unread ++ coming = connection.unread ++ dialogue.coming ∧
        ((change connection).ended = true → coming = [])) :
    InStep call { dialogue with session, coming } := by
  have empty {connection : Connection} (read : connection.unread = [])
      (arrived : dialogue.coming = []) : (change connection).unread = [] ∧ coming = [] := by
    obtain ⟨same, -⟩ := moved connection fun _ => arrived
    rw [read, arrived] at same
    exact List.append_eq_nil_iff.mp same
  have onward {connection : Connection} {response : Response} {owed : List UInt8}
      (reading : dialogue.IsReading call connection response owed) :
      IsReading { dialogue with session, coming } call (change connection) response owed := by
    obtain ⟨same, whole⟩ := moved connection reading.whole
    exact ⟨reading.answered.trans (sent connection).symm, reading.wellFormed, reading.last,
      same.trans reading.left, whole⟩
  unfold Session.onConnection? at changed
  rw [InStep] at inStep
  cases doing : dialogue.session.activity with
  | resting kept =>
      cases kept with
      | none =>
          simp only [doing] at changed
          contradiction
      | some connection =>
          simp only [doing] at changed inStep
          obtain rfl := Option.some.inj changed
          obtain ⟨read, arrived⟩ := empty inStep.read inStep.arrived
          exact ⟨inStep.answered.trans (sent connection).symm, read, arrived, inStep.last⟩
  | dialing request =>
      simp only [doing] at changed
      contradiction
  | heading connection =>
      simp only [doing] at changed inStep
      obtain rfl := Option.some.inj changed
      obtain waiting | ⟨response, reading⟩ := inStep
      · obtain ⟨read, arrived⟩ := empty waiting.read waiting.arrived
        obtain ⟨request, since, called, asked⟩ := waiting.answered
        exact .inl ⟨⟨request, since, called, (sent connection).trans asked⟩, read, arrived⟩
      · exact .inr ⟨response, onward reading⟩
  | loading connection head file =>
      simp only [doing] at changed inStep
      obtain rfl := Option.some.inj changed
      obtain ⟨response, reading, headed⟩ := inStep
      exact ⟨response, onward reading, headed⟩
  | draining connection head =>
      simp only [doing] at changed inStep
      obtain rfl := Option.some.inj changed
      obtain ⟨response, reading, headed⟩ := inStep
      exact ⟨response, onward reading, headed⟩

theorem InStep.deliver {count : Nat} (inStep : dialogue.InStep call)
    (delivered : dialogue.step? (.deliver count) = some (after, outcome)) :
    after.InStep call ∧ outcome = none := by
  obtain ⟨session, stepped, rfl⟩ := act?_inv delivered
  obtain ⟨result, changed, same⟩ := Option.map_eq_some_iff.mp stepped
  obtain ⟨rfl, rfl⟩ := Prod.mk.inj same
  refine ⟨inStep.onConnection changed ?_ ?_, rfl⟩
  · intro connection
    split
    · rfl
    · rfl
  · intro connection whole
    cases ended : connection.ended with
    | true => simp [whole ended]
    | false => simp

theorem InStep.hangUp (inStep : dialogue.InStep call)
    (closed : dialogue.step? .hangUp = some (after, outcome)) :
    after.InStep call ∧ outcome = none := by
  change dialogue.hangUp? = some (after, outcome) at closed
  unfold hangUp? at closed
  split at closed
  · rename_i arrived
    obtain ⟨session, stepped, rfl⟩ := act?_inv closed
    obtain ⟨result, changed, same⟩ := Option.map_eq_some_iff.mp stepped
    obtain ⟨rfl, rfl⟩ := Prod.mk.inj same
    refine ⟨inStep.onConnection changed (fun _ => rfl) ?_, rfl⟩
    intro connection _
    exact ⟨rfl, fun _ => arrived⟩
  · contradiction

theorem step?_server {move : Move} (stepped : dialogue.step? move = some (after, outcome)) :
    after.session.server = dialogue.session.server := by
  have acting {front : Dialogue} {event : Session.Event}
      (acted : front.act? event = some (after, outcome))
      (same : front.session = dialogue.session) :
      after.session.server = dialogue.session.server := by
    rw [← same]
    obtain ⟨session, moved, rfl⟩ := act?_inv acted
    exact (Session.step?_server moved : session.server = _)
  cases move with
  | dialed =>
      obtain ⟨⟨session, result⟩, moved, same⟩ := Option.map_eq_some_iff.mp stepped
      obtain ⟨rfl, rfl⟩ := Prod.mk.inj same
      exact (Session.step?_server moved : session.server = _)
  | answer answer =>
      obtain ⟨later, given, same⟩ := Option.map_eq_some_iff.mp stepped
      obtain ⟨rfl, rfl⟩ := Prod.mk.inj same
      obtain ⟨connection, request, -, -, -, rfl⟩ := answer?_inv given
      rfl
  | hangUp =>
      change dialogue.hangUp? = some (after, outcome) at stepped
      unfold hangUp? at stepped
      split at stepped
      · exact acting stepped rfl
      · contradiction
  | deliver count =>
      change dialogue.deliver? count = some (after, outcome) at stepped
      unfold deliver? at stepped
      exact acting stepped rfl
  | fetch printer marker => exact acting stepped rfl
  | fail error => exact acting stepped rfl
  | reconnect | read | expire | abandon => exact acting stepped rfl

/-- A move that is no call keeps a dialogue in step with the last one. -/
theorem InStep.later (inStep : dialogue.InStep call) (move : Move) :
    dialogue.InStep (extend call move) := by
  have onward {connection : Connection} {response : Response} {owed : List UInt8}
      (reading : dialogue.IsReading call connection response owed) :
      dialogue.IsReading (extend call move) connection response owed := by
    obtain ⟨request, since, rfl, given, last⟩ := reading.last
    exact ⟨reading.answered, reading.wellFormed,
      ⟨request, since ++ [move], rfl, List.mem_append_left _ given, last⟩, reading.left,
      reading.whole⟩
  rw [InStep] at inStep ⊢
  cases doing : dialogue.session.activity with
  | resting kept =>
      simp only [doing] at inStep
      cases kept with
      | none => trivial
      | some connection => exact inStep
  | dialing request =>
      cases request with
      | none => trivial
      | some request =>
          simp only [doing] at inStep
          obtain ⟨since, rfl⟩ := inStep
          exact ⟨since ++ [move], rfl⟩
  | heading connection =>
      simp only [doing] at inStep
      obtain waiting | ⟨response, reading⟩ := inStep
      · obtain ⟨request, since, rfl, sent⟩ := waiting.answered
        exact .inl ⟨⟨request, since ++ [move], rfl, sent⟩, waiting.read, waiting.arrived⟩
      · exact .inr ⟨response, onward reading⟩
  | loading connection head file =>
      simp only [doing] at inStep
      obtain ⟨response, reading, headed⟩ := inStep
      exact ⟨response, onward reading, headed⟩
  | draining connection head =>
      simp only [doing] at inStep
      obtain ⟨response, reading, headed⟩ := inStep
      exact ⟨response, onward reading, headed⟩

theorem inStep_of_fail {error : Error} {session : Session}
    (failed : dialogue.session.fail? error = some (session, outcome)) :
    InStep call { dialogue with session } ∧ ∀ reply, outcome ≠ some (.fetched (.ok reply)) := by
  obtain ⟨rfl, silent⟩ := Session.fail?_inv failed
  exact ⟨inStep_of_interrupt, silent⟩

theorem inStep_of_reconnect (call : Option (String × List Move))
    (stepped : dialogue.step? .reconnect = some (after, outcome)) :
    after.InStep call ∧ outcome = none := by
  obtain ⟨session, moved, rfl⟩ := act?_inv stepped
  obtain ⟨result, dropped, same⟩ := Option.map_eq_some_iff.mp moved
  obtain ⟨rfl, rfl⟩ := Prod.mk.inj same
  unfold Session.reconnect? at dropped
  split at dropped
  · obtain rfl := Option.some.inj dropped
    exact ⟨trivial, rfl⟩
  · contradiction

theorem inStep_of_abandon (call : Option (String × List Move))
    (stepped : dialogue.step? .abandon = some (after, outcome)) :
    after.InStep call ∧ outcome = none := by
  obtain ⟨session, moved, rfl⟩ := act?_inv stepped
  unfold Session.step? at moved
  simp only at moved
  split at moved
  · contradiction
  · obtain ⟨rfl, rfl⟩ := Prod.mk.inj (Option.some.inj moved)
    exact ⟨inStep_of_interrupt, rfl⟩

theorem InStep.step {move : Move} (inStep : dialogue.InStep call)
    (stepped : dialogue.step? move = some (after, outcome)) :
    after.InStep (follow dialogue.session.server call move) ∧
      ∀ reply, outcome = some (.fetched (.ok reply)) → after.Replies call reply := by
  cases move with
  | fetch printer marker =>
      obtain ⟨called, rfl⟩ := inStep.fetch stepped
      exact ⟨called, fun reply => nofun⟩
  | reconnect =>
      obtain ⟨kept, rfl⟩ := inStep_of_reconnect call stepped
      exact ⟨kept.later .reconnect, fun reply => nofun⟩
  | dialed =>
      obtain ⟨kept, silent⟩ := inStep.dialed stepped
      exact ⟨kept.later .dialed, fun reply same => absurd same (silent reply)⟩
  | read =>
      obtain ⟨kept, replies⟩ := inStep.read stepped
      exact ⟨kept.later .read, replies⟩
  | fail error =>
      obtain ⟨session, failed, rfl⟩ := act?_inv stepped
      obtain ⟨kept, silent⟩ := inStep_of_fail failed
      exact ⟨kept.later (.fail error), fun reply same => absurd same (silent reply)⟩
  | expire =>
      obtain ⟨session, failed, rfl⟩ := act?_inv stepped
      obtain ⟨kept, silent⟩ := inStep_of_fail failed
      exact ⟨kept.later .expire, fun reply same => absurd same (silent reply)⟩
  | abandon =>
      obtain ⟨kept, rfl⟩ := inStep_of_abandon call stepped
      exact ⟨kept.later .abandon, fun reply => nofun⟩
  | answer answer =>
      obtain ⟨kept, rfl⟩ := inStep.answer stepped
      exact ⟨kept, fun reply => nofun⟩
  | deliver count =>
      obtain ⟨kept, rfl⟩ := inStep.deliver stepped
      exact ⟨kept.later (.deliver count), fun reply => nofun⟩
  | hangUp =>
      obtain ⟨kept, rfl⟩ := inStep.hangUp stepped
      exact ⟨kept.later .hangUp, fun reply => nofun⟩

variable {server : String} {timeout : Nat} {moves : List Move}

theorem run?_concat (front : Dialogue) (moves : List Move) (move : Move) :
    front.run? (moves ++ [move]) =
      (front.run? moves).bind fun dialogue => (dialogue.step? move).map (·.1) := by
  rw [run?, List.foldlM_append]
  simp [run?]

theorem lastCall?_concat (server : String) (moves : List Move) (move : Move) :
    lastCall? server (moves ++ [move]) = follow server (lastCall? server moves) move := by
  rw [lastCall?, List.foldl_append]
  rfl

theorem run_inStep (reached : (start server timeout).run? moves = some dialogue) :
    dialogue.InStep (lastCall? server moves) ∧ dialogue.session.server = server := by
  induction moves using List.reverseRecOn generalizing dialogue with
  | nil =>
      obtain rfl := Option.some.inj reached
      exact ⟨trivial, rfl⟩
  | append_singleton moves move ih =>
      rw [run?_concat] at reached
      obtain ⟨before, earlier, reached⟩ := Option.bind_eq_some_iff.mp reached
      obtain ⟨⟨after, outcome⟩, stepped, rfl⟩ := Option.map_eq_some_iff.mp reached
      obtain ⟨inStep, served⟩ := ih earlier
      have next := (inStep.step stepped).1
      rw [served] at next
      rw [lastCall?_concat]
      exact ⟨next, (step?_server stepped).trans served⟩

/-- The last call is among the moves, and no call is behind it. -/
theorem lastCall?_inv {request : String} {since : List Move}
    (called : lastCall? server moves = some (request, since)) :
    ∃ earlier printer marker, moves = earlier ++ .fetch printer marker :: since ∧
      request = Session.request server printer marker ∧
      ∀ move ∈ since, move.request? server = none := by
  induction moves using List.reverseRecOn generalizing since with
  | nil => contradiction
  | append_singleton moves move ih =>
      rw [lastCall?_concat, follow] at called
      cases asked : move.request? server with
      | none =>
          rw [asked] at called
          obtain ⟨⟨other, before⟩, known, same⟩ := Option.map_eq_some_iff.mp called
          obtain ⟨rfl, rfl⟩ := Prod.mk.inj same
          obtain ⟨earlier, printer, marker, rfl, rfl, quiet⟩ := ih known
          refine ⟨earlier, printer, marker, by simp, rfl, ?_⟩
          intro later member
          rcases List.mem_append.mp member with inside | last
          · exact quiet later inside
          · rw [List.mem_singleton.mp last]
            exact asked
      | some wanted =>
          rw [asked] at called
          obtain ⟨rfl, rfl⟩ := Prod.mk.inj (Option.some.inj called)
          unfold Move.request? at asked
          split at asked
          · rename_i printer marker
            exact ⟨moves, printer, marker, rfl, (Option.some.inj asked).symm, by simp⟩
          · contradiction

/-- A connection is kept only behind a response that was read to its end, and a
reply is what was answered since the call was made. -/
theorem run_answered (reached : (start server timeout).run? moves = some dialogue) :
    (∀ connection, dialogue.session.activity = .resting (some connection) →
      dialogue.IsSettled connection) ∧
    ∀ move after reply, dialogue.step? move = some (after, some (.fetched (.ok reply))) →
      ∃ earlier printer marker since answer,
        moves = earlier ++ .fetch printer marker :: since ∧
        (∀ move ∈ since, move.request? server = none) ∧ .answer answer ∈ since ∧
        after.answered.getLast? = some (Session.request server printer marker, answer.val) ∧
        Decodes after.session.files answer.val reply := by
  obtain ⟨inStep, -⟩ := run_inStep reached
  constructor
  · intro connection resting
    rw [InStep, resting] at inStep
    exact inStep
  · intro move after reply stepped
    obtain ⟨request, since, answer, called, given, last, decoded⟩ :=
      (inStep.step stepped).2 reply rfl
    obtain ⟨earlier, printer, marker, split, rfl, quiet⟩ := lastCall?_inv called
    exact ⟨earlier, printer, marker, since, answer, split, quiet, given, last, decoded⟩

/-- A response that says that nothing has changed. -/
def unchanged : Answer where
  val := { head := ⟨304, [("Date", "Tue")]⟩, reason := "Not Modified".toList, payload := .absent }
  property := {
    minor := by decide
    status := by decide
    count := by decide
    headers := by decide
    reason := by decide
    payload := .inr (.inr rfl) }

/-- A call that is given up while its answer is under way, and another one. -/
def secondCall : List Move :=
  [.dialed, .fetch "a" none, .answer ⟨Http.lookalike, Http.lookalike_wellFormed⟩, .deliver 20,
    .abandon, .fetch "b" (some "Tue"), .dialed, .answer unchanged,
    .deliver unchanged.val.write.length, .read]

/-- A dialogue that has one answer, `unchanged`, and has read its head. -/
def answeredUnchanged (activity : Connection → Activity) : Dialogue where
  session := { Session.start "cups:631" 5 with
    activity := activity { sent := [Session.request "cups:631" "b" (some "Tue")] } }
  answered := [(Session.request "cups:631" "b" (some "Tue"), unchanged.val)]

theorem readHead_unchanged :
    Http.readHead false unchanged.val.write = .ok (unchanged.val.head, []) := by
  have read := Http.readHead_write false unchanged.property []
  have written : unchanged.val.write = unchanged.val.writeHead ++ [] := rfl
  rw [written]
  exact read

theorem secondCall_run : (start "cups:631" 5).run? secondCall =
    some (answeredUnchanged (.draining · unchanged.val.head)) := by
  simp [run?, secondCall, step?, dialed?, act?, start, Session.start, Session.step?,
    Session.dialed?, Session.fetch?, answer?, Session.send, Session.connection?, deliver?,
    Session.onConnection?, Session.interrupt, Session.temporary?, Session.read?,
    readHead_unchanged, Session.headed]
  rfl

theorem secondCall_answered :
    ∃ after, (start "cups:631" 5).run? secondCall =
        some (answeredUnchanged (.draining · unchanged.val.head)) ∧
      (answeredUnchanged (.draining · unchanged.val.head)).step? .read =
        some (after, some (.fetched (.ok .unchanged))) ∧
      ∃ earlier printer marker since answer,
        secondCall = earlier ++ .fetch printer marker :: since ∧
        (∀ move ∈ since, move.request? "cups:631" = none) ∧ .answer answer ∈ since ∧
        after.answered.getLast? = some (Session.request "cups:631" printer marker, answer.val) ∧
        Decodes after.session.files answer.val .unchanged :=
  have read : (answeredUnchanged (.draining · unchanged.val.head)).step? .read =
      some (answeredUnchanged (.resting ∘ some), some (.fetched (.ok .unchanged))) := by
    rfl
  ⟨_, secondCall_run, read, (run_answered secondCall_run).2 _ _ _ read⟩

end Dialogue

end PrintConnector.Scheduler
