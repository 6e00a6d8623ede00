import PrintConnector.Proofs.Roster
import PrintConnector.Service.Step

/-! What each event does to the service, as a relation.

An event that can happen is one of few moves.  A move says where the call or the
job stood before and what the state is afterwards, so that whatever holds
between any two events is proved by going through the moves once.
-/

namespace PrintConnector

open Cache (Copy Disk Edition Entry Fault FileName Snapshot stemOf)
open Service (Event Job Phase Replacement Request Result)

/-- An exchange gets further without an answer. -/
inductive Exchange.Advances {α : Type} (exchange : Exchange α) (pool : Pool) (who : Nat) :
    Event → Pool → Exchange α → Prop where
  | go {fault : Option Fault} {after : Pool} {next : Exchange α}
      (gone : exchange.go? pool who = some (after, next)) :
      exchange.Advances pool who (.go who fault) after next
  | connected {result : Except Error Unit} {after : Pool} {next : Exchange α}
      (connected : exchange.connected? pool who result = some (after, next)) :
      exchange.Advances pool who (.connected who result) after next
  | reconnected {result : Except Error Unit} {after : Pool} {next : Exchange α}
      (reconnected : exchange.reconnected? pool who result = some (after, next)) :
      exchange.Advances pool who (.reconnected who result) after next
  | failed {error : Error} {after : Pool} {next : Exchange α}
      (answered : exchange.answered? pool who (.error error) = some (after, next)) :
      exchange.Advances pool who (.answered who (.error error)) after next
  | abandoned {after : Pool} {next : Exchange α}
      (abandoned : exchange.abandon? pool who = some (after, next)) :
      exchange.Advances pool who (.abandon who) after next

namespace Service

/-- A replacement gets further but does not touch the printer's file. -/
inductive Prepares (disk : Disk) (who download : Nat) (target : FileName) :
    Replacement → Disk → Replacement → Prop where
  | read {fault : Option Fault} {bytes : List UInt8}
      (read : disk.readDownload download fault = .ok bytes) :
      Prepares disk who download target .opening disk (.staging bytes)
  | unread {fault : Option Fault} {error : Error}
      (failed : disk.readDownload download fault = .error error) :
      Prepares disk who download target .opening disk (.cleaning (.error error))
  | stage {fault : Option Fault} {bytes : List UInt8} {after : Disk}
      (staged : disk.stage who fault = .ok after) :
      Prepares disk who download target (.staging bytes) after (.copying bytes {})
  | unstaged {fault : Option Fault} {bytes : List UInt8} {error : Error}
      (failed : disk.stage who fault = .error error) :
      Prepares disk who download target (.staging bytes) disk (.cleaning (.error error))
  | append {fault : Option Fault} {rest : List UInt8} {copy : Copy} {after : Disk}
      (appended : disk.append who (rest.take Copy.pieceSize) fault = .ok after) :
      Prepares disk who download target (.copying rest copy) after
        (if rest.isEmpty then .placing copy
        else .copying (rest.drop Copy.pieceSize) (copy.add (rest.take Copy.pieceSize)))
  | unwritten {fault : Option Fault} {rest : List UInt8} {copy : Copy} {error : Error}
      (failed : disk.append who (rest.take Copy.pieceSize) fault = .error error) :
      Prepares disk who download target (.copying rest copy) (disk.unstage who)
        (.cleaning (.error error))
  | unplaced {fault : Option Fault} {copy : Copy} {error : Error}
      (failed : disk.replace who target fault = .error error) :
      Prepares disk who download target (.placing copy) (disk.unstage who)
        (.cleaning (.error error))

/-- A refresh with the lock of an entry in hand has failed. -/
inductive Fails (entry : Entry) (number : Nat) : Phase → Error → Prop where
  | request {exchange : Exchange (PpdReply Nat)} {error : Error}
      (concluded : exchange.position = .finished (some (.error error))) :
      Fails entry number (.fetching number exchange) error
  | unchanged {exchange : Exchange (PpdReply Nat)}
      (concluded : exchange.position = .finished (some (.ok .unchanged)))
      (empty : entry.current = none) :
      Fails entry number (.fetching number exchange) (.ppdNotCached entry.printer)
  | replacement {marker : Option String} {error : Error} :
      Fails entry number (.replaced number marker (.error error)) error

/-- Phases in which a call can be given up at once. -/
def Phase.isLoose : Phase → Bool
  | .starting | .queued _ | .replacing .. | .replaced .. | .discarding _ | .discarded _ => true
  | _ => false

/-- What a call ends with that leaves everything but its own state alone. -/
inductive Ends (service : Service) (who : Nat) : Event → Request → Phase → Result → Prop where
  | uncreated {fault : Option Fault} {printer : String} {error : Error}
      (unlisted : service.listed? printer = none)
      (failed : service.disk.create ⟨stemOf printer, service.nextEntry⟩ fault = .error error) :
      Ends service who (.go who fault) (.refresh printer) .starting (.refreshed (.error error))
  | unknown {fault : Option Fault} {printer : String} (unlisted : service.listed? printer = none) :
      Ends service who (.go who fault) (.cached printer) .starting (.cached none)
  | nothing {fault : Option Fault} {printer : String} (unlisted : service.listed? printer = none) :
      Ends service who (.go who fault) (.invalidate printer) .starting (.invalidated false)
  | read {fault : Option Fault} {request : Request} {number : Nat} {entry : Entry}
      (known : service.entry? number = some entry)
      (other : ∀ printer, request ≠ .refresh printer) :
      Ends service who (.go who fault) request (.queued number) (.cached entry.snapshot?)
  | confirmed {fault : Option Fault} {request : Request} {number : Nat} {entry : Entry}
      {exchange : Exchange (PpdReply Nat)} {edition : Edition}
      (known : service.entry? number = some entry)
      (concluded : exchange.position = .finished (some (.ok .unchanged)))
      (current : entry.current = some edition) :
      Ends service who (.go who fault) request (.fetching number exchange)
        (.refreshed (.ok ⟨entry.file, edition⟩))
  | failed {fault : Option Fault} {request : Request} {phase : Phase} {number : Nat}
      {entry : Entry} {edition : Edition} {error : Error}
      (known : service.entry? number = some entry) (fails : Fails entry number phase error)
      (current : entry.current = some edition) :
      Ends service who (.go who fault) request phase (.refreshed (.error error))
  | discarded {fault : Option Fault} {request : Request} {result : Result}
      (other : result ≠ .shutDown) :
      Ends service who (.go who fault) request (.discarded result) result
  | answered {fault : Option Fault} {request : Request} {query : Query}
      {exchange : Exchange (Reply Nat)} {outcome : Option (Except Error (Reply Nat))}
      (concluded : exchange.position = .finished outcome) :
      Ends service who (.go who fault) request (.asking query exchange) (resultOf outcome)
  | stopped {fault : Option Fault} {request : Request} {number : Nat}
      {exchange : Exchange (PpdReply Nat)} (concluded : exchange.position = .finished none) :
      Ends service who (.go who fault) request (.fetching number exchange) .abandoned
  | abandoned {request : Request} {phase : Phase} (loose : phase.isLoose = true) :
      Ends service who (.abandon who) request phase .abandoned

/-- What an event does. -/
inductive Move (service : Service) : Event → Service → Prop where
  | enter {who : Nat} {request : Request} (new : service.call? who = none) :
      Move service (.call who request) { service with calls := service.calls.add who { request } }
  | create {who : Nat} {printer : String} {fault : Option Fault} {disk : Disk}
      (asked : service.call? who = some ⟨.refresh printer, .starting⟩)
      (unlisted : service.listed? printer = none)
      (created : service.disk.create ⟨stemOf printer, service.nextEntry⟩ fault = .ok disk) :
      Move service (.go who fault)
        ({ service with
          disk
          listing := service.listing ++ [(printer, service.nextEntry)]
          entries := service.entries.add service.nextEntry
            { printer, file := ⟨stemOf printer, service.nextEntry⟩ }
          nextEntry := service.nextEntry + 1 }.awaitLock who service.nextEntry)
  | queue {who number : Nat} {request : Request} {printer : String} {fault : Option Fault}
      (asked : service.call? who = some ⟨request, .starting⟩)
      (about : request = .refresh printer ∨ request = .cached printer)
      (listed : service.listed? printer = some number) :
      Move service (.go who fault) (service.awaitLock who number)
  | strike {who number : Nat} {printer : String} {fault : Option Fault}
      (asked : service.call? who = some ⟨.invalidate printer, .starting⟩)
      (listed : service.listed? printer = some number) :
      Move service (.go who fault) ((service.strike printer).awaitLock who number)
  | drain {who : Nat} {fault : Option Fault}
      (asked : service.call? who = some ⟨.shutdown, .starting⟩) :
      Move service (.go who fault)
        (({ service with listing := [] }.addJob who
          (.discard (service.listing.map Prod.snd))).setPhase who (.discarding .shutDown))
  | query {who : Nat} {query : Query} {fault : Option Fault}
      (asked : service.call? who = some ⟨.ask query, .starting⟩) :
      Move service (.go who fault) (service.setPhase who (.asking query {}))
  | fetch {who number : Nat} {printer : String} {entry : Entry} {fault : Option Fault}
      (asked : service.call? who = some ⟨.refresh printer, .queued number⟩)
      (known : service.entry? number = some entry) (held : entry.isHeldBy who = true)
      (listed : service.listed? printer = some number) :
      Move service (.go who fault) (service.setPhase who (.fetching number {}))
  | restart {who number : Nat} {printer : String} {entry : Entry} {fault : Option Fault}
      (asked : service.call? who = some ⟨.refresh printer, .queued number⟩)
      (known : service.entry? number = some entry) (held : entry.isHeldBy who = true)
      (unlisted : service.listed? printer ≠ some number) :
      Move service (.go who fault) ((service.unlock who number).setPhase who .starting).sweep
  | forget {who number : Nat} {printer : String} {entry : Entry} {fault : Option Fault}
      (asked : service.call? who = some ⟨.invalidate printer, .queued number⟩)
      (known : service.entry? number = some entry) (held : entry.isHeldBy who = true) :
      Move service (.go who fault)
        ((service.addJob who (.discard [number])).setPhase who (.discarding (.invalidated true)))
  | advance {who number : Nat} {request : Request} {exchange next : Exchange (PpdReply Nat)}
      {event : Event} {pool : Pool}
      (asked : service.call? who = some ⟨request, .fetching number exchange⟩)
      (advanced : exchange.Advances service.pool who event pool next) :
      Move service event ({ service with pool }.setPhase who (.fetching number next))
  | answer {who number : Nat} {request : Request} {exchange next : Exchange (PpdReply Nat)}
      {reply : PpdReply (List UInt8)} {between : Service} {taken : PpdReply Nat} {pool : Pool}
      (asked : service.call? who = some ⟨request, .fetching number exchange⟩)
      (received : service.receive reply = (between, taken))
      (answered : exchange.answered? between.pool who (.ok taken) = some (pool, next)) :
      Move service (.answered who (.ok (.ppd reply)))
        ({ between with pool }.setPhase who (.fetching number next))
  | take {who number download : Nat} {request : Request} {exchange : Exchange (PpdReply Nat)}
      {marker : Option String} {entry : Entry} {fault : Option Fault}
      (asked : service.call? who = some ⟨request, .fetching number exchange⟩)
      (concluded : exchange.position = .finished (some (.ok (.document download marker))))
      (known : service.entry? number = some entry) :
      Move service (.go who fault)
        ((service.addJob who (.replace download entry.file .opening)).setPhase who
          (.replacing number marker))
  | fail {who number : Nat} {request : Request} {phase : Phase} {entry : Entry} {error : Error}
      {fault : Option Fault} (asked : service.call? who = some ⟨request, phase⟩)
      (known : service.entry? number = some entry) (fails : Fails entry number phase error)
      (empty : entry.current = none) :
      Move service (.go who fault) (service.setPhase who (.failed number error))
  | settle {who number : Nat} {request : Request} {marker : Option String} {edition : Edition}
      {entry : Entry} {fault : Option Fault}
      (asked : service.call? who = some ⟨request, .replaced number marker (.ok edition)⟩)
      (known : service.entry? number = some entry) :
      Move service (.go who fault)
        ((service.setEntry number fun entry => { entry with marker, current := some edition }).finish
          who (.refreshed (.ok ⟨entry.file, edition⟩)))
  | unlist {who number : Nat} {request : Request} {error : Error} {entry : Entry}
      {fault : Option Fault} (asked : service.call? who = some ⟨request, .failed number error⟩)
      (known : service.entry? number = some entry) :
      Move service (.go who fault)
        ((service.strikeEntry number entry).setPhase who (.unlisted number error))
  | release {who number : Nat} {request : Request} {error : Error} {fault : Option Fault}
      (asked : service.call? who = some ⟨request, .unlisted number error⟩) :
      Move service (.go who fault)
        (((service.unlock who number).addJob who (.discard [number])).setPhase who
          (.discarding (.refreshed (.error error))))
  | shutGate {who : Nat} {request : Request} {fault : Option Fault}
      (asked : service.call? who = some ⟨request, .discarded .shutDown⟩) :
      Move service (.go who fault)
        ({ service with pool := service.pool.shutGate }.setPhase who .sealing)
  | sealUp {who : Nat} {request : Request} {fault : Option Fault}
      (asked : service.call? who = some ⟨request, .sealing⟩) :
      Move service (.go who fault)
        ({ service with pool := service.pool.sealUp }.finish who .shutDown)
  | ask {who : Nat} {request : Request} {query : Query} {exchange next : Exchange (Reply Nat)}
      {event : Event} {pool : Pool}
      (asked : service.call? who = some ⟨request, .asking query exchange⟩)
      (advanced : exchange.Advances service.pool who event pool next) :
      Move service event ({ service with pool }.setPhase who (.asking query next))
  | hear {who : Nat} {request : Request} {query : Query} {exchange next : Exchange (Reply Nat)}
      {reply : Reply (List UInt8)} {between : Service} {taken : Reply Nat} {pool : Pool}
      (asked : service.call? who = some ⟨request, .asking query exchange⟩)
      (received : service.receiveAny reply = (between, taken))
      (answered : exchange.answered? between.pool who (.ok taken) = some (pool, next)) :
      Move service (.answered who (.ok reply))
        ({ between with pool }.setPhase who (.asking query next))
  | finish {who : Nat} {event : Event} {request : Request} {phase : Phase} {result : Result}
      (asked : service.call? who = some ⟨request, phase⟩)
      (ends : Ends service who event request phase result) :
      Move service event (service.finish who result)
  | prepare {who download : Nat} {target : FileName} {progress next : Replacement} {disk : Disk}
      {fault : Option Fault}
      (working : service.jobs.entry? who = some (.replace download target progress))
      (prepared : Prepares service.disk who download target progress disk next) :
      Move service (.work who fault)
        ({ service with disk }.setJob who (.replace download target next))
  | place {who download : Nat} {target : FileName} {copy : Copy} {disk : Disk}
      {fault : Option Fault}
      (working : service.jobs.entry? who = some (.replace download target (.placing copy)))
      (replaced : service.disk.replace who target fault = .ok disk) :
      Move service (.work who fault)
        ({ service with disk }.setJob who
          (.replace download target (.cleaning (.ok (copy.edition who)))))
  | clean {who download : Nat} {target : FileName} {outcome : Except Error Edition}
      {fault : Option Fault}
      (working : service.jobs.entry? who = some (.replace download target (.cleaning outcome))) :
      Move service (.work who fault)
        (({ service with disk := service.disk.removeDownload download }.endJob who).deliver who
          outcome)
  | discard {who : Nat} {entries : List Nat} {fault : Option Fault}
      (working : service.jobs.entry? who = some (.discard entries)) :
      Move service (.work who fault) (service.discardStep who entries)
  | reap {ticket : Nat} {pool : Pool} (reaped : service.pool.step? (.reap ticket) = some pool) :
      Move service (.reap ticket) { service with pool }
  | elapse {milliseconds : Nat} {pool : Pool}
      (elapsed : service.pool.step? (.elapse milliseconds) = some pool) :
      Move service (.elapse milliseconds) { service with pool }
  | age {milliseconds : Nat} {pool : Pool}
      (aged : service.pool.step? (.age milliseconds) = some pool) :
      Move service (.age milliseconds) { service with pool }
  | lose {download : Nat} :
      Move service (.lose download)
        { service with disk := service.disk.removeDownload download }
  | removeDirectory :
      Move service .removeDirectory { service with disk := service.disk.removeDirectory }

variable {service after : Service} {event : Event} {who number : Nat} {request : Request}
  {entry : Entry} {fault : Option Fault} {error : Error}

theorem move_of_begin (asked : service.call? who = some ⟨request, .starting⟩) :
    Move service (.go who fault) (service.begin who request fault) := by
  cases request with
  | refresh printer =>
      rw [begin, findOrCreate]
      cases listed : service.listed? printer with
      | some number => exact .queue asked (.inl rfl) listed
      | none =>
          cases created : service.disk.create ⟨stemOf printer, service.nextEntry⟩ fault with
          | ok disk =>
              simp only [created]
              exact .create asked listed created
          | error error =>
              simp only [created]
              exact .finish asked (.uncreated listed created)
  | cached printer =>
      rw [begin]
      cases listed : service.listed? printer with
      | some number => exact .queue asked (.inr rfl) listed
      | none => exact .finish asked (.unknown listed)
  | invalidate printer =>
      rw [begin]
      cases listed : service.listed? printer with
      | some number => exact .strike asked listed
      | none => exact .finish asked (.nothing listed)
  | shutdown => exact .drain asked
  | ask query => exact .query asked

theorem move_of_locked (asked : service.call? who = some ⟨request, .queued number⟩)
    (known : service.entry? number = some entry) (held : entry.isHeldBy who = true) :
    Move service (.go who fault) (service.locked who number entry request) := by
  cases request with
  | refresh printer =>
      rw [locked]
      split
      · rename_i listed
        exact .fetch asked known held listed
      · rename_i unlisted
        exact .restart asked known held unlisted
  | invalidate printer => exact .forget asked known held
  | cached _ | shutdown | ask _ => exact .finish asked (.read known (by simp))

theorem move_of_refuse {phase : Phase} (asked : service.call? who = some ⟨request, phase⟩)
    (known : service.entry? number = some entry) (fails : Fails entry number phase error) :
    Move service (.go who fault) (service.refuse who number entry error) := by
  rw [refuse]
  cases current : entry.current with
  | some edition => exact .finish asked (.failed known fails current)
  | none => exact .fail asked known fails current

theorem move_of_fetched {exchange : Exchange (PpdReply Nat)}
    {outcome : Option (Except Error (PpdReply Nat))}
    (asked : service.call? who = some ⟨request, .fetching number exchange⟩)
    (concluded : exchange.position = .finished outcome)
    (known : service.entry? number = some entry) :
    Move service (.go who fault) (service.fetched who number entry outcome) := by
  rcases outcome with _ | error | reply
  · exact .finish asked (.stopped concluded)
  · exact move_of_refuse asked known (.request concluded)
  · cases reply with
    | document download marker => exact .take asked concluded known
    | unchanged =>
        rw [fetched, Entry.snapshot?]
        cases current : entry.current with
        | some edition => exact .finish asked (.confirmed known concluded current)
        | none => exact move_of_refuse asked known (.unchanged concluded current)

theorem move_of_settle {marker : Option String} {outcome : Except Error Edition}
    (asked : service.call? who = some ⟨request, .replaced number marker outcome⟩)
    (known : service.entry? number = some entry) :
    Move service (.go who fault) (service.settle who number entry marker outcome) := by
  cases outcome with
  | ok edition => exact .settle asked known
  | error error => exact move_of_refuse asked known .replacement

theorem move_of_go (gone : service.go? who fault = some after) :
    Move service (.go who fault) after := by
  obtain ⟨⟨request, phase⟩, asked, taken⟩ := Option.bind_eq_some_iff.mp gone
  cases phase with
  | starting =>
      obtain rfl := Option.some.inj taken
      exact move_of_begin asked
  | queued number =>
      obtain ⟨entry, known, turn⟩ := Option.bind_eq_some_iff.mp taken
      split at turn
      · rename_i held
        obtain rfl := Option.some.inj turn
        exact move_of_locked asked known held
      · contradiction
  | fetching number exchange =>
      dsimp only at taken
      split at taken
      · rename_i outcome concluded
        obtain ⟨entry, known, same⟩ := Option.bind_eq_some_iff.mp taken
        obtain rfl := Option.some.inj same
        exact move_of_fetched asked concluded known
      · obtain ⟨⟨pool, next⟩, advanced, same⟩ := Option.bind_eq_some_iff.mp taken
        obtain rfl := Option.some.inj same
        exact .advance asked (.go advanced)
  | replaced number marker outcome =>
      obtain ⟨entry, known, same⟩ := Option.bind_eq_some_iff.mp taken
      obtain rfl := Option.some.inj same
      exact move_of_settle asked known
  | failed number error =>
      obtain ⟨entry, known, same⟩ := Option.bind_eq_some_iff.mp taken
      obtain rfl := Option.some.inj same
      exact .unlist asked known
  | unlisted number error =>
      obtain rfl := Option.some.inj taken
      exact .release asked
  | discarded result =>
      cases result with
      | shutDown =>
          obtain rfl := Option.some.inj taken
          exact .shutGate asked
      | refreshed _ | cached _ | invalidated _ | answered _ | abandoned =>
          obtain rfl := Option.some.inj taken
          refine .finish asked (.discarded ?_)
          rintro ⟨⟩
  | sealing =>
      obtain rfl := Option.some.inj taken
      exact .sealUp asked
  | asking query exchange =>
      dsimp only at taken
      split at taken
      · rename_i outcome concluded
        obtain rfl := Option.some.inj taken
        exact .finish asked (.answered concluded)
      · obtain ⟨⟨pool, next⟩, advanced, same⟩ := Option.bind_eq_some_iff.mp taken
        obtain rfl := Option.some.inj same
        exact .ask asked (.go advanced)
  | replacing _ _ | discarding _ | finished _ => contradiction

theorem move_of_connected {result : Except Error Unit}
    (connected : service.connected? who result = some after) :
    Move service (.connected who result) after := by
  obtain ⟨⟨request, phase⟩, asked, taken⟩ := Option.bind_eq_some_iff.mp connected
  cases phase with
  | fetching number exchange =>
      obtain ⟨⟨pool, next⟩, advanced, same⟩ := Option.bind_eq_some_iff.mp taken
      obtain rfl := Option.some.inj same
      exact .advance asked (.connected advanced)
  | asking query exchange =>
      obtain ⟨⟨pool, next⟩, advanced, same⟩ := Option.bind_eq_some_iff.mp taken
      obtain rfl := Option.some.inj same
      exact .ask asked (.connected advanced)
  | _ => contradiction

theorem move_of_reconnected {result : Except Error Unit}
    (reconnected : service.reconnected? who result = some after) :
    Move service (.reconnected who result) after := by
  obtain ⟨⟨request, phase⟩, asked, taken⟩ := Option.bind_eq_some_iff.mp reconnected
  cases phase with
  | fetching number exchange =>
      obtain ⟨⟨pool, next⟩, advanced, same⟩ := Option.bind_eq_some_iff.mp taken
      obtain rfl := Option.some.inj same
      exact .advance asked (.reconnected advanced)
  | asking query exchange =>
      obtain ⟨⟨pool, next⟩, advanced, same⟩ := Option.bind_eq_some_iff.mp taken
      obtain rfl := Option.some.inj same
      exact .ask asked (.reconnected advanced)
  | _ => contradiction

theorem move_of_answered {result : Except Error (Reply (List UInt8))}
    (answered : service.answered? who result = some after) :
    Move service (.answered who result) after := by
  obtain ⟨⟨request, phase⟩, asked, taken⟩ := Option.bind_eq_some_iff.mp answered
  cases phase with
  | fetching number exchange =>
      rcases result with error | (reply | _ | _)
      · obtain ⟨⟨pool, next⟩, advanced, same⟩ := Option.bind_eq_some_iff.mp taken
        obtain rfl := Option.some.inj same
        exact .advance asked (.failed advanced)
      · obtain ⟨⟨pool, next⟩, settled, same⟩ := Option.bind_eq_some_iff.mp taken
        obtain rfl := Option.some.inj same
        exact .answer asked rfl settled
      · contradiction
      · contradiction
  | asking query exchange =>
      cases result with
      | error error =>
          obtain ⟨⟨pool, next⟩, advanced, same⟩ := Option.bind_eq_some_iff.mp taken
          obtain rfl := Option.some.inj same
          exact .ask asked (.failed advanced)
      | ok reply =>
          obtain ⟨⟨pool, next⟩, settled, same⟩ := Option.bind_eq_some_iff.mp taken
          obtain rfl := Option.some.inj same
          exact .hear asked rfl settled
  | _ => cases result <;> contradiction

theorem move_of_abandon (abandoned : service.abandon? who = some after) :
    Move service (.abandon who) after := by
  obtain ⟨⟨request, phase⟩, asked, taken⟩ := Option.bind_eq_some_iff.mp abandoned
  cases phase with
  | starting | queued _ | replacing _ _ | replaced _ _ _ | discarding _ | discarded _ =>
      obtain rfl := Option.some.inj taken
      exact .finish asked (.abandoned rfl)
  | fetching number exchange =>
      obtain ⟨⟨pool, next⟩, advanced, same⟩ := Option.bind_eq_some_iff.mp taken
      obtain rfl := Option.some.inj same
      exact .advance asked (.abandoned advanced)
  | asking query exchange =>
      obtain ⟨⟨pool, next⟩, advanced, same⟩ := Option.bind_eq_some_iff.mp taken
      obtain rfl := Option.some.inj same
      exact .ask asked (.abandoned advanced)
  | failed _ _ | unlisted _ _ | sealing | finished _ => contradiction

theorem move_of_replaceStep {download : Nat} {target : FileName} {progress : Replacement}
    (working : service.jobs.entry? who = some (.replace download target progress)) :
    Move service (.work who fault) (service.replaceStep who download target progress fault) := by
  unfold replaceStep
  cases progress with
  | opening =>
      cases read : service.disk.readDownload download fault with
      | ok bytes =>
          exact .prepare working (.read read)
      | error error =>
          exact .prepare working (.unread read)
  | staging bytes =>
      cases staged : service.disk.stage who fault with
      | ok disk =>
          exact .prepare working (.stage staged)
      | error error =>
          exact .prepare working (.unstaged staged)
  | copying rest copy =>
      cases appended : service.disk.append who (rest.take Copy.pieceSize) fault with
      | ok disk =>
          simp only [appended]
          exact .prepare working (.append appended)
      | error error =>
          simp only [appended]
          exact .prepare working (.unwritten appended)
  | placing copy =>
      cases replaced : service.disk.replace who target fault with
      | ok disk =>
          exact .place working replaced
      | error error =>
          exact .prepare working (.unplaced replaced)
  | cleaning outcome => exact .clean working

theorem move_of_work (worked : service.work? who fault = some after) :
    Move service (.work who fault) after := by
  obtain ⟨job, working, taken⟩ := Option.bind_eq_some_iff.mp worked
  cases job with
  | replace download target progress =>
      obtain rfl := Option.some.inj taken
      exact move_of_replaceStep working
  | discard entries =>
      obtain rfl := Option.some.inj taken
      exact .discard working

theorem move_of_enter (entered : service.enter? who request = some after) :
    Move service (.call who request) after := by
  unfold enter? at entered
  split at entered
  · contradiction
  · rename_i absent
    obtain rfl := Option.some.inj entered
    refine .enter ?_
    simpa [Roster.has, call?] using absent

theorem poolStep?_inv {action : Pool.Action} (taken : service.poolStep? action = some after) :
    ∃ pool, service.pool.step? action = some pool ∧ { service with pool } = after := by
  obtain ⟨pool, stepped, same⟩ := Option.bind_eq_some_iff.mp taken
  exact ⟨pool, stepped, Option.some.inj same⟩

theorem move_of_step (taken : service.step? event = some after) : Move service event after := by
  cases event with
  | call who request => exact move_of_enter taken
  | go who fault => exact move_of_go taken
  | connected who result => exact move_of_connected taken
  | reconnected who result => exact move_of_reconnected taken
  | answered who result => exact move_of_answered taken
  | abandon who => exact move_of_abandon taken
  | work who fault => exact move_of_work taken
  | reap ticket =>
      obtain ⟨pool, reaped, rfl⟩ := poolStep?_inv taken
      exact .reap reaped
  | lose download =>
      obtain rfl := Option.some.inj taken
      exact .lose
  | removeDirectory =>
      obtain rfl := Option.some.inj taken
      exact .removeDirectory
  | elapse milliseconds =>
      obtain ⟨pool, elapsed, rfl⟩ := poolStep?_inv taken
      exact .elapse elapsed
  | age milliseconds =>
      obtain ⟨pool, aged, rfl⟩ := poolStep?_inv taken
      exact .age aged

end Service

end PrintConnector
