import PrintConnector.Service.Basic

/-! The steps of calls.

A refresh finds the entry of its printer or creates one, waits for its lock,
and starts over if the entry was forgotten meanwhile.  Under the lock it asks
the server for the document unless the entry has the current one.  A printer
for which nothing was ever held loses its entry when the fetch fails.
-/

namespace PrintConnector.Service

open Cache (Edition Entry Fault FileName stemOf)

/-- The entry of a printer, which is created on first use.

The list of the entries has a lock of its own, which nobody keeps while waiting
for anything else, so that each use of the list is a single step and no call ever
waits for it.  Looking up and creating are one step as well.  Of two calls that
both find nothing and each make a file, the second to reach the list throws its
file away and takes the entry of the first; here it is a call that looked up after
the first was done, and its file, which no entry ever has, is left out. -/
def findOrCreate (service : Service) (printer : String) (fault : Option Fault) :
    Except Error (Service × Nat) :=
  match service.listed? printer with
  | some number => .ok (service, number)
  | none => do
      let number := service.nextEntry
      let file : FileName := ⟨stemOf printer, number⟩
      let disk ← service.disk.create file fault
      return ({ service with
        disk
        listing := service.listing ++ [(printer, number)]
        entries := service.entries.add number { printer, file }
        nextEntry := number + 1 }, number)

def strike (service : Service) (printer : String) : Service :=
  { service with listing := service.listing.filter fun listed => listed.1 ≠ printer }

/-- Gets in line for an entry. -/
def awaitLock (service : Service) (who number : Nat) : Service :=
  (service.enqueue who number).setPhase who (.queued number)

/-- The first step of a call. -/
def begin (service : Service) (who : Nat) (request : Request) (fault : Option Fault) : Service :=
  match request with
  | .refresh printer =>
      match service.findOrCreate printer fault with
      | .ok (service, number) => service.awaitLock who number
      | .error error => service.finish who (.refreshed (.error error))
  | .cached printer =>
      match service.listed? printer with
      | some number => service.awaitLock who number
      | none => service.finish who (.cached none)
  | .invalidate printer =>
      match service.listed? printer with
      | some number => (service.strike printer).awaitLock who number
      | none => service.finish who (.invalidated false)
  | .shutdown =>
      let numbers := service.listing.map (·.2)
      ({ service with listing := [] }.addJob who (.discard numbers)).setPhase who
        (.discarding .shutDown)
  | .ask query => service.setPhase who (.asking query {})

/-- What a call does with the lock that it has come to hold. -/
def locked (service : Service) (who number : Nat) (entry : Entry) (request : Request) : Service :=
  match request with
  | .refresh printer =>
      if service.listed? printer = some number then service.setPhase who (.fetching number {})
      else ((service.unlock who number).setPhase who .starting).sweep
  | .invalidate _ =>
      (service.addJob who (.discard [number])).setPhase who (.discarding (.invalidated true))
  | _ => service.finish who (.cached entry.snapshot?)

/-- A refresh failed.  An entry that holds something stays as it is. -/
def refuse (service : Service) (who number : Nat) (entry : Entry) (error : Error) : Service :=
  match entry.current with
  | some _ => service.finish who (.refreshed (.error error))
  | none => service.setPhase who (.failed number error)

/-- What a refresh does with the outcome of its request. -/
def fetched (service : Service) (who number : Nat) (entry : Entry)
    (outcome : Option (Except Error (PpdReply Nat))) : Service :=
  match outcome with
  | none => service.finish who .abandoned
  | some (.error error) => service.refuse who number entry error
  | some (.ok .unchanged) =>
      match entry.snapshot? with
      | some cached => service.finish who (.refreshed (.ok cached))
      | none => service.refuse who number entry (.ppdNotCached entry.printer)
  | some (.ok (.document download marker)) =>
      (service.addJob who (.replace download entry.file .opening)).setPhase who
        (.replacing number marker)

/-- What a refresh does when its job is done. -/
def settle (service : Service) (who number : Nat) (entry : Entry) (marker : Option String)
    (outcome : Except Error Edition) : Service :=
  match outcome with
  | .error error => service.refuse who number entry error
  | .ok edition =>
      (service.setEntry number fun entry => { entry with marker, current := some edition }).finish
        who (.refreshed (.ok ⟨entry.file, edition⟩))

/-- Strikes an entry off the list, unless another one has taken its place. -/
def strikeEntry (service : Service) (number : Nat) (entry : Entry) : Service :=
  if service.listed? entry.printer = some number then service.strike entry.printer else service

/-- How a request past the cache ended. -/
def resultOf : Option (Except Error (Reply Nat)) → Result
  | some outcome => .answered outcome
  | none => .abandoned

/-- The next step that a call takes of itself.  Creating a file can meet a
fault. -/
def go? (service : Service) (who : Nat) (fault : Option Fault) : Option Service := do
  let call ← service.call? who
  match call.phase with
  | .starting => return service.begin who call.request fault
  | .queued number =>
      let entry ← service.entry? number
      if entry.isHeldBy who then return service.locked who number entry call.request else none
  | .fetching number exchange =>
      match exchange.position with
      | .finished outcome =>
          let entry ← service.entry? number
          return service.fetched who number entry outcome
      | _ =>
          let (pool, exchange) ← exchange.go? service.pool who
          return { service with pool }.setPhase who (.fetching number exchange)
  | .replaced number marker outcome =>
      let entry ← service.entry? number
      return service.settle who number entry marker outcome
  | .failed number error =>
      let entry ← service.entry? number
      return (service.strikeEntry number entry).setPhase who (.unlisted number error)
  | .unlisted number error =>
      return ((service.unlock who number).addJob who (.discard [number])).setPhase who
        (.discarding (.refreshed (.error error)))
  | .discarded .shutDown =>
      return { service with pool := service.pool.shutGate }.setPhase who .sealing
  | .discarded result => return service.finish who result
  | .sealing => return { service with pool := service.pool.sealUp }.finish who .shutDown
  | .asking query exchange =>
      match exchange.position with
      | .finished outcome => return service.finish who (resultOf outcome)
      | _ =>
          let (pool, exchange) ← exchange.go? service.pool who
          return { service with pool }.setPhase who (.asking query exchange)
  | .replacing .. | .discarding _ | .finished _ => none

/-- The opening of a session for a call succeeded or failed. -/
def connected? (service : Service) (who : Nat) (result : Except Error Unit) : Option Service := do
  let call ← service.call? who
  match call.phase with
  | .fetching number exchange =>
      let (pool, exchange) ← exchange.connected? service.pool who result
      return { service with pool }.setPhase who (.fetching number exchange)
  | .asking query exchange =>
      let (pool, exchange) ← exchange.connected? service.pool who result
      return { service with pool }.setPhase who (.asking query exchange)
  | _ => none

/-- Connecting the session of a call anew succeeded or failed. -/
def reconnected? (service : Service) (who : Nat) (result : Except Error Unit) :
    Option Service := do
  let call ← service.call? who
  match call.phase with
  | .fetching number exchange =>
      let (pool, exchange) ← exchange.reconnected? service.pool who result
      return { service with pool }.setPhase who (.fetching number exchange)
  | .asking query exchange =>
      let (pool, exchange) ← exchange.reconnected? service.pool who result
      return { service with pool }.setPhase who (.asking query exchange)
  | _ => none

/-- Takes in the document of a reply, if it has one. -/
def receive (service : Service) : PpdReply (List UInt8) → Service × PpdReply Nat
  | .unchanged => (service, .unchanged)
  | .document bytes marker =>
      ({ service with disk := service.disk.download bytes },
        .document service.disk.nextDownload marker)

/-- Takes in the answer to a request past the cache. -/
def receiveAny (service : Service) : Reply (List UInt8) → Service × Reply Nat
  | .ppd reply =>
      let (service, reply) := service.receive reply
      (service, .ppd reply)
  | .printers printers => (service, .printers printers)
  | .attributes attributes => (service, .attributes attributes)

/-- The server answered a call, or the request failed. -/
def answered? (service : Service) (who : Nat) (result : Except Error (Reply (List UInt8))) :
    Option Service := do
  let call ← service.call? who
  match call.phase, result with
  | .fetching number exchange, .ok (.ppd reply) =>
      let (service, reply) := service.receive reply
      let (pool, exchange) ← exchange.answered? service.pool who (.ok reply)
      return { service with pool }.setPhase who (.fetching number exchange)
  | .fetching number exchange, .error error =>
      let (pool, exchange) ← exchange.answered? service.pool who (.error error)
      return { service with pool }.setPhase who (.fetching number exchange)
  | .asking query exchange, .ok reply =>
      let (service, reply) := service.receiveAny reply
      let (pool, exchange) ← exchange.answered? service.pool who (.ok reply)
      return { service with pool }.setPhase who (.asking query exchange)
  | .asking query exchange, .error error =>
      let (pool, exchange) ← exchange.answered? service.pool who (.error error)
      return { service with pool }.setPhase who (.asking query exchange)
  | _, _ => none

/-- A call is given up while it waits for something.  Its job goes on. -/
def abandon? (service : Service) (who : Nat) : Option Service := do
  let call ← service.call? who
  match call.phase with
  | .starting | .queued _ | .replacing .. | .replaced .. | .discarding _ | .discarded _ =>
      return service.finish who .abandoned
  | .fetching number exchange =>
      let (pool, exchange) ← exchange.abandon? service.pool who
      return { service with pool }.setPhase who (.fetching number exchange)
  | .asking query exchange =>
      let (pool, exchange) ← exchange.abandon? service.pool who
      return { service with pool }.setPhase who (.asking query exchange)
  | .failed .. | .unlisted .. | .sealing | .finished _ => none

end PrintConnector.Service
