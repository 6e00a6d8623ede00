import PrintConnector.Service.Need

/-! The service together with the server that it asks for documents.

Anyone may put another document on the server at any time.  The server answers a
call with what it has at that moment, and its answer may come in late or never.
-/

namespace PrintConnector

/-- A document that the server has for a printer. -/
structure Publication where
  printer : String
  bytes : List UInt8
  marker : Option String
deriving DecidableEq, Repr

/-- What the server says to a request for a document.  It may leave the document
out only if the marker that came with the request is the one of the document. -/
def Publication.reply (publication : Publication) (given : Option String) (full : Bool) :
    PpdReply (List UInt8) :=
  if !full && given.isSome && given = publication.marker then .unchanged
  else .document publication.bytes publication.marker

/-- What the server told a call. -/
structure Telling where
  publication : Publication
  reply : PpdReply (List UInt8)
  /-- It has not come in yet. -/
  underway : Bool := true

structure World where
  service : Service
  /-- What the server has had, the latest first. -/
  published : List Publication := []
  /-- What the server told each call, unless that was lost. -/
  told : Roster Telling := []

namespace World

/-- What the server has for a printer. -/
def current? (world : World) (printer : String) : Option Publication :=
  world.published.find? fun publication => publication.printer = printer

inductive Event where
  | publish (publication : Publication)
  /-- The server answers a call, with a full document or not. -/
  | answer (who : Nat) (full : Bool)
  /-- The answer to a call comes in. -/
  | deliver (who : Nat)
  | service (event : Service.Event)

/-- The server answers a call that waits for a document. -/
def answer? (world : World) (who : Nat) (full : Bool) : Option World :=
  match world.service.need who with
  | .answer (.ppd printer marker) =>
      if world.told.has who then none
      else do
        let publication ← world.current? printer
        let telling : Telling := { publication, reply := publication.reply marker full }
        return { world with told := world.told.add who telling }
  | _ => none

def deliver? (world : World) (who : Nat) : Option World := do
  let telling ← world.told.entry? who
  if telling.underway then
    let service ← world.service.step? (.answered who (.ok (.ppd telling.reply)))
    return { world with
      service
      told := world.told.update who { telling with underway := false } }
  else none

/-- Something else happens to the service.  What the server told a call is lost if
the call meets a failure instead or is given up. -/
def serve? (world : World) (event : Service.Event) : Option World :=
  match event with
  | .answered _ (.ok (.ppd _)) => none
  | .answered who _ | .abandon who => do
      let service ← world.service.step? event
      return { world with service, told := world.told.remove who }
  | _ => do
      let service ← world.service.step? event
      return { world with service }

def step? (world : World) : Event → Option World
  | .publish publication => some { world with published := publication :: world.published }
  | .answer who full => world.answer? who full
  | .deliver who => world.deliver? who
  | .service event => world.serve? event

/-- The world after some events; none where one cannot happen. -/
def run? (world : World) (events : List Event) : Option World :=
  events.foldlM step? world

end World

end PrintConnector
