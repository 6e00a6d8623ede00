import PrintConnector.Service.Call

/-! The steps of jobs, and everything that can happen to the service.

A new document is copied into a staging file, piece by piece, and put in the
place of the printer's file in one step, so that the file never holds a part of
it.  The download is removed in any case.
-/

namespace PrintConnector.Service

open Cache (Copy Edition Fault FileName)

/-- Hands the outcome of a replacement to its call, if that still waits. -/
def deliver (service : Service) (who : Nat) (outcome : Except Error Edition) : Service :=
  match service.phase? who with
  | some (.replacing number marker) => service.setPhase who (.replaced number marker outcome)
  | _ => service

/-- Tells a call that its entries were let go of, if it still waits. -/
def acknowledge (service : Service) (who : Nat) : Service :=
  match service.phase? who with
  | some (.discarding result) => service.setPhase who (.discarded result)
  | _ => service

def setJob (service : Service) (who : Nat) (job : Job) : Service :=
  { service with jobs := service.jobs.update who job }

def endJob (service : Service) (who : Nat) : Service :=
  { service with jobs := service.jobs.remove who }

/-- The next step of a replacement. -/
def replaceStep (service : Service) (who download : Nat) (target : FileName)
    (progress : Replacement) (fault : Option Fault) : Service :=
  let next (service : Service) (progress : Replacement) :=
    service.setJob who (.replace download target progress)
  let giveUp (error : Error) :=
    next { service with disk := service.disk.unstage who } (.cleaning (.error error))
  match progress with
  | .opening =>
      match service.disk.readDownload download fault with
      | .ok bytes => next service (.staging bytes)
      | .error error => next service (.cleaning (.error error))
  | .staging bytes =>
      match service.disk.stage who fault with
      | .ok disk => next { service with disk } (.copying bytes {})
      | .error error => next service (.cleaning (.error error))
  | .copying rest copy =>
      let piece := rest.take Copy.pieceSize
      match service.disk.append who piece fault with
      | .ok disk =>
          next { service with disk }
            (if rest.isEmpty then .placing copy
            else .copying (rest.drop Copy.pieceSize) (copy.add piece))
      | .error error => giveUp error
  | .placing copy =>
      match service.disk.replace who target fault with
      | .ok disk => next { service with disk } (.cleaning (.ok (copy.edition who)))
      | .error error => giveUp error
  | .cleaning outcome =>
      -- A removal meets no fault, so the one given here has nothing to strike.
      ({ service with disk := service.disk.removeDownload download }.endJob who).deliver who outcome

/-- Lets go of entries, and of their locks before. -/
def discardStep (service : Service) (who : Nat) (entries : List Nat) : Service :=
  let service := entries.foldl (fun service number => service.unlock who number) service
  ((service.endJob who).acknowledge who).sweep

/-- The next step of the job of a call, which can meet a fault. -/
def work? (service : Service) (who : Nat) (fault : Option Fault) : Option Service := do
  match ← service.jobs.entry? who with
  | .replace download target progress =>
      return service.replaceStep who download target progress fault
  | .discard entries => return service.discardStep who entries

/-- Everything that can happen to the service. -/
inductive Event where
  | call (who : Nat) (request : Request)
  | go (who : Nat) (fault : Option Fault)
  | connected (who : Nat) (result : Except Error Unit)
  | reconnected (who : Nat) (result : Except Error Unit)
  | answered (who : Nat) (result : Except Error (Reply (List UInt8)))
  | abandon (who : Nat)
  | work (who : Nat) (fault : Option Fault)
  | reap (ticket : Nat)
  /-- A download is lost before the cache has taken it in. -/
  | lose (download : Nat)
  | removeDirectory
  /-- Time goes by. -/
  | elapse (milliseconds : Nat)
  /-- Sessions grow older. -/
  | age (milliseconds : Nat)

/-- Puts a new call among the others, under a number of its own. -/
def enter? (service : Service) (who : Nat) (request : Request) : Option Service :=
  if service.calls.has who then none
  else some { service with calls := service.calls.add who { request } }

/-- Takes a step of the pool. -/
def poolStep? (service : Service) (action : Pool.Action) : Option Service := do
  let pool ← service.pool.step? action
  return { service with pool }

def step? (service : Service) : Event → Option Service
  | .call who request => service.enter? who request
  | .go who fault => service.go? who fault
  | .connected who result => service.connected? who result
  | .reconnected who result => service.reconnected? who result
  | .answered who result => service.answered? who result
  | .abandon who => service.abandon? who
  | .work who fault => service.work? who fault
  | .reap ticket => service.poolStep? (.reap ticket)
  | .lose download => some { service with disk := service.disk.removeDownload download }
  | .removeDirectory => some { service with disk := service.disk.removeDirectory }
  | .elapse milliseconds => service.poolStep? (.elapse milliseconds)
  | .age milliseconds => service.poolStep? (.age milliseconds)

/-- The service after some events; none where one cannot happen. -/
def run? (service : Service) (events : List Event) : Option Service :=
  events.foldlM step? service

end PrintConnector.Service
