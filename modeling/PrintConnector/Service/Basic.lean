import PrintConnector.Cache.Entry
import PrintConnector.Pool.Exchange
import PrintConnector.Query

/-! The whole service: the cache, the pool behind it, and the calls under way.

A call goes through phases.  What takes long on disk is done by the job of a
call, which goes on even if the call is given up.  An entry lives as long as it
is listed or some call or job has hold of it; its file goes away with it.
-/

namespace PrintConnector

open Cache (Snapshot Disk Edition Entry FileName)

namespace Service

/-- What a call is for. -/
inductive Request where
  /-- Brings the description of a printer up to date. -/
  | refresh (printer : String)
  /-- Gives what is known of a printer, without asking the server. -/
  | cached (printer : String)
  /-- Forgets a printer. -/
  | invalidate (printer : String)
  /-- Forgets all printers and closes the pool. -/
  | shutdown
  /-- Asks the server for something, past the cache. -/
  | ask (query : Query)
deriving DecidableEq, Repr

/-- How a call ended. -/
inductive Result where
  | refreshed (outcome : Except Error Snapshot)
  | cached (found : Option Snapshot)
  /-- There was something to forget. -/
  | invalidated (existed : Bool)
  | shutDown
  /-- Documents are told by the number of their download. -/
  | answered (outcome : Except Error (Reply Nat))
  | abandoned

/-- How far a call has come; entries go by number. -/
inductive Phase where
  | starting
  /-- In line for the lock of an entry, or just at its head. -/
  | queued (entry : Nat)
  | fetching (entry : Nat) (exchange : Exchange (PpdReply Nat))
  /-- The job of the call puts the new document in place. -/
  | replacing (entry : Nat) (marker : Option String)
  | replaced (entry : Nat) (marker : Option String) (outcome : Except Error Edition)
  /-- Nothing was ever held for the printer, and the fetch failed. -/
  | failed (entry : Nat) (error : Error)
  /-- The same, after the entry was struck off the list. -/
  | unlisted (entry : Nat) (error : Error)
  /-- The job of the call lets go of entries. -/
  | discarding (result : Result)
  | discarded (result : Result)
  /-- The gate of the pool is shut; what is parked is to be closed. -/
  | sealing
  | asking (query : Query) (exchange : Exchange (Reply Nat))
  | finished (result : Result)

/-- The entry that a call has hold of. -/
def Phase.handle? : Phase → Option Nat
  | .queued entry | .fetching entry _ | .replacing entry _ | .replaced entry _ _
  | .failed entry _ | .unlisted entry _ => some entry
  | _ => none

structure Call where
  request : Request
  phase : Phase := .starting

/-- How far a new document has come on its way into the cache. -/
inductive Replacement where
  | opening
  /-- The download is open. -/
  | staging (bytes : List UInt8)
  /-- Some bytes of the download are still to be copied. -/
  | copying (rest : List UInt8) (copy : Cache.Copy)
  | placing (copy : Cache.Copy)
  /-- The download is to be removed. -/
  | cleaning (outcome : Except Error Edition)

inductive Job where
  /-- Moves a download into the file of a printer. -/
  | replace (download : Nat) (target : FileName) (progress : Replacement)
  /-- Lets go of entries. -/
  | discard (entries : List Nat)

end Service

open Service

/-- The state of the service. -/
structure Service where
  pool : Pool
  disk : Disk := {}
  /-- The entry of each printer that has one. -/
  listing : List (String × Nat) := []
  entries : Roster Entry := []
  /-- Entries are counted as they are created. -/
  nextEntry : Nat := 0
  calls : Roster Call := []
  /-- The jobs under way, each under the number of its call. -/
  jobs : Roster Job := []

namespace Service

/-- A service that holds nothing.  The settings have to be sound. -/
def start (settings : Settings) : Except Error Service := do
  settings.validate
  return { pool := .start (.ofSettings settings) }

def listed? (service : Service) (printer : String) : Option Nat :=
  service.listing.lookup printer

def entry? (service : Service) (number : Nat) : Option Entry :=
  service.entries.entry? number

def call? (service : Service) (who : Nat) : Option Call :=
  service.calls.entry? who

def phase? (service : Service) (who : Nat) : Option Phase :=
  (service.call? who).map Call.phase

/-- Something has hold of an entry. -/
def isReferenced (service : Service) (number : Nat) : Bool :=
  service.listing.any (fun listed => listed.2 = number) ||
    service.calls.any (fun call => call.2.phase.handle? = some number) ||
    service.jobs.any fun job =>
      match job.2 with
      | .discard entries => entries.contains number
      | .replace .. => false

/-- Entries that nothing has hold of go away with their files. -/
def sweep (service : Service) : Service :=
  let lost := service.entries.filter fun entry => !service.isReferenced entry.1
  { service with
    entries := service.entries.filter fun entry => service.isReferenced entry.1
    disk := lost.foldl (fun disk entry => disk.delete entry.2.file) service.disk }

def setPhase (service : Service) (who : Nat) (phase : Phase) : Service :=
  { service with
    calls := service.calls.map fun call =>
      if call.1 = who then (who, { call.2 with phase }) else call }

def setEntry (service : Service) (number : Nat) (change : Entry → Entry) : Service :=
  { service with
    entries := service.entries.map fun entry =>
      if entry.1 = number then (number, change entry.2) else entry }

/-- Gets in line for the lock of an entry. -/
def enqueue (service : Service) (who number : Nat) : Service :=
  service.setEntry number fun entry => { entry with line := entry.line ++ [who] }

/-- Leaves the line for the lock of an entry, and so lets go of the lock. -/
def unlock (service : Service) (who number : Nat) : Service :=
  service.setEntry number fun entry => { entry with line := entry.line.filter (· ≠ who) }

def addJob (service : Service) (who : Nat) (job : Job) : Service :=
  { service with jobs := service.jobs.add who job }

/-- The call is over; it lets go of the lock and of its entry. -/
def finish (service : Service) (who : Nat) (result : Result) : Service :=
  let service := match (service.phase? who).bind Phase.handle? with
    | some number => service.unlock who number
    | none => service
  (service.setPhase who (.finished result)).sweep

end Service

end PrintConnector
