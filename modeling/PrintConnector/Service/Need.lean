import PrintConnector.Service.Step

namespace PrintConnector.Service

/-- What a call cannot go on without. -/
inductive Need where
  /-- Nothing; it can take a step. -/
  | nothing
  | slot
  | connection
  | reconnection
  | answer (query : Query)
  /-- The lock of an entry. -/
  | lock
  /-- The end of its job. -/
  | job
  | over
deriving DecidableEq, Repr

/-- What an exchange waits for that asks for something. -/
def needOf (need : Exchange.Need) (query : Query) : Need :=
  match need with
  | .slot => .slot
  | .connection => .connection
  | .reconnection => .reconnection
  | .answer => .answer query
  | .nothing | .over => .nothing

/-- What a call waits for.  The marker that a refresh sends is the one of its
entry. -/
def need (service : Service) (who : Nat) : Need :=
  match service.call? who with
  | none => .over
  | some call =>
      match call.phase with
      | .queued number =>
          match service.entry? number with
          | some entry => if entry.isHeldBy who then .nothing else .lock
          | none => .lock
      | .fetching number exchange =>
          match service.entry? number with
          | some entry => needOf (exchange.need service.pool who) (.ppd entry.printer entry.marker)
          | none => .nothing
      | .asking query exchange => needOf (exchange.need service.pool who) query
      | .replacing .. | .discarding _ => .job
      | .finished _ => .over
      | _ => .nothing

end PrintConnector.Service
