import PrintConnector.Rehearsal.Basic

/-! How the tasks of a rehearsal take turns.

Those that can go on do so first come, first served; then those that had let
the others go first; then the work on disk, which takes no time.  Only when
everybody waits does time go on, straight to the next event.  Work on disk
that nobody waits for is left for later.
-/

namespace PrintConnector.Rehearsal

/-- Lets a task go on until it has to wait, or gives it up when its time has
come.  The first argument bounds the number of steps. -/
def proceed : Nat → Rehearsal → Nat → Rehearsal
  | 0, rehearsal, _ => rehearsal
  | fuel + 1, rehearsal, who =>
      match rehearsal.tasks.entry? who with
      | none => rehearsal
      | some task =>
          match rehearsal.outcome? who task with
          | some outcome => rehearsal.conclude who outcome
          | none =>
              match rehearsal.advance? who task with
              | some rehearsal => proceed fuel rehearsal who
              | none =>
                  if rehearsal.isExpired task then
                    proceed fuel (rehearsal.abandon who task) who
                  else rehearsal

/-- More steps than a task takes without waiting. -/
def stepsPerTurn : Nat := 10000

def takeTurn (rehearsal : Rehearsal) : Turn → Rehearsal
  | .task who => proceed stepsPerTurn rehearsal who
  | .reaper ticket =>
      { rehearsal with service := (rehearsal.service.step? (.reap ticket)).getD rehearsal.service }

/-- Those that can go on, tasks first. -/
def ready (rehearsal : Rehearsal) : List Turn :=
  (rehearsal.tasks.filter fun task => rehearsal.isReady task.1 task.2).map (.task ·.1) ++
    (rehearsal.pool.reapers.filter fun reaper => reaper.2 ≤ rehearsal.clock).map (.reaper ·.1)

/-- Puts those in line that can go on and are not in line yet. -/
def enqueue (rehearsal : Rehearsal) : Rehearsal :=
  { rehearsal with
    turns := rehearsal.turns ++ rehearsal.ready.filter fun turn => !rehearsal.turns.contains turn }

/-- The turn of a task that has let the others go first. -/
def Stall.resume : Stall → Stall
  | .yielding stalled => .yielded stalled
  | stall => stall

/-- Puts those in line that have let the others go first. -/
def resume (rehearsal : Rehearsal) : Rehearsal :=
  { rehearsal with
    tasks := rehearsal.tasks.map fun task =>
      (task.1, { task.2 with stall := task.2.stall.resume })
    turns := rehearsal.turns ++ rehearsal.deferred.map .task
    deferred := [] }

/-- Does the next piece of work on disk. -/
def workStep (rehearsal : Rehearsal) (who : Nat) : Rehearsal :=
  { rehearsal with service := (rehearsal.service.step? (.work who none)).getD rehearsal.service }

/-- The times that a task waits for. -/
def Task.times (task : Task) : List Nat :=
  let waits := match task.stall with
    | .dialing due limit => [due, limit]
    | .answering due => [due]
    | _ => []
  let pauses := match task.work with
    | .pause due => [due]
    | _ => []
  waits ++ pauses ++ task.deadline.toList

/-- The time of the next event. -/
def nextTime? (rehearsal : Rehearsal) : Option Nat :=
  let times := rehearsal.tasks.flatMap (·.2.times) ++ rehearsal.pool.reapers.map (·.2)
  (times.filter (rehearsal.clock < ·)).min?

def elapseTo (rehearsal : Rehearsal) (time : Nat) : Rehearsal :=
  let event := .elapse (time - rehearsal.clock)
  { rehearsal with service := (rehearsal.service.step? event).getD rehearsal.service }

/-- Goes on until nobody can go on and the goal is reached, or nothing more
would ever happen.  The first argument bounds the number of turns. -/
def run : Nat → (Rehearsal → Bool) → Rehearsal → Rehearsal
  | 0, _, rehearsal => rehearsal
  | fuel + 1, goal, rehearsal =>
      match rehearsal.turns, rehearsal.deferred with
      | turn :: turns, _ => run fuel goal ({ rehearsal with turns }.takeTurn turn).enqueue
      | [], _ :: _ => run fuel goal rehearsal.resume
      | [], [] =>
          if goal rehearsal then rehearsal
          else match rehearsal.service.jobs, rehearsal.nextTime? with
            | (who, _) :: _, _ => run fuel goal (rehearsal.workStep who).enqueue
            | [], some time => run fuel goal (rehearsal.elapseTo time).enqueue
            | [], none => rehearsal

/-- More turns than a rehearsal takes. -/
def turnsPerRun : Nat := 1000000

/-- Goes on until everybody waits. -/
def settle (rehearsal : Rehearsal) : Rehearsal :=
  run turnsPerRun (fun _ => true) rehearsal.enqueue

/-- Goes on until some tasks have ended. -/
def await (rehearsal : Rehearsal) (awaited : List Nat) : Rehearsal :=
  run turnsPerRun (fun rehearsal => awaited.all fun who => !rehearsal.tasks.has who)
    rehearsal.enqueue

/-- Goes on until some tasks have ended, or until an alarm that ends first. -/
def awaitGroup (rehearsal : Rehearsal) (awaited : List Nat) (alarm : Nat) : Rehearsal :=
  run turnsPerRun (fun rehearsal =>
    !rehearsal.tasks.has alarm || awaited.all fun who => !rehearsal.tasks.has who)
    rehearsal.enqueue

/-- Starts a task and tells its number. -/
def begin (rehearsal : Rehearsal) (work : Work) (patience : Option Nat) : Rehearsal × Nat :=
  let who := rehearsal.nextTask
  let task : Task := { work, deadline := patience.map (rehearsal.clock + ·) }
  ({ rehearsal with
    tasks := rehearsal.tasks.add who task
    turns := rehearsal.turns ++ [.task who]
    nextTask := who + 1 }, who)

/-- Starts a call and tells its number. -/
def beginCall (rehearsal : Rehearsal) (request : Service.Request) (patience : Option Nat) :
    Rehearsal × Nat :=
  let (rehearsal, who) := rehearsal.begin .call patience
  let service := (rehearsal.service.step? (.call who request)).getD rehearsal.service
  ({ rehearsal with service }, who)

/-- Gives tasks up that have not ended. -/
def abandonAll (rehearsal : Rehearsal) (tasks : List Nat) : Rehearsal :=
  (tasks.foldl (fun rehearsal who =>
    match rehearsal.tasks.entry? who with
    | some task => rehearsal.abandon who task
    | none => rehearsal) rehearsal).settle

/-- Takes some steps of the pool, one after the other, as far as they can be
taken. -/
def poolSteps (rehearsal : Rehearsal) (actions : List Pool.Action) : Rehearsal :=
  (rehearsal.withPool (actions.foldl (fun pool action => (pool.step? action).getD pool)
    rehearsal.pool)).settle

/-- Gives a borrowed session back.  In a place where no reaper can be started
the session is closed unless somebody borrows it at once. -/
def giveBack (rehearsal : Rehearsal) (who : Nat) (reapable : Bool) : Rehearsal :=
  rehearsal.poolSteps [.giveBack who, .freeSlot who,
    if reapable then .startReaper who else .takeBack who]

end PrintConnector.Rehearsal
