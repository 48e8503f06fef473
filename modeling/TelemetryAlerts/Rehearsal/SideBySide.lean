import TelemetryAlerts.Rehearsal.World
import TelemetryAlerts.Worker.Evaluation

/-!
# Tenants side by side

Evaluating several tenants on one thread of control. A tenant's evaluation goes on until
it has to wait: for its turn, for a lock, for the channels of a notification or for a call
that never returns. What is ready to go on does so in the order in which it became ready.
-/

namespace TelemetryAlerts
namespace Rehearsal

/-- What is left of a tenant's evaluation. -/
abbrev Task := Program Call Call.Reply (Outcome Unit)

/-- Where a tenant's evaluation stands. -/
inductive Phase where
  | fresh (p : Task)
  /-- Waits until fewer tenants are being evaluated. -/
  | queued (p : Task)
  | ready (p : Task)
  /-- Waits for a lock, and takes it next. -/
  | locking (p : Task)
  /-- Waits for the channels of a notification. -/
  | sending (d : Dispatch) (outcomes : List (Option (Outcome Unit))) (next : Report → Task)
  | over

/-- Something that is ready to go on. -/
inductive Job where
  | go (task : Nat)
  | send (task index : Nat)
  /-- A channel of a notification has ended. -/
  | sent (task index : Nat)

/-- Tenants under evaluation. -/
structure SideBySide where
  world : World
  phases : List Phase
  /-- What is ready, each with the number of times that it lets others go first. -/
  ready : List (Nat × Job)
  /-- How many tenants more may be evaluated. -/
  free : Nat
  /-- Tenants that wait for their turn; true once they have got it. -/
  turns : List (Nat × Bool) := []
  /-- What goes on at a later time. -/
  asleep : List (Float × Job) := []
  time : Float := 0

namespace SideBySide

/-- The reply to a call that took too long. -/
def lateReply? : (c : Call) → Option c.Reply
  | .tenants => some (.error .timedOut)
  | .enabledRules _ => some (.error .timedOut)
  | .devicesOfType _ _ => some (.error .timedOut)
  | .telemetry _ _ => some (.error .timedOut)
  | .store _ => some (.error .timedOut)
  | _ => none

/-- The limit on the time of a call, what it counts as, and its arguments. -/
def limitOf? (w : World) : Call → Option (Float × Target × List Json)
  | .tenants => some (w.engine.storeTimeout.toFloat, .tenants, [])
  | .enabledRules tenant => some (w.engine.storeTimeout.toFloat, .enabledRules, [.str tenant])
  | .devicesOfType tenant deviceType =>
    some (w.engine.storeTimeout.toFloat, .devicesOfType, [.str tenant, .str deviceType])
  | .telemetry device tenant =>
    some (w.engine.fetchTimeout.toFloat, .telemetry, [.str device, .str tenant])
  | .store r => some (w.engine.storeTimeout.toFloat, targetOfRequest r)
  | _ => none

/-- How long a call waits before it fails for lack of time; nothing if it does not. -/
def lateness? (w : World) (c : Call) : Option Float :=
  (limitOf? w c).bind fun (limit, target, arguments) =>
    if limit ≤ 0 then some 0
    else if (Fault.strike target arguments w.faults).1 = some .hang then some limit
    else none

/-- Puts something at the end of what is ready; it lets others go first some times. -/
def pushPatient (patience : Nat) (job : Job) (s : SideBySide) : SideBySide :=
  { s with ready := s.ready ++ [(patience, job)] }

/-- Puts something at the end of what is ready. -/
def push (job : Job) (s : SideBySide) : SideBySide :=
  s.pushPatient 0 job

/-- Something that goes on after a time; without any time it only lets others go first. -/
def sleep (seconds : Float) (job : Job) (s : SideBySide) : SideBySide :=
  if seconds ≤ 0 then s.pushPatient 2 job
  else { s with asleep := s.asleep ++ [(s.time + seconds, job)] }

/-- Sets where a tenant's evaluation stands. -/
def setPhase (task : Nat) (p : Phase) (s : SideBySide) : SideBySide :=
  { s with phases := s.phases.set task p }

/-- Gives the turn to the next tenant that waits for it. -/
def passTurn (s : SideBySide) : SideBySide :=
  match s.turns.find? fun t => !t.2 with
  | some (task, _) =>
    push (.go task) { s with
      free := s.free - 1
      turns := s.turns.map fun t => (t.1, t.2 || t.1 == task) }
  | none => s

/-- Does something to the locks. -/
def onLocks (f : Locks Nat → Locks Nat) (s : SideBySide) : SideBySide :=
  { s with world := s.world.onLocks f }

/-- A tenant's evaluation leaves its lock, and the first that waits for it may go on. -/
def leaveLock (task : Nat) (s : SideBySide) : SideBySide :=
  let heir? := s.world.pairLocks.heir? task
  let s := s.onLocks (Locks.leave task)
  match heir? with
  | some heir => s.push (.go heir)
  | none => s

/-- Goes on with a tenant's evaluation until it has to wait or ends. -/
def advance (task : Nat) : Task → SideBySide → SideBySide
  | .done _, s =>
    passTurn { s.setPhase task .over with free := s.free + 1 }
  | .call (.dispatch d) next, s =>
    if d.plan.isEmpty then advance task (next {}) s
    else
      let s := s.setPhase task (.sending d (d.plan.map fun _ => none) next)
      (List.range d.plan.length).foldl (fun s i => s.push (.send task i)) s
  | .call (.acquire rule device) next, s =>
    let s := s.onLocks (Locks.arrive task (rule, device))
    if s.world.pairLocks.isInside task then advance task (next ()) s
    else s.setPhase task (.locking (next ()))
  | .call (.release _ _) next, s => advance task (next ()) (s.leaveLock task)
  | .call c next, s =>
    let late? := lateness? s.world c
    let (reply, world) := World.handle (fun _ _ _ w => w) c s.world
    let s := { s with world := world }
    match late?, lateReply? c with
    | some seconds, some late => (s.setPhase task (.ready (next late))).sleep seconds (.go task)
    | _, _ => advance task (next reply) s

/-- Begins or goes on with a tenant's evaluation. -/
def go (task : Nat) (s : SideBySide) : SideBySide :=
  match s.phases[task]? with
  | some (.fresh p) =>
    if s.free = 0 || !s.turns.isEmpty then
      { s.setPhase task (.queued p) with turns := s.turns ++ [(task, false)] }
    else advance task p { s with free := s.free - 1 }
  | some (.queued p) =>
    let s := { s with turns := s.turns.filter fun t => t.1 != task }
    advance task p (if 0 < s.free then passTurn s else s)
  | some (.ready p) => advance task p s
  | some (.locking p) => advance task p (s.onLocks (Locks.resume task))
  | _ => s

/-- Notes what became of one channel of a notification. -/
def setOutcome (task index : Nat) (o : Outcome Unit) (s : SideBySide) : SideBySide :=
  match s.phases[task]? with
  | some (.sending d outcomes next) =>
    s.setPhase task (.sending d (outcomes.set index (some o)) next)
  | _ => s

/-- How long a channel takes before it fails for lack of time; nothing if it does not. -/
def sendLateness? (w : World) (c : Channel) : Option Float :=
  (w.sender? c).bind fun p =>
    if w.sendTimeout ≤ 0 then some 0
    else if p.2 = .hanging then some w.sendTimeout
    else none

/-- Sends through one channel of a notification. -/
def send (task index : Nat) (s : SideBySide) : SideBySide :=
  match s.phases[task]? with
  | some (.sending d _ _) =>
    match d.plan[index]? with
    | some (c, recipients) =>
      let late? := sendLateness? s.world c
      let (o, world) := World.send c recipients d.notice s.world
      let s := setOutcome task index o { s with world := world }
      match late? with
      | some seconds => s.sleep seconds (.sent task index)
      | none => s.push (.sent task index)
    | none => s
  | _ => s

/-- Counts a channel that has ended; after the last one the tenant's evaluation goes on. -/
def countSent (task index : Nat) (s : SideBySide) : SideBySide :=
  match s.phases[task]? with
  | some (.sending d outcomes next) =>
    let left := (s.ready.map (·.2) ++ s.asleep.map (·.2)).any fun
      | .send t _ => t == task
      | .sent t i => t == task && i != index
      | .go _ => false
    if left then s
    else
      let ended := (d.plan.zip outcomes).map fun p => (p.1.1, p.2.getD (.error .timedOut))
      (s.setPhase task (.ready (next (Report.ofOutcomes ended)))).push (.go task)
  | _ => s

/-- Does one thing that is ready. -/
def act (job : Job) (s : SideBySide) : SideBySide :=
  match job with
  | .go task => s.go task
  | .send task index => s.send task index
  | .sent task index => s.countSent task index

/-- The earliest of what goes on later, and the rest. -/
def earliest? : List (Float × Job) → Option ((Float × Job) × List (Float × Job))
  | [] => none
  | e :: rest =>
    match earliest? rest with
    | none => some (e, [])
    | some (f, others) => if f.1 < e.1 then some (f, e :: others) else some (e, rest)

/-- Does what is ready, in order, until nothing is left to do. -/
def run : Nat → SideBySide → SideBySide
  | 0, s => s
  | fuel + 1, s =>
    match s.ready with
    | (0, job) :: rest => run fuel (act job { s with ready := rest })
    | (n + 1, job) :: rest => run fuel { s with ready := rest ++ [(n, job)] }
    | [] =>
      match earliest? s.asleep with
      | some ((time, job), rest) => run fuel { s with ready := [(0, job)], asleep := rest, time := time }
      | none => s

/-- More things than a rehearsal does in one cycle. -/
def enough : Nat := 10000000

/-- Evaluates tenants side by side, at most a number of them at a time. -/
def evaluate (limit : Nat) (again : Bool) (tenants : List String) (w : World) : World :=
  let tasks : List Task := tenants.map fun t => ExceptT.run (Worker.evaluateUnlessStopping again t)
  let start : SideBySide := {
    world := w
    phases := tasks.map Phase.fresh
    ready := (List.range tasks.length).map fun i => (0, Job.go i)
    free := limit }
  (run enough start).world

end SideBySide

/-- Runs an action of the worker in its surroundings. -/
def World.perform {α : Type} (a : WorkerAction α) : Play (Outcome α) :=
  Program.run (World.handle SideBySide.evaluate) (ExceptT.run a)

end Rehearsal
end TelemetryAlerts
