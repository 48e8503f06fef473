/-!
# The locks of a worker

A worker keeps one lock for each rule and device that is being evaluated. A lock is made when a
task first comes to it, and goes at the end of a cycle unless it is held. A task that comes to a
lock takes it if it is free, and otherwise waits behind those that came before. A task that
leaves frees its lock; the first that waits is woken, and takes the lock only when it goes on.
-/

namespace TelemetryAlerts

/-- A lock. -/
structure Lock (ι : Type) where
  isHeld : Bool := false
  /-- Who waits, in the order of coming. -/
  waiters : List ι := []

/-- Whether a lock can be taken at once. -/
def Lock.isFree {ι : Type} (l : Lock ι) : Bool :=
  !l.isHeld && l.waiters.isEmpty

/-- Where a task stands. A lock is told by its number, as two locks can be made for one rule
and device. -/
inductive Place where
  | outside
  | waiting (pair : String × String) (lock : Nat)
  | inside (pair : String × String) (lock : Nat)
deriving Repr, DecidableEq

/-- The locks of a worker, and where its tasks stand. -/
structure Locks (ι : Type) where
  /-- The number of the lock that is kept for a rule and a device. -/
  kept : List ((String × String) × Nat) := []
  /-- How many locks were made. -/
  made : Nat := 0
  lock : Nat → Lock ι := fun _ => {}
  place : ι → Place := fun _ => .outside

namespace Locks

variable {ι : Type} [DecidableEq ι]

/-- Changes a lock. -/
def setLock (n : Nat) (l : Lock ι) (t : Locks ι) : Locks ι :=
  { t with lock := fun m => if m = n then l else t.lock m }

/-- Moves a task. -/
def setPlace (i : ι) (p : Place) (t : Locks ι) : Locks ι :=
  { t with place := fun j => if j = i then p else t.place j }

/-- The lock of a pair, which is made if none is kept. -/
def find (pair : String × String) (t : Locks ι) : Nat × Locks ι :=
  match t.kept.lookup pair with
  | some n => (n, t)
  | none => (t.made, { t with kept := t.kept ++ [(pair, t.made)], made := t.made + 1 })

/-- A task takes a lock, and some go on waiting for it. -/
def enter (i : ι) (pair : String × String) (n : Nat) (waiters : List ι) (t : Locks ι) : Locks ι :=
  (t.setLock n ⟨true, waiters⟩).setPlace i (.inside pair n)

/-- A task begins to wait for a lock. -/
def queue (i : ι) (pair : String × String) (n : Nat) (t : Locks ι) : Locks ι :=
  (t.setLock n ⟨(t.lock n).isHeld, (t.lock n).waiters ++ [i]⟩).setPlace i (.waiting pair n)

/-- A task comes to the lock of a pair. -/
def arrive (i : ι) (pair : String × String) (t : Locks ι) : Locks ι :=
  let (n, t) := t.find pair
  if (t.lock n).isFree then t.enter i pair n [] else t.queue i pair n

/-- A task leaves the lock that it holds. -/
def leave (i : ι) (t : Locks ι) : Locks ι :=
  match t.place i with
  | .inside _ n => (t.setLock n ⟨false, (t.lock n).waiters⟩).setPlace i .outside
  | _ => t

/-- Who is woken when a task leaves. -/
def heir? (i : ι) (t : Locks ι) : Option ι :=
  match t.place i with
  | .inside _ n => (t.lock n).waiters.head?
  | _ => none

/-- A task that was woken goes on, and takes the lock. -/
def resume (i : ι) (t : Locks ι) : Locks ι :=
  match t.place i with
  | .waiting pair n => t.enter i pair n ((t.lock n).waiters.filter (· != i))
  | _ => t

/-- Whether a task is inside the section of a pair. -/
def isInside (i : ι) (t : Locks ι) : Bool :=
  match t.place i with
  | .inside _ _ => true
  | _ => false

/-- Drops the locks that nobody holds. -/
def prune (t : Locks ι) : Locks ι :=
  { t with kept := t.kept.filter fun p => (t.lock p.2).isHeld }

/-- The pairs for which a lock is kept, and whether it is held. -/
def table (t : Locks ι) : List ((String × String) × Bool) :=
  t.kept.map fun p => (p.1, (t.lock p.2).isHeld)

end Locks
end TelemetryAlerts
