import TelemetryAlerts.Proofs.Worker.Cooldown
import TelemetryAlerts.Worker.Locks

/-!
# One task for a rule and a device

Cycles overlap: a turn of a worker and any number of cycles that are asked for make their calls
in any order, and each of them drops locks when it ends. Tasks that come to one lock take it one
at a time. They keep each other out of the section of a rule and a device as long as all of them
come to the same lock, and so as long as no lock is dropped that somebody waits for.

A lock that was left and whose first waiter has not gone on yet is not held, and is dropped. The
waiter takes it all the same, and whoever comes next takes a new one.

**Results.**
* `Sound.exclusive`, `Crowd.Step.sound`: tasks exclude each other if the locks that are in use are
  kept, and every move keeps them.
* `locks_exclude`: the section of a rule and a device is exclusive in every run in which no cycle
  drops a lock that somebody waits for.
* `locks_exclude_not`: it is not in a run of three cycles in which one does.
-/

namespace TelemetryAlerts

namespace Locks

section

variable {ι : Type} {t : Locks ι} {pair : String × String} {n : ℕ}

/-- Whether at most one task is inside the section of each pair. -/
def Exclusive (t : Locks ι) : Prop :=
  ∀ i j pair n m, t.place i = .inside pair n → t.place j = .inside pair m → i = j

/-- Whether nobody waits for a lock that would be dropped. -/
def spares (t : Locks ι) : Bool :=
  t.kept.all fun p => (t.lock p.2).isHeld || (t.lock p.2).waiters.isEmpty

/-- What keeps tasks apart: each is alone at its lock, and the locks that are in use are kept. -/
structure Sound (t : Locks ι) : Prop where
  held : ∀ {i pair n}, t.place i = .inside pair n → (t.lock n).isHeld = true
  alone : ∀ {i j pair pair' n}, t.place i = .inside pair n → t.place j = .inside pair' n → i = j
  keptInside : ∀ {i pair n}, t.place i = .inside pair n → t.kept.lookup pair = some n
  keptWaiting : ∀ {i pair n}, t.place i = .waiting pair n → t.kept.lookup pair = some n
  queued : ∀ {i pair n}, t.place i = .waiting pair n → i ∈ (t.lock n).waiters

/-- The lock that is found for a pair is kept, and so are all that were kept. -/
theorem lookup_find
    (pair : String × String) (t : Locks ι) :
    (t.find pair).2.kept.lookup pair = some (t.find pair).1 ∧
      ∀ {pair' n}, t.kept.lookup pair' = some n →
        (t.find pair).2.kept.lookup pair' = some n := by
  unfold find
  cases hlookup : t.kept.lookup pair with
  | some n =>
      exact ⟨hlookup, fun h => h⟩
  | none =>
      constructor
      · simp [List.lookup_append, hlookup]
      · intro pair' n h
        simp [List.lookup_append, h]

/-- What is kept under a name stays so when other entries are dropped. -/
theorem lookup_filter
    {l : List ((String × String) × ℕ)} {keep : (String × String) × ℕ → Bool}
    (hlookup : l.lookup pair = some n)
    (hkeep : keep (pair, n) = true) :
    (l.filter keep).lookup pair = some n := by
  induction l with
  | nil =>
      cases hlookup
  | cons p rest ih =>
      rcases p with ⟨pair', m⟩
      rw [List.lookup_cons] at hlookup
      rw [List.filter_cons]
      cases hpair : pair == pair' with
      | true =>
          rw [hpair] at hlookup
          obtain rfl : m = n := Option.some.inj hlookup
          rw [← eq_of_beq hpair, if_pos hkeep, List.lookup_cons_self]
      | false =>
          rw [hpair] at hlookup
          split_ifs
          · rw [List.lookup_cons, hpair]
            exact ih hlookup
          · exact ih hlookup

theorem mem_of_lookup
    {l : List ((String × String) × ℕ)}
    (hlookup : l.lookup pair = some n) :
    (pair, n) ∈ l := by
  obtain ⟨l₁, l₂, rfl, -⟩ := List.lookup_eq_some_iff.mp hlookup
  simp

namespace Sound

theorem start :
    ({} : Locks ι).Sound := by
  constructor <;> intros <;> contradiction

/-- Tasks exclude each other if the locks that are in use are kept. -/
theorem exclusive
    (h : t.Sound) :
    t.Exclusive := by
  intro i j pair n m hi hj
  obtain rfl : n = m := Option.some.inj ((h.keptInside hi).symm.trans (h.keptInside hj))
  exact h.alone hi hj

/-- Where tasks and locks stay as they are, and the locks that are in use are kept. -/
theorem congr
    {t' : Locks ι}
    (h : t.Sound)
    (hplace : t'.place = t.place)
    (hlock : t'.lock = t.lock)
    (hkept : ∀ {i pair n}, t.place i = .inside pair n ∨ t.place i = .waiting pair n →
      t'.kept.lookup pair = some n) :
    t'.Sound where
  held hi := by
    rw [hplace] at hi
    rw [hlock]
    exact h.held hi
  alone hi hj := by
    rw [hplace] at hi hj
    exact h.alone hi hj
  keptInside hi := by
    rw [hplace] at hi
    exact hkept (.inl hi)
  keptWaiting hi := by
    rw [hplace] at hi
    exact hkept (.inr hi)
  queued hi := by
    rw [hplace] at hi
    rw [hlock]
    exact h.queued hi

theorem find
    (h : t.Sound)
    (pair : String × String) :
    (t.find pair).2.Sound := by
  refine h.congr ?_ ?_ fun hi => (lookup_find pair t).2 (hi.elim h.keptInside h.keptWaiting)
  · unfold Locks.find
    split <;> rfl
  · unfold Locks.find
    split <;> rfl

/-- The end of a cycle drops no lock that is in use, if nobody waits for a lock that would be
dropped. -/
theorem prune
    (h : t.Sound)
    (hspares : t.spares = true) :
    t.prune.Sound := by
  refine h.congr rfl rfl fun {i pair n} hi => ?_
  rcases hi with hi | hi
  · exact lookup_filter (h.keptInside hi) (h.held hi)
  · have hlookup := h.keptWaiting hi
    refine lookup_filter hlookup ?_
    have hspared := List.all_eq_true.mp hspares (pair, n) (mem_of_lookup hlookup)
    have hwaited := h.queued hi
    cases hheld : (t.lock n).isHeld with
    | true =>
        rfl
    | false =>
        simp only [hheld, Bool.false_or, List.isEmpty_iff] at hspared
        rw [hspared] at hwaited
        cases hwaited

end Sound

end

/-! ### Moves of one task -/

variable {ι : Type} [DecidableEq ι] {t : Locks ι} {i j : ι} {pair : String × String} {n : ℕ}

/-- Whether a task waits for a free lock, and is the first to wait for it. -/
def isNext (i : ι) (t : Locks ι) : Bool :=
  match t.place i with
  | .waiting _ n => !(t.lock n).isHeld && (t.lock n).waiters.head? == some i
  | _ => false

theorem place_enter
    (t : Locks ι) (i j : ι) (pair : String × String) (n : ℕ) (waiters : List ι) :
    (t.enter i pair n waiters).place j = if j = i then .inside pair n else t.place j := rfl

theorem lock_enter
    (t : Locks ι) (i : ι) (pair : String × String) (n m : ℕ) (waiters : List ι) :
    (t.enter i pair n waiters).lock m = if m = n then ⟨true, waiters⟩ else t.lock m := rfl

theorem place_queue
    (t : Locks ι) (i j : ι) (pair : String × String) (n : ℕ) :
    (t.queue i pair n).place j = if j = i then .waiting pair n else t.place j := rfl

theorem lock_queue
    (t : Locks ι) (i : ι) (pair : String × String) (n m : ℕ) :
    (t.queue i pair n).lock m =
      if m = n then ⟨(t.lock n).isHeld, (t.lock n).waiters ++ [i]⟩ else t.lock m := rfl

theorem place_leave
    (hi : t.place i = .inside pair n) :
    (t.leave i).place j = if j = i then .outside else t.place j := by
  simp only [leave, hi]
  rfl

theorem lock_leave
    (hi : t.place i = .inside pair n)
    (m : ℕ) :
    (t.leave i).lock m = if m = n then ⟨false, (t.lock n).waiters⟩ else t.lock m := by
  simp only [leave, hi]
  rfl

namespace Sound

/-- A task takes a lock that is not held. -/
theorem enter
    (h : t.Sound)
    {waiters : List ι}
    (hfree : (t.lock n).isHeld = false)
    (hkept : t.kept.lookup pair = some n)
    (hwaiters : ∀ j, j ≠ i → j ∈ (t.lock n).waiters → j ∈ waiters) :
    (t.enter i pair n waiters).Sound := by
  have hnobody {j : ι} {pair' : String × String} : t.place j ≠ .inside pair' n := by
    intro hj
    simp [h.held hj] at hfree
  constructor
  · intro j pair' m hj
    rw [place_enter] at hj
    rw [lock_enter]
    split_ifs with hm
    · rfl
    · split_ifs at hj
      · cases hj
        exact absurd rfl hm
      · exact h.held hj
  · intro j k pair' pair'' m hj hk
    rw [place_enter] at hj hk
    split_ifs at hj hk with hji hki
    · exact hji.trans hki.symm
    · cases hj
      exact absurd hk hnobody
    · cases hk
      exact absurd hj hnobody
    · exact h.alone hj hk
  · intro j pair' m hj
    rw [place_enter] at hj
    split_ifs at hj
    · cases hj
      exact hkept
    · exact h.keptInside hj
  · intro j pair' m hj
    rw [place_enter] at hj
    split_ifs at hj
    exact h.keptWaiting hj
  · intro j pair' m hj
    rw [place_enter] at hj
    rw [lock_enter]
    split_ifs at hj with hji
    split_ifs with hm
    · subst hm
      exact hwaiters j hji (h.queued hj)
    · exact h.queued hj

/-- A task begins to wait. -/
theorem queue
    (h : t.Sound)
    (hkept : t.kept.lookup pair = some n) :
    (t.queue i pair n).Sound := by
  have hinside {j : ι} {pair' : String × String} {m : ℕ}
      (hj : (t.queue i pair n).place j = .inside pair' m) : t.place j = .inside pair' m := by
    rw [place_queue] at hj
    split_ifs at hj
    exact hj
  constructor
  · intro j pair' m hj
    have hheld := h.held (hinside hj)
    rw [lock_queue]
    split_ifs with hm
    · subst hm
      exact hheld
    · exact hheld
  · exact fun hj hk => h.alone (hinside hj) (hinside hk)
  · exact fun hj => h.keptInside (hinside hj)
  · intro j pair' m hj
    rw [place_queue] at hj
    split_ifs at hj
    · cases hj
      exact hkept
    · exact h.keptWaiting hj
  · intro j pair' m hj
    rw [place_queue] at hj
    rw [lock_queue]
    split_ifs at hj with hji
    · cases hj
      simp [hji]
    · have hqueued := h.queued hj
      split_ifs with hm
      · subst hm
        exact List.mem_append_left _ hqueued
      · exact hqueued

theorem arrive
    (h : t.Sound)
    (i : ι) (pair : String × String) :
    (t.arrive i pair).Sound := by
  have hfound := h.find pair
  have hkept := (lookup_find pair t).1
  unfold Locks.arrive
  dsimp only
  split_ifs with hfree
  · simp only [Lock.isFree, Bool.and_eq_true, Bool.not_eq_true', List.isEmpty_iff] at hfree
    refine hfound.enter hfree.1 hkept fun j _ hj => ?_
    rw [hfree.2] at hj
    exact hj
  · exact hfound.queue hkept

/-- A task leaves its lock. -/
theorem leave
    (h : t.Sound)
    (i : ι) :
    (t.leave i).Sound := by
  cases hi : t.place i with
  | inside pair n =>
      have hkept : (t.leave i).kept = t.kept := by
        simp only [Locks.leave, hi]
        rfl
      have hothers {j : ι} {p : Place} (hp : p ≠ .outside) (hj : (t.leave i).place j = p) :
          j ≠ i ∧ t.place j = p := by
        rw [place_leave hi] at hj
        split_ifs at hj with hji
        · exact absurd hj.symm hp
        · exact ⟨hji, hj⟩
      constructor
      · intro j pair' m hj
        obtain ⟨hne, hj⟩ := hothers (by simp) hj
        rw [lock_leave hi, if_neg fun hm => hne (h.alone (hm ▸ hj) hi)]
        exact h.held hj
      · exact fun hj hk => h.alone (hothers (by simp) hj).2 (hothers (by simp) hk).2
      · exact fun hj => hkept ▸ h.keptInside (hothers (by simp) hj).2
      · exact fun hj => hkept ▸ h.keptWaiting (hothers (by simp) hj).2
      · intro j pair' m hj
        have hqueued := h.queued (hothers (by simp) hj).2
        rw [lock_leave hi]
        split_ifs with hm
        · subst hm
          exact hqueued
        · exact hqueued
  | _ =>
      rwa [Locks.leave, hi]

/-- A task that waited takes its lock. -/
theorem resume
    (h : t.Sound)
    (hnext : t.isNext i = true) :
    (t.resume i).Sound := by
  cases hi : t.place i with
  | waiting pair n =>
      simp only [isNext, hi, Bool.and_eq_true, Bool.not_eq_true'] at hnext
      simp only [Locks.resume, hi]
      exact h.enter hnext.1 (h.keptWaiting hi) fun j hne hj => by simp [hj, hne]
  | outside =>
      simp [isNext, hi] at hnext
  | inside =>
      simp [isNext, hi] at hnext

end Sound
end Locks

/-! ### Tasks at their locks -/

/-- Whether a call is about the locks. -/
def Call.isOfLocks : Call → Bool
  | .acquire _ _ | .release _ _ | .endCycle => true
  | _ => false

/-- Tasks at work, and the locks that they share. -/
structure Crowd (ι : Type) where
  locks : Locks ι
  rest : ι → Program Call Call.Reply (Outcome Unit)

namespace Crowd

variable {ι : Type} [DecidableEq ι] {ends : Locks ι → Bool} {w w' : Crowd ι} {i : ι}

/-- Tasks before their first calls. -/
def start (tasks : ι → Task) : Crowd ι :=
  ⟨{}, fun i => ExceptT.run (tasks i).action⟩

/-- A task goes on with its program. -/
def goesOn (w : Crowd ι) (i : ι) (locks : Locks ι) (p : Program Call Call.Reply (Outcome Unit)) :
    Crowd ι :=
  ⟨locks, Function.update w.rest i p⟩

/-- One task makes its next move. What is replied to calls that are not about the locks is left
open, and the locks may have to be in some state when a cycle ends. -/
inductive Step (ends : Locks ι → Bool) (w : Crowd ι) (i : ι) : Crowd ι → Prop where
  | other {c : Call} {next : c.Reply → Program Call Call.Reply (Outcome Unit)}
      (hrest : w.rest i = .call c next)
      (hc : c.isOfLocks = false)
      (reply : c.Reply) :
      Step ends w i (w.goesOn i w.locks (next reply))
  | enters {rule device : String} {next : Unit → Program Call Call.Reply (Outcome Unit)}
      (hrest : w.rest i = .call (.acquire rule device) next)
      (houtside : w.locks.place i = .outside)
      (hinside : (w.locks.arrive i (rule, device)).isInside i = true) :
      Step ends w i (w.goesOn i (w.locks.arrive i (rule, device)) (next ()))
  | waits {rule device : String} {next : Unit → Program Call Call.Reply (Outcome Unit)}
      (hrest : w.rest i = .call (.acquire rule device) next)
      (houtside : w.locks.place i = .outside)
      (hinside : (w.locks.arrive i (rule, device)).isInside i = false) :
      Step ends w i { w with locks := w.locks.arrive i (rule, device) }
  /-- A task that was woken takes its lock. -/
  | resumes {rule device : String} {next : Unit → Program Call Call.Reply (Outcome Unit)}
      (hrest : w.rest i = .call (.acquire rule device) next)
      (hnext : w.locks.isNext i = true) :
      Step ends w i (w.goesOn i (w.locks.resume i) (next ()))
  | leaves {rule device : String} {next : Unit → Program Call Call.Reply (Outcome Unit)}
      (hrest : w.rest i = .call (.release rule device) next) :
      Step ends w i (w.goesOn i (w.locks.leave i) (next ()))
  | endsCycle {next : Unit → Program Call Call.Reply (Outcome Unit)}
      (hrest : w.rest i = .call .endCycle next)
      (hends : ends w.locks = true) :
      Step ends w i (w.goesOn i w.locks.prune (next ()))

/-- What comes of tasks after any number of their moves in any order. -/
def Reaches (ends : Locks ι → Bool) : Crowd ι → Crowd ι → Prop :=
  Relation.ReflTransGen fun w w' => ∃ i, Step ends w i w'

/-- Every move keeps tasks apart, if no cycle drops a lock that somebody waits for. -/
theorem Step.sound
    (hstep : Step Locks.spares w i w')
    (h : w.locks.Sound) :
    w'.locks.Sound := by
  cases hstep with
  | other =>
      exact h
  | enters =>
      exact h.arrive i _
  | waits =>
      exact h.arrive i _
  | resumes _ hnext =>
      exact h.resume hnext
  | leaves =>
      exact h.leave i
  | endsCycle _ hends =>
      exact h.prune hends

theorem Reaches.sound
    (hreaches : Reaches Locks.spares w w')
    (h : w.locks.Sound) :
    w'.locks.Sound := by
  induction hreaches with
  | refl =>
      exact h
  | tail _ hstep ih =>
      obtain ⟨i, hstep⟩ := hstep
      exact hstep.sound ih

/-! ### Runs that are carried out -/

/-- The next move of a task, if it has one, with replies that are given. -/
def turn (ends : Locks ι → Bool) (reply : (c : Call) → c.Reply) (w : Crowd ι) (i : ι) : Crowd ι :=
  match w.rest i with
  | .done _ => w
  | .call (.acquire rule device) next =>
    if w.locks.place i = .outside then
      let locks := w.locks.arrive i (rule, device)
      if locks.isInside i then w.goesOn i locks (next ()) else { w with locks := locks }
    else if w.locks.isNext i then w.goesOn i (w.locks.resume i) (next ())
    else w
  | .call (.release _ _) next => w.goesOn i (w.locks.leave i) (next ())
  | .call .endCycle next => if ends w.locks then w.goesOn i w.locks.prune (next ()) else w
  | .call c next => w.goesOn i w.locks (next (reply c))

theorem reaches_turn
    (reply : (c : Call) → c.Reply) (w : Crowd ι) (i : ι) :
    Reaches ends w (turn ends reply w i) := by
  have hone {w' : Crowd ι} (hstep : Step ends w i w') : Reaches ends w w' := .single ⟨i, hstep⟩
  unfold turn
  cases hrest : w.rest i with
  | done =>
      exact .refl
  | call c next =>
      cases c with
      | acquire rule device =>
          dsimp only
          split_ifs with houtside hinside hnext
          · exact hone (.enters hrest houtside hinside)
          · exact hone (.waits hrest houtside (by simpa using hinside))
          · exact hone (.resumes hrest hnext)
          · exact .refl
      | release =>
          exact hone (.leaves hrest)
      | endCycle =>
          dsimp only
          split_ifs with hends
          · exact hone (.endsCycle hrest hends)
          · exact .refl
      | _ =>
          exact hone (.other hrest rfl _)

/-- A run in which tasks make moves in some order. -/
theorem reaches_turns
    (reply : (c : Call) → c.Reply) (order : List ι) (w : Crowd ι) :
    Reaches ends w (order.foldl (turn ends reply) w) := by
  induction order generalizing w with
  | nil =>
      exact .refl
  | cons i rest ih =>
      exact (reaches_turn reply w i).trans (ih _)

end Crowd

/-- At most one task is inside the section of a rule and a device: for any turns of a worker,
cycles and evaluations, whose calls come in any order, in every run in which no cycle ends while
somebody waits for a lock that nobody holds. -/
theorem locks_exclude
    {ι : Type} [DecidableEq ι] {tasks : ι → Task} {w : Crowd ι}
    (hreaches : Crowd.Reaches Locks.spares (.start tasks) w) :
    w.locks.Exclusive :=
  (hreaches.sound .start).exclusive

/-- Three cycles that evaluate one rule for one device, at a store that fails. -/
def doorCycles (_ : Fin 3) : Task :=
  .cycle {} false

def doorReply : (c : Call) → c.Reply
  | .tenants => .ok ["tenant-a"]
  | .enabledRules _ => .ok [doorRule]
  | .devicesOfType _ _ => .ok []
  | .telemetry _ _ => .ok [("door", .bool true)]
  | .store _ => .error .injected
  | .dispatch _ => {}
  | .now => .epoch
  | .freshId => "a1"
  | .count _ => ()
  | .isStopping => false
  | .acquire _ _ => ()
  | .release _ _ => ()
  | .together _ _ _ => ()
  | .endCycle => ()
  | .sleep _ => true

/-- Up to the lock and past it takes five moves, and so does the rest of a cycle. -/
def doorRun (ends : Locks (Fin 3) → Bool) : Crowd (Fin 3) :=
  [0, 0, 0, 0, 0, 1, 1, 1, 1, 1, 0, 0, 0, 0, 0, 2, 2, 2, 2, 2, 1].foldl
    (Crowd.turn ends doorReply) (.start doorCycles)

theorem locks_exclude_door :
    Crowd.Reaches Locks.spares (.start doorCycles) (doorRun Locks.spares) ∧
      (doorRun Locks.spares).locks.place 1 = .inside ("rule-1", "dev-1") 0 ∧
      (doorRun Locks.spares).locks.place 2 = .waiting ("rule-1", "dev-1") 0 ∧
      (doorRun Locks.spares).locks.Exclusive :=
  have hreaches : Crowd.Reaches Locks.spares (.start doorCycles) (doorRun Locks.spares) :=
    Crowd.reaches_turns ..
  ⟨hreaches, rfl, rfl, locks_exclude hreaches⟩

/-- The first cycle leaves the lock for which the second one waits, and ends; the third one makes
a new lock and takes it, and the second one goes on with the old one. -/
theorem locks_exclude_not :
    ∃ w, Crowd.Reaches (fun _ => true) (.start doorCycles) w ∧
      w.locks.place 1 = .inside ("rule-1", "dev-1") 0 ∧
      w.locks.place 2 = .inside ("rule-1", "dev-1") 1 ∧ ¬ w.locks.Exclusive := by
  have hsecond : (doorRun (fun _ => true)).locks.place 1 = .inside ("rule-1", "dev-1") 0 := by
    rfl
  have hthird : (doorRun (fun _ => true)).locks.place 2 = .inside ("rule-1", "dev-1") 1 := by
    rfl
  refine ⟨doorRun fun _ => true, Crowd.reaches_turns .., hsecond, hthird, fun hexclusive => ?_⟩
  exact absurd (hexclusive 1 2 _ 0 1 hsecond hthird) (by decide)

end TelemetryAlerts
