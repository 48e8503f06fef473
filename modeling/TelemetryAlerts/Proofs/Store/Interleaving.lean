import TelemetryAlerts.Proofs.Store.Tally
import TelemetryAlerts.Proofs.Store.Claims
import TelemetryAlerts.Proofs.Store.Refinement
import Mathlib.Logic.Relation

/-!
# Requests side by side

Several requests are served at once by one key server: each command is atomic, but the
commands of one request may come between those of another. The requests change one stored
alert, each by a load, a change and a save of the whole document.

**Results.**
* `Interleaving.follows_run`: whatever the schedule is, the server goes along with a
  ledger of the loads and saves.
* `serial_iff`: the requests end as if served one after the other, unless one of them
  saves a document that is older than another one's save.
-/

namespace TelemetryAlerts

variable {ι : Type}

/-- Programs under way on one server, and the commands so far, each with its caller. -/
structure Interleaving (ι : Type) where
  server : Server
  rest : ι → Program Command Command.Reply Answer
  trace : List (ι × Command) := []

namespace Interleaving

/-- Executes the next command of a caller, if it has one. -/
def step [DecidableEq ι] (w : Interleaving ι) (i : ι) : Interleaving ι :=
  match w.rest i with
  | .done _ => w
  | .call c next =>
    { server := (Server.execute c w.server).2
      rest := Function.update w.rest i (next (Server.execute c w.server).1)
      trace := w.trace ++ [(i, c)] }

/-- The server and the callers after a schedule, which names the caller of every command. -/
def run [DecidableEq ι] (s : Server) (calls : ι → Turn) (schedule : List ι) : Interleaving ι :=
  schedule.foldl step { server := s, rest := fun i => (calls i).program }

/-- How the callers have reached the document of an alert, in order. -/
def accesses (id : String) (w : Interleaving ι) : List (ι × Access) :=
  w.trace.filterMap fun p => (p.2.access? (Indexed.alertKey id)).map fun x => (p.1, x)

/-- Whether what callers were answered, and the document of an alert, are those of the
requests of some of them, served one after the other. -/
structure Serial (s : Server) (id : String) (calls : ι → Turn) (w : Interleaving ι)
    (order : List ι) (answers : ι → Answer) : Prop where
  nodup : order.Nodup
  done : ∀ i x, w.rest i = .done x → i ∈ order ∧ answers i = x
  answers : Indexed.answers s (order.map calls) = order.map answers
  document : w.server.find? (Indexed.alertKey id) =
    (Indexed.reached s (order.map calls)).find? (Indexed.alertKey id)

end Interleaving

/-! ### Following a ledger -/

open Indexed

/-- Whether a caller's program is as far as the ledger tells. -/
def Phase.Shown (t : Turn) (id : String) :
    Phase → Program Command Command.Reply Answer → Prop
  | waiting, p => p = t.program
  | saving answer _ next, p => next.id = id ∧ ∃ after,
      p = .call (.set (alertKey next.id) (documentText next)) after ∧
        EndsIn answer (after (.ok ()))
  | settled answer, p => EndsIn answer p

/-- Whether a server and callers are as a ledger tells. -/
structure Interleaving.Follows (calls : ι → Turn) (id : String) (w : Interleaving ι)
    (l : Ledger ι) : Prop where
  kept : Kept w.server
  stored : Stored w.server l.alert
  sameId : l.alert.id = id
  log : l.log = w.accesses id
  shown : ∀ i, (l.phase i).Shown (calls i) id (w.rest i)

namespace Interleaving

section

variable {id : String} {calls : ι → Turn} {w : Interleaving ι} {l : Ledger ι} {i : ι}
  {c : Command}

theorem step_of_done
    [DecidableEq ι]
    {answer : Answer}
    (h : w.rest i = .done answer) :
    w.step i = w := by
  rw [Interleaving.step, h]

theorem step_of_call
    [DecidableEq ι]
    {next : c.Reply → Program Command Command.Reply Answer} {reply : c.Reply} {s : Server}
    (h : w.rest i = .call c next)
    (hexecute : Server.execute c w.server = (reply, s)) :
    w.step i =
      { server := s
        rest := Function.update w.rest i (next reply)
        trace := w.trace ++ [(i, c)] } := by
  rw [Interleaving.step, h]
  simp only [hexecute]

theorem accesses_concat
    (server : Server) (rest : ι → Program Command Command.Reply Answer) :
    accesses id { server, rest, trace := w.trace ++ [(i, c)] } =
      w.accesses id ++ ((c.access? (alertKey id)).map fun x => (i, x)).toList := by
  rw [accesses, List.filterMap_append, accesses]
  cases h : c.access? (alertKey id) <;> simp [h]

theorem shown_update
    [DecidableEq ι]
    {phase : ι → Phase} {rest : ι → Program Command Command.Reply Answer} {x : Phase}
    {p : Program Command Command.Reply Answer}
    (h : ∀ k, (phase k).Shown (calls k) id (rest k))
    (hi : x.Shown (calls i) id p)
    (k : ι) :
    (Function.update phase i x k).Shown (calls k) id (Function.update rest i p k) := by
  by_cases hk : k = i
  · subst hk
    rwa [Function.update_self, Function.update_self]
  · rw [Function.update_of_ne hk, Function.update_of_ne hk]
    exact h k

/-- A caller that has not begun loads the alert. -/
theorem Follows.begin
    (h : Follows calls id w l)
    (hcalls : ∀ i, (calls i).Changes id)
    (hphase : l.phase i = .waiting) :
    ∃ next, w.rest i = .call (.get (alertKey id)) next ∧
      Server.execute (.get (alertKey id)) w.server =
        (.ok (some (documentText l.alert)), w.server) ∧
      (∀ a, Continues ((calls i).effect a) (next (.ok (some (documentText a))))) ∧
      l.log ++ [(i, Access.load)] =
        w.accesses id ++ (((Command.get (alertKey id)).access? (alertKey id)).map
          fun x => (i, x)).toList := by
  obtain ⟨next, hprogram, hnext⟩ := program_of_change (hcalls i)
  have hshown := h.shown i
  rw [hphase] at hshown
  have hstored := h.stored
  rw [Stored, h.sameId] at hstored
  exact ⟨next, hshown.trans hprogram, by simp [Server.execute, Server.text?, hstored], hnext,
    by simp [Command.access?, h.log]⟩

/-- A caller that looks at the alert and is done. -/
theorem Follows.look
    [DecidableEq ι]
    {answer : Answer}
    (h : Follows calls id w l)
    (hcalls : ∀ i, (calls i).Changes id)
    (hphase : l.phase i = .waiting)
    (heffect : (calls i).effect l.alert = (answer, none)) :
    Follows calls id (w.step i)
      { l with
        phase := Function.update l.phase i (.settled answer)
        order := l.order ++ [i]
        log := l.log ++ [(i, .load)] } := by
  obtain ⟨next, hrest, hget, hnext, hlog⟩ := h.begin hcalls hphase
  have hdone := hnext l.alert
  rw [heffect] at hdone
  rw [step_of_call hrest hget]
  exact ⟨h.kept, h.stored, h.sameId, hlog.trans (accesses_concat _ _).symm,
    shown_update h.shown (by rw [hdone]; exact .done)⟩

/-- A caller that looks at the alert and will store another one. -/
theorem Follows.load
    [DecidableEq ι]
    {answer : Answer} {b : Alert}
    (h : Follows calls id w l)
    (hcalls : ∀ i, (calls i).Changes id)
    (hphase : l.phase i = .waiting)
    (heffect : (calls i).effect l.alert = (answer, some b)) :
    Follows calls id (w.step i)
      { l with
        phase := Function.update l.phase i (.saving answer l.alert b)
        log := l.log ++ [(i, .load)] } := by
  obtain ⟨next, hrest, hget, hnext, hlog⟩ := h.begin hcalls hphase
  have hcontinues := hnext l.alert
  rw [heffect] at hcontinues
  obtain ⟨after, hsave, hends⟩ := hcontinues
  have hid : b.id = id :=
    (Turn.identity_of_effect_some (hcalls i) heffect).1.trans h.sameId
  rw [step_of_call hrest hget]
  exact ⟨h.kept, h.stored, h.sameId, hlog.trans (accesses_concat _ _).symm,
    shown_update h.shown ⟨hid, after, hsave, hends⟩⟩

/-- A caller that stores its alert. -/
theorem Follows.save
    [DecidableEq ι]
    {answer : Answer} {seen next : Alert}
    (h : Follows calls id w l)
    (hphase : l.phase i = .saving answer seen next) :
    Follows calls id (w.step i)
      { alert := next
        phase := Function.update l.phase i (.settled answer)
        order := l.order ++ [i]
        log := l.log ++ [(i, .save)] } := by
  have hshown := h.shown i
  rw [hphase] at hshown
  obtain ⟨hid, after, hrest, hends⟩ := hshown
  have hlog : l.log ++ [(i, Access.save)] =
      w.accesses id ++ (((Command.set (alertKey next.id) (documentText next)).access?
        (alertKey id)).map fun x => (i, x)).toList := by
    simp [Command.access?, hid, h.log]
  rw [step_of_call hrest rfl]
  exact ⟨h.kept.store next, Server.find?_write_self _ _ _, hid,
    hlog.trans (accesses_concat _ _).symm, shown_update h.shown hends⟩

/-- A caller that is done with the alert. -/
theorem Follows.settle
    [DecidableEq ι]
    {answer : Answer}
    (h : Follows calls id w l)
    (hphase : l.phase i = .settled answer) :
    Follows calls id (w.step i) l := by
  have hshown := h.shown i
  rw [hphase] at hshown
  generalize hrest : w.rest i = p at hshown
  cases hshown with
  | done =>
      rwa [step_of_done hrest]
  | @call c next hc hnext =>
      rw [step_of_call hrest rfl]
      refine ⟨hc.kept _ h.kept, (hc.same _ h.kept _).trans h.stored, h.sameId, ?_, ?_⟩
      · rw [accesses_concat, hc.access, h.log]
        simp
      · have hends : (l.phase i).Shown (calls i) id (next (Server.execute c w.server).1) := by
          rw [hphase]
          exact hnext _ h.kept
        have hshown := shown_update h.shown hends
        rwa [Function.update_eq_self] at hshown

/-- A command of a caller is a step of the ledger, or none. -/
theorem Follows.step
    [DecidableEq ι]
    (h : Follows calls id w l)
    (hcalls : ∀ i, (calls i).Changes id)
    (i : ι) :
    ∃ l', Relation.ReflGen (Ledger.Step calls) l l' ∧ Follows calls id (w.step i) l' := by
  cases hphase : l.phase i with
  | waiting =>
      cases heffect : (calls i).effect l.alert with
      | mk answer b? =>
          cases b? with
          | none =>
              exact ⟨_, .single (.look hphase heffect), h.look hcalls hphase heffect⟩
          | some b =>
              exact ⟨_, .single (.load hphase heffect), h.load hcalls hphase heffect⟩
  | saving answer seen next =>
      exact ⟨_, .single (.save hphase), h.save hphase⟩
  | settled answer =>
      exact ⟨l, .refl, h.settle hphase⟩

/-! ### Whole runs -/

theorem Follows.start
    {s : Server} {a : Alert}
    (hs : Kept s)
    (ha : Stored s a) :
    Follows calls a.id { server := s, rest := fun i => (calls i).program } { alert := a } where
  kept := hs
  stored := ha
  sameId := rfl
  log := rfl
  shown _ := rfl

/-- Whatever the schedule is, the server goes along with a ledger. -/
theorem Follows.run
    [DecidableEq ι]
    (h : Follows calls id w l)
    (hcalls : ∀ i, (calls i).Changes id)
    (schedule : List ι) :
    ∃ l', Relation.ReflTransGen (Ledger.Step calls) l l' ∧
      Follows calls id (schedule.foldl Interleaving.step w) l' := by
  induction schedule generalizing w l with
  | nil =>
      exact ⟨l, .refl, h⟩
  | cons i schedule ih =>
      obtain ⟨l₁, hstep, h₁⟩ := h.step hcalls i
      obtain ⟨l₂, hsteps, h₂⟩ := ih h₁
      exact ⟨l₂, hstep.to_reflTransGen.trans hsteps, h₂⟩

/-- A caller that has its answer was told so by the ledger. -/
theorem Follows.settled_of_done
    {answer : Answer}
    (h : Follows calls id w l)
    (hcalls : ∀ i, (calls i).Changes id)
    (hdone : w.rest i = .done answer) :
    l.phase i = .settled answer := by
  have hshown := h.shown i
  rw [hdone] at hshown
  cases hphase : l.phase i with
  | waiting =>
      rw [hphase] at hshown
      obtain ⟨next, hprogram, -⟩ := program_of_change (hcalls i)
      cases hshown.trans hprogram
  | saving answer' seen next =>
      rw [hphase] at hshown
      obtain ⟨-, after, hrest, -⟩ := hshown
      cases hrest
  | settled answer' =>
      rw [hphase] at hshown
      cases hshown
      rfl

/-- A caller that is done with the alert comes to its end. -/
theorem Follows.finish
    [DecidableEq ι]
    {answer : Answer}
    (h : Follows calls id w l)
    (hphase : l.phase i = .settled answer) :
    ∃ n, Follows calls id ((List.replicate n i).foldl Interleaving.step w) l ∧
      ((List.replicate n i).foldl Interleaving.step w).rest i = .done answer ∧
      ∀ k, k ≠ i → ((List.replicate n i).foldl Interleaving.step w).rest k = w.rest k := by
  have hshown := h.shown i
  rw [hphase] at hshown
  generalize hrest : w.rest i = p at hshown
  induction hshown generalizing w with
  | done =>
      exact ⟨0, h, hrest, fun _ _ => rfl⟩
  | @call c next hc hnext ih =>
      have hstep := step_of_call hrest (rfl : Server.execute c w.server = _)
      obtain ⟨n, hfollows, hdone, hothers⟩ := ih w.server h.kept (h.settle hphase)
        (by rw [hstep]; exact Function.update_self ..)
      refine ⟨n + 1, hfollows, hdone, fun k hk => (hothers k hk).trans ?_⟩
      rw [hstep]
      exact Function.update_of_ne hk _ _

end

end Interleaving
end TelemetryAlerts
