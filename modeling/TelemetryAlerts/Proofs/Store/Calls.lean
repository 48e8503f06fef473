import TelemetryAlerts.Proofs.Store.Answer
import TelemetryAlerts.Proofs.Store.Kept

/-!
# Changes as programs of commands

A request for a change of an alert is a program of commands: it loads the alert's
document, may save another one in its place, and then leaves the documents alone. What it
saves and answers is decided when it has loaded.

**Results.**
* `program_of_change`: the commands of a request for a change.
* `EndsIn.run`: what the commands after a save do.
-/

namespace TelemetryAlerts

/-- What a change makes of a stored alert: an alert to store in its place, nothing if it
is another tenant's or may not be changed, or a failure if it cannot be read. -/
def Change.result (c : Change) (a : Alert) : Outcome (Option Alert) :=
  (fun b => if b.tenant = c.tenant ∧ c.may b = true then some (c.apply b) else none) <$>
    a.reading

theorem Change.result_eq
    (c : Change) (a : Alert) :
    c.result a =
      if a.isLegible = true then
        .ok (if a.tenant = c.tenant ∧ c.may a = true then some (c.apply a).readBack else none)
      else .error (.kind .unusableValue) := by
  rw [Change.result, Alert.reading]
  split_ifs with hlegible hmade
  · change Except.ok (if a.tenant = c.tenant ∧ c.may a.readBack = true then
      some (c.apply a.readBack) else none) = _
    rw [c.may_readBack, if_pos hmade, c.apply_readBack]
  · change Except.ok (if a.tenant = c.tenant ∧ c.may a.readBack = true then
      some (c.apply a.readBack) else none) = _
    rw [c.may_readBack, if_neg hmade]
  · rfl

/-- The answer to a request for a change that was made, or was not. -/
def Request.noted (r : Request) (made : Bool) : Answer :=
  match r with
  | .acknowledge _ _ _ _ => .flag made
  | .resolve _ _ _ => .flag made
  | _ => .done

/-- What a request for a change answers, and which alert it stores, given the alert that
it finds. -/
def Change.effect (c : Change) (r : Request) (a : Alert) : Answer × Option Alert :=
  match c.result a with
  | .error e => (.failure e, none)
  | .ok none => (r.noted false, none)
  | .ok (some b) => (r.noted true, some b)

/-- The same for the request of a turn; turns that change no alert do not count. -/
def Turn.effect (t : Turn) (a : Alert) : Answer × Option Alert :=
  match t.request.change? t.now with
  | some c => c.effect t.request a
  | none => (.done, none)

/-- Whether a turn changes the alert with an id, if any. -/
def Turn.Changes (t : Turn) (id : String) : Prop :=
  ∃ c, t.request.change? t.now = some c ∧ c.id = id

section

variable {t : Turn} {c : Change} {a b : Alert} {answer : Answer}

/-- What is stored is the changed alert, of the tenant and where the change may be made. -/
theorem Turn.effect_eq_some
    (hc : t.request.change? t.now = some c)
    (h : t.effect a = (answer, some b)) :
    a.tenant = c.tenant ∧ c.may a = true ∧ b = (c.apply a).readBack ∧
      answer = t.request.noted true := by
  rw [Turn.effect, hc] at h
  simp only [Change.effect, Change.result_eq] at h
  split_ifs at h with hlegible hmade
  · obtain ⟨hanswer, hb⟩ := Prod.mk.inj h
    exact ⟨hmade.1, hmade.2, (Option.some.inj hb).symm, hanswer.symm⟩
  · cases h
  · cases h

theorem Turn.effect_eq_none
    (hc : t.request.change? t.now = some c)
    (h : t.effect a = (answer, none)) :
    (∃ e, answer = .failure e) ∨
      answer = t.request.noted false ∧ ¬ (a.tenant = c.tenant ∧ c.may a = true) := by
  rw [Turn.effect, hc] at h
  simp only [Change.effect, Change.result_eq] at h
  split_ifs at h with hlegible hmade
  · cases h
  · exact Or.inr ⟨(Prod.mk.inj h).1.symm, hmade⟩
  · exact Or.inl ⟨_, (Prod.mk.inj h).1.symm⟩

end

/-- The commands of a request, up to its answer. -/
def Turn.program (t : Turn) : Program Command Command.Reply Answer :=
  (ExceptT.run (Indexed.serve t.now t.request)).bind fun o => .done (t.request.answer o)

/-- How a command reaches the document of an alert. -/
inductive Access where
  | load
  | save
deriving Repr, DecidableEq

/-- How a command reaches the text under a key. -/
def Command.access? (key : String) : Command → Option Access
  | .get k => if k = key then some .load else none
  | .getAll keys => if key ∈ keys then some .load else none
  | .set k _ => if k = key then some .save else none
  | .setAndIndex k _ _ _ => if k = key then some .save else none
  | _ => none

namespace Indexed

open ServerAction

/-! ### Commands beside the documents -/

/-- Whether a command leaves the documents of alerts alone. -/
structure Beside (c : Command) : Prop where
  kept : ∀ s, Kept s → Kept (Server.execute c s).2
  same : ∀ s, Kept s → ∀ id,
    (Server.execute c s).2.find? (alertKey id) = s.find? (alertKey id)
  access : ∀ id, c.access? (alertKey id) = none

/-- Whether a program leaves the documents of alerts alone and comes to an answer. -/
inductive EndsIn (answer : Answer) : Program Command Command.Reply Answer → Prop where
  | done : EndsIn answer (.done answer)
  | call {c : Command} {next : c.Reply → Program Command Command.Reply Answer}
      (hc : Beside c)
      (hnext : ∀ s, Kept s → EndsIn answer (next (Server.execute c s).1)) :
      EndsIn answer (.call c next)

theorem beside_of_unchanged
    {c : Command}
    (hsame : ∀ s, (Server.execute c s).2 = s)
    (haccess : ∀ id, c.access? (alertKey id) = none) :
    Beside c where
  kept s hs := by rwa [hsame]
  same s _ _ := by rw [hsame]
  access := haccess

theorem beside_removeMembers
    {key : String}
    (hkey : IsIndex key)
    (id : String) :
    Beside (.removeMembers key [id]) where
  kept s hs := by
    obtain ⟨s', hrun, hkept, -⟩ := hs.dropMembers hkey id
    rwa [hrun]
  same s hs other := by
    obtain ⟨s', hrun, -, hsame⟩ := hs.dropMembers hkey id
    rw [hrun]
    exact hsame _ (hkey.ne_alertKey other).symm
  access _ := rfl

theorem beside_deleteIfUnchanged
    (rule device : String) (since : Nat) :
    Beside (.deleteIfUnchanged (claimKey rule device) since) where
  kept s hs := by
    simp only [Server.execute]
    split_ifs
    · exact hs
    · exact hs.changeClaim (by simp) fun key hkey => Server.find?_erase_of_ne s hkey
  same s hs id := by
    simp only [Server.execute]
    split_ifs
    · rfl
    · exact Server.find?_erase_of_ne s (ne_of_keyWord (by simp))
  access _ := rfl

theorem beside_getClaim
    (rule device : String) :
    Beside (.get (claimKey rule device)) :=
  beside_of_unchanged (fun _ => rfl) fun id => by
    have hne : claimKey rule device ≠ alertKey id := ne_of_keyWord (by simp)
    simp [Command.access?, hne]

/-- Giving up an index entry and a claim leaves the documents of alerts alone, and always
succeeds. -/
theorem close_endsIn
    {β : Type}
    (a : Alert) (x : β) (g : Outcome β → Answer) :
    EndsIn (g (.ok x))
      ((ExceptT.run (close a >>= fun _ => pure x)).bind fun o => .done (g o)) := by
  have hindex : IsIndex (openKey a.tenant a.device) := by simp [IsIndex]
  refine .call (beside_removeMembers hindex a.id) fun s hs => ?_
  obtain ⟨s', hrun, -⟩ := hs.dropMembers hindex a.id
  rw [hrun]
  refine .call (beside_of_unchanged (fun _ => rfl) fun _ => rfl) fun s hs => ?_
  refine .call (beside_getClaim a.rule a.device) fun s hs => ?_
  obtain ⟨text?, htext⟩ := hs.text_claimKey a.rule a.device
  have hget : (Server.execute (.get (claimKey a.rule a.device)) s).1 = .ok text? := htext
  rw [hget]
  by_cases hheld : text? = some a.id
  · simp only [Program.bind, ExceptT.bindCont, if_pos hheld]
    refine .call (beside_deleteIfUnchanged a.rule a.device _) fun s hs => ?_
    simp only [Server.execute]
    split_ifs <;> exact .done
  · simp only [Program.bind, ExceptT.bindCont, if_neg hheld]
    exact .call (beside_of_unchanged (fun _ => rfl) fun _ => rfl) fun s hs => .done

/-! ### The commands of a change -/

/-- What a change does with the alert that was loaded. -/
def change
    (tenant : String) (may : Alert → Bool) (apply : Alert → Alert) :
    Option Alert → ServerAction (Option Alert)
  | none => pure none
  | some a =>
    if a.tenant = tenant ∧ may a = true then do
      save (apply a)
      pure (some (apply a))
    else pure none

theorem update_eq
    (now : Moment) (id tenant : String) (may : Alert → Bool) (apply : Alert → Alert) :
    update now id tenant may apply = load now id >>= change tenant may apply := by
  rw [update, loadFor, bind_assoc]
  congr 1
  funext a?
  rw [pure_bind]
  cases a? with
  | none =>
      rfl
  | some a =>
      rw [Option.filter_some, change]
      by_cases htenant : a.tenant = tenant
      · by_cases hmay : may a = true
        · simp only [htenant, beq_self_eq_true, if_true, hmay, and_self]
        · simp only [htenant, beq_self_eq_true, if_true, hmay]
          rfl
      · have hother : ¬ (a.tenant == tenant) = true := by simpa using htenant
        simp only [if_neg hother, htenant, false_and, if_false]

/-- A change loads the alert, and saves what it makes of it. -/
theorem update_program
    {β : Type}
    (now : Moment) (c : Change) (f : Option Alert → ServerAction β) (g : Outcome β → Answer) :
    ∃ next, (ExceptT.run (update now c.id c.tenant c.may c.apply >>= f)).bind
        (fun o => .done (g o)) = .call (.get (alertKey c.id)) next ∧
      ∀ a, next (.ok (some (documentText a))) =
        match c.result a with
        | .error e => .done (g (.error e))
        | .ok none => (ExceptT.run (f none)).bind fun o => .done (g o)
        | .ok (some b) => .call (.set (alertKey b.id) (documentText b)) fun
          | .ok _ => (ExceptT.run (f (some b))).bind fun o => .done (g o)
          | .error e => .done (g (.error e)) := by
  rw [update_eq, load_eq, bind_assoc, bind_assoc]
  refine ⟨_, rfl, fun a => ?_⟩
  change Program.bind (ExceptT.run (ofStored now (some (documentText a)) >>= _)) _ = _
  rw [ofStored_documentText]
  cases hread : a.reading with
  | error e =>
      rw [Change.result, hread]
      rfl
  | ok b =>
      have hresult : c.result a =
          .ok (if b.tenant = c.tenant ∧ c.may b = true then some (c.apply b) else none) := by
        rw [Change.result, hread]
        rfl
      change Program.bind (ExceptT.run (change c.tenant c.may c.apply (some b) >>= f)) _ = _
      rw [change, hresult]
      by_cases hmay : b.tenant = c.tenant ∧ c.may b = true
      · simp only [if_pos hmay, bind_assoc]
        refine congrArg (Program.call _) (funext fun r => ?_)
        cases r <;> rfl
      · simp only [if_neg hmay]
        rfl

/-- What is left of a program after the document of an alert was loaded: nothing but the
answer, or a command to save another alert, after which the documents are left alone. -/
def Continues (effect : Answer × Option Alert)
    (p : Program Command Command.Reply Answer) : Prop :=
  match effect with
  | (answer, none) => p = .done answer
  | (answer, some b) => ∃ after,
      p = .call (.set (alertKey b.id) (documentText b)) after ∧ EndsIn answer (after (.ok ()))

theorem continues_of_update
    {β : Type}
    (t : Turn) (c : Change) (f : Option Alert → ServerAction β) (g : Outcome β → Answer)
    (herror : ∀ e, g (.error e) = .failure e)
    (hnone : (ExceptT.run (f none)).bind (fun o => .done (g o)) = .done (t.request.noted false))
    (hsome : ∀ b, EndsIn (t.request.noted true)
      ((ExceptT.run (f (some b))).bind fun o => .done (g o))) :
    ∃ next, (ExceptT.run (update t.now c.id c.tenant c.may c.apply >>= f)).bind
        (fun o => .done (g o)) = .call (.get (alertKey c.id)) next ∧
      ∀ a, Continues (c.effect t.request a) (next (.ok (some (documentText a)))) := by
  obtain ⟨next, hprogram, hnext⟩ := update_program t.now c f g
  refine ⟨next, hprogram, fun a => ?_⟩
  rw [hnext, Change.effect]
  rcases c.result a with e | _ | b
  · exact congrArg Program.done (herror e)
  · exact hnone
  · exact ⟨_, rfl, hsome b⟩

/-- What a request to end an alert does after the alert was saved. -/
def closing : Option Alert → ServerAction Bool
  | none => pure false
  | some a => close a >>= fun _ => pure true

/-- A request that changes an alert loads it, and goes on as its effect says. -/
theorem program_of_change
    {t : Turn} {id : String}
    (ht : t.Changes id) :
    ∃ next, t.program = .call (.get (alertKey id)) next ∧
      ∀ a, Continues (t.effect a) (next (.ok (some (documentText a)))) := by
  obtain ⟨now, r, faults⟩ := t
  obtain ⟨c, hc, rfl⟩ := ht
  cases r with
  | acknowledge id tenant who? notes? =>
      cases hc
      exact continues_of_update ⟨now, .acknowledge id tenant who? notes?, faults⟩
        (.acknowledge now id tenant who? notes?) (fun a? => pure a?.isSome)
        (Request.answer (.acknowledge id tenant who? notes?)) (fun _ => rfl) rfl fun _ => .done
  | resolve id tenant reason? =>
      cases hc
      exact continues_of_update ⟨now, .resolve id tenant reason?, faults⟩
        (.resolve now id tenant reason?)
        closing
        (Request.answer (.resolve id tenant reason?)) (fun _ => rfl) rfl
        fun b => close_endsIn b true (Request.answer (.resolve id tenant reason?))
  | recordNotifications id tenant count =>
      cases hc
      exact continues_of_update ⟨now, .recordNotifications id tenant count, faults⟩
        (.recordNotifications now id tenant count) (fun _ => pure ())
        (Request.answer (.recordNotifications id tenant count)) (fun _ => rfl) rfl fun _ => .done
  | markEscalated id tenant at_ =>
      cases hc
      exact continues_of_update ⟨now, .markEscalated id tenant at_, faults⟩
        (.markEscalated id tenant at_) (fun _ => pure ())
        (Request.answer (.markEscalated id tenant at_)) (fun _ => rfl) rfl fun _ => .done
  | _ =>
      cases hc

/-! ### Running the commands -/

variable {s : Server} {answer : Answer} {p : Program Command Command.Reply Answer}

theorem EndsIn.run
    (h : EndsIn answer p)
    (hs : Kept s) :
    ∃ s', Program.run Server.execute p s = (answer, s') ∧ Kept s' ∧
      ∀ id, s'.find? (alertKey id) = s.find? (alertKey id) := by
  induction h generalizing s with
  | done =>
      exact ⟨s, rfl, hs, fun _ => rfl⟩
  | call hc hnext ih =>
      obtain ⟨s', hrun, hkept, hsame⟩ := ih s hs (hc.kept s hs)
      exact ⟨s', hrun, hkept, fun id => (hsame id).trans (hc.same s hs id)⟩

theorem run_program
    (t : Turn) (s : Server) :
    Program.run Server.execute t.program s =
      (t.request.answer ((serve t.now t.request).runOn s).1,
        ((serve t.now t.request).runOn s).2) :=
  Program.run_bind Server.execute _ _ s

/-- Served alone, a request for a change answers and stores what its effect says. -/
theorem run_change
    {t : Turn} {a : Alert}
    (ht : t.Changes a.id)
    (hs : Kept s)
    (ha : Stored s a) :
    t.request.answer ((serve t.now t.request).runOn s).1 = (t.effect a).1 ∧
      Kept ((serve t.now t.request).runOn s).2 ∧
      Stored ((serve t.now t.request).runOn s).2 ((t.effect a).2.getD a) := by
  obtain ⟨next, hprogram, hnext⟩ := program_of_change ht
  have hget : Server.execute (.get (alertKey a.id)) s = (.ok (some (documentText a)), s) := by
    rw [Stored] at ha
    simp [Server.execute, Server.text?, ha]
  have hrun := run_program t s
  rw [hprogram] at hrun
  simp only [Program.run, hget] at hrun
  have hcontinues := hnext a
  generalize t.effect a = effect at hcontinues ⊢
  obtain ⟨answer, b?⟩ := effect
  cases b? with
  | none =>
      have hdone : next (.ok (some (documentText a))) = .done answer := hcontinues
      rw [hdone] at hrun
      obtain ⟨hanswer, hserver⟩ := Prod.mk.inj hrun
      rw [← hanswer, ← hserver]
      exact ⟨rfl, hs, ha⟩
  | some b =>
      obtain ⟨after, hsave, hafter⟩ := hcontinues
      obtain ⟨s', hend, hkept, hsame⟩ := hafter.run (hs.store b)
      rw [hsave] at hrun
      obtain ⟨hanswer, hserver⟩ := Prod.mk.inj (hend.symm.trans hrun)
      rw [← hanswer, ← hserver]
      refine ⟨rfl, hkept, ?_⟩
      rw [Option.getD_some, Stored, hsame]
      exact Server.find?_write_self _ _ _

end Indexed
end TelemetryAlerts
