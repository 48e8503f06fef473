import TelemetryAlerts.Proofs.Worker.Guard
import TelemetryAlerts.Proofs.Worker.Journal

/-!
# The course of some alerts

Some of a task's alerts are watched over a cycle: those of one rule and device, or those of one
tenant. Each evaluation of the task either is about them or leaves them alone. So what becomes of
them is told by the notes that are about them alone, whatever else the task evaluates, and
whatever other tasks do meanwhile.

**Results.**
* `Lens.abides_noteTenants`: what is watched takes the course that is noted.
* `Setting.Cycle.follows`: so it is when tenants are evaluated side by side.
-/

namespace TelemetryAlerts

open Program (Abides Safe)

section

variable {σ ι : Type}

/-- What an evaluation of a rule for a device makes of some alerts: nothing without telemetry. -/
def Heeds
    (e : Setting σ) (again : Bool) (r : Rule) (device : String)
    (lists : List Alert → List Alert → Prop) (snapshot : Snapshot) (p : List Alert)
    (o : Outcome Transition) (p' : List Alert) : Prop :=
  snapshot = [] ∧ o = .ok .none ∧ p' = p ∨
    snapshot ≠ [] ∧ Settles e r device snapshot again lists p o p'

/-- What evaluations that are about some alerts make of them, one after the other. -/
inductive Course
    (e : Setting σ) (again : Bool) (here : Rule → String → Prop)
    (lists : Rule → String → List Alert → List Alert → Prop) :
    List Alert → Journal → List Alert → Prop where
  | done {p : List Alert} :
      Course e again here lists p [] p
  | note {p p' p'' : List Alert} {r : Rule} {device : String} {reply : Outcome Snapshot}
      {o : Outcome Transition} {js : Journal}
      (hhere : here r device)
      (horderly : Memory.Orderly ⟨p⟩)
      (hheeds : Heeds e again r device (lists r device) (Worker.snapshotOf reply) p o p')
      (hrest : Course e again here lists p' js p'') :
      Course e again here lists p (.evaluated r device reply o :: js) p''

/-- An evaluation comes after others. -/
theorem Course.concat
    {e : Setting σ} {again : Bool} {here : Rule → String → Prop}
    {lists : Rule → String → List Alert → List Alert → Prop} {p p' p'' : List Alert}
    {js : Journal} {r : Rule} {device : String} {reply : Outcome Snapshot}
    {o : Outcome Transition}
    (hcourse : Course e again here lists p js p')
    (hhere : here r device)
    (horderly : Memory.Orderly ⟨p'⟩)
    (hheeds : Heeds e again r device (lists r device) (Worker.snapshotOf reply) p' o p'') :
    Course e again here lists p (js ++ [.evaluated r device reply o]) p'' := by
  induction hcourse with
  | done =>
      exact .note hhere horderly hheeds .done
  | note hhere' horderly' hheeds' _ ih =>
      exact .note hhere' horderly' hheeds' (ih horderly hheeds)

/-- Some of a task's alerts are watched while it evaluates tenants: each evaluation is about them,
or it leaves them alone. -/
structure Lens
    (e : Setting σ) (d : Accord ι) (i : ι) (tenants : List String) (mine : Alert → Bool)
    (here : Rule → String → Bool) : Prop where
  upheld : d.Upheld
  free : ¬ d.once
  tells : TellsOrigin mine
  owns : ∀ a, mine a = true → d.owns i a
  admits : ∀ r device snapshot id now, e.replies (.telemetry device r.tenant) (.ok snapshot) →
    e.keeping.admits (Worker.raisedAlert id r device snapshot now)
  scope : ∀ r device, e.Visits tenants r device → here r device = true →
    Scope e d i mine r device
  patrol : ∀ r device, e.Visits tenants r device → here r device = false →
    Patrol e d i mine r device

namespace Lens

variable {e : Setting σ} {d : Accord ι} {i : ι} {tenants : List String} {mine : Alert → Bool}
  {here : Rule → String → Bool} {again : Bool} {p : List Alert} {js : Journal} {n : Note}
  {x y : Clocked σ ι × List Alert}

/-- What is known of the watched alerts, after some notes: they took the course that is noted,
unless a request failed. -/
def Follows
    (e : Setting σ) (d : Accord ι) (tenants : List String) (mine : Alert → Bool)
    (here : Rule → String → Bool) (again : Bool) (p : List Alert) (js : Journal)
    (x : Clocked σ ι × List Alert) : Prop :=
  Good e d x ∧ ((e.faulty → ∀ n ∈ js, n.isAt here = true → n.isInjected = false) →
    Course e again (fun r device => e.Visits tenants r device ∧ here r device = true)
      (fun r device => Lists e d mine r device) p (js.filter (Note.isAt here)) (x.2.filter mine))

/-- What is not about the watched alerts need not be told. -/
theorem Follows.other
    (h : Follows e d tenants mine here again p js x)
    (hy : Good e d y)
    (hlens : y.2.filter mine = x.2.filter mine)
    (hn : n.isAt here = false) :
    Follows e d tenants mine here again p (js ++ [n]) y := by
  refine ⟨hy, fun hclean => ?_⟩
  rw [List.filter_append, List.filter_cons_of_neg (by simp [hn]), List.filter_nil,
    List.append_nil, hlens]
  exact h.2 fun hfaulty n' hn' => hclean hfaulty n' (List.mem_append_left _ hn')

/-- The watched alerts are orderly, as all alerts are. -/
theorem orderly_filter
    (hx : Good e d x) :
    Memory.Orderly ⟨x.2.filter mine⟩ where
  ids := (e.keeping.nodup hx.shown).sublist (List.filter_sublist.map _)
  claims a ha b hb hopena hopenb hrule hdevice := by
    refine e.keeping.claims hx.shown (List.mem_filter.mp ha).1 (List.mem_filter.mp hb).1 hopena
      hopenb ?_
    rw [hrule, hdevice]
    exact e.keeping.alike_refl _ _

/-- An evaluation that is about the watched alerts is noted. -/
theorem Follows.note
    {r : Rule} {device : String} {reply : Outcome Snapshot} {o : Outcome Transition}
    (h : Follows e d tenants mine here again p js x)
    (hx : Good e d x)
    (hy : Good e d y)
    (hvisits : e.Visits tenants r device)
    (hhere : here r device = true)
    (hheeds : Heeds e again r device (Lists e d mine r device) (Worker.snapshotOf reply)
        (x.2.filter mine) o (y.2.filter mine) ∨
      e.faulty ∧ o = .error .injected) :
    Follows e d tenants mine here again p (js ++ [.evaluated r device reply o]) y := by
  refine ⟨hy, fun hclean => ?_⟩
  have hat : Note.isAt here (.evaluated r device reply o) = true := hhere
  rw [List.filter_append, List.filter_cons_of_pos hat, List.filter_nil]
  rcases hheeds with hheeds | ⟨hfaulty, rfl⟩
  · exact (h.2 fun hfaulty n hn => hclean hfaulty n (List.mem_append_left _ hn)).concat
      ⟨hvisits, hhere⟩ (orderly_filter hx) hheeds
  · have hinjected := hclean hfaulty (.evaluated r device reply (.error .injected)) (by simp) hhere
    cases hinjected

variable [DecidableEq ι] (h : Lens e d i tenants mine here)
include h

theorem stable :
    (terms e d i).Stable (Follows e d tenants mine here again p js) := by
  rintro x y hrely ⟨hgood, hcourse⟩
  obtain ⟨hgood', hleaves⟩ := hrely hgood
  refine ⟨hgood', fun hclean => ?_⟩
  rw [hleaves.territory mine h.tells fun a ha => Or.inl (h.owns a ha)]
  exact hcourse hclean

theorem plain
    {c : Call} {reply : c.Reply}
    (hc : c.isPlain = true)
    (hx : Follows e d tenants mine here again p js x)
    (hcall : e.Unfolds False i c x reply y) :
    (terms e d i).guarantee x y ∧ Follows e d tenants mine here again p js y := by
  obtain ⟨hguarantee, -, -, hlist⟩ := guarantee_of_plain h.upheld hcall hc
  refine ⟨hguarantee, (hguarantee hx.1).1.1, ?_⟩
  rw [hlist]
  exact hx.2

theorem device
    {r : Rule} {device : String} {reply : Outcome Snapshot}
    (hvisits : e.Visits tenants r device)
    (hreply : e.replies (.telemetry device r.tenant) reply) :
    Safe (e.Unfolds False i) (terms e d i) (Follows e d tenants mine here again p js)
      (Worker.evaluateOn again r device (Worker.snapshotOf reply))
      fun o => Follows e d tenants mine here again p (js ++ [.evaluated r device reply o]) := by
  unfold Worker.evaluateOn
  split_ifs with hempty
  · have hnone : Worker.snapshotOf reply = [] := by simpa using hempty
    refine .pure h.stable fun x hx => ?_
    cases hhere : here r device with
    | true =>
        exact hx.note hx.1 hx.1 hvisits hhere (Or.inl (Or.inl ⟨hnone, rfl, rfl⟩))
    | false =>
        exact hx.other hx.1 rfl hhere
  · have hsome : Worker.snapshotOf reply ≠ [] := by simpa using hempty
    have hadmits (id : String) (now : Moment) :
        e.keeping.admits (Worker.raisedAlert id r device (Worker.snapshotOf reply) now) := by
      cases reply with
      | ok s =>
          exact h.admits r device s id now hreply
      | error f =>
          exact absurd rfl hsome
    intro x hx
    cases hhere : here r device with
    | true =>
        have hfocus : Focus e d i mine [] (x.2.filter mine) [] [] x :=
          ⟨hx.1, by simp, rfl, by simp, by simp⟩
        refine (safe_underLock (h.scope r device hvisits hhere) hadmits x hfocus).weaken ?_
        rintro o y ⟨p', hy, hsettles⟩
        refine hx.note hx.1 hy.good hvisits hhere (hsettles.imp_left fun hsettles => Or.inr ⟨hsome, ?_⟩)
        rw [hy.lens]
        exact hsettles
    | false =>
        refine ((h.patrol r device hvisits hhere).safe_underLock (fun honce => absurd honce h.free)
          hadmits x ⟨hx.1, rfl⟩).weaken ?_
        rintro o y ⟨hy, hlens⟩
        exact hx.other hy hlens hhere

theorem diary :
    Diary e i (terms e d i) again tenants (Follows e d tenants mine here again p)
      fun js n => Follows e d tenants mine here again p (js ++ [n]) where
  stable _ := h.stable
  stable_next _ _ := h.stable
  plain _ _ _ _ _ hc _ hx hcall := h.plain hc hx hcall
  device _ _ _ _ hvisits hreply := h.device hvisits hreply
  missed js n x hn hx := by
    cases n with
    | evaluated =>
        cases hn
    | _ =>
        exact hx.other hx.1 rfl rfl
  passed _ _ _ _ hx := hx
  failed _ _ _ _ _ hx hcall := h.plain rfl hx hcall

/-- What is watched takes the course that is noted. -/
theorem abides_noteTenants
    (hgoing : ∀ stopping, e.replies .isStopping stopping → stopping = false)
    (hx : Good e d x) :
    Abides (e.Unfolds False i) (terms e d i) (Worker.noteTenants again tenants)
      (fun js y => Follows e d tenants mine here again (x.2.filter mine) js y ∧
        e.NotesTenants tenants js) x :=
  h.diary.abides_noteTenants hgoing ⟨hx, fun _ => .done⟩

end Lens

/-- What each task of a cycle watches takes the course that the task notes. -/
theorem Setting.Cycle.follows
    {e : Setting σ} {d : Accord ℕ} {again : Bool} {parts : List (List String)}
    {w w' : Clocked σ ℕ} {v : List Alert} {js : ℕ → Journal} {mine : ℕ → Alert → Bool}
    {here : ℕ → Rule → String → Bool}
    (h : e.Cycle again parts w js w')
    (hlens : ∀ i, Lens e d i (parts[i]?.getD []) (mine i) (here i))
    (hgoing : ∀ stopping, e.replies .isStopping stopping → stopping = false)
    (hgood : Good e d (w, v)) :
    ∃ v', Good e d (w', v') ∧ ∀ i, e.NotesTenants (parts[i]?.getD []) (js i) ∧
      Lens.Follows e d (parts[i]?.getD []) (mine i) (here i) again (v.filter (mine i)) (js i) (w', v') := by
  obtain ⟨v', hreaches⟩ :=
    h.behind (fun i c s r t v hreacts => Setting.unfolds hreacts v) v
  have hend := (hreaches.follows (F := fun _ => True)
    (fun i => (hlens i).abides_noteTenants hgoing hgood) (fun _ _ _ _ _ _ => trivial) hgood
    trivial)
  refine ⟨v', hend.1.1, fun i => ?_⟩
  obtain ⟨hfollows, hnotes⟩ := hend.2 i _ ((terms e d i).rely_refl _)
  exact ⟨hnotes, hfollows⟩

end
end TelemetryAlerts
