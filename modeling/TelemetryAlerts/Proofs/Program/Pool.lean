import TelemetryAlerts.Program
import TelemetryAlerts.Failure
import Mathlib.Logic.Function.Basic
import Mathlib.Logic.Relation

/-!
# Programs side by side

Programs that run on one state take turns: every call is atomic, and the calls of one
program may come between those of another in any order. What a call does to the state, and
what it replies, is given by a relation, so that it may be left open.

A program is proved to abide by a rule for its own calls, whatever the others do between
them that they are relied on to do. If what each program guarantees is what the others
rely on, all of them keep their rules, in every run of all of them.

**Results.**
* `Abides.bind`, `Abides.call`: a program abides if its parts do, call by call.
* `Safe.bind`, `Safe.rescue`, `Safe.perform`: so does an action that can fail.
* `Pool.Reaches.abides`: programs that abide when they start abide for good, and every
  call is as its program guarantees.
* `Pool.Reaches.keeps`: so programs that share a state keep up what they are to keep up.
-/

namespace TelemetryAlerts

variable {ι κ σ α β : Type} {ρ : κ → Type}

/-- What the others may do between two calls, and what a call of one's own may do. -/
structure Terms (σ : Type) where
  rely : σ → σ → Prop
  guarantee : σ → σ → Prop
  rely_refl : ∀ s, rely s s
  rely_trans : ∀ {s t u}, rely s t → rely t u → rely s u

namespace Terms

/-- Whether the others leave a property of the state alone. -/
def Stable (terms : Terms σ) (P : σ → Prop) : Prop :=
  ∀ s t, terms.rely s t → P s → P t

/-- Terms on which programs share a state: each of them keeps something up, and does to the
state only what all the others count on. -/
def shared (keeps : σ → Prop) (counts : ι → σ → σ → Prop) (hrefl : ∀ i s, counts i s s)
    (htrans : ∀ i s t u, counts i s t → counts i t u → counts i s u) (i : ι) : Terms σ where
  rely s t := keeps s → keeps t ∧ counts i s t
  guarantee s t := keeps s → keeps t ∧ ∀ j, j ≠ i → counts j s t
  rely_refl s hs := ⟨hs, hrefl i s⟩
  rely_trans h h' hs :=
    have hfirst := h hs
    have hsecond := h' hfirst.1
    ⟨hsecond.1, htrans i _ _ _ hfirst.2 hsecond.2⟩

end Terms

namespace Program

/-- Whether every call of a program is as guaranteed and its result is as wanted, started
in a state and as long as the others keep to what they are relied on to do. -/
def Abides
    (effect : (c : κ) → σ → ρ c → σ → Prop) (terms : Terms σ) :
    Program κ ρ α → (α → σ → Prop) → σ → Prop
  | .done x, Q, s => ∀ t, terms.rely s t → Q x t
  | .call c next, Q, s => ∀ t, terms.rely s t → ∀ r u, effect c t r u →
      terms.guarantee t u ∧ Abides effect terms (next r) Q u

namespace Abides

variable {effect : (c : κ) → σ → ρ c → σ → Prop} {terms : Terms σ} {s t : σ}

/-- What the others do does not matter. -/
theorem interfere
    {p : Program κ ρ α} {Q : α → σ → Prop}
    (h : Abides effect terms p Q s)
    (hrely : terms.rely s t) :
    Abides effect terms p Q t := by
  cases p with
  | done x =>
      exact fun u hu => h u (terms.rely_trans hrely hu)
  | call c next =>
      exact fun u hu => h u (terms.rely_trans hrely hu)

/-- A call is made in a state of which something holds that the others do not touch. -/
theorem call
    {c : κ} {next : ρ c → Program κ ρ α} {Q : α → σ → Prop} (P : σ → Prop)
    (hs : P s)
    (hstable : ∀ s t, terms.rely s t → P s → P t)
    (hcall : ∀ s r t, P s → effect c s r t →
      terms.guarantee s t ∧ Abides effect terms (next r) Q t) :
    Abides effect terms (.call c next) Q s :=
  fun t hrely r u heffect => hcall t r u (hstable s t hrely hs) heffect

theorem bind
    {p : Program κ ρ α} {f : α → Program κ ρ β} {Q : β → σ → Prop}
    (h : Abides effect terms p (fun x s => Abides effect terms (f x) Q s) s) :
    Abides effect terms (p.bind f) Q s := by
  induction p generalizing s with
  | done x =>
      exact h s (terms.rely_refl s)
  | call c next ih =>
      intro t hrely r u heffect
      obtain ⟨hguarantee, hnext⟩ := h t hrely r u heffect
      exact ⟨hguarantee, ih r hnext⟩

theorem weaken
    {p : Program κ ρ α} {Q Q' : α → σ → Prop}
    (h : Abides effect terms p Q s)
    (hQ : ∀ x s, Q x s → Q' x s) :
    Abides effect terms p Q' s := by
  induction p generalizing s with
  | done x =>
      exact fun t ht => hQ x t (h t ht)
  | call c next ih =>
      intro t hrely r u heffect
      obtain ⟨hguarantee, hnext⟩ := h t hrely r u heffect
      exact ⟨hguarantee, ih r hnext⟩

/-! ### Actions that can fail -/

variable {a : ExceptT Failure (Program κ ρ) α} {R : Outcome α → σ → Prop}

/-- One call. -/
theorem perform
    {c : κ} {Q : ρ c → σ → Prop} (P : σ → Prop)
    (hs : P s)
    (hstable : ∀ s t, terms.rely s t → P s → P t)
    (hcall : ∀ s r t, P s → effect c s r t → terms.guarantee s t ∧ Q r t)
    (hQ : ∀ r s t, terms.rely s t → Q r s → Q r t) :
    Abides effect terms (Program.perform c) Q s :=
  call P hs hstable fun _ r _ hP heffect =>
    ⟨(hcall _ _ _ hP heffect).1, fun _ hrely => hQ r _ _ hrely (hcall _ _ _ hP heffect).2⟩

theorem bindAction
    {f : α → ExceptT Failure (Program κ ρ) β} {Q : Outcome β → σ → Prop}
    (ha : Abides effect terms (ExceptT.run a) R s)
    (hok : ∀ x s, R (.ok x) s → Abides effect terms (ExceptT.run (f x)) Q s)
    (herror : ∀ e s, R (.error e) s → Q (.error e) s) :
    Abides effect terms (ExceptT.run (a >>= f)) Q s := by
  change Abides effect terms (Program.bind (ExceptT.run a) (ExceptT.bindCont f)) Q s
  generalize ExceptT.run a = p at ha
  induction p generalizing s with
  | done o =>
      cases o with
      | ok x =>
          exact hok x s (ha s (terms.rely_refl s))
      | error e =>
          exact fun t ht => herror e t (ha t ht)
  | call c next ih =>
      intro t hrely r u heffect
      obtain ⟨hguarantee, hnext⟩ := ha t hrely r u heffect
      exact ⟨hguarantee, ih r hnext⟩

theorem rescue
    {f : Failure → ExceptT Failure (Program κ ρ) α} {Q : Outcome α → σ → Prop}
    (ha : Abides effect terms (ExceptT.run a) R s)
    (hok : ∀ x s, R (.ok x) s → Q (.ok x) s)
    (herror : ∀ e s, R (.error e) s → Abides effect terms (ExceptT.run (f e)) Q s) :
    Abides effect terms (ExceptT.run (tryCatch a f)) Q s := by
  change Abides effect terms (Program.bind (ExceptT.run a) _) Q s
  generalize ExceptT.run a = p at ha
  induction p generalizing s with
  | done o =>
      cases o with
      | ok x =>
          exact fun t ht => hok x t (ha t ht)
      | error e =>
          exact herror e s (ha s (terms.rely_refl s))
  | call c next ih =>
      intro t hrely r u heffect
      obtain ⟨hguarantee, hnext⟩ := ha t hrely r u heffect
      exact ⟨hguarantee, ih r hnext⟩

end Abides

/-- Whether an action abides wherever something holds when it starts; it leaves what is said
of its outcome. -/
def Safe
    (effect : (c : κ) → σ → ρ c → σ → Prop) (terms : Terms σ)
    (P : σ → Prop) (a : ExceptT Failure (Program κ ρ) α) (Q : Outcome α → σ → Prop) : Prop :=
  ∀ s, P s → Abides effect terms (ExceptT.run a) Q s

namespace Safe

variable {effect : (c : κ) → σ → ρ c → σ → Prop} {terms : Terms σ} {P P' : σ → Prop}
  {Q Q' : Outcome α → σ → Prop} {a : ExceptT Failure (Program κ ρ) α}

theorem weaken
    (h : Safe effect terms P a Q)
    (hP : ∀ s, P' s → P s)
    (hQ : ∀ o s, Q o s → Q' o s) :
    Safe effect terms P' a Q' :=
  fun s hs => (h s (hP s hs)).weaken hQ

theorem lift
    {o : Outcome α}
    (hP : terms.Stable P)
    (h : ∀ s, P s → Q o s) :
    Safe effect terms P (ExceptT.mk (Program.done o)) Q :=
  fun s hs t hrely => h t (hP s t hrely hs)

theorem pure
    {x : α}
    (hP : terms.Stable P)
    (h : ∀ s, P s → Q (.ok x) s) :
    Safe effect terms P (Pure.pure x) Q :=
  lift hP h

theorem bind
    {b : ExceptT Failure (Program κ ρ) β} {f : β → ExceptT Failure (Program κ ρ) α}
    {R : Outcome β → σ → Prop}
    (hb : Safe effect terms P b R)
    (hf : ∀ x, Safe effect terms (R (.ok x)) (f x) Q)
    (herror : ∀ e s, R (.error e) s → Q (.error e) s) :
    Safe effect terms P (b >>= f) Q :=
  fun s hs => (hb s hs).bindAction (fun x t => hf x t) herror

/-- What an action keeps up, and the rest after it does, both together keep up. -/
theorem andThen
    {b : ExceptT Failure (Program κ ρ) β} {f : β → ExceptT Failure (Program κ ρ) α}
    (hb : Safe effect terms P b fun _ => P)
    (hf : ∀ x, Safe effect terms P (f x) fun _ => P) :
    Safe effect terms P (b >>= f) fun _ => P :=
  bind hb hf fun _ _ hs => hs

theorem map
    {b : ExceptT Failure (Program κ ρ) β} {f : β → α} {R : Outcome β → σ → Prop}
    (hb : Safe effect terms P b R)
    (hR : ∀ o, terms.Stable (R o))
    (h : ∀ o s, R o s → Q (o.map f) s) :
    Safe effect terms P (f <$> b) Q := by
  refine fun s hs => Abides.bind ((hb s hs).weaken fun o t ht => ?_)
  cases o <;> exact fun u hrely => h _ u (hR _ t u hrely ht)

theorem rescue
    {f : Failure → ExceptT Failure (Program κ ρ) α} {R : Outcome α → σ → Prop}
    (ha : Safe effect terms P a R)
    (hok : ∀ x s, R (.ok x) s → Q (.ok x) s)
    (hf : ∀ e, Safe effect terms (R (.error e)) (f e) Q) :
    Safe effect terms P (tryCatch a f) Q :=
  fun s hs => (ha s hs).rescue hok fun e t => hf e t

/-- A call whose reply is an outcome. -/
theorem perform
    {c : κ} {toOutcome : ρ c → Outcome α}
    (hP : terms.Stable P)
    (hQ : ∀ o, terms.Stable (Q o))
    (hcall : ∀ s r t, P s → effect c s r t → terms.guarantee s t ∧ Q (toOutcome r) t) :
    Safe effect terms P (ExceptT.mk (Program.call c fun r => Program.done (toOutcome r))) Q :=
  fun _ hs => Abides.call P hs hP fun t r u ht heffect =>
    ⟨(hcall t r u ht heffect).1, fun v hrely => hQ _ u v hrely (hcall t r u ht heffect).2⟩

end Safe
end Program

/-! ### Pools -/

/-- Programs under way on one state. -/
structure Pool (ι : Type) {κ : Type} (ρ : κ → Type) (σ α : Type) where
  state : σ
  rest : ι → Program κ ρ α

namespace Pool

variable [DecidableEq ι] {w w' : Pool ι ρ σ α} {i : ι}
  {effect : ι → (c : κ) → σ → ρ c → σ → Prop}

/-- One of the programs makes its next call. -/
inductive Step (effect : ι → (c : κ) → σ → ρ c → σ → Prop) (w : Pool ι ρ σ α) (i : ι) :
    Pool ι ρ σ α → Prop where
  | call {c : κ} {next : ρ c → Program κ ρ α} {r : ρ c} {s : σ}
      (hrest : w.rest i = .call c next)
      (heffect : effect i c w.state r s) :
      Step effect w i ⟨s, Function.update w.rest i (next r)⟩

/-- What comes of a pool after any number of calls. -/
def Reaches (effect : ι → (c : κ) → σ → ρ c → σ → Prop) :
    Pool ι ρ σ α → Pool ι ρ σ α → Prop :=
  Relation.ReflTransGen fun w w' => ∃ i, Step effect w i w'

section

variable {terms : ι → Terms σ} {Q : ι → α → σ → Prop}

/-- A call is as its program guarantees, and the other programs go on to abide. -/
theorem Step.abides
    (hstep : Step effect w i w')
    (hterms : ∀ i j s t, i ≠ j → (terms i).guarantee s t → (terms j).rely s t)
    (h : ∀ i, (w.rest i).Abides (effect i) (terms i) (Q i) w.state) :
    (terms i).guarantee w.state w'.state ∧
      ∀ j, (w'.rest j).Abides (effect j) (terms j) (Q j) w'.state := by
  obtain ⟨hrest, heffect⟩ := hstep
  have hi := h i
  rw [hrest] at hi
  obtain ⟨hguarantee, hnext⟩ := hi w.state ((terms i).rely_refl _) _ _ heffect
  refine ⟨hguarantee, fun j => ?_⟩
  dsimp only
  by_cases hj : j = i
  · subst hj
    rw [Function.update_self]
    exact hnext
  · rw [Function.update_of_ne hj]
    exact (h j).interfere (hterms i j _ _ (Ne.symm hj) hguarantee)

/-- Programs that abide when they start abide for good. What their calls keep up, if they
are as guaranteed, holds all the time. -/
theorem Reaches.abides
    {I : σ → Prop}
    (hreaches : Reaches effect w w')
    (hterms : ∀ i j s t, i ≠ j → (terms i).guarantee s t → (terms j).rely s t)
    (h : ∀ i, (w.rest i).Abides (effect i) (terms i) (Q i) w.state)
    (hinvariant : ∀ i s t, (terms i).guarantee s t → I s → I t)
    (hw : I w.state) :
    I w'.state ∧ ∀ i, (w'.rest i).Abides (effect i) (terms i) (Q i) w'.state := by
  induction hreaches with
  | refl =>
      exact ⟨hw, h⟩
  | tail _ hstep ih =>
      obtain ⟨i, hstep⟩ := hstep
      obtain ⟨hguarantee, hnext⟩ := hstep.abides hterms ih.2
      exact ⟨hinvariant i _ _ hguarantee ih.1, hnext⟩

/-- Programs that share a state and abide by that when they start keep up what they are to
keep up. -/
theorem Reaches.keeps
    {keeps : σ → Prop} {counts : ι → σ → σ → Prop} {hrefl : ∀ i s, counts i s s}
    {htrans : ∀ i s t u, counts i s t → counts i t u → counts i s u}
    (hreaches : Reaches effect w w')
    (h : ∀ i, (w.rest i).Abides (effect i) (.shared keeps counts hrefl htrans i) (Q i) w.state)
    (hw : keeps w.state) :
    keeps w'.state := by
  refine (hreaches.abides ?_ h ?_ hw).1
  · intro i j s t hij hguarantee hs
    obtain ⟨ht, hcounts⟩ := hguarantee hs
    exact ⟨ht, hcounts j hij.symm⟩
  · intro i s t hguarantee hs
    exact (hguarantee hs).1

end

end Pool
end TelemetryAlerts
