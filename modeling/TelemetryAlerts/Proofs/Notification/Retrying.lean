import TelemetryAlerts.Notification.Delivery
import Mathlib.Tactic

/-!
# Repeated requests to a web hook

A document is posted to an address until the reply settles the matter or no attempt is left.
The replies are those of any sequence, one for each request.

**Results.**
* `worthRetrying_iff`: after which replies another attempt is made.
* `run_post`: what is left of the attempts, from any of them on.
* `post_attempts`: which reply settles the matter, what is asked and waited until then, and when
  the request counts as made.
-/

namespace TelemetryAlerts

/-- Whether a step is a request. -/
def Transport.isPost : Transport → Bool
  | .post _ _ => true
  | _ => false

namespace WebhookConfig

/-- How many requests a log contains. -/
def requests (log : List Transport) : Nat :=
  log.countP Transport.isPost

@[simp] theorem requests_nil :
    requests [] = 0 := rfl

@[simp] theorem requests_append
    (log log' : List Transport) :
    requests (log ++ log') = requests log + requests log' :=
  List.countP_append

@[simp] theorem requests_cons_post
    (a : Web.Address) (document : Json) (log : List Transport) :
    requests (.post a document :: log) = requests log + 1 :=
  List.countP_cons_of_pos rfl

@[simp] theorem requests_cons_wait
    (seconds : Float) (log : List Transport) :
    requests (.wait seconds :: log) = requests log :=
  List.countP_cons_of_neg Bool.false_ne_true

/-- Takes a step of a delivery and logs it; the requests are answered in turn, from the first
reply on, and all other steps succeed. -/
def answering (replies : Nat → Outcome Web.Reply) :
    (t : Transport) → List Transport → t.Reply × List Transport
  | .mail m, log => (.ok (), log ++ [.mail m])
  | .post a document, log => (replies (requests log + 1), log ++ [.post a document])
  | .wait seconds, log => ((), log ++ [.wait seconds])
  | .signIn account token, log => ((), log ++ [.signIn account token])
  | .text m, log => (.ok (), log ++ [.text m])
  | .publish channel text, log => (.ok (), log ++ [.publish channel text])

/-- Whether a reply may be another one next time: its status asks for patience, or the transport
failed. -/
def Transient (o : Outcome Web.Reply) : Prop :=
  (∃ r, o = .ok r ∧ r.status ∈ [429, 500, 502, 503, 504]) ∨
    ∃ e, o = .error e ∧ e.isTransportFault = true

/-- Of the attempts from one to another, the first whose reply settles the matter; if there is
none, the last one does. -/
structure Settles (replies : Nat → Outcome Web.Reply) (first last k : Nat) : Prop where
  first_le : first ≤ k
  le_last : k ≤ last
  before : ∀ i, first ≤ i → i < k → Transient (replies i)
  decides : k = last ∨ ¬ Transient (replies k)

/-- Whether a reply tells of success. -/
def Succeeds (o : Outcome Web.Reply) : Prop :=
  ∃ r, o = .ok r ∧ 200 ≤ r.status ∧ r.status ≤ 299

variable {c : WebhookConfig} {a : Web.Address} {document : Json}
variable {replies : Nat → Outcome Web.Reply} {log : List Transport} {o : Outcome Web.Reply}

theorem worthRetrying_iff :
    worthRetrying o = true ↔ Transient o := by
  cases o with
  | error e =>
      simp [worthRetrying, Transient]
  | ok r =>
      simp [worthRetrying, Transient, retryStatuses]

/-- What a reply comes to that no other follows. -/
def verdict (o : Outcome Web.Reply) : Outcome Unit := do
  let reply ← o
  let _ ← reply.orBadStatus

theorem isOk_verdict_ok
    (r : Web.Reply) :
    (verdict (.ok r)).isOk = r.isSuccess := by
  have hverdict : verdict (.ok r) = (do let _ ← r.orBadStatus) := rfl
  rw [hverdict, Web.Reply.orBadStatus]
  cases r.isSuccess <;> rfl

theorem isOk_verdict_iff :
    (verdict o).isOk = true ↔ Succeeds o := by
  cases o with
  | error e =>
      refine iff_of_false Bool.false_ne_true ?_
      rintro ⟨r, hreply, -⟩
      cases hreply
  | ok r =>
      rw [isOk_verdict_ok, Web.Reply.isSuccess, decide_eq_true_iff]
      constructor
      · intro hsuccess
        exact ⟨r, rfl, hsuccess⟩
      · rintro ⟨r', hreply, hsuccess⟩
        cases hreply
        exact hsuccess

/-- The wait after an attempt. -/
def waitAfter (c : WebhookConfig) (attempt : Nat) : Transport :=
  .wait (c.retryDelay.toFloat * Number.ofRatio false attempt 1)

/-- The steps after an attempt that led to others: each is waited for and made. -/
def followUps (c : WebhookConfig) (a : Web.Address) (document : Json) (attempt count : Nat) :
    List Transport :=
  (List.range' attempt count).flatMap fun i => [c.waitAfter i, .post a document]

theorem followUps_succ
    (attempt count : Nat) :
    c.followUps a document attempt (count + 1) =
      c.waitAfter attempt :: .post a document :: c.followUps a document (attempt + 1) count := by
  rw [followUps, List.range'_succ, List.flatMap_cons]
  rfl

theorem requests_followUps
    (attempt count : Nat) :
    requests (c.followUps a document attempt count) = count := by
  induction count generalizing attempt with
  | zero =>
      rfl
  | succ count ih =>
      rw [followUps_succ, waitAfter, requests_cons_wait, requests_cons_post, ih]

theorem attempts_eq
    (c : WebhookConfig) :
    c.attempts = (max 1 c.maxRetries).toNat := by
  rw [attempts]
  omega

/-- The end of a delivery with a reply that no other follows. -/
def settle (o : Outcome Web.Reply) : Delivery Unit := do
  let reply ← liftM o
  let _ ← liftM (Web.Reply.orBadStatus reply)

theorem run_settle
    (o : Outcome Web.Reply) (log : List Transport) :
    Program.run (answering replies) (ExceptT.run (settle o)) log = (verdict o, log) := by
  have hlast (o : Outcome Web.Reply) :
      Program.run (answering replies)
        (ExceptT.run (do let _ ← liftM o : Delivery Unit)) log = (do let _ ← o, log) := by
    cases o <;> rfl
  cases o with
  | error e =>
      rfl
  | ok r =>
      exact hlast r.orBadStatus

theorem run_post_zero
    (attempt : Nat) :
    Program.run (answering replies) (ExceptT.run (c.post a document attempt 0)) log =
      (verdict (replies (requests log + 1)), log ++ [.post a document]) :=
  run_settle (replies (requests log + 1)) (log ++ [.post a document])

theorem run_post_succ
    (attempt left : Nat) :
    Program.run (answering replies) (ExceptT.run (c.post a document attempt (left + 1))) log =
      if worthRetrying (replies (requests log + 1)) then
        Program.run (answering replies) (ExceptT.run (c.post a document (attempt + 1) left))
          (log ++ [.post a document] ++ [c.waitAfter attempt])
      else (verdict (replies (requests log + 1)), log ++ [.post a document]) := by
  have hstep : Program.run (answering replies)
      (ExceptT.run (c.post a document attempt (left + 1))) log =
        Program.run (answering replies)
          (ExceptT.run (if worthRetrying (replies (requests log + 1)) then
              Delivery.step (c.waitAfter attempt) >>= fun _ => c.post a document (attempt + 1) left
            else settle (replies (requests log + 1)))) (log ++ [.post a document]) := rfl
  rw [hstep]
  split_ifs with hretry
  · rfl
  · exact run_settle _ _

/-- What is left of the attempts: requests are made up to the one that settles the matter. -/
theorem run_post
    (c : WebhookConfig) (a : Web.Address) (document : Json)
    (replies : Nat → Outcome Web.Reply) (left : Nat) (log : List Transport) :
    ∃ k, Settles replies (requests log + 1) (requests log + 1 + left) k ∧
      Program.run (answering replies)
        (ExceptT.run (c.post a document (requests log + 1) left)) log =
          (verdict (replies k), log ++ .post a document ::
            c.followUps a document (requests log + 1) (k - (requests log + 1))) := by
  induction left generalizing log with
  | zero =>
      refine ⟨requests log + 1, ⟨le_rfl, le_rfl, fun i hfirst hlast => ?_, Or.inl rfl⟩, ?_⟩
      · omega
      · rw [run_post_zero, Nat.sub_self]
        rfl
  | succ left ih =>
      rw [run_post_succ]
      split_ifs with hretry
      · -- The other attempts start with the log of this one and the wait after it.
        have hasked : requests (log ++ [.post a document] ++ [c.waitAfter (requests log + 1)]) =
            requests log + 1 := by
          simp [waitAfter]
        obtain ⟨k, hk, hrun⟩ :=
          ih (log ++ [.post a document] ++ [c.waitAfter (requests log + 1)])
        rw [hasked] at hk hrun
        have hfirst := hk.first_le
        have hcount : k - (requests log + 1) = (k - (requests log + 1 + 1)) + 1 := by omega
        refine ⟨k, ⟨by omega, by have := hk.le_last; omega, fun i hi hik => ?_, ?_⟩, ?_⟩
        · rcases Nat.eq_or_lt_of_le hi with rfl | hi
          · exact worthRetrying_iff.mp hretry
          · exact hk.before i hi hik
        · exact hk.decides.imp_left fun hlast => by omega
        · rw [hrun, hcount, followUps_succ]
          simp
      · refine ⟨requests log + 1, ⟨le_rfl, by omega, fun i hfirst hlast => ?_, Or.inr ?_⟩, ?_⟩
        · omega
        · exact fun htransient => hretry (worthRetrying_iff.mpr htransient)
        · rw [Nat.sub_self]
          rfl

/-- The document is posted until a reply settles the matter, at most as often as is configured
and at least once. The wait after each attempt is as many times the configured one as attempts
were made, and nothing else is asked. The delivery succeeds just if the last reply tells of
success. -/
theorem post_attempts
    (c : WebhookConfig) (a : Web.Address) (document : Json)
    (replies : Nat → Outcome Web.Reply) :
    ∃ k log,
      Settles replies 1 (max 1 c.maxRetries).toNat k ∧
      Program.run (answering replies)
        (ExceptT.run (c.post a document 1 (c.attempts - 1))) [] = (verdict (replies k), log) ∧
      log = .post a document :: c.followUps a document 1 (k - 1) ∧
      requests log = k ∧
      ((verdict (replies k)).isOk = true ↔ Succeeds (replies k)) := by
  obtain ⟨k, hk, hrun⟩ := run_post c a document replies (c.attempts - 1) []
  have hlast : requests [] + 1 + (c.attempts - 1) = (max 1 c.maxRetries).toNat := by
    rw [attempts_eq, requests_nil]
    omega
  rw [hlast] at hk
  refine ⟨k, _, hk, hrun, rfl, ?_, isOk_verdict_iff⟩
  rw [List.nil_append, requests_cons_post, requests_followUps]
  exact Nat.sub_add_cancel hk.first_le

end WebhookConfig
end TelemetryAlerts
