import TelemetryAlerts.Proofs.Notification.Retrying
import TelemetryAlerts.Proofs.Program.Apart
import TelemetryAlerts.Worker.Evaluation
import Mathlib.Data.List.OfFn

/-!
# Reaching each recipient

A channel with several recipients makes a separate delivery to each of them, and fails only if
all of these do. The requests to web hooks may be made side by side, in any order; text
messages are sent one after the other. Nothing that becomes of one recipient changes what is
tried for another.

**Results.**
* `concludes_concluded`: what a channel makes of the outcomes of its separate deliveries.
* `run_deliverToAny`: separate deliveries one after the other, whatever they are.
* `WebhookConfig.course_call`: what is tried for one recipient.
* `WebhookConfig.exists_runs_inTurn`, `WebhookConfig.tries_of_run`: one recipient after the other
  or all side by side, each of them is called as it would be alone.
* `reaches_each_recipient`: each recipient is tried on its own account, and a send fails just if
  nobody is reached.
-/

namespace TelemetryAlerts

/-! ### Separate deliveries -/

/-- What a channel makes of the outcomes of its separate deliveries. -/
def concluded (fault : Nat → DeliveryFault) (outcomes : List (Outcome Unit)) : Outcome Unit :=
  if failures outcomes = outcomes.length then .error (.delivery (fault outcomes.length))
  else .ok ()

/-- Whether a send ends as its separate deliveries demand: it fails just if all of them did. -/
structure Concludes {m : Nat} (fault : Nat → DeliveryFault) (outcomes : Fin m → Outcome Unit)
    (sent : Outcome Unit) : Prop where
  delivers : sent = .ok () ↔ ∃ i, (outcomes i).isOk = true
  fails : sent = .error (.delivery (fault m)) ↔ ∀ i, (outcomes i).isOk = false

theorem failures_eq_length_iff
    {outcomes : List (Outcome Unit)} :
    failures outcomes = outcomes.length ↔ ∀ o ∈ outcomes, o.isOk = false := by
  simp [failures]

theorem concludes_concluded
    {m : Nat} (fault : Nat → DeliveryFault) (outcomes : Fin m → Outcome Unit) :
    Concludes fault outcomes (concluded fault (List.ofFn outcomes)) := by
  have hall : failures (List.ofFn outcomes) = (List.ofFn outcomes).length ↔
      ∀ i, (outcomes i).isOk = false := by
    rw [failures_eq_length_iff, List.forall_mem_ofFn_iff]
  unfold concluded
  split_ifs with hfailed
  · have hnone := hall.mp hfailed
    refine ⟨iff_of_false nofun ?_, iff_of_true (by rw [List.length_ofFn]) hnone⟩
    rintro ⟨i, hi⟩
    exact Bool.false_ne_true ((hnone i).symm.trans hi)
  · have hsome : ¬ ∀ i, (outcomes i).isOk = false := fun h => hfailed (hall.mpr h)
    refine ⟨iff_of_true rfl ?_, iff_of_false nofun hsome⟩
    simpa using hsome

section

variable {σ : Type}

/-- Separate deliveries, each begun where the one before it ended. -/
def eachInTurn
    (handle : (t : Transport) → σ → t.Reply × σ) (deliver : String → Delivery Unit) :
    List String → σ → List (Outcome Unit) × σ
  | [], s => ([], s)
  | r :: rest, s =>
    let first := Program.run handle (ExceptT.run (deliver r)) s
    let others := eachInTurn handle deliver rest first.2
    (first.1 :: others.1, others.2)

variable (handle : (t : Transport) → σ → t.Reply × σ) (deliver : String → Delivery Unit)

theorem run_outcome
    (d : Delivery Unit) (s : σ) :
    Program.run handle (ExceptT.run d.outcome) s =
      (.ok (Program.run handle (ExceptT.run d) s).1,
        (Program.run handle (ExceptT.run d) s).2) :=
  Program.run_bind handle (ExceptT.run d) (fun o => .done (Except.ok o : Outcome (Outcome Unit))) s

theorem run_deliverEach
    (recipients : List String) (s : σ) :
    Program.run handle (ExceptT.run (deliverEach deliver recipients)) s =
      (.ok (eachInTurn handle deliver recipients s).1,
        (eachInTurn handle deliver recipients s).2) := by
  induction recipients generalizing s with
  | nil =>
      rfl
  | cons r rest ih =>
      rw [deliverEach, Program.run_bindAction, run_outcome]
      dsimp only
      rw [Program.run_bindAction, ih]
      rfl

theorem length_eachInTurn
    (recipients : List String) (s : σ) :
    (eachInTurn handle deliver recipients s).1.length = recipients.length := by
  induction recipients generalizing s with
  | nil =>
      rfl
  | cons r rest ih =>
      rw [eachInTurn, List.length_cons, List.length_cons, ih]

/-- The deliveries are made one after the other, and the send is as they demand. -/
theorem run_deliverToAny
    (fault : Nat → DeliveryFault) (recipients : List String) (s : σ) :
    Program.run handle (ExceptT.run (deliverToAny deliver fault recipients)) s =
      (concluded fault (eachInTurn handle deliver recipients s).1,
        (eachInTurn handle deliver recipients s).2) := by
  rw [deliverToAny, Program.run_bindAction, run_deliverEach]
  dsimp only
  rw [concluded, length_eachInTurn]
  split_ifs with hfailed
  · rw [hfailed]
    rfl
  · rfl

end

/-! ### Requests to web hooks -/

namespace WebhookConfig

/-- What is tried for one recipient who gets replies of its own, and what becomes of it. -/
structure Course (c : WebhookConfig) (document : Json) (url : String)
    (replies : Nat → Outcome Web.Reply) (log : List Transport) (outcome : Outcome Unit) :
    Prop where
  /-- Requests are made until a reply settles the matter; that reply decides. -/
  posts : ∀ a, address url = .ok a → ∃ k,
    Settles replies 1 (max 1 c.maxRetries).toNat k ∧
      log = .post a document :: c.followUps a document 1 (k - 1) ∧
      (outcome.isOk = true ↔ Succeeds (replies k))
  /-- There is nobody to ask at what is no address. -/
  refuses : ∀ e, address url = .error e → log = [] ∧ outcome = .error e

variable {c : WebhookConfig} {document : Json} {n : Notice} {recipients : List String}

theorem course_call
    (hfinite : document.allFinite = true) (url : String)
    (replies : Nat → Outcome Web.Reply) :
    c.Course document url replies
      (Program.run (answering replies) (ExceptT.run (c.call document url)) []).2
      (Program.run (answering replies) (ExceptT.run (c.call document url)) []).1 where
  posts a ha := by
    obtain ⟨k, log, hk, hrun, hlog, -, hok⟩ := post_attempts c a document replies
    have hcall : c.call document url = c.post a document 1 (c.attempts - 1) := by
      rw [call, ha, hfinite]
      rfl
    rw [hcall, hrun]
    exact ⟨k, hk, hlog, hok⟩
  refuses e he := by
    have hcall : c.call document url = throw e := by
      rw [call, he]
      rfl
    rw [hcall]
    exact ⟨rfl, rfl⟩

/-! ### One recipient after the other -/

theorem answering_append
    (replies : Nat → Outcome Web.Reply) (t : Transport) (before log : List Transport) :
    answering replies t (before ++ log) =
      ((answering (fun k => replies (requests before + k)) t log).1,
        before ++ (answering (fun k => replies (requests before + k)) t log).2) := by
  cases t with
  | post a document =>
      simp only [answering, requests_append, Nat.add_assoc, List.append_assoc]
  | mail | wait | signIn | text | publish =>
      simp only [answering, List.append_assoc]

/-- What was asked before only tells which replies come next. -/
theorem run_append
    {α : Type} (replies : Nat → Outcome Web.Reply)
    (p : Program Transport Transport.Reply α) (before log : List Transport) :
    Program.run (answering replies) p (before ++ log) =
      ((Program.run (answering fun k => replies (requests before + k)) p log).1,
        before ++ (Program.run (answering fun k => replies (requests before + k)) p log).2) := by
  induction p generalizing log with
  | done a =>
      rfl
  | call t next ih =>
      simp only [Program.run, answering_append]
      exact ih _ _

theorem eachInTurn_append
    (replies : Nat → Outcome Web.Reply) (deliver : String → Delivery Unit)
    (recipients : List String) (before log : List Transport) :
    eachInTurn (answering replies) deliver recipients (before ++ log) =
      ((eachInTurn (answering fun k => replies (requests before + k)) deliver recipients log).1,
        before ++
          (eachInTurn (answering fun k => replies (requests before + k)) deliver recipients
            log).2) := by
  induction recipients generalizing log with
  | nil =>
      rfl
  | cons r rest ih =>
      simp only [eachInTurn, run_append, ih]

/-- The replies that are left for a recipient when those before it have been tried. -/
def remaining {m : Nat} (replies : Nat → Outcome Web.Reply) (logs : Fin m → List Transport)
    (i : Fin m) (k : Nat) : Outcome Web.Reply :=
  replies (requests ((List.ofFn logs).take i).flatten + k)

theorem remaining_cons_zero
    {m : Nat} (replies : Nat → Outcome Web.Reply) (log : List Transport)
    (logs : Fin m → List Transport) :
    remaining replies (Fin.cons log logs : Fin (m + 1) → List Transport) 0 = replies := by
  funext k
  rw [remaining, Fin.val_zero, List.take_zero, List.flatten_nil, requests_nil, Nat.zero_add]

theorem remaining_cons_succ
    {m : Nat} (replies : Nat → Outcome Web.Reply) (log : List Transport)
    (logs : Fin m → List Transport) (i : Fin m) :
    remaining replies (Fin.cons log logs : Fin (m + 1) → List Transport) i.succ =
      remaining (fun k => replies (requests log + k)) logs i := by
  funext k
  rw [remaining, remaining, List.ofFn_cons, Fin.val_succ, List.take_succ_cons,
    List.flatten_cons, requests_append, Nat.add_assoc]

/-- One recipient after the other is called as it would be alone, with the replies that are
left. -/
theorem exists_runs_inTurn
    (deliver : String → Delivery Unit) (recipients : List String)
    (replies : Nat → Outcome Web.Reply) :
    ∃ (logs : Fin recipients.length → List Transport)
        (outcomes : Fin recipients.length → Outcome Unit),
      (∀ i, Program.run (answering (remaining replies logs i))
        (ExceptT.run (deliver (recipients.get i))) [] = (outcomes i, logs i)) ∧
      eachInTurn (answering replies) deliver recipients [] =
        (List.ofFn outcomes, (List.ofFn logs).flatten) := by
  induction recipients generalizing replies with
  | nil =>
      exact ⟨nofun, nofun, nofun, rfl⟩
  | cons url rest ih =>
      generalize hfirst : Program.run (answering replies) (ExceptT.run (deliver url)) [] = first
      obtain ⟨outcome, log⟩ := first
      -- The others are numbered from where the first one left off.
      obtain ⟨logs, outcomes, hruns, hrest⟩ := ih fun k => replies (requests log + k)
      refine ⟨(Fin.cons log logs : Fin (rest.length + 1) → _),
        (Fin.cons outcome outcomes : Fin (rest.length + 1) → _), fun i => ?_, ?_⟩
      · cases i using Fin.cases with
        | zero =>
            rw [remaining_cons_zero]
            exact hfirst
        | succ i =>
            rw [remaining_cons_succ]
            exact hruns i
      · have happend := eachInTurn_append replies deliver rest log []
        rw [List.append_nil, hrest] at happend
        rw [eachInTurn, hfirst, happend]
        exact Prod.ext (List.ofFn_cons _ _).symm (congrArg List.flatten (List.ofFn_cons _ _).symm)

/-- The send as a whole, in turn. -/
theorem exists_runs_deliver
    (c : WebhookConfig) (n : Notice) (recipients : List String)
    (replies : Nat → Outcome Web.Reply) :
    ∃ (logs : Fin recipients.length → List Transport)
        (outcomes : Fin recipients.length → Outcome Unit),
      (∀ i, Program.run (answering (remaining replies logs i))
        (ExceptT.run (c.call n.payload (recipients.get i))) [] = (outcomes i, logs i)) ∧
      Program.run (answering replies) (ExceptT.run (c.deliver n recipients)) [] =
        (concluded .webhooksFailed (List.ofFn outcomes), (List.ofFn logs).flatten) := by
  obtain ⟨logs, outcomes, hruns, hturn⟩ :=
    exists_runs_inTurn (c.call n.payload) recipients replies
  refine ⟨logs, outcomes, hruns, ?_⟩
  rw [deliver, run_deliverToAny, hturn]

/-! ### All recipients side by side -/

/-- The requests to the web hooks of all recipients under way, each with a log of its own. -/
def fanOut (c : WebhookConfig) (n : Notice) (recipients : List String) :
    Pool (Fin recipients.length) Transport.Reply (Fin recipients.length → List Transport)
      (Outcome Unit) where
  state _ := []
  rest i := ExceptT.run (c.call n.payload (recipients.get i))

/-- What comes of requests side by side after any number of steps, if each recipient has
replies of its own. -/
def Interleaves {m : Nat} (replies : Fin m → Nat → Outcome Web.Reply) :
    Pool (Fin m) Transport.Reply (Fin m → List Transport) (Outcome Unit) →
      Pool (Fin m) Transport.Reply (Fin m → List Transport) (Outcome Unit) → Prop :=
  Pool.Reaches (Pool.Apart fun i => answering (replies i))

/-- Each recipient is tried on its own account, in whatever order the steps are taken: what is
done for it, and what becomes of it. -/
structure Tries (c : WebhookConfig) (n : Notice) (recipients : List String)
    (replies : Fin recipients.length → Nat → Outcome Web.Reply)
    (logs : Fin recipients.length → List Transport)
    (outcomes : Fin recipients.length → Outcome Unit) : Prop where
  course : ∀ i, c.Course n.payload (recipients.get i) (replies i) (logs i) (outcomes i)
  /-- What has been done for a recipient is the beginning of its course. -/
  begins : ∀ w, Interleaves replies (c.fanOut n recipients) w → ∀ i, w.state i <+: logs i
  /-- Whoever is done with has come to the end of its course. -/
  ends : ∀ w, Interleaves replies (c.fanOut n recipients) w → ∀ i o, w.rest i = .done o →
    o = outcomes i ∧ w.state i = logs i
  /-- The others can always be brought to an end as well. -/
  completes : ∀ w, Interleaves replies (c.fanOut n recipients) w →
    Interleaves replies w ⟨logs, fun i => .done (outcomes i)⟩

/-- What has been done stays in the log. -/
theorem prefix_run
    {α : Type} (replies : Nat → Outcome Web.Reply)
    (p : Program Transport Transport.Reply α) (log : List Transport) :
    log <+: (Program.run (answering replies) p log).2 := by
  have happend := run_append replies p log []
  rw [List.append_nil] at happend
  rw [happend]
  exact List.prefix_append _ _

theorem tries_of_run
    {replies : Fin recipients.length → Nat → Outcome Web.Reply}
    {logs : Fin recipients.length → List Transport}
    {outcomes : Fin recipients.length → Outcome Unit}
    (hfinite : n.payload.allFinite = true)
    (hruns : ∀ i, Program.run (answering (replies i))
      (ExceptT.run (c.call n.payload (recipients.get i))) [] = (outcomes i, logs i)) :
    c.Tries n recipients replies logs outcomes where
  course i := by
    have hcourse := course_call (c := c) hfinite (recipients.get i) (replies i)
    rwa [hruns i] at hcourse
  begins w hw i := by
    have halone : w.alone (fun i => answering (replies i)) i = (outcomes i, logs i) :=
      (Pool.Reaches.alone_eq hw i).trans (hruns i)
    have hprefix : w.state i <+: (w.alone (fun i => answering (replies i)) i).2 :=
      prefix_run (replies i) (w.rest i) (w.state i)
    rwa [halone] at hprefix
  ends w hw i o hdone := by
    have hend : (o, w.state i) = (outcomes i, logs i) :=
      (Pool.Reaches.of_done hw hdone).symm.trans (hruns i)
    exact Prod.mk.inj hend
  completes w hw := by
    have halone : (c.fanOut n recipients).alone (fun i => answering (replies i)) =
        fun i => (outcomes i, logs i) :=
      funext hruns
    have hcompleted := Pool.Reaches.completed hw
    rwa [Pool.completed, halone] at hcompleted

end WebhookConfig

/-! ### Text messages -/

/-- Whether a step hands over a text message. -/
def Transport.isText : Transport → Bool
  | .text _ => true
  | _ => false

namespace SmsConfig

variable {outcomes : Nat → Outcome Unit} {replies : Nat → Outcome Web.Reply}

/-- How many text messages a log contains. -/
def texts (log : List Transport) : Nat :=
  log.countP Transport.isText

/-- Takes a step of a delivery and logs it; what becomes of the text messages is given, from the
first one on. -/
def texting (outcomes : Nat → Outcome Unit) (replies : Nat → Outcome Web.Reply) :
    (t : Transport) → List Transport → t.Reply × List Transport
  | .text m, log => (outcomes (texts log), log ++ [.text m])
  | t, log => WebhookConfig.answering replies t log

/-- The step that hands a text message over for one number. -/
def textTo (c : SmsConfig) (n : Notice) (number : String) : Transport :=
  .text ⟨number, c.fromNumber, body n⟩

/-- The delivery to one number. -/
def sendText (c : SmsConfig) (n : Notice) (number : String) : Delivery Unit := do
  liftM (← Delivery.step (.text ⟨number, c.fromNumber, body n⟩))

theorem run_sendText
    (c : SmsConfig) (n : Notice) (number : String) (log : List Transport) :
    Program.run (texting outcomes replies) (ExceptT.run (c.sendText n number)) log =
      (outcomes (texts log), log ++ [c.textTo n number]) :=
  rfl

/-- One text message is handed over for each number in turn, whatever becomes of the others. -/
theorem eachInTurn_texting
    (c : SmsConfig) (n : Notice) (numbers : List String) (log : List Transport) :
    eachInTurn (texting outcomes replies) (c.sendText n) numbers log =
      (List.ofFn fun i : Fin numbers.length => outcomes (texts log + i),
        log ++ numbers.map (c.textTo n)) := by
  induction numbers generalizing log with
  | nil =>
      rw [List.map_nil, List.append_nil]
      rfl
  | cons number rest ih =>
      have hsent : texts (log ++ [c.textTo n number]) = texts log + 1 :=
        List.countP_append
      have houtcomes :
          List.ofFn (fun i : Fin (rest.length + 1) => outcomes (texts log + i)) =
            outcomes (texts log) ::
              List.ofFn fun i : Fin rest.length => outcomes (texts log + 1 + i) := by
        rw [List.ofFn_succ]
        simp only [Fin.val_zero, Fin.val_succ, Nat.add_zero, Nat.add_assoc, Nat.add_comm 1]
      rw [eachInTurn, run_sendText, ih, hsent, List.append_assoc]
      exact congrArg (·, _) houtcomes.symm

/-- The steps before the first text message. -/
def signingIn (c : SmsConfig) (signedIn : Bool) : List Transport :=
  if signedIn then [] else [.signIn c.account c.token]

/-- Someone who has signed in, or can, hands over every text message. -/
theorem run_deliver
    (c : SmsConfig) (n : Notice) (numbers : List String) (signedIn : Bool)
    (hclient : signedIn = true ∨ c.isConfigured = true) :
    Program.run (texting outcomes replies) (ExceptT.run (c.deliver signedIn n numbers)) [] =
      (concluded .smsFailed (List.ofFn fun i : Fin numbers.length => outcomes i),
        c.signingIn signedIn ++ numbers.map (c.textTo n)) := by
  have hrest : Program.run (texting outcomes replies)
      (ExceptT.run (c.deliver signedIn n numbers)) [] =
        Program.run (texting outcomes replies)
          (ExceptT.run (deliverToAny (c.sendText n) .smsFailed numbers))
          (c.signingIn signedIn) := by
    cases signedIn with
    | true =>
        rfl
    | false =>
        have hconfigured := hclient.resolve_left Bool.false_ne_true
        rw [deliver, hconfigured]
        rfl
  have hnone : texts (c.signingIn signedIn) = 0 := by
    cases signedIn <;> rfl
  rw [hrest, run_deliverToAny, eachInTurn_texting, hnone]
  simp only [Nat.zero_add]

end SmsConfig

open WebhookConfig SmsConfig

/-- Each recipient is tried on its own account, whatever becomes of the others: web hooks with
as many requests as their own replies call for, be it one after the other or side by side, and
numbers with one text message each, in order. A send delivers to those whose own attempts
succeed, and fails just if nobody is reached. -/
theorem reaches_each_recipient
    (c : WebhookConfig) (s : SmsConfig) (n : Notice) (recipients : List String)
    (hfinite : n.payload.allFinite = true) :
    (∀ replies : Fin recipients.length → Nat → Outcome Web.Reply, ∃ logs outcomes,
      c.Tries n recipients replies logs outcomes ∧
      Concludes .webhooksFailed outcomes (concluded .webhooksFailed (List.ofFn outcomes))) ∧
    (∀ replies : Nat → Outcome Web.Reply, ∃ logs outcomes sent,
      c.Tries n recipients (remaining replies logs) logs outcomes ∧
      Program.run (answering replies) (ExceptT.run (c.deliver n recipients)) [] =
        (sent, (List.ofFn logs).flatten) ∧
      Concludes .webhooksFailed outcomes sent) ∧
    ∀ outcomes replies signedIn, signedIn = true ∨ s.isConfigured = true → ∃ sent,
      Program.run (texting outcomes replies) (ExceptT.run (s.deliver signedIn n recipients)) [] =
        (sent, s.signingIn signedIn ++ recipients.map (s.textTo n)) ∧
      Concludes .smsFailed (fun i : Fin recipients.length => outcomes i) sent := by
  refine ⟨fun replies => ?_, fun replies => ?_, fun outcomes replies signedIn hclient => ?_⟩
  · have htries : c.Tries n recipients replies _ _ := tries_of_run hfinite fun i => rfl
    exact ⟨_, _, htries, concludes_concluded _ _⟩
  · obtain ⟨logs, outcomes, hruns, hsent⟩ := exists_runs_deliver c n recipients replies
    exact ⟨logs, outcomes, _, tries_of_run hfinite hruns, hsent, concludes_concluded _ outcomes⟩
  · exact ⟨_, SmsConfig.run_deliver s n recipients signedIn hclient, concludes_concluded _ _⟩

/-- A rule for a boiler. -/
def boilerRule : Rule where
  id := "rule-1"
  tenant := "tenant-a"
  name := "Hot"
  description? := none
  tags := []
  target := .device
  devices := ["boiler-1"]
  deviceTypes := []
  conditions := [⟨"temperature", .greaterThan, .int 80, .null, none, none⟩]
  logic := .all
  severity := .warning
  windowSeconds? := none
  frequencySeconds := 60
  cooldownMinutes := 15
  channels := []
  recipients := []
  escalation? := none
  enabled := true

/-- What is told when the boiler is too hot. -/
def boilerNotice : Notice where
  alert := Worker.raisedAlert "a1" boilerRule "boiler-1" [("temperature", .int 95)] .epoch
  rule := boilerRule
  event := .triggered

/-- The first of two text messages is not taken. -/
theorem reaches_each_recipient_boiler :
    boilerNotice.payload.allFinite = true ∧
      ∃ sent, Program.run
          (texting (fun i => if i = 0 then .error .timedOut else .ok ()) fun _ => .error .timedOut)
          (ExceptT.run (SmsConfig.deliver {} true boilerNotice ["+15550001", "+15550002"])) [] =
          (sent, ["+15550001", "+15550002"].map (SmsConfig.textTo {} boilerNotice)) ∧
        sent = .ok () := by
  have hfinite : boilerNotice.payload.allFinite = true := by decide
  obtain ⟨-, -, htexts⟩ :=
    reaches_each_recipient {} {} boilerNotice ["+15550001", "+15550002"] hfinite
  obtain ⟨sent, hrun, hconcludes⟩ :=
    htexts (fun i => if i = 0 then .error .timedOut else .ok ()) (fun _ => .error .timedOut) true
      (Or.inl rfl)
  exact ⟨hfinite, sent, hrun, hconcludes.delivers.mpr ⟨1, rfl⟩⟩

end TelemetryAlerts
