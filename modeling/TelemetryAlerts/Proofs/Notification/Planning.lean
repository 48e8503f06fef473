import Mathlib.Data.List.Induction
import TelemetryAlerts.Proofs.Notification.Reporting

/-!
# What is planned

A plan can be told from the forms in which its names are compared, without blanks at their ends
and in lower case, and from the recipients that each channel accepts. How a name is spelled and
whether it is listed again make no difference.

**Results.**
* `Channel.ofName?_eq_some_iff`: which names stand for a channel.
* `Plan.mem_channels_ofNames`, `Plan.inListedOrder_ofNames`, `Plan.snd_of_mem_ofNames`: which
  channels are planned, in which order, and for whom.
* `Plan.ofNames_respelled`, `Plan.ofNames_repeated`: what makes no difference.
* `planned_asListed`: all of this.
-/

namespace TelemetryAlerts

namespace Plan

/-- The form in which the names of channels are compared. -/
def key (name : String) : String :=
  Text.lower (Text.trim name)

/-- The keys of a plan, in its order. -/
def keys (plan : Plan) : List String :=
  plan.channels.map Channel.name

/-- Whether two names stand for one channel, or neither for any. Names with the same key do. -/
def SpelledAlike (a b : String) : Prop :=
  ∀ c : Channel, key a = c.name ↔ key b = c.name

/-- Whether a channel reaches one of the recipients. -/
def Reaches (c : Channel) (recipients : List String) : Prop :=
  ∃ r ∈ recipients, Text.trim r ≠ "" ∧ c.accepts (Text.trim r) = true

end Plan

namespace Channel

variable {s : String} {c : Channel}

theorem ofName?_eq_some_iff :
    ofName? s = some c ↔ Plan.key s = c.name := by
  unfold ofName? Plan.key
  generalize Text.lower (Text.trim s) = word
  split <;> cases c <;> simp_all [name]

theorem recipients_ne_nil_iff
    (recipients : List String) :
    c.recipients recipients ≠ [] ↔ Plan.Reaches c recipients := by
  rw [Channel.recipients, Ne, List.filter_eq_nil_iff]
  simp [Plan.Reaches]

theorem recipients_inApp
    (recipients : List String) :
    inApp.recipients recipients = [] := by
  simp [Channel.recipients, accepts]

end Channel

namespace Plan

variable {plan : Plan} {names recipients : List String} {c : Channel}
variable {p : Channel × List String}

theorem isUsable_iff :
    isUsable c recipients = true ↔ c = .inApp ∨ Reaches c recipients := by
  rw [← Channel.recipients_ne_nil_iff]
  simp [isUsable]

/-! ### One more name -/

theorem ofNames_append
    (names later recipients : List String) :
    ofNames (names ++ later) recipients =
      (later.filterMap Channel.ofName?).foldl (addChannel recipients)
        (ofNames names recipients) := by
  rw [ofNames, List.filterMap_append, List.foldl_append]
  rfl

theorem ofNames_concat_of_none
    {name : String}
    (h : Channel.ofName? name = none) :
    ofNames (names ++ [name]) recipients = ofNames names recipients := by
  rw [ofNames_append, List.filterMap_cons, h]
  rfl

theorem ofNames_concat_of_some
    {name : String}
    (h : Channel.ofName? name = some c) :
    ofNames (names ++ [name]) recipients =
      addChannel recipients (ofNames names recipients) c := by
  rw [ofNames_append, List.filterMap_cons, h]
  rfl

theorem exists_mem_concat
    {α : Type} {as : List α} {a : α} {q : α → Prop} :
    (∃ x ∈ as ++ [a], q x) ↔ (∃ x ∈ as, q x) ∨ q a := by
  simp [or_and_right, exists_or]

theorem keys_concat
    (plan : Plan) (c : Channel) (rs : List String) :
    keys (plan ++ [(c, rs)]) = plan.keys ++ [c.name] := by
  simp [keys, channels]

/-! ### All names -/

/-- A property of plans holds if it holds of the empty one, and still holds after one more name:
one that adds nothing, or one that adds its channel. -/
theorem ofNames_induction
    {motive : List String → Plan → Prop}
    (recipients : List String)
    (nil : motive [] [])
    (skip : ∀ names name, motive names (ofNames names recipients) →
      (∀ c, key name = c.name → isUsable c recipients = true →
        c ∈ (ofNames names recipients).channels) →
      motive (names ++ [name]) (ofNames names recipients))
    (add : ∀ names name c, motive names (ofNames names recipients) → key name = c.name →
      isUsable c recipients = true → c ∉ (ofNames names recipients).channels →
      motive (names ++ [name]) (ofNames names recipients ++ [(c, c.recipients recipients)]))
    (names : List String) :
    motive names (ofNames names recipients) := by
  induction names using List.reverseRecOn with
  | nil =>
      exact nil
  | append_singleton names name ih =>
      cases hname : Channel.ofName? name with
      | none =>
          rw [ofNames_concat_of_none hname]
          refine skip names name ih fun c hc => ?_
          rw [Channel.ofName?_eq_some_iff.mpr hc] at hname
          cases hname
      | some c =>
          have hc := Channel.ofName?_eq_some_iff.mp hname
          rw [ofNames_concat_of_some hname]
          by_cases hknown : isUsable c recipients = true → c ∈ (ofNames names recipients).channels
          · rw [addChannel_eq_self hknown]
            refine skip names name ih fun d hd => ?_
            rw [← Channel.name_injective (hc.symm.trans hd)]
            exact hknown
          · push Not at hknown
            rw [addChannel_of_new hknown.1 hknown.2]
            exact add names name c ih hc hknown.1 hknown.2

/-- A channel is planned if it is listed and can be used. -/
theorem mem_channels_ofNames
    {names recipients : List String} {d : Channel} :
    d ∈ (ofNames names recipients).channels ↔
      (∃ name ∈ names, key name = d.name) ∧ isUsable d recipients = true := by
  induction names using ofNames_induction recipients with
  | nil =>
      simp [channels]
  | skip names name ih hskip =>
      rw [ih, exists_mem_concat, or_and_right]
      exact (or_iff_left_of_imp fun h => ih.mp (hskip d h.1 h.2)).symm
  | add names name c ih hc husable hnew =>
      rw [channels_concat, List.mem_append, ih, List.mem_singleton, exists_mem_concat, or_and_right]
      refine or_congr_right ⟨?_, fun h => Channel.name_injective (h.1.symm.trans hc)⟩
      rintro rfl
      exact ⟨hc, husable⟩

theorem mem_listed
    {k : String}
    (h : k ∈ (ofNames names recipients).keys) :
    k ∈ names.map key := by
  obtain ⟨c, hc, rfl⟩ := List.mem_map.mp h
  exact List.mem_map.mpr (mem_channels_ofNames.mp hc).1

/-- Keys stand in the order in which they are listed first. -/
def InListedOrder (names : List String) (plan : Plan) : Prop :=
  plan.keys.Pairwise fun k l => (names.map key).idxOf k < (names.map key).idxOf l

theorem InListedOrder.concat
    (h : InListedOrder names plan)
    (hlisted : ∀ k ∈ plan.keys, k ∈ names.map key)
    (name : String) :
    InListedOrder (names ++ [name]) plan := by
  refine h.imp_of_mem fun hk hl hlt => ?_
  rw [List.map_append, List.idxOf_append_of_mem (hlisted _ hk),
    List.idxOf_append_of_mem (hlisted _ hl)]
  exact hlt

theorem idxOf_lt_of_new
    {k : String} {name : String}
    (hlisted : k ∈ names.map key)
    (hnew : key name ∉ names.map key) :
    ((names ++ [name]).map key).idxOf k < ((names ++ [name]).map key).idxOf (key name) := by
  rw [List.map_append, List.idxOf_append_of_mem hlisted, List.idxOf_append_of_notMem hnew]
  exact Nat.lt_add_right _ (List.idxOf_lt_length_of_mem hlisted)

theorem inListedOrder_ofNames
    (names recipients : List String) :
    InListedOrder names (ofNames names recipients) := by
  induction names using ofNames_induction recipients with
  | nil =>
      exact List.Pairwise.nil
  | skip names name ih _ =>
      exact ih.concat (fun _ => mem_listed) name
  | add names name c ih hc husable hnew =>
      -- a channel that is new has not been listed before, since it can be used
      have hfirst : key name ∉ names.map key := by
        intro hlisted
        obtain ⟨n, hn, hkey⟩ := List.mem_map.mp hlisted
        exact hnew (mem_channels_ofNames.mpr ⟨⟨n, hn, hkey.trans hc⟩, husable⟩)
      rw [InListedOrder, keys_concat]
      refine List.pairwise_append.mpr ⟨ih.concat (fun _ => mem_listed) name,
        List.pairwise_singleton _ _, fun k hk l hl => ?_⟩
      rw [List.mem_singleton.mp hl, ← hc]
      exact idxOf_lt_of_new (mem_listed hk) hfirst

theorem snd_of_mem_ofNames
    (h : p ∈ ofNames names recipients) :
    p.2 = p.1.recipients recipients := by
  induction names using ofNames_induction recipients with
  | nil =>
      cases h
  | skip names name ih _ =>
      exact ih h
  | add names name c ih =>
      rcases List.mem_append.mp h with h | h
      · exact ih h
      · rw [List.mem_singleton.mp h]

/-! ### What makes no difference -/

theorem spelledAlike_of_key_eq
    {a b : String}
    (h : key a = key b) :
    SpelledAlike a b := by
  intro c
  rw [h]

theorem SpelledAlike.ofName?_eq
    {a b : String}
    (h : SpelledAlike a b) :
    Channel.ofName? a = Channel.ofName? b := by
  refine Option.ext fun c => ?_
  rw [Channel.ofName?_eq_some_iff, Channel.ofName?_eq_some_iff]
  exact h c

theorem ofNames_respelled
    {a b : String}
    (h : SpelledAlike a b)
    (before after recipients : List String) :
    ofNames (before ++ b :: after) recipients = ofNames (before ++ a :: after) recipients := by
  rw [ofNames, ofNames, List.filterMap_append, List.filterMap_append, List.filterMap_cons,
    List.filterMap_cons, h.ofName?_eq]

theorem ofNames_repeated
    {a b : String}
    (h : SpelledAlike a b)
    (before between after recipients : List String) :
    ofNames (before ++ a :: between ++ b :: after) recipients =
      ofNames (before ++ a :: between ++ after) recipients := by
  have hsame : ofNames (before ++ a :: between ++ [b]) recipients =
      ofNames (before ++ a :: between) recipients := by
    cases hb : Channel.ofName? b with
    | none =>
        exact ofNames_concat_of_none hb
    | some c =>
        rw [ofNames_concat_of_some hb]
        refine addChannel_eq_self fun husable => mem_channels_ofNames.mpr ⟨⟨a, ?_, ?_⟩, husable⟩
        · simp
        · exact (h c).mpr (Channel.ofName?_eq_some_iff.mp hb)
  rw [List.append_cons _ b after, ofNames_append, hsame, ← ofNames_append]

/-! ### The plan as a whole -/

/-- What the plan for listed names and recipients holds. -/
structure IsPlanFor (names recipients : List String) (plan : Plan) : Prop where
  /-- A key is in the plan if it is listed, and names a channel that needs no recipient or
  reaches one. -/
  mem_keys : ∀ k, k ∈ plan.keys ↔ (∃ name ∈ names, key name = k) ∧
    (k = Channel.inApp.name ∨ ∃ c, c ≠ .inApp ∧ c.name = k ∧ Reaches c recipients)
  nodup_keys : plan.keys.Nodup
  inListedOrder : InListedOrder names plan
  inApp : ∀ rs, (.inApp, rs) ∈ plan → rs = []
  /-- Any other channel is sent to those that it accepts, and there are some. -/
  others : ∀ c rs, (c, rs) ∈ plan → c ≠ .inApp →
    rs = (recipients.map Text.trim).filter (fun r => r != "" && c.accepts r) ∧ rs ≠ []

theorem mem_keys_ofNames
    {k : String} :
    k ∈ (ofNames names recipients).keys ↔ (∃ name ∈ names, key name = k) ∧
      (k = Channel.inApp.name ∨ ∃ c, c ≠ .inApp ∧ c.name = k ∧ Reaches c recipients) := by
  constructor
  · intro h
    obtain ⟨c, hc, rfl⟩ := List.mem_map.mp h
    obtain ⟨hlisted, husable⟩ := mem_channels_ofNames.mp hc
    refine ⟨hlisted, ?_⟩
    by_cases hinApp : c = .inApp
    · exact Or.inl (congrArg Channel.name hinApp)
    · exact Or.inr ⟨c, hinApp, rfl, (isUsable_iff.mp husable).resolve_left hinApp⟩
  · rintro ⟨hlisted, rfl | ⟨c, -, rfl, hreaches⟩⟩
    · exact List.mem_map_of_mem (mem_channels_ofNames.mpr ⟨hlisted, isUsable_iff.mpr (Or.inl rfl)⟩)
    · exact List.mem_map_of_mem
        (mem_channels_ofNames.mpr ⟨hlisted, isUsable_iff.mpr (Or.inr hreaches)⟩)

theorem recipients_ne_nil_of_mem
    (h : p ∈ ofNames names recipients)
    (hinApp : p.1 ≠ .inApp) :
    p.2 ≠ [] := by
  have husable := (mem_channels_ofNames.mp (List.mem_map_of_mem h)).2
  rw [snd_of_mem_ofNames h, Channel.recipients_ne_nil_iff]
  exact (isUsable_iff.mp husable).resolve_left hinApp

theorem isPlanFor_ofNames
    (names recipients : List String) :
    IsPlanFor names recipients (ofNames names recipients) where
  mem_keys _ := mem_keys_ofNames
  nodup_keys := (nodup_ofNames names recipients).map Channel.name_injective
  inListedOrder := inListedOrder_ofNames names recipients
  inApp _ h := (snd_of_mem_ofNames h).trans (Channel.recipients_inApp recipients)
  others _ _ h hinApp := ⟨snd_of_mem_ofNames h, recipients_ne_nil_of_mem h hinApp⟩

end Plan

/-- The plan is what its names and recipients make it. Another spelling of a name does not change
it, nor does listing the name again later. -/
theorem planned_asListed
    (names recipients : List String) :
    Plan.IsPlanFor names recipients (Plan.ofNames names recipients) ∧
      (∀ before a b after, Plan.SpelledAlike a b → names = before ++ a :: after →
        Plan.ofNames (before ++ b :: after) recipients = Plan.ofNames names recipients) ∧
      (∀ before a between b after, Plan.SpelledAlike a b →
        names = before ++ a :: between ++ after →
        Plan.ofNames (before ++ a :: between ++ b :: after) recipients =
          Plan.ofNames names recipients) := by
  refine ⟨Plan.isPlanFor_ofNames names recipients, ?_, ?_⟩
  · rintro before a b after halike rfl
    exact Plan.ofNames_respelled halike before after recipients
  · rintro before a between b after halike rfl
    exact Plan.ofNames_repeated halike before between after recipients

/-- Names as someone may list them, and recipients of three kinds. -/
def listedNames : List String :=
  [" Email", "pager", "INAPP"]

def listedRecipients : List String :=
  [" ops@example.com ", "", "+1555"]

theorem planned_asListed_mixed :
    Plan.ofNames ["EMAIL\t", "pager", "INAPP"] listedRecipients =
        Plan.ofNames listedNames listedRecipients ∧
      Plan.ofNames (listedNames ++ ["email"]) listedRecipients =
        Plan.ofNames listedNames listedRecipients ∧
      "email" ∈ (Plan.ofNames listedNames listedRecipients).keys ∧
      "sms" ∉ (Plan.ofNames listedNames listedRecipients).keys := by
  obtain ⟨hplan, hrespelled, hrepeated⟩ := planned_asListed listedNames listedRecipients
  refine ⟨hrespelled [] " Email" "EMAIL\t" ["pager", "INAPP"] ?_ rfl,
    hrepeated [] " Email" ["pager", "INAPP"] "email" [] ?_ rfl, ?_, ?_⟩
  · exact Plan.spelledAlike_of_key_eq (by decide +kernel)
  · exact Plan.spelledAlike_of_key_eq (by decide +kernel)
  · refine (hplan.mem_keys "email").mpr ⟨⟨" Email", by simp [listedNames], by decide +kernel⟩,
      Or.inr ⟨.email, nofun, rfl, " ops@example.com ", by simp [listedRecipients], ?_⟩⟩
    decide +kernel
  · intro hsms
    obtain ⟨⟨name, hname, hkey⟩, -⟩ := (hplan.mem_keys "sms").mp hsms
    revert hkey
    revert name
    decide +kernel

end TelemetryAlerts
