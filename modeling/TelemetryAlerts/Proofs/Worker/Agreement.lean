import TelemetryAlerts.Proofs.Worker.Course
import TelemetryAlerts.Proofs.Worker.Likeness

/-!
# Runs that agree

What an evaluation makes of its alerts is settled by these alerts up to their ids, the telemetry,
the time of day and the reports of the channels. So two runs in which a task evaluates the same
rules for the same devices agree on what becomes of its alerts, and on every outcome, if they agree
on what the task goes by: whoever else is at work.

**Results.**
* `Settles.agree`: an evaluation does the same to alike alerts, and has the same outcome.
* `Course.agree`: so do evaluations one after the other.
-/

namespace TelemetryAlerts

/-- What an evaluation of a rule goes by is the same whenever it looks. -/
structure Fixed
    {σ : Type} (e : Setting σ) (r : Rule) (k : Manner) (now : Moment)
    (report : Event → Report) (fresh : String → Prop) : Prop where
  keeps : e.keeping.toManner = k
  shows : ∀ t, e.replies .now t → t = now
  stamps : ∀ t, e.stamps t → t = now
  tells : ∀ d told, d.notice.rule = r → e.replies (.dispatch d) told → told = report d.notice.event
  draws : ∀ id, e.replies .freshId id → fresh id

section

variable {fresh : String → Prop} {k : Manner} {a b : Alert} {p q p' q' : List Alert} {r : Rule}
  {device : String}

/-- What two runs found of the open alert of a rule and a device. -/
def Paired
    (fresh : String → Prop) (k : Manner) (r : Rule) (device : String)
    (p q : List Alert) : Option Alert → Option Alert → Prop
  | none, none => True
  | some a', some b' => ∃ a ∈ p, ∃ b ∈ q, a.IsOpenFor r device ∧ b.IsOpenFor r device ∧
      a.Like fresh b ∧ k.reading a = .ok a' ∧ k.reading b = .ok b'
  | _, _ => False

/-- Either both runs found an alert, or neither did. -/
theorem Paired.cases
    {open? open'? : Option Alert}
    (h : Paired fresh k r device p q open? open'?) :
    (open? = none ∧ open'? = none) ∨
      ∃ a' b', open? = some a' ∧ open'? = some b' ∧
        Paired fresh k r device p q (some a') (some b') := by
  cases open? with
  | none =>
      cases open'? with
      | none =>
          exact Or.inl ⟨rfl, rfl⟩
      | some b' =>
          exact h.elim
  | some a' =>
      cases open'? with
      | none =>
          exact h.elim
      | some b' =>
          exact Or.inr ⟨a', b', rfl, rfl, h⟩

theorem Alert.Like.symm
    (h : a.Like fresh b) :
    b.Like fresh a := by
  obtain ⟨id, rfl, hid⟩ := h
  exact ⟨a.id, rfl, hid.imp Eq.symm And.symm⟩

/-- The open alerts of a rule and a device have the same places in alike lists. -/
theorem place_of_isOpenFor
    (hp : Memory.Orderly ⟨p⟩)
    (hq : Memory.Orderly ⟨q⟩)
    (ha : a ∈ p)
    (hb : b ∈ q)
    (hopena : a.IsOpenFor r device)
    (hopenb : b.IsOpenFor r device) :
    ∀ x ∈ p, ∀ y ∈ q, x.Like fresh y → (x.id = a.id ↔ y.id = b.id) := by
  intro x hx y hy hxy
  constructor
  · intro hid
    obtain rfl : x = a := List.inj_on_of_nodup_map hp.ids hx ha hid
    rw [hq.eq_of_isOpenFor hy hb (hxy.isOpenFor hopena) hopenb]
  · intro hid
    obtain rfl : y = b := List.inj_on_of_nodup_map hq.ids hy hb hid
    rw [hp.eq_of_isOpenFor hx ha (hxy.symm.isOpenFor hopenb) hopena]

/-- Two runs find the same. -/
theorem Finds.agree
    {open? open'? : Option Alert}
    (hq : Memory.Orderly ⟨q⟩)
    (hlike : AllLike fresh p q)
    (h : Finds r device k p open?)
    (h' : Finds r device k q open'?) :
    Paired fresh k r device p q open? open'? := by
  cases open? with
  | none =>
      cases open'? with
      | none =>
          trivial
      | some b' =>
          obtain ⟨b, hb, -, hopen⟩ := h'
          obtain ⟨a, ha, hab⟩ := exists_of_mem_right hlike hb
          obtain ⟨hopen, htenant, hconcerns⟩ := hab.symm.isOpenFor hopen
          rw [h a ha hopen htenant] at hconcerns
          cases hconcerns
  | some a' =>
      obtain ⟨a, ha, hread, hopena⟩ := h
      obtain ⟨x, hx, hax⟩ := exists_of_mem_left hlike ha
      cases open'? with
      | none =>
          obtain ⟨hopen, htenant, hconcerns⟩ := hax.isOpenFor hopena
          rw [h' x hx hopen htenant] at hconcerns
          cases hconcerns
      | some b' =>
          obtain ⟨b, hb, hread', hopenb⟩ := h'
          obtain rfl := hq.eq_of_isOpenFor hx hb (hax.isOpenFor hopena) hopenb
          exact ⟨a, ha, x, hx, hopena, hopenb, hax, hread, hread'⟩

/-- Two runs recall alerts that were triggered at the same time. -/
theorem Recalls.agree
    {asked : Bool} {o o' : Outcome (Option Alert)}
    (hreading : Impartial k.reading)
    (hlike : AllLike fresh p q)
    (h : Recalls r device k p asked o)
    (h' : Recalls r device k q asked o') :
    o.map (Option.map Alert.clock) = o'.map (Option.map Alert.clock) := by
  unfold Recalls at h h'
  split_ifs at h h' with hasked
  · obtain ⟨l, hl, rfl⟩ := h
    obtain ⟨m, hm, rfl⟩ := h'
    exact hreading.newest?_agree hl hm <|
      List.rel_filter (fun a b hab => by simp only [hab.rule_eq, hab.device_eq]) hlike
  · rw [h, h']

variable {σ σ' : Type} {e : Setting σ} {e' : Setting σ'} {now : Moment}
  {report : Event → Report} {o o' : Outcome Unit} {told : Report}

/-- It is recorded how many channels delivered a notification. -/
theorem Records.agree
    (hreading : Impartial k.reading)
    (hfixed : Fixed e r k now report fresh)
    (hfixed' : Fixed e' r k now report fresh)
    (hp : Memory.Orderly ⟨p⟩)
    (hq : Memory.Orderly ⟨q⟩)
    (hlike : AllLike fresh p q)
    (ha : a ∈ p)
    (hb : b ∈ q)
    (hopena : a.IsOpenFor r device)
    (hopenb : b.IsOpenFor r device)
    (hab : a.Like fresh b)
    (h : Records e a told p o p')
    (h' : Records e' b told q o' q') :
    o = o' ∧ AllLike fresh p' q' := by
  cases h with
  | none hempty =>
      cases h' with
      | none =>
          exact ⟨rfl, hlike⟩
      | done hsome =>
          exact absurd hempty hsome
      | illegible hsome =>
          exact absurd hempty hsome
  | @done a' t hsome hread ht =>
      rw [hfixed.keeps] at hread
      cases h' with
      | none hempty =>
          exact absurd hempty hsome
      | @done b' u _ _ hu =>
          obtain rfl := hfixed.stamps t ht
          obtain rfl := hfixed'.stamps u hu
          have hplace : ∀ x ∈ p, ∀ y ∈ q, x.Like fresh y → (x.id = a.id ↔ y.id = b.id) :=
            place_of_isOpenFor hp hq ha hb hopena hopenb
          exact ⟨rfl, hlike.put hplace (hab.recordNotifications _ _)⟩
      | illegible _ hread' =>
          rw [hfixed'.keeps, (hreading.like hab hread).choose_spec.1] at hread'
          cases hread'
  | @illegible f hsome hread =>
      rw [hfixed.keeps] at hread
      have hread'' := hreading.error hab hread
      cases h' with
      | none hempty =>
          exact absurd hempty hsome
      | done _ hread' =>
          rw [hfixed'.keeps, hread''] at hread'
          cases hread'
      | illegible _ hread' =>
          rw [hfixed'.keeps, hread''] at hread'
          exact ⟨by rw [Except.error.inj hread'], hlike⟩

/-- A changed alert keeps the alerts orderly. -/
theorem orderly_put
    {c : Alert}
    (hp : Memory.Orderly ⟨p⟩)
    (ha : a ∈ p)
    (horigin : c.origin = a.origin)
    (hopen : c.isOpen = true → a.isOpen = true) :
    Memory.Orderly ⟨Memory.put c p⟩ := by
  obtain ⟨hid, -, hrule, hdevice, -⟩ := Alert.origin_eq_iff.mp horigin
  refine hp.insert fun b hb hopenb hopenc hbrule hbdevice => ?_
  rw [hid]
  exact hp.claims a ha b hb (hopen hopenc) hopenb (hrule.symm.trans hbrule)
    (hdevice.symm.trans hbdevice)

/-- A new alert keeps the alerts orderly if no other one is open for its rule and device. -/
theorem orderly_concat
    (hp : Memory.Orderly ⟨p⟩)
    (hnew : a.id ∉ p.map Alert.id)
    (hfree : k.taken p a.rule a.device = false) :
    Memory.Orderly ⟨p ++ [a]⟩ := by
  rw [← Memory.put_of_new hnew]
  refine hp.insert fun b hb hopenb _ hrule hdevice => ?_
  rw [Manner.taken, List.any_eq_false] at hfree
  exact absurd (by simp [hopenb, hrule, hdevice, k.alike_refl]) (hfree b hb)

/-- The alert that is read is the open one that was found, and has the same place in both
lists. -/
theorem Paired.of_reading
    {a' b' : Alert}
    (hreading : Impartial k.reading)
    (hp : Memory.Orderly ⟨p⟩)
    (hq : Memory.Orderly ⟨q⟩)
    (h : Paired fresh k r device p q (some a') (some b'))
    (ha : a ∈ p)
    (hb : b ∈ q)
    (hreada : k.reading a = .ok a')
    (hreadb : k.reading b = .ok b') :
    a.IsOpenFor r device ∧ b.IsOpenFor r device ∧ a.Like fresh b ∧
      ∀ x ∈ p, ∀ y ∈ q, x.Like fresh y → (x.id = a.id ↔ y.id = b.id) := by
  have hsame {v : List Alert} {x y z : Alert} (hv : Memory.Orderly ⟨v⟩) (hx : x ∈ v) (hy : y ∈ v)
      (hxz : k.reading x = .ok z) (hyz : k.reading y = .ok z) : x = y := by
    have hidx : z.id = x.id := (congrArg Alert.id (hreading.outline hxz) :)
    have hidy : z.id = y.id := (congrArg Alert.id (hreading.outline hyz) :)
    exact List.inj_on_of_nodup_map hv.ids hx hy (hidx.symm.trans hidy)
  obtain ⟨x, hx, y, hy, hopenx, hopeny, hxy, hreadx, hready⟩ := h
  obtain rfl := hsame hp ha hx hreada hreadx
  obtain rfl := hsame hq hb hy hreadb hready
  exact ⟨hopenx, hopeny, hxy, place_of_isOpenFor hp hq hx hy hopenx hopeny⟩

/-- What the channels report of an escalation. -/
theorem Fixed.told_ofEscalation
    (h : Fixed e r k now report fresh)
    (hreply : e.replies (.dispatch (.ofEscalation a r)) told) :
    told = report .escalated := by
  have hnotice : (Dispatch.ofEscalation a r).notice.rule = r ∧
      (Dispatch.ofEscalation a r).notice.event = .escalated := by
    unfold Dispatch.ofEscalation
    cases r.escalation? <;> exact ⟨rfl, rfl⟩
  have htold := h.tells _ told hnotice.1 hreply
  rwa [hnotice.2] at htold

/-- Two runs do the same to alike alerts. -/
theorem Does.agree
    {snapshot : Snapshot} {t : Transition} {open? open'? : Option Alert}
    (hreading : Impartial k.reading)
    (hfixed : Fixed e r k now report fresh)
    (hfixed' : Fixed e' r k now report fresh)
    (hp : Memory.Orderly ⟨p⟩)
    (hq : Memory.Orderly ⟨q⟩)
    (hlike : AllLike fresh p q)
    (hpaired : Paired fresh k r device p q open? open'?)
    (h : Does e r device snapshot p now t open? o p')
    (h' : Does e' r device snapshot q now t open'? o' q') :
    o = o' ∧ AllLike fresh p' q' := by
  have htaken_eq : e.keeping.taken p r.id device = e'.keeping.taken q r.id device := by
    rw [hfixed.keeps, hfixed'.keeps]
    exact AllLike.taken_eq hlike k r.id device
  cases h with
  | refused htaken =>
      cases h' with
      | refused =>
          exact ⟨rfl, hlike⟩
      | raised hfree =>
          rw [htaken_eq, hfree] at htaken
          cases htaken
      | kept ht =>
          simp at ht
  | @raised _ id told _ _ hfree hfresh hnew hreport hrecords =>
      cases h' with
      | refused htaken =>
          rw [htaken_eq, htaken] at hfree
          cases hfree
      | @raised _ id' told' _ _ hfree' hfresh' hnew' hreport' hrecords' =>
          obtain rfl := hfixed.tells _ told rfl hreport
          obtain rfl := hfixed'.tells _ told' rfl hreport'
          have hopen (id : String) : (Worker.raisedAlert id r device snapshot now).IsOpenFor r device :=
            ⟨rfl, rfl, by simp [Worker.raisedAlert, Alert.concerns]⟩
          have hab : (Worker.raisedAlert id r device snapshot now).Like fresh
              (Worker.raisedAlert id' r device snapshot now) :=
            ⟨id', rfl, Or.inr ⟨hfixed.draws id hfresh, hfixed'.draws id' hfresh'⟩⟩
          exact hrecords.agree hreading hfixed hfixed' (orderly_concat hp hnew hfree)
            (orderly_concat hq hnew' hfree') (List.rel_append hlike (.cons hab .nil)) (by simp) (by simp)
            (hopen id) (hopen id') hab hrecords'
      | kept ht =>
          simp at ht
  | kept ht =>
      cases h' with
      | kept =>
          exact ⟨rfl, hlike⟩
      | _ =>
          simp at ht
  | @ended a a' t ha hread ht =>
      cases h' with
      | kept ht =>
          simp at ht
      | @ended b b' u hb hread' hu =>
          obtain rfl := hfixed.stamps t ht
          obtain rfl := hfixed'.stamps u hu
          rw [hfixed.keeps] at hread
          rw [hfixed'.keeps] at hread'
          obtain ⟨-, -, hab, hplace⟩ := hpaired.of_reading hreading hp hq ha hb hread hread'
          exact ⟨rfl, hlike.put hplace (hab.resolve _ _)⟩
  | @escalated a a' told _ _ ha hread hreport hrecords =>
      cases h' with
      | kept ht =>
          simp at ht
      | @escalated b b' told' _ _ hb hread' hreport' hrecords' =>
          rw [hfixed.keeps] at hread
          rw [hfixed'.keeps] at hread'
          obtain ⟨hopena, hopenb, hab, hplace⟩ :=
            hpaired.of_reading hreading hp hq ha hb hread hread'
          obtain rfl := hfixed.told_ofEscalation hreport
          obtain rfl := hfixed'.told_ofEscalation hreport'
          exact hrecords.agree hreading hfixed hfixed'
            (orderly_put (c := a.escalate now) hp ha rfl id)
            (orderly_put (c := b.escalate now) hq hb rfl id)
            (hlike.put hplace (hab.escalate now)) (Memory.mem_put_self _ _)
            (Memory.mem_put_self _ _) hopena hopenb (hab.escalate now) hrecords'

/-! ### Whole evaluations -/

/-- What is decided once it is known what was recalled. -/
def decision
    (open? : Option Alert) (fires : Bool) (last : Outcome (Option Alert)) (r : Rule) (now : Moment)
    (again : Bool) : Outcome Transition :=
  last >>= fun last? => timed (Transition.choose open? fires last? r now again)

theorem decision_agree
    {open? open'? : Option Alert} {last last' : Outcome (Option Alert)} {fires again : Bool}
    (hreading : Impartial k.reading)
    (hpaired : Paired fresh k r device p q open? open'?)
    (hlast : last.map (Option.map Alert.clock) = last'.map (Option.map Alert.clock)) :
    decision open? fires last r now again = decision open'? fires last' r now again := by
  have hopen : open?.map (fun a => (a.status, a.lastEscalatedAt?, a.triggeredAt)) =
      open'?.map fun a => (a.status, a.lastEscalatedAt?, a.triggeredAt) := by
    have hoption {c d : Alert} (h : k.reading c = .ok d) :
        (c.status, c.lastEscalatedAt?, c.triggeredAt) =
          (d.status, d.lastEscalatedAt?, d.triggeredAt) :=
      (congrArg (fun x : Alert => (x.status, x.lastEscalatedAt?, x.triggeredAt))
        (hreading.outline h).symm :)
    rcases hpaired.cases with ⟨rfl, rfl⟩ |
      ⟨a', b', rfl, rfl, a, -, b, -, -, -, ⟨id, rfl, -⟩, hreada, hreadb⟩
    · rfl
    · exact congrArg some ((hoption hreada).symm.trans (hoption hreadb :))
  cases last with
  | error f =>
      cases last' with
      | error g =>
          cases hlast
          rfl
      | ok y? =>
          cases hlast
  | ok x? =>
      cases last' with
      | error g =>
          cases hlast
      | ok y? =>
          exact congrArg timed (choose_agree hopen (Except.ok.inj hlast))

section

variable {snapshot : Snapshot} {again : Bool} {lists lists' : List Alert → List Alert → Prop}
  {u u' : Outcome Transition}

/-- An evaluation fails when the alerts are listed, or it carries out what is decided. -/
theorem Settles.cases_decision
    (hfixed : Fixed e r k now report fresh)
    (h : Settles e r device snapshot again lists p u p') :
    (∃ l f, lists p l ∧ l.mapM k.reading >>= newestFirst = .error f ∧ u = .error f ∧ p' = p) ∨
      Listed e lists p ∧ ∃ open? last, Finds r device k p open? ∧
        Recalls r device k p (open?.isNone && r.fires snapshot) last ∧
          ((∃ f, decision open? (r.fires snapshot) last r now again = .error f ∧
            u = .error f ∧ p' = p) ∨
          ∃ t o, decision open? (r.fires snapshot) last r now again = .ok t ∧
            Does e r device snapshot p now t open? o p' ∧ u = o.map fun _ => t) := by
  obtain rfl := hfixed.keeps
  cases h with
  | @unlisted l f hl herror =>
      exact Or.inl ⟨l, f, hl, herror, rfl, rfl⟩
  | @unrecalled open? f hlisted hopen hlast =>
      exact Or.inr ⟨hlisted, open?, _, hopen, hlast, Or.inl ⟨f, rfl, rfl, rfl⟩⟩
  | @undecided open? last? t f hnow hlisted hopen hlast hchoose =>
      obtain rfl := hfixed.shows t hnow
      refine Or.inr ⟨hlisted, open?, _, hopen, hlast, Or.inl ⟨.time f, ?_, rfl, rfl⟩⟩
      exact congrArg timed hchoose
  | @decided open? last? t' t o _ hnow hlisted hopen hlast hchoose hdoes =>
      obtain rfl := hfixed.shows t' hnow
      refine Or.inr ⟨hlisted, open?, _, hopen, hlast, Or.inr ⟨t, o, ?_, hdoes, rfl⟩⟩
      exact congrArg timed hchoose

/-- An evaluation does the same to alike alerts, and has the same outcome. -/
theorem Settles.agree
    (hreading : Impartial k.reading)
    (hfixed : Fixed e r k now report fresh)
    (hfixed' : Fixed e' r k now report fresh)
    (hp : Memory.Orderly ⟨p⟩)
    (hq : Memory.Orderly ⟨q⟩)
    (hlike : AllLike fresh p q)
    (hlists : ∀ l m, lists p l → lists' q m →
      (l.mapM k.reading >>= newestFirst).map (fun _ => ()) =
        (m.mapM k.reading >>= newestFirst).map fun _ => ())
    (h : Settles e r device snapshot again lists p u p')
    (h' : Settles e' r device snapshot again lists' q u' q') :
    u = u' ∧ AllLike fresh p' q' := by
  have hkeeps := hfixed.keeps
  have hkeeps' := hfixed'.keeps
  rcases h.cases_decision hfixed with ⟨l, f, hl, hf, rfl, rfl⟩ |
    ⟨⟨l, found, hl, hfound⟩, open?, last, hopen, hlast, hdone⟩
  · rcases h'.cases_decision hfixed' with ⟨m, g, hm, hg, rfl, rfl⟩ | ⟨⟨m, found, hm, hfound⟩, -⟩
    · have hsame := hlists l m hl hm
      rw [hf, hg] at hsame
      exact ⟨by rw [Except.error.inj hsame], hlike⟩
    · have hsame := hlists l m hl hm
      rw [hf, ← hkeeps', hfound] at hsame
      cases hsame
  · rcases h'.cases_decision hfixed' with ⟨m, g, hm, hg, rfl, rfl⟩ |
      ⟨-, open'?, last', hopen', hlast', hdone'⟩
    · have hsame := hlists l m hl hm
      rw [hg, ← hkeeps, hfound] at hsame
      cases hsame
    · have hpaired := hopen.agree hq hlike hopen'
      have hisNone : open?.isNone = open'?.isNone := by
        rcases hpaired.cases with ⟨rfl, rfl⟩ | ⟨a', b', rfl, rfl, -⟩ <;> rfl
      rw [← hisNone] at hlast'
      have hdecision : decision open? (r.fires snapshot) last r now again =
          decision open'? (r.fires snapshot) last' r now again :=
        decision_agree hreading hpaired (hlast.agree hreading hlike hlast')
      rcases hdone with ⟨f, hf, rfl, rfl⟩ | ⟨t, o, ht, hdoes, rfl⟩
      · rcases hdone' with ⟨g, hg, rfl, rfl⟩ | ⟨t, o, ht, -, -⟩
        · rw [hf, hg] at hdecision
          exact ⟨by rw [Except.error.inj hdecision], hlike⟩
        · rw [hf, ht] at hdecision
          cases hdecision
      · rcases hdone' with ⟨g, hg, -, -⟩ | ⟨t', o', ht', hdoes', rfl⟩
        · rw [ht, hg] at hdecision
          cases hdecision
        · rw [ht, ht'] at hdecision
          obtain rfl := Except.ok.inj hdecision
          obtain ⟨rfl, hlike'⟩ :=
            hdoes.agree hreading hfixed hfixed' hp hq hlike hpaired hdoes'
          exact ⟨rfl, hlike'⟩

theorem Heeds.agree
    (hreading : Impartial k.reading)
    (hfixed : Fixed e r k now report fresh)
    (hfixed' : Fixed e' r k now report fresh)
    (hp : Memory.Orderly ⟨p⟩)
    (hq : Memory.Orderly ⟨q⟩)
    (hlike : AllLike fresh p q)
    (hlists : ∀ l m, lists p l → lists' q m →
      (l.mapM k.reading >>= newestFirst).map (fun _ => ()) =
        (m.mapM k.reading >>= newestFirst).map fun _ => ())
    (h : Heeds e again r device lists snapshot p u p')
    (h' : Heeds e' again r device lists' snapshot q u' q') :
    u = u' ∧ AllLike fresh p' q' := by
  rcases h with ⟨hnone, rfl, rfl⟩ | ⟨hsome, hsettles⟩
  · rcases h' with ⟨-, rfl, rfl⟩ | ⟨hsome, -⟩
    · exact ⟨rfl, hlike⟩
    · exact absurd hnone hsome
  · rcases h' with ⟨hnone, -⟩ | ⟨-, hsettles'⟩
    · exact absurd hnone hsome
    · exact hsettles.agree hreading hfixed hfixed' hp hq hlike hlists hsettles'

end
end

/-! ### Evaluations one after the other -/

/-- Evaluations on the same occasions do the same to alike alerts, and have the same outcomes. -/
theorem Course.agree
    {σ σ' : Type} {e : Setting σ} {e' : Setting σ'} {fresh : String → Prop}
    {k : Manner} {now : Moment} {report : Rule → Event → Report}
    {again : Bool} {here here' : Rule → String → Prop}
    {lists lists' : Rule → String → List Alert → List Alert → Prop} {p q p' q' : List Alert}
    {js js' : Journal}
    (hreading : Impartial k.reading)
    (hfixed : ∀ r device, here r device → Fixed e r k now (report r) fresh)
    (hfixed' : ∀ r device, here' r device → Fixed e' r k now (report r) fresh)
    (hlists : ∀ r device p q l m, here r device → here' r device → AllLike fresh p q →
      lists r device p l → lists' r device q m →
        (l.mapM k.reading >>= newestFirst).map (fun _ => ()) =
          (m.mapM k.reading >>= newestFirst).map fun _ => ())
    (hsame : js.map Note.occasion? = js'.map Note.occasion?)
    (hlike : AllLike fresh p q)
    (h : Course e again here lists p js p')
    (h' : Course e' again here' lists' q js' q') :
    js = js' ∧ AllLike fresh p' q' := by
  induction h generalizing q js' with
  | done =>
      cases h' with
      | done =>
          exact ⟨rfl, hlike⟩
      | note =>
          cases hsame
  | @note p p₁ p' r device reply o js hhere horderly hheeds hrest ih =>
      cases h' with
      | done =>
          cases hsame
      | @note _ q₁ _ r' device' reply' o' js' hhere' horderly' hheeds' hrest' =>
          obtain ⟨hoccasion, hlater⟩ := List.cons.inj hsame
          obtain ⟨⟨rfl, rfl⟩, rfl⟩ : (r = r' ∧ device = device') ∧ reply = reply' := by
            simpa [Note.occasion?] using hoccasion
          obtain ⟨rfl, hlike₁⟩ := hheeds.agree hreading (hfixed r device hhere)
            (hfixed' r device hhere') horderly horderly' hlike
            (fun l m => hlists r device p q l m hhere hhere' hlike) hheeds'
          obtain ⟨rfl, hlike'⟩ := ih hlater hlike₁ hrest'
          exact ⟨rfl, hlike'⟩

end TelemetryAlerts
