import TelemetryAlerts.Proofs.Web.Segments

/-!
# Addresses in normal form

The path of an address in normal form is escaped, and has no segment of points if the address has a
scheme or names a server. An address with another target is brought into this form again, which
changes nothing of what was normal before. A base address is one to whose path a reference can be
appended: it ends in a slash, unless there is a query in between.

**Results.**
* `of_normal?`, `isNormal_of_normal?`: the path and the query of a normal form.
* `of_withTarget?`, `isPlaced_of_withTarget?`: what becomes of an address with another target.
* `breakAt_target_of_some`: what is appended to an address with a query goes into the query.
* `isBase_of_asBase?`: every normal address can be made a base.
-/

namespace TelemetryAlerts
namespace Web
namespace Address

/-- Whether an address has a scheme or names a server. -/
def isPlaced (a : Address) : Bool :=
  !a.scheme.isEmpty || (!a.userinfo.isEmpty || !a.host.isEmpty || a.port?.isSome)

/-- A path as it stands in an address: without segments of points if the address is placed, and
escaped. -/
def settledPath (isPlaced : Bool) (path : List Char) : List Char :=
  escapePath (if isPlaced then withoutDots path else path)

/-- A path that is escaped and has no segments of points stands as it is. -/
theorem settledPath_of_dotless
    {isPlaced : Bool} {path : List Char}
    (hescaped : escapePath path = path)
    (hdotless : isPlaced = true → ∀ s ∈ splitAt '/' path, ¬ IsDots s) :
    settledPath isPlaced path = path := by
  unfold settledPath
  split_ifs with hplaced
  · rw [withoutDots_of_forall (hdotless hplaced), hescaped]
  · exact hescaped

/-- An address whose path needs no more change. -/
structure IsNormal (a : Address) : Prop where
  escaped : escapePath a.path = a.path
  dotless : a.isPlaced = true → ∀ s ∈ splitAt '/' a.path, ¬ IsDots s

/-- The parts of a text that can be read as an address can be, too. -/
theorem isAcceptable_of_append
    {cs ds : List Char}
    (h : isAcceptable (cs ++ ds) = true) :
    isAcceptable cs = true ∧ isAcceptable ds = true := by
  simp only [isAcceptable, Bool.and_eq_true, decide_eq_true_eq, List.length_append,
    List.all_append] at h ⊢
  exact ⟨⟨by omega, h.2.1⟩, ⟨by omega, h.2.2⟩⟩

/-! ### Breaking at a mark -/

theorem breakAt_fst
    (sep : Char) (cs : List Char) :
    (breakAt sep cs).1 = cs.takeWhile (· != sep) := by
  unfold breakAt
  dsimp only
  split <;> rfl

/-- What has no mark comes before what is broken. -/
theorem breakAt_append_of_notMem
    {sep : Char} {cs : List Char}
    (h : sep ∉ cs)
    (ds : List Char) :
    breakAt sep (cs ++ ds) = (cs ++ (breakAt sep ds).1, (breakAt sep ds).2) := by
  have hall : ∀ c ∈ cs, (c != sep) = true := fun c hc => by
    simpa using fun heq : c = sep => h (heq ▸ hc)
  simp only [breakAt, List.takeWhile_append_of_pos hall, List.length_append, List.drop_append,
    List.drop_eq_nil_of_le (Nat.le_add_right _ _), Nat.add_sub_cancel_left, List.nil_append]
  split <;> rfl

theorem breakAt_cons
    (sep : Char) (cs : List Char) :
    breakAt sep (sep :: cs) = ([], some cs) := by
  simp [breakAt]

theorem breakAt_of_notMem
    {sep : Char} {cs : List Char}
    (h : sep ∉ cs) :
    breakAt sep cs = (cs, none) := by
  have hbroken := breakAt_append_of_notMem h []
  rwa [List.append_nil, show breakAt sep [] = ([], none) from rfl, List.append_nil] at hbroken

/-- What comes before the first mark. -/
theorem breakAt_of_first
    {sep : Char} {cs : List Char}
    (h : sep ∉ cs)
    (ds : List Char) :
    breakAt sep (cs ++ sep :: ds) = (cs, some ds) := by
  rw [breakAt_append_of_notMem h, breakAt_cons, List.append_nil]

/-- What comes after a first mark makes no difference to what comes before it. -/
theorem breakAt_fst_append
    (sep : Char) (cs ds : List Char) :
    (breakAt sep (cs ++ sep :: ds)).1 = (breakAt sep cs).1 := by
  by_cases h : sep ∈ cs
  · obtain ⟨first, rest, rfl, hfirst⟩ := List.eq_append_cons_of_mem h
    rw [List.append_assoc, List.cons_append, breakAt_of_first hfirst, breakAt_of_first hfirst]
  · rw [breakAt_of_first h, breakAt_of_notMem h]

/-! ### Normal forms -/

theorem isEmpty_percentEncode
    (safe : Char → Bool) (cs : List Char) :
    (percentEncode safe cs).isEmpty = cs.isEmpty := by
  cases cs with
  | nil =>
      rfl
  | cons c cs =>
      obtain ⟨b, tail, hbytes, -⟩ := Text.utf8EncodeChar_begins c
      rw [percentEncode, List.flatMap_cons, percentChar_eq, hbytes, List.flatMap_cons,
        percentByte_eq]
      split_ifs <;> rfl

/-- The path and the query of a normal form. -/
theorem of_normal?
    {r : Raw} {a : Address}
    (h : r.normal? = some a) :
    a.path = settledPath a.isPlaced r.path ∧
      a.query? = r.query?.map (percentEncode isQuerySafe) := by
  simp only [Raw.normal?, Option.bind_eq_bind, Option.bind_eq_some_iff] at h
  obtain ⟨host, -, port?, -, h⟩ := h
  split at h
  · obtain rfl := Option.some.inj h
    refine ⟨?_, rfl⟩
    simp only [settledPath, isPlaced, isEmpty_percentEncode, List.isEmpty_map]
    rfl
  · cases h

/-- Every normal form is normal. -/
theorem isNormal_of_normal?
    {r : Raw} {a : Address}
    (h : r.normal? = some a) :
    a.IsNormal := by
  have hpath := (of_normal? h).1
  constructor
  · rw [hpath, settledPath, escapePath_escapePath]
  · intro hplaced s hs hdots
    rw [hpath, settledPath, if_pos hplaced, splitAt_escapePath] at hs
    obtain ⟨t, ht, rfl⟩ := List.mem_map.mp hs
    exact not_isDots_of_mem_withoutDots ht (isDots_escapePath.mp hdots)

/-- The normal form of parts without scheme and server. -/
theorem normal?_of_unplaced
    (path : List Char) (query? fragment? : Option (List Char)) :
    Raw.normal? ⟨[], [], path, query?, fragment?⟩ =
      if pathFits path false false then
        some ⟨[], [], [], none, escapePath path, query?.map (percentEncode isQuerySafe),
          fragment?.map (percentEncode isFragmentSafe)⟩
      else none :=
  rfl

/-! ### Other targets -/

/-- What is made from an address that is not placed is not placed either. -/
theorem isPlaced_of_withTarget?
    {a b : Address} {target : List Char}
    (h : a.withTarget? target = some b)
    (hb : b.isPlaced = true) :
    a.isPlaced = true := by
  refine Decidable.byContradiction fun ha => ?_
  simp only [isPlaced, Bool.or_eq_true, Bool.not_eq_true', not_or, Bool.not_eq_false,
    List.isEmpty_iff, Bool.not_eq_true, Option.isSome_eq_false_iff, Option.isNone_iff_eq_none] at ha
  obtain ⟨hscheme, ⟨huser, hhost⟩, hport⟩ := ha
  have hauthority : a.authority = [] := by
    simp [authority, huser, hhost, hport]
  unfold withTarget? at h
  rw [hscheme, hauthority] at h
  split_ifs at h
  simp only [normal?_of_unplaced] at h
  split_ifs at h
  obtain rfl := Option.some.inj h
  cases hb

/-- The path and the query of an address with another target. -/
theorem of_withTarget?
    {a b : Address} {target : List Char}
    (h : a.withTarget? target = some b) :
    b.path = settledPath b.isPlaced (breakAt '?' target).1 ∧
      b.query? = (breakAt '?' target).2.map (percentEncode isQuerySafe) ∧ b.IsNormal := by
  unfold withTarget? at h
  split_ifs at h
  exact ⟨(of_normal? h).1, (of_normal? h).2, isNormal_of_normal? h⟩

/-! ### Base addresses -/

/-- The path of an address, to which references are appended; an empty path counts as a slash. -/
def root (a : Address) : List Char :=
  if a.path.isEmpty then ['/'] else a.path

theorem target_eq
    (a : Address) :
    a.target = a.root ++ (a.query?.map ('?' :: ·)).getD [] :=
  rfl

theorem target_of_none
    {a : Address}
    (h : a.query? = none) :
    a.target = a.root := by
  rw [target_eq, h]
  exact List.append_nil _

/-- A base address is normal, and without a query its path ends in a slash. -/
structure IsBase (b : Address) : Prop where
  normal : b.IsNormal
  ends : b.query? = none → ∃ r, b.root = r ++ ['/']

theorem escapePath_root
    {b : Address}
    (h : b.IsNormal) :
    escapePath b.root = b.root := by
  unfold root
  split_ifs
  · rfl
  · exact h.escaped

theorem notMem_root
    {b : Address}
    (h : b.IsNormal) :
    '?' ∉ b.root := by
  intro hmem
  rw [← escapePath_root h] at hmem
  exact absurd (isPlain_of_mem_escapePath hmem) (by decide)

theorem dotless_root
    {b : Address}
    (h : b.IsNormal)
    (hplaced : b.isPlaced = true) :
    ∀ s ∈ splitAt '/' b.root, ¬ IsDots s := by
  unfold root
  split_ifs
  · intro s hs
    have hempty : s = [] := by
      simpa [splitAt] using hs
    simp [hempty, IsDots]
  · exact h.dotless hplaced

/-- What is appended to an address with a query goes into the query. -/
theorem breakAt_target_of_some
    {a : Address} {query : List Char}
    (ha : a.IsNormal)
    (h : a.query? = some query)
    (appended : List Char) :
    breakAt '?' (a.target ++ appended) = (a.root, some (query ++ appended)) := by
  have htarget : a.target ++ appended = a.root ++ '?' :: (query ++ appended) := by
    rw [target_eq, h, List.append_assoc]
    rfl
  rw [htarget, breakAt_of_first (notMem_root ha)]

/-- The address of a text is normal. -/
theorem isNormal_of_ofText?
    {text : String} {a : Address}
    (h : ofText? text = some a) :
    a.IsNormal := by
  unfold ofText? at h
  dsimp only at h
  split_ifs at h
  exact isNormal_of_normal? h

/-- A normal address is made a base by a slash at its end. -/
theorem isBase_of_asBase?
    {a b : Address}
    (ha : a.IsNormal)
    (h : asBase? a = some b) :
    IsBase b := by
  unfold asBase? at h
  split_ifs at h with hends
  · obtain rfl := Option.some.inj h
    refine ⟨ha, fun hquery => ?_⟩
    rw [target_of_none hquery, List.getLast?_eq_some_iff] at hends
    exact hends
  · obtain ⟨hpath, hquery, hb⟩ := of_withTarget? h
    refine ⟨hb, fun hnone => ?_⟩
    cases haquery : a.query? with
    | some query =>
        rw [breakAt_target_of_some ha haquery, hnone] at hquery
        cases hquery
    | none =>
        have hslash : '?' ∉ a.root ++ ['/'] := by
          simpa using notMem_root ha
        have hescaped : escapePath (a.root ++ ['/']) = a.root ++ ['/'] := by
          rw [escapePath_append, escapePath_root ha]
          rfl
        have hdotless (hplaced : b.isPlaced = true) :
            ∀ s ∈ splitAt '/' (a.root ++ ['/']), ¬ IsDots s := by
          rw [splitAt_append, List.forall_mem_append]
          refine ⟨dotless_root ha (isPlaced_of_withTarget? h hplaced), ?_⟩
          simp [splitAt, IsDots]
        rw [target_of_none haquery, breakAt_of_notMem hslash,
          settledPath_of_dotless hescaped hdotless] at hpath
        refine ⟨a.root, ?_⟩
        rw [root, hpath, if_neg (by simp)]

end Address
end Web
end TelemetryAlerts
