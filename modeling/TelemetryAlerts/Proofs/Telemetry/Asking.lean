import TelemetryAlerts.Proofs.Telemetry.Fetching

/-!
# Asking about a device

The id of a device goes unchanged into the reference under which the service is asked about it, so
that it is read as part of an address: what follows a question mark or a number sign is no part of
the path, slashes make several segments, segments of points take others away, and an escape stands
for what it escapes. An id without any of these is a segment of the path; no other one is.

**Results.**
* `endpoint_latestPath`, `of_endpoint`: the address, and the path, at which a device is asked about.
* `isSegment_of_asksFor`, `asksFor_of_isSegment`: the ids that are asked about in segments of their
  own.
* `endpoint_double`: every device has a double that is asked about at the same address.
* `asked_asSegment_iff`: these together, for all requests under a base address.
-/

namespace TelemetryAlerts
namespace Query

open Web Web.Address

/-! ### Base addresses -/

/-- The base address at a URL is normal, and without a query its path ends in a slash. -/
theorem isBase_of_base
    {url : String} {b : Address}
    (h : base url = .ok b) :
    IsBase b := by
  unfold base at h
  dsimp only at h
  split at h
  · next a ha =>
      cases h
      obtain ⟨a, ha, hb⟩ := Option.bind_eq_some_iff.mp ha
      exact isBase_of_asBase? (isNormal_of_ofText? ha) hb
  · cases h

/-! ### References -/

/-- The path under which devices are asked about, without its first slash. -/
def stem : List Char :=
  "api/timeseries/telemetry/device/".toList

/-- What of the end of a device's path is heard as a path, and as a query. -/
def heard (device : String) : List Char × Option (List Char) :=
  breakAt '?' (breakAt '#' (device.toList ++ "/latest".toList)).1

/-- What is appended to the base to ask about a device. -/
def appendix (device : String) : List Char :=
  stem ++ escapePath (heard device).1 ++
    (((heard device).2.map (percentEncode isQuerySafe)).map ('?' :: ·)).getD []

theorem latestPath_toList_eq
    (device : String) :
    (latestPath device).toList = '/' :: stem ++ (device.toList ++ "/latest".toList) := by
  rw [latestPath_toList]
  rfl

theorem ofChars_latestPath
    (device : String) :
    Raw.ofChars (latestPath device).toList =
      ⟨[], [], '/' :: stem ++ (heard device).1, (heard device).2,
        (breakAt '#' (device.toList ++ "/latest".toList)).2⟩ := by
  have hscheme (cs : List Char) : splitScheme ('/' :: cs) = ([], '/' :: cs) := rfl
  have hauthority (cs : List Char) :
      splitAuthority ('/' :: stem ++ cs) = ([], '/' :: stem ++ cs) := rfl
  have hbreak (sep : Char) (cs : List Char) (hsep : sep ∉ '/' :: stem) :=
    breakAt_append_of_notMem hsep cs
  rw [latestPath_toList_eq, Raw.ofChars, List.cons_append, hscheme]
  dsimp only
  rw [← List.cons_append, hauthority]
  dsimp only
  rw [hbreak '#' _ (by decide), hbreak '?' _ (by decide)]
  rfl

/-- A reference makes an address with what is appended to the base. -/
theorem endpoint_latestPath
    {device : String}
    (h : isAcceptable (latestPath device).toList = true)
    (b : Address) :
    endpoint b (latestPath device) =
      match b.withTarget? (b.target ++ appendix device) with
      | some a => .ok a
      | none => .error .invalidAddress := by
  have hescaped : escapePath ('/' :: stem ++ (heard device).1) =
      '/' :: stem ++ escapePath (heard device).1 := by
    rw [escapePath_append]
    rfl
  have hfits : pathFits ('/' :: stem ++ (heard device).1) false false = true := rfl
  have hresolve (r : Address) (hr : r.scheme = []) :
      b.resolve? r = b.withTarget? (b.target ++ r.target.dropWhile (· == '/')) := by
    rw [resolve?, isAbsolute, hr]
    rfl
  rw [endpoint, ofText?, if_pos h, ofChars_latestPath, normal?_of_unplaced, if_pos hfits,
    Option.bind_some, hresolve _ rfl, hescaped]
  rfl

/-! ### The paths that are asked for -/

/-- The first segments of a path under which a device is asked about: those of the base up to its
last slash, and those of the service. -/
def lead (r : List Char) : List (List Char) :=
  splitAt '/' r ++
    ["api".toList, "timeseries".toList, "telemetry".toList, "device".toList]

theorem splitAt_stem
    (r cs : List Char) :
    splitAt '/' (r ++ ['/'] ++ stem ++ cs) = lead r ++ splitAt '/' cs := by
  have hstem : stem = "api".toList ++ '/' :: ("timeseries".toList ++ '/' ::
      ("telemetry".toList ++ '/' :: ("device".toList ++ ['/']))) := by
    decide
  have hapi : '/' ∉ "api".toList := by decide
  have htimeseries : '/' ∉ "timeseries".toList := by decide
  have htelemetry : '/' ∉ "telemetry".toList := by decide
  have hdevice : '/' ∉ "device".toList := by decide
  rw [hstem]
  simp only [List.append_assoc, List.cons_append, List.nil_append]
  rw [splitAt_append, splitAt_of_first hapi, splitAt_of_first htimeseries,
    splitAt_of_first htelemetry, splitAt_of_first hdevice, lead, List.append_assoc]
  rfl

theorem dotless_lead
    {b : Address} {r : List Char}
    (h : b.IsNormal)
    (hplaced : b.isPlaced = true)
    (hr : b.root = r ++ ['/']) :
    ∀ s ∈ lead r, ¬ IsDots s := by
  have hroot := dotless_root h hplaced
  rw [hr, splitAt_append, List.forall_mem_append] at hroot
  rw [lead, List.forall_mem_append]
  exact ⟨hroot.1, by decide⟩

theorem notMem_escapePath
    (cs : List Char) :
    '?' ∉ escapePath cs :=
  fun h => absurd (isPlain_of_mem_escapePath h) (by decide)

/-- What becomes of the path of a base and of the id of a device. -/
theorem of_endpoint
    {b a : Address} {device : String}
    (hb : IsBase b)
    (h : endpoint b (latestPath device) = .ok a) :
    (a.isPlaced = true → b.isPlaced = true) ∧
      a.path = settledPath a.isPlaced
        (if b.query? = none then b.root ++ stem ++ escapePath (heard device).1 else b.root) := by
  rw [endpoint_latestPath (isAcceptable_of_endpoint h)] at h
  split at h
  · next a' ha =>
      cases h
      refine ⟨isPlaced_of_withTarget? ha, ?_⟩
      rw [(of_withTarget? ha).1]
      cases hquery : b.query? with
      | some query =>
          rw [breakAt_target_of_some hb.normal hquery, if_neg (by simp)]
      | none =>
          have hpath : '?' ∉ b.root ++ (stem ++ escapePath (heard device).1) := by
            simp only [List.mem_append, not_or]
            exact ⟨notMem_root hb.normal, by decide, notMem_escapePath _⟩
          have hend : (breakAt '?' ((((heard device).2.map (percentEncode isQuerySafe)).map
              ('?' :: ·)).getD [])).1 = [] := by
            cases (heard device).2 with
            | none =>
                rfl
            | some query =>
                rw [Option.map_some, Option.map_some, Option.getD_some, breakAt_cons]
          rw [target_of_none hquery, appendix, ← List.append_assoc,
            breakAt_append_of_notMem hpath, if_pos rfl, hend, List.append_nil, List.append_assoc]
  · cases h

/-- Under a base with a query, every device is asked about at the path of the base. -/
theorem path_of_query
    {b a : Address} {device : String}
    (hb : IsBase b)
    (hquery : b.query? ≠ none)
    (h : endpoint b (latestPath device) = .ok a) :
    a.path = b.root := by
  obtain ⟨hplaced, hpath⟩ := of_endpoint hb h
  rw [hpath, if_neg hquery, settledPath_of_dotless (escapePath_root hb.normal)
    fun ha => dotless_root hb.normal (hplaced ha)]

/-! ### What is heard of an id -/

/-- All of an id without marks is heard. -/
theorem heard_of_notMem
    {device : String}
    (hquestion : '?' ∉ device.toList)
    (hnumber : '#' ∉ device.toList) :
    (heard device).1 = device.toList ++ "/latest".toList := by
  rw [heard, breakAt_append_of_notMem hnumber,
    show breakAt '#' "/latest".toList = ("/latest".toList, none) by decide,
    breakAt_append_of_notMem hquestion,
    show breakAt '?' "/latest".toList = ("/latest".toList, none) by decide]

/-- Less than the whole of an id with a mark is heard. -/
theorem length_heard_lt
    {device : String}
    (h : '?' ∈ device.toList ∨ '#' ∈ device.toList) :
    (heard device).1.length < device.toList.length := by
  have hless (sep : Char) (cs : List Char) : (breakAt sep cs).1.length ≤ cs.length := by
    rw [breakAt_fst]
    exact (List.takeWhile_sublist _).length_le
  by_cases hnumber : '#' ∈ device.toList
  · obtain ⟨first, rest, hdevice, hfirst⟩ := List.eq_append_cons_of_mem hnumber
    have hheard := hless '?' first
    rw [heard, hdevice, List.append_assoc, List.cons_append, breakAt_of_first hfirst]
    simp only [List.length_append, List.length_cons]
    omega
  · have hquestion := h.resolve_right hnumber
    obtain ⟨first, rest, hdevice, hfirst⟩ := List.eq_append_cons_of_mem hquestion
    rw [heard, breakAt_append_of_notMem hnumber, hdevice, List.append_assoc, List.cons_append,
      breakAt_of_first hfirst]
    simp only [List.length_append, List.length_cons]
    omega

/-! ### Devices in a segment of their own -/

/-- Whether an address asks about a device in a segment of its own: one that stands for the id. -/
def AsksFor (b : Address) (device : String) (a : Address) : Prop :=
  ∃ segment, '/' ∉ segment ∧ unescape segment = device.toList ∧
    a.path = b.root ++ stem ++ segment ++ "/latest".toList

/-- Whether an id is a segment of its own: nothing in it has a meaning in a path. -/
structure IsSegment (isPlaced : Bool) (device : String) : Prop where
  slash : '/' ∉ device.toList
  question : '?' ∉ device.toList
  number : '#' ∉ device.toList
  unescaped : unescape device.toList = device.toList
  dotless : isPlaced = true → ¬ IsDots device.toList

/-- An id without slashes, marks and percent signs is a segment, unless it is one of points. -/
theorem IsSegment.of_notMem
    {device : String}
    (hslash : '/' ∉ device.toList)
    (hquestion : '?' ∉ device.toList)
    (hnumber : '#' ∉ device.toList)
    (hpercent : '%' ∉ device.toList)
    (hdotless : ¬ IsDots device.toList)
    (isPlaced : Bool) :
    IsSegment isPlaced device where
  slash := hslash
  question := hquestion
  number := hnumber
  unescaped := unescape_of_notMem hpercent
  dotless := fun _ => hdotless

section

variable {b a : Address} {device : String}

theorem splitAt_latest
    (cs : List Char) :
    splitAt '/' (cs ++ "/latest".toList) = splitAt '/' cs ++ ["latest".toList] := by
  have hlatest : "/latest".toList = '/' :: "latest".toList := by
    decide
  have hslash : '/' ∉ "latest".toList := by
    decide
  rw [hlatest, splitAt_append, splitAt_of_notMem hslash]

theorem asksFor_of_isSegment
    (hb : IsBase b)
    (hquery : b.query? = none)
    (hd : IsSegment a.isPlaced device)
    (h : endpoint b (latestPath device) = .ok a) :
    AsksFor b device a := by
  obtain ⟨hplaced, hpath⟩ := of_endpoint hb h
  obtain ⟨r, hr⟩ := hb.ends hquery
  have hslash : '/' ∉ escapePath device.toList :=
    mt (mem_of_mem_escapePath (by decide) (by decide)) hd.slash
  have hlatest : escapePath "/latest".toList = "/latest".toList := by
    decide
  rw [if_pos hquery, heard_of_notMem hd.question hd.number, escapePath_append, hlatest,
    ← List.append_assoc] at hpath
  refine ⟨escapePath device.toList, hslash, ?_, ?_⟩
  · rw [unescape_escapePath, hd.unescaped]
  · rw [hpath]
    refine settledPath_of_dotless ?_ fun ha => ?_
    · rw [escapePath_append, escapePath_append, escapePath_append, escapePath_root hb.normal,
        escapePath_escapePath, hlatest]
      rfl
    · rw [hr, List.append_assoc, splitAt_stem, splitAt_latest, splitAt_of_notMem hslash,
        List.forall_mem_append, List.forall_mem_append]
      refine ⟨dotless_lead hb.normal (hplaced ha) hr, ?_, by decide⟩
      rw [List.forall_mem_singleton]
      exact fun hdots => hd.dotless ha (isDots_escapePath.mp hdots)

/-- The segments of a path, if anything is left of it: some first ones of those before the id, and
after them none but what was heard. -/
theorem exists_segments
    {r : List Char}
    (hb : IsBase b)
    (hquery : b.query? = none)
    (hr : b.root = r ++ ['/'])
    (h : endpoint b (latestPath device) = .ok a)
    (hsome : a.path ≠ []) :
    ∃ k added, splitAt '/' a.path = ((lead r).take k ++ added).map escapePath ∧
      ∀ s ∈ added, s ∈ splitAt '/' (escapePath (heard device).1) ∧
        (a.isPlaced = true → ¬ IsDots s) := by
  obtain ⟨hplaced, hpath⟩ := of_endpoint hb h
  rw [if_pos hquery, hr] at hpath
  unfold settledPath at hpath
  split_ifs at hpath with ha
  · have hfold := foldl_pushSegment_of_forall (dotless_lead hb.normal (hplaced ha) hr) []
    obtain ⟨k, added, hadd, hadded⟩ :=
      exists_foldl_pushSegment (lead r) (splitAt '/' (escapePath (heard device).1))
    refine ⟨k, added, ?_, fun s hs => ⟨(hadded s hs).1, fun _ => (hadded s hs).2⟩⟩
    rcases splitAt_withoutDots (r ++ ['/'] ++ stem ++ escapePath (heard device).1) with
      hsplit | hnone
    · rw [hpath, splitAt_escapePath, hsplit, splitAt_stem, List.foldl_append, hfold,
        List.nil_append, hadd]
    · rw [hnone] at hpath
      exact absurd hpath hsome
  · refine ⟨(lead r).length, splitAt '/' (escapePath (heard device).1), ?_,
      fun s hs => ⟨hs, fun hplaced => absurd hplaced ha⟩⟩
    rw [hpath, splitAt_escapePath, splitAt_stem, List.take_length]

/-- A segment that is heard and stands for the whole id is the id. -/
theorem eq_of_mem_splitAt_heard
    {s : List Char}
    (hs : s ∈ splitAt '/' (heard device).1)
    (hid : unescape s = device.toList) :
    s = device.toList ∧ '?' ∉ device.toList ∧ '#' ∉ device.toList := by
  have hlength := length_unescape_le s
  have hshort := (of_mem_splitAt hs).1.length_le
  rw [hid] at hlength
  have hmarks : ¬ ('?' ∈ device.toList ∨ '#' ∈ device.toList) := by
    intro hmark
    have hless := length_heard_lt hmark
    omega
  rw [not_or] at hmarks
  refine ⟨?_, hmarks⟩
  rw [heard_of_notMem hmarks.1 hmarks.2, splitAt_latest, List.mem_append,
    List.mem_singleton] at hs
  rcases hs with hs | rfl
  · have hpart := (of_mem_splitAt hs).1
    exact hpart.eq_of_length_le hlength
  · rw [← hid]
    exact (unescape_of_notMem (by decide)).symm

/-- An id that is asked about in a segment of its own is one, under a base without a query. -/
theorem isSegment_of_asksFor
    (hb : IsBase b)
    (h : endpoint b (latestPath device) = .ok a)
    (hasks : AsksFor b device a) :
    b.query? = none ∧ IsSegment a.isPlaced device := by
  obtain ⟨segment, hslash, hid, hpath⟩ := hasks
  have hquery : b.query? = none := by
    by_contra hsome
    have hlength := congrArg List.length (hpath.symm.trans (path_of_query hb hsome h))
    have hstem : 0 < stem.length := by
      decide
    simp only [List.length_append] at hlength
    omega
  obtain ⟨r, hr⟩ := hb.ends hquery
  have hsegments : splitAt '/' a.path = lead r ++ [segment, "latest".toList] := by
    rw [hpath, hr, List.append_assoc, splitAt_stem, splitAt_latest, splitAt_of_notMem hslash]
    rfl
  have hsome : a.path ≠ [] := by
    rw [hpath]
    exact List.append_ne_nil_of_right_ne_nil _ (by decide)
  obtain ⟨k, added, hsplit, hadded⟩ := exists_segments hb hquery hr h hsome
  -- no more segments are left of those before the id than there were
  have hmem : segment ∈ added.map escapePath := by
    rw [hsegments, List.map_append] at hsplit
    rcases List.append_eq_append_iff.mp hsplit with ⟨rest, hleft, hrest⟩ | ⟨rest, -, hrest⟩
    · have hlength := congrArg List.length hleft
      rw [List.length_map, List.length_take, List.length_append] at hlength
      have hnone : rest = [] := List.length_eq_zero_iff.mp (by omega)
      rw [hnone, List.nil_append] at hrest
      rw [← hrest]
      exact List.mem_cons_self
    · rw [hrest]
      exact List.mem_append_right _ List.mem_cons_self
  obtain ⟨t, ht, rfl⟩ := List.mem_map.mp hmem
  obtain ⟨hheard, hdotless⟩ := hadded t ht
  rw [splitAt_escapePath] at hheard
  obtain ⟨s, hs, rfl⟩ := List.mem_map.mp hheard
  rw [escapePath_escapePath, unescape_escapePath] at hid
  obtain ⟨rfl, hquestion, hnumber⟩ := eq_of_mem_splitAt_heard hs hid
  exact ⟨hquery, (of_mem_splitAt hs).2, hquestion, hnumber, hid, fun ha hdots =>
    hdotless ha (isDots_escapePath.mpr hdots)⟩

end

/-- Different devices that are asked about in segments of their own are asked about at different
paths. -/
theorem path_ne_of_asksFor
    {b a a' : Address} {device device' : String}
    (h : AsksFor b device a)
    (h' : AsksFor b device' a')
    (hne : device ≠ device') :
    a.path ≠ a'.path := by
  obtain ⟨segment, -, hid, hpath⟩ := h
  obtain ⟨segment', -, hid', hpath'⟩ := h'
  intro heq
  rw [hpath, hpath'] at heq
  have hsegment : segment = segment' :=
    List.append_cancel_left (List.append_cancel_right heq)
  rw [hsegment, hid'] at hid
  exact hne (String.toList_injective hid.symm)

/-! ### Doubles -/

/-- The id of another device that is asked about in the same way. -/
def double (device : String) : String :=
  device ++ "/latest#"

theorem double_toList
    (device : String) :
    (double device).toList = device.toList ++ "/latest".toList ++ ['#'] := by
  rw [double, String.toList_append, List.append_assoc]
  rfl

theorem heard_double
    (device : String) :
    heard (double device) = heard device := by
  rw [heard, double_toList, List.append_assoc, List.singleton_append, breakAt_fst_append, heard]

/-- A device and its double are asked about at the same address. -/
theorem endpoint_double
    {device : String}
    (h : isAcceptable (latestPath (double device)).toList = true)
    (b : Address) :
    endpoint b (latestPath (double device)) = endpoint b (latestPath device) := by
  have hpath : (latestPath (double device)).toList =
      (latestPath device).toList ++ '#' :: "/latest".toList := by
    rw [latestPath_toList_eq, latestPath_toList_eq, double_toList]
    simp only [List.append_assoc, List.cons_append, List.nil_append]
  have hdevice : isAcceptable (latestPath device).toList = true :=
    (isAcceptable_of_append (hpath ▸ h)).1
  rw [endpoint_latestPath h, endpoint_latestPath hdevice, appendix, heard_double, appendix]

/-! ### Requests -/

/-- The requests that are made for a device's readings, if each gets the same reply. -/
def requests (b : Address) (device tenant : String) (reply : Outcome Web.Reply) : List Get :=
  (Program.run (fun g asked => (reply, asked ++ [g]))
    (ExceptT.run (latestDocument b device tenant)) []).2

theorem mem_requests
    {b : Address} {device tenant : String} {reply : Outcome Web.Reply} {g : Get} :
    g ∈ requests b device tenant reply ↔
      fitsHeader tenant = true ∧
        ∃ a, endpoint b (latestPath device) = .ok a ∧ g = ⟨a, some tenant⟩ := by
  rw [requests]
  cases haddress : endpoint b (latestPath device) with
  | error e =>
      rw [run_latestDocument_of_error haddress]
      simp
  | ok a =>
      rw [run_latestDocument_of_ok haddress]
      split_ifs with hfits
      · simp [hfits]
      · simp [hfits]

end Query

open Query

/-- **Which devices are asked about in segments of their own.** Under a base without a query they
are those whose id has no meaning in a path, and the paths for two of them are different. But no
device has an address of its own: unless that is too long, its double has the same one. -/
theorem asked_asSegment_iff
    {url : String} {b : Web.Address} {device tenant : String} {reply : Outcome Web.Reply} {g : Get}
    (hbase : base url = .ok b)
    (hg : g ∈ requests b device tenant reply) :
    (AsksFor b device g.address ↔ b.query? = none ∧ IsSegment g.address.isPlaced device) ∧
      (∀ device' tenant' reply', ∀ g' ∈ requests b device' tenant' reply', device ≠ device' →
        AsksFor b device g.address → AsksFor b device' g'.address →
          g.address.path ≠ g'.address.path) ∧
      (Web.Address.isAcceptable (latestPath (double device)).toList = true →
        g ∈ requests b (double device) tenant reply) := by
  have hb := isBase_of_base hbase
  obtain ⟨hfits, a, ha, rfl⟩ := mem_requests.mp hg
  refine ⟨⟨isSegment_of_asksFor hb ha, fun h => asksFor_of_isSegment hb h.1 h.2 ha⟩, ?_, ?_⟩
  · intro device' tenant' reply' g' _ hne h h'
    exact path_ne_of_asksFor h h' hne
  · intro hdouble
    exact mem_requests.mpr ⟨hfits, a, (endpoint_double hdouble b).trans ha, rfl⟩

/-- The base address of a query service. -/
def pumpService : Web.Address where
  scheme := "http".toList
  userinfo := []
  host := "query.test".toList
  port? := none
  path := []
  query? := none
  fragment? := none

/-- The request for the readings of its pump. -/
def pumpRequest : Get where
  address := { pumpService with
    path := "/api/timeseries/telemetry/device/pump-1/latest".toList }
  tenant? := some "tenant-a"

theorem base_pumpService :
    base "http://query.test" = .ok pumpService := by
  decide +kernel

theorem pumpRequest_mem
    {device : String}
    (h : endpoint pumpService (latestPath device) = .ok pumpRequest.address) :
    pumpRequest ∈ requests pumpService device "tenant-a" (.ok ⟨200, []⟩) :=
  mem_requests.mpr ⟨by decide, _, h, rfl⟩

/-- The pump is asked about in a segment of its own, and so is what is no pump. -/
theorem asked_asSegment_iff_pump :
    base "http://query.test" = .ok pumpService ∧
      pumpRequest ∈ requests pumpService "pump-1" "tenant-a" (.ok ⟨200, []⟩) ∧
      AsksFor pumpService "pump-1" pumpRequest.address ∧
      pumpRequest ∈ requests pumpService "pump-1/latest#" "tenant-a" (.ok ⟨200, []⟩) := by
  have hpump : pumpRequest ∈ requests pumpService "pump-1" "tenant-a" (.ok ⟨200, []⟩) :=
    pumpRequest_mem (by decide +kernel)
  obtain ⟨hiff, -, hdouble⟩ := asked_asSegment_iff base_pumpService hpump
  refine ⟨base_pumpService, hpump, ?_, hdouble (by decide +kernel)⟩
  exact hiff.mpr ⟨rfl, .of_notMem (by decide) (by decide) (by decide) (by decide) (by decide) _⟩

/-- Different devices can be asked about at the same path. -/
theorem not_asked_apart_pump :
    ¬ ∀ url b device device' tenant reply,
      base url = .ok b → device ≠ device' →
        ∀ g ∈ requests b device tenant reply, ∀ g' ∈ requests b device' tenant reply,
          g.address.path ≠ g'.address.path := by
  intro hall
  exact hall "http://query.test" pumpService "pump-1" "hall/../pump-1" "tenant-a" (.ok ⟨200, []⟩)
    base_pumpService (by decide)
    pumpRequest (pumpRequest_mem (by decide +kernel))
    pumpRequest (pumpRequest_mem (by decide +kernel)) rfl

end TelemetryAlerts
