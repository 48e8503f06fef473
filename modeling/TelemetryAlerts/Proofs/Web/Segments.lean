import Mathlib.Data.String.Basic
import TelemetryAlerts.Proofs.Web.Escapes

/-!
# The segments of paths

A path is split at its slashes. Segments of one or two points are taken out of it: of what was
there before, some first segments stay, and what is added has no such segment. A path without them
stays as it is, and so do the segments of an escaped path.

**Results.**
* `splitAt_append`: the segments of two paths with a slash between them.
* `splitOn_slash`: texts are split at slashes as lists of characters are.
* `splitAt_escapePath`: the segments of an escaped path are those of the path, escaped.
* `exists_foldl_pushSegment`: what becomes of segments when others are pushed.
* `withoutDots_of_forall`, `not_isDots_of_mem_withoutDots`: a path is rid of segments of points
  once.
-/

namespace TelemetryAlerts
namespace Web

/-! ### Splitting -/

theorem splitAt_eq_splitOn
    (sep : Char) (cs : List Char) :
    splitAt sep cs = cs.splitOn sep := by
  induction cs with
  | nil =>
      rfl
  | cons c cs ih =>
      rw [List.splitOn_cons_eq_if_modifyHead, ← ih, splitAt]
      cases h : splitAt sep cs with
      | nil =>
          exact absurd (ih ▸ h) (List.splitOn_ne_nil sep cs)
      | cons part parts =>
          simp [beq_iff_eq]

/-- The segments of two paths with a slash between them. -/
theorem splitAt_append
    (sep : Char) (cs ds : List Char) :
    splitAt sep (cs ++ sep :: ds) = splitAt sep cs ++ splitAt sep ds := by
  simp only [splitAt_eq_splitOn, List.splitOn_append_cons_self]

theorem splitAt_of_notMem
    {sep : Char} {cs : List Char}
    (h : sep ∉ cs) :
    splitAt sep cs = [cs] := by
  rw [splitAt_eq_splitOn, List.splitOn_eq_singleton h]

/-- A text has no separator, or a first segment and what follows the first separator. -/
theorem split_induction
    (sep : Char) {P : List Char → Prop}
    (last : ∀ cs, sep ∉ cs → P cs)
    (more : ∀ first rest, sep ∉ first → P rest → P (first ++ sep :: rest))
    (cs : List Char) :
    P cs := by
  by_cases h : sep ∈ cs
  · obtain ⟨first, rest, hcs, hfirst⟩ := List.eq_append_cons_of_mem h
    have hshorter : rest.length < cs.length := by
      rw [hcs, List.length_append, List.length_cons]
      omega
    rw [hcs]
    exact more first rest hfirst (split_induction sep last more rest)
  · exact last cs h
termination_by cs.length

theorem splitAt_of_first
    {sep : Char} {first : List Char}
    (h : sep ∉ first)
    (rest : List Char) :
    splitAt sep (first ++ sep :: rest) = first :: splitAt sep rest := by
  rw [splitAt_append, splitAt_of_notMem h, List.singleton_append]

/-- A segment stands in the text, and has no separator. -/
theorem of_mem_splitAt
    {sep : Char} {cs s : List Char}
    (h : s ∈ splitAt sep cs) :
    s <:+: cs ∧ sep ∉ s := by
  induction cs using split_induction sep with
  | last cs hcs =>
      rw [splitAt_of_notMem hcs, List.mem_singleton] at h
      rw [h]
      exact ⟨List.infix_rfl, hcs⟩
  | more first rest hfirst ih =>
      rw [splitAt_of_first hfirst, List.mem_cons] at h
      rcases h with rfl | h
      · exact ⟨(List.prefix_append s _).isInfix, hfirst⟩
      · obtain ⟨hpart, hs⟩ := ih h
        exact ⟨(hpart.trans (List.suffix_cons sep rest).isInfix).trans
          (List.suffix_append first _).isInfix, hs⟩

/-- The segments of an escaped path are those of the path, escaped. -/
theorem splitAt_escapePath
    (cs : List Char) :
    splitAt '/' (escapePath cs) = (splitAt '/' cs).map escapePath := by
  have hescaped {ds : List Char} (hds : '/' ∉ ds) : '/' ∉ escapePath ds :=
    mt (mem_of_mem_escapePath (by decide) (by decide)) hds
  induction cs using split_induction '/' with
  | last cs hcs =>
      rw [splitAt_of_notMem hcs, splitAt_of_notMem (hescaped hcs)]
      rfl
  | more first rest hfirst ih =>
      have hslash : escapePath ('/' :: rest) = '/' :: escapePath rest := rfl
      rw [escapePath_append, hslash, splitAt_of_first (hescaped hfirst), ih,
        splitAt_of_first hfirst, List.map_cons]

open String in
/-- Splitting a text at the slashes, with `before` passed already and `part` read since the last
slash. -/
theorem splitOnAux_slash
    (before part rest : List Char) (found : List String) :
    splitOnAux (ofList (before ++ part ++ rest)) "/" ⟨utf8Len before⟩
        ⟨utf8Len before + utf8Len part⟩ 0 found =
      found.reverse ++ (List.splitOnPPrepend (· == '/') rest part.reverse).map ofList := by
  have hpart := extract_of_valid before part rest
  induction rest generalizing before part found with
  | nil =>
      rw [splitOnAux, if_pos (by simp [atEnd_iff, -ofList_append]), hpart]
      simp
  | cons c rest ih =>
      have hend : ¬ Pos.Raw.atEnd (ofList (before ++ part ++ c :: rest))
          ⟨utf8Len before + utf8Len part⟩ = true := by
        have hsize := c.utf8Size_pos
        simp [atEnd_iff, -ofList_append]
        omega
      have hget := get_of_valid (before ++ part) (c :: rest)
      have hnext := next_of_valid (before ++ part) c rest
      rw [utf8Len_append] at hget hnext
      rw [List.headD_cons] at hget
      rw [splitOnAux, if_neg hend, hget, hnext, Pos.Raw.unoffsetBy_zero, hnext]
      have hslash : Pos.Raw.get "/" 0 = '/' := by decide
      have hlast : Pos.Raw.atEnd "/" (Pos.Raw.next "/" 0) = true := by decide
      have hwidth : Pos.Raw.next "/" 0 = ⟨1⟩ := by decide
      simp only [hslash, hlast, if_true]
      by_cases hc : c = '/'
      · subst hc
        have hback : (⟨utf8Len before + utf8Len part + Char.utf8Size '/'⟩ : Pos.Raw).unoffsetBy
            (Pos.Raw.next "/" 0) = ⟨utf8Len before + utf8Len part⟩ := by
          rw [hwidth]
          exact congrArg Pos.Raw.mk (Nat.add_sub_cancel _ 1)
        rw [hback, hpart]
        have hrest := ih (before ++ part ++ ['/']) [] (ofList part :: found)
          (extract_of_valid _ _ _)
        simpa [List.splitOnPPrepend_cons_eq_if, -ofList_append, Nat.add_assoc] using hrest
      · have hrest := ih before (part ++ [c]) found (extract_of_valid _ _ _)
        simpa [List.splitOnPPrepend_cons_eq_if, hc, -ofList_append, Nat.add_assoc] using hrest

/-- A text is split at its slashes as the list of its characters is. -/
theorem splitOn_slash
    (s : String) :
    s.splitOn "/" = (splitAt '/' s.toList).map String.ofList := by
  have hall := splitOnAux_slash [] [] s.toList []
  rw [List.append_nil, List.nil_append, String.ofList_toList] at hall
  rw [String.splitOn, if_neg (by decide), splitAt_eq_splitOn]
  exact hall

/-! ### Segments of points -/

/-- Whether a segment consists of one or two points. -/
def IsDots (s : List Char) : Prop :=
  s = ['.'] ∨ s = ['.', '.']

instance (s : List Char) : Decidable (IsDots s) :=
  inferInstanceAs (Decidable (_ ∨ _))

theorem isDots_escapePath
    {s : List Char} :
    IsDots (escapePath s) ↔ IsDots s := by
  constructor
  · intro h
    have hpercent : '%' ∉ escapePath s := by
      rcases h with h | h <;> rw [h] <;> decide
    rwa [escapePath_of_notMem hpercent] at h
  · rintro (rfl | rfl)
    · exact Or.inl rfl
    · exact Or.inr rfl

namespace Address

theorem pushSegment_of_not_isDots
    {s : List Char}
    (h : ¬ IsDots s)
    (out : List (List Char)) :
    pushSegment out s = out ++ [s] := by
  rw [IsDots, not_or] at h
  rw [pushSegment, if_neg h.1, if_neg h.2]

theorem foldl_pushSegment_of_forall
    {segments : List (List Char)}
    (h : ∀ s ∈ segments, ¬ IsDots s)
    (out : List (List Char)) :
    segments.foldl pushSegment out = out ++ segments := by
  induction segments generalizing out with
  | nil =>
      exact (List.append_nil out).symm
  | cons s segments ih =>
      rw [List.forall_mem_cons] at h
      rw [List.foldl_cons, pushSegment_of_not_isDots h.1, ih h.2, List.append_assoc]
      rfl

/-- A segment of points takes nothing away, or the last segment. -/
theorem exists_pushSegment_of_isDots
    {s : List Char}
    (h : IsDots s)
    (out : List (List Char)) :
    ∃ k, pushSegment out s = out.take k := by
  unfold pushSegment
  split_ifs
  · exact ⟨out.length, out.take_length.symm⟩
  · exact ⟨out.length, out.take_length.symm⟩
  · exact ⟨out.length - 1, List.dropLast_eq_take⟩
  · exact absurd h (by simp [IsDots, *])

/-- When segments are pushed onto others, some first ones of those stay, and none of what is added
is a segment of points. -/
theorem exists_foldl_pushSegment
    (out segments : List (List Char)) :
    ∃ k added, segments.foldl pushSegment out = out.take k ++ added ∧
      ∀ s ∈ added, s ∈ segments ∧ ¬ IsDots s := by
  induction segments generalizing out with
  | nil =>
      exact ⟨out.length, [], by simp, nofun⟩
  | cons s segments ih =>
      rw [List.foldl_cons]
      by_cases hs : IsDots s
      · obtain ⟨k, hpushed⟩ := exists_pushSegment_of_isDots hs out
        obtain ⟨n, added, hfold, hadded⟩ := ih (out.take k)
        refine ⟨min n k, added, ?_, fun t ht => ⟨List.mem_cons_of_mem s (hadded t ht).1,
          (hadded t ht).2⟩⟩
        rw [hpushed, hfold, List.take_take]
      · obtain ⟨n, added, hfold, hadded⟩ := ih (out ++ [s])
        rw [pushSegment_of_not_isDots hs, hfold]
        by_cases hn : n ≤ out.length
        · refine ⟨n, added, ?_, fun t ht => ⟨List.mem_cons_of_mem s (hadded t ht).1,
            (hadded t ht).2⟩⟩
          rw [List.take_append_of_le_length hn]
        · refine ⟨out.length, s :: added, ?_, ?_⟩
          · rw [List.take_of_length_le (by simp; omega), List.take_length, List.append_assoc,
              List.singleton_append]
          · rw [List.forall_mem_cons]
            exact ⟨⟨List.mem_cons_self, hs⟩, fun t ht => ⟨List.mem_cons_of_mem s (hadded t ht).1,
              (hadded t ht).2⟩⟩

/-- A path without segments of points stays as it is. -/
theorem withoutDots_of_forall
    {path : List Char}
    (h : ∀ s ∈ splitAt '/' path, ¬ IsDots s) :
    withoutDots path = path := by
  have hnone : ¬ (splitAt '/' path).any (fun s => s = ['.'] || s = ['.', '.']) = true := by
    simpa [IsDots] using h
  rw [withoutDots]
  exact if_neg hnone

/-- The segments that are left of a path, if anything is left. -/
theorem splitAt_withoutDots
    (path : List Char) :
    splitAt '/' (withoutDots path) = (splitAt '/' path).foldl pushSegment [] ∨
      withoutDots path = [] := by
  by_cases hsome : (splitAt '/' path).any (fun s => s = ['.'] || s = ['.', '.']) = true
  · have hjoined : withoutDots path =
        ['/'].intercalate ((splitAt '/' path).foldl pushSegment []) := by
      rw [withoutDots]
      exact if_pos hsome
    obtain ⟨k, added, hfold, hadded⟩ := exists_foldl_pushSegment [] (splitAt '/' path)
    rw [List.take_nil, List.nil_append] at hfold
    rw [hjoined, hfold]
    by_cases hnone : added = []
    · exact Or.inr (by rw [hnone]; rfl)
    · left
      rw [splitAt_eq_splitOn]
      exact List.splitOn_intercalate '/' (fun s hs => (of_mem_splitAt (hadded s hs).1).2) hnone
  · have h : ∀ s ∈ splitAt '/' path, ¬ IsDots s := by
      simpa [IsDots] using hsome
    rw [withoutDots_of_forall h, foldl_pushSegment_of_forall h]
    exact Or.inl rfl

/-- A path that was rid of segments of points has none. -/
theorem not_isDots_of_mem_withoutDots
    {path s : List Char}
    (h : s ∈ splitAt '/' (withoutDots path)) :
    ¬ IsDots s := by
  rcases splitAt_withoutDots path with hsplit | hnone
  · obtain ⟨k, added, hfold, hadded⟩ := exists_foldl_pushSegment [] (splitAt '/' path)
    rw [hsplit, hfold, List.take_nil, List.nil_append] at h
    exact (hadded s h).2
  · rw [hnone] at h
    rw [List.mem_singleton.mp h]
    simp [IsDots]

end Address
end Web
end TelemetryAlerts
