import TelemetryAlerts.Store.Indexed
import Mathlib.Tactic

/-!
# The keys of the alert store

The store keeps five families of keys on one server. The word after the common prefix
tells the families apart, whatever the ids are. Inside a family the key of an alert or of
a tenant tells the id in any case; a key of two ids tells them if they hold no colon, even
among the keys of ids that do.

**Results.**
* `keyWord_alertKey`, …: the word of each family.
* `alertKey_injective`: no two alerts share a key.
* `claimKey_inj`, `pairKey_inj`, `openKey_inj`, `tenantKey_injective`: what the other
  keys tell.
-/

namespace TelemetryAlerts
namespace Indexed

/-- The word after the common prefix of the keys. -/
def keyWord (key : String) : List Char :=
  (key.toList.drop "alertengine:".toList.length).takeWhile (· != ':')

theorem keyWord_of_toList
    {key : String} (start word : String) (rest : List Char)
    (hkey : key.toList = start.toList ++ rest)
    (hstart : start.toList = "alertengine:".toList ++ (word.toList ++ [':']))
    (hword : ∀ c ∈ word.toList, (c != ':') = true) :
    keyWord key = word.toList := by
  rw [keyWord, hkey, hstart, List.append_assoc, List.drop_left,
    List.append_assoc, List.takeWhile_append_of_pos hword]
  simp

theorem toList_append_three
    (a b c : String) :
    (a ++ b ++ c).toList = a.toList ++ (b.toList ++ c.toList) := by
  simp only [String.toList_append, List.append_assoc]

theorem toList_append_four
    (a b c d : String) :
    (a ++ b ++ c ++ d).toList = a.toList ++ (b.toList ++ (c.toList ++ d.toList)) := by
  simp only [String.toList_append, List.append_assoc]

@[simp] theorem keyWord_alertKey
    (id : String) :
    keyWord (alertKey id) = "instance".toList :=
  keyWord_of_toList "alertengine:instance:" "instance" _ String.toList_append rfl (by simp)

@[simp] theorem keyWord_tenantKey
    (tenant : String) :
    keyWord (tenantKey tenant) = "tenant".toList :=
  keyWord_of_toList "alertengine:tenant:" "tenant" _ (toList_append_three _ _ _) rfl
    (by simp)

@[simp] theorem keyWord_pairKey
    (rule device : String) :
    keyWord (pairKey rule device) = "pair".toList :=
  keyWord_of_toList "alertengine:pair:" "pair" _ (toList_append_four _ _ _ _) rfl
    (by simp)

@[simp] theorem keyWord_openKey
    (tenant device : String) :
    keyWord (openKey tenant device) = "open".toList :=
  keyWord_of_toList "alertengine:open:" "open" _ (toList_append_four _ _ _ _) rfl
    (by simp)

@[simp] theorem keyWord_claimKey
    (rule device : String) :
    keyWord (claimKey rule device) = "open-pair".toList :=
  keyWord_of_toList "alertengine:open-pair:" "open-pair" _ (toList_append_four _ _ _ _) rfl
    (by simp)

/-- Keys of different families are different. -/
theorem ne_of_keyWord
    {k l : String}
    (h : keyWord k ≠ keyWord l) :
    k ≠ l := by
  rintro rfl
  exact h rfl

theorem alertKey_injective :
    Function.Injective alertKey := by
  intro i j h
  exact (String.append_right_inj _).mp h

/-- Two texts without colons and a colon between them are told by the whole. -/
theorem append_colon_inj
    {u u' v v' : List Char}
    (hu : ':' ∉ u)
    (hv : ':' ∉ v)
    (h : u ++ ':' :: v = u' ++ ':' :: v') :
    u = u' ∧ v = v' := by
  induction u generalizing u' with
  | nil =>
      cases u' with
      | nil =>
          simpa using h
      | cons c u' =>
          simp only [List.nil_append, List.cons_append, List.cons.injEq] at h
          simp [h.2] at hv
  | cons c u ih =>
      cases u' with
      | nil =>
          simp only [List.nil_append, List.cons_append, List.cons.injEq] at h
          simp [h.1] at hu
      | cons c' u' =>
          simp only [List.cons_append, List.cons.injEq] at h
          simp only [List.mem_cons, not_or] at hu
          obtain ⟨rfl, rfl⟩ := ih hu.2 h.2
          exact ⟨by rw [h.1], rfl⟩

/-- Two ids after a prefix, with a colon between them, are told by the whole. -/
theorem prefixed_inj
    {start r r' d d' : String}
    (hr : ':' ∉ r.toList)
    (hd : ':' ∉ d.toList)
    (h : start ++ r ++ ":" ++ d = start ++ r' ++ ":" ++ d') :
    r = r' ∧ d = d' := by
  have hchars := congrArg String.toList h
  simp only [String.toList_append, List.append_assoc, List.append_cancel_left_eq] at hchars
  obtain ⟨hfirst, hsecond⟩ := append_colon_inj hr hd hchars
  exact ⟨String.ext hfirst, String.ext hsecond⟩

theorem claimKey_inj
    {r r' d d' : String}
    (hr : ':' ∉ r.toList)
    (hd : ':' ∉ d.toList) :
    claimKey r d = claimKey r' d' ↔ r = r' ∧ d = d' :=
  ⟨prefixed_inj hr hd, fun ⟨h, h'⟩ => by rw [h, h']⟩

theorem pairKey_inj
    {r r' d d' : String}
    (hr : ':' ∉ r.toList)
    (hd : ':' ∉ d.toList) :
    pairKey r d = pairKey r' d' ↔ r = r' ∧ d = d' :=
  ⟨prefixed_inj hr hd, fun ⟨h, h'⟩ => by rw [h, h']⟩

theorem openKey_inj
    {t t' d d' : String}
    (ht : ':' ∉ t.toList)
    (hd : ':' ∉ d.toList) :
    openKey t d = openKey t' d' ↔ t = t' ∧ d = d' :=
  ⟨prefixed_inj ht hd, fun ⟨h, h'⟩ => by rw [h, h']⟩

theorem tenantKey_injective :
    Function.Injective tenantKey := by
  intro t u h
  have hstart := (String.append_left_inj _).mp h
  exact (String.append_right_inj _).mp hstart

end Indexed
end TelemetryAlerts
