import Launchpad.Proofs.Log.Ordinary
import Mathlib.Data.List.Infix

/-!
Assignments on the command line of a node. An operand is cut at its assignment sign if it holds
exactly one of them. A command line that consists of plain arguments and assignments is then read
off assignment by assignment.
-/

namespace Launchpad

open List

namespace Text

variable {pat cs p q : Chars}

lemma exists_of_cutChars (h : cutChars pat cs = some (p, q)) :
    cs = p ++ pat ++ q ∧ ∀ a b, cs = a ++ pat ++ b → p <+: a := by
  induction cs generalizing p with
  | nil =>
    rw [cutChars] at h
    split at h
    · next hpat =>
      obtain ⟨rfl, rfl⟩ := Prod.mk.inj (Option.some.inj h)
      rw [isEmpty_iff.1 hpat]
      exact ⟨rfl, fun _ _ _ => nil_prefix⟩
    · cases h
  | cons c cs ih =>
    rw [cutChars] at h
    split at h
    · next hpat =>
      obtain ⟨rfl, rfl⟩ := Prod.mk.inj (Option.some.inj h)
      refine ⟨?_, fun _ _ _ => nil_prefix⟩
      obtain ⟨rest, hrest⟩ := isPrefixOf_iff_prefix.1 hpat
      rw [← hrest, drop_left, nil_append]
    · next hpat =>
      obtain ⟨⟨p', q'⟩, hcut, hpair⟩ := Option.map_eq_some_iff.1 h
      obtain ⟨rfl, rfl⟩ := Prod.mk.inj hpair
      obtain ⟨heq, hfirst⟩ := ih hcut
      refine ⟨by rw [heq]; rfl, fun a b hab => ?_⟩
      cases a with
      | nil => exact absurd ( isPrefixOf_iff_prefix.2 ⟨b, hab.symm⟩) hpat
      | cons x a =>
        obtain ⟨rfl, hrest⟩ := List.cons.inj hab
        obtain ⟨more, hmore⟩ := hfirst a b hrest
        exact ⟨more, by rw [← hmore]; rfl⟩

lemma cutChars_eq_none_iff (hpat : pat ≠ []) : cutChars pat cs = none ↔ ¬ pat <:+: cs := by
  induction cs with
  | nil =>
    have hempty : pat.isEmpty = false := by simpa using hpat
    simp [cutChars, hempty, hpat]
  | cons c cs ih =>
    rw [cutChars, infix_cons_iff]
    by_cases hstart : pat <+: c :: cs
    · simp [hstart]
    · have hnot : pat.isPrefixOf (c :: cs) = false := by
        rwa [Bool.eq_false_iff, ne_eq, isPrefixOf_iff_prefix]
      simp [hstart, hnot, ih]

lemma cut?_eq_none_iff {s pat : String} (hpat : pat.toList ≠ []) :
    cut? s pat = none ↔ ¬ pat.toList <:+: s.toList := by
  rw [cut?, Option.map_eq_none_iff, cutChars_eq_none_iff hpat]

/-- Does a text occur more than once, with something or nothing in between? -/
def OccursTwice (pat s : String) : Prop :=
  ∃ a b c : Chars, s.toList = a ++ pat.toList ++ b ++ pat.toList ++ c

lemma toList_ne_nil {s : String} (h : s ≠ "") : s.toList ≠ [] := by
  intro hnil
  exact h (String.toList_inj.1 hnil)

end Text

open Text

/-- The sign between a name and what is assigned to it. -/
def assignSign : String := ":="

namespace Launch

lemma cutChars_assign {k : Chars} (hk : ¬ assignSign.toList <:+: k) (v : Chars) :
    cutChars assignSign.toList (k ++ assignSign.toList ++ v) = some (k, v) := by
  induction k with
  | nil => rfl
  | cons c k ih =>
    have hlater : ¬ assignSign.toList <:+: k := fun h => hk (infix_cons_iff.2 (.inr h))
    -- A sign that begins with the name's last characters would end in the sign's first one.
    have hnot : assignSign.toList.isPrefixOf (c :: (k ++ assignSign.toList ++ v)) = false := by
      rw [Bool.eq_false_iff, ne_eq, isPrefixOf_iff_prefix]
      rintro ⟨rest, hrest⟩
      cases k with
      | nil => cases hrest
      | cons d k =>
        obtain ⟨hc, htail⟩ := List.cons.inj hrest
        obtain ⟨hd, -⟩ := List.cons.inj htail
        rw [← hc, ← hd] at hk
        exact hk ⟨[], k, rfl⟩
    have hcut : cutChars assignSign.toList (c :: (k ++ assignSign.toList ++ v)) =
        (cutChars assignSign.toList (k ++ assignSign.toList ++ v)).map
          fun p => (c :: p.1, p.2) := by
      rw [cutChars, hnot]
      rfl
    rw [cons_append, cons_append, hcut, ih hlater]
    rfl

lemma cut?_assign {k : String} (hk : ¬ assignSign.toList <:+: k.toList) (v : String) :
    cut? (k ++ assignSign ++ v) assignSign = some (k, v) := by
  rw [cut?, String.toList_append, String.toList_append, cutChars_assign hk]
  simp

lemma splitAssignment_once {k v : String} (hk : ¬ assignSign.toList <:+: k.toList)
    (hv : ¬ assignSign.toList <:+: v.toList) :
    splitAssignment (some (k ++ assignSign ++ v)) = pure (k, v) := by
  obtain ⟨n, hn⟩ : ∃ n, (k ++ assignSign ++ v).length = n + 2 := by
    refine ⟨k.length + v.length, ?_⟩
    have hsign : assignSign.length = 2 := rfl
    rw [String.length_append, String.length_append, hsign]
    omega
  have hsplit : splitText (k ++ assignSign ++ v) assignSign = [k, v] := by
    rw [splitText, hn, splitText.go, cut?_assign hk]
    dsimp only
    rw [splitText.go, (cut?_eq_none_iff (toList_ne_nil (by decide))).2 hv]
  unfold assignSign at hsplit
  simp only [splitAssignment, assignSign, hsplit]

lemma splitAssignment_twice {a : String} (h : OccursTwice assignSign a) :
    splitAssignment (some a) = silent .invalidValue := by
  obtain ⟨x, y, z, hxyz⟩ := h
  have hnonempty : assignSign.toList ≠ [] := toList_ne_nil (by decide)
  cases hcut : cut? a assignSign with
  | none =>
    refine absurd ?_ ((cut?_eq_none_iff hnonempty).1 hcut)
    exact ⟨x, y ++ assignSign.toList ++ z, by rw [hxyz]; simp⟩
  | some pair =>
    obtain ⟨⟨p, q⟩, hchars, rfl⟩ := Option.map_eq_some_iff.1 hcut
    obtain ⟨heq, hfirst⟩ := exists_of_cutChars hchars
    obtain ⟨more, rfl⟩ := hfirst x (y ++ assignSign.toList ++ z) (by rw [hxyz]; simp)
    -- The second sign is behind the first one, where the operand is cut.
    have hrest : assignSign.toList ++ q =
        more ++ assignSign.toList ++ y ++ assignSign.toList ++ z := by
      have hwhole : p ++ (assignSign.toList ++ q) =
          p ++ (more ++ assignSign.toList ++ y ++ assignSign.toList ++ z) := by
        rw [← append_assoc, ← heq, hxyz]
        simp
      exact append_cancel_left hwhole
    have hagain : assignSign.toList <:+: q := by
      refine ⟨(more ++ assignSign.toList ++ y).drop assignSign.toList.length, z, ?_⟩
      have hlong : assignSign.toList.length ≤ (more ++ assignSign.toList ++ y).length := by
        simp only [length_append]
        omega
      have hdrop := congrArg (List.drop assignSign.toList.length) hrest
      rw [drop_left, append_assoc (more ++ assignSign.toList ++ y),
        drop_append_of_le_length hlong] at hdrop
      rw [hdrop, append_assoc]
    obtain ⟨n, hn⟩ : ∃ n, a.length = n + 2 := by
      have hlength := congrArg List.length heq
      rw [String.length_toList, length_append, length_append] at hlength
      have hsign : assignSign.toList.length = 2 := rfl
      exact ⟨p.length + q.length, by omega⟩
    obtain ⟨⟨p', q'⟩, hcut'⟩ : ∃ r, cut? (String.ofList q) assignSign = some r := by
      refine Option.ne_none_iff_exists'.1 fun hnone => ?_
      refine (cut?_eq_none_iff hnonempty).1 hnone ?_
      rwa [String.toList_ofList]
    have hsplit : splitText a assignSign =
        String.ofList p :: p' :: splitText.go assignSign n q' := by
      rw [splitText, hn, splitText.go, hcut]
      dsimp only
      rw [splitText.go, hcut']
    have hmany : ∀ n s, splitText.go assignSign n s ≠ [] := by
      intro n s
      cases n with
      | zero => simp [splitText.go]
      | succ n =>
        rw [splitText.go]
        split <;> simp
    unfold assignSign at hsplit
    simp only [splitAssignment, hsplit]
    split
    · next hpair => exact absurd (List.cons.inj (List.cons.inj hpair).2).2 (hmany n q')
    · rfl

end Launch

end Launchpad
