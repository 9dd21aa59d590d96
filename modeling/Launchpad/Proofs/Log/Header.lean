import Launchpad.Log.Formatter
import Mathlib.Data.List.TakeWhile

/-!
The headers by which messages of other processes are recognised. `Header.read?` reads a severity, a
time and the rest of a line between double percent signs without any choice: no percent sign can
belong to a severity or to a time. The search of the pattern, which may try shorter severities and
times too, comes to the same.
-/

namespace Launchpad

open List Option

namespace Pattern

open Cursor ClassItem

variable {c : Cursor} {k : Cursor → Option Cursor} {p : Char → Bool}
variable {xs rest : Chars} {items : List ClassItem}

def Cursor.next (c : Cursor) (x : Char) : Cursor :=
  { c with before := some x, rest := c.rest.tail, pos := c.pos + 1 }

def Cursor.pass (c : Cursor) (xs : Chars) : Cursor :=
  xs.foldl Cursor.next c

lemma Cursor.step_of_pos {x : Char} (h : c.rest = x :: xs) (hx : p x = true) :
    c.step p = some (c.next x) := by
  simp only [step, Cursor.next, h, hx, if_true, tail_cons]

lemma Cursor.step_of_neg (h : ∀ x ∈ c.rest.head?, p x = false) : c.step p = none := by
  unfold step
  split
  · rfl
  · next x xs hrest =>
    have hx : p x = false := h x (by rw [hrest]; rfl)
    rw [hx]
    rfl

lemma Cursor.rest_pass (c : Cursor) (xs : Chars) : (c.pass xs).rest = c.rest.drop xs.length := by
  induction xs generalizing c with
  | nil => rfl
  | cons x xs ih =>
    have hnext := ih (c.next x)
    rw [Cursor.next, drop_tail] at hnext
    exact hnext

lemma Cursor.pos_pass (c : Cursor) (xs : Chars) : (c.pass xs).pos = c.pos + xs.length := by
  induction xs generalizing c with
  | nil => rfl
  | cons x xs ih =>
    have hnext : ((c.next x).pass xs).pos = c.pos + 1 + xs.length := ih (c.next x)
    rw [length_cons, Nat.add_comm xs.length 1, ← Nat.add_assoc]
    exact hnext

lemma Cursor.groups_pass (c : Cursor) (xs : Chars) : (c.pass xs).groups = c.groups := by
  induction xs generalizing c with
  | nil => rfl
  | cons x xs ih => exact ih (c.next x)

/-- An eager repetition of single characters takes all of a run, if what follows succeeds there or
fails behind every shorter part of the run. -/
lemma repeatMatch_greedy {m : Matcher} (hm : ∀ c k, m c k = (c.step p).bind k)
    (xs rest : Chars) (hrest : ∀ x ∈ rest.head?, p x = false) (fuel : Nat)
    (hxs : ∀ x ∈ xs, p x = true) (hc : c.rest = xs ++ rest) (hfuel : xs.length < fuel)
    (hk : (k (c.pass xs)).isSome ∨ ∀ ys z zs, xs = ys ++ z :: zs → k (c.pass ys) = none) :
    repeatMatch m .greedy fuel 0 none c k = k (c.pass xs) := by
  induction xs generalizing c fuel with
  | nil =>
    obtain ⟨fuel, rfl⟩ := Nat.exists_eq_succ_of_ne_zero (Nat.ne_of_gt hfuel)
    have hstop : c.step p = none := step_of_neg (by rw [hc]; exact hrest)
    simp only [repeatMatch, Nat.lt_irrefl, if_false, reduceCtorEq, hm, hstop]
    rfl
  | cons x xs ih =>
    obtain ⟨fuel, rfl⟩ := Nat.exists_eq_succ_of_ne_zero (Nat.ne_of_gt (Nat.zero_lt_of_lt hfuel))
    have hstep : c.step p = some (c.next x) :=
      step_of_pos hc (hxs x mem_cons_self)
    have hmore : repeatMatch m .greedy fuel 0 none (c.next x) k = k (c.pass (x :: xs)) := by
      refine ih fuel (fun y hy => hxs y (mem_cons_of_mem _ hy)) ?_ ?_ ?_
      · rw [Cursor.next, hc]
        rfl
      · exact Nat.lt_of_succ_lt_succ hfuel
      · refine hk.imp id fun hshort ys z zs heq => ?_
        exact hshort (x :: ys) z zs (by rw [heq]; rfl)
    have hmoved : ¬ (c.next x).pos = c.pos := Nat.succ_ne_self _
    simp only [repeatMatch, Nat.lt_irrefl, if_false, reduceCtorEq, hm, hstep, bind_some,
      hmoved, map_none, hmore]
    rcases hk with hsome | hshort
    · obtain ⟨r, hr⟩ := isSome_iff_exists.1 hsome
      rw [hr]
      rfl
    · have hnone : k c = none := hshort [] x xs rfl
      rw [hnone]
      cases k (c.pass (x :: xs)) <;> rfl

def marks (q : Regex) : Regex :=
  .seq (.char '%') (.seq (.char '%') q)

lemma run_marks (q : Regex) (h : c.rest = '%' :: '%' :: rest) :
    run (marks q) c k = run q (c.pass ['%', '%']) k := by
  have hfirst : c.step (· == '%') = some (c.next '%') := step_of_pos h rfl
  have hnext : (c.next '%').rest = '%' :: rest := by rw [Cursor.next, h]; rfl
  have hsecond : (c.next '%').step (· == '%') = some ((c.next '%').next '%') :=
    step_of_pos hnext rfl
  simp only [marks, run, hfirst, hsecond, bind_some]
  rfl

lemma run_marks_eq_none (q : Regex) (h : ¬ ['%', '%'] <+: c.rest) : run (marks q) c k = none := by
  simp only [marks, run]
  rcases hrest : c.rest with - | ⟨x, - | ⟨y, rest⟩⟩
  · simp [step, hrest]
  · by_cases hx : x = '%' <;> simp [step, hrest, hx]
  · by_cases hx : x = '%'
    · by_cases hy : y = '%'
      · subst hx hy
        exact absurd ⟨rest, hrest.symm⟩ h
      · simp [step, hrest, hx, hy]
    · simp [step, hrest, hx]

def word (i : Nat) (items : List ClassItem) : Regex :=
  .group i (.seq (.rep 1 none .greedy (.cls false items)) .empty)

def Cursor.capture (c : Cursor) (i : Nat) (c' : Cursor) : Cursor :=
  { c' with groups :=
    (i, String.ofList (c.rest.take (c'.pos - c.pos))) :: c'.groups.filter (·.1 != i) }

def Cursor.keep (c : Cursor) (i : Nat) (xs : Chars) : Cursor :=
  { c.pass xs with groups := (i, String.ofList xs) :: c.groups.filter (·.1 != i) }

lemma Cursor.capture_pass (i : Nat) (h : xs <+: c.rest) :
    c.capture i (c.pass xs) = c.keep i xs := by
  have htaken : c.rest.take ((c.pass xs).pos - c.pos) = xs := by
    rw [pos_pass, Nat.add_sub_cancel_left]
    exact (prefix_iff_eq_take.1 h).symm
  rw [capture, htaken, groups_pass]
  rfl

lemma run_word_eq (i : Nat) (items : List ClassItem) (q : Regex) :
    run (.seq (word i items) q) c k =
      repeatMatch (run (.cls false items)) .greedy (1 + c.rest.length + 1) 1 none c
        fun c' => run q (c.capture i c') k :=
  rfl

/-- A run of a class, then two percent signs. -/
def markedRun (p : Char → Bool) (cs : Chars) : Split :=
  match cs.takeWhile p, cs.dropWhile p with
  | x :: xs, '%' :: '%' :: rest => some (x :: xs, rest)
  | _, _ => none

lemma markedRun_eq_some {p : Char → Bool} {cs : Chars} (h : markedRun p cs = some (xs, rest)) :
    cs = xs ++ '%' :: '%' :: rest ∧ xs ≠ [] ∧ ∀ x ∈ xs, p x = true := by
  unfold markedRun at h
  split at h
  · next y ys rest' htake hdrop =>
    obtain ⟨rfl, rfl⟩ := Prod.mk.inj (some.inj h)
    refine ⟨?_, cons_ne_nil _ _, ?_⟩
    · rw [← htake, ← hdrop, takeWhile_append_dropWhile]
    · intro x hx
      rw [← htake] at hx
      exact mem_takeWhile_imp hx
  · cases h

lemma head?_dropWhile_eq_false (p : Char → Bool) (cs : Chars) :
    ∀ x ∈ (cs.dropWhile p).head?, p x = false := by
  intro x hx
  have := List.head?_dropWhile_not p cs
  rw [mem_def.1 hx] at this
  simpa using this

lemma Cursor.rest_keep (i : Nat) (h : c.rest = xs ++ rest) : (c.keep i xs).rest = rest := by
  have hpass := c.rest_pass xs
  rw [h, drop_left] at hpass
  exact hpass

def Cursor.past (c : Cursor) (i : Nat) (xs : Chars) : Cursor :=
  (c.keep i xs).pass ['%', '%']

lemma Cursor.rest_past (i : Nat) (h : markedRun p c.rest = some (xs, rest)) :
    (c.past i xs).rest = rest := by
  rw [past, rest_pass, rest_keep i (markedRun_eq_some h).1]
  rfl

section

variable (hp : ∀ x, p x = items.any (has x))
include hp

lemma run_class : run (.cls false items) c k = (c.step p).bind k := by
  have hsame : (fun x => items.any (has x) != false) = p := by
    funext x
    rw [hp x, Bool.bne_false]
  rw [run, hsame]

variable (i : Nat) (q : Regex) (hmark : p '%' = false)
include hmark

/-- A class without the percent sign takes its whole run: behind a shorter part of it there is no
percent sign. -/
lemma run_word {x : Char} (hsplit : c.rest = x :: xs ++ rest)
    (hall : ∀ y ∈ x :: xs, p y = true) (hrest : ∀ y ∈ rest.head?, p y = false) :
    run (.seq (word i items) (marks q)) c k = run (marks q) (c.keep i (x :: xs)) k := by
  have hstep : c.step p = some (c.next x) := step_of_pos hsplit (hall x mem_cons_self)
  have hnext : (c.next x).rest = xs ++ rest := by
    rw [Cursor.next, hsplit]
    rfl
  have hprefix : x :: xs <+: c.rest := ⟨rest, hsplit.symm⟩
  rw [run_word_eq, repeatMatch, if_pos Nat.one_pos, run_class hp, hstep, bind_some,
    ← capture_pass i hprefix]
  refine repeatMatch_greedy (fun _ _ => run_class hp) xs rest hrest _ ?_ hnext ?_ ?_
  · exact fun y hy => hall y (mem_cons_of_mem _ hy)
  · rw [hsplit, length_append, length_cons]
    omega
  · refine .inr fun ys z zs heq => run_marks_eq_none q ?_
    rintro ⟨tail, htail⟩
    have hz : p z = true := by
      refine hall z (mem_cons_of_mem _ ?_)
      rw [heq]
      exact mem_append_right _ mem_cons_self
    have hahead : ((c.next x).pass ys).rest = z :: (zs ++ rest) := by
      rw [rest_pass, hnext, heq, append_assoc, drop_left]
      rfl
    have hmarked : '%' = z := (List.cons.inj (htail.trans hahead)).1
    rw [← hmarked, hmark] at hz
    cases hz

lemma run_word_marks (h : markedRun p c.rest = some (xs, rest)) :
    run (.seq (word i items) (marks q)) c k = run q (c.past i xs) k := by
  obtain ⟨hsplit, hne, hall⟩ := markedRun_eq_some h
  obtain ⟨x, xs, rfl⟩ := exists_cons_of_ne_nil hne
  have hhead : ∀ y ∈ ('%' :: '%' :: rest).head?, p y = false := by
    intro y hy
    obtain rfl : '%' = y := some.inj hy
    exact hmark
  rw [run_word hp i q hmark hsplit hall hhead]
  exact run_marks q (rest_keep i hsplit)

lemma run_word_marks_eq_none (h : markedRun p c.rest = none) :
    run (.seq (word i items) (marks q)) c k = none := by
  have hsplit : c.rest = c.rest.takeWhile p ++ c.rest.dropWhile p :=
    takeWhile_append_dropWhile.symm
  have hhead := head?_dropWhile_eq_false p c.rest
  have hall : ∀ x ∈ c.rest.takeWhile p, p x = true := fun x hx => mem_takeWhile_imp hx
  unfold markedRun at h
  revert h hsplit hhead hall
  generalize c.rest.takeWhile p = xs
  generalize c.rest.dropWhile p = rest
  intro h hsplit hhead hall
  cases xs with
  | nil =>
    have hstop : c.step p = none := step_of_neg (by rw [hsplit]; exact hhead)
    rw [run_word_eq, repeatMatch, if_pos Nat.one_pos, run_class hp, hstop]
    rfl
  | cons x xs =>
    rw [run_word hp i q hmark hsplit hall hhead]
    refine run_marks_eq_none q ?_
    rintro ⟨tail, htail⟩
    rw [rest_keep i hsplit] at htail
    subst htail
    cases h

end

/-- A group of all that stands in the rest of the line. -/
def restOfLine (i : Nat) : Regex :=
  .seq (.group i (.seq (.rep 0 none .greedy .any) .empty)) .empty

lemma run_restOfLine (i : Nat) :
    run (restOfLine i) c some = some (c.keep i (c.rest.takeWhile (· != '\n'))) := by
  have hany : ∀ c k, run .any c k = (c.step (· != '\n')).bind k := fun _ _ => rfl
  have hrun : run (restOfLine i) c some =
      repeatMatch (run .any) .greedy (0 + c.rest.length + 1) 0 none c
        fun c' => some (c.capture i c') := rfl
  rw [hrun, ← capture_pass i ( takeWhile_prefix _)]
  refine repeatMatch_greedy hany _ (c.rest.dropWhile (· != '\n')) ?_ _ ?_ ?_ ?_ (.inl rfl)
  · exact head?_dropWhile_eq_false _ c.rest
  · intro x hx
    exact mem_takeWhile_imp (p := (· != '\n')) hx
  · exact takeWhile_append_dropWhile.symm
  · have := ( takeWhile_prefix (p := (· != '\n')) (l := c.rest)).length_le
    omega

end Pattern

namespace Log

open Pattern Cursor

/-- What a header tells of a message. -/
structure Header where
  severity : String
  time : String
  text : String
deriving DecidableEq, Repr

def isTimeChar (c : Char) : Bool :=
  Text.isDecimal c || c == '.'

/-- Reads the header at the beginning of a text, and the rest of its line. -/
def Header.read? (s : String) : Option Header :=
  match s.toList with
  | '%' :: '%' :: cs => do
    let (severity, cs) ← markedRun Text.isWord cs
    let (time, cs) ← markedRun isTimeChar cs
    return ⟨String.ofList severity, String.ofList time, String.ofList (cs.takeWhile (· != '\n'))⟩
  | _ => none

def headerPattern : Compiled where
  pattern := marks (.seq (word 1 [.word false])
    (marks (.seq (word 2 [.digit false, .one '.']) (marks (restOfLine 3)))))
  groups := 3

lemma compile_processPattern : compile processPattern = .ok headerPattern := by
  cbv

lemma isWord_eq (x : Char) : Text.isWord x = [ClassItem.word false].any (ClassItem.has x) := by
  simp [ClassItem.has]

lemma isTimeChar_eq (x : Char) :
    isTimeChar x = [ClassItem.digit false, .one '.'].any (ClassItem.has x) := by
  simp [ClassItem.has, isTimeChar]

lemma matchAt_of_read? {s : String} {h : Header} (hread : Header.read? s = some h) :
    ∃ c, matchAt headerPattern.pattern s = some c ∧ c.group? 1 = some h.severity ∧
      c.group? 2 = some h.time ∧ c.group? 3 = some h.text := by
  unfold Header.read? at hread
  split at hread
  · next cs hs =>
    obtain ⟨⟨severity, cs₁⟩, hseverity, hread⟩ := bind_eq_some_iff.1 hread
    obtain ⟨⟨time, cs₂⟩, htime, hread⟩ := bind_eq_some_iff.1 hread
    obtain rfl := some.inj hread
    have hstart : (start s).rest = '%' :: '%' :: cs := hs
    have hfirst : ((start s).pass ['%', '%']).rest = cs := by
      rw [rest_pass, hstart]
      rfl
    rw [← hfirst] at hseverity
    have hsecond := rest_past 1 hseverity
    rw [← hsecond] at htime
    have hthird := rest_past 2 htime
    rw [matchAt, headerPattern, run_marks _ hstart, run_word_marks isWord_eq 1 _ rfl hseverity,
      run_word_marks isTimeChar_eq 2 _ rfl htime, run_restOfLine, hthird]
    refine ⟨_, rfl, ?_⟩
    exact ⟨rfl, rfl, rfl⟩
  · cases hread

lemma matchAt_eq_none {s : String} (hread : Header.read? s = none) :
    matchAt headerPattern.pattern s = none := by
  unfold Header.read? at hread
  split at hread
  · next cs hs =>
    have hstart : (start s).rest = '%' :: '%' :: cs := hs
    have hfirst : ((start s).pass ['%', '%']).rest = cs := by
      rw [rest_pass, hstart]
      rfl
    rw [← hfirst] at hread
    rw [matchAt, headerPattern, run_marks _ hstart]
    cases hseverity : markedRun Text.isWord ((start s).pass ['%', '%']).rest with
    | none => exact run_word_marks_eq_none isWord_eq 1 _ rfl hseverity
    | some taken =>
      obtain ⟨severity, cs₁⟩ := taken
      have hsecond := rest_past 1 hseverity
      rw [hseverity, bind_eq_bind, bind_some] at hread
      rw [run_word_marks isWord_eq 1 _ rfl hseverity]
      cases htime : markedRun isTimeChar cs₁ with
      | none =>
        rw [← hsecond] at htime
        exact run_word_marks_eq_none isTimeChar_eq 2 _ rfl htime
      | some taken =>
        dsimp only at hread
        rw [htime] at hread
        cases hread
  · next hs =>
    refine run_marks_eq_none _ ?_
    rintro ⟨cs, hcs⟩
    exact hs cs hcs.symm

def StartsPlain (s : String) : Prop :=
  ∃ c cs, s.toList = c :: cs ∧ c ≠ '%'

lemma StartsPlain.append {a : String} (h : StartsPlain a) (b : String) : StartsPlain (a ++ b) := by
  obtain ⟨c, cs, hcs, hc⟩ := h
  refine ⟨c, cs ++ b.toList, ?_, hc⟩
  rw [String.toList_append, hcs]
  rfl

lemma StartsPlain.read?_eq_none {s : String} (h : StartsPlain s) : Header.read? s = none := by
  obtain ⟨c, cs, hcs, hc⟩ := h
  unfold Header.read?
  split
  · next hs =>
    rw [hs] at hcs
    exact absurd (List.cons.inj hcs).1.symm hc
  · rfl

end Log

end Launchpad
