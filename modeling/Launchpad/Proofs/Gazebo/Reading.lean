import Mathlib
import Launchpad.Proofs.Launch.Outcome
import Launchpad.Proofs.Log.Header
import Launchpad.Session.Simulator

/-!
Bridges that are written and read back. The text of a bridge is well formed: whatever the pattern
tries first, it comes to a split that succeeds. But then a part is asked for that it does not have.
-/

namespace Launchpad

open List Option

namespace Pattern

variable {c : Cursor} {k : Cursor → Option Cursor} {xs rest : Chars}
variable (hk : ∀ c : Cursor, c.rest = rest → (k c).isSome)
include hk

/-- A repetition succeeds with any number of characters behind which the rest does. -/
lemma isSome_repeatMatch (hline : '\n' ∉ xs) {fuel min : Nat} (hfuel : xs.length ≤ fuel)
    (hmin : min ≤ xs.length) (hc : c.rest = xs ++ rest) :
    (repeatMatch (run .any) .greedy (fuel + 1) min none c k).isSome := by
  induction xs generalizing c fuel min with
  | nil =>
    obtain rfl : min = 0 := Nat.le_zero.1 hmin
    simp [repeatMatch, hk c hc]
  | cons x xs ih =>
    obtain ⟨hx, hxs⟩ := not_or.1 (mt mem_cons.2 hline)
    obtain ⟨fuel, rfl⟩ := Nat.exists_eq_succ_of_ne_zero (Nat.ne_of_gt (Nat.zero_lt_of_lt hfuel))
    have hrun (k : Cursor → Option Cursor) : run .any c k = k (c.next x) := by
      rw [run, Cursor.step_of_pos hc (by simpa using Ne.symm hx), bind_some]
    have hmore {min : Nat} (h : min ≤ xs.length) :=
      ih hxs (Nat.le_of_succ_le_succ hfuel) h (c := c.next x) (by rw [Cursor.next, hc]; rfl)
    have hmoved : ¬ (c.next x).pos = c.pos := Nat.succ_ne_self _
    rw [repeatMatch]
    by_cases h : 0 < min
    · simpa [h, hrun] using hmore (Nat.sub_le_of_le_add hmin)
    · simp [h, hrun, hmoved, hmore (Nat.zero_le _)]

def dots (i : Nat) : Regex :=
  .group i (.seq (.rep 1 none .greedy .any) .empty)

lemma isSome_dots {i : Nat} (hne : xs ≠ []) (hline : '\n' ∉ xs) (hc : c.rest = xs ++ rest) :
    (run (dots i) c k).isSome := by
  refine isSome_repeatMatch ?_ hline ?_ (length_pos_iff.2 hne) hc
  · exact fun c h => hk _ h
  · rw [hc, length_append]
    omega

lemma isSome_step {p : Char → Bool} {x : Char} (hx : p x = true) (hc : c.rest = x :: rest) :
    ((c.step p).bind k).isSome := by
  rw [Cursor.step_of_pos hc hx]
  exact hk _ (by rw [Cursor.next, hc]; rfl)

end Pattern

namespace Gazebo

open Pattern

def signs : List ClassItem :=
  [.one '[', .one ']', .one '@']

def bridgePattern : Compiled where
  pattern := .seq (dots 1) (.seq (.char '@') (.seq (dots 2) (.seq (.cls false signs)
    (.seq (dots 3) .empty))))
  groups := 3

lemma compile_bridgePattern : compile "(.+)@(.+)[\\[\\]@](.+)" = .ok bridgePattern := by
  cbv

/-- A text of one line. -/
def Plain (s : String) : Prop :=
  s.toList ≠ [] ∧ '\n' ∉ s.toList

def directions : List String :=
  ["ros2gz", "gz2ros", "bidirectional", "]", "[", "@"]

lemma exists_sign {d : String} (hd : d ∈ directions) :
    ∃ x, (directionSign d).toList = [x] ∧ signs.any (ClassItem.has x) := by
  simp only [directions, mem_cons, not_mem_nil, or_false] at hd
  rcases hd with rfl | rfl | rfl | rfl | rfl | rfl
  all_goals exact ⟨_, rfl, rfl⟩

lemma isSome_matchAt {b : Bridge} {direction : String} (hsign : b.direction = directionSign direction)
    (hdirection : direction ∈ directions) (htopic : Plain b.topic) (htype : Plain b.graphType)
    (hsim : Plain b.simType) : (matchAt bridgePattern.pattern b.text).isSome := by
  obtain ⟨x, hx, hmem⟩ := exists_sign hdirection
  have htext : (Cursor.start b.text).rest =
      b.topic.toList ++ '@' :: (b.graphType.toList ++ x :: (b.simType.toList ++ [])) := by
    simp [Cursor.start, Bridge.text, hsign, hx]
  simp only [matchAt, bridgePattern, run]
  refine isSome_dots (fun c hc => ?_) htopic.1 htopic.2 htext
  refine isSome_step (fun c hc => ?_) rfl hc
  refine isSome_dots (fun c hc => ?_) htype.1 htype.2 hc
  refine isSome_step (fun c hc => ?_) (by simpa using hmem) hc
  exact isSome_dots (fun c _ => rfl) hsim.1 hsim.2 hc

lemma eq_of_make {topic graphType direction : String} {simType : Option String} {remaps : Value}
    {b : Bridge} (h : Bridge.make topic graphType direction simType remaps = .ok b) :
    b.topic = topic ∧ b.graphType = graphType ∧ b.direction = directionSign direction := by
  unfold Bridge.make at h
  grind

end Gazebo

namespace Launch

open Gazebo

lemma run_bridgeFromText (text : String) (s : Session) : (bridgeFromText (.str text)).run s =
    .error (if (Pattern.matchAt bridgePattern.pattern text).isNone then
      .told .invalidValue (text ++ " is not a valid bridge string") else .silent .outOfRange) s := by
  have hcompile : (lift (.ok bridgePattern)).run s = .ok bridgePattern s := rfl
  rw [bridgeFromText, compile_bridgePattern, run_bind_of_ok hcompile]
  cases Pattern.matchAt bridgePattern.pattern text <;> rfl

/-- No text is read as a bridge, and that of a bridge fails for want of a fourth part. -/
theorem bridge_not_read_back {topic graphType direction : String} {simType : Option String}
    {remaps : Value} {b : Bridge}
    (hmake : Bridge.make topic graphType direction simType remaps = .ok b)
    (hdirection : direction ∈ directions) (htopic : Plain topic) (htype : Plain graphType)
    (hsim : Plain b.simType) (s : Session) :
    (bridgeFromText (.str b.text)).run s = .error (.silent .outOfRange) s ∧
      ∀ v, ∃ e, (bridgeFromText v).run s = .error e s := by
  obtain ⟨rfl, rfl, hsign⟩ := eq_of_make hmake
  refine ⟨?_, fun v => ?_⟩
  · have hmatch := isSome_matchAt hsign hdirection htopic htype hsim
    rw [run_bridgeFromText, isNone_eq_false_iff.2 hmatch]
    rfl
  · cases v with
    | str text => exact ⟨_, run_bridgeFromText text s⟩
    | _ => exact ⟨_, rfl⟩

theorem bridge_not_read_back_talk :
    (bridgeFromText (.str "/talk@T]G")).run {} = .error (.silent .outOfRange) {} :=
  have hmake : Bridge.make "/talk" "T" "ros2gz" (some "G") .null =
      .ok ⟨"/talk", "T", "]", "G", .null, false⟩ := rfl
  (bridge_not_read_back hmake (by decide) ⟨by decide, by decide⟩ ⟨by decide, by decide⟩
    ⟨by decide, by decide⟩ {}).1

theorem made_bridge_not_read_back : ∃ b,
    Bridge.make "/chat" "std_msgs/msg/String" "@" (some "gz.msgs.StringMsg") .null = .ok b ∧
      (bridgeFromText (.str b.text)).run {} = .error (.silent .outOfRange) {} := by
  refine ⟨_, rfl, ?_⟩
  rw [run_bridgeFromText, if_neg (by decide +kernel)]

end Launch

end Launchpad
