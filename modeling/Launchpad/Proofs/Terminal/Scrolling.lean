import Launchpad.Proofs.Terminal.Menu
import Mathlib.Algebra.Order.Ring.Int
import Mathlib.Algebra.BigOperators.Group.List.Basic

/-!
Menus that are wider than the screen. What is shown of such a menu is a window: a run of items
around the selected one that grows by one item at a time, on the left and on the right in turn, as
long as the next item fits beside two marks. Main statement: the window is as wide as it can be, and
a mark stands exactly at those of its ends where items are left out.
-/

namespace Launchpad.Menu

/-- The segment of the item at place `j`, given by its style and its label, when the item at place
`i` is the selected one. -/
def itemSegment (look : String) (i j : Nat) (item : String × Value) : Segment :=
  ⟨.str (if j = i then item.1 ++ " " ++ look else item.1),
    .str (" " ++ item.2.display Value.plainRef ++ " ")⟩

section Segments

variable {m : Menu} {i : Nat} {look : String} (hsel : m.selected = .int i)
  (hlook : m.highlight = .str look)

include hsel hlook

lemma segment_eq {x : Value} {item : String × Value}
    (hx : face x = .ok (.str item.1, item.2)) (j : Nat) :
    m.segment j x = .ok (itemSegment look i j item) := by
  have hsame : Value.same (.int j) m.selected = decide (j = i) := by
    rw [hsel, Bool.eq_iff_iff]
    simp [Value.same, Value.asInt?]
  simp only [segment, hx, hsame, bind, Except.bind, itemSegment]
  by_cases hj : j = i
  · rw [if_pos (decide_eq_true hj), if_pos hj, hlook]
    rfl
  · rw [if_neg (by simpa using hj), if_neg hj]
    rfl

lemma mapM_segment_eq {xs : List Value} {items : List (String × Value)}
    (hxs : List.Forall₂ (fun x item => face x = .ok (.str item.1, item.2)) xs items) (k : Nat) :
    (xs.zipIdx k).mapM (fun p => m.segment p.2 p.1) =
      .ok (items.mapIdx fun j => itemSegment look i (k + j)) := by
  induction hxs generalizing k with
  | nil => rfl
  | cons hx _ ih =>
    rw [List.zipIdx_cons, List.mapM_cons, segment_eq hsel hlook hx, ih, List.mapIdx_cons]
    simp only [Nat.add_right_comm, Nat.add_assoc]
    rfl

lemma segments_eq {xs : List Value} {items : List (String × Value)} (hlist : m.items = .list xs)
    (hxs : List.Forall₂ (fun x item => face x = .ok (.str item.1, item.2)) xs items) :
    m.segments = .ok (items.mapIdx (itemSegment look i)) := by
  have hmap := mapM_segment_eq hsel hlook hxs 0
  simp only [Nat.zero_add] at hmap
  rw [segments, list, hlist]
  exact hmap

end Segments

/-! ## The window -/

lemma totalWidth_eq (ss : List Segment) : totalWidth ss = (ss.map Segment.width).sum :=
  List.sum_eq_foldl.symm

/-- A window shows the segments between `before` and `after`, among them the one at `place`, and
uses what they are wide. It is not wider than `most`. -/
structure Window.Covers (w : Window) (ss before after : List Segment) (place : Nat) (most : Int) :
    Prop where
  split : ss = before ++ w.shown ++ after
  left : w.left = before.length - 1
  right : w.right = before.length + w.shown.length
  used : w.used = totalWidth w.shown
  within : w.used ≤ most
  first : before.length ≤ place
  last : place < before.length + w.shown.length

namespace Window

variable {ss before after : List Segment} {place : Nat} {most budget : Int} {w : Window}

/-- The left side of a window either stays, since the next segment on it does not fit or there is
none, or takes this segment in. -/
lemma Covers.growLeft (h : w.Covers ss before after place most) (hmost : budget ≤ most) :
    (w.growLeft ss budget = w ∧ ∀ s ∈ before.getLast?, budget < w.used + s.width) ∨
      w.shown.length < (w.growLeft ss budget).shown.length ∧
        ∃ before', (w.growLeft ss budget).Covers ss before' after place most := by
  rcases before.eq_nil_or_concat' with rfl | ⟨rest, s, rfl⟩
  · have hleft : ¬ 0 ≤ w.left := by simp [h.left]
    exact .inl ⟨if_neg hleft, by simp⟩
  · have hleft : w.left = rest.length := by simp [h.left]
    have hat : at? ss w.left = some s := by simp [at?, hleft, h.split]
    have hgrow : w.growLeft ss budget = if w.used + s.width ≤ budget then
        { w with shown := s :: w.shown, used := w.used + s.width, left := w.left - 1 } else w := by
      rw [Window.growLeft, if_pos (by omega), hat]
    by_cases hfits : w.used + s.width ≤ budget
    · rw [hgrow, if_pos hfits]
      have hfirst := h.first
      have hlast := h.last
      refine .inr ⟨by simp, rest, by simp [h.split], by simp [hleft], ?_, ?_, hfits.trans hmost,
        ?_, ?_⟩
      · simp [h.right]
        omega
      · simp [totalWidth_eq, h.used, Int.add_comm]
      · simp at hfirst
        omega
      · simp at hlast ⊢
        omega
    · exact .inl ⟨by rw [hgrow, if_neg hfits], by simpa using hfits⟩

/-- The same for the right side. -/
lemma Covers.growRight (h : w.Covers ss before after place most) (hmost : budget ≤ most) :
    (w.growRight ss budget = w ∧ ∀ s ∈ after.head?, budget < w.used + s.width) ∨
      w.shown.length < (w.growRight ss budget).shown.length ∧
        ∃ after', (w.growRight ss budget).Covers ss before after' place most := by
  have hlength : (ss.length : Int) = w.right + after.length := by
    rw [h.right, h.split]
    simp [Int.add_assoc]
  cases after with
  | nil =>
    have hright : ¬ w.right < ss.length := by simp [hlength]
    exact .inl ⟨if_neg hright, by simp⟩
  | cons s rest =>
    have hat : at? ss w.right = some s := by
      have hplace : w.right = ((before ++ w.shown).length : Nat) := by simp [h.right]
      simp only [at?, hplace, Int.natCast_nonneg, if_true, Int.toNat_natCast, h.split]
      simp
    have hgrow : w.growRight ss budget = if w.used + s.width ≤ budget then
        { w with shown := w.shown ++ [s], used := w.used + s.width, right := w.right + 1 }
        else w := by
      rw [Window.growRight, if_pos (by simp [hlength]), hat]
    by_cases hfits : w.used + s.width ≤ budget
    · rw [hgrow, if_pos hfits]
      have hlast := h.last
      refine .inr ⟨by simp, rest, by simp [h.split], h.left, ?_, ?_, hfits.trans hmost, h.first,
        ?_⟩
      · simp [h.right]
        omega
      · simp [totalWidth_eq, h.used]
      · simp
        omega
    · exact .inl ⟨by rw [hgrow, if_neg hfits], by simpa using hfits⟩

/-- No side of the window can take in another segment. -/
def Full (w : Window) (budget : Int) (before after : List Segment) : Prop :=
  (∀ s ∈ before.getLast?, budget < w.used + s.width) ∧
    ∀ s ∈ after.head?, budget < w.used + s.width

/-- A round of growing leaves a full window as it is and makes any other longer. -/
lemma Covers.round (h : w.Covers ss before after place most) (hmost : budget ≤ most) :
    ((w.growLeft ss budget).growRight ss budget = w ∧ w.Full budget before after) ∨
      w.shown.length < ((w.growLeft ss budget).growRight ss budget).shown.length ∧
        ∃ before' after',
          ((w.growLeft ss budget).growRight ss budget).Covers ss before' after' place most := by
  rcases h.growLeft hmost with ⟨hstay, hleft⟩ | ⟨hlonger, before', h'⟩
  · rw [hstay]
    rcases h.growRight hmost with ⟨hstay', hright⟩ | ⟨hlonger, after', h'⟩
    · exact .inl ⟨hstay', hleft, hright⟩
    · exact .inr ⟨hlonger, before, after', h'⟩
  · rcases h'.growRight hmost with ⟨hstay, -⟩ | ⟨hlonger', after', h''⟩
    · rw [hstay]
      exact .inr ⟨hlonger, before', after, h'⟩
    · exact .inr ⟨hlonger.trans hlonger', before', after', h''⟩

/-- Growing ends with a full window: there are at most as many rounds as there are segments
outside of it. -/
lemma Covers.grow (hmost : budget ≤ most) {n : Nat} (h : w.Covers ss before after place most)
    (hn : ss.length < n + w.shown.length) :
    ∃ before' after', (Window.grow ss budget n w).Covers ss before' after' place most ∧
      (Window.grow ss budget n w).Full budget before' after' := by
  induction n generalizing w before after with
  | zero =>
    have hlength := congrArg List.length h.split
    simp at hlength
    omega
  | succ n ih =>
    rw [Window.grow]
    rcases h.round hmost with ⟨hstay, hfull⟩ | ⟨hlonger, before', after', h'⟩
    · rw [hstay, if_pos rfl]
      exact ⟨before, after, h, hfull⟩
    · rw [if_neg (Nat.ne_of_gt hlonger)]
      exact ih h' (by omega)

end Window

/-- What is shown between `before` and `after`, with a mark at each end where something is left
out. -/
def framed (mark : Segment) (before shown after : List Segment) : List Segment :=
  (if before = [] then [] else [mark]) ++ shown ++ if after = [] then [] else [mark]

lemma totalWidth_framed {mark : Segment} {before shown after : List Segment} {columns : Int}
    (h : totalWidth shown ≤ columns - 2 * mark.width) :
    totalWidth (framed mark before shown after) ≤ columns := by
  have hmark : 0 ≤ mark.width := Int.natCast_nonneg _
  simp only [totalWidth_eq] at h
  simp only [totalWidth_eq, framed, List.map_append, List.sum_append]
  split <;> split
  all_goals
    simp only [List.map_nil, List.map_cons, List.sum_nil, List.sum_cons]
    omega

lemma Window.Covers.framed_eq {w : Window} {ss before after : List Segment} {place : Nat}
    {most : Int} (h : w.Covers ss before after place most) (mark : Segment) :
    (if 0 ≤ w.left then [mark] else []) ++ w.shown ++
      (if w.right < ss.length then [mark] else []) = framed mark before w.shown after := by
  have hleft : 0 ≤ w.left ↔ before ≠ [] := by
    rw [h.left, ← List.length_pos_iff]
    omega
  have hright : w.right < ss.length ↔ after ≠ [] := by
    rw [h.right, h.split, ← List.length_pos_iff]
    simp only [List.length_append]
    omega
  simp only [framed, hleft, hright, ne_eq, ite_not]

variable {m : Menu} {xs : List Value} {i : Nat} {look mark : String}
  {items : List (String × Value)} {columns : Int}

/-- A menu that is too wide for the screen shows the items from behind `before` to before `after`,
the selected one among them, with a mark where items are left out. If the selected item fits beside
two marks, all that is shown fits; and the next item on either side would not fit any more. -/
theorem render_widest_window (h : m.Shows xs i) (hi : i < xs.length)
    (hxs : List.Forall₂ (fun x item => face x = .ok (.str item.1, item.2)) xs items)
    (hlook : m.highlight = .str look) (hmark : m.ellipsis = .str mark)
    (hwide : columns < totalWidth (items.mapIdx (itemSegment look i))) :
    ∃ before shown after,
      items.mapIdx (itemSegment look i) = before ++ shown ++ after ∧
      before.length ≤ i ∧ i < before.length + shown.length ∧
      m.render columns = .ok (some (framed ⟨.str "", .str mark⟩ before shown after)) ∧
      (∀ s ∈ (items.mapIdx (itemSegment look i))[i]?, s.width ≤ columns - 2 * mark.length →
        totalWidth (framed ⟨.str "", .str mark⟩ before shown after) ≤ columns) ∧
      (∀ s ∈ before.getLast?, columns - 2 * mark.length < totalWidth shown + s.width) ∧
      ∀ s ∈ after.head?, columns - 2 * mark.length < totalWidth shown + s.width := by
  have hss := segments_eq h.selected hlook h.items hxs
  have hlength : (items.mapIdx (itemSegment look i)).length = xs.length := by
    simp [hxs.length_eq]
  generalize items.mapIdx (itemSegment look i) = ss at *
  have hplace : i < ss.length := by omega
  have hrender : m.render columns = .ok (some (m.window columns ss i ss[i])) := by
    have hsome : m.items.truthy = true := by
      cases xs with
      | nil => simp at hi
      | cons x xs => simp [h.items, Value.truthy]
    have hat : at? ss (i : Int) = some ss[i] := by simp [at?, hplace]
    simp only [render, hsome, hss, h.selected, hmark, Value.size?, Value.placeNumber,
      Value.asInt?, bind, Except.bind, hat, if_neg (Int.not_le.2 hwide)]
    rfl
  have hcovers : Window.Covers ⟨[ss[i]], ss[i].width, i - 1, i + 1⟩ ss (ss.take i)
      (ss.drop (i + 1)) i (max (columns - 2 * mark.length) ss[i].width) := by
    have htake : (ss.take i).length = i := by simp; omega
    exact ⟨by simp, by simp [htake], by simp [htake], by simp [totalWidth_eq], le_max_right _ _,
      htake.le, by simp [htake]⟩
  obtain ⟨before, after, hw, hleft, hright⟩ := hcovers.grow (le_max_left _ _)
    (n := 2 * ss.length) (by simp; omega)
  refine ⟨before, _, after, hw.split, hw.first, hw.last, ?_, ?_, ?_, ?_⟩
  · rw [hrender, ← hw.framed_eq, window, hmark]
    rfl
  · intro s hs hfits
    obtain rfl : ss[i] = s := by simpa [hplace] using hs
    exact totalWidth_framed (hw.used ▸ hw.within.trans (max_le (le_refl _) hfits))
  · rwa [← hw.used]
  · rwa [← hw.used]

/-- Five items on a screen of eleven columns: the window has grown once on either side. -/
theorem render_widest_window_five :
    let items : List (String × Value) := ["", "", "", "", ""].zip
      (["a", "b", "c", "d", "e"].map .str)
    let m : Menu := { items := .list (items.map (·.2)), selected := .int 2 }
    ∃ before shown after, items.mapIdx (itemSegment "reverse" 2) = before ++ shown ++ after ∧
      m.render 11 = .ok (some (framed ⟨.str "", .str "…"⟩ before shown after)) ∧
      totalWidth (framed ⟨.str "", .str "…"⟩ before shown after) ≤ 11 := by
  intro items m
  have hfaces : List.Forall₂ (fun x item => face x = .ok (.str item.1, item.2))
      (items.map (·.2)) items := by simp [items, face]
  have hwide : 11 < totalWidth (items.mapIdx (itemSegment "reverse" 2)) := by decide
  have hmark : m.ellipsis = .str "…" := rfl
  obtain ⟨before, shown, after, hsplit, -, -, hrender, hfits, -⟩ :=
    render_widest_window ⟨rfl, rfl⟩ (by decide) hfaces rfl hmark hwide
  exact ⟨before, shown, after, hsplit, hrender, hfits _ rfl (by decide)⟩

end Launchpad.Menu
