import Launchpad.Menu
import Mathlib.Tactic.Common

/-!
Menus whose items are a list. The selection of such a menu is an item as long as there are items;
moving it, selecting a place and replacing the items keep it so, where they succeed.
-/

namespace Launchpad

namespace Value

lemma less_int (a b : Int) : less false (.int a) (.int b) = .ok (decide (a < b)) := by
  simp [less, number?, Number.less]

lemma less_int_of_le (a b : Int) : less true (.int a) (.int b) = .ok (decide (a ≤ b)) := by
  simp only [less, number?, Number.less, Bool.true_and, Except.ok.injEq]
  rw [Bool.eq_iff_iff]
  simp [Int.le_iff_lt_or_eq]

lemma place_of_lt {α : Type} {xs : List α} {i : Nat} (h : i < xs.length) :
    place xs i = .ok xs[i] := by
  have hnonneg : ¬ (i : Int) < 0 := Int.not_lt.2 (Int.natCast_nonneg i)
  simp only [place, if_neg hnonneg, if_pos (Int.not_lt.1 hnonneg), Int.toNat_natCast,
    List.getElem?_eq_getElem h]

end Value

namespace Menu

variable {m : Menu} {xs : List Value} {i : Nat}

/-- The items of a menu and the place that is selected. -/
structure Shows (m : Menu) (xs : List Value) (i : Nat) : Prop where
  items : m.items = .list xs
  selected : m.selected = .int i

/-- The selection is one of the items, if there are any. -/
def Fits (m : Menu) : Prop :=
  ∃ xs i, m.Shows xs i ∧ (xs = [] ∨ i < xs.length)

lemma Shows.size_eq (h : m.Shows xs i) : m.size = .ok xs.length := by
  rw [size, h.items]
  rfl

lemma Shows.current_eq (h : m.Shows xs i) (hi : i < xs.length) : m.current = .ok xs[i] := by
  rw [current, h.items, h.selected]
  exact Value.place_of_lt hi

lemma Shows.current_nil (h : m.Shows [] i) : m.current = .error (.silent .outOfRange) := by
  rw [current, h.items, h.selected]
  show Value.place [] i = _
  simp [Value.place]

lemma Shows.exists_move (h : m.Shows xs i) (hne : xs ≠ []) (d : Int) :
    ∃ j : Nat, m.move d = .ok { m with selected := .int j } ∧ j < xs.length := by
  have hpos : (0 : Int) < xs.length := Int.natCast_pos.2 (List.length_pos_iff.2 hne)
  have hlow := Int.fmod_nonneg_of_pos (i + d) hpos
  have hhigh := Int.fmod_lt_of_pos (i + d) hpos
  have hsome : ((xs.length : Int) == 0) = false := beq_false_of_ne (Int.ne_of_gt hpos)
  refine ⟨((i + d).fmod xs.length).toNat, ?_, by omega⟩
  simp only [move, h.selected, h.size_eq, Value.number?, Number.add, Number.combine, Number.mod,
    Number.wholeDivision, Number.division, bind, Except.bind, hsome, Int.toNat_of_nonneg hlow]
  rfl

lemma Shows.move_nil (h : m.Shows [] i) (d : Int) :
    m.move d = .error (.silent .divisionByZero) := by
  simp only [move, h.selected, h.size_eq, Value.number?, Number.add, Number.combine, Number.mod,
    Number.wholeDivision, Number.division, bind, Except.bind]
  rfl

lemma Shows.select_int (h : m.Shows xs i) (k : Nat) :
    ∃ text, m.select (.int k) = if k < xs.length then .ok { m with selected := .int k }
      else .error (.told .invalidValue text) := by
  have hfront : decide ((0 : Int) ≤ k) = true := decide_eq_true (Int.natCast_nonneg k)
  simp only [select, Value.less_int_of_le, hfront, h.size_eq, Value.less_int, bind, Except.bind,
    if_true, Int.ofNat_lt, decide_eq_true_eq]
  exact ⟨_, rfl⟩

lemma Shows.updateItems_eq (h : m.Shows xs i) (ys : List Value) :
    m.updateItems (.list ys) =
      .ok { m with items := .list ys, selected := .int (if ys.length ≤ i then 0 else i) } := by
  obtain ⟨items, selected, ellipsis, highlight⟩ := m
  obtain ⟨rfl, rfl⟩ : items = .list xs ∧ selected = .int i := ⟨h.items, h.selected⟩
  have hless : Value.less true (.int ys.length) (.int i) = .ok (decide (ys.length ≤ i)) := by
    rw [Value.less_int_of_le, decide_eq_decide.2 Int.ofNat_le]
  show (Value.less true (.int ys.length) (.int i) >>= fun behind => _) = _
  rw [hless]
  by_cases hle : ys.length ≤ i
  · rw [decide_eq_true hle, if_pos hle]
    rfl
  · rw [decide_eq_false hle, if_neg hle]
    rfl

lemma Shows.exists_updateItems (h : m.Shows xs i) (ys : List Value) :
    ∃ j : Nat, m.updateItems (.list ys) = .ok { m with items := .list ys, selected := .int j } ∧
      (ys = [] ∨ j < ys.length) := by
  refine ⟨if ys.length ≤ i then 0 else i, by rw [h.updateItems_eq]; split <;> rfl, ?_⟩
  by_cases hnil : ys = []
  · exact .inl hnil
  · have hpos := List.length_pos_iff.2 hnil
    split <;> omega

end Menu

end Launchpad
