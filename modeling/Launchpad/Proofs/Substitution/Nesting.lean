import Launchpad.Substitution.Form
import Mathlib.Tactic.Lemma

/-!
How substitutions nest. A tree is a text or a substitution with its key and its arguments, and it is
written as a row of marks. Reading such a row gives back the trees: what the reading of tokens holds
at any time is a place in the trees that are being read.
-/

namespace Launchpad.Substitution

/-- A text, or a substitution with its key and its arguments. -/
inductive Tree where
  | leaf (text : String)
  | call (key : String) (args : List Tree)

/-- What a text is a row of, when every opening mark is taken together with the key behind it. -/
inductive Mark where
  | opens (key : String)
  | closes
  | leaf (text : String)

def Mark.tokens : Mark → List Token
  | .opens key => [.opening, .word key]
  | .closes => [.closing]
  | .leaf s => [.word s]

mutual

/-- The form that a tree is read as: its key is the first item and carries a dollar sign. -/
def Tree.form : Tree → Form
  | .leaf s => .word s
  | .call key args => .items (.word ("$" ++ key) :: forms args)

def forms : List Tree → List Form
  | [] => []
  | t :: ts => t.form :: forms ts

end

mutual

def Tree.marks : Tree → List Mark
  | .leaf s => [.leaf s]
  | .call key args => .opens key :: (marksAll args ++ [.closes])

def marksAll : List Tree → List Mark
  | [] => []
  | t :: ts => t.marks ++ marksAll ts

end

lemma forms_eq_map (ts : List Tree) : forms ts = ts.map Tree.form := by
  induction ts with
  | nil => rfl
  | cons t ts ih => rw [forms, List.map_cons, ih]

mutual

lemma Tree.form_injective {t u : Tree} (h : t.form = u.form) : t = u := by
  cases t with
  | leaf s =>
    cases u with
    | leaf s' =>
      obtain rfl : s = s' := by simpa [Tree.form] using h
      rfl
    | call key args => simp [Tree.form] at h
  | call key args =>
    cases u with
    | leaf s => simp [Tree.form] at h
    | call key' args' =>
      obtain ⟨hkey, hargs⟩ : key = key' ∧ forms args = forms args' := by
        simpa [Tree.form] using h
      rw [hkey, forms_injective hargs]

lemma forms_injective {ts us : List Tree} (h : forms ts = forms us) : ts = us := by
  cases ts with
  | nil =>
    cases us with
    | nil => rfl
    | cons u us => simp [forms] at h
  | cons t ts =>
    cases us with
    | nil => simp [forms] at h
    | cons u us =>
      obtain ⟨ht, hts⟩ : t.form = u.form ∧ forms ts = forms us := by simpa [forms] using h
      rw [t.form_injective ht, forms_injective hts]

end

/-- A place in trees that are being read: the trees of the innermost substitution so far, the last
one first, and for each substitution that is open its key and the trees before it. -/
structure Place where
  trees : List Tree := []
  outer : List (String × List Tree) := []

namespace Place

def step (p : Place) : Mark → Except FormError Place
  | .opens key => .ok { trees := [], outer := (key, p.trees) :: p.outer }
  | .closes => match p.outer with
    | [] => .error .unbalancedClosing
    | (key, before) :: outer => .ok { trees := .call key p.trees.reverse :: before, outer }
  | .leaf s => .ok { p with trees := .leaf s :: p.trees }

def run : Place → List Mark → Except FormError Place
  | p, [] => .ok p
  | p, m :: ms => (p.step m).bind (run · ms)

def close (p : Place) : ScanEnd → Except FormError (List Tree)
  | .unclosedQuote => .error .unclosedQuote
  | .stuck => .error .endless
  | .finished => if p.outer.isEmpty then .ok p.trees.reverse else .error .unbalancedOpening

def level (trees : List Tree) (outer : List (String × List Tree)) : List Form :=
  forms trees ++ (outer.head?.map fun e => Form.word ("$" ++ e.1)).toList

def levels : List (String × List Tree) → List (List Form)
  | [] => []
  | e :: outer => level e.2 outer :: levels outer

def reading (p : Place) : Reading :=
  { current := level p.trees p.outer, outer := levels p.outer }

end Place

lemma Reading.pushAll_append (r : Reading) (ts us : List Token) :
    r.pushAll (ts ++ us) = (r.pushAll ts).bind (·.pushAll us) := by
  induction ts generalizing r with
  | nil => rfl
  | cons t ts ih =>
    simp only [List.cons_append, pushAll]
    cases r.push t with
    | error e => rfl
    | ok r' => exact ih r'

namespace Place

lemma pushAll_tokens (p : Place) (m : Mark) :
    p.reading.pushAll m.tokens = (p.step m).map reading := by
  cases m with
  | opens key => rfl
  | leaf s => rfl
  | closes =>
    obtain ⟨trees, outer⟩ := p
    cases outer with
    | nil => rfl
    | cons e outer =>
      simp [Mark.tokens, Reading.pushAll, Reading.push, reading, step, level, levels, Except.map,
        forms_eq_map, Tree.form]

lemma pushAll_marks (p : Place) (ms : List Mark) :
    p.reading.pushAll (ms.flatMap Mark.tokens) = (p.run ms).map reading := by
  induction ms generalizing p with
  | nil => rfl
  | cons m ms ih =>
    rw [List.flatMap_cons, Reading.pushAll_append, pushAll_tokens, run]
    cases p.step m with
    | error e => rfl
    | ok p' => exact ih p'

lemma isEmpty_levels (outer : List (String × List Tree)) :
    (levels outer).isEmpty = outer.isEmpty := by
  cases outer <;> rfl

end Place

open Place

lemma parse_of_scan {s : String} {ms : List Mark} {e : ScanEnd}
    (h : scan s = (ms.flatMap Mark.tokens, e)) :
    parse s = ((run {} ms).bind (·.close e)).map forms := by
  have hread : Reading.pushAll {} (ms.flatMap Mark.tokens) = (run {} ms).map reading :=
    pushAll_marks {} ms
  simp only [parse, h, hread]
  cases hrun : run {} ms with
  | error f => rfl
  | ok p =>
    cases e with
    | unclosedQuote => rfl
    | stuck => rfl
    | finished =>
      simp only [Except.map, Except.bind, close, reading, isEmpty_levels]
      cases houter : p.outer with
      | nil => simp [level, forms_eq_map]
      | cons f outer => simp

mutual

lemma Place.run_marks (t : Tree) (p : Place) (rest : List Mark) :
    p.run (t.marks ++ rest) = run { p with trees := t :: p.trees } rest := by
  cases t with
  | leaf s => rfl
  | call key args =>
    rw [Tree.marks, List.cons_append, List.append_assoc, run]
    refine (run_marksAll args _ _).trans ?_
    simp [run, step, Except.bind]

lemma Place.run_marksAll (ts : List Tree) (p : Place) (rest : List Mark) :
    p.run (marksAll ts ++ rest) = run { p with trees := ts.reverse ++ p.trees } rest := by
  cases ts with
  | nil => rfl
  | cons t ts =>
    rw [marksAll, List.append_assoc, run_marks t, run_marksAll ts]
    simp

end

lemma parse_of_scan_trees {s : String} {ts : List Tree}
    (h : scan s = ((marksAll ts).flatMap Mark.tokens, .finished)) : parse s = .ok (forms ts) := by
  have hrun := run_marksAll ts {} []
  rw [List.append_nil] at hrun
  rw [parse_of_scan h, hrun]
  simp [run, close, Except.bind, Except.map]

end Launchpad.Substitution
