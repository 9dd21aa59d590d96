/-!
Which texts resemble a given one. The likeness of two texts is twice the number of matched
characters over their common length, where characters are matched by taking the longest common
run first and then going on at its left and at its right.
-/

namespace Launchpad.Text

def commonStart : List Char → List Char → Nat
  | a :: as, b :: bs => if a == b then commonStart as bs + 1 else 0
  | _, _ => 0

/-- The best run of `a` against the suffixes of `b`: where it starts and how long it is. Of equally
long ones the first. -/
def bestAgainst (a : List Char) : Nat → List Char → Nat × Nat
  | j, [] => (j, 0)
  | j, b :: bs =>
    let here := commonStart a (b :: bs)
    let later := bestAgainst a (j + 1) bs
    if here ≥ later.2 then (j, here) else later

def longestRun (b : List Char) : Nat → List Char → Nat × Nat × Nat
  | i, [] => (i, 0, 0)
  | i, a :: as =>
    let (j, k) := bestAgainst (a :: as) 0 b
    let later := longestRun b (i + 1) as
    if k ≥ later.2.2 then (i, j, k) else later

def matchedIn : Nat → List Char → List Char → Nat
  | 0, _, _ => 0
  | fuel + 1, a, b =>
    let (i, j, k) := longestRun b 0 a
    if k == 0 then 0
    else k + matchedIn fuel (a.take i) (b.take j) + matchedIn fuel (a.drop (i + k)) (b.drop (j + k))

def matched (a b : String) : Nat :=
  matchedIn (a.length + 1) a.toList b.toList

structure Resemblance where
  text : String
  matched : Nat
  total : Nat

def Resemblance.before (r s : Resemblance) : Bool :=
  let x := r.matched * s.total
  let y := s.matched * r.total
  if x == y then decide (s.text ≤ r.text) else x > y

def closeMatches (word : String) (texts : List String) : List String :=
  let all := texts.map fun t => ⟨t, matched t word, t.length + word.length⟩
  let near := all.filter fun (r : Resemblance) => 10 * r.matched ≥ 3 * r.total
  ((near.mergeSort Resemblance.before).take 3).map (·.text)

end Launchpad.Text
