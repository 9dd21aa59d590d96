import Launchpad.Value

/-!
The trees of expressions.
-/

namespace Launchpad.Expr

/-- Forms that are well-formed and have no value of their own in a launch: functions without a
name, comprehensions, suspensions, names that are bound on the way, and texts with fields. -/
inductive Form where
  | function | comprehension | generator | suspension | binding | template
deriving Repr, DecidableEq

inductive Tree where
  | lit (v : Value)
  | name (s : String)
  | list (es : List Tree)
  | tuple (es : List Tree)
  | set (es : List Tree)
  /-- Entries of a map; without a key the value is a map whose entries are taken over. -/
  | map (es : List (Option Tree × Tree))
  | starred (e : Tree)
  | unary (op : String) (e : Tree)
  | binary (op : String) (a b : Tree)
  | compare (a : Tree) (rest : List (String × Tree))
  | both (a b : Tree)
  | either (a b : Tree)
  | choice (test a b : Tree)
  | index (e i : Tree)
  | slice (lo hi step : Option Tree)
  | member (e : Tree) (name : String)
  | apply (f : Tree) (args : List Tree) (named : List (Option String × Tree))
  | special (f : Form)

def Tree.isStarred : Tree → Bool
  | .starred _ => true
  | _ => false

def Tree.isBinding : Tree → Bool
  | .special .binding => true
  | _ => false

mutual

def Tree.isTarget : Tree → Bool
  | .name _ | .member .. | .index .. => true
  | .starred e => Tree.isTarget e
  | .list es | .tuple es => Tree.areTargets es
  | _ => false

def Tree.areTargets : List Tree → Bool
  | [] => true
  | e :: es => Tree.isTarget e && Tree.areTargets es

end

mutual

def Tree.height : Tree → Nat
  | .unary _ e | .starred e | .member e _ => e.height + 1
  | .binary _ a b | .both a b | .either a b | .index a b => max a.height b.height + 1
  | .choice t a b => max t.height (max a.height b.height) + 1
  | .list es | .tuple es | .set es => Tree.heights es + 1
  | .map es => Tree.entryHeights es + 1
  | .compare a rest => max a.height (Tree.comparedHeights rest) + 1
  | .apply f args _ => max f.height (Tree.heights args) + 1
  | _ => 1

def Tree.heights : List Tree → Nat
  | [] => 0
  | e :: es => max e.height (Tree.heights es)

def Tree.entryHeights : List (Option Tree × Tree) → Nat
  | [] => 0
  | (some k, v) :: es => max (max k.height v.height) (Tree.entryHeights es)
  | (none, v) :: es => max v.height (Tree.entryHeights es)

def Tree.comparedHeights : List (String × Tree) → Nat
  | [] => 0
  | (_, e) :: es => max e.height (Tree.comparedHeights es)

end

end Launchpad.Expr
