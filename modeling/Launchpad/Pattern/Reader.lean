import Launchpad.Pattern.Basic
import Launchpad.Fault
import Launchpad.Text.Number

/-!
The written form of patterns: `.` `*` `+` `?` `{m,n}` `|` `(…)` `[…]` `^` `$`, escapes for classes
and for characters that would otherwise have a meaning.
-/

namespace Launchpad.Pattern

def hexValue? (c : Char) : Option Nat :=
  (Text.digitValue? c).filter (· < 16)

def numberIn (base : Nat) (cs : Chars) : Nat :=
  cs.foldl (fun n c => base * n + (hexValue? c).getD 0) 0

def takeHex (n : Nat) (cs : Chars) : Option (Nat × Chars) :=
  let ds := cs.take n
  if ds.length == n && ds.all fun c => (hexValue? c).isSome then some (numberIn 16 ds, cs.drop n)
  else none

def readHex (n : Nat) (cs : Chars) : Except Unit (Char × Chars) :=
  match takeHex n cs with
  | some (k, cs) => .ok (Char.ofNat k, cs)
  | none => .error ()

def escapedChar (c : Char) (cs : Chars) : Except Unit (Char × Chars) :=
  match c with
  | 'n' => .ok ('\n', cs)
  | 't' => .ok ('\t', cs)
  | 'r' => .ok ('\r', cs)
  | 'f' => .ok (Char.ofNat 12, cs)
  | 'v' => .ok (Char.ofNat 11, cs)
  | 'a' => .ok (Char.ofNat 7, cs)
  | 'x' => readHex 2 cs
  | 'u' => readHex 4 cs
  | '0' => .ok (Char.ofNat 0, cs)
  | c => if c.isAlphanum then .error () else .ok (c, cs)

def escapedClass? : Char → Option ClassItem
  | 'd' => some (.digit false)
  | 'D' => some (.digit true)
  | 'w' => some (.word false)
  | 'W' => some (.word true)
  | 's' => some (.blank false)
  | 'S' => some (.blank true)
  | _ => none

def readClassAtom : Chars → Except Unit (ClassItem × Chars)
  | '\\' :: c :: cs => match escapedClass? c with
    | some k => .ok (k, cs)
    | none =>
      if c == 'b' then .ok (.one (Char.ofNat 8), cs)
      else (escapedChar c cs).map fun (x, cs) => (.one x, cs)
  | ['\\'] => .error ()
  | c :: cs => .ok (.one c, cs)
  | [] => .error ()

def readClass : Nat → Bool → Chars → List ClassItem → Except Unit (List ClassItem × Chars)
  | 0, _, _, _ => .error ()
  | _ + 1, false, ']' :: cs, acc => .ok (acc.reverse, cs)
  | fuel + 1, _, cs, acc => do
    let (a, cs) ← readClassAtom cs
    match cs with
    | '-' :: ']' :: _ => readClass fuel false cs (a :: acc)
    | '-' :: cs' =>
      let (b, cs'') ← readClassAtom cs'
      match a, b with
      | .one x, .one y => if x ≤ y then readClass fuel false cs'' (.range x y :: acc) else throw ()
      | _, _ => throw ()
    | _ => readClass fuel false cs (a :: acc)

def readBounds? (cs : Chars) : Option (Nat × Option Nat × Chars) :=
  let lo := cs.takeWhile Char.isDigit
  let rest := cs.dropWhile Char.isDigit
  let num (ds : Chars) : Nat := ds.foldl (fun n d => n * 10 + (d.toNat - 48)) 0
  match rest with
  | '}' :: cs => if lo.isEmpty then none else some (num lo, some (num lo), cs)
  | ',' :: cs =>
    let hi := cs.takeWhile Char.isDigit
    match cs.dropWhile Char.isDigit with
    | '}' :: cs => some (num lo, if hi.isEmpty then none else some (num hi), cs)
    | _ => none
  | _ => none

def readRepeat? : Chars → Option (Nat × Option Nat × Chars)
  | '*' :: cs => some (0, none, cs)
  | '+' :: cs => some (1, none, cs)
  | '?' :: cs => some (0, some 1, cs)
  | '{' :: cs => readBounds? cs
  | _ => none

def readGreed : Chars → Greed × Chars
  | '?' :: cs => (.lazy, cs)
  | '+' :: cs => (.possessive, cs)
  | cs => (.greedy, cs)

def withRepeat (repeatable : Bool) (p : Regex) (cs : Chars) : Except Unit (Regex × Chars) :=
  match readRepeat? cs with
  | none => .ok (p, cs)
  | some (lo, hi, cs) =>
    if !repeatable then .error ()
    else match hi with
      | some h =>
        if h < lo then .error ()
        else done lo hi cs
      | none => done lo hi cs
where
  done (lo : Nat) (hi : Option Nat) (cs : Chars) : Except Unit (Regex × Chars) :=
    let (g, cs) := readGreed cs
    match readRepeat? cs with
    | some _ => .error ()
    | none => .ok (.rep lo hi g p, cs)

mutual

def readAlternatives (fuel : Nat) (n : Nat) (cs : Chars) : Except Unit (Regex × Nat × Chars) :=
  match fuel with
  | 0 => .error ()
  | fuel + 1 => do
    let (p, n, cs) ← readSequence fuel n cs
    match cs with
    | '|' :: cs =>
      let (q, n, cs) ← readAlternatives fuel n cs
      return (.alt p q, n, cs)
    | _ => return (p, n, cs)

def readSequence (fuel : Nat) (n : Nat) (cs : Chars) : Except Unit (Regex × Nat × Chars) :=
  match fuel with
  | 0 => .error ()
  | fuel + 1 => match cs with
    | [] => .ok (.empty, n, [])
    | '|' :: _ => .ok (.empty, n, cs)
    | ')' :: _ => .ok (.empty, n, cs)
    | cs => do
      let (p, repeatable, n, cs) ← readAtom fuel n cs
      let (p, cs) ← withRepeat repeatable p cs
      let (q, n, cs) ← readSequence fuel n cs
      return (.seq p q, n, cs)

def readAtom (fuel : Nat) (n : Nat) (cs : Chars) : Except Unit (Regex × Bool × Nat × Chars) :=
  match fuel with
  | 0 => .error ()
  | fuel + 1 => match cs with
    | '(' :: '?' :: ':' :: cs => do
      let (p, n, cs) ← readAlternatives fuel n cs
      match cs with
      | ')' :: cs => return (p, true, n, cs)
      | _ => throw ()
    | '(' :: '?' :: _ => .error ()
    | '(' :: cs => do
      let (p, n', cs) ← readAlternatives fuel (n + 1) cs
      match cs with
      | ')' :: cs => return (.group n p, true, n', cs)
      | _ => throw ()
    | '.' :: cs => .ok (.any, true, n, cs)
    | '^' :: cs => .ok (.lineStart, false, n, cs)
    | '$' :: cs => .ok (.lineEnd, false, n, cs)
    | '[' :: '^' :: cs => do
      let (items, cs) ← readClass (cs.length + 1) true cs []
      return (.cls true items, true, n, cs)
    | '[' :: cs => do
      let (items, cs) ← readClass (cs.length + 1) true cs []
      return (.cls false items, true, n, cs)
    | '\\' :: 'b' :: cs => .ok (.boundary false, false, n, cs)
    | '\\' :: 'B' :: cs => .ok (.boundary true, false, n, cs)
    | '\\' :: 'A' :: cs => .ok (.lineStart, false, n, cs)
    | '\\' :: 'Z' :: cs => .ok (.textEnd, false, n, cs)
    | '\\' :: c :: cs => match escapedClass? c with
      | some k => .ok (.cls false [k], true, n, cs)
      | none => do
        let (x, cs) ← escapedChar c cs
        return (.char x, true, n, cs)
    | ['\\'] => .error ()
    | c :: cs =>
      if (readRepeat? (c :: cs)).isSome then .error ()
      else .ok (.char c, true, n, cs)
    | [] => .error ()

end

structure Compiled where
  pattern : Regex
  groups : Nat

def compile (s : String) : Try Compiled :=
  match readAlternatives (4 * s.length + 8) 1 s.toList with
  | .ok (p, n, []) => .ok ⟨p, n - 1⟩
  | _ => fails .badPattern

end Launchpad.Pattern
