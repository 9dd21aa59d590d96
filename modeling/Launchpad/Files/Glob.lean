import Launchpad.Files
import Launchpad.Fault

/-!
Search of a file tree by patterns. In a part of a pattern `*` stands for any text, `?` for one
character and brackets for a choice of characters; the part `**` stands for a directory and all
directories below it. Directories are visited in the order of their names.
-/

namespace Launchpad.Glob

inductive Item where
  | any
  | one
  | char (c : Char)
  | choice (neg : Bool) (ranges : List (Char × Char))
deriving DecidableEq, Repr

def ranges : Chars → List (Char × Char)
  | a :: '-' :: b :: cs => (a, b) :: ranges cs
  | a :: cs => (a, a) :: ranges cs
  | [] => []

def takeChoice (cs : Chars) : Split :=
  let go (first cs : Chars) : Split :=
    match cs.dropWhile (· != ']') with
    | _ :: rest => some (first ++ cs.takeWhile (· != ']'), rest)
    | [] => none
  match cs with
  | '!' :: ']' :: cs => go ['!', ']'] cs
  | '!' :: cs => go ['!'] cs
  | ']' :: cs => go [']'] cs
  | cs => go [] cs

def items : Nat → Chars → List Item
  | 0, _ => []
  | _ + 1, [] => []
  | n + 1, '*' :: cs => .any :: items n cs
  | n + 1, '?' :: cs => .one :: items n cs
  | n + 1, '[' :: cs => match takeChoice cs with
    | none => .char '[' :: items n cs
    | some ('!' :: body, rest) => .choice true (ranges body) :: items n rest
    | some (body, rest) => .choice false (ranges body) :: items n rest
  | n + 1, c :: cs => .char c :: items n cs

def Item.takes (i : Item) (c : Char) : Bool :=
  match i with
  | .any | .one => true
  | .char d => c == d
  | .choice neg rs => rs.any (fun (a, b) => a ≤ c && c ≤ b) != neg

def matches? : List Item → Chars → Bool
  | [], [] => true
  | [], _ :: _ => false
  | .any :: is, [] => matches? is []
  | .any :: is, c :: cs => matches? is (c :: cs) || matches? (.any :: is) cs
  | _ :: _, [] => false
  | i :: is, c :: cs => i.takes c && matches? is cs
termination_by is cs => (is.length + cs.length, is.length)

def matchesName (part name : String) : Bool :=
  matches? (items (part.length + 1) part.toList) name.toList

def isWild (part : String) : Bool :=
  part.toList.any fun c => c == '*' || c == '?' || c == '['

def pathParts (p : String) : List String :=
  (Text.splitAt p '/').filter fun s => s != "" && s != "."

variable {α : Type}

def directories (t : FileTree α) : Nat → String → List String
  | 0, p => [p]
  | n + 1, p => p :: (t.children p).flatMap fun name =>
    let q := FileTree.child p name
    match t.node? (Path.normalize q) with
    | some .dir => directories t n q
    | _ => []

def select (t : FileTree α) : List String → String → List String
  | [], p => [p]
  | part :: rest, p =>
    if part == "" then [p]
    else if part == "**" then
      ((directories t (t.entries.length + 1) p).flatMap (select t rest)).eraseDups
    else if isWild part then
      (t.children p).flatMap fun name =>
        let q := FileTree.child p name
        if (rest.isEmpty || t.isDir q) && matchesName part name then select t rest q else []
    else
      let q := FileTree.child p part
      if (if rest.isEmpty then t.exists? q else t.isDir q) then select t rest q else []

def parsePattern (pattern : String) : Try (List String) :=
  if pattern == "" then fails .invalidValue "Unacceptable pattern: ''"
  else if Path.isAbsolute pattern then
    fails .notImplemented "Non-relative patterns are unsupported"
  else
    let parts := pathParts pattern
    if parts.any fun p => p != "**" && Text.contains p "**" then
      fails .invalidValue
        "Invalid pattern: '**' can only be an entire path component"
    else if Text.endsWith pattern "/" then
      if parts.isEmpty then fails .noAttribute else .ok (parts ++ [""])
    else if parts.isEmpty then fails .outOfRange
    else .ok parts

def glob (t : FileTree α) (base pattern : String) : Try (List String) := do
  let parts ← parsePattern pattern
  return if t.isDir base then select t parts base else []

def matchesFromEnd (path pattern : String) : Bool :=
  let ps := (pathParts path).reverse
  let qs := (pathParts pattern).reverse
  let ps := if Path.isAbsolute path then ps ++ ["/"] else ps
  qs.length ≤ ps.length && (qs.zip ps).all fun (q, p) => matchesName q p

end Launchpad.Glob
