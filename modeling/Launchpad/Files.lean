import Launchpad.Path

/-!
A tree of files, as a table of absolute paths. Every directory above an entry has an entry of its
own, so that a look-up decides what a path is.
-/

namespace Launchpad

inductive FileNode (α : Type) where
  | dir
  | file (content : α) (executable : Bool)
  | link (target : String)

structure FileTree (α : Type) where
  entries : List (String × FileNode α) := []

namespace FileTree

variable {α : Type}

def node? (t : FileTree α) (p : String) : Option (FileNode α) :=
  if p == "/" then some .dir else t.entries.lookup p

def follow? (t : FileTree α) : Nat → String → Option (FileNode α)
  | 0, _ => none
  | n + 1, p => match t.node? p with
    | some (.link q) => follow? t n (Path.absolute (Path.dirName p) q)
    | r => r

def lookup? (t : FileTree α) (p : String) : Option (FileNode α) :=
  t.follow? 8 (Path.normalize p)

def isDir (t : FileTree α) (p : String) : Bool :=
  match t.lookup? p with
  | some .dir => true
  | _ => false

def isFile (t : FileTree α) (p : String) : Bool :=
  match t.lookup? p with
  | some (.file _ _) => true
  | _ => false

def exists? (t : FileTree α) (p : String) : Bool :=
  (t.lookup? p).isSome

def read? (t : FileTree α) (p : String) : Option α :=
  match t.lookup? p with
  | some (.file c _) => some c
  | _ => none

def replaceEntry (p : String) (n : FileNode α) :
    List (String × FileNode α) → List (String × FileNode α)
  | [] => [(p, n)]
  | (q, m) :: es => if q == p then (p, n) :: es else (q, m) :: replaceEntry p n es

def ancestors (p : String) : List String :=
  let parts := (Text.splitAt p '/').filter (· != "")
  (parts.dropLast.foldl (fun (acc, pre) part => (acc ++ [pre ++ "/" ++ part], pre ++ "/" ++ part))
    (([], "") : List String × String)).1

def makeDirs (t : FileTree α) (p : String) : FileTree α :=
  let p := Path.normalize p
  (ancestors p ++ [p]).foldl (fun t q =>
    if (t.node? q).isSome then t else ⟨t.entries ++ [(q, .dir)]⟩) t

def put (t : FileTree α) (p : String) (n : FileNode α) : FileTree α :=
  let p := Path.normalize p
  let t := (ancestors p).foldl (fun t q =>
    if (t.node? q).isSome then t else ⟨t.entries ++ [(q, .dir)]⟩) t
  ⟨replaceEntry p n t.entries⟩

def remove (t : FileTree α) (p : String) : FileTree α :=
  ⟨t.entries.filter fun e => e.1 != p⟩

def children (t : FileTree α) (p : String) : List String :=
  let p := Path.normalize p
  let base := if p == "/" then "/" else p ++ "/"
  let names := t.entries.filterMap fun (q, _) =>
    if q != "/" && Text.startsWith q base then
      let rest := String.ofList (q.toList.drop base.length)
      if rest == "" || rest.toList.contains '/' then none else some rest
    else none
  names.mergeSort fun a b => !(b < a)

def child (p name : String) : String :=
  if p == "/" then "/" ++ name else p ++ "/" ++ name

end FileTree

end Launchpad
