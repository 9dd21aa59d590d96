import Launchpad.Session.State

/-!
Groups: the tree of namespaces, and the namespace of a group as the chain from the root to it.
-/

namespace Launchpad

def groupChain (groups : Array Group) : Nat → Nat → List Nat
  | 0, i => [i]
  | n + 1, i => match groups[i]? with
    | some ⟨some p, _, _, _⟩ => groupChain groups n p ++ [i]
    | _ => [i]

def joinSlashes : Chars → Chars
  | '/' :: '/' :: cs => joinSlashes ('/' :: cs)
  | c :: cs => c :: joinSlashes cs
  | [] => []

def groupNamespace (groups : Array Group) (i : Nat) : String :=
  let parts := (groupChain groups groups.size i).map fun j =>
    "/" ++ Text.trimBy (· == '/') ((groups[j]?.map Group.ns).getD "")
  String.ofList (joinSlashes (String.join parts).toList)

namespace Launch

def newGroup (parent : Option Nat) (ns : String) : Launch Nat := do
  let s ← get
  set { s with groups := s.groups.push { parent, ns } }
  return s.groups.size

def namespaceOf (i : Nat) : Launch String := do
  return groupNamespace (← get).groups i

def addChild (i child : Nat) : Launch Unit := do
  let g ← getGroup i
  let c ← getGroup child
  if (g.children.lookup c.ns).isSome then
    told .invalidValue s!"Group {g.ns} already contains a child group named '{c.ns}'"
  modify fun s => { s with
    groups := s.groups.modify i fun g => { g with children := g.children ++ [(c.ns, child)] } }

def addNode (i node : Nat) : Launch Unit :=
  modify fun s => { s with
    groups := s.groups.modify i fun g =>
      if g.nodes.contains node then g else { g with nodes := g.nodes ++ [node] } }

def childFor (i : Nat) (part : String) : Launch Nat := do
  let g ← getGroup i
  match g.children.lookup part with
  | some c => return c
  | none =>
    let c ← newGroup (some i) part
    addChild i c
    return c

/-- All groups: the children of a group together, and of the groups that still have to be looked
at the one that was found last comes first. -/
def collectGroups (groups : Array Group) : Nat → List Nat → List Nat
  | 0, _ => []
  | _ + 1, [] => []
  | n + 1, i :: stack =>
    let cs := ((groups[i]?.map Group.children).getD []).map (·.2)
    cs ++ collectGroups groups n (cs.reverse ++ stack)

def groupRoot : Launch Nat := do
  let l ← getLauncher
  return l.groupStack.headD l.rootGroup

def groupTip : Launch Nat := do
  let l ← getLauncher
  return l.groupStack.getLastD l.rootGroup

def allGroups : Launch (List Nat) := do
  let root ← groupRoot
  let groups := (← get).groups
  return root :: collectGroups groups (groups.size + 1) [root]

def findGroupFrom (create : Bool) : List String → Nat → Launch (Option Nat)
  | [], i => return some i
  | part :: parts, i => do
    let g ← getGroup i
    match g.children.lookup part with
    | some c => findGroupFrom create parts c
    | none =>
      if create then
        let c ← childFor i part
        findGroupFrom create parts c
      else return none

def findGroup (ns : Value) (create : Bool) : Launch Value := do
  let root ← groupRoot
  if !ns.truthy || ns == .str "/" then return .ref (.group root)
  else
    let s ← textOf ns
    match ← findGroupFrom create (Text.splitAt s '/') root with
    | some i => return .ref (.group i)
    | none => return .null

def enterGroup (ns : Value) : Launch Nat := do
  let l ← getLauncher
  if l.composing.isSome then
    told .invalidValue "Cannot create a group inside a compose context"
  let s ← textOf ns
  if Text.startsWith s "/" then
    modifyLauncher fun l => { l with groupStack := [l.rootGroup] }
  let tip ← groupTip
  (Text.splitAt (Text.trimBy (· == '/') s) '/').foldlM (fun tip part => do
    let c ← childFor tip part
    modifyLauncher fun l => { l with groupStack := l.groupStack ++ [c] }
    return c) tip

end Launch

end Launchpad
