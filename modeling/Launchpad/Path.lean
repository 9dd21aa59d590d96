import Launchpad.Text.Blank

/-!
File paths as texts: joining, splitting and normalising them, without a look at any file system.
-/

namespace Launchpad.Path

def isAbsolute (p : String) : Bool :=
  Text.startsWith p "/"

def join (a b : String) : String :=
  if isAbsolute b then b
  else if a == "" || Text.endsWith a "/" then a ++ b
  else a ++ "/" ++ b

def baseName (p : String) : String :=
  match Text.cutLast? p "/" with
  | some (_, b) => b
  | none => p

def dirName (p : String) : String :=
  match Text.cutLast? p "/" with
  | none => ""
  | some (a, _) =>
    let t := Text.trimRightBy (· == '/') a
    if t == "" then a ++ "/" else t

def pushPart (rooted : Bool) (acc : List String) (part : String) : List String :=
  if part == "" || part == "." then acc
  else if part == ".." then
    match acc with
    | [] => if rooted then [] else [".."]
    | p :: ps => if p == ".." then ".." :: acc else ps
  else part :: acc

/-- A path without empty parts, single dots and, where possible, double dots. Two leading slashes
stay two, more become one. -/
def normalize (p : String) : String :=
  if p == "" then "."
  else
    let rooted := isAbsolute p
    let start := if Text.startsWith p "//" && !Text.startsWith p "///" then "//"
      else if rooted then "/" else ""
    let parts := ((Text.splitAt p '/').foldl (pushPart rooted) []).reverse
    let r := start ++ "/".intercalate parts
    if r == "" then "." else r

def absolute (cwd p : String) : String :=
  normalize (join cwd p)

def expandHome (home : String) (p : String) : String :=
  match p.toList with
  | '~' :: rest =>
    if rest.isEmpty || rest.head? == some '/' then
      let h := Text.trimRightBy (· == '/') home
      let r := h ++ String.ofList rest
      if r == "" then "/" else r
    else p
  | _ => p

end Launchpad.Path
