/-!
Elements of markup, with attributes, text and child elements.
-/

namespace Launchpad.Markup

/-- An element, with the text in front of its first child; every child comes with the text behind
it. -/
inductive Element where
  | mk (tag : String) (attributes : List (String × String)) (text : String)
      (children : List (Element × String))

namespace Element

def tag : Element → String
  | .mk t _ _ _ => t

def attributes : Element → List (String × String)
  | .mk _ a _ _ => a

def text : Element → String
  | .mk _ _ t _ => t

def children : Element → List Element
  | .mk _ _ _ cs => cs.map (·.1)

def child? (e : Element) (t : String) : Option Element :=
  e.children.find? fun c => c.tag == t

end Element

inductive Node where
  | char (c : Char)
  | element (e : Element)

def arrange : List Node → List Char × List (Element × String)
  | [] => ([], [])
  | .char c :: ns =>
    let (text, children) := arrange ns
    (c :: text, children)
  | .element e :: ns =>
    let (tail, children) := arrange ns
    ([], (e, String.ofList tail) :: children)

def Element.ofNodes (tag : String) (attributes : List (String × String)) (nodes : List Node) :
    Element :=
  let (text, children) := arrange nodes
  .mk tag attributes (String.ofList text) children

end Launchpad.Markup
