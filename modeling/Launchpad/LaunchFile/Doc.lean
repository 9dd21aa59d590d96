import Launchpad.LaunchFile.Doc.Field
import Launchpad.LaunchFile.Doc.Outline
import Launchpad.LaunchFile.Doc.Section
import Launchpad.LaunchFile.Doc.Tag

/-!
Reading the documentation of a launch function: the form in which the text holds most entries is the
one it is read in, and among equals the first of fields, outline, sections and tags.
-/

namespace Launchpad.Doc

def fullest : List Doc → Doc
  | [] => {}
  | d :: ds =>
    let best := fullest ds
    if ds.isEmpty || d.entries ≥ best.entries then d else best

def parse (s : String) : Try Doc := do
  let text := Text.dedent s
  if text == "" then return {}
  let fields ← withFields text
  return fullest (fields.toList ++ (withOutline? text).toList ++ [withSections text] ++
    (withTags? text).toList)

end Launchpad.Doc
