import Launchpad.Script.Step

/-!
Launch files: what a file of the workspace may hold.
-/

namespace Launchpad

/-- A parameter of a launch function, with the hint on its type as it is written. -/
structure LaunchParam where
  name : String
  hint : Option String := none
  default : Option Value := none

inductive Marking where
  | name | call | viaModule | callViaModule | other | none
deriving DecidableEq, Repr

structure LaunchSpec where
  func : String := "main"
  params : List LaunchParam := []
  varargs : Option String := none
  kwonly : List LaunchParam := []
  varkw : Option String := none
  doc : Option String := none
  asynchronous : Bool := false
  before : List String := []
  marking : Marking := .name
  /-- Comes a decorator first that is called and has no plain name? -/
  obscured : Bool := false
  options : Named := []
  body : List Script.Step := []
  failure : Option String := none

structure DeclaredArg where
  positional : Option Value := none
  named : Named := []
  computed : List String := []
  viaAttribute : Bool := false

structure ForeignLaunchSpec where
  func : String := "generate_launch_description"
  doc : Option String := none
  args : List DeclaredArg := []

inductive Content where
  | text (s : String)
  | launch (spec : LaunchSpec)
  | foreignLaunch (spec : ForeignLaunchSpec)

end Launchpad
