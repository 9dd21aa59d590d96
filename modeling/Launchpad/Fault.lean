import Launchpad.Text.Quoted
import Launchpad.Value

/-!
What can go wrong in a launch. A fault has a cause, the text that a log line shows for it, and what
a report of the failed operation tells beside the cause.
-/

namespace Launchpad

inductive Cause where
  | invalidValue
  | wrongType
  | unknownKey
  | noAttribute
  | outOfRange
  | divisionByZero
  | overflow
  | assertion
  | undefinedName
  | timedOut
  | runtime
  | notImplemented
  | moduleNotFound
  | packageNotFound
  | fileNotFound
  | fileExists
  | isDirectory
  | notDirectory
  | permissionDenied
  | brokenPipe
  | system
  | processGone
  | zombieProcess
  | accessDenied
  | commandFailed
  | badPattern
  | badSyntax
  | badEncoding
  | yamlScan
  | yamlParse
  | yamlCompose
  | yamlConstruct
  | yamlRead
  | badMarkup
  | badInfoSheet
  | badSubstitution
  | cancelled
  | badState
  | recursion
  | outOfMemory
  | badIndent
  | unencodable
  | lookup
  | endOfInput
  | endless
deriving DecidableEq, Repr, Inhabited

def Cause.label : Cause → String
  | .invalidValue => "ValueError"
  | .wrongType => "TypeError"
  | .unknownKey => "KeyError"
  | .noAttribute => "AttributeError"
  | .outOfRange => "IndexError"
  | .divisionByZero => "ZeroDivisionError"
  | .overflow => "OverflowError"
  | .assertion => "AssertionError"
  | .undefinedName => "NameError"
  | .timedOut => "TimeoutError"
  | .runtime => "RuntimeError"
  | .notImplemented => "NotImplementedError"
  | .moduleNotFound => "ModuleNotFoundError"
  | .packageNotFound => "PackageNotFoundError"
  | .fileNotFound => "FileNotFoundError"
  | .fileExists => "FileExistsError"
  | .isDirectory => "IsADirectoryError"
  | .notDirectory => "NotADirectoryError"
  | .permissionDenied => "PermissionError"
  | .brokenPipe => "BrokenPipeError"
  | .system => "OSError"
  | .processGone => "ProcessLookupError"
  | .zombieProcess => "ZombieProcess"
  | .accessDenied => "AccessDenied"
  | .commandFailed => "CalledProcessError"
  | .badPattern => "error"
  | .badSyntax => "SyntaxError"
  | .badEncoding => "UnicodeDecodeError"
  | .yamlScan => "ScannerError"
  | .yamlParse => "ParserError"
  | .yamlCompose => "ComposerError"
  | .yamlConstruct => "ConstructorError"
  | .yamlRead => "ReaderError"
  | .badMarkup => "ParseError"
  | .badInfoSheet => "ExpatError"
  | .badSubstitution => "SubstitutionError"
  | .cancelled => "CancelledError"
  | .badState => "InvalidStateError"
  | .recursion => "RecursionError"
  | .outOfMemory => "MemoryError"
  | .badIndent => "IndentationError"
  | .unencodable => "UnicodeEncodeError"
  | .lookup => "LookupError"
  | .endOfInput => "EOFError"
  | .endless => "WouldBlock"

def Cause.fileText (c : Cause) (path : String) : String :=
  let why := match c with
    | .isDirectory => "[Errno 21] Is a directory"
    | .notDirectory => "[Errno 20] Not a directory"
    | .system => "[Errno 36] File name too long"
    | _ => "[Errno 2] No such file or directory"
  why ++ ": " ++ Text.quote path

inductive Detail where
  | silent
  | text (s : String)
  | args (vs : List Value)
deriving Inhabited

structure Fault where
  cause : Cause
  text : String
  detail : Detail
deriving Inhabited

/-- What ends an operation early: a fault, which a caller may handle unless it is a wait that has no
end, or the end of the program. -/
inductive Stop where
  | fault (f : Fault)
  | exit (code : Int)

namespace Fault

def shown (c : Cause) (s : String) : String :=
  match c with
  | .unknownKey | .packageNotFound => Text.quote s
  | _ => s

def told (c : Cause) (s : String) : Fault :=
  ⟨c, shown c s, .text s⟩

def silent (c : Cause) (s : String := "") : Fault :=
  ⟨c, s, .silent⟩

def bare (c : Cause) : Fault :=
  ⟨c, "", .args []⟩

end Fault

namespace Stop

def told (c : Cause) (s : String) : Stop :=
  .fault (.told c s)

def silent (c : Cause) (s : String := "") : Stop :=
  .fault (.silent c s)

def bare (c : Cause) : Stop :=
  .fault (.bare c)

/-- The fault that a caller may handle. -/
def handled? : Stop → Option Fault
  | .fault f => if f.cause = .endless then none else some f
  | .exit _ => none

theorem eq_of_handled? {e : Stop} {f : Fault} (h : e.handled? = some f) : e = .fault f := by
  cases e <;> simp_all [handled?]

end Stop

/-- A result, or what ended the operation. -/
abbrev Try := Except Stop

abbrev fails {α : Type} (c : Cause) (s : String := "") : Try α :=
  .error (.silent c s)

def invalid {α : Type} (s : String) : Try α :=
  .error (.told .invalidValue s)

end Launchpad
