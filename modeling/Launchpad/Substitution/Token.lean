import Launchpad.Text.Blank

/-!
The tokens of a substitution text. Blanks separate tokens, `$(` and `)` stand for themselves, a
quoted text is one token without its quotes, and a word runs up to the next blank, dollar sign or
parenthesis. A dollar sign without parenthesis and an opening parenthesis without dollar sign begin
no token: on them the scan makes no progress.
-/

namespace Launchpad.Substitution

inductive Token where
  | opening
  | closing
  | word (s : String)
deriving DecidableEq, Repr

def Token.ofText (s : String) : Token :=
  if s == "$(" then .opening else if s == ")" then .closing else .word s

inductive ScanEnd where
  | finished
  | unclosedQuote
  | stuck
deriving DecidableEq, Repr

/-- A quoted text up to its closing quote, which is not preceded by a backslash, and what follows;
`prev` is the character before. -/
def takeQuoted (q : Char) : Char → Chars → Split
  | _, [] => none
  | prev, c :: cs =>
    if c = q ∧ prev ≠ '\\' then some ([], cs)
    else (takeQuoted q c cs).map fun (a, b) => (c :: a, b)

theorem takeQuoted_length {q prev : Char} {cs a b : Chars}
    (h : takeQuoted q prev cs = some (a, b)) : b.length < cs.length := by
  induction cs generalizing prev a b with
  | nil => simp [takeQuoted] at h
  | cons c cs ih =>
    simp only [takeQuoted] at h
    split at h
    · simp only [Option.some.injEq, Prod.mk.injEq] at h
      simp [← h.2]
    · simp only [Option.map_eq_some_iff] at h
      obtain ⟨⟨a', b'⟩, h', e⟩ := h
      simp only [Prod.mk.injEq] at e
      have := ih h'
      simp only [List.length_cons, ← e.2]
      omega

def isWordChar (c : Char) : Bool :=
  !Text.isBlank c && c != '$' && c != '(' && c != ')'

theorem length_dropWhile_le {α : Type} (p : α → Bool) (l : List α) :
    (l.dropWhile p).length ≤ l.length := by
  induction l with
  | nil => simp
  | cons c cs ih =>
    rw [List.dropWhile_cons]
    split
    · simp only [List.length_cons]
      omega
    · exact Nat.le_refl _

def scanChars : Chars → List Token × ScanEnd
  | [] => ([], .finished)
  | c :: cs =>
    if Text.isBlank c then scanChars cs
    else if c = '$' ∧ cs.head? = some '(' then
      let (ts, e) := scanChars cs.tail
      (.opening :: ts, e)
    else if c = ')' then
      let (ts, e) := scanChars cs
      (.closing :: ts, e)
    else if c = '"' ∨ c = '\'' then
      match h : takeQuoted c c cs with
      | none => ([], .unclosedQuote)
      | some (s, rest) =>
        have : rest.length < cs.length := takeQuoted_length h
        let (ts, e) := scanChars rest
        (.ofText (String.ofList s) :: ts, e)
    else if isWordChar c then
      have : (cs.dropWhile isWordChar).length ≤ cs.length := length_dropWhile_le _ _
      let (ts, e) := scanChars (cs.dropWhile isWordChar)
      (.word (String.ofList (c :: cs.takeWhile isWordChar)) :: ts, e)
    else ([], .stuck)
termination_by cs => cs.length
decreasing_by all_goals (simp_wf <;> omega)

def scan (s : String) : List Token × ScanEnd :=
  scanChars s.toList

end Launchpad.Substitution
