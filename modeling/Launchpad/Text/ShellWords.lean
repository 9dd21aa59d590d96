/-!
The words of a line as a shell divides it: at blanks, with quotes and backslashes. A line that ends
within quotes or behind a backslash ends with the word as far as it goes.
-/

namespace Launchpad.Text

inductive ShellState where
  | between
  | inWord
  | quoted (q : Char)
  | escaped (within : Option Char)

def isShellBlank (c : Char) : Bool :=
  c == ' ' || c == '\t' || c == '\r' || c == '\n'

/-- The words of a line. `word` is the current one in reverse, `started` tells if there is one even
if it has no characters. -/
def shellWordsFrom : ShellState → List Char → Bool → List Char → List String
  | .between, _, _, [] => []
  | .inWord, word, started, [] => emit word started []
  | .quoted _, word, _, [] => [String.ofList word.reverse]
  | .escaped _, word, _, [] => [String.ofList word.reverse]
  | .between, word, started, c :: cs =>
    if isShellBlank c then shellWordsFrom .between [] false cs
    else if c == '\\' then shellWordsFrom (.escaped none) word started cs
    else if c == '\'' || c == '"' then shellWordsFrom (.quoted c) word true cs
    else shellWordsFrom .inWord (c :: word) true cs
  | .inWord, word, started, c :: cs =>
    if isShellBlank c then emit word started (shellWordsFrom .between [] false cs)
    else if c == '\\' then shellWordsFrom (.escaped none) word started cs
    else if c == '\'' || c == '"' then shellWordsFrom (.quoted c) word true cs
    else shellWordsFrom .inWord (c :: word) started cs
  | .quoted q, word, _, c :: cs =>
    if c == q then shellWordsFrom .inWord word true cs
    else if c == '\\' && q == '"' then shellWordsFrom (.escaped (some q)) word true cs
    else shellWordsFrom (.quoted q) (c :: word) true cs
  | .escaped none, word, _, c :: cs => shellWordsFrom .inWord (c :: word) true cs
  | .escaped (some q), word, _, c :: cs =>
    if c == '\\' || c == q then shellWordsFrom (.quoted q) (c :: word) true cs
    else shellWordsFrom (.quoted q) (c :: '\\' :: word) true cs
where
  emit (word : List Char) (started : Bool) (rest : List String) : List String :=
    if word.isEmpty && !started then rest else String.ofList word.reverse :: rest

def shellWords (s : String) : List String :=
  shellWordsFrom .between [] false s.toList

end Launchpad.Text
