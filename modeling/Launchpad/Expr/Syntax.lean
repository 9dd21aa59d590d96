import Launchpad.Expr.Token
import Launchpad.Expr.Tree

/-!
The grammar of expressions, read from tokens by recursive descent. Every reader takes tokens and
gives what it read, or fails; `fuel` bounds the nesting.
-/

namespace Launchpad.Expr

abbrev Reader := StateT (List Tok) Option

namespace Reader

def takeComparison? : List Tok → Option (String × List Tok)
  | .op s :: ts =>
    if ["<", ">", "<=", ">=", "==", "!="].contains s then some (s, ts) else none
  | .word "not" :: .word "in" :: ts => some ("not in", ts)
  | .word "in" :: ts => some ("in", ts)
  | .word "is" :: .word "not" :: ts => some ("is not", ts)
  | .word "is" :: ts => some ("is", ts)
  | _ => none

def takeOneOf? (ss : List String) : List Tok → Option (String × List Tok)
  | .op s :: ts => if ss.contains s then some (s, ts) else none
  | _ => none

/-- Takes what a function finds in front, if it finds anything. -/
def optional {α : Type} (take : List Tok → Option (α × List Tok)) : Reader (Option α) :=
  fun ts => match take ts with
    | some (a, ts) => some (some a, ts)
    | none => some (none, ts)

def isOp (s : String) : Reader Bool := do
  return match ← get with
    | .op t :: _ => t == s
    | _ => false

/-- Takes a sign if it is in front. -/
def sign (s : String) : Reader Bool := do
  let found ← isOp s
  if found then modify (·.drop 1)
  return found

def word (s : String) : Reader Bool := do
  match ← get with
  | .word t :: ts =>
    if t == s then set ts
    return t == s
  | _ => return false

def expect (s : String) : Reader Unit := do
  guard (← sign s)

def expectWord (s : String) : Reader Unit := do
  guard (← word s)

/-- Is a comprehension behind an element? -/
def isClause : Reader Bool := do
  return match ← get with
    | .word s :: _ => s == "for" || s == "async"
    | _ => false

def operatorLevels : List (List String) :=
  [["|"], ["^"], ["&"], ["<<", ">>"], ["+", "-"], ["*", "/", "//", "%", "@"]]

/-- Texts one behind the other. One with fields among them leaves no text. -/
def joinTexts : List Tok → Option (Option String × List Tok)
  | .str s :: ts => (joinTexts ts).map fun (t, rest) => (t.map (s ++ ·), rest)
  | .template :: ts => (joinTexts ts).map fun (_, rest) => (none, rest)
  | .bytes _ :: _ => none
  | ts => some (some "", ts)

def joinBytes : List Tok → Option (List UInt8 × List Tok)
  | .bytes bs :: ts => (joinBytes ts).map fun (cs, rest) => (bs ++ cs, rest)
  | .str _ :: _ | .template :: _ => none
  | ts => some ([], ts)

/-- How far the parameters of a function without a name have come. -/
structure Params where
  /-- A parameter with a default came, so plain ones behind it need one too. -/
  defaults : Bool := false
  some : Bool := false
  slash : Bool := false
  star : Bool := false
  bare : Bool := false

mutual

def expression : Nat → Reader Tree
  | 0 => failure
  | fuel + 1 => do
    if ← word "lambda" then
      parameters fuel {}
      let _ ← expression fuel
      return .special .function
    let a ← disjunction fuel
    if ← word "if" then
      let t ← disjunction fuel
      expectWord "else"
      return .choice t a (← expression fuel)
    return a

def namedExpression : Nat → Reader Tree
  | 0 => failure
  | fuel + 1 => do
    match ← get with
    | .name _ :: .op ":=" :: ts =>
      set ts
      let _ ← expression fuel
      return .special .binding
    | _ => expression fuel

def element : Nat → Reader Tree
  | 0 => failure
  | fuel + 1 => do
    if ← sign "*" then return .starred (← operand fuel operatorLevels)
    namedExpression fuel

def disjunction : Nat → Reader Tree
  | 0 => failure
  | fuel + 1 => do
    let a ← conjunction fuel
    if ← word "or" then return .either a (← disjunction fuel)
    return a

def conjunction : Nat → Reader Tree
  | 0 => failure
  | fuel + 1 => do
    let a ← inversion fuel
    if ← word "and" then return .both a (← conjunction fuel)
    return a

def inversion : Nat → Reader Tree
  | 0 => failure
  | fuel + 1 => do
    if ← word "not" then return .unary "not" (← inversion fuel)
    let a ← operand fuel operatorLevels
    let rest ← comparisons fuel
    return if rest.isEmpty then a else .compare a rest

def comparisons : Nat → Reader (List (String × Tree))
  | 0 => failure
  | fuel + 1 => do
    match ← optional takeComparison? with
    | none => return []
    | some op =>
      let b ← operand fuel operatorLevels
      return (op, b) :: (← comparisons fuel)

def operand : Nat → List (List String) → Reader Tree
  | 0, _ => failure
  | fuel + 1, [] => factor fuel
  | fuel + 1, ops :: tighter => do chain fuel ops tighter (← operand fuel tighter)

def chain : Nat → List String → List (List String) → Tree → Reader Tree
  | 0, _, _, _ => failure
  | fuel + 1, ops, tighter, a => do
    match ← optional (takeOneOf? ops) with
    | none => return a
    | some op => chain fuel ops tighter (.binary op a (← operand fuel tighter))

def factor : Nat → Reader Tree
  | 0 => failure
  | fuel + 1 => do
    match ← optional (takeOneOf? ["+", "-", "~"]) with
    | some op => return .unary op (← factor fuel)
    | none =>
      let suspends ← word "await"
      let a ← primary fuel
      let a := if suspends then .special .suspension else a
      if ← sign "**" then return .binary "**" a (← factor fuel)
      return a

def primary : Nat → Reader Tree
  | 0 => failure
  | fuel + 1 => do trailers fuel (← atom fuel)

def trailers : Nat → Tree → Reader Tree
  | 0, _ => failure
  | fuel + 1, a => do
    match ← get with
    | .op "[" :: ts =>
      set ts
      match ← subscripts fuel with
      | ([], _) => failure
      | ([e], false) => trailers fuel (.index a (if e.isStarred then .tuple [e] else e))
      | (es, _) => trailers fuel (.index a (.tuple es))
    | .op "(" :: ts =>
      set ts
      let (args, named) ← arguments fuel true false false
      trailers fuel (.apply a args named)
    | .op "." :: .name n :: ts =>
      set ts
      trailers fuel (.member a n)
    | _ => return a

def subscripts : Nat → Reader (List Tree × Bool)
  | 0 => failure
  | fuel + 1 => do
    if ← sign "]" then return ([], false)
    let e ← if ← sign "*" then Tree.starred <$> expression fuel else subscript fuel
    if ← sign "]" then return ([e], false)
    expect ","
    let (es, _) ← subscripts fuel
    return (e :: es, true)

def subscript : Nat → Reader Tree
  | 0 => failure
  | fuel + 1 => do
    let lo ← if ← isOp ":" then pure none else some <$> namedExpression fuel
    if let some (.special .binding) := lo then return .special .binding
    if ← sign ":" then
      let hi ← bound fuel
      let step ← if ← sign ":" then bound fuel else pure none
      return .slice lo hi step
    match lo with
    | some e => return e
    | none => failure

def bound : Nat → Reader (Option Tree)
  | 0 => failure
  | fuel + 1 => do
    if (← isOp ":") || (← isOp "]") || (← isOp ",") then return none
    return some (← expression fuel)

/-- The arguments of a call up to its closing parenthesis: `named` tells that one by name came,
`spread` that the entries of a map came. A comprehension without parentheses of its own has to be
the only argument. -/
def arguments : Nat → Bool → Bool → Bool → Reader (List Tree × List (Option String × Tree))
  | 0, _, _, _ => failure
  | fuel + 1, first, named, spread => do
    if ← sign ")" then return ([], [])
    let (pos, key, named, spread) ← match ← get with
      | .op "**" :: ts => do
        set ts
        pure (([] : List Tree), [((none : Option String), ← expression fuel)], true, true)
      | .op "*" :: ts => do
        guard !spread
        set ts
        pure ([.starred (← expression fuel)], [], named, spread)
      | .name n :: .op "=" :: ts => do
        set ts
        pure ([], [(some n, ← expression fuel)], true, spread)
      | _ => do
        guard !named
        let e ← namedExpression fuel
        if ← isClause then
          clauses fuel
          guard (first && (← isOp ")"))
          pure ([.special .generator], [], named, spread)
        else pure ([e], [], named, spread)
    if ← sign ")" then return (pos, key)
    expect ","
    let (ps, ks) ← arguments fuel false named spread
    return (pos ++ ps, key ++ ks)

def clauses : Nat → Reader Unit
  | 0 => failure
  | fuel + 1 => do
    let _ ← word "async"
    expectWord "for"
    targets fuel
    expectWord "in"
    let _ ← disjunction fuel
    conditions fuel
    if ← isClause then clauses fuel

def conditions : Nat → Reader Unit
  | 0 => failure
  | fuel + 1 => do
    if ← word "if" then
      let _ ← disjunction fuel
      conditions fuel

def targets : Nat → Reader Unit
  | 0 => failure
  | fuel + 1 => do
    let _ ← sign "*"
    let e ← operand fuel []
    guard (e.isTarget && !e.isStarred)
    match ← get with
    | .op "," :: .word "in" :: ts => set (Tok.word "in" :: ts)
    | .op "," :: ts =>
      set ts
      targets fuel
    | _ => return

def parameters : Nat → Params → Reader Unit
  | 0, _ => failure
  | fuel + 1, p => do
    let next (p : Params) : Reader Unit := do
      if ← sign "," then parameters fuel p
      else
        expect ":"
        guard !p.bare
    match ← get with
    | .op ":" :: ts =>
      guard !p.bare
      set ts
    | .op "/" :: ts =>
      guard !(p.slash || p.star || !p.some)
      set ts
      next { p with slash := true }
    | .op "**" :: .name _ :: ts =>
      guard !p.bare
      set ts
      let _ ← sign ","
      expect ":"
    | .op "*" :: .name _ :: ts =>
      guard !p.star
      set ts
      next { p with star := true, some := true }
    | .op "*" :: .op "," :: ts =>
      guard !p.star
      set ts
      parameters fuel { p with star := true, bare := true }
    | .name _ :: .op "=" :: ts =>
      set ts
      let _ ← expression fuel
      next { p with defaults := true, some := true, bare := false }
    | .name _ :: ts =>
      guard !(p.defaults && !p.star)
      set ts
      next { p with some := true, bare := false }
    | _ => failure

def elements : Nat → String → Reader (List Tree × Bool)
  | 0, _ => failure
  | fuel + 1, close => do
    if ← sign close then return ([], false)
    let e ← element fuel
    if ← sign close then return ([e], false)
    expect ","
    let (es, _) ← elements fuel close
    return (e :: es, true)

/-- What is between brackets: elements, or a comprehension. -/
def display : Nat → String → Form → Reader (List Tree × Bool ⊕ Tree)
  | 0, _, _ => failure
  | fuel + 1, close, whole => do
    if ← sign close then return .inl ([], false)
    let e ← element fuel
    if ← isClause then
      guard !e.isStarred
      clauses fuel
      expect close
      return .inr (.special whole)
    if ← sign close then return .inl ([e], false)
    expect ","
    let (es, _) ← elements fuel close
    return .inl (e :: es, true)

def entries : Nat → Reader (List (Option Tree × Tree))
  | 0 => failure
  | fuel + 1 => do
    if ← sign "\x7d" then return []
    let e ← if ← sign "**" then Prod.mk none <$> operand fuel operatorLevels else do
      let k ← expression fuel
      expect ":"
      pure (some k, ← expression fuel)
    if ← sign "\x7d" then return [e]
    expect ","
    return e :: (← entries fuel)

def braces : Nat → Reader Tree
  | 0 => failure
  | fuel + 1 => do
    if (← isOp "\x7d") || (← isOp "**") then return .map (← entries fuel)
    let e ← element fuel
    let comprehension : Reader Tree := do
      guard !e.isStarred
      clauses fuel
      expect "\x7d"
      return .special .comprehension
    if ← sign ":" then
      guard !(e.isStarred || e.isBinding)
      let v ← expression fuel
      if ← isClause then comprehension
      else if ← sign "\x7d" then return .map [(some e, v)]
      else
        expect ","
        return .map ((some e, v) :: (← entries fuel))
    else if ← isClause then comprehension
    else if ← sign "\x7d" then return .set [e]
    else
      expect ","
      let (es, _) ← elements fuel "\x7d"
      return .set (e :: es)

def yielded : Nat → Reader Unit
  | 0 => failure
  | fuel + 1 => do
    if ← word "from" then
      let _ ← expression fuel
      expect ")"
    else yieldedItems fuel

def yieldedItems : Nat → Reader Unit
  | 0 => failure
  | fuel + 1 => do
    if ← sign ")" then return
    let _ ← if ← sign "*" then operand fuel operatorLevels else expression fuel
    if ← sign ")" then return
    expect ","
    yieldedItems fuel

def atom : Nat → Reader Tree
  | 0 => failure
  | fuel + 1 => do
    let before ← get
    set (before.drop 1)
    match before with
    | .int n :: _ => return .lit (.int n)
    | .float x :: _ => return .lit (.float x)
    | .imaginary x :: _ => return .lit (.complex 0.0 x)
    | .str _ :: _ | .template :: _ =>
      set before
      let s ← joinTexts
      return (s.map fun s => Tree.lit (.str s)).getD (.special .template)
    | .bytes _ :: _ =>
      set before
      return .lit (.bytes (← joinBytes))
    | .op "..." :: _ => return .lit (.ref (.thing "ellipsis" "Ellipsis" "Ellipsis"))
    | .word "None" :: _ => return .lit .null
    | .word "True" :: _ => return .lit (.bool true)
    | .word "False" :: _ => return .lit (.bool false)
    | .name n :: _ => return .name n
    | .op "(" :: .word "yield" :: ts =>
      set ts
      yielded fuel
      return .special .suspension
    | .op "(" :: _ =>
      match ← display fuel ")" .generator with
      | .inr e => return e
      | .inl ([e], false) =>
        guard !e.isStarred
        return e
      | .inl (es, _) => return .tuple es
    | .op "[" :: _ =>
      match ← display fuel "]" .comprehension with
      | .inr e => return e
      | .inl (es, _) => return .list es
    | .op "\x7b" :: _ => braces fuel
    | _ => failure

end

end Reader

def topLevel (fuel : Nat) (bound : Nat) (ts : List Tok) : Try (List Tree × Bool) :=
  match fuel with
  | 0 => fails .badSyntax
  | fuel + 1 =>
    let finish (es : List Tree) (comma : Bool) (ts : List Tok) :
        Try (List Tree × Bool) :=
      match ts.dropWhile (fun t => match t with
        | .newline => true
        | _ => false) with
      | [] => .ok (es, comma)
      | .indent :: _ => fails .badIndent
      | _ => fails .badSyntax
    match ts with
    | .indent :: _ => fails .badIndent
    | ts => match (Reader.expression bound).run ts with
      | none => fails .badSyntax
      | some (e, .op "," :: ts) =>
        match ts with
        | [] | .newline :: _ => finish [e] true ts
        | ts => (topLevel fuel bound ts).map fun (es, _) => (e :: es, true)
      | some (e, ts) => finish [e] false ts

def maxHeight : Nat := 2980

def parse (s : String) : Try Tree := do
  if s.toList.contains (Char.ofNat 0) then throw (.silent .badSyntax)
  let ts := scan s
  let (es, comma) ← topLevel (ts.length + 1) (40 * (s.length + 4)) ts
  let tree := match es, comma with
    | [e], false => e
    | es, _ => .tuple es
  if tree.height > maxHeight then throw (.silent .recursion) else return tree

end Launchpad.Expr
