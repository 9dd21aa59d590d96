import Launchpad.Proofs.Substitution.Nesting
import Launchpad.Proofs.Substitution.Scanning

/-!
Reading undoes writing. Terms are written with blanks between them, in quotes or not, and a text
that was written so is read as the trees of its terms, whatever the blanks are. Two texts are read
alike exactly if their terms differ in nothing but the quotes.
-/

namespace Launchpad.Substitution

open List

/-- A text in quotes that does not hold the quote and spells no mark. -/
structure QuotedText where
  quote : Char
  content : Chars
  isQuote : IsQuote quote
  quote_not_mem : quote ∉ content
  no_backslash : content.getLast? ≠ some '\\'
  ne_opening : content ≠ ['$', '(']
  ne_closing : content ≠ [')']

inductive Leaf where
  | plain (w : PlainWord)
  | quoted (q : QuotedText)

inductive Term where
  | leaf (l : Leaf)
  | call (key : PlainWord) (args : List Term)

def IsGap (s : Chars) : Prop :=
  s ≠ [] ∧ ∀ c ∈ s, Text.isBlank c

lemma isGap_singleton {c : Char} (h : Text.isBlank c) : IsGap [c] :=
  ⟨cons_ne_nil _ _, forall_mem_singleton.2 h⟩

namespace QuotedText

def quotation (q : QuotedText) : Quotation :=
  ⟨q.quote, q.content, q.isQuote, closes_of_not_mem q.isQuote q.quote_not_mem q.no_backslash⟩

lemma ofText_text (q : QuotedText) : Token.ofText q.quotation.text = .word q.quotation.text := by
  have hopening : String.ofList q.content ≠ "$(" := fun h => q.ne_opening (by
    simpa using congrArg String.toList h)
  have hclosing : String.ofList q.content ≠ ")" := fun h => q.ne_closing (by
    simpa using congrArg String.toList h)
  simp [Token.ofText, Quotation.text, quotation, hopening, hclosing]

end QuotedText

/-- The tokens of `s` come first, and then those of any text behind it that does not continue a
word. -/
def Scans (s : Chars) (ts : List Token) : Prop :=
  ∀ rest, EndsWord rest → scanChars (s ++ rest) = (ts ++ (scanChars rest).1, (scanChars rest).2)

lemma Scans.append {s s' : Chars} {ts ts' : List Token} (h : Scans s ts) (h' : Scans s' ts')
    (hends : EndsWord s') : Scans (s ++ s') (ts ++ ts') := by
  intro rest hrest
  rw [append_assoc, h _ (hends.append hrest), h' _ hrest, append_assoc]

namespace Leaf

def chars : Leaf → Chars
  | plain w => w.chars
  | quoted q => q.quotation.chars

def text : Leaf → String
  | plain w => w.text
  | quoted q => q.quotation.text

lemma scans (l : Leaf) : Scans l.chars [.word l.text] := by
  cases l with
  | plain w => exact fun rest hrest => w.scanChars_append hrest
  | quoted q =>
    intro rest _
    have hscan := q.quotation.scanChars_append rest
    rwa [q.ofText_text] at hscan

end Leaf

mutual

/-- The tree of a term, in which quotes do not count. -/
def Term.tree : Term → Tree
  | .leaf l => .leaf l.text
  | .call key args => .call key.text (trees args)

def trees : List Term → List Tree
  | [] => []
  | t :: ts => t.tree :: trees ts

end

mutual

/-- Is a term written so? -/
def Term.Prints : Term → Chars → Prop
  | .leaf l, s => s = l.chars
  | .call key args, s => ∃ a, PrintsBehind args a ∧ s = ['$', '('] ++ (key.chars ++ (a ++ [')']))

/-- Are terms written so, each of them with a gap before it? -/
def PrintsBehind : List Term → Chars → Prop
  | [], s => s = []
  | t :: ts, s => ∃ gap a b, IsGap gap ∧ t.Prints a ∧ PrintsBehind ts b ∧ s = gap ++ (a ++ b)

end

/-- Are terms written so, with gaps between them? -/
def Prints : List Term → Chars → Prop
  | [], s => s = []
  | t :: ts, s => ∃ a b, t.Prints a ∧ PrintsBehind ts b ∧ s = a ++ b

lemma IsGap.endsWord {gap s : Chars} (h : IsGap gap) : EndsWord (gap ++ s) := by
  obtain ⟨hne, hblank⟩ := h
  cases gap with
  | nil => exact absurd rfl hne
  | cons c gap => exact endsWord_cons (isWordChar_of_isBlank (hblank c mem_cons_self))

lemma PrintsBehind.endsWord {ts : List Term} {s : Chars} (h : PrintsBehind ts s) : EndsWord s := by
  cases ts with
  | nil =>
    obtain rfl : s = [] := h
    exact endsWord_nil
  | cons t ts =>
    obtain ⟨gap, a, b, hgap, -, -, rfl⟩ := h
    exact hgap.endsWord

lemma scanChars_call (key : PlainWord) {a : Chars} {ts : List Token} (ha : Scans a ts)
    (hends : EndsWord a) (rest : Chars) :
    scanChars (['$', '('] ++ (key.chars ++ (a ++ [')'])) ++ rest) =
      (.opening :: .word key.text :: (ts ++ .closing :: (scanChars rest).1), (scanChars rest).2) := by
  have hclosing : EndsWord (')' :: rest) := endsWord_cons rfl
  have hargs := ha (')' :: rest) hclosing
  have hkey := key.scanChars_append (hends.append hclosing)
  rw [scanChars_closing] at hargs
  rw [hargs] at hkey
  simp [scanChars_opening, hkey]

mutual

lemma Term.Prints.scans {t : Term} {s : Chars} (h : t.Prints s) :
    Scans s (t.tree.marks.flatMap Mark.tokens) := by
  cases t with
  | leaf l =>
    obtain rfl : s = l.chars := h
    exact l.scans
  | call key args =>
    obtain ⟨a, ha, rfl⟩ := h
    intro rest _
    rw [scanChars_call key ha.scans ha.endsWord]
    simp [Term.tree, Tree.marks, Mark.tokens]

lemma PrintsBehind.scans {ts : List Term} {s : Chars} (h : PrintsBehind ts s) :
    Scans s ((marksAll (trees ts)).flatMap Mark.tokens) := by
  cases ts with
  | nil =>
    obtain rfl : s = [] := h
    exact fun _ _ => rfl
  | cons t ts =>
    obtain ⟨gap, a, b, hgap, ha, hb, rfl⟩ := h
    have hboth := ha.scans.append hb.scans hb.endsWord
    intro rest hrest
    rw [append_assoc, scanChars_blanks hgap.2, hboth rest hrest]
    simp [trees, marksAll]

end

lemma Prints.scans {ts : List Term} {s : Chars} (h : Prints ts s) :
    Scans s ((marksAll (trees ts)).flatMap Mark.tokens) := by
  cases ts with
  | nil =>
    obtain rfl : s = [] := h
    exact fun _ _ => rfl
  | cons t ts =>
    obtain ⟨a, b, ha, hb, rfl⟩ := h
    have hboth := ha.scans.append hb.scans hb.endsWord
    simpa [trees, marksAll] using hboth

lemma Prints.scan_eq {ts : List Term} {s : String} (h : Prints ts s.toList) :
    scan s = ((marksAll (trees ts)).flatMap Mark.tokens, .finished) := by
  have hscan := h.scans [] endsWord_nil
  rw [append_nil, scanChars_nil, append_nil] at hscan
  exact hscan

lemma Prints.parse_eq {ts : List Term} {s : String} (h : Prints ts s.toList) :
    parse s = .ok (forms (trees ts)) :=
  parse_of_scan_trees h.scan_eq

/-- A text that was written from terms is read as their trees, each substitution as a form that
begins with a dollar sign and the key. So two texts are read alike exactly if their terms differ in
the quotes of leaves at most. -/
theorem parse_of_prints {ts us : List Term} {s t : String} (hs : Prints ts s.toList)
    (ht : Prints us t.toList) :
    parse s = .ok (forms (trees ts)) ∧ (parse s = parse t ↔ trees ts = trees us) := by
  refine ⟨hs.parse_eq, fun h => ?_, fun h => ?_⟩
  · rw [hs.parse_eq, ht.parse_eq] at h
    exact forms_injective (Except.ok.inj h)
  · rw [hs.parse_eq, ht.parse_eq, h]

def PlainWord.find : PlainWord :=
  ⟨['f', 'i', 'n', 'd'], nofun, all_eq_true.1 rfl, by simp [IsQuote]⟩

def PlainWord.arg : PlainWord :=
  ⟨['a', 'r', 'g'], nofun, all_eq_true.1 rfl, by simp [IsQuote]⟩

def PlainWord.dir : PlainWord :=
  ⟨['d'], nofun, all_eq_true.1 rfl, by simp [IsQuote]⟩

/-- The search for a file below a directory that is an argument. -/
def Term.search (dir : Leaf) : List Term :=
  [.call .find
    [.leaf (.quoted ⟨'\'', ['a', ' ', 'b'], by decide, by decide, by decide, by decide, by decide⟩),
      .call .arg [.leaf dir]]]

def Leaf.dir : Leaf :=
  .plain .dir

def Leaf.quotedDir : Leaf :=
  .quoted ⟨'"', ['d'], by decide, by decide, by decide, by decide, by decide⟩

lemma prints_search (dir : Leaf) {a b c s : Chars} (ha : IsGap a) (hb : IsGap b)
    (hc : IsGap c) (hs : s = ['$', '(', 'f', 'i', 'n', 'd'] ++ (a ++ (['\'', 'a', ' ', 'b', '\''] ++
      (b ++ (['$', '(', 'a', 'r', 'g'] ++ (c ++ (dir.chars ++ [')', ')']))))))) :
    Prints (Term.search dir) s := by
  have hdir : PrintsBehind [.leaf dir] (c ++ (dir.chars ++ [])) := ⟨c, _, _, hc, rfl, rfl, rfl⟩
  refine ⟨_, _, ⟨_, ⟨a, _, _, ha, rfl, ⟨b, _, _, hb, ⟨_, hdir, rfl⟩, rfl, rfl⟩, rfl⟩, rfl⟩, rfl, ?_⟩
  simp [hs, Leaf.chars, Quotation.chars, QuotedText.quotation, PlainWord.find, PlainWord.arg]

/-- The same search with other blanks, and with the argument in quotes. -/
theorem parse_of_prints_search :
    let plain := "$(find 'a b'\t$(arg d))"
    let quoted := "$(find 'a b' $(arg\n\"d\"))"
    Prints (Term.search .dir) plain.toList ∧ Prints (Term.search .quotedDir) quoted.toList ∧
      parse plain =
        .ok [.items [.word "$find", .word "a b", .items [.word "$arg", .word "d"]]] ∧
      parse plain = parse quoted := by
  intro plain quoted
  have hplain : Prints (Term.search .dir) plain.toList :=
    prints_search .dir (isGap_singleton (c := ' ') rfl) (isGap_singleton (c := '\t') rfl)
      (isGap_singleton (c := ' ') rfl) (by decide)
  have hquoted : Prints (Term.search .quotedDir) quoted.toList :=
    prints_search .quotedDir (isGap_singleton (c := ' ') rfl) (isGap_singleton (c := ' ') rfl)
      (isGap_singleton (c := '\n') rfl) (by decide)
  obtain ⟨hparse, halike⟩ := parse_of_prints hplain hquoted
  exact ⟨hplain, hquoted, hparse, halike.2 rfl⟩

end Launchpad.Substitution
