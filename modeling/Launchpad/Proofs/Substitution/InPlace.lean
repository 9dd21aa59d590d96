import Launchpad.Proofs.Substitution.Joining

/-!
Texts in which substitutions stand among literal text. The words of the literal text and the values
of the substitutions are joined by single blanks, however they were written: a value takes the place of
its substitution only where single blanks were all that separated it from the words beside it.
-/

namespace Launchpad

open List

open Text

variable {c : Char} {s : String}

namespace Text

lemma words_go_char (hc : isBlank c = false) (cs w : Chars) :
    words.go (c :: cs) w = words.go cs (c :: w) := by
  rw [words.go.eq_def]
  simp only [hc, Bool.false_eq_true, if_false]

lemma words_blank (hc : isBlank c = true) (cs : Chars) :
    words (String.ofList (c :: cs)) = words (String.ofList cs) := by
  rw [words, words, String.toList_ofList, String.toList_ofList, words.go.eq_def]
  simp only [hc, if_true]

lemma words_go {w : Chars} (hw : w ≠ []) (cs : Chars) :
    words.go cs w = String.ofList (w.reverse ++ cs.takeWhile (!isBlank ·)) ::
      words.go (cs.dropWhile (!isBlank ·)) [] := by
  obtain ⟨d, w, rfl⟩ := exists_cons_of_ne_nil hw
  induction cs generalizing d w with
  | nil => simp only [takeWhile_nil, dropWhile_nil, append_nil]; rfl
  | cons c cs ih =>
    cases hc : isBlank c with
    | true =>
      have hblank : words.go (c :: cs) [] = words.go cs [] := by
        simpa [words] using words_blank hc cs
      rw [takeWhile_cons_of_neg (by simp [hc]), dropWhile_cons_of_neg (by simp [hc]),
        append_nil, hblank, words.go.eq_def]
      simp only [hc, if_true]
    | false =>
      rw [takeWhile_cons_of_pos (by simp [hc]), dropWhile_cons_of_pos (by simp [hc]),
        words_go_char hc, ih c (d :: w) (cons_ne_nil _ _)]
      simp

lemma words_char (hc : isBlank c = false) (cs : Chars) :
    words (String.ofList (c :: cs)) = String.ofList (c :: cs.takeWhile (!isBlank ·)) ::
      words (String.ofList (cs.dropWhile (!isBlank ·))) := by
  rw [words, words, String.toList_ofList, String.toList_ofList, words_go_char hc,
    words_go (cons_ne_nil _ _)]
  rfl

end Text

namespace Substitution

variable {σ : Type} {answers : List String} {handlers : Handlers (EStateM Stop σ)}

/-- A text in which nothing has a meaning. -/
structure Fragment where
  chars : Chars
  literal : ∀ c ∈ chars, c ∉ ['$', '(', ')', '"', '\'']

namespace Fragment

def text (f : Fragment) : String :=
  String.ofList f.chars

def words (f : Fragment) : List String :=
  Text.words f.text

def leaves (f : Fragment) : List Tree :=
  f.words.map .leaf

lemma isWordChar_eq (h : c ∉ ['$', '(', ')', '"', '\'']) : isWordChar c = !isBlank c := by
  have hne : c ≠ '$' ∧ c ≠ '(' ∧ c ≠ ')' := by
    refine ⟨?_, ?_, ?_⟩ <;> rintro rfl <;> exact h (by decide)
  rw [isWordChar, bne_iff_ne.2 hne.1, bne_iff_ne.2 hne.2.1, bne_iff_ne.2 hne.2.2]
  simp only [Bool.and_true]

lemma scans (f : Fragment) : Scans f.chars (f.words.map .word) := by
  intro rest hrest
  obtain ⟨cs, hcs⟩ := f
  simp only [words, text]
  -- behind its first character, or behind its first word, a text is shorter
  induction hn : cs.length using Nat.strongRecOn generalizing cs with
  | _ n ih =>
  subst hn
  cases cs with
  | nil => rfl
  | cons c cs =>
    obtain ⟨hc, hliteral⟩ := forall_mem_cons.1 hcs
    cases hblank : isBlank c with
    | true =>
      have hnext := ih cs.length (Nat.lt_succ_self _) cs hliteral rfl
      rw [cons_append, scanChars_blank hblank, hnext, words_blank hblank]
    | false =>
      have hquote : ¬ IsQuote c := by rintro (rfl | rfl) <;> exact hc (by decide)
      let first : PlainWord :=
        { chars := c :: cs.takeWhile (!isBlank ·)
          ne_nil := cons_ne_nil _ _
          plain := forall_mem_cons.2 ⟨by rw [isWordChar_eq hc, hblank]; rfl, fun d hd => by
            rw [isWordChar_eq (hliteral d ((takeWhile_sublist _).subset hd))]
            exact all_eq_true.1 all_takeWhile d hd⟩
          unquoted := by simpa using hquote }
      have hends : EndsWord (cs.dropWhile (!isBlank ·)) := by
        intro d hd
        have hhead := List.head?_dropWhile_not (!isBlank ·) cs
        rw [show (cs.dropWhile (!isBlank ·)).head? = some d from hd] at hhead
        exact isWordChar_of_isBlank (by simpa using hhead)
      have hlater := ih (cs.dropWhile (!isBlank ·)).length
        (Nat.lt_succ_of_le (length_dropWhile_le _ _)) _
        (fun d hd => hliteral d ((dropWhile_sublist _).subset hd)) rfl
      have hchars : c :: cs ++ rest = first.chars ++ (cs.dropWhile (!isBlank ·) ++ rest) := by
        simp [first, ← append_assoc, takeWhile_append_dropWhile]
      rw [hchars, first.scanChars_append (hends.append hrest), hlater, words_char hblank]
      rfl

end Fragment

/-- A substitution as it is written. -/
structure Written where
  key : PlainWord
  args : List Term
  chars : Chars
  prints : (Term.call key args).Prints chars

def Written.tree (w : Written) : Tree :=
  (Term.call w.key w.args).tree

lemma Written.scanChars_append (w : Written) (rest : Chars) : scanChars (w.chars ++ rest) =
      (w.tree.marks.flatMap Mark.tokens ++ (scanChars rest).1, (scanChars rest).2) := by
  have hprints := w.prints
  obtain ⟨a, ha, hchars⟩ := hprints
  rw [hchars, scanChars_call w.key ha.scans ha.endsWord]
  simp [Written.tree, Term.tree, Tree.marks, Mark.tokens]

/-- Literal text with substitutions in it, each with the literal text behind it. -/
structure Mixed where
  first : Fragment
  rest : List (Written × Fragment)

namespace Mixed

def chars (m : Mixed) : Chars :=
  m.first.chars ++ m.rest.flatMap fun x => x.1.chars ++ x.2.chars

def trees (m : Mixed) : List Tree :=
  m.first.leaves ++ m.rest.flatMap fun x => x.1.tree :: x.2.leaves

def calls (m : Mixed) : List Tree :=
  m.rest.map (·.1.tree)

/-- The words, with the answers of the handlers in the place of the substitutions. -/
def items (m : Mixed) (answers : List String) : List String :=
  m.first.words ++ (m.rest.zip answers).flatMap fun x => x.2 :: x.1.2.words

/-- The text, with the answers of the handlers in the place of the substitutions. -/
def replaced (m : Mixed) (answers : List String) : String :=
  m.first.text ++ String.join ((m.rest.zip answers).map fun x => x.2 ++ x.1.2.text)

def tokens (ts : List Tree) : List Token :=
  (marksAll ts).flatMap Mark.tokens

lemma tokens_cons (t : Tree) (ts : List Tree) :
    tokens (t :: ts) = t.marks.flatMap Mark.tokens ++ tokens ts := by
  simp [tokens, marksAll]

lemma tokens_leaves (f : Fragment) (ts : List Tree) :
    tokens (f.leaves ++ ts) = f.words.map .word ++ tokens ts := by
  rw [Fragment.leaves]
  induction f.words with
  | nil => rfl
  | cons w ws ih => rw [map_cons, cons_append, tokens_cons, ih]; rfl

lemma scan_eq (m : Mixed) (hs : s.toList = m.chars) : scan s = (tokens m.trees, .finished) := by
  have hrest (xs : List (Written × Fragment)) :
      EndsWord (xs.flatMap fun x => x.1.chars ++ x.2.chars) ∧
      scanChars (xs.flatMap fun x => x.1.chars ++ x.2.chars) =
        (tokens (xs.flatMap fun x => x.1.tree :: x.2.leaves), .finished) := by
    induction xs with
    | nil => exact ⟨endsWord_nil, scanChars_nil⟩
    | cons x xs ih =>
      obtain ⟨w, f⟩ := x
      obtain ⟨hends, hscan⟩ := ih
      rw [flatMap_cons, flatMap_cons]
      constructor
      · have hprints := w.prints
        obtain ⟨a, -, hchars⟩ := hprints
        rw [hchars]
        exact endsWord_cons rfl
      · rw [append_assoc, w.scanChars_append, f.scans _ hends, hscan, cons_append,
          tokens_cons, tokens_leaves]
  obtain ⟨hends, hscan⟩ := hrest m.rest
  rw [scan, hs, chars, m.first.scans _ hends, hscan, trees, tokens_leaves]

lemma expandAll_leaves (f : Fragment) {ts : List Tree}
    {vs : List Value} {st u : σ} (h : expandAll handlers (forms ts) st = .ok vs u) :
    expandAll handlers (forms (f.leaves ++ ts)) st = .ok (f.words.map .str ++ vs) u := by
  rw [Fragment.leaves]
  induction f.words with
  | nil => exact h
  | cons w ws ih =>
    have hw : (Tree.leaf w).form.expand handlers st = .ok (.str w) st := by
      rfl
    exact expandAll_cons_eq_ok.2 ⟨_, _, _, hw, ih, rfl⟩

lemma expandAll_trees (m : Mixed) {st u : σ}
    (h : expandAll handlers (forms m.calls) st = .ok (answers.map .str) u) :
    expandAll handlers (forms m.trees) st = .ok ((m.items answers).map .str) u := by
  rw [trees, items, map_append]
  refine expandAll_leaves m.first ?_
  rw [calls] at h
  generalize m.rest = xs at h ⊢
  induction xs generalizing answers st with
  | nil =>
    cases answers with
    | nil => exact h
    | cons a as => cases h
  | cons x xs ih =>
    obtain ⟨v, t, us, hv, hus, heq⟩ := expandAll_cons_eq_ok.1 h
    cases answers with
    | nil => cases heq
    | cons a as =>
      obtain ⟨rfl, rfl⟩ := List.cons.inj heq
      refine expandAll_cons_eq_ok.2 ⟨_, t, _, hv, expandAll_leaves x.2 (ih hus), ?_⟩
      simp

lemma run_substituteValue (m : Mixed)
    (hs : s.toList = m.chars) {st u : σ}
    (h : expandAll handlers (forms m.calls) st = .ok (answers.map .str) u) :
    (substituteValue handlers (.str s)).run st =
      applyForm handlers ((m.items answers).map .str) u := by
  rw [substituteValue_of_parse handlers (parse_of_scan_trees (m.scan_eq hs)), Form.expand]
  simp only [EStateM.run, bind, EStateM.bind, m.expandAll_trees h]

end Mixed

/-- Do all handlers return texts? -/
def Answers {σ : Type} (handlers : Handlers (EStateM Stop σ)) : Prop :=
  ∀ key call, handlers key = some call → ∀ args s, ∃ text t, call args s = .ok (.str text) t

lemma Answers.total (hh : Answers handlers) :
    Total handlers := fun key call hcall args s => by
  obtain ⟨text, t, h⟩ := hh key call hcall args s
  exact ⟨.str text, t, h⟩

lemma Answers.exists_answers (hh : Answers handlers)
    (ws : List Written) (hkeys : ∀ key ∈ keysAll (ws.map Written.tree), knows handlers key)
    (st : σ) :
    ∃ (answers : List String) (u : σ), answers.length = ws.length ∧
      expandAll handlers (forms (ws.map Written.tree)) st = .ok (answers.map .str) u := by
  induction ws generalizing st with
  | nil => exact ⟨[], st, rfl, by simp only [map_nil, forms, expandAll]; rfl⟩
  | cons w ws ih =>
    simp only [map_cons, keysAll, mem_append, Written.tree, Term.tree, Tree.keys,
      mem_singleton] at hkeys
    obtain ⟨vs, t, hvs, -⟩ := exists_expandAll hh.total (Substitution.trees w.args)
      (fun k hk => hkeys k (.inl (.inl hk))) st
    obtain ⟨call, hcall⟩ := Option.isSome_iff_exists.1 (hkeys w.key.text (.inl (.inr rfl)))
    obtain ⟨text, t', htext⟩ := hh _ call hcall vs t
    obtain ⟨answers, u, hlen, hanswers⟩ := ih (fun k hk => hkeys k (.inr hk)) t'
    refine ⟨text :: answers, u, congrArg (· + 1) hlen, ?_⟩
    exact expandAll_cons_eq_ok.2 ⟨_, t', _, (expand_call hcall hvs).trans htext, hanswers, rfl⟩

/-! ## Single blanks -/

def spaced (texts : List String) : String :=
  String.join (texts.map (" " ++ ·))

lemma spaced_cons (t : String) (ts : List String) : spaced (t :: ts) = " " ++ t ++ spaced ts := by
  simp [spaced]

lemma spaced_append (ts us : List String) : spaced (ts ++ us) = spaced ts ++ spaced us := by
  simp [spaced]

lemma intercalate_cons (t : String) (ts : List String) :
    " ".intercalate (t :: ts) = t ++ spaced ts := by
  induction ts generalizing t with
  | nil => simp [spaced]
  | cons u ts ih =>
    rw [String.intercalate_cons_of_ne_nil (cons_ne_nil u ts), ih, spaced_cons]
    simp only [String.append_assoc]

/-- Is literal text its words with single blanks between them, and with one towards each substitution
that is beside it? -/
def Fragment.Spaced (before after : Bool) (f : Fragment) : Prop :=
  f.text = (if before then spaced f.words else " ".intercalate f.words) ++
    (if after && (before || !f.words.isEmpty) then " " else "")

def SpacedBehind : List (Written × Fragment) → Prop
  | [] => True
  | x :: xs => x.2.Spaced true (!xs.isEmpty) ∧ SpacedBehind xs

/-- Is everything in a text separated by single blanks? -/
def Mixed.Spaced (m : Mixed) : Prop :=
  m.first.Spaced false (!m.rest.isEmpty) ∧ SpacedBehind m.rest

lemma spaced_behind {xs : List (Written × Fragment)} (h : SpacedBehind xs)
    (hlen : answers.length = xs.length) (hne : xs ≠ []) :
    spaced ((xs.zip answers).flatMap fun x => x.2 :: x.1.2.words) =
      " " ++ String.join ((xs.zip answers).map fun x => x.2 ++ x.1.2.text) := by
  induction xs generalizing answers with
  | nil => exact absurd rfl hne
  | cons x xs ih =>
    obtain ⟨a, as, rfl⟩ := exists_cons_of_length_eq_add_one hlen
    obtain ⟨hx, hxs⟩ := h
    have hlen : as.length = xs.length := Nat.succ.inj hlen
    have htext : x.2.text = spaced x.2.words ++ (if xs = [] then "" else " ") := by
      rw [Fragment.Spaced] at hx
      cases xs <;> simpa using hx
    rw [zip_cons_cons, flatMap_cons, map_cons, cons_append, spaced_cons,
      spaced_append, String.join_cons, htext]
    by_cases hnil : xs = []
    · simp [hnil, spaced, String.append_assoc]
    · rw [ih hxs hlen hnil, if_neg hnil]
      simp only [String.append_assoc]

lemma Mixed.intercalate_items {m : Mixed} (h : m.Spaced) (hlen : answers.length = m.rest.length) :
    " ".intercalate (m.items answers) = m.replaced answers := by
  obtain ⟨hfirst, hrest⟩ := h
  rw [items, replaced, hfirst]
  by_cases hnil : m.rest = []
  · simp [hnil]
  have hbehind := spaced_behind hrest hlen hnil
  cases hwords : m.first.words with
  | nil =>
    -- the first item is an answer, which has no blank before it in the text either
    have hall : ∃ a as, ((m.rest.zip answers).flatMap fun x => x.2 :: x.1.2.words) = a :: as := by
      obtain ⟨x, xs, hx⟩ := exists_cons_of_ne_nil hnil
      rw [hx] at hlen ⊢
      obtain ⟨a, as, rfl⟩ := exists_cons_of_length_eq_add_one hlen
      exact ⟨a, _, rfl⟩
    obtain ⟨a, as, hall⟩ := hall
    rw [hall, spaced_cons, String.append_assoc] at hbehind
    rw [nil_append, hall, intercalate_cons, (String.append_right_inj _).1 hbehind]
    simp
  | cons w ws =>
    rw [cons_append, intercalate_cons, spaced_append, hbehind, intercalate_cons]
    simp [hnil, String.append_assoc]

lemma run_mixed (m : Mixed) (hs : s.toList = m.chars)
    {st u : σ} (h : expandAll handlers (forms m.calls) st = .ok (answers.map .str) u)
    {first : String} (hfirst : first ∈ (m.items answers).head?)
    (hdollar : first.toList.head? ≠ some '$') :
    (substituteValue handlers (.str s)).run st =
      .ok (.str (" ".intercalate (m.items answers))) u := by
  obtain ⟨items, hitems⟩ := List.head?_eq_some_iff.1 hfirst
  rw [m.run_substituteValue hs h]
  refine (applyForm_eq_ok_iff ?_).2 ⟨⟨m.items answers, by simp [hitems], rfl, rfl⟩, rfl⟩
  rintro ⟨text, htext, hhead⟩
  rw [hitems] at htext
  cases htext
  exact hdollar hhead

lemma run_find {f : Fragment} (hslash : f.chars.head? = some '/') (package subdir : Value)
    (t : Session) : (Launch.find package (.str f.text) subdir).run t =
      .ok (.str (" ".intercalate f.words)) t := by
  obtain ⟨cs, hcs⟩ := List.head?_eq_some_iff.1 hslash
  have htext : f.text ≠ "" := fun h => by
    simpa [Fragment.text, hcs] using congrArg String.toList h
  have hwords : ∃ ws, f.words = String.ofList ('/' :: cs.takeWhile (!isBlank ·)) :: ws :=
    ⟨_, by rw [Fragment.words, Fragment.text, hcs, words_char (by decide)]⟩
  obtain ⟨ws, hwords⟩ := hwords
  obtain ⟨handlers, -, -, hresolve⟩ := exists_resolveWith htext 198
  have hresult : (Launch.resolveWith (.str f.text) 199).run t =
      .ok (.str (" ".intercalate f.words)) t := by
    rw [hresolve]
    let m : Mixed := ⟨f, []⟩
    have hitems : m.items [] = f.words := append_nil _
    have hcalls : expandAll handlers (forms m.calls) t = .ok (([] : List String).map .str) t := rfl
    have hhead : String.ofList ('/' :: cs.takeWhile (!isBlank ·)) ∈ (m.items []).head? := by
      rw [hitems, hwords]
      rfl
    rw [← hitems]
    exact run_mixed m (by simp [Fragment.text, Mixed.chars, m]) hcalls hhead (by simp)
  have habsolute : Path.isAbsolute (" ".intercalate f.words) = true := by
    rw [hwords, intercalate_cons]
    simp [Path.isAbsolute, startsWith]
  have htruthy : (Value.str f.text).truthy = true := by simpa [Value.truthy] using htext
  rw [Launch.find, Launch.substitutionDepth, Launch.findWith, htruthy]
  refine (Launch.run_bind_of_ok hresult).trans ?_
  simp only [Launch.isAbsoluteName, habsolute]
  rfl

/-- What is made of literal text with substitutions in it, if all handlers return texts. It is the
words and the answers, joined by single blanks: if these are all that separates them in the text, each
answer is in the place of its substitution. There has to be one of them, and the first may not begin
with a dollar sign. An absolute path without substitutions is found as its words. -/
theorem joined_by_blanks {σ : Type} {handlers : Handlers (EStateM Stop σ)} (hh : Answers handlers)
    (m : Mixed) {s : String} (hs : s.toList = m.chars)
    (hkeys : ∀ key ∈ keysAll m.calls, knows handlers key) (st : σ) :
    (∃ (answers : List String) (u : σ), answers.length = m.rest.length ∧
      expandAll handlers (forms m.calls) st = .ok (answers.map .str) u ∧
      let result := (substituteValue handlers (.str s)).run st
      (m.items answers = [] → ∃ text, result = .error (.silent .invalidValue text) u) ∧
      (∀ first ∈ (m.items answers).head?, first.toList.head? ≠ some '$' →
        result = .ok (.str (" ".intercalate (m.items answers))) u ∧
        (m.Spaced → " ".intercalate (m.items answers) = m.replaced answers))) ∧
    ∀ (f : Fragment), f.chars.head? = some '/' → ∀ (package subdir : Value) (t : Session),
      (Launch.find package (.str f.text) subdir).run t = .ok (.str (" ".intercalate f.words)) t := by
  refine ⟨?_, fun f hslash package subdir t => ?_⟩
  · have hcalls : m.calls = (m.rest.map (·.1)).map Written.tree := by
      rw [Mixed.calls, map_map]
      rfl
    rw [hcalls] at hkeys ⊢
    obtain ⟨answers, u, hlen, hanswers⟩ := hh.exists_answers _ hkeys st
    rw [length_map] at hlen
    refine ⟨answers, u, hlen, hanswers, ?_⟩
    rw [← hcalls] at hanswers
    rw [m.run_substituteValue hs hanswers]
    refine ⟨fun hnil => ⟨_, by rw [hnil]; rfl⟩, fun first hfirst hdollar => ⟨?_, fun hspaced => ?_⟩⟩
    · rw [← m.run_substituteValue hs hanswers]
      exact run_mixed m hs hanswers hfirst hdollar
    · exact Mixed.intercalate_items hspaced hlen
  · exact run_find hslash package subdir t

lemma answers_answering (table : TextPairs) : Answers (answering table) := by
  intro key call hcall args s
  obtain ⟨text, -, rfl⟩ := Option.map_eq_some_iff.1 hcall
  exact ⟨text, s, rfl⟩

def Written.bare (key : PlainWord) : Written where
  key := key
  args := []
  chars := ['$', '('] ++ (key.chars ++ [')'])
  prints := by
    rw [Term.Prints]
    exact ⟨[], rfl, rfl⟩

def Mixed.path (before behind : Fragment) : Mixed where
  first := before
  rest := [(.bare .dir, behind)]

theorem joined_by_blanks_path :
    (substituteValue (answering [("d", "home")]) (.str "in $(d) now")).run () =
        .ok (.str "in home now") () ∧
      (Launch.find .null (.str "/home") .null).run {} = .ok (.str "/home") {} := by
  let m : Mixed := .path ⟨"in ".toList, by simp⟩ ⟨" now".toList, by simp⟩
  have hs : "in $(d) now".toList = m.chars := rfl
  obtain ⟨⟨answers, u, -, hanswers, -, hresult⟩, hfind⟩ :=
    joined_by_blanks (answers_answering [("d", "home")]) m hs (by decide) ()
  obtain rfl : answers = ["home"] := by
    have hvalues : expandAll (answering [("d", "home")]) (forms m.calls) () =
      .ok (["home"].map .str) () := rfl
    rw [hvalues] at hanswers
    cases answers with
    | nil => cases hanswers
    | cons a as => cases as <;> cases hanswers; rfl
  have hitems : m.items ["home"] = ["in", "home", "now"] := by decide +kernel
  have hfound := hfind ⟨"/home".toList, by simp⟩ rfl .null .null {}
  rw [hitems] at hresult
  exact ⟨(hresult "in" rfl (by decide)).1, hfound⟩

/-- Blanks are put beside a substitution, and blanks of a text get lost, even in the name of a file. -/
theorem blanks_not_kept :
    (substituteValue (answering [("d", "home")]) (.str "/$(d)/now")).run () =
        .ok (.str "/ home /now") () ∧
      (substituteValue (answering []) (.str "a  b")).run () = .ok (.str "a b") () ∧
      (Launch.find .null (.str "/a  b") .null).run {} = .ok (.str "/a b") {} := by
  have hpath : parse "/$(d)/now" = .ok (forms [.leaf "/", .call "d" [], .leaf "/now"]) :=
    parse_of_scan_trees (by decide +kernel)
  have hwords : parse "a  b" = .ok (forms [.leaf "a", .leaf "b"]) :=
    parse_of_scan_trees (by decide +kernel)
  refine ⟨?_, ?_, ?_⟩
  · rw [substituteValue_of_parse _ hpath]
    rfl
  · rw [substituteValue_of_parse _ hwords]
    rfl
  · let f : Fragment := ⟨"/a  b".toList, by simp⟩
    have hfound := run_find (f := f) rfl .null .null {}
    rwa [show f.text = "/a  b" by decide +kernel,
      show " ".intercalate f.words = "/a b" by decide +kernel] at hfound

end Substitution

end Launchpad
