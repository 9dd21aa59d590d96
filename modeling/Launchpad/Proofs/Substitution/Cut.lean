import Launchpad.Proofs.Substitution.Scanning

/-!
Any text, cut into the pieces that the scan takes one after the other. Every text has a cut, and the
tokens of a text are those of its pieces. What stands between quotes can be replaced by anything
that ends at the closing quote, without a change to the other pieces.
-/

namespace Launchpad.Substitution

open List

/-- What the scan takes of a text in one step. -/
inductive Piece where
  | blank (c : Char) (isBlank : Text.isBlank c)
  | opening
  | closing
  | word (w : PlainWord)
  | quoted (q : Quotation)

namespace Piece

def chars : Piece → Chars
  | blank c _ => [c]
  | opening => ['$', '(']
  | closing => [')']
  | word w => w.chars
  | quoted q => q.chars

def tokens : Piece → List Token
  | blank _ _ => []
  | opening => [.opening]
  | closing => [.closing]
  | word w => [.word w.text]
  | quoted q => [.ofText q.text]

end Piece

def glue (ps : List Piece) (tail : Chars) : Chars :=
  ps.flatMap Piece.chars ++ tail

lemma glue_cons (p : Piece) (ps : List Piece) (tail : Chars) :
    glue (p :: ps) tail = p.chars ++ glue ps tail := by
  simp [glue]

/-- Is no word continued by what is behind it? -/
def Separated : List Piece → Chars → Prop
  | [], _ => True
  | .word _ :: ps, tail => EndsWord (glue ps tail) ∧ Separated ps tail
  | _ :: ps, tail => Separated ps tail

/-- A text that is cut where the scan cuts it. In the tail there is no token. -/
structure Cut where
  pieces : List Piece
  tail : Chars
  separated : Separated pieces tail
  no_token : (scanChars tail).1 = []

def Cut.text (c : Cut) : String :=
  String.ofList (glue c.pieces c.tail)

lemma scanChars_glue {ps : List Piece} {tail : Chars} (h : Separated ps tail) :
    scanChars (glue ps tail) =
      (ps.flatMap Piece.tokens ++ (scanChars tail).1, (scanChars tail).2) := by
  induction ps with
  | nil => rfl
  | cons p ps ih =>
    rw [glue_cons, flatMap_cons]
    cases p with
    | blank c hc => exact (scanChars_blank hc _).trans (ih h)
    | opening => exact (scanChars_opening (glue ps tail)).trans (by rw [ih h]; rfl)
    | closing => exact (scanChars_closing (glue ps tail)).trans (by rw [ih h]; rfl)
    | word w => exact (w.scanChars_append h.1).trans (by rw [ih h.2]; rfl)
    | quoted q => exact (q.scanChars_append (glue ps tail)).trans (by rw [ih h]; rfl)

lemma Cut.scan_eq (c : Cut) :
    scan c.text = (c.pieces.flatMap Piece.tokens, (scanChars c.tail).2) := by
  rw [scan, Cut.text, String.toList_ofList, scanChars_glue c.separated, c.no_token, append_nil]

/-! ## Every text has a cut -/

lemma takeQuoted_eq_some {q prev : Char} {cs content rest : Chars}
    (h : takeQuoted q prev cs = some (content, rest)) :
    cs = content ++ q :: rest ∧ takeQuoted q prev (content ++ [q]) = some (content, []) := by
  induction cs generalizing prev content with
  | nil => cases h
  | cons c cs ih =>
    rw [takeQuoted] at h
    split at h
    · next hc =>
      obtain ⟨rfl, rfl⟩ : [] = content ∧ cs = rest := by simpa using h
      exact ⟨by simp [hc.1], by simp [takeQuoted, hc.2]⟩
    · next hc =>
      obtain ⟨⟨content', rest'⟩, htake, e⟩ := Option.map_eq_some_iff.1 h
      obtain ⟨rfl, rfl⟩ : c :: content' = content ∧ rest' = rest := by simpa using e
      obtain ⟨rfl, hclose⟩ := ih htake
      exact ⟨rfl, by simp [takeQuoted, hc, hclose]⟩

/-- What is left of a text where its scan ends: nothing, a quote that is not closed, or a character
that begins no token. -/
def Leaves (tail : Chars) : ScanEnd → Prop
  | .finished => tail = []
  | .unclosedQuote => ∃ q rest, tail = q :: rest ∧ IsQuote q ∧ takeQuoted q q rest = none
  | .stuck => ∃ c rest, tail = c :: rest ∧ (c = '(' ∨ c = '$' ∧ rest.head? ≠ some '(')

lemma Leaves.scanChars_eq {tail : Chars} {e : ScanEnd} (h : Leaves tail e) :
    scanChars tail = ([], e) := by
  cases e with
  | finished => rw [show tail = [] from h, scanChars_nil]
  | unclosedQuote =>
    obtain ⟨q, cs, rfl, hq, hnone⟩ := h
    obtain ⟨hblank, hdollar, hclosing, -⟩ := hq.cases
    rw [scanChars.eq_def]
    dsimp only
    rw [if_neg (by simp [hblank]), if_neg (by simp [hdollar]), if_neg hclosing, if_pos hq]
    split
    · rfl
    · next hsome => simp [hnone] at hsome
  | stuck =>
    obtain ⟨c, cs, rfl, rfl | ⟨rfl, hhead⟩⟩ := h
    · rw [scanChars.eq_def]
      rfl
    · rw [scanChars.eq_def]
      dsimp only
      rw [if_neg (by decide), if_neg (by simp [hhead]), if_neg (by decide), if_neg (by decide),
        if_neg (by decide)]

lemma leaves_stuck {c : Char} {cs : Chars} (hblank : ¬ Text.isBlank c)
    (hopening : ¬ (c = '$' ∧ cs.head? = some '(')) (hclosing : c ≠ ')') (hc : ¬ isWordChar c) :
    Leaves (c :: cs) .stuck := by
  refine ⟨c, cs, rfl, ?_⟩
  by_cases hdollar : c = '$'
  · exact .inr ⟨hdollar, fun hhead => hopening ⟨hdollar, hhead⟩⟩
  · exact .inl (by simpa [isWordChar, hblank, hdollar, hclosing] using hc)

def PlainWord.ofCons (c : Char) (hc : isWordChar c) (hq : ¬ IsQuote c) (cs : Chars) :
    PlainWord where
  chars := c :: cs.takeWhile isWordChar
  ne_nil := cons_ne_nil _ _
  plain := forall_mem_cons.2 ⟨hc, all_eq_true.1 all_takeWhile⟩
  unquoted := by simpa using hq

lemma endsWord_dropWhile (cs : Chars) : EndsWord (cs.dropWhile isWordChar) := by
  intro c hc
  have hhead := List.head?_dropWhile_not isWordChar cs
  rw [show (cs.dropWhile isWordChar).head? = some c from hc] at hhead
  simpa using hhead

lemma exists_glue_cons {p : Piece} {cs : Chars} (hp : ∀ w, p ≠ .word w)
    (h : ∃ ps tail e, Separated ps tail ∧ Leaves tail e ∧ glue ps tail = cs) :
    ∃ ps tail e, Separated ps tail ∧ Leaves tail e ∧ glue ps tail = p.chars ++ cs := by
  obtain ⟨ps, tail, e, hsep, htail, rfl⟩ := h
  refine ⟨p :: ps, tail, e, ?_, htail, glue_cons _ _ _⟩
  cases p with
  | word w => exact absurd rfl (hp w)
  | _ => exact hsep

lemma exists_glue (s : Chars) :
    ∃ ps tail e, Separated ps tail ∧ Leaves tail e ∧ glue ps tail = s := by
  -- What is behind a piece is shorter than the text, and no piece is empty.
  induction hn : s.length using Nat.strongRecOn generalizing s with
  | _ n ih =>
  subst hn
  have shorter (cs : Chars) (h : cs.length < s.length) := ih _ h cs rfl
  have whole {e : ScanEnd} (h : Leaves s e) :
      ∃ ps tail e, Separated ps tail ∧ Leaves tail e ∧ glue ps tail = s :=
    ⟨[], s, e, trivial, h, rfl⟩
  cases s with
  | nil => exact whole (e := .finished) rfl
  | cons c cs =>
    by_cases hblank : Text.isBlank c
    · exact exists_glue_cons (p := .blank c hblank) nofun (shorter cs (by simp))
    by_cases hopening : c = '$' ∧ cs.head? = some '('
    · obtain ⟨rfl, hhead⟩ := hopening
      obtain ⟨rest, rfl⟩ := List.head?_eq_some_iff.1 hhead
      exact exists_glue_cons (p := .opening) nofun
        (shorter rest (by simp only [length_cons]; omega))
    by_cases hclosing : c = ')'
    · subst hclosing
      exact exists_glue_cons (p := .closing) nofun (shorter cs (by simp))
    by_cases hq : IsQuote c
    · cases htake : takeQuoted c c cs with
      | none => exact whole (e := .unclosedQuote) ⟨c, cs, rfl, hq, htake⟩
      | some taken =>
        obtain ⟨content, rest⟩ := taken
        obtain ⟨rfl, hcloses⟩ := takeQuoted_eq_some htake
        have hcut := exists_glue_cons (p := .quoted ⟨c, content, hq, hcloses⟩) nofun
          (shorter rest (by simp only [length_cons, length_append]; omega))
        simpa [Piece.chars, Quotation.chars] using hcut
    by_cases hc : isWordChar c
    · obtain ⟨ps, tail, e, hsep, htail, hglue⟩ := shorter (cs.dropWhile isWordChar)
        (Nat.lt_succ_of_le (length_dropWhile_le _ _))
      refine ⟨.word (.ofCons c hc hq cs) :: ps, tail, e, ⟨?_, hsep⟩, htail, ?_⟩
      · rw [hglue]
        exact endsWord_dropWhile cs
      · simp [glue_cons, hglue, Piece.chars, PlainWord.ofCons, takeWhile_append_dropWhile]
    · exact whole (leaves_stuck hblank hopening hclosing hc)

lemma exists_cut (s : String) : ∃ c : Cut, c.text = s := by
  obtain ⟨ps, tail, e, hsep, htail, hglue⟩ := exists_glue s.toList
  exact ⟨⟨ps, tail, hsep, by rw [htail.scanChars_eq]⟩, by simp [Cut.text, hglue]⟩

/-! ## Other texts between the quotes -/

/-- The same pieces, up to what stands between quotes. -/
inductive Requotes : List Piece → List Piece → Prop
  | nil : Requotes [] []
  | same (p : Piece) {ps qs : List Piece} : Requotes ps qs → Requotes (p :: ps) (p :: qs)
  | quoted {p q : Quotation} {ps qs : List Piece} : p.quote = q.quote → Requotes ps qs →
    Requotes (.quoted p :: ps) (.quoted q :: qs)

namespace Requotes

variable {ps qs : List Piece} {tail : Chars}

lemma head?_glue (h : Requotes ps qs) : (glue ps tail).head? = (glue qs tail).head? := by
  induction h with
  | nil => rfl
  | same p _ ih => rw [glue_cons, glue_cons, List.head?_append, List.head?_append, ih]
  | quoted hquote _ _ => simp [glue_cons, Piece.chars, Quotation.chars, hquote]

lemma separated (h : Requotes ps qs) (hsep : Separated ps tail) : Separated qs tail := by
  induction h with
  | nil => trivial
  | same p h ih =>
    cases p with
    | word w =>
      refine ⟨?_, ih hsep.2⟩
      have hends := hsep.1
      rwa [EndsWord, h.head?_glue] at hends
    | _ => exact ih hsep
  | quoted _ _ ih => exact ih hsep

end Requotes

/-- The text with other pieces between the quotes. -/
def Cut.requote (c : Cut) {qs : List Piece} (h : Requotes c.pieces qs) : Cut where
  pieces := qs
  tail := c.tail
  separated := h.separated c.separated
  no_token := c.no_token

end Launchpad.Substitution
