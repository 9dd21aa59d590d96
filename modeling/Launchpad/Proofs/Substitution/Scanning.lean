import Launchpad.Substitution.Token
import Mathlib.Tactic.Lemma

/-!
What the scan makes of the parts of a text: one equation for each of marks, blanks, plain words and
quoted texts, with any text behind it. Only a plain word asks for something of the text behind it,
which must not continue the word.
-/

namespace Launchpad.Substitution

open List

variable {c q : Char} {s rest cs content : Chars}

/-- Does a text begin with nothing that could continue a word? -/
def EndsWord (s : Chars) : Prop :=
  ∀ c ∈ s.head?, isWordChar c = false

abbrev IsQuote (c : Char) : Prop :=
  c = '"' ∨ c = '\''

lemma endsWord_nil : EndsWord [] :=
  nofun

lemma endsWord_cons (h : isWordChar c = false) : EndsWord (c :: s) := by
  rintro d hd
  obtain rfl : c = d := by simpa using hd
  exact h

lemma EndsWord.append (h : EndsWord s) (hrest : EndsWord rest) : EndsWord (s ++ rest) := by
  cases s with
  | nil => exact hrest
  | cons c s => exact endsWord_cons (h c rfl)

lemma isWordChar_of_isBlank (h : Text.isBlank c) : isWordChar c = false := by
  simp [isWordChar, h]

lemma isBlank_of_isWordChar (h : isWordChar c) : Text.isBlank c = false := by
  simp only [isWordChar, Bool.and_eq_true, Bool.not_eq_true'] at h
  exact h.1.1.1

lemma ne_of_isWordChar {d : Char} (h : isWordChar c) (hd : isWordChar d = false) : c ≠ d := by
  rintro rfl
  rw [h] at hd
  cases hd

/-! ## One step of the scan -/

lemma scanChars_nil : scanChars [] = ([], .finished) := by
  rw [scanChars.eq_def]

lemma scanChars_blank (h : Text.isBlank c) (cs : Chars) : scanChars (c :: cs) = scanChars cs := by
  rw [scanChars.eq_def]
  exact if_pos h

lemma scanChars_opening (cs : Chars) :
    scanChars ('$' :: '(' :: cs) = (.opening :: (scanChars cs).1, (scanChars cs).2) := by
  rw [scanChars.eq_def]
  dsimp only
  rw [if_neg (by decide), if_pos ⟨rfl, rfl⟩]
  rfl

lemma scanChars_closing (cs : Chars) :
    scanChars (')' :: cs) = (.closing :: (scanChars cs).1, (scanChars cs).2) := by
  rw [scanChars.eq_def]
  dsimp only
  rw [if_neg (by decide), if_neg (by simp), if_pos rfl]

lemma IsQuote.cases (h : IsQuote q) : Text.isBlank q = false ∧ q ≠ '$' ∧ q ≠ ')' ∧ q ≠ '\\' := by
  rcases h with rfl | rfl <;> decide

lemma scanChars_quoted (hq : IsQuote q) (h : takeQuoted q q cs = some (content, rest)) :
    scanChars (q :: cs) =
      (.ofText (String.ofList content) :: (scanChars rest).1, (scanChars rest).2) := by
  obtain ⟨hblank, hdollar, hclosing, -⟩ := hq.cases
  rw [scanChars.eq_def]
  dsimp only
  rw [if_neg (by simp [hblank]), if_neg (by simp [hdollar]), if_neg hclosing, if_pos hq]
  split
  · next hnone => simp [h] at hnone
  · next hsome =>
    obtain ⟨rfl, rfl⟩ : content = _ ∧ rest = _ := by simpa [h] using hsome
    rfl

lemma scanChars_word (hc : isWordChar c) (hq : ¬ IsQuote c) (cs : Chars) : scanChars (c :: cs) =
      (.word (String.ofList (c :: cs.takeWhile isWordChar)) ::
        (scanChars (cs.dropWhile isWordChar)).1, (scanChars (cs.dropWhile isWordChar)).2) := by
  have hblank : ¬ Text.isBlank c := by simp [isBlank_of_isWordChar hc]
  have hdollar : c ≠ '$' := ne_of_isWordChar hc rfl
  have hclosing : c ≠ ')' := ne_of_isWordChar hc rfl
  rw [scanChars.eq_def]
  dsimp only
  rw [if_neg hblank, if_neg (by simp [hdollar]), if_neg hclosing, if_neg hq, if_pos hc]

/-! ## Parts of a text -/

lemma scanChars_blanks (h : ∀ c ∈ s, Text.isBlank c) (rest : Chars) :
    scanChars (s ++ rest) = scanChars rest := by
  induction s with
  | nil => rfl
  | cons c s ih =>
    obtain ⟨hc, hs⟩ := forall_mem_cons.1 h
    rw [cons_append, scanChars_blank hc]
    exact ih hs

lemma span_append (hcs : ∀ c ∈ cs, isWordChar c) (hrest : EndsWord rest) :
    (cs ++ rest).takeWhile isWordChar = cs ∧ (cs ++ rest).dropWhile isWordChar = rest := by
  rw [takeWhile_append_of_pos hcs, dropWhile_append_of_pos hcs]
  cases rest with
  | nil => simp
  | cons d rest => simp [hrest d rfl]

/-- A word that stands for itself. -/
structure PlainWord where
  chars : Chars
  ne_nil : chars ≠ []
  plain : ∀ c ∈ chars, isWordChar c
  unquoted : ∀ c ∈ chars.head?, ¬ IsQuote c

namespace PlainWord

def text (w : PlainWord) : String :=
  String.ofList w.chars

lemma scanChars_append (w : PlainWord) {rest : Chars} (hrest : EndsWord rest) :
    scanChars (w.chars ++ rest) = (.word w.text :: (scanChars rest).1, (scanChars rest).2) := by
  obtain ⟨chars, hne, hplain, hquote⟩ := w
  cases chars with
  | nil => exact absurd rfl hne
  | cons c cs =>
    obtain ⟨hc, hcs⟩ := forall_mem_cons.1 hplain
    obtain ⟨htake, hdrop⟩ := span_append hcs hrest
    rw [cons_append, scanChars_word hc (hquote c rfl), htake, hdrop]
    rfl

end PlainWord

/-- Does a text end at the first quote behind it? A quote inside is not the end if a backslash is
before it. -/
def Closes (q : Char) (content : Chars) : Prop :=
  takeQuoted q q (content ++ [q]) = some (content, [])

instance (q : Char) (content : Chars) : Decidable (Closes q content) :=
  inferInstanceAs (Decidable (_ = _))

lemma takeQuoted_append {prev : Char} {a b : Chars} (h : takeQuoted q prev cs = some (a, b))
    (rest : Chars) : takeQuoted q prev (cs ++ rest) = some (a, b ++ rest) := by
  induction cs generalizing prev a b with
  | nil => cases h
  | cons c cs ih =>
    simp only [cons_append, takeQuoted] at h ⊢
    split at h
    · next hc =>
      obtain ⟨rfl, rfl⟩ : [] = a ∧ cs = b := by simpa using h
      rw [if_pos hc]
    · next hc =>
      obtain ⟨⟨a', b'⟩, hab, e⟩ := Option.map_eq_some_iff.1 h
      obtain ⟨rfl, rfl⟩ : c :: a' = a ∧ b' = b := by simpa using e
      rw [if_neg hc, ih hab]
      rfl

/-- A text without the quote, whose last character is no backslash, ends at the quote behind it. -/
lemma takeQuoted_of_not_mem {prev : Char} (hq : q ∉ content)
    (hlast : (prev :: content).getLast? ≠ some '\\') :
    takeQuoted q prev (content ++ [q]) = some (content, []) := by
  induction content generalizing prev with
  | nil =>
    have hprev : prev ≠ '\\' := by simpa using hlast
    simp [takeQuoted, hprev]
  | cons c content ih =>
    obtain ⟨hc, hcontent⟩ : ¬ q = c ∧ q ∉ content := by simpa using hq
    have hlast' : (c :: content).getLast? ≠ some '\\' := by simpa using hlast
    simp [takeQuoted, Ne.symm hc, ih hcontent hlast']

lemma closes_of_not_mem (hq : IsQuote q) (hmem : q ∉ content)
    (hlast : content.getLast? ≠ some '\\') : Closes q content := by
  refine takeQuoted_of_not_mem hmem ?_
  cases content with
  | nil => simpa using hq.cases.2.2.2
  | cons c content => simpa using hlast

/-- A text in quotes, of which the scan takes all that is between the quotes. -/
structure Quotation where
  quote : Char
  content : Chars
  isQuote : IsQuote quote
  closes : Closes quote content

namespace Quotation

def chars (q : Quotation) : Chars :=
  q.quote :: q.content ++ [q.quote]

def text (q : Quotation) : String :=
  String.ofList q.content

lemma scanChars_append (q : Quotation) (rest : Chars) :
    scanChars (q.chars ++ rest) = (.ofText q.text :: (scanChars rest).1, (scanChars rest).2) := by
  have htake := takeQuoted_append q.closes rest
  exact scanChars_quoted q.isQuote htake

end Quotation

end Launchpad.Substitution
