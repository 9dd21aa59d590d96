import Launchpad.Proofs.Substitution.Cut
import Launchpad.Proofs.Substitution.Nesting
import Mathlib.Logic.Function.Iterate

/-!
When the reading of a substitution text ends. Tokens are read one at a time, each as soon as it is
scanned, so that a closing mark too many ends the reading before the scan comes to what is behind it.
On a character that begins no token the scan gives an empty word and stays where it is: with no error
before, it gives empty words forever.
-/

namespace Launchpad.Substitution

open List

open Reading

variable {depth : Nat} {ts : List Token}

/-- A reading in progress and the text that is still to be scanned. -/
structure Scanner where
  rest : Chars
  reading : Reading

inductive Turn where
  | running (l : Scanner)
  | halted (r : Except FormError (List Form))

def Turn.of (rest : Chars) : Except FormError Reading → Turn
  | .error e => .halted (.error e)
  | .ok r => .running ⟨rest, r⟩

/-- One turn of the loop that scans and reads. -/
def Scanner.turn (l : Scanner) : Turn :=
  match l.rest with
  | [] => .halted (if l.reading.outer.isEmpty then .ok l.reading.current.reverse
      else .error .unbalancedOpening)
  | c :: cs =>
    if Text.isBlank c then .running { l with rest := cs }
    else if c = '$' ∧ cs.head? = some '(' then .of cs.tail (l.reading.push .opening)
    else if c = ')' then .of cs (l.reading.push .closing)
    else if IsQuote c then
      match takeQuoted c c cs with
      | none => .halted (.error .unclosedQuote)
      | some (a, rest) => .of rest (l.reading.push (.ofText (String.ofList a)))
    else .of ((c :: cs).dropWhile isWordChar)
      (l.reading.push (.word (String.ofList ((c :: cs).takeWhile isWordChar))))

def Turn.next : Turn → Turn
  | .running l => l.turn
  | .halted r => .halted r

def turns (s : String) (n : Nat) : Turn :=
  Turn.next^[n] (.running ⟨s.toList, {}⟩)

lemma turns_add (s : String) (m n : Nat) : turns s (m + n) = Turn.next^[n] (turns s m) := by
  rw [turns, Nat.add_comm, Function.iterate_add_apply, turns]

lemma turns_of_le {s : String} {m n : Nat} {r : Except FormError (List Form)} (hmn : m ≤ n)
    (h : turns s m = .halted r) : turns s n = .halted r := by
  obtain ⟨k, rfl⟩ := Nat.exists_eq_add_of_le hmn
  rw [turns_add, h, Function.iterate_fixed (show Turn.next (.halted r) = .halted r from rfl)]

/-! ## The turns for one text -/

lemma turn_piece {p : Piece} {rest : Chars} (hends : ∀ w, p = .word w → EndsWord rest)
    (r : Reading) : Scanner.turn ⟨p.chars ++ rest, r⟩ = .of rest (r.pushAll p.tokens) := by
  have hone (t : Token) : r.pushAll [t] = r.push t := by
    rw [pushAll]
    cases r.push t <;> rfl
  cases p with
  | blank c hc => simp [Scanner.turn, Piece.chars, Piece.tokens, hc, pushAll, Turn.of]
  | opening => rfl
  | closing => rw [Piece.tokens, hone]; rfl
  | word w =>
    obtain ⟨htake, hdrop⟩ := span_append w.plain (hends w rfl)
    obtain ⟨cs, hne, hplain, hquote⟩ := w
    obtain ⟨c, cs, rfl⟩ := exists_cons_of_ne_nil hne
    have hc : isWordChar c := hplain c mem_cons_self
    have hdollar : c ≠ '$' := ne_of_isWordChar hc rfl
    simp only [Scanner.turn, Piece.chars, cons_append] at htake hdrop ⊢
    rw [if_neg (by simp [isBlank_of_isWordChar hc]), if_neg (by simp [hdollar]),
      if_neg (ne_of_isWordChar hc rfl), if_neg (hquote c rfl), htake, hdrop]
    rfl
  | quoted q =>
    obtain ⟨hblank, hdollar, hclosing, -⟩ := q.isQuote.cases
    have htake := takeQuoted_append q.closes rest
    rw [Piece.tokens, hone]
    simp only [Scanner.turn, Piece.chars, Quotation.chars, cons_append]
    rw [if_neg (by simp [hblank]), if_neg (by simp [hdollar]), if_neg hclosing, if_pos q.isQuote,
      htake]
    rfl

lemma next_iterate_pieces {ps : List Piece} {tail : Chars} (h : Separated ps tail)
    (r : Reading) : Turn.next^[ps.length] (.running ⟨glue ps tail, r⟩) =
      .of tail (r.pushAll (ps.flatMap Piece.tokens)) := by
  induction ps generalizing r with
  | nil => rfl
  | cons p ps ih =>
    have hends : (∀ w, p = .word w → EndsWord (glue ps tail)) ∧ Separated ps tail := by
      cases p with
      | word w => exact ⟨fun _ _ => h.1, h.2⟩
      | _ => exact ⟨fun _ => Piece.noConfusion, h⟩
    rw [length_cons, Function.iterate_succ_apply, glue_cons, Turn.next, turn_piece hends.1,
      flatMap_cons, pushAll_append]
    cases hpush : r.pushAll p.tokens with
    | error e => exact Function.iterate_fixed (show Turn.next (.halted _) = .halted _ from rfl) _
    | ok r' => exact ih hends.2 r'

/-! ## Marks that do not balance -/

/-- Some first tokens have more closing marks than opening ones, with so many forms open before. -/
def Overclosed (depth : Nat) (ts : List Token) : Prop :=
  ∃ us, us <+: ts ∧ depth + us.count .opening < us.count .closing

lemma overclosed_cons {t : Token} :
    Overclosed depth (t :: ts) ↔ ∃ us, us <+: ts ∧
      depth + (t :: us).count .opening < (t :: us).count .closing := by
  constructor
  · rintro ⟨us, hus, hlt⟩
    cases us with
    | nil => exact absurd hlt (Nat.not_lt_zero _)
    | cons u us =>
      obtain ⟨rfl, hprefix⟩ := cons_prefix_cons.1 hus
      exact ⟨us, hprefix, hlt⟩
  · rintro ⟨us, hus, hlt⟩
    exact ⟨t :: us, cons_prefix_cons.2 ⟨rfl, hus⟩, hlt⟩

lemma overclosed_opening : Overclosed depth (.opening :: ts) ↔ Overclosed (depth + 1) ts := by
  rw [overclosed_cons]
  simp [Overclosed, Nat.add_right_comm, Nat.add_assoc]

lemma overclosed_word {s : String} : Overclosed depth (.word s :: ts) ↔ Overclosed depth ts := by
  rw [overclosed_cons]
  simp [Overclosed]

lemma overclosed_closing : Overclosed (depth + 1) (.closing :: ts) ↔ Overclosed depth ts := by
  rw [overclosed_cons]
  simp [Overclosed, Nat.add_right_comm]

/-- A reading fails at a closing mark too many, and only there. -/
lemma pushAll_cases (r : Reading) (ts : List Token) :
    (r.pushAll ts = .error .unbalancedClosing ∧ Overclosed r.outer.length ts) ∨
    ∃ r', r.pushAll ts = .ok r' ∧ ¬ Overclosed r.outer.length ts ∧
      r'.outer.length + ts.count .closing = r.outer.length + ts.count .opening := by
  induction ts generalizing r with
  | nil => exact .inr ⟨r, rfl, by simp [Overclosed], by simp⟩
  | cons t ts ih =>
    rw [pushAll]
    cases t with
    | opening =>
      have hrest := ih { current := [], outer := r.current :: r.outer, keyNext := true }
      simpa [push, overclosed_opening, Nat.add_right_comm, Nat.add_assoc] using hrest
    | word s => simpa [push, overclosed_word] using ih _
    | closing =>
      rcases hr : r.outer with - | ⟨o, os⟩
      · refine .inl ⟨by simp [push, hr], overclosed_cons.2 ⟨[], nil_prefix, ?_⟩⟩
        simp
      · have hrest := ih { r with current := .items r.current.reverse :: o, outer := os }
        simpa [push, hr, overclosed_closing, Nat.add_right_comm, ← Nat.add_assoc] using hrest

/-! ## The end of a reading -/

/-- The way of the scan through a text, up to where it ends. -/
structure Way (s : String) where
  pieces : List Piece
  tail : Chars
  stop : ScanEnd
  text_eq : s.toList = glue pieces tail
  separated : Separated pieces tail
  leaves : Leaves tail stop

namespace Way

variable {s : String}

lemma nonempty (s : String) : Nonempty (Way s) := by
  obtain ⟨ps, tail, e, hsep, htail, hglue⟩ := exists_glue s.toList
  exact ⟨⟨ps, tail, e, hglue.symm, hsep, htail⟩⟩

def tokens (w : Way s) : List Token :=
  w.pieces.flatMap Piece.tokens

lemma parse_eq (w : Way s) : parse s = match pushAll {} w.tokens with
    | .error f => .error f
    | .ok r => match w.stop with
      | .unclosedQuote => .error .unclosedQuote
      | .stuck => .error .endless
      | .finished =>
        if r.outer.isEmpty then .ok r.current.reverse else .error .unbalancedOpening := by
  have hscan : scan s = (w.tokens, w.stop) := by
    rw [scan, w.text_eq, scanChars_glue w.separated, w.leaves.scanChars_eq, append_nil]
    rfl
  unfold parse
  exact hscan ▸ rfl

lemma turns_pieces (w : Way s) : turns s w.pieces.length = .of w.tail (pushAll {} w.tokens) := by
  rw [turns, w.text_eq]
  exact next_iterate_pieces w.separated {}

lemma turn_stuck {tail : Chars} (h : Leaves tail .stuck) (r : Reading) :
    ∃ r', Scanner.turn ⟨tail, r⟩ = .running ⟨tail, r'⟩ := by
  obtain ⟨c, cs, rfl, rfl | ⟨rfl, hhead⟩⟩ := h
  · exact ⟨_, rfl⟩
  · refine ⟨{ r with current := .word (if r.keyNext then "$" ++ "" else "") :: r.current
                     keyNext := false }, ?_⟩
    simp only [Scanner.turn]
    rw [if_neg (by decide), if_neg (by simp [hhead]), if_neg (by decide), if_neg (by decide)]
    rfl

lemma turns_endless (w : Way s) (h : parse s = .error .endless) (n : Nat) :
    ∃ l, turns s n = .running l := by
  rw [w.parse_eq] at h
  rcases pushAll_cases {} w.tokens with ⟨herror, -⟩ | ⟨r, hok, -⟩
  · simp [herror] at h
  · have hstop : w.stop = .stuck := by
      rw [hok] at h
      cases hstop : w.stop with
      | stuck => rfl
      | unclosedQuote => simp [hstop] at h
      | finished => rw [hstop] at h; dsimp only at h; split at h <;> simp at h
    have hlater (k : Nat) : ∃ r', turns s (w.pieces.length + k) = .running ⟨w.tail, r'⟩ := by
      induction k with
      | zero => exact ⟨r, by rw [Nat.add_zero, w.turns_pieces, hok]; rfl⟩
      | succ k ih =>
        obtain ⟨r', hr'⟩ := ih
        obtain ⟨r'', hturn⟩ := turn_stuck (hstop ▸ w.leaves) r'
        refine ⟨r'', ?_⟩
        rw [← Nat.add_assoc, turns_add, hr']
        exact hturn
    cases hn : turns s n with
    | running l => exact ⟨l, rfl⟩
    | halted a =>
      obtain ⟨r', hr'⟩ := hlater n
      rw [turns_of_le (Nat.le_add_left _ _) hn] at hr'
      cases hr'

lemma turns_halted (w : Way s) (h : parse s ≠ .error .endless) :
    turns s (w.pieces.length + 1) = .halted (parse s) := by
  rw [turns_add, w.turns_pieces]
  rw [w.parse_eq] at h ⊢
  rcases pushAll_cases {} w.tokens with ⟨herror, -⟩ | ⟨r, hok, -⟩
  · rw [herror]
    rfl
  · rw [hok] at h ⊢
    have hleaves := w.leaves
    cases hstop : w.stop with
    | stuck => simp [hstop] at h
    | finished =>
      rw [hstop] at hleaves
      rw [show w.tail = [] from hleaves]
      rfl
    | unclosedQuote =>
      rw [hstop] at hleaves
      obtain ⟨q, cs, htail, hq, hnone⟩ := hleaves
      obtain ⟨hblank, hdollar, hclosing, -⟩ := hq.cases
      rw [htail]
      simp only [Turn.of, Turn.next, Function.iterate_one, Scanner.turn, hnone]
      rw [if_neg (by simp [hblank]), if_neg (by simp [hdollar]), if_neg hclosing, if_pos hq]

lemma exists_turns_iff (s : String) (r : Except FormError (List Form)) :
    (∃ n, turns s n = .halted r) ↔ parse s = r ∧ r ≠ .error .endless := by
  obtain ⟨w⟩ := Way.nonempty s
  constructor
  · rintro ⟨n, hn⟩
    have hne : parse s ≠ .error .endless := fun h => by
      obtain ⟨l, hl⟩ := w.turns_endless h n
      rw [hn] at hl
      cases hl
    have heq : parse s = r := by
      have hlast := turns_of_le (Nat.le_add_right _ n) (w.turns_halted hne)
      rw [turns_of_le (Nat.le_add_left n _) hn] at hlast
      exact (Turn.halted.inj hlast).symm
    exact ⟨heq, heq ▸ hne⟩
  · rintro ⟨rfl, hne⟩
    exact ⟨_, w.turns_halted hne⟩

lemma running_iff (s : String) :
    (∀ n, ∃ l, turns s n = .running l) ↔ parse s = .error .endless := by
  obtain ⟨w⟩ := Way.nonempty s
  refine ⟨fun h => Classical.byContradiction fun hne => ?_, w.turns_endless⟩
  obtain ⟨l, hl⟩ := h (w.pieces.length + 1)
  rw [w.turns_halted hne] at hl
  cases hl

lemma parse_cases (w : Way s) :
    (parse s = .error .endless ∧ w.stop = .stuck ∧ ¬ Overclosed 0 w.tokens) ∨
    (∃ e m, parse s = .error e ∧ e ≠ .endless ∧ e.fault = .told .invalidValue m ∧
      (Overclosed 0 w.tokens ∨ w.stop = .unclosedQuote ∨
        w.stop = .finished ∧ w.tokens.count .opening ≠ w.tokens.count .closing)) ∨
    (∃ fs, parse s = .ok fs ∧ w.stop = .finished ∧ ¬ Overclosed 0 w.tokens ∧
      w.tokens.count .opening = w.tokens.count .closing) := by
  rw [w.parse_eq]
  rcases pushAll_cases {} w.tokens with ⟨herror, hover⟩ | ⟨r, hok, hover, hcount⟩
  · exact .inr (.inl ⟨.unbalancedClosing, _, by rw [herror], by decide, rfl, .inl hover⟩)
  · rw [hok]
    simp only [length_nil, Nat.zero_add] at hover hcount
    cases w.stop with
    | stuck => exact .inl ⟨rfl, rfl, hover⟩
    | unclosedQuote => exact .inr (.inl ⟨.unclosedQuote, _, rfl, by decide, rfl, .inr (.inl rfl)⟩)
    | finished =>
      cases houter : r.outer with
      | nil =>
        refine .inr (.inr ⟨r.current.reverse, by simp [houter], rfl, hover, ?_⟩)
        simpa [houter] using hcount.symm
      | cons o os =>
        refine .inr (.inl ⟨.unbalancedOpening, _, by simp [houter], by decide, rfl,
          .inr (.inr ⟨rfl, ?_⟩)⟩)
        rw [← hcount, houter, length_cons]
        omega

end Way

/-- When the reading of a text ends, and how. The scan has one way through the text, along which it
gives tokens; a reading that takes the tokens one by one goes on forever if and only if this way ends
at a character that begins no token and no closing mark too many comes before. Otherwise it ends: with
an error if a quote is not closed or the marks do not balance, and with a tree if not. -/
theorem reading_ends (s : String) : Nonempty (Way s) ∧ ∀ w : Way s,
    let endless := w.stop = .stuck ∧ ¬ Overclosed 0 w.tokens
    let faulty := w.stop = .unclosedQuote ∨ Overclosed 0 w.tokens ∨
      w.tokens.count .opening ≠ w.tokens.count .closing
    ((∀ n, ∃ l, turns s n = .running l) ↔ endless) ∧
    ((∃ n e m, turns s n = .halted (.error e) ∧ e.fault = .told .invalidValue m) ↔
      ¬ endless ∧ faulty) ∧
    ((∃ n fs, turns s n = .halted (.ok fs)) ↔ ¬ endless ∧ ¬ faulty) ∧
    ((∀ n, ∃ l, turns s n = .running l) ↔ parse s = .error .endless) ∧
    ∀ r, (∃ n, turns s n = .halted r) ↔ parse s = r ∧ r ≠ .error .endless := by
  refine ⟨Way.nonempty s, fun w => ?_⟩
  intro endless faulty
  have herror : (∃ n e m, turns s n = .halted (.error e) ∧ e.fault = .told .invalidValue m) ↔
      ∃ e m, parse s = .error e ∧ e ≠ .endless ∧ e.fault = .told .invalidValue m := by
    constructor
    · rintro ⟨n, e, m, hn, hfault⟩
      obtain ⟨hparse, hne⟩ := (Way.exists_turns_iff s _).1 ⟨n, hn⟩
      exact ⟨e, m, hparse, fun heq => hne (heq ▸ rfl), hfault⟩
    · rintro ⟨e, m, hparse, hne, hfault⟩
      obtain ⟨n, hn⟩ := (Way.exists_turns_iff s _).2 ⟨hparse, by simpa using hne⟩
      exact ⟨n, e, m, hn, hfault⟩
  have htree : (∃ n fs, turns s n = .halted (.ok fs)) ↔ ∃ fs, parse s = .ok fs := by
    constructor
    · rintro ⟨n, fs, hn⟩
      exact ⟨fs, ((Way.exists_turns_iff s _).1 ⟨n, hn⟩).1⟩
    · rintro ⟨fs, hparse⟩
      obtain ⟨n, hn⟩ := (Way.exists_turns_iff s _).2 ⟨hparse, by simp⟩
      exact ⟨n, fs, hn⟩
  rw [Way.running_iff, herror, htree]
  have hends := Way.exists_turns_iff s
  rcases w.parse_cases with ⟨hparse, hstop, hover⟩ | ⟨e, m, hparse, hne, hfault, hreason⟩ |
    ⟨fs, hparse, hstop, hover, hcount⟩
  · have hendless : endless := ⟨hstop, hover⟩
    refine ⟨by simp [hparse, hendless], ?_, by simp [hparse, hendless], Iff.rfl, hends⟩
    simp only [hparse, Except.error.injEq, hendless, not_true, false_and, iff_false]
    rintro ⟨e, m, rfl, hne, -⟩
    exact hne rfl
  · have hendless : ¬ endless := by
      rintro ⟨hstop, hover⟩
      rcases hreason with h | h | ⟨h, -⟩
      · exact hover h
      all_goals simp [hstop] at h
    have hfaulty : faulty := by
      rcases hreason with h | h | ⟨-, h⟩
      · exact .inr (.inl h)
      · exact .inl h
      · exact .inr (.inr h)
    exact ⟨by simp [hparse, hendless, hne], by simp [hparse, hendless, hfaulty, hne, hfault],
      by simp [hparse, hfaulty], Iff.rfl, hends⟩
  · have hendless : ¬ endless := by
      rintro ⟨h, -⟩
      simp [hstop] at h
    have hfaulty : ¬ faulty := by
      rintro (h | h | h)
      · simp [hstop] at h
      · exact hover h
      · exact h hcount
    exact ⟨by simp [hparse, hendless], by simp [hparse, hfaulty], by simp [hparse, hendless, hfaulty],
      Iff.rfl, hends⟩

end Launchpad.Substitution
