import Launchpad.Proofs.Substitution.Cut
import Launchpad.Proofs.Substitution.Evaluation

/-!
What a text between quotes can change. Two texts that differ in nothing but what stands between
quotes are accepted alike and nest alike, as long as no mark stands between quotes. If also every
key stands outside of quotes, the expansions of both texts call the same handlers in the same order,
whatever these answer, up to a value that begins with a dollar sign at the front of the text. Each
of these conditions is needed.
-/

namespace Launchpad.Substitution

open List

open Piece

lemma map_eq_map {ε α β : Type} {f : α → β} {x y : Except ε α} (h : x.map f = y.map f) :
    (∃ e, x = .error e ∧ y = .error e) ∨ ∃ a b, x = .ok a ∧ y = .ok b ∧ f a = f b := by
  cases x <;> cases y <;> simp_all [Except.map]

/-! ## Nesting without words -/

mutual

def Form.outline : Form → Form
  | .word _ => .word ""
  | .items fs => .items (outlines fs)

def outlines : List Form → List Form
  | [] => []
  | f :: fs => f.outline :: outlines fs

end

lemma outlines_eq_map (fs : List Form) : outlines fs = fs.map Form.outline := by
  induction fs with
  | nil => rfl
  | cons f fs ih => rw [outlines, map_cons, ih]

def Token.kind : Token → Token
  | .word _ => .word ""
  | t => t

def Reading.outline (r : Reading) : Reading :=
  { r with current := outlines r.current, outer := r.outer.map outlines }

namespace Reading

variable {r r' : Reading}

lemma push_outline {t t' : Token} (hr : r.outline = r'.outline) (ht : t.kind = t'.kind) :
    (r.push t).map outline = (r'.push t').map outline := by
  obtain ⟨current, outer, keyNext⟩ := r
  obtain ⟨current', outer', keyNext'⟩ := r'
  obtain ⟨hcurrent, houter, rfl⟩ : outlines current = outlines current' ∧
      outer.map outlines = outer'.map outlines ∧ keyNext = keyNext' := by
    simpa [outline] using hr
  cases t with
  | opening =>
    obtain rfl : t' = .opening := by cases t' <;> simp_all [Token.kind]
    simp [push, Except.map, outline, outlines, hcurrent, houter]
  | word s =>
    obtain ⟨s', rfl⟩ : ∃ s', t' = .word s' := by cases t' <;> simp_all [Token.kind]
    simp [push, Except.map, outline, outlines, Form.outline, hcurrent, houter]
  | closing =>
    obtain rfl : t' = .closing := by cases t' <;> simp_all [Token.kind]
    cases outer with
    | nil =>
      obtain rfl : outer' = [] := by simpa using houter.symm
      rfl
    | cons o os =>
      obtain ⟨o', os', rfl, ho, hos⟩ := map_eq_cons_iff.1 houter.symm
      rw [outlines_eq_map, outlines_eq_map] at hcurrent
      rw [outlines_eq_map, outlines_eq_map] at ho
      simp [push, Except.map, outline, Form.outline, outlines_eq_map, hcurrent, ho, hos]

lemma pushAll_outline {ts us : List Token} (h : ts.map Token.kind = us.map Token.kind)
    (hr : r.outline = r'.outline) : (r.pushAll ts).map outline = (r'.pushAll us).map outline := by
  induction ts generalizing us r r' with
  | nil =>
    obtain rfl : us = [] := by simpa using h.symm
    simpa [pushAll, Except.map] using hr
  | cons t ts ih =>
    obtain ⟨u, us, rfl, hu, hus⟩ := map_eq_cons_iff.1 h.symm
    simp only [pushAll]
    rcases map_eq_map (push_outline hr hu.symm) with ⟨e, ht, hu⟩ | ⟨r₁, r₂, ht, hu, hpush⟩
    · rw [ht, hu]
    · rw [ht, hu]
      exact ih hus.symm hpush

end Reading

variable {s t : String} {known : String → Bool} {log : List Call}

/-- Texts whose tokens differ in their words only are accepted alike, and nest alike. -/
lemma parse_outlines {ts us : List Token} {e : ScanEnd} (hs : scan s = (ts, e))
    (ht : scan t = (us, e)) (h : ts.map Token.kind = us.map Token.kind) :
    (parse s).map outlines = (parse t).map outlines := by
  have hread : (Reading.pushAll {} ts).map Reading.outline =
      (Reading.pushAll {} us).map Reading.outline := Reading.pushAll_outline h rfl
  simp only [parse, hs, ht]
  rcases map_eq_map hread with ⟨f, hts, hus⟩ | ⟨r, r', hts, hus, hr⟩
  · rw [hts, hus]
  · have hcurrent : outlines r.current = outlines r'.current := congrArg Reading.current hr
    have houter : r.outer.isEmpty = r'.outer.isEmpty := by
      have := congrArg (·.outer.isEmpty) hr
      simpa [Reading.outline] using this
    rw [hts, hus]
    cases e with
    | unclosedQuote => rfl
    | stuck => rfl
    | finished =>
      rw [outlines_eq_map, outlines_eq_map] at hcurrent
      simp only [houter]
      split
      · simp [Except.map, outlines_eq_map, hcurrent]
      · rfl

/-! ## Trees without leaves -/

mutual

def Tree.shape : Tree → Tree
  | .leaf _ => .leaf ""
  | .call key args => .call key (shapes args)

def shapes : List Tree → List Tree
  | [] => []
  | t :: ts => t.shape :: shapes ts

end

lemma shapes_eq_map (ts : List Tree) : shapes ts = ts.map Tree.shape := by
  induction ts with
  | nil => rfl
  | cons t ts ih => rw [shapes, map_cons, ih]

mutual

lemma Tree.keys_shape (t : Tree) : t.shape.keys = t.keys := by
  cases t with
  | leaf s => rfl
  | call key args => rw [Tree.shape, Tree.keys, Tree.keys, keysAll_shapes args]

lemma keysAll_shapes (ts : List Tree) : keysAll (shapes ts) = keysAll ts := by
  cases ts with
  | nil => rfl
  | cons t ts => rw [shapes, keysAll, keysAll, t.keys_shape, keysAll_shapes ts]

end

def Mark.shape : Mark → Mark
  | .leaf _ => .leaf ""
  | m => m

namespace Place

def shape (p : Place) : Place :=
  { trees := shapes p.trees, outer := p.outer.map fun e => (e.1, shapes e.2) }

lemma step_shape (p : Place) (m : Mark) : (p.step m).map shape = p.shape.step m.shape := by
  obtain ⟨trees, outer⟩ := p
  cases m with
  | opens key => simp [step, shape, Mark.shape, Except.map, shapes]
  | leaf s => simp [step, shape, Mark.shape, Except.map, shapes, Tree.shape]
  | closes =>
    cases outer with
    | nil => rfl
    | cons e outer =>
      simp [step, shape, Mark.shape, Except.map, shapes_eq_map, Tree.shape]

lemma run_shape (p : Place) (ms : List Mark) :
    (p.run ms).map shape = p.shape.run (ms.map Mark.shape) := by
  induction ms generalizing p with
  | nil => rfl
  | cons m ms ih =>
    have hstep := p.step_shape m
    rw [map_cons, run, run, ← hstep]
    cases p.step m with
    | error e => rfl
    | ok p' => exact ih p'

lemma close_shape (p : Place) (e : ScanEnd) : (p.close e).map shapes = p.shape.close e := by
  cases e with
  | unclosedQuote => rfl
  | stuck => rfl
  | finished =>
    obtain ⟨trees, outer⟩ := p
    cases outer with
    | nil => simp [close, shape, Except.map, shapes_eq_map]
    | cons e outer => rfl

end Place

def readMarks (ms : List Mark) (e : ScanEnd) : Except FormError (List Tree) :=
  (Place.run {} ms).bind (·.close e)

lemma readMarks_shape (ms : List Mark) (e : ScanEnd) :
    (readMarks ms e).map shapes = readMarks (ms.map Mark.shape) e := by
  have hrun : (Place.run {} ms).map Place.shape = Place.run {} (ms.map Mark.shape) :=
    Place.run_shape {} ms
  rw [readMarks, readMarks, ← hrun]
  cases Place.run {} ms with
  | error f => rfl
  | ok p => exact p.close_shape e

/-! ## Pieces as marks -/

def Piece.IsQuotedMark : Piece → Prop
  | .quoted q => q.text = "$(" ∨ q.text = ")"
  | _ => False

instance (p : Piece) : Decidable p.IsQuotedMark :=
  match p with
  | .quoted q => inferInstanceAs (Decidable (q.text = "$(" ∨ q.text = ")"))
  | .blank _ _ | .opening | .closing | .word _ => inferInstanceAs (Decidable False)

lemma Piece.tokens_quoted {q : Quotation} (h : ¬ (quoted q).IsQuotedMark) :
    (quoted q).tokens = [.word q.text] := by
  obtain ⟨hopening, hclosing⟩ := not_or.1 h
  simp [tokens, Token.ofText, hopening, hclosing]

/-- Is there a word without quotes behind each opening mark? The flag tells if an opening mark has
just been there. -/
def KeysPlain : Bool → List Piece → Prop
  | opened, [] => opened = false
  | opened, .blank _ _ :: ps => KeysPlain opened ps
  | _, .word _ :: ps => KeysPlain false ps
  | opened, .opening :: ps => opened = false ∧ KeysPlain true ps
  | opened, .closing :: ps => opened = false ∧ KeysPlain false ps
  | opened, .quoted _ :: ps => opened = false ∧ KeysPlain false ps

/-- The marks of pieces. A word behind an opening mark is its key. -/
def marksOf : Bool → List Piece → List Mark
  | _, [] => []
  | opened, .blank _ _ :: ps => marksOf opened ps
  | opened, .word w :: ps => (if opened then .opens w.text else .leaf w.text) :: marksOf false ps
  | _, .opening :: ps => marksOf true ps
  | _, .closing :: ps => .closes :: marksOf false ps
  | _, .quoted q :: ps => .leaf q.text :: marksOf false ps

lemma tokens_marksOf {opened : Bool} {ps : List Piece} (hkeys : KeysPlain opened ps)
    (hmarks : ∀ p ∈ ps, ¬ p.IsQuotedMark) :
    (marksOf opened ps).flatMap Mark.tokens =
      (if opened then [.opening] else []) ++ ps.flatMap tokens := by
  induction ps generalizing opened with
  | nil =>
    obtain rfl : opened = false := hkeys
    rfl
  | cons p ps ih =>
    obtain ⟨hp, hps⟩ := forall_mem_cons.1 hmarks
    cases p with
    | blank c hc => exact ih hkeys hps
    | word w =>
      have hplain : KeysPlain false ps := hkeys
      have hrest := ih hplain hps
      cases opened <;> simpa [marksOf, Mark.tokens, tokens] using hrest
    | opening =>
      obtain ⟨rfl, hkeys⟩ := hkeys
      simpa [marksOf, tokens] using ih hkeys hps
    | closing =>
      obtain ⟨rfl, hkeys⟩ := hkeys
      simpa [marksOf, Mark.tokens, tokens] using ih hkeys hps
    | quoted q =>
      obtain ⟨rfl, hkeys⟩ := hkeys
      simpa [marksOf, Mark.tokens, tokens_quoted hp] using ih hkeys hps

namespace Requotes

variable {ps qs : List Piece}

lemma kinds_eq (h : Requotes ps qs) (hps : ∀ p ∈ ps, ¬ p.IsQuotedMark)
    (hqs : ∀ q ∈ qs, ¬ q.IsQuotedMark) :
    (ps.flatMap tokens).map Token.kind = (qs.flatMap tokens).map Token.kind := by
  induction h with
  | nil => rfl
  | same p _ ih =>
    have hrest := ih (forall_mem_cons.1 hps).2 (forall_mem_cons.1 hqs).2
    rw [flatMap_cons, flatMap_cons, map_append, map_append, hrest]
  | quoted _ _ ih =>
    obtain ⟨hp, hps⟩ := forall_mem_cons.1 hps
    obtain ⟨hq, hqs⟩ := forall_mem_cons.1 hqs
    rw [flatMap_cons, flatMap_cons, map_append, map_append, ih hps hqs,
      tokens_quoted hp, tokens_quoted hq]
    rfl

lemma keysPlain (h : Requotes ps qs) {opened : Bool} (hkeys : KeysPlain opened ps) :
    KeysPlain opened qs := by
  induction h generalizing opened with
  | nil => exact hkeys
  | same p _ ih =>
    cases p with
    | blank c hc => exact ih hkeys
    | word w =>
      have hplain : KeysPlain false _ := hkeys
      exact ih hplain
    | opening => exact ⟨hkeys.1, ih hkeys.2⟩
    | closing => exact ⟨hkeys.1, ih hkeys.2⟩
    | quoted q => exact ⟨hkeys.1, ih hkeys.2⟩
  | quoted _ _ ih => exact ⟨hkeys.1, ih hkeys.2⟩

lemma marksOf_shape (h : Requotes ps qs) (opened : Bool) :
    (marksOf opened ps).map Mark.shape = (marksOf opened qs).map Mark.shape := by
  induction h generalizing opened with
  | nil => rfl
  | same p _ ih => cases p <;> simp [marksOf, ih]
  | quoted _ _ ih => simp [marksOf, Mark.shape, ih]

end Requotes

lemma Cut.parse_eq (c : Cut) (hkeys : KeysPlain false c.pieces)
    (hmarks : ∀ p ∈ c.pieces, ¬ p.IsQuotedMark) :
    parse c.text = (readMarks (marksOf false c.pieces) (scanChars c.tail).2).map forms := by
  refine parse_of_scan ?_
  rw [c.scan_eq, tokens_marksOf hkeys hmarks]
  rfl

/-! ## The calls of two expansions -/

/-- The calls are those of the keys up to the first unknown one, or fewer if a handler has raised.
-/
def Follows (known : String → Bool) (keys : List String) (log : List Call) : Prop :=
  log.map Call.key <+: keys.takeWhile known ∧
    ((∀ c ∈ log, ∀ e, c.answer ≠ .error e) → log.map Call.key = keys.takeWhile known)

lemma GiveAll.follows {ts : List Tree} {vs : List String} (h : GiveAll known ts log vs) :
    Follows known (keysAll ts) log := by
  obtain ⟨hkeys, hknown⟩ := h.keys_eq
  have htake : (keysAll ts).takeWhile known = keysAll ts := by
    have happend : (keysAll ts ++ []).takeWhile known = keysAll ts ++ [].takeWhile known :=
      takeWhile_append_of_pos hknown
    simpa using happend
  rw [Follows, htake, hkeys]
  exact ⟨prefix_refl _, fun _ => rfl⟩

lemma Halts.follows {keys : List String} {e : Stop} (h : Halts known keys log e) :
    Follows known keys log := by
  obtain ⟨rest, rfl, hend⟩ := h.order
  have hknown : ∀ key ∈ log.map Call.key, known key := by
    simpa using h.calls_known
  rw [Follows, takeWhile_append_of_pos hknown]
  refine ⟨prefix_append _ _, fun hok => ?_⟩
  rcases hend with ⟨key, hkey, hunknown, -⟩ | ⟨c, hc, hraised⟩
  · obtain ⟨rest, rfl⟩ := List.head?_eq_some_iff.1 hkey
    simp [hunknown]
  · exact absurd hraised (hok c (mem_of_getLast? hc) e)

variable {σ τ : Type}

def callsIn (handlers : Handlers (EStateM Stop σ)) (s : String) (st : σ) : List Call :=
  callsOf ((substituteValue (recorded handlers) (.str s)).run ([], st))

lemma callsIn_of_rejected (handlers : Handlers (EStateM Stop σ)) {e : FormError}
    (h : parse s = .error e) (st : σ) : callsIn handlers s st = [] := by
  have hvalue : parseValue (.str s) = .error (.fault e.fault) := by
    rw [parseValue, h]
    rfl
  simp only [callsIn, substituteValue, hvalue]
  rfl

lemma follows_callsIn {handlers : Handlers (EStateM Stop σ)} (hh : Textual handlers)
    {ts : List Tree} (hparse : parse s = .ok (forms ts)) (st : σ)
    (hdollar : ¬ DollarFirst (knows handlers) ts (callsIn handlers s st)) :
    Follows (knows handlers) (keysAll ts) (callsIn handlers s st) := by
  cases ts with
  | nil =>
    have hnone : callsIn handlers s st = [] := by
      rw [callsIn, substituteValue_of_parse _ hparse]
      rfl
    rw [hnone]
    exact ⟨ nil_prefix, fun _ => rfl⟩
  | cons t ts =>
    have hends := ends_substituteValue hh (cons_ne_nil t ts) hparse st
    unfold callsIn at hdollar ⊢
    cases hrun : (substituteValue (recorded handlers) (.str s)).run ([], st) with
    | ok v u =>
      rw [hrun] at hdollar
      obtain ⟨vs, hgives, -⟩ := hends.of_ok hrun hdollar
      exact hgives.follows
    | error e u =>
      rw [hrun] at hdollar
      exact (hends.of_error hrun hdollar).halts.follows

/-- Both texts are rejected for the same reason, and no handler is called; or both are read as trees
that differ in their leaves only, and the calls of both follow the same keys, unless a text begins
with a value that is taken for a key. -/
def CallsAlike (handlers : Handlers (EStateM Stop σ)) (handlers' : Handlers (EStateM Stop τ))
    (s t : String) (st : σ) (st' : τ) : Prop :=
  let log := callsIn handlers s st
  let log' := callsIn handlers' t st'
  (∃ e, parse s = .error e ∧ parse t = .error e ∧ log = [] ∧ log' = []) ∨
    ∃ ts us, parse s = .ok (forms ts) ∧ parse t = .ok (forms us) ∧ shapes ts = shapes us ∧
      (¬ DollarFirst (knows handlers) ts log → ¬ DollarFirst (knows handlers') us log' →
        Follows (knows handlers) (keysAll ts) log ∧ Follows (knows handlers) (keysAll ts) log')

lemma callsAlike_of_parse {handlers : Handlers (EStateM Stop σ)}
    {handlers' : Handlers (EStateM Stop τ)} (hh : Textual handlers) (hh' : Textual handlers')
    (hknown : knows handlers = knows handlers') {r r' : Except FormError (List Tree)}
    (hs : parse s = r.map forms) (ht : parse t = r'.map forms) (h : r.map shapes = r'.map shapes)
    (st : σ) (st' : τ) : CallsAlike handlers handlers' s t st st' := by
  rcases map_eq_map h with ⟨e, rfl, rfl⟩ | ⟨ts, us, rfl, rfl, hshape⟩
  · exact .inl ⟨e, hs, ht, callsIn_of_rejected handlers hs st, callsIn_of_rejected handlers' ht st'⟩
  · have hkeys : keysAll ts = keysAll us := by
      rw [← keysAll_shapes, hshape, keysAll_shapes]
    refine .inr ⟨ts, us, hs, ht, hshape, fun hdollar hdollar' => ⟨?_, ?_⟩⟩
    · exact follows_callsIn hh hs st hdollar
    · rw [hknown, hkeys]
      exact follows_callsIn hh' ht st' hdollar'

/-- Every text has a cut, and what stands between its quotes can be replaced. As long as no mark
stands between quotes, the texts are accepted alike and nest alike. If also each key stands outside
of quotes, the same handlers are called in the same order, whatever they answer. -/
theorem alike_of_requotes (s : String) :
    (∃ c : Cut, c.text = s) ∧
      ∀ (c : Cut) (qs : List Piece) (h : Requotes c.pieces qs), c.text = s →
        (∀ p ∈ c.pieces, ¬ p.IsQuotedMark) → (∀ q ∈ qs, ¬ q.IsQuotedMark) →
        (parse s).map outlines = (parse (c.requote h).text).map outlines ∧
          (KeysPlain false c.pieces →
            ∀ (handlers : Handlers (EStateM Stop σ)) (handlers' : Handlers (EStateM Stop τ)),
              Textual handlers → Textual handlers' → knows handlers = knows handlers' →
              ∀ st st', CallsAlike handlers handlers' s (c.requote h).text st st') := by
  refine ⟨exists_cut s, ?_⟩
  rintro c qs h rfl hps hqs
  refine ⟨parse_outlines c.scan_eq (c.requote h).scan_eq (h.kinds_eq hps hqs), fun hkeys => ?_⟩
  intro handlers handlers' hh hh' hknown st st'
  refine callsAlike_of_parse hh hh' hknown (c.parse_eq hkeys hps)
    ((c.requote h).parse_eq (h.keysPlain hkeys) hqs) ?_ st st'
  rw [readMarks_shape, readMarks_shape]
  exact congrArg (readMarks · _) (h.marksOf_shape false)

/-- A search for something between quotes, below a directory that is an argument. -/
def searchPieces (sought : Quotation) : List Piece :=
  [.opening, .word .find, .blank ' ' rfl, .quoted sought, .blank ' ' rfl, .opening, .word .arg,
    .blank ' ' rfl, .word .dir, .closing, .closing]

def Cut.search (sought : Quotation) : Cut where
  pieces := searchPieces sought
  tail := []
  separated := ⟨endsWord_cons rfl, endsWord_cons rfl, endsWord_cons rfl, trivial⟩
  no_token := by rw [scanChars_nil]

lemma requotes_search {p q : Quotation} (h : p.quote = q.quote) :
    Requotes (searchPieces p) (searchPieces q) :=
  .same _ <| .same _ <| .same _ <| .quoted h <| .same _ <| .same _ <| .same _ <| .same _ <|
    .same _ <| .same _ <| .same _ .nil

/-- Between the quotes there is a whole substitution, and the handlers answer with marks: what is
called remains the same. -/
theorem alike_of_requotes_search :
    let sought : Quotation := ⟨'\'', ['a', ' ', 'b'], by decide, by decide⟩
    let sought' : Quotation := ⟨'\'', "$(arg d)".toList, by decide, by decide⟩
    let s := "$(find 'a b' $(arg d))"
    let t := "$(find '$(arg d)' $(arg d))"
    let handlers := answering [("find", "f"), ("arg", "$find")]
    let handlers' := answering [("find", ")"), ("arg", "$(")]
    (Cut.search sought).text = s ∧ (Cut.search sought').text = t ∧
      (parse s).map outlines = (parse t).map outlines ∧ CallsAlike handlers handlers' s t () () ∧
      (callsIn handlers s ()).map Call.key = ["arg", "find"] ∧
      (callsIn handlers' t ()).map Call.key = ["arg", "find"] := by
  intro sought sought' s t handlers handlers'
  have hmarks (q : Quotation) (hq : ¬ (quoted q).IsQuotedMark) :
      ∀ p ∈ searchPieces q, ¬ p.IsQuotedMark := by
    simpa [searchPieces, IsQuotedMark] using hq
  have hkeys : KeysPlain false (searchPieces sought) := by simp [searchPieces, KeysPlain]
  have hknown : knows handlers = knows handlers' := by
    funext key
    simp only [knows, handlers, handlers', answering, lookup_cons, lookup_nil]
    cases key == "find" <;> cases key == "arg" <;> rfl
  obtain ⟨-, halike⟩ := alike_of_requotes (σ := Unit) (τ := Unit) s
  obtain ⟨hparse, hcalls⟩ := halike (Cut.search sought) _ (requotes_search (q := sought') rfl) rfl
    (hmarks _ (by decide)) (hmarks _ (by decide))
  exact ⟨by decide, by decide, hparse, hcalls hkeys _ _ (textual_answering _)
    (textual_answering _) hknown () (), by decide +kernel, by decide +kernel⟩

/-- A mark between quotes is a mark, a key between quotes is a key, and a text that begins with a
dollar sign is a key at the front of a text, whether it stands between quotes or is an answer. -/
theorem quoted_text_taken_for_code :
    parse "x '-' y" = .ok [.word "x", .word "-", .word "y"] ∧
      parse "x ')' y" = .error .unbalancedClosing ∧
      (callsIn (answering [("env", "e")]) "$('env' HOME)" ()).map Call.key = ["env"] ∧
      (callsIn (answering [("env", "e")]) "$('arg' HOME)" ()).map Call.key = [] ∧
      (callsIn (answering [("env", "e")]) "'$env' HOME" ()).map Call.key = ["env"] ∧
      (callsIn (answering [("env", "e")]) "'env' HOME" ()).map Call.key = [] ∧
      (callsIn (answering [("env", "e"), ("arg", "$env")]) "$(arg a) HOME" ()).map Call.key =
        ["arg", "env"] ∧
      (callsIn (answering [("env", "e"), ("arg", "env")]) "$(arg a) HOME" ()).map Call.key =
        ["arg"] := by
  refine ⟨?_, ?_, by decide +kernel⟩ <;> with_unfolding_all rfl

end Launchpad.Substitution
