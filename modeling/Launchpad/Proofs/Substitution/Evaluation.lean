import Launchpad.Proofs.Substitution.RoundTrip
import Launchpad.Substitution.Listed

/-!
What the expansion of a text does. Every substitution calls one handler, after its arguments and
with their values, and what is further left is done first. An unknown key and a handler that raises
end the expansion, and no handler is called behind them. To make calls visible the handlers are
taken with a record of their calls, which changes nothing else.
-/

namespace Launchpad.Substitution

open List

/-- A call of a handler, and what came of it. -/
structure Call where
  key : String
  args : List Value
  answer : Try Value

/-! ## Calls of handlers in the order of a tree -/

mutual

/-- The keys of a tree in the order in which they are called: those of the arguments, and then the
key of the tree. -/
def Tree.keys : Tree → List String
  | .leaf _ => []
  | .call key args => keysAll args ++ [key]

def keysAll : List Tree → List String
  | [] => []
  | t :: ts => t.keys ++ keysAll ts

end

section Order

variable (known : String → Bool)

mutual

/-- The expansion of a tree makes these calls and gives this text. -/
def Tree.Gives : Tree → List Call → String → Prop
  | .leaf s, log, v => log = [] ∧ v = s
  | .call key args, log, v => ∃ before vs, GiveAll args before vs ∧ known key ∧
      log = before ++ [⟨key, vs.map .str, .ok (.str v)⟩]

def GiveAll : List Tree → List Call → List String → Prop
  | [], log, vs => log = [] ∧ vs = []
  | t :: ts, log, vs => ∃ first v rest us, t.Gives first v ∧ GiveAll ts rest us ∧
      log = first ++ rest ∧ vs = v :: us

end

/-- What ends the expansion of a substitution that has an unknown key. -/
def unknown (key : String) : Stop :=
  .told .unknownKey s!"Unknown substitution key: {key}"

mutual

/-- The expansion of a tree makes these calls and is ended: by an unknown key once the arguments are
there, or by the last of the calls. -/
def Tree.Stops : Tree → List Call → Stop → Prop
  | .leaf _, _, _ => False
  | .call key args, log, e => StopAll args log e ∨ ∃ before vs, GiveAll known args before vs ∧
      ((known key = false ∧ log = before ∧ e = unknown key) ∨
        (known key ∧ log = before ++ [⟨key, vs.map .str, .error e⟩]))

def StopAll : List Tree → List Call → Stop → Prop
  | [], _, _ => False
  | t :: ts, log, e => t.Stops log e ∨ ∃ first v rest, t.Gives known first v ∧
      StopAll ts rest e ∧ log = first ++ rest

end

/-- Does the first of the trees give a text that begins with a dollar sign? -/
def DollarFirst (ts : List Tree) (log : List Call) : Prop :=
  ∃ t ∈ ts.head?, ∃ first rest v, log = first ++ rest ∧ t.Gives known first v ∧
    v.toList.head? = some '$'

end Order

variable {known : String → Bool}

mutual

lemma Tree.Gives.keys_eq {t : Tree} {log : List Call} {v : String} (h : t.Gives known log v) :
    log.map Call.key = t.keys ∧ ∀ key ∈ t.keys, known key := by
  cases t with
  | leaf s =>
    obtain ⟨rfl, -⟩ := h
    exact ⟨rfl, nofun⟩
  | call key args =>
    obtain ⟨before, vs, hbefore, hkey, rfl⟩ := h
    obtain ⟨hkeys, hknown⟩ := hbefore.keys_eq
    refine ⟨by simp [Tree.keys, hkeys], ?_⟩
    simp only [Tree.keys, mem_append, mem_singleton]
    rintro k (hk | rfl)
    · exact hknown k hk
    · exact hkey

lemma GiveAll.keys_eq {ts : List Tree} {log : List Call} {vs : List String}
    (h : GiveAll known ts log vs) :
    log.map Call.key = keysAll ts ∧ ∀ key ∈ keysAll ts, known key := by
  cases ts with
  | nil =>
    obtain ⟨rfl, -⟩ := h
    exact ⟨rfl, nofun⟩
  | cons t ts =>
    obtain ⟨first, v, rest, us, ht, hts, rfl, -⟩ := h
    obtain ⟨hkeys, hknown⟩ := ht.keys_eq
    obtain ⟨hkeys', hknown'⟩ := hts.keys_eq
    refine ⟨by simp [keysAll, hkeys, hkeys'], ?_⟩
    simp only [keysAll, mem_append]
    rintro k (hk | hk)
    · exact hknown k hk
    · exact hknown' k hk

end

/-- The calls of an expansion that is ended follow the order of the keys. The next key is unknown,
or the last of the calls has raised. -/
structure Halts (known : String → Bool) (keys : List String) (log : List Call) (e : Stop) :
    Prop where
  calls_known : ∀ c ∈ log, known c.key
  order : ∃ rest, keys = log.map Call.key ++ rest ∧
    ((∃ key ∈ rest.head?, known key = false ∧ e = unknown key) ∨
      ∃ c ∈ log.getLast?, c.answer = .error e)

namespace Halts

variable {keys : List String} {log : List Call} {e : Stop}

lemma before (h : Halts known keys log e) (more : List String) :
    Halts known (keys ++ more) log e := by
  obtain ⟨rest, rfl, hend⟩ := h.order
  refine ⟨h.calls_known, rest ++ more, append_assoc _ _ _, hend.imp_left ?_⟩
  rintro ⟨key, hkey, hunknown⟩
  refine ⟨key, ?_, hunknown⟩
  cases rest with
  | nil => cases hkey
  | cons k rest => exact hkey

lemma behind (h : Halts known keys log e) {done : List Call}
    (hdone : ∀ c ∈ done, known c.key) :
    Halts known (done.map Call.key ++ keys) (done ++ log) e := by
  obtain ⟨rest, rfl, hend⟩ := h.order
  refine ⟨?_, rest, by simp, hend.imp_right ?_⟩
  · simp only [mem_append]
    rintro c (hc | hc)
    · exact hdone c hc
    · exact h.calls_known c hc
  · rintro ⟨c, hc, hanswer⟩
    have hlast : log.getLast? = some c := hc
    exact ⟨c, by simp [List.getLast?_append, hlast], hanswer⟩

end Halts

lemma GiveAll.calls_known {ts : List Tree} {log : List Call} {vs : List String}
    (h : GiveAll known ts log vs) : ∀ c ∈ log, known c.key := by
  obtain ⟨hkeys, hknown⟩ := h.keys_eq
  exact fun c hc => hknown _ (hkeys ▸ mem_map_of_mem hc)

lemma Tree.Gives.calls_known {t : Tree} {log : List Call} {v : String} (h : t.Gives known log v) :
    ∀ c ∈ log, known c.key := by
  obtain ⟨hkeys, hknown⟩ := h.keys_eq
  exact fun c hc => hknown _ (hkeys ▸ mem_map_of_mem hc)

mutual

lemma Tree.Stops.halts {t : Tree} {log : List Call} {e : Stop} (h : t.Stops known log e) :
    Halts known t.keys log e := by
  cases t with
  | leaf s => cases h
  | call key args =>
    rcases h with h | ⟨before, vs, hbefore, ⟨hkey, rfl, rfl⟩ | ⟨hkey, rfl⟩⟩
    · exact h.halts.before [key]
    · rw [Tree.keys, ← hbefore.keys_eq.1]
      exact ⟨hbefore.calls_known, [key], rfl, .inl ⟨key, rfl, hkey, rfl⟩⟩
    · refine ⟨?_, [], ?_, .inr ⟨⟨key, vs.map .str, .error e⟩, by simp, rfl⟩⟩
      · simp only [mem_append, mem_singleton]
        rintro c (hc | rfl)
        · exact hbefore.calls_known c hc
        · exact hkey
      · simp [Tree.keys, ← hbefore.keys_eq.1]

lemma StopAll.halts {ts : List Tree} {log : List Call} {e : Stop} (h : StopAll known ts log e) :
    Halts known (keysAll ts) log e := by
  cases ts with
  | nil => cases h
  | cons t ts =>
    rcases h with h | ⟨first, v, rest, hfirst, hrest, rfl⟩
    · exact h.halts.before (keysAll ts)
    · rw [keysAll, ← hfirst.keys_eq.1]
      exact hrest.halts.behind hfirst.calls_known

end

/-! ## Handlers with a record -/

variable {σ α : Type}

/-- A handler that notes its calls. -/
def noted (key : String) (call : List Value → EStateM Stop σ Value) (args : List Value) :
    EStateM Stop (List Call × σ) Value :=
  fun s => match call args s.2 with
    | .ok v t => .ok v (s.1 ++ [⟨key, args, .ok v⟩], t)
    | .error e t => .error e (s.1 ++ [⟨key, args, .error e⟩], t)

/-- The handlers, each of which notes its calls. -/
def recorded (handlers : Handlers (EStateM Stop σ)) : Handlers (EStateM Stop (List Call × σ)) :=
  fun key => (handlers key).map (noted key)

/-- Do handlers that are given texts answer with texts? -/
def Textual (handlers : Handlers (EStateM Stop σ)) : Prop :=
  ∀ key call, handlers key = some call → ∀ (args : List String) s v t,
    call (args.map .str) s = .ok v t → ∃ text, v = .str text

/-- The calls of an expansion, whatever has ended it. -/
def callsOf : EStateM.Result Stop (List Call × σ) α → List Call
  | .ok _ t => t.1
  | .error _ t => t.1

/-- An expansion without the record of its calls. -/
def unrecorded : EStateM.Result Stop (List Call × σ) α → EStateM.Result Stop σ α
  | .ok v t => .ok v t.2
  | .error e t => .error e t.2

def knows (handlers : Handlers (EStateM Stop σ)) (key : String) : Bool :=
  (handlers key).isSome

/-- A program ends with a result for which `Q` holds, or it is stopped and `E` holds. -/
def Ends (x : EStateM Stop σ α) (s : σ) (Q : α → σ → Prop) (E : Stop → σ → Prop) : Prop :=
  match x s with
  | .ok a t => Q a t
  | .error e t => E e t

section Ends

variable {x : EStateM Stop σ α} {s t : σ} {a : α} {Q : α → σ → Prop} {E : Stop → σ → Prop}

lemma ends_pure : Ends (pure a) s Q E ↔ Q a s :=
  Iff.rfl

lemma ends_bind {β : Type} {f : α → EStateM Stop σ β} {Q : β → σ → Prop} :
    Ends (x >>= f) s Q E ↔ Ends x s (fun a t => Ends (f a) t Q E) E := by
  simp only [Ends, bind, EStateM.bind]
  cases x s <;> rfl

lemma Ends.imp {Q' : α → σ → Prop} {E' : Stop → σ → Prop} (h : Ends x s Q E)
    (hQ : ∀ a t, Q a t → Q' a t) (hE : ∀ e t, E e t → E' e t) : Ends x s Q' E' := by
  unfold Ends at h ⊢
  cases hx : x s with
  | ok a t => exact hQ a t (by simpa [hx] using h)
  | error e t => exact hE e t (by simpa [hx] using h)

lemma Ends.of_ok (h : Ends x s Q E) (hx : x s = .ok a t) : Q a t := by
  simpa [Ends, hx] using h

lemma Ends.of_error {e : Stop} (h : Ends x s Q E) (hx : x s = .error e t) : E e t := by
  simpa [Ends, hx] using h

end Ends

lemma applyForm_key {m : Type → Type} [Monad m] [MonadExceptOf Stop m] (handlers : Handlers m)
    (key : String) (vs : List Value) :
    applyForm handlers (.str ("$" ++ key) :: vs) = match handlers key with
      | none => throw (unknown key)
      | some call => call vs := by
  have hkey : ("$" ++ key).toList = '$' :: key.toList := by simp
  cases hcall : handlers key <;> simp [applyForm, hkey, hcall, unknown]

variable {s : String}

lemma applyForm_of_not_dollar {m : Type → Type} [Monad m] [MonadExceptOf Stop m]
    (handlers : Handlers m) (hs : s.toList.head? ≠ some '$') (vs : List Value) :
    applyForm handlers (.str s :: vs) = match texts? (.str s :: vs) with
      | some ts => pure (.str (" ".intercalate ts))
      | none => throw (Stop.silent .wrongType) := by
  simp only [applyForm]
  split
  · next key hkey => simp [hkey] at hs
  · rfl

lemma eq_dollar_append (hs : s.toList.head? = some '$') : ∃ key, s = "$" ++ key := by
  cases hchars : s.toList with
  | nil => simp [hchars] at hs
  | cons c key =>
    obtain rfl : c = '$' := by simpa [hchars] using hs
    exact ⟨String.ofList key, String.ext (by simp [hchars])⟩

variable {handlers : Handlers (EStateM Stop σ)}

lemma ends_applyForm_key (hh : Textual handlers)
    (key : String) (texts : List String) (log : List Call) (st : σ) :
    Ends (applyForm (recorded handlers) (.str ("$" ++ key) :: texts.map .str)) (log, st)
      (fun v u => ∃ text, v = .str text ∧ knows handlers key ∧
        u.1 = log ++ [⟨key, texts.map .str, .ok (.str text)⟩])
      (fun e u => (knows handlers key = false ∧ u.1 = log ∧ e = unknown key) ∨
        (knows handlers key ∧ u.1 = log ++ [⟨key, texts.map .str, .error e⟩])) := by
  cases hkey : handlers key with
  | none =>
    have hrecorded : recorded handlers key = none := by simp [recorded, hkey]
    rw [applyForm_key, hrecorded]
    exact .inl ⟨by simp [knows, hkey], rfl, rfl⟩
  | some call =>
    have hknown : knows handlers key := by simp [knows, hkey]
    have hrecorded : recorded handlers key = some (noted key call) := by simp [recorded, hkey]
    rw [applyForm_key, hrecorded]
    simp only [Ends, noted]
    cases hcall : call (texts.map .str) st with
    | ok v t =>
      obtain ⟨text, rfl⟩ := hh key call hkey texts st v t hcall
      exact ⟨text, rfl, hknown, rfl⟩
    | error e t => exact .inr ⟨hknown, rfl⟩

mutual

lemma Tree.ends_expand (hh : Textual handlers) (t : Tree)
    (log : List Call) (st : σ) :
    Ends (t.form.expand (recorded handlers)) (log, st)
      (fun v u => ∃ calls text, v = .str text ∧ u.1 = log ++ calls ∧
        t.Gives (knows handlers) calls text)
      (fun e u => ∃ calls, u.1 = log ++ calls ∧ t.Stops (knows handlers) calls e) := by
  cases t with
  | leaf s =>
    exact ⟨[], s, rfl, (append_nil log).symm, rfl, rfl⟩
  | call key args =>
    rw [Tree.form, Form.expand, expandAll, Form.expand, ends_bind, ends_bind, ends_pure, ends_bind]
    refine (ends_expandAll hh args log st).imp ?_ ?_
    · rintro vs ⟨before, u⟩ ⟨calls, texts, rfl, hlog, hgives⟩
      obtain rfl : before = log ++ calls := hlog
      refine (ends_applyForm_key hh key texts _ u).imp ?_ ?_
      · rintro v w ⟨text, rfl, hknown, hw⟩
        refine ⟨_, text, rfl, hw.trans (append_assoc _ _ _), ?_⟩
        exact ⟨calls, texts, hgives, hknown, rfl⟩
      · rintro e w (⟨hunknown, hw, he⟩ | ⟨hknown, hw⟩)
        · refine ⟨calls, hw, ?_⟩
          exact .inr ⟨calls, texts, hgives, .inl ⟨hunknown, rfl, he⟩⟩
        · refine ⟨_, hw.trans (append_assoc _ _ _), ?_⟩
          exact .inr ⟨calls, texts, hgives, .inr ⟨hknown, rfl⟩⟩
    · rintro e w ⟨calls, hw, hstops⟩
      refine ⟨calls, hw, ?_⟩
      exact .inl hstops

lemma ends_expandAll (hh : Textual handlers)
    (ts : List Tree) (log : List Call) (st : σ) :
    Ends (expandAll (recorded handlers) (forms ts)) (log, st)
      (fun vs u => ∃ calls texts, vs = texts.map .str ∧ u.1 = log ++ calls ∧
        GiveAll (knows handlers) ts calls texts)
      (fun e u => ∃ calls, u.1 = log ++ calls ∧ StopAll (knows handlers) ts calls e) := by
  cases ts with
  | nil =>
    exact ⟨[], [], rfl, (append_nil log).symm, rfl, rfl⟩
  | cons t ts =>
    rw [forms, expandAll, ends_bind]
    refine (t.ends_expand hh log st).imp ?_ ?_
    · rintro v ⟨before, u⟩ ⟨first, text, rfl, hlog, hfirst⟩
      obtain rfl : before = log ++ first := hlog
      rw [ends_bind]
      refine (ends_expandAll hh ts _ u).imp ?_ ?_
      · rintro vs w ⟨rest, texts, rfl, hw, hrest⟩
        rw [ends_pure]
        refine ⟨_, text :: texts, rfl, hw.trans (append_assoc _ _ _), ?_⟩
        exact ⟨first, text, rest, texts, hfirst, hrest, rfl, rfl⟩
      · rintro e w ⟨rest, hw, hrest⟩
        refine ⟨_, hw.trans (append_assoc _ _ _), ?_⟩
        exact .inr ⟨first, text, rest, hfirst, hrest, rfl⟩
    · rintro e w ⟨calls, hw, hstops⟩
      refine ⟨calls, hw, ?_⟩
      exact .inl hstops

end

/-! ## The record changes nothing -/

lemma unrecorded_bind {β : Type} {x : EStateM Stop (List Call × σ) α} {x' : EStateM Stop σ α}
    {f : α → EStateM Stop (List Call × σ) β} {f' : α → EStateM Stop σ β}
    (hx : ∀ s, unrecorded (x s) = x' s.2) (hf : ∀ a s, unrecorded (f a s) = f' a s.2)
    (s : List Call × σ) : unrecorded ((x >>= f) s) = (x' >>= f') s.2 := by
  have hxs := hx s
  simp only [bind, EStateM.bind]
  cases h : x s with
  | ok a t =>
    rw [h] at hxs
    rw [← hxs]
    exact hf a t
  | error e t =>
    rw [h] at hxs
    rw [← hxs]
    rfl

lemma unrecorded_noted (key : String) (call : List Value → EStateM Stop σ Value)
    (args : List Value) (s : List Call × σ) :
    unrecorded (noted key call args s) = call args s.2 := by
  unfold noted
  cases call args s.2 <;> rfl

lemma unrecorded_applyForm (handlers : Handlers (EStateM Stop σ)) (vs : List Value)
    (s : List Call × σ) :
    unrecorded (applyForm (recorded handlers) vs s) = applyForm handlers vs s.2 := by
  match vs with
  | [] => rfl
  | .str text :: args =>
    by_cases htext : text.toList.head? = some '$'
    · obtain ⟨key, rfl⟩ := eq_dollar_append htext
      rw [applyForm_key, applyForm_key]
      cases hkey : handlers key with
      | none =>
        have hrecorded : recorded handlers key = none := by simp [recorded, hkey]
        rw [hrecorded]
        rfl
      | some call =>
        have hrecorded : recorded handlers key = some (noted key call) := by
          simp [recorded, hkey]
        rw [hrecorded]
        exact unrecorded_noted key call args s
    · rw [applyForm_of_not_dollar _ htext, applyForm_of_not_dollar _ htext]
      cases texts? (.str text :: args) <;> rfl
  | .null :: _ | .bool _ :: _ | .int _ :: _ | .float _ :: _ | .complex _ _ :: _ | .bytes _ :: _
  | .list _ :: _ | .tuple _ :: _ | .set _ :: _ | .frozen _ :: _ | .map _ :: _ | .date _ :: _
  | .moment _ :: _ | .ref _ :: _ => rfl

mutual

lemma Form.unrecorded_expand (handlers : Handlers (EStateM Stop σ)) (f : Form)
    (s : List Call × σ) : unrecorded (f.expand (recorded handlers) s) = f.expand handlers s.2 := by
  cases f with
  | word text =>
    rfl
  | items fs =>
    exact unrecorded_bind (unrecorded_expandAll handlers fs) (unrecorded_applyForm handlers) s

lemma unrecorded_expandAll (handlers : Handlers (EStateM Stop σ)) (fs : List Form)
    (s : List Call × σ) :
    unrecorded (expandAll (recorded handlers) fs s) = expandAll handlers fs s.2 := by
  cases fs with
  | nil =>
    rfl
  | cons f fs =>
    refine unrecorded_bind (Form.unrecorded_expand handlers f) (fun v s => ?_) s
    exact unrecorded_bind (unrecorded_expandAll handlers fs) (fun _ _ => rfl) s

end

lemma unrecorded_substituteValue (handlers : Handlers (EStateM Stop σ)) (s : String)
    (u : List Call × σ) :
    unrecorded (substituteValue (recorded handlers) (.str s) u) =
      substituteValue handlers (.str s) u.2 := by
  unfold substituteValue
  cases parseValue (.str s) with
  | error e => rfl
  | ok fs => exact Form.unrecorded_expand handlers (.items fs) u

/-! ## Whole texts -/

lemma texts?_map (ts : List String) : texts? (ts.map .str) = some ts := by
  induction ts with
  | nil => rfl
  | cons t ts ih => simp [texts?, ih]

lemma substituteValue_of_parse {m : Type → Type} [Monad m] [MonadExceptOf Stop m]
    (handlers : Handlers m) {fs : List Form} (h : parse s = .ok fs) :
    substituteValue handlers (.str s) = (Form.items fs).expand handlers := by
  have hvalue : parseValue (.str s) = .ok fs := by
    rw [parseValue, h]
    rfl
  simp [substituteValue, hvalue]

/-- The values of all trees are there: they are joined, unless the first one is taken for a key. -/
lemma ends_applyForm_root (hh : Textual handlers)
    {ts : List Tree} (hne : ts ≠ []) {log : List Call} {texts : List String}
    (h : GiveAll (knows handlers) ts log texts) (st : σ) :
    Ends (applyForm (recorded handlers) (texts.map .str)) (log, st)
      (fun v u => DollarFirst (knows handlers) ts u.1 ∨
        (u.1 = log ∧ v = .str (" ".intercalate texts)))
      (fun _ u => DollarFirst (knows handlers) ts u.1) := by
  cases ts with
  | nil => exact absurd rfl hne
  | cons t ts =>
    obtain ⟨first, text, rest, texts, hfirst, -, rfl, rfl⟩ := h
    by_cases htext : text.toList.head? = some '$'
    · have dollar {u : List Call} (extra : List Call) (hu : u = first ++ rest ++ extra) :
          DollarFirst (knows handlers) (t :: ts) u :=
        ⟨t, rfl, first, rest ++ extra, text, by rw [hu, append_assoc], hfirst, htext⟩
      obtain ⟨key, rfl⟩ := eq_dollar_append htext
      refine (ends_applyForm_key hh key texts _ st).imp ?_ ?_
      · rintro v u ⟨_, _, _, hu⟩
        exact .inl (dollar _ hu)
      · rintro e u (⟨-, hu, -⟩ | ⟨-, hu⟩)
        · exact dollar [] (by rw [hu, append_nil])
        · exact dollar _ hu
    · rw [map_cons, applyForm_of_not_dollar _ htext, ← map_cons, texts?_map]
      exact .inr ⟨rfl, rfl⟩

/-- A text that is read as trees calls the handlers in the order of the trees, and gives their
values joined by blanks, provided that the first value does not begin with a dollar sign. -/
lemma ends_substituteValue (hh : Textual handlers)
    {ts : List Tree} (hne : ts ≠ []) (hparse : parse s = .ok (forms ts)) (st : σ) :
    Ends (substituteValue (recorded handlers) (.str s)) ([], st)
      (fun v u => ¬ DollarFirst (knows handlers) ts u.1 →
        ∃ vs, GiveAll (knows handlers) ts u.1 vs ∧ v = .str (" ".intercalate vs))
      (fun e u => ¬ DollarFirst (knows handlers) ts u.1 → StopAll (knows handlers) ts u.1 e) := by
  rw [substituteValue_of_parse _ hparse, Form.expand, ends_bind]
  refine (ends_expandAll hh ts [] st).imp ?_ ?_
  · rintro vs ⟨log, u⟩ ⟨calls, texts, rfl, hlog, hgives⟩
    obtain rfl : log = calls := hlog
    refine (ends_applyForm_root hh hne hgives u).imp ?_ ?_
    · rintro v w (hw | ⟨hw, rfl⟩) hdollar
      · exact absurd hw hdollar
      · exact ⟨texts, hw ▸ hgives, rfl⟩
    · exact fun _ _ hw hdollar => absurd hw hdollar
  · rintro e ⟨log, u⟩ ⟨calls, hlog, hstops⟩ -
    obtain rfl : log = calls := hlog
    exact hstops

/-- The expansion of a text that was written from terms. Each substitution calls its handler once,
behind the calls of its arguments and with their values, from the left to the right, and the values
of the terms are joined by blanks. An unknown key, or a handler that raises, ends the expansion with
no further call. -/
theorem substitute_of_prints {handlers : Handlers (EStateM Stop σ)} (hh : Textual handlers)
    {ts : List Term} (hne : ts ≠ []) {s : String} (hs : Prints ts s.toList) (st : σ) :
    let run := (substituteValue (recorded handlers) (.str s)).run ([], st)
    unrecorded run = (substituteValue handlers (.str s)).run st ∧
      (¬ DollarFirst (knows handlers) (trees ts) (callsOf run) →
        match run with
        | .ok v u => u.1.map Call.key = keysAll (trees ts) ∧
            ∃ vs, GiveAll (knows handlers) (trees ts) u.1 vs ∧ v = .str (" ".intercalate vs)
        | .error e u => u.1.map Call.key <+: keysAll (trees ts) ∧
            StopAll (knows handlers) (trees ts) u.1 e) := by
  intro run
  refine ⟨unrecorded_substituteValue handlers s ([], st), fun hdollar => ?_⟩
  have htrees : trees ts ≠ [] := by
    cases ts with
    | nil => exact absurd rfl hne
    | cons t ts => simp [trees]
  have hends := ends_substituteValue hh htrees hs.parse_eq st
  cases hrun : run with
  | ok v u =>
    rw [hrun] at hdollar
    obtain ⟨vs, hgives, hv⟩ := hends.of_ok hrun hdollar
    exact ⟨hgives.keys_eq.1, vs, hgives, hv⟩
  | error e u =>
    rw [hrun] at hdollar
    have hstops := hends.of_error hrun hdollar
    obtain ⟨rest, hrest, -⟩ := hstops.halts.order
    exact ⟨⟨rest, hrest.symm⟩, hstops⟩

/-- Handlers that answer their keys with a fixed text each. -/
def answering (table : TextPairs) : Handlers (EStateM Stop Unit) :=
  fun key => (table.lookup key).map fun text _ => pure (.str text)

lemma textual_answering (table : TextPairs) : Textual (answering table) := by
  intro key call hcall args s v t hrun
  obtain ⟨text, -, rfl⟩ := Option.map_eq_some_iff.1 hcall
  exact ⟨text, by cases hrun; rfl⟩

lemma not_dollarFirst {key : String} {args ts : List Tree} {log : List Call}
    (h : ∀ c ∈ log, c.key = key → ∀ v, c.answer = .ok (.str v) → v.toList.head? ≠ some '$') :
    ¬ DollarFirst known (.call key args :: ts) log := by
  rintro ⟨t, ht, first, rest, v, rfl, hgives, hv⟩
  obtain rfl : Tree.call key args = t := by simpa using ht
  obtain ⟨before, vs, -, -, rfl⟩ := hgives
  exact h ⟨key, vs.map .str, .ok (.str v)⟩ (by simp) rfl v rfl hv

/-- Both handlers of a search are called, that of the argument first. Without a handler for the
search itself, the one of the argument has been called when the key is found to be unknown. -/
theorem substitute_of_prints_search :
    let s := "$(find 'a b'\t$(arg d))"
    let both := answering [("find", "f"), ("arg", "$a")]
    let one := answering [("arg", "$a")]
    let arg : Call := ⟨"arg", [.str "d"], .ok (.str "$a")⟩
    let find : Call := ⟨"find", [.str "a b", .str "$a"], .ok (.str "f")⟩
    Prints (Term.search .dir) s.toList ∧
      (substituteValue (recorded both) (.str s)).run ([], ()) =
        .ok (.str "f") ([arg, find], ()) ∧
      (∃ vs, GiveAll (knows both) (trees (Term.search .dir)) [arg, find] vs ∧
        Value.str "f" = .str (" ".intercalate vs)) ∧
      (substituteValue (recorded one) (.str s)).run ([], ()) =
        .error (unknown "find") ([arg], ()) ∧
      StopAll (knows one) (trees (Term.search .dir)) [arg] (unknown "find") := by
  intro s both one arg find
  have hs : Prints (Term.search .dir) s.toList :=
    prints_search .dir (isGap_singleton (c := ' ') rfl) (isGap_singleton (c := '\t') rfl)
      (isGap_singleton (c := ' ') rfl) (by decide)
  have hboth : (substituteValue (recorded both) (.str s)).run ([], ()) =
      .ok (.str "f") ([arg, find], ()) := by
    rw [substituteValue_of_parse _ hs.parse_eq]
    rfl
  have hone : (substituteValue (recorded one) (.str s)).run ([], ()) =
      .error (unknown "find") ([arg], ()) := by
    rw [substituteValue_of_parse _ hs.parse_eq]
    rfl
  obtain ⟨-, hcalls⟩ := substitute_of_prints (textual_answering _) (by simp [Term.search]) hs ()
  obtain ⟨-, hstop⟩ := substitute_of_prints (textual_answering _) (by simp [Term.search]) hs ()
  rw [hboth] at hcalls
  rw [hone] at hstop
  refine ⟨hs, hboth, (hcalls (not_dollarFirst ?_)).2, hone, (hstop (not_dollarFirst ?_)).2⟩
  · rintro c hc hkey v hv
    simp only [callsOf, mem_cons, not_mem_nil, or_false] at hc
    rcases hc with rfl | rfl
    · exact absurd hkey (by decide)
    · cases hv
      decide
  · rintro c hc hkey
    simp only [callsOf, mem_singleton] at hc
    subst hc
    exact absurd hkey (by decide)

end Launchpad.Substitution
