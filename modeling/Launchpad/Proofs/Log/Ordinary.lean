import Launchpad.Proofs.Log.Header
import Launchpad.Proofs.Launch.Messages

/-!
Registries in their ordinary state: their least level is a number, and their pretty formatters look
for the usual header. Such a registry takes every message without a header, for any number of
handlers, since no formatter changes the level of its record.
-/

namespace Launchpad

namespace Log

/-- Whatever ends it, formatting leaves something behind for which `P` holds. -/
def Leaves {α : Type} (x : FormatM α) (s : Scratch) (P : Scratch → Prop) : Prop :=
  match x.run s with
  | .ok _ t => P t
  | .error _ t => P t

def Preserves {α : Type} (P : Scratch → Prop) (x : FormatM α) : Prop :=
  ∀ s, P s → Leaves x s P

section Preserves

variable {α β : Type} {P : Scratch → Prop}

variable {s : Scratch}

lemma leaves_get_bind (f : Scratch → FormatM α) : Leaves (get >>= f) s P ↔ Leaves (f s) s P :=
  Iff.rfl

lemma leaves_set_bind (t : Scratch) (f : PUnit → FormatM α) :
    Leaves (set t >>= f) s P ↔ Leaves (f ⟨⟩) t P :=
  Iff.rfl

lemma preserves_pure (a : α) : Preserves P (pure a : FormatM α) :=
  fun _ h => h

lemma preserves_throw (e : Stop) : Preserves P (throw e : FormatM α) :=
  fun _ h => h

lemma preserves_get : Preserves P (get : FormatM Scratch) :=
  fun _ h => h

lemma preserves_modify {f : Scratch → Scratch} (h : ∀ s, P s → P (f s)) :
    Preserves P (modify f : FormatM PUnit) :=
  h

lemma preserves_liftExcept (r : Try α) : Preserves P (liftExcept r) := by
  cases r with
  | ok a => exact preserves_pure a
  | error e => exact preserves_throw e

lemma Preserves.bind {x : FormatM α} {f : α → FormatM β} (hx : Preserves P x)
    (hf : ∀ a, Preserves P (f a)) : Preserves P (x >>= f) := by
  intro s hs
  have hfirst := hx s hs
  simp only [Leaves, EStateM.run, Bind.bind, EStateM.bind] at hfirst ⊢
  cases hrun : x s with
  | ok a t =>
    rw [hrun] at hfirst
    exact hf a t hfirst
  | error e t =>
    rw [hrun] at hfirst
    exact hfirst

end Preserves

/-- A record of a message without a header, with a number as its level. -/
structure Record.Unmarked (level : Int) (msg : String) (r : Record) : Prop where
  level_eq : r.level = .int level
  msg_eq : r.msg = .str msg
  unread : Header.read? msg = none

variable {level : Int} {msg : String}

def addedKeys : List String :=
  ["message", "asctime", "sourcecolor_start", "sourcecolor_end", "levelcolor_start",
    "levelcolor_end"]

variable {r : Record} {p : Pretty} {f : Formatter}

lemma Record.Unmarked.set (h : r.Unmarked level msg) (key : String) (v : Value)
    (hkey : key ∈ addedKeys) : (r.set key v).Unmarked level msg := by
  obtain ⟨hlevel, hmsg, hread⟩ := h
  simp only [addedKeys, List.mem_cons, List.not_mem_nil, or_false] at hkey
  rcases hkey with rfl | rfl | rfl | rfl | rfl | rfl
  all_goals exact ⟨hlevel, hmsg, hread⟩

lemma preserves_finish (t : Template) (time : Record → Value) :
    Preserves (fun s => s.record.Unmarked level msg) (finish t time) := by
  refine preserves_get.bind fun s => (preserves_liftExcept _).bind fun m => ?_
  refine Preserves.bind (preserves_modify fun s h => h.set "message" _ (by decide)) fun _ => ?_
  split
  · refine Preserves.bind (preserves_modify fun s h => h.set "asctime" _ (by decide)) fun _ => ?_
    exact preserves_get.bind fun s => preserves_liftExcept _
  · exact preserves_get.bind fun s => preserves_liftExcept _

lemma preserves_sourceColor (name : Value) :
    Preserves (fun s => s.record.Unmarked level msg) (sourceColor name) := by
  intro s hs
  refine (leaves_get_bind _).2 ?_
  split
  · exact preserves_pure _ s hs
  split
  · exact preserves_pure _ s hs
  split
  · exact preserves_throw _ s hs
  split
  · exact preserves_pure _ s hs
  · exact (leaves_set_bind _ _).2 (preserves_pure _ _ hs)

lemma preserves_recognise (hp : p.pattern = headerPattern) :
    Preserves (fun s => s.record.Unmarked level msg) p.recognise := by
  intro s hs
  refine (leaves_get_bind _).2 ?_
  simp only [hs.msg_eq, hp, matchAt_eq_none hs.unread]
  exact hs

lemma preserves_format (hp : p.pattern = headerPattern) :
    Preserves (fun s => s.record.Unmarked level msg) p.format := by
  refine (preserves_recognise hp).bind fun _ => preserves_get.bind fun s => ?_
  refine (preserves_sourceColor _).bind fun c => (preserves_liftExcept _).bind fun on => ?_
  refine Preserves.bind (preserves_modify fun s h => ?_) fun _ => ?_
  · exact (h.set "sourcecolor_start" _ (by decide)).set "sourcecolor_end" _ (by decide)
  refine preserves_get.bind fun s => (preserves_liftExcept _).bind fun on => ?_
  refine Preserves.bind (preserves_modify fun s h => ?_) fun _ => ?_
  · exact (h.set "levelcolor_start" _ (by decide)).set "levelcolor_end" _ (by decide)
  exact preserves_finish _ _

/-- Does a formatter look for the usual header, if for any? -/
def Formatter.Usual : Formatter → Prop
  | .plain _ => True
  | .pretty p => p.pattern = headerPattern

lemma Formatter.run_record (hf : f.Usual) (hue : Float) (hr : r.Unmarked level msg) :
    (f.run hue r).2.2.2.Unmarked level msg := by
  unfold Formatter.run
  cases f with
  | plain t =>
    have h := preserves_finish t plainStamp ⟨r, hue, []⟩ hr
    unfold Leaves at h
    split at h
    all_goals
      next hrun =>
        simp only [hrun]
        exact h
  | pretty p =>
    have h := preserves_format hf ⟨r, hue, p.sourceColors⟩ hr
    unfold Leaves at h
    split at h
    all_goals
      next hrun =>
        simp only [hrun]
        exact h

lemma Formatter.run_usual (hf : f.Usual) (hue : Float) (r : Record) : (f.run hue r).2.1.Usual := by
  unfold Formatter.run
  cases f with
  | plain t =>
    dsimp only
    split <;> exact hf
  | pretty p =>
    dsimp only
    split <;> exact hf

namespace Registry

variable {r : Registry}

/-- A registry whose least level is a number and whose formatters look for the usual header. -/
structure Ordinary (r : Registry) : Prop where
  numeric : ∃ least, r.rootLevel = .int least
  usual : ∀ f ∈ r.formatters, f.Usual

variable {record : Record}

variable (hr : r.Ordinary)
include hr

lemma Ordinary.formatAt (h : Handler) (record : Record) : (r.formatAt h record).2.1.Ordinary := by
  unfold Registry.formatAt
  split
  · exact hr
  · exact hr
  · next i _ =>
    split
    · exact hr
    · next f hf =>
      refine ⟨hr.numeric, fun g hg => ?_⟩
      have hold : f.Usual := hr.usual f (Array.mem_of_getElem? hf)
      rcases Array.mem_or_eq_of_mem_setIfInBounds hg with hg | rfl
      · exact hr.usual g hg
      · exact f.run_usual hold _ _

lemma formatAt_record (h : Handler) (hrecord : record.Unmarked level msg) :
    (r.formatAt h record).2.2.Unmarked level msg := by
  unfold Registry.formatAt
  split
  · exact hrecord
  · exact hrecord
  · split
    · exact hrecord
    · next f hf => exact f.run_record (hr.usual f (Array.mem_of_getElem? hf)) _ hrecord

lemma Ordinary.deliver (is : List Nat) (record : Record) (out : Lines) :
    (r.deliver is record out).1.Ordinary := by
  have step (r : Registry) (record : Record) (h : Handler) (hr : r.Ordinary) :=
    hr.formatAt h record
  exact deliver_induction (Q := fun r _ => r.Ordinary) (fun _ _ h => h) (fun _ _ _ _ h _ => h)
    step is out hr

lemma deliver_unmarked (is : List Nat) (hrecord : record.Unmarked level msg)
    (out : Lines) : (r.deliver is record out).2.2 = .ok () := by
  refine deliver_induction (P := fun r record => r.Ordinary ∧ record.Unmarked level msg)
    (Q := fun _ e => e = .ok ()) (fun _ _ _ => rfl) ?_ ?_ is out ⟨hr, hrecord⟩
  · rintro r record least e ⟨-, h⟩ he
    rw [h.level_eq, reaches_int] at he
    cases he
  · exact fun r record h ⟨hr, hrecord⟩ => ⟨hr.formatAt h record, formatAt_record hr h hrecord⟩

lemma Ordinary.log (logger : String) (level msg : Value) (now : Float) (args : List Value) :
    (r.log logger level msg now args).1.Ordinary := by
  unfold Registry.log
  dsimp only
  split
  · exact hr.deliver _ _ _
  · exact hr
  · exact hr

lemma Ordinary.later {r' : Registry} (h : r.Logged r') : r'.Ordinary := by
  induction h with
  | refl => exact hr
  | log _ logger level msg now args ih => exact ih.log logger _ _ now args

lemma log_unmarked (logger : String) (hlevel : level ∈ knownLevels)
    (hmsg : Header.read? msg = none) (now : Float) (args : List Value) :
    (r.log logger (.int level) (.str msg) now args).2.2 = .ok () := by
  obtain ⟨least, hleast⟩ := hr.numeric
  obtain ⟨label, hlabel⟩ := exists_labelOf hlevel
  obtain ⟨l, hl⟩ := exists_leastLevel hleast
  by_cases hle : l ≤ level
  · simp only [Registry.log, hl, reaches_int, Record.ofValues, hlabel, hle]
    exact deliver_unmarked hr _ ⟨rfl, rfl, hmsg⟩ _
  · simp only [Registry.log, hl, reaches_int, decide_eq_false hle]
    rfl

end Registry

end Log

namespace Launch

lemma yields_log_unmarked {R : SessionRel} [Writable R] (logger : String)
    {level : Int} (hlevel : level ∈ Log.knownLevels) {msg : String}
    (hmsg : Log.StartsPlain msg) {s : Session} (hs : s.log.Ordinary) (args : List Value)
    {E : Post Stop} :
    Yields (log logger level msg args) s (fun _ t => R s t) E := by
  have returns : Succeeds (log logger level msg args) s (fun _ _ => True) := by
    unfold log
    simp only [yields_bind, yields_get, yields_set]
    refine (yields_writeLines _ _).map fun _ t _ => ?_
    rw [Log.Registry.log_unmarked hs logger hlevel hmsg.read?_eq_none]
    exact .pure trivial
  have kept := keeps_log (R := R) logger level msg args s
  exact (kept.and returns).imp (fun _ _ h => h.1) fun _ _ h => h.2.elim

end Launch

end Launchpad
