import Launchpad.Proofs.Launch.Messages
import Launchpad.Proofs.Launch.Polling

/-!
What can stop an operation. A fault can be handled; the end of the program, which is the other thing
that stops an operation, cannot. And two kinds of faults tell a caller something: that the time has
run out is how a wait ends that was in vain, and that a node has no such operation is passed over
where a composer asks the node it is around. Most operations stop with other faults only, so they
are looked at once, for every kind of stops that takes in these. What stops a whole operation follows
from its parts, whatever their order.
-/

namespace Launchpad

namespace Stop

/-- Is it a fault with this cause? -/
def has (c : Cause) : Stop → Bool
  | .fault f => f.cause == c
  | .exit _ => false

def common (e : Stop) : Bool :=
  !e.has .timedOut && !e.has .notImplemented

variable {e : Stop}

lemma has_timedOut (h : e.common = true) : e.has .timedOut = false := by
  simp_all [common]

lemma has_notImplemented (h : e.common = true) : e.has .notImplemented = false := by
  simp_all [common]

def IsFault (e : Stop) : Prop :=
  ∃ f, e = .fault f

/-- A wait that has no end. -/
def Endless (e : Stop) : Prop :=
  IsFault e ∧ e.handled? = none

lemma Endless.has (h : e.Endless) : e.has .endless = true := by
  obtain ⟨⟨f, rfl⟩, hnone⟩ := h
  simpa [handled?, Stop.has] using hnone

/-- A kind of stops among which are all faults for common reasons. -/
class Broad (P : Stop → Prop) : Prop where
  common (f : Fault) : (Stop.fault f).common = true → P (.fault f)

instance : Broad IsFault :=
  ⟨fun f _ => ⟨f, rfl⟩⟩

instance : Broad fun e => e.common = true :=
  ⟨fun _ h => h⟩

end Stop

open Stop (IsFault Broad)

def Fails {α : Type} (P : Stop → Prop) (r : Try α) : Prop :=
  ∀ e, r = .error e → P e

section Fails

variable {α β : Type} {P : Stop → Prop}

@[grind ←]
lemma fails_ok (a : α) : Fails P (.ok a) :=
  fun _ he => nomatch he

@[grind ←]
lemma fails_silent [Broad P] {c : Cause} (t : String) (h : c ≠ .timedOut) (h' : c ≠ .notImplemented) :
    Fails P (.error (.silent c t) : Try α) := by
  rintro _ ⟨⟩
  exact Broad.common _ (by simp [Fault.silent, Stop.common, Stop.has, h, h'])

@[grind ←]
lemma Fails.bind {r : Try α} {f : α → Try β} (hr : Fails P r)
    (hf : ∀ a, Fails P (f a)) : Fails P (r >>= f) := by
  intro e he
  cases r with
  | ok a => exact hf a e he
  | error e' =>
    cases he
    exact hr _ rfl

end Fails

namespace Launch

variable {α β : Type} {P : Stop → Prop}

/-- What stops the operation, if anything does, is of this kind. -/
def Stops (P : Stop → Prop) (x : Launch α) : Prop :=
  ∀ s, Yields x s (fun _ _ => True) fun e _ => P e

abbrev Common (x : Launch α) : Prop :=
  Stops (fun e => e.common = true) x

/-- What stops the operation, if anything does, is a fault. -/
def Faults (x : Launch α) : Prop :=
  ∀ s, Yields x s (fun _ _ => True) fun e _ => ∃ f, e = .fault f

@[grind ←]
lemma stops_pure (a : α) : Stops P (pure a : Launch α) :=
  fun _ => .pure trivial

@[grind ←]
lemma Stops.bind {x : Launch α} {f : α → Launch β} (hx : Stops P x) (hf : ∀ a, Stops P (f a)) :
    Stops P (x >>= f) :=
  fun s => (hx s).bind fun a t _ => hf a t

lemma Stops.followed {R : SessionRel} [IsPreorder Session R] {x : Launch α}
    {f : α → Launch β} {s m : Session} (hx : Stops P x) (hkeeps : Keeps R x) (h : R s m)
    (hf : ∀ a t, R s t → Yields (f a) t (fun _ _ => True) fun e _ => P e) :
    Yields (x >>= f) m (fun _ _ => True) fun e _ => P e :=
  ((hkeeps.then h).and (hx m)).seq (fun a t ht => hf a t ht.1) fun _ _ he => he.2

@[grind ←]
lemma stops_get : Stops P get :=
  fun _ => .get trivial

@[grind ←]
lemma stops_set (t : Session) : Stops P (set t) :=
  fun _ => .set trivial

@[grind ←]
lemma stops_modify (f : Session → Session) : Stops P (modify f) :=
  fun _ => .modify trivial

@[grind ←]
lemma stops_modifyWorld (f : World → World) : Stops P (modifyWorld f) :=
  stops_modify _

@[grind ←]
lemma stops_throw (h : P e) : Stops P (throw e : Launch α) :=
  fun _ => .throw h

@[grind ←]
lemma stops_lift {r : Try α} (h : Fails P r) : Stops P (lift r) := by
  intro s
  cases r with
  | ok a => exact .pure trivial
  | error e => exact .throw (h e rfl)

@[grind ←]
lemma Stops.catchFault {x : Launch α} {h : Fault → Launch α} (hx : Stops P x)
    (hh : ∀ f, P (.fault f) → Stops P (h f)) : Stops P (catchFault x h) :=
  fun s => (hx s).catchFault (fun f t hf => hh f hf t) fun _ _ hc => hc

lemma Stops.when {c : Prop} [Decidable c] {x : Launch PUnit} {f : PUnit → Launch β}
    (hx : Stops P x) (hf : ∀ u, Stops P (f u)) : Stops P (if c then x >>= f else f ⟨⟩) := by
  split
  · exact hx.bind hf
  · exact hf _

lemma Stops.unless {c : Prop} [Decidable c] {x : Launch PUnit} {f : PUnit → Launch β}
    (hx : Stops P x) (hf : ∀ u, Stops P (f u)) : Stops P (if c then f ⟨⟩ else x >>= f) := by
  split
  · exact hf _
  · exact hx.bind hf

@[grind ←]
lemma Stops.forM {f : β → Launch PUnit} (l : List β) (hf : ∀ b, Stops P (f b)) :
    Stops P (l.forM f) := by
  induction l with
  | nil => exact stops_pure _
  | cons b l ih => exact (hf b).bind fun _ => ih

@[grind ←]
lemma stops_display (v : Value) : Stops P (display v) := by
  unfold display namespaceOf
  grind

section Common

variable [Broad P]

@[grind ←]
lemma stops_throw_fault {f : Fault} (h : f.cause ≠ .timedOut) (h' : f.cause ≠ .notImplemented) :
    Stops P (throw (.fault f) : Launch α) :=
  stops_throw (Broad.common f (by simp [Stop.common, Stop.has, h, h']))

@[grind ←]
lemma stops_silent {c : Cause} (t : String) (h : c ≠ .timedOut) (h' : c ≠ .notImplemented) :
    Stops P (silent c t : Launch α) :=
  stops_throw_fault h h'

@[grind ←]
lemma stops_told {c : Cause} (t : String) (h : c ≠ .timedOut) (h' : c ≠ .notImplemented) :
    Stops P (told c t : Launch α) :=
  stops_throw_fault h h'

/-! ## Messages, texts and time -/

lemma reaches_error {level least : Value} (h : Log.reaches level least = .error e) :
    e = .silent .wrongType := by
  unfold Log.reaches at h
  grind

lemma deliver_error {r : Log.Registry} {is : List Nat} {record : Log.Record}
    {out : Log.Lines} (h : (r.deliver is record out).2.2 = .error e) :
    e = .silent .wrongType := by
  refine Log.Registry.deliver_induction (P := fun _ _ => True)
    (Q := fun _ x => x = .error e → e = .silent .wrongType) ?_ ?_ (fun _ _ _ => id) is out trivial h
  · rintro _ _ - ⟨⟩
  · rintro _ _ _ _ - he ⟨rfl⟩
    exact reaches_error he

lemma log_error {r : Log.Registry} {logger : String} {level : Int}
    (hlevel : level ∈ Log.knownLevels) {msg : Value} {now : Float} {args : List Value}
    (h : (r.log logger (.int level) msg now args).2.2 = .error e) :
    e = .silent .wrongType := by
  obtain ⟨label, hlabel⟩ := Log.exists_labelOf hlevel
  unfold Log.Registry.log at h
  simp only [Log.Record.ofValues, hlabel] at h
  split at h
  · exact deliver_error h
  · cases h
  · next e' he =>
    cases h
    cases hreaches : Log.reaches (.int level) r.leastLevel with
    | error e'' =>
      rw [hreaches] at he
      cases he
      exact reaches_error hreaches
    | ok reached =>
      rw [hreaches] at he
      cases reached <;> cases he

lemma stops_log (logger : String) {level : Int} (hlevel : level ∈ Log.knownLevels)
    (msg : String) (args : List Value) : Stops P (log logger level msg args) := by
  refine stops_get.bind fun s => (stops_set _).bind fun _ => Stops.bind ?_ fun _ => stops_lift ?_
  · refine Stops.forM _ fun line => ?_
    unfold writeTo write
    grind
  · intro e he
    rw [log_error hlevel he]
    exact Broad.common _ rfl

@[grind ←]
lemma stops_info (logger msg : String) : Stops P (info logger msg) :=
  stops_log logger (by decide) msg []

@[grind ←]
lemma stops_warn (logger msg : String) : Stops P (warn logger msg) :=
  stops_log logger (by decide) msg []

@[grind ←]
lemma stops_error (logger msg : String) : Stops P (error logger msg) :=
  stops_log logger (by decide) msg []

@[grind ←]
lemma stops_seconds (v : Value) : Stops P (seconds v) := by
  have floats (n : Number) : Fails P n.toFloat := by
    unfold Number.toFloat Number.floatOf Number.mistyped Number.overflowed
    grind
  unfold seconds
  grind

@[grind ←]
lemma stops_millis (x : Float) : Stops P (millis x) := by
  unfold millis
  grind

@[grind ←]
lemma stops_sleep (x : Float) : Stops P (sleep x) := by
  unfold sleep advance
  grind

@[grind ←]
lemma stops_sleepOn (x : Float) : Stops P (sleepOn x) := by
  unfold sleepOn Stop.bare Fault.bare
  grind

@[grind ←]
lemma stops_limitOf (timeout : Value) : Stops P (limitOf timeout) := by
  unfold limitOf
  grind

@[grind ←]
lemma stops_pause (timeout : Value) : Stops P (pause timeout) := by
  unfold pause advance
  grind

@[grind ←]
lemma stops_endsInTime (life : Script.Lifetime) (timeout : Value) :
    Stops P (endsInTime life timeout) := by
  unfold endsInTime advance Stop.bare Fault.bare
  grind

@[grind ←]
lemma stops_getNode (i : Nat) : Stops P (getNode i) := by
  unfold getNode
  grind

end Common

end Launch

end Launchpad
