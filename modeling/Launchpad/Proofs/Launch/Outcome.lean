import Launchpad.Session.Launcher
import Mathlib.Order.RelClasses

/-!
What an operation of a session ends with. `Yields` says what holds of the result and of the
session when an operation succeeds, and what holds of the session when it stops early; it takes an
operation apart step by step. `Keeps R` says that an operation relates the session before it to the
session after it by `R`, whatever ends it: for a preorder this passes from the parts of an
operation to the whole.
-/

/-- What is to hold of a result and of the session that comes with it. -/
abbrev Launchpad.Post (α : Type) := α → Launchpad.Session → Prop

abbrev Launchpad.SessionRel := Launchpad.Session → Launchpad.Session → Prop

namespace Launchpad.Launch

open List

variable {α β : Type}

/-- The session that an operation leaves behind, whatever ends it. -/
def after (x : Launch α) (s : Session) : Session :=
  match x.run s with
  | .ok _ t => t
  | .error _ t => t

/-- An operation that starts in `s` ends with a result and a session for which `Q` holds, or it
stops with a session for which `E` holds. -/
def Yields (x : Launch α) (s : Session) (Q : Post α) (E : Post Stop) : Prop :=
  match x.run s with
  | .ok a t => Q a t
  | .error e t => E e t

/-- An operation that starts in `s` leads to a session for which `P` holds, whatever ends it. -/
abbrev EndsIn (x : Launch α) (s : Session) (P : Session → Prop) : Prop :=
  Yields x s (fun _ => P) fun _ => P

/-- If an operation that starts in `s` succeeds, then with a result and a session for which `Q`
holds. -/
abbrev IfOk (x : Launch α) (s : Session) (Q : Post α) : Prop :=
  Yields x s Q fun _ _ => True

/-- An operation that starts in `s` succeeds, with a result and a session for which `Q` holds. -/
abbrev Succeeds (x : Launch α) (s : Session) (Q : Post α) : Prop :=
  Yields x s Q fun _ _ => False

/-- An operation relates the session before it to the session after it, whatever ends it. -/
def Keeps (R : SessionRel) (x : Launch α) : Prop :=
  ∀ s, Yields x s (fun _ t => R s t) (fun _ t => R s t)

/-- What is known when an operation stops early tells all that is to be known then. -/
class Weakens (E E' : Post Stop) : Prop where
  weaken : ∀ e t, E e t → E' e t

@[default_instance]
instance (E : Post Stop) : Weakens E E :=
  ⟨fun _ _ h => h⟩

instance (E : Post Stop) : Weakens (fun _ _ => False) E :=
  ⟨fun _ _ h => h.elim⟩

instance (E : Post Stop) : Weakens E fun _ _ => True :=
  ⟨fun _ _ _ => trivial⟩

section Yields

variable {s : Session} {E : Post Stop}
variable {Q : Post α} {x y : Launch α} {E' : Post Stop} {f : α → Launch β}
    {a : α} {t : Session} {e : Stop}

lemma yields_pure (a : α) : Yields (pure a) s Q E ↔ Q a s :=
  Iff.rfl

lemma yields_get {Q : Post Session} : Yields get s Q E ↔ Q s s :=
  Iff.rfl

lemma yields_set {Q : Post PUnit} (t : Session) : Yields (set t) s Q E ↔ Q ⟨⟩ t :=
  Iff.rfl

lemma yields_modify {Q : Post PUnit} (f : Session → Session) :
    Yields (modify f) s Q E ↔ Q ⟨⟩ (f s) :=
  Iff.rfl

lemma yields_throw (e : Stop) : Yields (throw e : Launch α) s Q E ↔ E e s :=
  Iff.rfl

lemma yields_bind {Q : Post β} (x : Launch α) (f : α → Launch β) :
    Yields (x >>= f) s Q E ↔ Yields x s (fun a t => Yields (f a) t Q E) E := by
  simp only [Yields, EStateM.run, bind, EStateM.bind]
  cases x s <;> rfl

protected lemma Yields.pure (h : Q a s) : Yields (pure a) s Q E :=
  (yields_pure a).2 h

protected lemma Yields.get {Q : Post Session} (h : Q s s) : Yields get s Q E :=
  yields_get.2 h

protected lemma Yields.set {Q : Post PUnit} (h : Q ⟨⟩ t) : Yields (set t) s Q E :=
  (yields_set t).2 h

protected lemma Yields.modify {Q : Post PUnit} {f : Session → Session}
    (h : Q ⟨⟩ (f s)) : Yields (modify f) s Q E :=
  (yields_modify f).2 h

protected lemma Yields.throw (h : E e s) : Yields (throw e : Launch α) s Q E :=
  (yields_throw e).2 h

lemma Yields.of_bind {Q : Post β}
    (h : Yields x s (fun a t => Yields (f a) t Q E) E) : Yields (x >>= f) s Q E :=
  (yields_bind x f).2 h

lemma yields_tryCatch (x : Launch α) (h : Stop → Launch α) :
    Yields (tryCatch x h) s Q E ↔ Yields x s Q fun e t => Yields (h e) t Q E := by
  simp only [Yields, EStateM.run, tryCatch, tryCatchThe, MonadExceptOf.tryCatch,
    EStateM.tryCatch]
  cases x s <;> rfl

lemma yields_lift {r : Try α} : Yields (lift r) s Q E ↔
    (∀ a, r = .ok a → Q a s) ∧ ∀ e, r = .error e → E e s := by
  cases r with
  | ok a => simp [lift, yields_pure]
  | error e => simp [lift, yields_throw]

variable {Q' : Post α}

lemma Yields.imp (h : Yields x s Q E) (hQ : ∀ a t, Q a t → Q' a t)
    (hE : ∀ e t, E e t → E' e t) :
    Yields x s Q' E' := by
  unfold Yields at h ⊢
  cases hx : x.run s with
  | ok a t => exact hQ a t (by simpa [hx] using h)
  | error e t => exact hE e t (by simpa [hx] using h)

lemma Yields.map (h : Yields x s Q E) (hQ : ∀ a t, Q a t → Q' a t)
    [Weakens E E'] : Yields x s Q' E' :=
  h.imp hQ Weakens.weaken

lemma Yields.and (h : Yields x s Q E) (h' : Yields x s Q' E') :
    Yields x s (fun a t => Q a t ∧ Q' a t) (fun e t => E e t ∧ E' e t) := by
  unfold Yields at h h' ⊢
  cases hx : x.run s with
  | ok a t => exact ⟨by simpa [hx] using h, by simpa [hx] using h'⟩
  | error e t => exact ⟨by simpa [hx] using h, by simpa [hx] using h'⟩

variable {P : Post α}

lemma Yields.seq {Q : Post β} (hx : Yields x s P E) (hf : ∀ a t, P a t → Yields (f a) t Q E')
    (hE : ∀ e t, E e t → E' e t) :
    Yields (x >>= f) s Q E' :=
  .of_bind (hx.imp hf hE)

lemma Yields.andThen {Q : Post β} (hx : Yields x s P E)
    (hf : ∀ a t, P a t → Yields (f a) t Q E') [Weakens E E'] : Yields (x >>= f) s Q E' :=
  hx.seq hf Weakens.weaken

lemma Yields.exactly {u : Session} {Q : Post β}
    (hx : Yields x s (fun b t => b = a ∧ t = u) E) (h : Yields (f a) u Q E') [Weakens E E'] :
    Yields (x >>= f) s Q E' :=
  hx.andThen fun b t ht => by rwa [ht.1, ht.2]

lemma Yields.bind {Q : Post β} (hx : Yields x s P E)
    (hf : ∀ a t, P a t → Yields (f a) t Q E) : Yields (x >>= f) s Q E :=
  hx.andThen hf

lemma Yields.ite {c : Prop} [Decidable c] (hx : Yields x s Q E) (hy : Yields y s Q E) :
    Yields (if c then x else y) s Q E := by
  split
  · exact hx
  · exact hy

lemma Yields.ite_of {c : Prop} [Decidable c] (hx : c → Yields x s Q E)
    (hy : ¬ c → Yields y s Q E) : Yields (if c then x else y) s Q E := by
  split
  · next h => exact hx h
  · next h => exact hy h

lemma Yields.catchFault_of {h : Fault → Launch α} {P : Post Stop} (hx : Yields x s Q P)
    (hh : ∀ f t, P (.fault f) t → Stop.handled? (.fault f) = some f → Yields (h f) t Q E)
    (he : ∀ e t, P e t → e.handled? = none → E e t) : Yields (catchFault x h) s Q E := by
  refine (yields_tryCatch _ _).2 (hx.imp (fun _ _ ha => ha) fun e t he' => ?_)
  split
  · next f hf =>
    obtain rfl := Stop.eq_of_handled? hf
    exact hh f t he' hf
  · next hf => exact .throw (he e t he' hf)

lemma Yields.catchFault {h : Fault → Launch α} {P : Post Stop} (hx : Yields x s Q P)
    (hh : ∀ f t, P (.fault f) t → Yields (h f) t Q E) (he : ∀ e t, P e t → E e t) :
    Yields (catchFault x h) s Q E :=
  hx.catchFault_of (fun f t ht _ => hh f t ht) fun e t ht _ => he e t ht

lemma Yields.always_of {y : Launch Unit} {A B D E : Session → Prop}
    (hx : Yields x s (fun _ t => A t) (fun _ t => D t))
    (hy : ∀ t, A t → Yields y t (fun _ u => B u) (fun _ u => E u))
    (hy' : ∀ t, D t → EndsIn y t E) :
    Yields (always x y) s (fun _ u => B u) (fun _ u => E u) := by
  refine .of_bind ((yields_tryCatch _ _).2 (hx.imp (fun r t ht => ?_) fun e t ht => ?_))
  · exact (hy t ht).bind fun _ _ hu => .pure hu
  · exact (hy' t ht).bind fun _ _ hu => .throw hu

lemma Yields.always {y : Launch Unit} {A B : Session → Prop}
    (hx : EndsIn x s A)
    (hy : ∀ t, A t → EndsIn y t B) : EndsIn (always x y) s B :=
  hx.always_of hy hy

lemma Yields.after {P : Session → Prop} (h : EndsIn x s P) : P (after x s) := by
  unfold EndsIn Yields at h
  unfold Launch.after
  cases hx : x.run s <;> simpa [hx] using h

lemma yields_self (x : Launch α) (s : Session) :
    Yields x s (fun a t => x.run s = .ok a t) (fun e t => x.run s = .error e t) := by
  unfold Yields
  cases x.run s <;> rfl

lemma yields_after (x : Launch α) (s : Session) : EndsIn x s (fun t => t = x.after s) := by
  unfold EndsIn Yields Launch.after
  cases x.run s <;> rfl

lemma after_always (x : Launch α) (y : Launch Unit) (s : Session) :
    (always x y).after s = y.after (x.after s) := by
  refine ((yields_after x s).always (B := (· = y.after (x.after s))) fun t ht => ?_).after
  rw [ht]
  exact yields_after y _

lemma after_of_ok (h : x.run s = .ok a t) : x.after s = t := by
  rw [Launch.after, h]

lemma after_of_error (h : x.run s = .error e t) : x.after s = t := by
  rw [Launch.after, h]

lemma yields_run_ok (h : Yields x s Q E) (hx : x.run s = .ok a t) : Q a t := by
  simpa [Yields, hx] using h

lemma yields_run_error (h : Yields x s Q E) (hx : x.run s = .error e t) : E e t := by
  simpa [Yields, hx] using h

lemma Yields.exists_ok (h : Succeeds x s Q) : ∃ a t, x.run s = .ok a t ∧ Q a t := by
  cases hx : x.run s with
  | ok a t => exact ⟨a, t, rfl, yields_run_ok h hx⟩
  | error e t => exact (yields_run_error h hx).elim

lemma Yields.exists_error (h : Yields x s (fun _ _ => False) E) :
    ∃ e t, x.run s = .error e t ∧ E e t := by
  cases hx : x.run s with
  | ok a t => exact (yields_run_ok h hx).elim
  | error e t => exact ⟨e, t, rfl, yields_run_error h hx⟩

lemma yields_of_run_ok (hx : x.run s = .ok a t) (h : Q a t) : Yields x s Q E := by
  rw [Yields, hx]
  exact h

lemma yields_of_run_error (hx : x.run s = .error e t) (h : E e t) : Yields x s Q E := by
  rw [Yields, hx]
  exact h

def returns (x : Launch α) (s : Session) : Bool :=
  match x.run s with
  | .ok _ _ => true
  | .error _ _ => false

lemma run_eq_of_returns {x : Launch Unit} (h : x.returns s) : x.run s = .ok () (x.after s) := by
  unfold returns at h
  unfold Launch.after
  cases hx : x.run s with
  | ok _ t => rfl
  | error e t => simp [hx] at h

lemma after_bind_of_ok (h : x.run s = .ok a t) : (x >>= f).after s = (f a).after t := by
  unfold Launch.after
  simp only [EStateM.run, bind, EStateM.bind] at h ⊢
  rw [h]

lemma after_bind_of_error (h : x.run s = .error e t) : (x >>= f).after s = t := by
  unfold Launch.after
  simp only [EStateM.run, bind, EStateM.bind] at h ⊢
  rw [h]

lemma after_bind_unit (x : Launch Unit) (f : Unit → Launch β) (s : Session) :
    (x >>= f).after s = if x.returns s then (f ()).after (x.after s) else x.after s := by
  unfold returns
  cases hx : x.run s with
  | ok _ t => rw [after_bind_of_ok hx, after_of_ok hx, if_pos rfl]
  | error e t => rw [after_bind_of_error hx, after_of_error hx, if_neg Bool.false_ne_true]

def result? (x : Launch α) (s : Session) : Option α :=
  match x.run s with
  | .ok a _ => some a
  | .error _ _ => none

lemma run_of_result? (h : result? x s = some a) : x.run s = .ok a (x.after s) := by
  unfold result? at h
  unfold Launch.after
  cases hrun : x.run s with
  | ok b u =>
    rw [hrun] at h
    cases h
    rfl
  | error e u =>
    rw [hrun] at h
    cases h

lemma bind_eq_ok {x : Try α} {f : α → Try β} {b : β} :
    (x >>= f) = .ok b ↔ ∃ a, x = .ok a ∧ f a = .ok b := by
  cases x with
  | ok a => exact ⟨fun h => ⟨a, rfl, h⟩, by rintro ⟨_, ⟨rfl⟩, h⟩; exact h⟩
  | error e => exact ⟨fun h => (by cases h), by rintro ⟨_, h, _⟩; cases h⟩

lemma run_bind_of_ok (h : x.run s = .ok a t) : (x >>= f).run s = (f a).run t := by
  simp only [EStateM.run, bind, EStateM.bind] at h ⊢
  rw [h]

lemma run_bind_of_error (h : x.run s = .error e t) : (x >>= f).run s = .error e t := by
  simp only [EStateM.run, bind, EStateM.bind] at h ⊢
  rw [h]

lemma Yields.congr {u : Session} (h : Yields y u Q E) (hrun : x.run s = y.run u) :
    Yields x s Q E := by
  unfold Yields at h ⊢
  rwa [hrun]

lemma run_bind_congr (h : x.run s = y.run s) (f : α → Launch β) :
    (x >>= f).run s = (y >>= f).run s := by
  simp only [EStateM.run, bind, EStateM.bind] at h ⊢
  rw [h]

lemma run_bind_eq_ok {b : β} :
    (x >>= f).run s = .ok b t ↔ ∃ a u, x.run s = .ok a u ∧ (f a).run u = .ok b t := by
  simp only [EStateM.run, bind, EStateM.bind]
  cases x s with
  | ok a u => exact ⟨fun h => ⟨a, u, rfl, h⟩, by rintro ⟨_, _, ⟨rfl, rfl⟩, h⟩; exact h⟩
  | error e u => exact ⟨nofun, by rintro ⟨_, _, h, _⟩; cases h⟩

end Yields

section Keeps

variable {R : SessionRel}
variable {x : Launch α} {c : Prop} {s : Session} {f : α → Launch β}

lemma Keeps.mono {R' : SessionRel} (hx : Keeps R x) (h : ∀ s t, R s t → R' s t) : Keeps R' x :=
  fun s => (hx s).imp (fun _ t => h s t) (fun _ t => h s t)

lemma Keeps.after (hx : Keeps R x) (s : Session) : R s (after x s) :=
  (hx s).after

lemma keeps_modify {f : Session → Session} (h : ∀ s, R s (f s)) : Keeps R (modify f) :=
  h

lemma Keeps.ite [Decidable c] {y : Launch α} (hx : Keeps R x) (hy : Keeps R y) :
    Keeps R (if c then x else y) := by
  split
  · exact hx
  · exact hy

variable {E : Post Stop}

lemma yields_mapM {f : β → Launch α} {Q : α → Prop} {m : Session}
    (l : List β) (hf : ∀ b ∈ l, ∀ t, R s t → Yields (f b) t (fun a u => R s u ∧ Q a) E)
    (h : R s m) : Yields (l.mapM f) m (fun as t => R s t ∧ ∀ a ∈ as, Q a) E := by
  induction l generalizing m with
  | nil => exact .pure ⟨h, nofun⟩
  | cons b l ih =>
    rw [mapM_cons]
    refine (hf b mem_cons_self m h).bind ?_
    rintro a t ⟨ht, ha⟩
    refine (ih (fun c hc => hf c (mem_cons_of_mem _ hc)) ht).bind ?_
    rintro as u ⟨hu, has⟩
    exact .pure ⟨hu, forall_mem_cons.2 ⟨ha, has⟩⟩

variable [IsPreorder Session R]

@[grind ←]
protected lemma Keeps.pure {a : α} : Keeps R (pure a) :=
  fun s => refl_of R s

@[grind ←]
lemma keeps_get : Keeps R get :=
  fun s => refl_of R s

@[grind ←]
protected lemma Keeps.throw {e : Stop} : Keeps R (throw e : Launch α) :=
  fun s => refl_of R s

lemma Keeps.then (hx : Keeps R x) {t : Session} (h : R s t) :
    Yields x t (fun _ u => R s u) (fun _ u => R s u) :=
  (hx t).imp (fun _ _ hu => trans_of R h hu) (fun _ _ hu => trans_of R h hu)

@[grind ←]
lemma Keeps.bind (hx : Keeps R x) (hf : ∀ a, Keeps R (f a)) : Keeps R (x >>= f) :=
  fun s => (hx s).bind fun a _ h => (hf a).then h

lemma Keeps.followed {Q : Post β} {m : Session}
    (hx : Keeps R x) (h : R s m) (hf : ∀ a t, R s t → Yields (f a) t Q E)
    (hE : ∀ e t, R s t → E e t) :
    Yields (x >>= f) m Q E :=
  .of_bind ((hx.then h).imp hf hE)

lemma Keeps.along {Q : Post β} {m : Session}
    (hx : Keeps R x) (h : R s m) (hf : ∀ a t, R s t → Yields (f a) t Q E)
    [Weakens (fun _ t => R s t) E] : Yields (x >>= f) m Q E :=
  hx.followed h hf Weakens.weaken

lemma Keeps.ite_bind [Decidable c] {y : Launch α} (hx : Keeps R x) (hy : Keeps R y)
    (hf : ∀ a, Keeps R (f a)) : Keeps R (if c then x >>= f else y >>= f) :=
  Keeps.ite (hx.bind hf) (hy.bind hf)

lemma Keeps.when [Decidable c] {x : Launch PUnit} {f : PUnit → Launch β} (hx : Keeps R x)
    (hf : ∀ u, Keeps R (f u)) : Keeps R (if c then x >>= f else f ⟨⟩) :=
  Keeps.ite (hx.bind hf) (hf _)

lemma Keeps.unless [Decidable c] {x : Launch PUnit} {f : PUnit → Launch β} (hx : Keeps R x)
    (hf : ∀ u, Keeps R (f u)) : Keeps R (if c then f ⟨⟩ else x >>= f) :=
  Keeps.ite (hf _) (hx.bind hf)

@[grind ←]
lemma Keeps.tryCatch {h : Stop → Launch α} (hx : Keeps R x) (hh : ∀ e, Keeps R (h e)) :
    Keeps R (tryCatch x h) :=
  fun s => (yields_tryCatch x h).2 ((hx s).imp (fun _ _ ht => ht) fun e _ ht => (hh e).then ht)

@[grind ←]
lemma Keeps.catchFault {h : Fault → Launch α} (hx : Keeps R x) (hh : ∀ f, Keeps R (h f)) :
    Keeps R (catchFault x h) := by
  refine hx.tryCatch fun e => ?_
  split
  · exact hh _
  · exact .throw

@[grind ←]
lemma Keeps.always {y : Launch Unit} (hx : Keeps R x) (hy : Keeps R y) : Keeps R (always x y) := by
  refine Keeps.bind (hx.tryCatch fun e => ?_) fun r => ?_
  · exact hy.bind fun _ => .throw
  · exact hy.bind fun _ => .pure

@[grind ←]
lemma Keeps.forM {f : β → Launch PUnit} (l : List β) (hf : ∀ b ∈ l, Keeps R (f b)) :
    Keeps R (l.forM f) := by
  induction l with
  | nil => exact .pure
  | cons b l ih =>
    refine Keeps.bind (hf b mem_cons_self) fun _ => ih fun c hc => ?_
    exact hf c (mem_cons_of_mem _ hc)

@[grind ←]
lemma Keeps.mapM {f : β → Launch α} (l : List β) (hf : ∀ b ∈ l, Keeps R (f b)) :
    Keeps R (l.mapM f) := by
  induction l with
  | nil => exact .pure
  | cons b l ih =>
    rw [mapM_cons]
    refine Keeps.bind (hf b mem_cons_self) fun _ => Keeps.bind (ih fun c hc => ?_) fun _ => ?_
    · exact hf c (mem_cons_of_mem _ hc)
    · exact .pure

@[grind ←]
lemma Keeps.findSomeM? {f : β → Launch (Option α)} (l : List β) (hf : ∀ b, Keeps R (f b)) :
    Keeps R (l.findSomeM? f) := by
  induction l with
  | nil => exact .pure
  | cons b l ih =>
    refine (hf b).bind fun r => ?_
    cases r with
    | none => exact ih
    | some a => exact .pure

end Keeps

-- Otherwise the operations of a goal are run as far as they go whenever its type is looked at.
attribute [irreducible] Yields

end Launchpad.Launch
