import Launchpad.Proofs.Shutdown.Sound
import Mathlib.Data.Multiset.OrderedMonoid

/-!
Callbacks that are code of their own. A callback may register further callbacks, end the launch
once more from inside, do other work and fail, in any order, depending on what it sees. The history
of a run tells when a callback was registered, when it was called, and when a shutdown began; the
books over what is owed to the callbacks are kept along it. Who waits without an end does nothing any
more, and callbacks that it was about to call are lost.
-/

namespace Launchpad.Launch

open List

open Session (core single)

/-- What code outside the launcher can do. The work that has nothing to do with the callbacks of the
launcher is arbitrary, as long as the launcher stays in order and nothing worse than a fault
happens. -/
inductive Deed where
  | register (callback : Value)
  | shutdown (reason signal : Value)
  | work (x : Launch Unit) (orderly : Keeps Orderly x) (faults : Faults x)

/-- Code outside the launcher: what it does next may depend on the session. -/
inductive Code where
  | done
  | fail (f : Fault)
  | act (a : Deed) (next : Session → Code)

inductive Incident where
  | registered (callback : Value)
  | called (callback : Value)
  /-- A shutdown begins, which can be nested in others but has still room for so many more. -/
  | shutdown (level : Nat) (reason signal : Value) (s : Session)

def endless (x : Launch Unit) (s : Session) : Bool :=
  match x.run s with
  | .ok _ _ => false
  | .error e _ => e.has .endless

section Run

variable (shut : Value → Value → Launch Unit) (log : Value → Value → Session → List Incident)

def Deed.run : Deed → Launch Unit
  | .register cb => addShutdownCallback cb
  | .shutdown reason signal => shut reason signal
  | .work x _ _ => x

def Deed.history : Deed → Session → List Incident
  | .register cb, _ => [.registered cb]
  | .shutdown reason signal, s => log reason signal s
  | .work _ _ _, _ => []

def Code.run : Code → Launch Unit
  | .done => pure ()
  | .fail f => throw (.fault f)
  | .act a next => do
    a.run shut
    let s ← get
    (next s).run

def Code.history : Code → Session → List Incident
  | .done, _ => []
  | .fail _, _ => []
  | .act a next, s => a.history log s ++ match (a.run shut).run s with
    | .ok _ t => (next t).history t
    | .error _ _ => []

/-- The history of callbacks that are called one after the other, as far as it gets. -/
def callsHistory (call : Value → Launch Unit) (log : Value → Session → List Incident)
    (l : Launcher) : List Value → Session → List Incident
  | [], _ => []
  | cb :: cbs, s => .called cb :: (log cb s ++ match (callOnce call l cb).run s with
    | .ok _ t => callsHistory call log l cbs t
    | .error _ _ => [])

def doAll (deeds : List Deed) (s : Session) : Session :=
  deeds.foldl (fun s a => (a.run shut).after s) s

/-- Is there a deed among these that waits without an end? -/
def hangs : List Deed → Session → Bool
  | [], _ => false
  | a :: deeds, s => endless (a.run shut) s || hangs deeds ((a.run shut).after s)

def historyOf : List Deed → Session → List Incident
  | [], _ => []
  | a :: deeds, s => a.history log s ++ historyOf deeds ((a.run shut).after s)

end Run

section Shutdown

variable (code : Value → Session → Code)

/-- Calls a callback that is code of its own. -/
def callCode (shut : Value → Value → Launch Unit) (cb : Value) : Launch Unit := do
  let s ← get
  (code cb s).run shut

/-- The end of a launch, where shutdowns can be nested to some depth. -/
def shutdownAt : Nat → Value → Value → Launch Unit
  | 0, _, _ => silent .recursion
  | level + 1, reason, signal => shutdownBy (callCode code (shutdownAt level)) reason signal

def shutdownHistory : Nat → Value → Value → Session → List Incident
  | 0, _, _, _ => []
  | level + 1, reason, signal, s => .shutdown level reason signal s ::
    match (closeAll reason signal).run s with
    | .ok (l, callbacks) t =>
      callsHistory (callCode code (shutdownAt code level)) (fun cb u =>
        (code cb u).history (shutdownAt code level) (shutdownHistory level) u) l callbacks t
    | .error _ _ => []

end Shutdown

/-- Callbacks that do nothing but their work. -/
def plainCode (cb : Value) (_ : Session) : Code :=
  .act (.work (callPlainly cb) (keeps_callValue.bind fun _ => .pure)
    ((stops_callValue (P := Stop.IsFault) cb []).bind fun _ => stops_pure _)) fun _ => .done

lemma shutdownAt_plainCode (level : Nat) : shutdownAt plainCode (level + 1) = shutdownAll := by
  have plain (shut : Value → Value → Launch Unit) (cb : Value) :
      callCode plainCode shut cb = callPlainly cb := by
    funext s
    change (callPlainly cb >>= fun _ => pure ()) s = _
    simp only [bind, EStateM.bind]
    cases callPlainly cb s <;> rfl
  funext reason signal
  rw [shutdownAt, shutdownAll, funext (plain _)]

/-! ## The books -/

def Incident.registered? : Incident → Option Value
  | .registered cb => some cb
  | _ => none

def Incident.called? : Incident → Option Value
  | .called cb => some cb
  | _ => none

def registered (history : List Incident) : Multiset Value :=
  history.filterMap Incident.registered?

def called (history : List Incident) : Multiset Value :=
  history.filterMap Incident.called?

/-- A history leads from the calls that are owed before it to those that are owed after it: only
what is owed is called. -/
inductive Accounts : Multiset Value → List Incident → Multiset Value → Prop where
  | nil (owed : Multiset Value) : Accounts owed [] owed
  | registered {cb : Value} {owed left : Multiset Value} {history : List Incident}
      (h : Accounts (cb ::ₘ owed) history left) : Accounts owed (.registered cb :: history) left
  | called {cb : Value} {owed left : Multiset Value} {history : List Incident}
      (h : Accounts owed history left) : Accounts (cb ::ₘ owed) (.called cb :: history) left
  | shutdown {level : Nat} {reason signal : Value} {s : Session} {owed left : Multiset Value}
      {history : List Incident} (h : Accounts owed history left) :
      Accounts owed (.shutdown level reason signal s :: history) left

namespace Accounts

variable {owed left rest : Multiset Value} {history later : List Incident}

lemma append (h : Accounts owed history left) (h' : Accounts left later rest) :
    Accounts owed (history ++ later) rest := by
  induction h with
  | nil => exact h'
  | registered _ ih => exact .registered (ih h')
  | called _ ih => exact .called (ih h')
  | shutdown _ ih => exact .shutdown (ih h')

lemma add (h : Accounts owed history left) (more : Multiset Value) :
    Accounts (owed + more) history (left + more) := by
  induction h with
  | nil => exact .nil _
  | registered _ ih =>
    rw [Multiset.cons_add] at ih
    exact .registered ih
  | called _ ih =>
    rw [Multiset.cons_add]
    exact .called ih
  | shutdown _ ih => exact .shutdown ih

lemma balance (h : Accounts owed history left) :
    Launch.called history + left = owed + Launch.registered history := by
  induction h with
  | nil owed => exact (zero_add owed).trans (add_zero owed).symm
  | @registered cb owed left history h ih =>
    have hreg : Launch.registered (.registered cb :: history) =
      cb ::ₘ Launch.registered history := rfl
    rw [hreg, Multiset.add_cons, ← Multiset.cons_add]
    exact ih
  | @called cb owed left history h ih =>
    have hcall : Launch.called (.called cb :: history) = cb ::ₘ Launch.called history := rfl
    rw [hcall, Multiset.cons_add, ih, Multiset.cons_add]
    rfl
  | shutdown _ ih => exact ih

lemma of_append (h : Accounts owed (history ++ later) left) :
    ∃ left, Accounts owed history left := by
  induction history generalizing owed with
  | nil => exact ⟨owed, .nil owed⟩
  | cons x history ih =>
    cases h with
    | registered h =>
      obtain ⟨left, hleft⟩ := ih h
      exact ⟨left, .registered hleft⟩
    | called h =>
      obtain ⟨left, hleft⟩ := ih h
      exact ⟨left, .called hleft⟩
    | shutdown h =>
      obtain ⟨left, hleft⟩ := ih h
      exact ⟨left, .shutdown hleft⟩

lemma called_le (h : Accounts owed history left) :
    Launch.called history ≤ owed + Launch.registered history :=
  h.balance ▸ Multiset.le_add_right _ _

end Accounts

/-! ## What a run keeps -/

/-- While a history goes by, the launcher stays in order: shutdowns begin in sound sessions only, and
what had ended still has. -/
structure Passes (s : Session) (history : List Incident) (t : Session) : Prop where
  sound : t.Sound
  ended : s.core.ended → t.core.ended
  began : ∀ level reason signal u, .shutdown level reason signal u ∈ history → u.Sound

/-- A history leads from one session to another; some callbacks may be lost on the way. -/
structure Leads (s : Session) (history : List Incident) (lost : Multiset Value) (t : Session) :
    Prop extends Passes s history t where
  accounts : Accounts s.core.pending history (t.core.pending + lost)

variable {s t u : Session} {history later : List Incident} {lost more : Multiset Value}
variable {E : Post Stop}

lemma Passes.append (h : Passes s history t) (h' : Passes t later u) :
    Passes s (history ++ later) u := by
  refine ⟨h'.sound, h'.ended ∘ h.ended, fun level reason signal v hv => ?_⟩
  rcases mem_append.1 hv with hv | hv
  · exact h.began _ _ _ v hv
  · exact h'.began _ _ _ v hv

lemma Passes.called (h : Passes s history t) (cb : Value) : Passes s (.called cb :: history) t := by
  refine ⟨h.sound, h.ended, fun level reason signal v hv => h.began level reason signal v ?_⟩
  simpa using hv

namespace Leads

lemma of_orderly (h : Orderly s t) (hs : s.Sound) : Leads s [] 0 t := by
  refine ⟨⟨h.sound hs, h.ended, fun _ _ _ _ hmem => absurd hmem not_mem_nil⟩, ?_⟩
  rw [h.pending, add_zero]
  exact .nil _

lemma append (h : Leads s history lost t) (h' : Leads t later more u) :
    Leads s (history ++ later) (more + lost) u := by
  refine ⟨h.toPasses.append h'.toPasses, h.accounts.append ?_⟩
  rw [← add_assoc]
  exact h'.accounts.add lost

lemma andThen (h : Leads s history 0 t) (h' : Leads t later more u) :
    Leads s (history ++ later) more u := by
  have hboth := h.append h'
  rwa [add_zero] at hboth

lemma orderly (h : Leads s history lost t) (h' : Orderly t u) : Leads s history lost u := by
  have hboth := h.append (of_orderly h' h.sound)
  rwa [append_nil, zero_add] at hboth

end Leads

/-- From every sound session an operation leads on by a history, whatever ends it, and nothing
worse than a fault does. Callbacks are lost only if it waits without an end. -/
def Chronicled (x : Launch Unit) (log : Session → List Incident) : Prop :=
  ∀ s, s.Sound → Yields x s (fun _ t => Leads s (log s) 0 t)
    (fun e t => e.IsFault ∧ ∃ lost, Leads s (log s) lost t ∧ (lost = 0 ∨ e.handled? = none))

lemma Chronicled.after {x : Launch Unit} {log : Session → List Incident} (h : Chronicled x log)
    (hs : s.Sound) :
    ∃ lost, Leads s (log s) lost (x.after s) ∧ (lost = 0 ∨ endless x s = true) := by
  have hx := h s hs
  unfold Launch.after endless
  cases hrun : x.run s with
  | ok a t =>
    have hleads := yields_run_ok hx hrun
    exact ⟨0, hleads, .inl rfl⟩
  | error e t =>
    obtain ⟨hfault, lost, hleads, hlost⟩ := yields_run_error hx hrun
    exact ⟨lost, hleads, hlost.imp_right fun hnone => Stop.Endless.has ⟨hfault, hnone⟩⟩

lemma leads_addShutdownCallback (hs : s.Sound) (cb : Value) :
    Yields (addShutdownCallback cb) s (fun _ t => Leads s [.registered cb] 0 t) E := by
  obtain ⟨l, hl, hlt, hroot, hservice⟩ := hs.exists_launcher
  refine .modify ⟨⟨⟨⟨⟨{ l with callbacks := l.callbacks ++ [cb], adapterRunning := false },
    ?_, hlt, hroot, ?_⟩, hs.core.children, hs.core.nodes⟩, hs.log⟩, ?_, by simp⟩, ?_⟩
  · simp only [core, hl, Option.map_some]
  · simpa [core] using hservice
  · simp only [Session.Core.ended, core, hl, Option.map_some]
    exact id
  · refine .registered ?_
    simp only [Session.Core.pending, core, hl, Option.map_some, Option.getD_some]
    rw [← Multiset.coe_add, add_zero, add_comm]
    exact .nil _

section Chronicled

variable {shut : Value → Value → Launch Unit} {log : Value → Value → Session → List Incident}
  (hshut : ∀ reason signal, Chronicled (shut reason signal) (log reason signal))

include hshut

lemma chronicled_deed (a : Deed) : Chronicled (a.run shut) (a.history log) := by
  intro s hs
  cases a with
  | register cb => exact leads_addShutdownCallback hs cb
  | shutdown reason signal => exact hshut reason signal s hs
  | work x orderly faults =>
    refine ((orderly s).and (faults s)).imp (fun _ t ht => ?_) fun _ t ht => ?_
    · exact .of_orderly ht.1 hs
    · exact ⟨ht.2, 0, .of_orderly ht.1 hs, .inl rfl⟩

lemma chronicled_code (c : Code) : Chronicled (c.run shut) (c.history shut log) := by
  induction c with
  | done => exact fun s hs => .pure (.of_orderly (refl_of Orderly s) hs)
  | fail f =>
    exact fun s hs => .throw ⟨⟨f, rfl⟩, 0, .of_orderly (refl_of Orderly s) hs, .inl rfl⟩
  | act a next ih =>
    intro s hs
    have hfirst := chronicled_deed hshut a s hs
    simp only [Code.run, Code.history]
    cases hrun : (a.run shut).run s with
    | error e t =>
      refine .of_bind (yields_of_run_error hrun ?_)
      rw [append_nil]
      exact yields_run_error hfirst hrun
    | ok _ t =>
      have hlead := yields_run_ok hfirst hrun
      refine .of_bind (yields_of_run_ok hrun (.of_bind (.get ?_)))
      refine (ih t t hlead.sound).imp (fun _ u hu => hlead.andThen hu) ?_
      rintro e u ⟨hfault, lost, hu, hlost⟩
      exact ⟨hfault, lost, hlead.andThen hu, hlost⟩

lemma chronicled_callCode (code : Value → Session → Code) (cb : Value) :
    Chronicled (callCode code shut cb) fun u => (code cb u).history shut log u := by
  intro s hs
  refine .of_bind (.get ?_)
  exact chronicled_code hshut (code cb s) s hs

lemma leads_doAll (deeds : List Deed) (hs : s.Sound) :
    ∃ lost, Leads s (historyOf shut log deeds s) lost (doAll shut deeds s) ∧
      (lost = 0 ∨ hangs shut deeds s = true) := by
  induction deeds generalizing s with
  | nil => exact ⟨0, .of_orderly (refl_of Orderly s) hs, .inl rfl⟩
  | cons a deeds ih =>
    obtain ⟨lost, hfirst, hlost⟩ := (chronicled_deed hshut a).after hs
    obtain ⟨more, hrest, hmore⟩ := ih hfirst.sound
    refine ⟨more + lost, hfirst.append hrest, ?_⟩
    rw [hangs, Bool.or_eq_true]
    rcases hlost with rfl | hlost
    · exact hmore.imp (fun h => by rw [h, add_zero]) .inr
    · exact .inr (.inl hlost)

end Chronicled

/-! ## Calling the callbacks -/

@[simp]
lemma called_append (a b : List Incident) : called (a ++ b) = called a + called b := by
  simp [called]

lemma called_cons (cb : Value) (history : List Incident) :
    called (.called cb :: history) = cb ::ₘ called history :=
  rfl

section Calls

variable {call : Value → Launch Unit} {log : Value → Session → List Incident}
  (hcall : ∀ cb, Chronicled (call cb) (log cb))

include hcall

lemma yields_callOnce (hs : s.Sound) (l : Launcher) (cb : Value) :
    Yields (callOnce call l cb) s (fun _ t => Leads s (log cb s) 0 t)
      (fun e t => e.Endless ∧ ∃ lost, Leads s (log cb s) lost t) := by
  refine (hcall cb s hs).catchFault_of ?_ ?_
  · rintro f t ⟨-, lost, ht, rfl | hnone⟩ hsome
    · have plain : Log.StartsPlain s!"Shutdown callback failed: {f.text}" :=
        Log.StartsPlain.append ⟨'S', _, rfl, by decide⟩ _
      refine (yields_log_unmarked (R := Orderly) _ (by decide) plain ht.sound.log _).map
        fun _ u hu => ?_
      exact ht.orderly hu
    · rw [hnone] at hsome
      cases hsome
  · rintro e t ⟨hfault, lost, ht, -⟩ hnone
    exact ⟨⟨hfault, hnone⟩, lost, ht⟩

/-- Callbacks that have been taken off the launcher are owed their calls until they are called. -/
lemma yields_calls (l : Launcher) (cbs : List Value) (hs : s.Sound) :
    let history := callsHistory call log l cbs s
    Yields (cbs.forM (callOnce call l)) s
      (fun _ t => Passes s history t ∧ Accounts (s.core.pending + cbs) history t.core.pending ∧
        cbs ≤ called history)
      (fun e t => e.Endless ∧ Passes s history t ∧
        ∃ lost, Accounts (s.core.pending + cbs) history (t.core.pending + lost)) := by
  induction cbs generalizing s with
  | nil =>
    have hstays := Leads.of_orderly (refl_of Orderly s) hs
    refine .pure ⟨hstays.toPasses, ?_, Multiset.zero_le _⟩
    rw [Multiset.coe_nil, add_zero]
    exact .nil _
  | cons cb cbs ih =>
    have hfirst := yields_callOnce hcall hs l cb
    rw [callsHistory, ← Multiset.cons_coe, Multiset.add_cons]
    cases hrun : (callOnce call l cb).run s with
    | error e t =>
      obtain ⟨hendless, lost, ht⟩ := yields_run_error hfirst hrun
      refine .of_bind (yields_of_run_error hrun ⟨hendless, ?_, lost + cbs, .called ?_⟩)
      · rw [append_nil]
        exact ht.toPasses.called cb
      · rw [append_nil, ← add_assoc]
        exact ht.accounts.add cbs
    | ok _ t =>
      have ht := yields_run_ok hfirst hrun
      have haccounts := ht.accounts.add cbs
      rw [add_zero] at haccounts
      refine .of_bind (yields_of_run_ok hrun ((ih ht.sound).imp ?_ ?_))
      · rintro _ u ⟨hpasses, hrest, hcalled⟩
        refine ⟨(ht.toPasses.append hpasses).called cb, .called (haccounts.append hrest), ?_⟩
        rw [called_cons, called_append]
        exact Multiset.cons_le_cons cb (hcalled.trans (Multiset.le_add_left _ _))
      · rintro e u ⟨hendless, hpasses, lost, hrest⟩
        exact ⟨hendless, (ht.toPasses.append hpasses).called cb, lost,
          .called (haccounts.append hrest)⟩

end Calls

/-! ## Shutdowns -/

variable (code : Value → Session → Code)

lemma yields_shutdownAt {level : Nat} (hs : s.Sound) (reason signal : Value)
    (hlevel : ∀ reason signal, Chronicled (shutdownAt code level reason signal)
      (shutdownHistory code level reason signal)) :
    let history := shutdownHistory code (level + 1) reason signal s
    Yields (shutdownAt code (level + 1) reason signal) s
      (fun _ t => Leads s history 0 t ∧ t.core.ended ∧ s.core.pending ≤ called history)
      (fun e t => e.Endless ∧ ∃ lost, Leads s history lost t) := by
  have hfirst := yields_closeAll hs reason signal
  have began {history : List Incident} {t u : Session} (h : Passes t history u)
      (hended : s.core.ended → u.core.ended) :
      Passes s (.shutdown level reason signal s :: history) u := by
    refine ⟨h.sound, hended, fun level' reason' signal' v hv => ?_⟩
    rcases mem_cons.1 hv with heq | hv
    · cases heq
      exact hs
    · exact h.began _ _ _ v hv
  simp only [shutdownAt, shutdownBy_eq, shutdownHistory]
  cases hclose : (closeAll reason signal).run s with
  | error e t =>
    obtain ⟨hendless, hquiet⟩ := yields_run_error hfirst hclose
    have hstays := Leads.of_orderly hquiet.orderly hs
    exact .of_bind (yields_of_run_error hclose
      ⟨hendless, 0, began hstays.toPasses hstays.ended, .shutdown hstays.accounts⟩)
  | ok r t =>
    obtain ⟨l, callbacks⟩ := r
    obtain ⟨rfl, hpending, hended, hsound⟩ := yields_run_ok hfirst hclose
    refine .of_bind (yields_of_run_ok hclose ?_)
    refine (yields_calls (fun cb => chronicled_callCode hlevel code cb) l _ hsound).imp ?_ ?_
    · rintro _ u ⟨hpasses, haccounts, hcalled⟩
      rw [hpending, Multiset.coe_nil, zero_add] at haccounts
      refine ⟨⟨began hpasses fun _ => hpasses.ended hended, .shutdown ?_⟩, hpasses.ended hended,
        hcalled⟩
      rw [add_zero]
      exact haccounts
    · rintro e u ⟨hendless, hpasses, lost, haccounts⟩
      rw [hpending, Multiset.coe_nil, zero_add] at haccounts
      exact ⟨hendless, lost, began hpasses fun _ => hpasses.ended hended, .shutdown haccounts⟩

lemma chronicled_shutdownAt (level : Nat) (reason signal : Value) :
    Chronicled (shutdownAt code level reason signal)
      (shutdownHistory code level reason signal) := by
  induction level generalizing reason signal with
  | zero =>
    exact fun s hs => .throw ⟨⟨_, rfl⟩, 0, .of_orderly (refl_of Orderly s) hs, .inl rfl⟩
  | succ level ih =>
    refine fun s hs => (yields_shutdownAt code hs reason signal ih).imp (fun _ _ h => h.1) ?_
    rintro e t ⟨hendless, lost, ht⟩
    exact ⟨hendless.1, lost, ht, .inr hendless.2⟩

/-- A shutdown is complete: every node that the launcher knows of is asked to end before the last
steps are taken, it ends with a result, and then the launch has ended. -/
def Completes (level : Nat) (reason signal : Value) (s : Session) : Prop :=
  ∃ l nodes t u v, Closes reason signal l nodes s t u ∧
    (shutdownAt code (level + 1) reason signal).run s =
      (lastSteps.forM (ShutdownStep.takeBy (callCode code (shutdownAt code level)) l reason
        signal)).run u ∧
    (shutdownAt code (level + 1) reason signal).run s = .ok () v ∧ isShutdown.run v = .ok true v

lemma completes_of_sound (hs : s.Sound) (level : Nat) (reason signal : Value) :
    endless (shutdownAt code (level + 1) reason signal) s ∨ Completes code level reason signal s := by
  have hyields := yields_shutdownAt code hs reason signal (chronicled_shutdownAt code level)
  rw [endless]
  cases hv : (shutdownAt code (level + 1) reason signal).run s with
  | error e v =>
    obtain ⟨hendless, -⟩ := yields_run_error hyields hv
    exact .inl hendless.has
  | ok _ v =>
    obtain ⟨hleads, hended, -⟩ := yields_run_ok hyields hv
    obtain ⟨e, w, -, -, hrun⟩ | ⟨l, nodes, t, u, hcloses, -, hrun⟩ :=
      hangs_or_closes hs reason signal
    · rw [shutdownAt, hrun] at hv
      cases hv
    · refine .inr ⟨l, nodes, t, u, v, hcloses, hrun _, hv, ?_⟩
      rw [run_isShutdown hleads.sound, hended]

lemma historyOf_append (shut : Value → Value → Launch Unit)
    (log : Value → Value → Session → List Incident) (deeds more : List Deed) (s : Session) :
    historyOf shut log (deeds ++ more) s =
      historyOf shut log deeds s ++ historyOf shut log more (doAll shut deeds s) := by
  induction deeds generalizing s with
  | nil => rfl
  | cons a deeds ih =>
    simp only [cons_append, historyOf, ih, append_assoc]
    rfl

lemma hangs_append (shut : Value → Value → Launch Unit) (deeds more : List Deed) (s : Session) :
    hangs shut (deeds ++ more) s = (hangs shut deeds s || hangs shut more (doAll shut deeds s)) := by
  induction deeds generalizing s with
  | nil => rfl
  | cons a deeds ih =>
    simp only [cons_append, hangs, ih, Bool.or_assoc]
    rfl

lemma sound_single (respawns : Int) (script : Script.ChildScript) :
    (single respawns script).Sound := by
  have only {g : Group} (hg : g ∈ (single respawns script).core.groups) :
      g = { parent := none, ns := "/", nodes := [0] } := by
    simpa [core, single] using hg
  refine ⟨⟨⟨.plain, rfl, Nat.one_pos, Nat.one_pos, ?_⟩, fun g hg c hc => ?_, fun g hg i hi => ?_⟩,
    ⟨_, rfl⟩, fun f hf => ?_⟩
  · intro i hi
    cases hi
  · rw [only hg] at hc
    cases hc
  · rw [only hg] at hi
    obtain rfl := mem_singleton.1 hi
    simp [core, single]
  · exact absurd hf (Array.not_mem_empty f)

/-- A callback that registers another one, shuts down once more from inside and then fails. -/
def restless : Value → Session → Code
  | .str "first", _ =>
    .act (.register (.str "second")) fun _ =>
      .act (.shutdown (.str "once more") (.int 2)) fun _ => .fail ⟨.runtime, "", .silent⟩
  | _, _ => .done

/-- A composer around a node whose process goes on when it is asked to end. -/
def stubborn : Session :=
  let node (i : Nat) (kind : NodeKind) : Node :=
    { id := i, package := .null, executable := .null, name := "composer", ns := "/",
      remaps := .map [], params := .map [], logger := "/composer", kind }
  let script : Script.ChildScript := { ignore := [Script.termSignal], lifetime := .endless }
  { launcher := some .plain, groups := #[{ parent := none, ns := "/", nodes := [1] }],
    promises := #[{}], world := { children := #[{ pid := 1, script }] },
    nodes := #[node 0 (.process { ProcessNode.plain 0 with child := some 0 }),
      node 1 (.composer { wrapped := 0, remaps := .null, components := [] })] }

end Launchpad.Launch
