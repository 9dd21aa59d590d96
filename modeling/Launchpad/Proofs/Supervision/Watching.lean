import Launchpad.Proofs.Supervision.Starting

/-!
The end of a watcher. A watcher follows its child until it has ended. Then it starts another child
for the node, as long as restarts are left; or it sets up the timer that signals the child that
the node has then, if that one runs.
-/

namespace Launchpad

/-- As far as the number of restarts is a whole number, it is negative or has not been reached. -/
def ProcessNode.Unspent (p : ProcessNode) : Prop :=
  ∀ n, p.maxRespawns = .int n → n < 0 ∨ (p.retries : Int) < n

def Session.Core.countRestart (k : Session.Core) (i : Nat) : Session.Core :=
  k.modifyProcess i fun p => { p with retries := p.retries + 1 }

/-- Are restarts left for a node, and does the launcher go on? -/
def Session.Core.restarting (k : Session.Core) (i : Nat) : Prop :=
  k.ended = false ∧ ∃ p n, k.process? i = some p ∧ p.maxRespawns = .int n ∧
    (n < 0 ∨ (p.retries : Int) < n)

inductive WatcherEnds (i : Nat) (s t : Session) : Prop where
  | quiet (h : Aged s t)
  | restarts (m u : Session) (p : ProcessNode) (hm : Aged s m) (hp : m.core.process? i = some p)
      (hleft : p.Unspent) (hu : u.core = m.core.countRestart i) (h : Starts i u t)
  | arms (m : Session) (hm : Aged s m) (hrun : (m.core.childOf i).any m.core.alive)
      (h : t.core = m.core.addTask (.escalate i))

/-- A restart has been counted, and then the node was started. -/
def Restarts (i : Nat) (s t : Session) : Prop :=
  ∃ m u v w, Aged s m ∧ u.core = m.core.countRestart i ∧ Aged u v ∧
    (Launch.startProcess i).run v = .ok () w ∧ Calm w t

variable {i : Nat} {s m t u : Session}

lemma Restarts.of_aged (h : Aged s m) (hm : Restarts i m t) : Restarts i s t := by
  obtain ⟨u, v, w, x, hu, ht⟩ := hm
  exact ⟨u, v, w, x, trans_of Aged h hu, ht⟩

lemma WatcherEnds.of_aged (h : Aged s m) (hm : WatcherEnds i m t) : WatcherEnds i s t := by
  cases hm with
  | quiet ht => exact .quiet (trans_of Aged h ht)
  | restarts u v p hu hp hleft hv ht =>
    exact .restarts u v p (trans_of Aged h hu) hp hleft hv ht
  | arms u hu hrun ht => exact .arms u (trans_of Aged h hu) hrun ht

lemma Starts.then_calm (h : Starts i s t) (hu : Calm t u) : Starts i s u := by
  cases h with
  | fails ht => exact .fails (trans_of Aged ht (Tolerant.calm _ _ hu))
  | spawns m hm hb =>
    obtain ⟨d, hpid, hcode, hcore⟩ := hb.born
    exact .spawns m hm ⟨hb.going, hb.idle, d, hpid, hcode, hu.core.trans hcore⟩

lemma Restarts.watcherEnds {p : ProcessNode} (h : Restarts i s t)
    (hp : s.core.process? i = some p) (hleft : p.Unspent) : WatcherEnds i s t := by
  obtain ⟨m, u, v, w, hm, hu, hv, hrun, ht⟩ := h
  have hstarts := Launch.yields_run_ok (Launch.yields_startProcess i v) hrun
  exact .restarts m u p hm (by rw [hm.process?_eq, hp]) hleft hu ((hstarts.of_aged hv).then_calm ht)

lemma WatcherEnds.then_calm (h : WatcherEnds i s t) (hu : Calm t u) : WatcherEnds i s u := by
  cases h with
  | quiet ht => exact .quiet (trans_of Aged ht (Tolerant.calm _ _ hu))
  | restarts m v p hm hp hleft hv ht =>
    exact .restarts m v p hm hp hleft hv (ht.then_calm hu)
  | arms m hm hrun ht => exact .arms m hm hrun (hu.core.trans ht)

def WatcherReturns (i : Nat) (s t : Session) : Prop :=
  WatcherEnds i s t ∧ (s.core.restarting i → Restarts i s t)

lemma WatcherReturns.of_aged (h : Aged s m) (hm : WatcherReturns i m t) : WatcherReturns i s t := by
  refine ⟨hm.1.of_aged h, fun hs => (hm.2 ?_).of_aged h⟩
  rwa [Session.Core.restarting, h.ended_eq, h.process?_eq]

lemma WatcherReturns.then_calm (h : WatcherReturns i s t) (hu : Calm t u) :
    WatcherReturns i s u := by
  refine ⟨h.1.then_calm hu, fun hs => ?_⟩
  obtain ⟨m, v, w, x, hm, hv, hw, hrun, ht⟩ := h.2 hs
  exact ⟨m, v, w, x, hm, hv, hw, hrun, trans_of Calm ht hu⟩

namespace Launch

variable {i : Nat} {p : ProcessNode} {s : Session}

section Following

variable {R : SessionRel} [Patient R]

variable {logger buffer chunk : String} {gather : Bool} {child : Nat}

lemma keeps_collectBundled : Keeps R (collectBundled logger buffer chunk) :=
  Keeps.when keeps_info fun _ => .pure

lemma keeps_collectLines : Keeps R (collectLines logger buffer chunk) :=
  Keeps.bind (Keeps.forM _ fun _ _ => keeps_info) fun _ => .pure

lemma keeps_collect : Keeps R (collect gather logger buffer chunk) :=
  Keeps.ite keeps_collectBundled keeps_collectLines

lemma keeps_readPipe {err : Bool} : Keeps R (readPipe child err) := by
  refine keeps_getChild.bind fun c => ?_
  refine Keeps.bind (keeps_modifyChild child fun d => ?_) fun _ => .pure
  split <;> exact ⟨rfl, id⟩

lemma keeps_readEach (gather : Bool) (logger : String) (child : Nat) (pipes : List Bool)
    (bufs : String × String) : Keeps R (readEach gather logger child pipes bufs) := by
  induction pipes generalizing bufs with
  | nil => exact .pure
  | cons err rest ih =>
    refine keeps_readPipe.bind fun r => ?_
    split
    · exact keeps_error.bind fun _ => .pure
    · refine Keeps.ite ?_ ?_
      all_goals exact keeps_collect.bind fun _ => Keeps.pure.bind fun _ => ih _

lemma keeps_readPipes {bufs : String × String} : Keeps R (readPipes gather logger child bufs) := by
  refine keeps_getChild.bind fun c => ?_
  refine Keeps.bind (keeps_modifyChild child fun d => ⟨rfl, id⟩) fun _ => ?_
  refine Keeps.ite .pure ?_
  exact (keeps_readEach _ _ _ _ _).bind fun _ => .pure

lemma keeps_followChild (gather : Bool) (logger : String) (child fuel : Nat)
    (bufs : String × String) : Keeps R (followChild gather logger child fuel bufs) := by
  induction fuel generalizing bufs with
  | zero => exact .throw
  | succ fuel ih =>
    refine (keeps_pollChild child).bind fun r => Keeps.ite .pure ?_
    refine keeps_readPipes.bind fun r => ?_
    split
    · exact .pure
    · exact ih _

end Following

lemma yields_lessThan (a b : Value) (s : Session) :
    Yields (lessThan a b) s (fun r t => t = s ∧ Value.less false a b = .ok r)
      (fun _ t => t = s) := by
  unfold lessThan lift
  split
  · exact .pure ⟨rfl, ‹_›⟩
  · exact .throw rfl

lemma less_int (m n : Int) : Value.less false (.int m) (.int n) = .ok (decide (m < n)) := by
  simp [Value.less, Value.number?, Number.less]

lemma yields_mayRespawn (p : ProcessNode) (s : Session) :
    Yields (mayRespawn p) s
      (fun b t => t = s ∧ ∀ n, p.maxRespawns = .int n → (b ↔ n < 0 ∨ (p.retries : Int) < n))
      (fun _ t => t = s) := by
  refine (yields_lessThan _ _ s).bind ?_
  rintro b s ⟨rfl, hb⟩
  split
  · next h =>
    refine .pure ⟨rfl, fun n hn => ?_⟩
    rw [hn, less_int, h] at hb
    simpa using Or.inl (of_decide_eq_true (Except.ok.inj hb))
  · next h =>
    refine (yields_lessThan _ _ s).map ?_
    rintro c s ⟨rfl, hc⟩
    refine ⟨rfl, fun n hn => ?_⟩
    rw [hn, less_int] at hb hc
    rw [← Except.ok.inj hb, decide_eq_true_eq] at h
    rw [← Except.ok.inj hc, decide_eq_true_eq]
    exact (or_iff_right h).symm

lemma yields_respawn (delay : Value) (hp : s.core.process? i = some p) (hleft : p.Unspent) :
    Yields (respawn i delay) s (fun _ t => Restarts i s t) (fun _ t => WatcherEnds i s t) := by
  refine keeps_getNode.followed (refl_of Calm s) (fun n m hm => ?_) fun _ _ h =>
    .quiet (Tolerant.calm _ _ h)
  refine keeps_info.followed hm (fun _ m hm => ?_) fun _ _ h => .quiet (Tolerant.calm _ _ h)
  refine (yields_modifyProcess i _ m).bind fun _ u hu => ?_
  -- From here on the restart is counted, and all that may still happen is a start.
  have aged : Aged s m := Tolerant.calm _ _ hm
  have counted {t : Session} (h : Starts i u t) : WatcherEnds i s t :=
    .restarts m u p aged (by rw [aged.process?_eq, hp]) hleft hu h
  have failed {t : Session} (h : Aged u t) : WatcherEnds i s t :=
    counted (.fails h)
  have started {v : Session} (h : Aged u v) :
      Yields (startProcess i) v (fun _ t => Restarts i s t) (fun _ t => WatcherEnds i s t) :=
    ((yields_startProcess i v).and (yields_self _ v)).imp
      (fun _ t ht => ⟨m, u, v, t, aged, hu, h, ht.2, refl_of Calm t⟩)
      fun _ _ ht => counted (ht.1.of_aged h)
  refine keeps_lessThan.followed (refl_of Aged u) (fun b v hv => ?_) fun _ _ h => failed h
  split
  · refine keeps_seconds.followed hv (fun x v hv => ?_) fun _ _ h => failed h
    exact (keeps_sleep x).followed hv (fun _ v hv => started hv) fun _ _ h => failed h
  · exact started hv

lemma yields_escalateLater (hp : s.core.process? i = some p) :
    EndsIn (escalateLater i) s (WatcherEnds i s) := by
  refine (yields_isRunning i s).seq ?_ fun _ _ h => .quiet h
  rintro v m ⟨hm, hv⟩
  split
  · next hrun =>
    refine (yields_addTask _ m).map fun _ t ht => .arms m hm ?_ ht
    rw [hm.childOf_eq, Session.Core.childOf, hp]
    rw [hv p hp] at hrun
    simpa [Value.truthy] using hrun
  · exact .pure (.quiet hm)

lemma yields_decideRestart (i : Nat) (s : Session) :
    Yields (decideRestart i) s (fun _ t => WatcherReturns i s t)
      (fun _ t => WatcherEnds i s t) := by
  have quiet : WatcherEnds i s s := .quiet (refl_of Aged s)
  refine (yields_getProcess i s).seq ?_ fun _ _ h => h ▸ quiet
  rintro p s ⟨rfl, hp⟩
  refine (yields_isShutdown s).seq ?_ fun _ _ h => h ▸ quiet
  rintro ended s ⟨rfl, hended⟩
  have stops (h : ¬ s.core.restarting i) :
      Yields (escalateLater i) s (fun _ t => WatcherReturns i s t)
        (fun _ t => WatcherEnds i s t) :=
    (yields_escalateLater hp).map fun _ _ ht => ⟨ht, fun hs => absurd hs h⟩
  split
  · next h =>
    refine .of_bind (.pure (stops fun hs => ?_))
    rw [hended, hs.1] at h
    cases h
  · refine (yields_mayRespawn p s).seq ?_ fun _ _ h => h ▸ quiet
    rintro again s ⟨rfl, hagain⟩
    dsimp only
    split
    · next h =>
      have hleft : p.Unspent := fun n hn => (hagain n hn).1 h
      exact (yields_respawn _ hp hleft).map fun _ _ ht => ⟨ht.watcherEnds hp hleft, fun _ => ht⟩
    · next h =>
      refine stops fun hs => h ?_
      obtain ⟨-, q, n, hq, hn, hleft⟩ := hs
      obtain rfl : q = p := Option.mem_unique hq hp
      exact (hagain n hn).2 hleft

lemma keeps_callOnExit {R : SessionRel} [Tolerant R] (i : Nat) : Keeps R (callOnExit i) := by
  refine keeps_getProcess.bind fun p => ?_
  exact Keeps.ite (keeps_callValue.bind fun _ => .pure) .pure

lemma yields_afterExit (i : Nat) (s : Session) :
    Yields (afterExit i) s (fun _ t => WatcherReturns i s t) (fun _ t => WatcherEnds i s t) := by
  refine (keeps_callOnExit i).followed (refl_of Aged s) (fun _ m hm => ?_) fun _ _ h => WatcherEnds.quiet h
  exact (yields_decideRestart i m).imp (fun _ _ h => h.of_aged hm) fun _ _ h => h.of_aged hm

lemma yields_watchChild (i child : Nat) (gather : Bool) (s : Session) :
    Yields (watchChild i child gather) s (fun _ t => WatcherReturns i s t)
      (fun _ t => WatcherEnds i s t) := by
  refine keeps_getNode.followed (refl_of Aged s) (fun n m hm => ?_) fun _ _ h => .quiet h
  refine Yields.always_of (A := Aged s) (D := Aged s) (Keeps.then ?_ hm) (fun t ht => ?_)
    fun t ht => ?_
  · refine keeps_getChild.bind fun c => (keeps_followChild _ _ _ _ _).bind fun _ => ?_
    refine keeps_waitChild.bind fun code => ?_
    exact Keeps.ite keeps_warn keeps_critical
  · exact (yields_afterExit i t).imp (fun _ _ h => h.of_aged ht) fun _ _ h => h.of_aged ht
  · exact (yields_afterExit i t).imp (fun _ _ h => h.1.of_aged ht) fun _ _ h => h.of_aged ht

end Launch

end Launchpad
