import Launchpad.Proofs.Supervision.Respawn

/-!
Explicit stops and exit callbacks of a node. A watcher that comes to its end calls `on_exit` first,
whether another child is to follow or not. Then it decides about a restart by the number of restarts
and the launcher alone: a request to end the node leaves no trace in what it looks at. So a stop is
final only if no restart is left.
-/

namespace Launchpad

open List

open Session.Core

variable {s t u : Session} {i : Nat}

/-! ## Children that have ended -/

/-- No child is lost, and none that has ended runs again. -/
def Outlasts (s t : Session) : Prop :=
  s.core.children.size ≤ t.core.children.size ∧
    ∀ c < s.core.children.size, t.core.alive c → s.core.alive c

lemma Outlasts.of_children (h : t.core.children = s.core.children) : Outlasts s t := by
  refine ⟨Nat.le_of_eq (by rw [h]), fun c _ hc => ?_⟩
  rwa [alive, h] at hc

lemma Outlasts.trans (h : Outlasts s t) (h' : Outlasts t u) : Outlasts s u :=
  ⟨Nat.le_trans h.1 h'.1, fun c hc hu => h.2 c hc (h'.2 c (Nat.lt_of_lt_of_le hc h.1) hu)⟩

lemma Idles.outlasts {P : Nat → Prop} (h : Idles P s t) : Outlasts s t :=
  ⟨Nat.le_of_eq h.size_eq.symm, fun _ _ => alive_before h.children⟩

lemma Starts.outlasts (h : Starts i s t) : Outlasts s t := by
  cases h with
  | fails ht => exact ht.idles.outlasts
  | spawns m hm ht =>
    refine hm.idles.outlasts.trans ⟨by rw [ht.size_eq]; omega, fun c hc halive => ?_⟩
    rw [ht.alive_eq] at halive
    simpa [Nat.ne_of_lt hc] using halive

lemma WatcherEnds.outlasts (h : WatcherEnds i s t) : Outlasts s t := by
  cases h with
  | quiet ht => exact ht.idles.outlasts
  | restarts m u p hm hp hleft hu ht =>
    have hcounted : Outlasts m u := .of_children (congrArg (fun k => k.children) hu)
    exact (hm.idles.outlasts.trans hcounted).trans ht.outlasts
  | arms m hm hrun ht =>
    exact hm.idles.outlasts.trans (.of_children (congrArg (fun k => k.children) ht))

lemma Scene.Moves.outlasts {sc sc' : Scene} {a : Act} (h : sc.Moves a sc') :
    Outlasts sc.session sc'.session := by
  cases h with
  | stays _ => exact .of_children rfl
  | starts ht => exact ht.outlasts
  | exits ht => exact ht.idles.outlasts
  | finishes hn ht => exact ht.outlasts
  | shuts ht => exact ht.idles.outlasts
  | shutsAll ht => exact ht.outlasts
  | fires hn ht => exact ht.idles.outlasts
  | kills hn ht => exact ht.idles.outlasts

namespace History

lemma outlasts (h : History) (acts : List Act) :
    Outlasts h.session (acts.foldl (step i) h).session := by
  induction acts generalizing h with
  | nil => exact .of_children rfl
  | cons a acts ih => exact (h.scene.moves a).outlasts.trans (ih (h.step i a))

lemma exists_spawned (h : History) {acts : List Act} (hacts : ∀ a ∈ acts, a.isStart i = false) :
    let k := acts.foldl (step i) h
    k.starts = h.starts ∧
      ∃ new, k.spawned = h.spawned ++ new ∧ (h.session.core.ended → new = []) := by
  induction acts generalizing h with
  | nil => exact ⟨rfl, [], (append_nil _).symm, fun _ => rfl⟩
  | cons a acts ih =>
    obtain ⟨ha, hacts⟩ := forall_mem_cons.1 hacts
    obtain ⟨hstarts, new, hnew, hended⟩ := ih (h.step i a) hacts
    refine ⟨hstarts.trans (by simp [step, ha]), _, hnew.trans (append_assoc _ _ _), fun hs => ?_⟩
    obtain ⟨hs', hsize⟩ := (h.scene.moves a).size_eq_of_ended hs
    have hborn : born h.session (h.scene.step a).session = [] := by
      rw [born, History.session, hsize, Nat.sub_self]
      rfl
    rw [hended hs', hborn, ite_self]
    rfl

end History

/-- A node whose child does not run has one that runs later only if a restart was counted, which
is not done once the launcher has been shut down. -/
lemma Supervised.restarted {limit : Value} {h : History} {acts : List Act} {q : ProcessNode}
    (hsup : Supervised i limit h.session h.starts h.spawned h.finished)
    (hq : h.session.core.process? i = some q)
    (hidle : (h.session.core.childOf i).any h.session.core.alive = false)
    (hacts : ∀ a ∈ acts, a.isStart i = false) :
    let k := acts.foldl (History.step i) h
    (k.session.core.childOf i).any k.session.core.alive →
      h.session.core.ended = false ∧ ∃ r, k.session.core.process? i = some r ∧
        q.retries < r.retries ∧ ∀ n, limit = .int n → 0 ≤ n → (r.retries : Int) ≤ n := by
  intro k halive
  obtain ⟨hstarts, new, hnew, hended⟩ := h.exists_spawned hacts
  obtain ⟨q', hq', hlimit, hchild, -, hretries⟩ := hsup.node
  obtain rfl : q' = q := Option.mem_unique hq' hq
  -- with the least number of starts that fits, every child since then has its own restart
  have htight : Supervised i limit h.session (h.starts + (h.spawned.length - q'.retries - h.starts))
      h.spawned h.finished :=
    { hsup with node := ⟨q', hq, hlimit, hchild, by omega, hretries⟩ }
  have hlater := htight.foldl acts
  obtain ⟨r, hr, -, -, hlength, hbound⟩ := hlater.node
  have hne : new ≠ [] := by
    rintro rfl
    rw [append_nil] at hnew
    obtain ⟨c, hc, hrun⟩ := (Option.any_eq_true _ _).1 halive
    rw [hlater.childOf_eq, hnew, ← hsup.childOf_eq] at hc
    have hmem : c ∈ h.spawned := mem_of_getLast? (hsup.childOf_eq ▸ hc)
    have hbefore := (h.outlasts acts).2 c (hsup.below c hmem) hrun
    simp [hc, hbefore] at hidle
  refine ⟨Bool.eq_false_iff.2 fun hs => hne (hended hs), r, hr, ?_, hbound⟩
  have hpos := length_pos_iff.2 hne
  rw [hstarts, hnew, length_append] at hlength
  omega

variable {p : ProcessNode}

open Launch in
/-- How final an explicit stop is, at any time of any run. A request to end the node changes neither
its restarts nor its watchers nor the launcher. From a time at which the node's child does not run,
until the node is started again, it has a child that runs only if the launcher had not been shut down
and a restart has been counted, of those that were left. And as long as restarts are left, a watcher
whose end returns counts one and makes a start. -/
theorem stop_final_unless_restarts_left (h : Fresh i p s) (acts : List Act) :
    let run := History.run i s acts
    let now := run.session
    (∀ reason signal timeout, let stopped := (shutdownNode i reason signal timeout).after now
      stopped.core.process? i = now.core.process? i ∧ stopped.core.tasks = now.core.tasks ∧
        (stopped.core.restarting i ↔ now.core.restarting i)) ∧
    (∀ q, now.core.process? i = some q → (now.core.childOf i).any now.core.alive = false →
      ∀ more : List Act, (∀ a ∈ more, a.isStart i = false) →
        let later := (more.foldl (History.step i) run).session
        (later.core.childOf i).any later.core.alive →
          now.core.ended = false ∧ ∃ r, later.core.process? i = some r ∧ q.retries < r.retries ∧
            ∀ n, p.maxRespawns = .int n → 0 ≤ n → (r.retries : Int) ≤ n) ∧
    ∀ k c live t, now.tasks[k]? = some (.watchChild i c) → now.core.restarting i →
      (threaded live (runTask (.watchChild i c))).run (now.dropTask k) = .ok () t →
        Restarts i (now.dropTask k) t := by
  intro run now
  have hsup : Supervised i p.maxRespawns now run.starts run.spawned run.finished :=
    h.supervised_run acts
  refine ⟨fun reason signal timeout => ?_, fun q hq hidle more hmore => ?_, fun k c live t _ hs ht => ?_⟩
  · have hwinds : Winds (SignalKnown signal) (now.core.Reaches i) now
        ((shutdownNode i reason signal timeout).after now) :=
      (winds_shutdownNode i reason signal timeout (refl_of _ _) fun _ h => h).after
    have hended : ((shutdownNode i reason signal timeout).after now).core.ended = now.core.ended :=
      congrArg (fun k => k.ended) hwinds.still
    refine ⟨hwinds.process i, hwinds.idles.tasks, ?_⟩
    rw [restarting, hwinds.process i, hended]
    rfl
  · exact hsup.restarted hq hidle hmore
  · have hreturns := yields_run_ok (yields_threaded_watchChild i c live (now.dropTask k)) ht
    exact hreturns.2 hs

/-- A node with one restart, which has been asked to end, and whose child has ended. -/
def stoppedActs : List Act :=
  [.start 0, .shutdown 0 (.str "bye") (.int 15) (.int 0)]

/-- Without restarts a stop is final. -/
theorem stop_final_unless_restarts_left_none :
    let run := History.run 0 (Session.single 0 {}) stoppedActs
    let later := (run.step 0 (.happen (.finishes 0 false))).session
    (later.core.childOf 0).any later.core.alive = false := by
  obtain ⟨-, hfinal, -⟩ := stop_final_unless_restarts_left (Session.fresh_single 0 {}) stoppedActs
  refine Bool.eq_false_iff.2 fun halive => ?_
  obtain ⟨q, hq⟩ : ∃ q, (History.run 0 (Session.single 0 {}) stoppedActs).session.core.process? 0 =
      some q := Option.isSome_iff_exists.1 (by decide +kernel)
  obtain ⟨-, r, -, hlt, hle⟩ := hfinal q hq (by decide +kernel) [.happen (.finishes 0 false)]
    (by decide) halive
  have hnone := hle 0 rfl (Int.le_refl 0)
  omega

/-- With a restart that is left, it is not. -/
theorem stop_not_final :
    let run := History.run 0 (Session.single 1 {}) stoppedActs
    let later := (run.step 0 (.happen (.finishes 0 false))).session
    (run.session.core.childOf 0).any run.session.core.alive = false ∧
      (later.core.childOf 0).any later.core.alive = true := by
  decide +kernel

/-! ## Calls of the exit callback -/

namespace Launch

/-- The work of a watcher until its child has ended. -/
def followToEnd (i c : Nat) : Launch Unit := do
  let logger := (← getNode i).logger
  let d ← getChild c
  followChild true logger c (2 * d.pending.length + 8) ("", "")
  reportEnd logger c

/-- The session in which a watcher calls `on_exit`. -/
def exitSession (i c : Nat) (live : Bool) (s : Session) : Session :=
  (followToEnd i c).after (if live then { s with watching := true } else s)

/-- What follows the end of a child: `on_exit` is called, and unless it fails there is a decision
about a restart. -/
def exited (i : Nat) (s : Session) : Session :=
  let called := (callOnExit i).after s
  if (callOnExit i).returns s then (decideRestart i).after called else called

lemma after_afterExit (i : Nat) (s : Session) : (afterExit i).after s = exited i s := by
  rw [afterExit, after_bind_unit, exited]

lemma after_watchChild {n : Node} (hn : s.nodes[i]? = some n) (c : Nat) :
    (watchChild i c true).after s = exited i ((followToEnd i c).after s) := by
  rw [watchChild, after_bind_of_ok (run_getNode hn), after_always, after_afterExit, followToEnd,
    after_bind_of_ok (run_getNode hn)]

lemma keeps_followToEnd {i c : Nat} : Keeps Aged (followToEnd i c) := by
  refine keeps_getNode.bind fun n => keeps_getChild.bind fun d => ?_
  refine (keeps_followChild _ _ _ _ _).bind fun _ => keeps_waitChild.bind fun code => ?_
  exact Keeps.ite keeps_warn keeps_critical

/-- A call of `on_exit` leaves one event, and fails if the callback does. -/
lemma after_callOnExit {k : Nat} {cb : Callback} (hp : s.core.process? i = some p)
    (hexit : p.onExit = .ref (.callback k)) (hcb : s.callbacks[k]? = some cb) :
    (callOnExit i).after s = { s with events := s.events ++ [.called cb.name []] } ∧
      ((callOnExit i).returns s ↔ cb.failure = none) := by
  obtain ⟨n, hn, hkind⟩ := node_of_process hp
  have hget : (getProcess i).run s = .ok p s := by
    rw [getProcess, run_bind_of_ok (run_getNode hn), hkind]
    rfl
  have hrun : (callOnExit i).run s =
      (callValue (.ref (.callback k)) [] >>= fun _ => pure ()).run s := by
    rw [callOnExit, run_bind_of_ok hget, hexit]
    rfl
  have hself : (get : Launch Session).run s = .ok s s := rfl
  rw [Launch.after, Launch.returns, hrun, callValue, bind_assoc, run_bind_of_ok hself, hcb]
  obtain ⟨name, _, failure⟩ := cb
  cases failure with
  | none => exact ⟨rfl, iff_of_true rfl rfl⟩
  | some t => exact ⟨rfl, iff_of_false Bool.false_ne_true (by simp)⟩

/-- A session with the mark of a watcher taken away, if it was set. -/
def unwatched (live : Bool) (s : Session) : Session :=
  if live then { s with watching := false } else s

lemma after_threaded_watchChild (hp : s.core.process? i = some p) (c : Nat) (live : Bool) :
    (threaded live (runTask (.watchChild i c))).after s =
      unwatched live (exited i (exitSession i c live s)) := by
  obtain ⟨n, hn, -⟩ := node_of_kind hp
  cases live with
  | false => exact after_watchChild hn c
  | true =>
    have hwatching : { s with watching := true }.nodes[i]? = some n := hn
    change (always (watchChild i c true) _).after { s with watching := true } = _
    rw [after_always, after_watchChild hwatching]
    rfl

lemma core_unwatched (live : Bool) (s : Session) : (unwatched live s).core = s.core := by
  cases live <;> rfl

lemma aged_exitSession (i c : Nat) (live : Bool) (s : Session) :
    Aged s (exitSession i c live s) := by
  have calm : Aged s (if live then { s with watching := true } else s) := by
    split
    · exact Tolerant.calm _ _ (.of_core rfl rfl)
    · exact refl_of Aged s
  exact trans_of Aged calm (keeps_followToEnd.after _)

lemma core_exited_of_not_returns (h : ¬ (callOnExit i).returns s) : (exited i s).core = s.core := by
  rw [exited, if_neg h]
  exact ((keeps_callOnExit (R := Calm) i).after s).core

end Launch

/-- The session in which an act that ends a watcher of the node calls `on_exit`. -/
def Act.exit? (a : Act) (i : Nat) (s : Session) : Option Session :=
  match a with
  | .happen (.finishes n live) => match a.watcher? s with
    | some (j, c) => if j = i then some (Launch.exitSession i c live (s.dropTask n)) else none
    | none => none
  | _ => none

/-- The sessions in which a run calls `on_exit`. -/
def exits (i : Nat) : Scene → List Act → List Session
  | _, [] => []
  | sc, a :: acts => (a.exit? i sc.session).toList ++ exits i (sc.step a) acts

lemma length_exits (i : Nat) (h : History) (acts : List Act) :
    (acts.foldl (History.step i) h).finished.length =
      h.finished.length + (exits i h.scene acts).length := by
  induction acts generalizing h with
  | nil => rfl
  | cons a acts ih =>
    rw [foldl_cons, ih, exits, length_append, ← Nat.add_assoc]
    simp only [History.step, length_append, History.session]
    cases a with
    | happen b =>
      cases b with
      | exits c code => rfl
      | finishes n live =>
        simp only [Act.exit?]
        cases (Act.happen (.finishes n live)).watcher? h.scene.session with
        | none => rfl
        | some w => by_cases hw : w.1 = i <;> simp [hw]
    | _ => rfl

def Session.Core.retries (k : Session.Core) (i : Nat) : Nat :=
  ((k.process? i).map ProcessNode.retries).getD 0

lemma Starts.retries_eq {j : Nat} (h : Starts j s t) (i : Nat) :
    t.core.retries i = s.core.retries i := by
  cases h with
  | fails ht => rw [retries, ht.process?_eq, retries]
  | spawns m hm ht =>
    rw [retries, retries, ← hm.process?_eq]
    by_cases hj : j = i
    · obtain ⟨p, hp, -⟩ := ht.idle
      rw [← hj, ht.process?_self hp, hp]
      rfl
    · rw [ht.process?_of_ne hj]

lemma WatcherEnds.retries_le {j : Nat} (h : WatcherEnds j s t) (i : Nat) :
    t.core.retries i ≤ s.core.retries i + if j = i then 1 else 0 := by
  cases h with
  | quiet ht =>
    rw [retries, ht.process?_eq, retries]
    omega
  | restarts m u p hm hp hleft hu ht =>
    rw [ht.retries_eq, retries, hu, countRestart,
      process?_modifyProcess, retries, ← hm.process?_eq]
    split
    · next hj =>
      rw [← hj, hp]
      exact Nat.le_refl (p.retries + 1)
    · exact Nat.le_refl _
  | arms m hm hrun ht =>
    have hcore : t.core.retries i = m.core.retries i := by rw [ht]; rfl
    rw [hcore, retries, hm.process?_eq, retries]
    omega

lemma Scene.Moves.retries_le {sc sc' : Scene} {a : Act} (h : sc.Moves a sc')
    (ha : ∀ c, a.watcher? sc.session ≠ some (i, c)) :
    sc'.session.core.retries i ≤ sc.session.core.retries i := by
  have idle {t : Session} {P : Nat → Prop} (ht : Idles P sc.session t) :
      t.core.retries i ≤ sc.session.core.retries i := by
    rw [retries, ht.process]
    exact Nat.le_refl _
  cases h with
  | stays _ => exact Nat.le_refl _
  | starts ht => exact Nat.le_of_eq (ht.retries_eq i)
  | exits ht => exact idle ht.idles
  | @finishes n j c live t hn ht =>
    have hj : j ≠ i := fun hj => ha c (by simp [Act.watcher?, hn, hj])
    have hle := ht.retries_le i
    rwa [if_neg hj] at hle
  | shuts ht => exact idle ht.idles
  | shutsAll ht => exact idle ht
  | @fires n j live t armed known hn ht =>
    rw [retries, ht.process]
    exact Nat.le_refl _
  | kills hn ht => exact idle ht.idles

lemma Scene.retries_step_le (sc : Scene) (a : Act)
    (hp : sc.session.core.process? i = some p) :
    (sc.step a).session.core.retries i ≤ sc.session.core.retries i +
      (a.exit? i sc.session).toList.countP (Launch.callOnExit i).returns := by
  by_cases hw : ∃ c, a.watcher? sc.session = some (i, c)
  · obtain ⟨c, hw⟩ := hw
    obtain ⟨n, live, rfl, hn⟩ : ∃ n live, a = .happen (.finishes n live) ∧
        sc.session.tasks[n]? = some (.watchChild i c) := by
      unfold Act.watcher? at hw
      grind
    have hstep : (sc.step (.happen (.finishes n live))).session =
        (Launch.threaded live (Launch.runTask (.watchChild i c))).after (sc.session.dropTask n) := by
      simp only [step, Session.happen, hn]
    have hcalled : Act.exit? (.happen (.finishes n live)) i sc.session =
        some (Launch.exitSession i c live (sc.session.dropTask n)) := by
      simp only [Act.exit?, hw, if_true]
    rw [hcalled, hstep, Option.toList_some, countP_singleton]
    split
    · have hle := (Launch.watcherEnds_after i c live (sc.session.dropTask n)).retries_le i
      rwa [if_pos rfl] at hle
    · next hreturns =>
      have hp' : (sc.session.dropTask n).core.process? i = some p := hp
      have haged := Launch.aged_exitSession i c live (sc.session.dropTask n)
      rw [retries, Launch.after_threaded_watchChild hp', Launch.core_unwatched,
        Launch.core_exited_of_not_returns hreturns, haged.process?_eq]
      exact Nat.le_refl _
  · exact Nat.le_add_right_of_le ((sc.moves a).retries_le fun c hc => hw ⟨c, hc⟩)

lemma Supervised.retries_foldl_le {limit : Value} {h : History} {d : Int}
    (hsup : Supervised i limit h.session (h.starts + d) h.spawned h.finished) (acts : List Act) :
    (acts.foldl (History.step i) h).session.core.retries i ≤
      h.session.core.retries i + (exits i h.scene acts).countP (Launch.callOnExit i).returns := by
  induction acts generalizing h with
  | nil => exact Nat.le_refl _
  | cons a acts ih =>
    obtain ⟨p, hp, -⟩ := hsup.node
    have hstep := h.scene.retries_step_le a hp
    have hrest := ih (hsup.step a)
    rw [foldl_cons, exits, countP_append, ← Nat.add_assoc]
    exact Nat.le_trans hrest (Nat.add_le_add_right hstep _)

/-- A node with one restart and an exit callback. -/
def Session.calling (failure : Option String) : Session :=
  { single 1 {} with
    nodes := (single 1 {}).nodes.map fun n =>
      { n with kind := .process { ProcessNode.plain 1 with onExit := .ref (.callback 0) } }
    callbacks := #[{ name := "bye", result := .null, failure }] }

lemma Session.fresh_calling (failure : Option String) :
    Fresh 0 { ProcessNode.plain 1 with onExit := .ref (.callback 0) } (calling failure) := by
  refine ⟨?_, rfl, rfl, rfl⟩
  simp [process?, Session.core, calling, single, NodeKind.process?]

/-- A start and the ends of two watchers, or of one if the first starts no child. -/
def exitActs : List Act :=
  [.start 0, .happen (.finishes 0 false), .happen (.finishes 0 false)]

end Launchpad
