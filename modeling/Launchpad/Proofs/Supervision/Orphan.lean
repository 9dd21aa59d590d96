import Launchpad.Proofs.Supervision.Interleaving

/-!
Which children are left behind by the end of a launch. A node that is asked to end sends the signal
to the child that it has then, if this goes without a fault. A child that is started after its node
was asked gets no signal, for the launcher counts as shut down only when all nodes have been asked.
-/

namespace Launchpad

open List

open Session.Core

/-- Was a signal sent to a child between two sessions? -/
def Signalled (c : Nat) (s t : Session) : Prop :=
  ∃ n pid, t.core.pid? c = some pid ∧ (n, pid) ∈ sent s t

instance (c : Nat) (s t : Session) : Decidable (Signalled c s t) :=
  decidable_of_iff (∃ x ∈ sent s t, t.core.pid? c = some x.2)
    ⟨fun ⟨x, hx, hpid⟩ => ⟨x.1, x.2, hpid, hx⟩, fun ⟨n, pid, hpid, hx⟩ => ⟨(n, pid), hx, hpid⟩⟩

/-- Unless a child has ended in the meantime, a signal was sent to it. -/
def Told (c : Nat) (s t : Session) : Prop :=
  t.core.alive c → Signalled c s t

namespace Told

variable {P : Nat → Prop} {c : Nat} {s m t : Session}

lemma of_not_alive (h : ¬ t.core.alive c) : Told c s t :=
  fun hc => absurd hc h

lemma after_idles (h : Idles P s m) (ht : Told c m t) : Told c s t := by
  obtain ⟨new, hnew, -⟩ := h.signals
  intro hc
  obtain ⟨n, pid, hpid, hmem⟩ := ht hc
  refine ⟨n, pid, hpid, drop_subset_drop_left _ ?_ hmem⟩
  rw [hnew, length_append]
  exact Nat.le_add_right _ _

lemma then_idles (h : Told c s m) (ht : Idles P m t) : Told c s t := by
  obtain ⟨new, hnew, -⟩ := ht.signals
  intro hc
  obtain ⟨n, pid, hpid, hmem⟩ := h (alive_before ht.children hc)
  refine ⟨n, pid, by rw [ht.pid?_eq, hpid], ?_⟩
  rw [sent, hnew, drop_append]
  exact mem_append_left _ hmem

end Told

namespace Launch

variable {i c : Nat}
variable {s : Session}

lemma Keeps.tells {α : Type} {P : Nat → Prop} {x : Launch α} {m : Session}
    (hx : Keeps (Idles P) x) (h : Told c s m) : EndsIn x m (Told c s) :=
  (hx m).imp (fun _ _ ht => h.then_idles ht) fun _ _ ht => h.then_idles ht

lemma node_of_foreign {f : ForeignNode} (h : s.core.foreign? i = some f) :
    ∃ n, s.nodes[i]? = some n ∧ n.kind = .foreign f := by
  obtain ⟨n, hn, hview⟩ := node_of_kind h
  cases hkind : n.kind <;> simp_all [NodeKind.foreign?]

lemma yields_isRunning_of_owns (h : s.core.Owns i c) :
    Yields (isRunning i) s (fun v t => Aged s t ∧ (¬ v.truthy → ¬ t.core.alive c))
      (fun _ t => Aged s t) := by
  rcases h with hc | ⟨f, hf, hprocess⟩
  · obtain ⟨p, hp, hpc⟩ := Option.bind_eq_some_iff.1 hc
    refine (yields_isRunning i s).map fun v t ⟨ht, hv⟩ => ⟨ht, ?_⟩
    rw [hv p hp, hpc]
    simp [Value.truthy]
  · obtain ⟨n, hn, hkind⟩ := node_of_foreign hf
    simp only [isRunning, runningWith, getNode, foreignRunning, yields_bind, yields_get, hn,
      yields_pure, hkind, hprocess]
    refine (yields_getChild c s).imp ?_ fun _ _ ht => ht ▸ refl_of Aged _
    rintro d s ⟨rfl, hd⟩
    refine ⟨refl_of Aged _, ?_⟩
    simp [Value.truthy, alive, hd]

lemma tells_signalChild (n : Int) (s : Session) : EndsIn (signalChild c n) s (Told c s) := by
  cases hd : s.core.children[c]? with
  | none =>
    have missing : ¬ s.core.alive c := by simp [alive, hd]
    refine (yields_getChild c s).seq ?_ fun _ _ ht => .of_not_alive ?_
    · rintro d s ⟨rfl, hd'⟩
      simp [hd] at hd'
    · rwa [ht]
  | some d =>
    have hget : s.world.children[c]? = some d := hd
    simp only [signalChild, getChild, yields_bind, yields_get, hget, yields_pure]
    split
    · next hcode =>
      refine .pure (.of_not_alive ?_)
      simpa [alive, hd] using Option.isSome_iff_ne_none.1 hcode
    refine (yields_emit_signalled n d.pid s).bind fun _ t ht => ?_
    refine (keeps_takeSignal (R := Idles fun _ => False) c d.script n).tells fun _ => ?_
    have hchildren : t.core.children = s.core.children := congrArg (fun k => k.children) ht
    refine ⟨n, d.pid, ?_, ?_⟩
    · rw [pid?, hchildren, hd]
      rfl
    · rw [sent_of_append (congrArg (fun k => k.signals) ht)]
      exact mem_singleton_self _

lemma tells_deliverSignal (n : Node) (num : Int) (name : String) (s : Session) :
    IfOk (deliverSignal n c num name) s (fun _ t => Told c s t) := by
  refine keeps_info.along (refl_of Aged s) fun _ m hm => ?_
  have told := (tells_signalChild (c := c) num m).imp
    (fun _ _ ht => Told.after_idles hm.idles ht) fun _ _ ht => Told.after_idles hm.idles ht
  refine told.catchFault (fun f t ht => Yields.ite ?_ ?_) fun _ _ _ => trivial
  · exact (Keeps.tells (P := fun _ => False) keeps_info ht).map fun _ _ h => h
  · exact .throw trivial

lemma tells_signalProcess (signal : Value) (h : s.core.childOf i = some c) :
    IfOk (signalProcess i signal) s (fun _ t => Told c s t) := by
  refine (yields_getProcess i s).andThen ?_
  rintro p s ⟨rfl, hp⟩
  have hpc : p.child = some c := by
    rw [childOf, hp] at h
    exact h
  simp only [hpc]
  refine (yields_pollChild c s).andThen ?_
  rintro code m ⟨hm, hcode⟩
  split
  · next hended =>
    refine .pure (.of_not_alive ?_)
    rw [← hcode]
    simpa using Option.isSome_iff_ne_none.1 hended
  refine keeps_signalOf.along hm fun r m hm => ?_
  refine keeps_getNode.along hm fun n m hm => ?_
  have howns : m.core.Owns i c := .inl (by rw [hm.childOf_eq, h])
  refine (yields_isRunning_of_owns howns).andThen ?_
  rintro v u ⟨hu, hv⟩
  have hsu : Aged s u := trans_of Aged hm hu
  split
  · next hidle =>
    have told : Told c s u := .of_not_alive (hv (by simpa using hidle))
    refine (Keeps.tells (P := fun _ => False) ?_ told).map fun _ _ h => h
    exact keeps_info.bind fun _ => .pure
  refine keeps_actualSignal.along hsu fun actual m hm => ?_
  exact (tells_deliverSignal n actual.1 actual.2 m).map fun _ _ ht => Told.after_idles hm.idles ht

lemma tells_askThenWait {ask wait : Launch Unit} (howns : s.core.Owns i c)
    (hask : ∀ m, Aged s m → IfOk ask m (fun _ t => Told c s t))
    (hwait : Keeps (Idles fun _ => False) wait) :
    IfOk (askThenWait i ask wait) s (fun _ t => Told c s t) := by
  refine (yields_isRunning_of_owns howns).andThen ?_
  rintro v m ⟨hm, hv⟩
  split
  · next hidle => exact .pure (.of_not_alive (hv (by simpa using hidle)))
  · exact (hask m hm).andThen fun _ u hu => (hwait.tells hu).map fun _ _ ht => ht

lemma tells_shutdownProcess (reason signal timeout : Value) (h : s.core.childOf i = some c) :
    IfOk (shutdownProcess i reason signal timeout) s (fun _ t => Told c s t) := by
  refine tells_askThenWait (.inl h) (fun m hm => yields_askNode hm fun _ m hm _ => ?_)
    keeps_awaitChild
  have hchild : m.core.childOf i = some c := by rw [hm.childOf_eq, h]
  exact (tells_signalProcess signal hchild).map fun _ _ ht => ht.after_idles hm.idles

lemma tells_shutdownForeign (reason signal timeout : Value) {f : ForeignNode}
    (hf : s.core.foreign? i = some f) (hc : f.process = .started c) :
    IfOk (shutdownForeign i reason signal timeout) s (fun _ t => Told c s t) := by
  refine tells_askThenWait (.inr ⟨f, hf, hc⟩) (fun m hm => yields_askNode hm fun num m hm _ => ?_)
    keeps_awaitForeign
  refine (yields_getForeign i m).andThen ?_
  rintro g m ⟨rfl, hg⟩
  obtain rfl : f = g := Option.some.inj (hf.symm.trans ((hm.idles.foreign i).symm.trans hg))
  simp only [hc]
  exact (tells_signalChild num m).map fun _ _ ht => ht.after_idles hm.idles

lemma node_of_owns (h : s.core.Owns i c) :
    ∃ n, s.nodes[i]? = some n ∧
      ((∃ p, n.kind = .process p ∧ s.core.childOf i = some c) ∨
        ∃ f, n.kind = .foreign f ∧ s.core.foreign? i = some f ∧ f.process = .started c) := by
  rcases h with hc | ⟨f, hf, hprocess⟩
  · obtain ⟨p, hp, -⟩ := Option.bind_eq_some_iff.1 hc
    obtain ⟨n, hn, hkind⟩ := node_of_process hp
    exact ⟨n, hn, .inl ⟨p, hkind, hc⟩⟩
  · obtain ⟨n, hn, hkind⟩ := node_of_foreign hf
    exact ⟨n, hn, .inr ⟨f, hkind, hf, hprocess⟩⟩

lemma tells_shutdownNode (reason signal timeout : Value) (h : s.core.Owns i c) :
    IfOk (shutdownNode i reason signal timeout) s (fun _ t => Told c s t) := by
  obtain ⟨n, hn, ⟨p, hkind, hc⟩ | ⟨f, hkind, hf, hc⟩⟩ := node_of_owns h
  all_goals
    simp only [shutdownNode, shutdownWith, getNode, yields_bind, yields_get, hn, yields_pure, hkind]
  · exact tells_shutdownProcess reason signal timeout hc
  · exact tells_shutdownForeign reason signal timeout hf hc

lemma run_askToEnd (l : Launcher) (reason signal : Value) {t : Session} (h : s.core.Owns i c)
    (hrun : (shutdownNode i reason signal (.int 0)).run s = .ok () t) :
    (askToEnd l reason signal i).run s = .ok () t := by
  have htimeout : (defaultTimeout i).run s = .ok (.int 0) s := by
    obtain ⟨n, hn, ⟨p, hkind, -⟩ | ⟨f, hkind, -⟩⟩ := node_of_owns h
    all_goals
      refine run_bind_eq_ok.2 ⟨n, s, run_bind_eq_ok.2 ⟨s, s, rfl, ?_⟩, ?_⟩
      · rw [hn]
        rfl
      · rw [hkind]
        rfl
  refine run_bind_eq_ok.2 ⟨_, _, htimeout, ?_⟩
  simp only [EStateM.run] at hrun ⊢
  simp only [catchFault, tryCatch, tryCatchThe, MonadExceptOf.tryCatch, EStateM.tryCatch, hrun]

/-- A step is to be taken in a session when what comes before it has been done. -/
def Due (l : Launcher) (reason signal : Value) (s : Session)
    (ms : List (Happening ⊕ ShutdownStep)) (step : ShutdownStep) (u : Session) : Prop :=
  ∃ before rest, ms = before ++ .inr step :: rest ∧
    (interleaved l reason signal before).run s = .ok () u

section Due

variable {l : Launcher} {reason signal : Value} {s t u : Session}
  {ms : List (Happening ⊕ ShutdownStep)} {step : ShutdownStep}

lemma Due.taken (h : Due l reason signal s ms step u)
    (hrun : (interleaved l reason signal ms).run s = .ok () t) :
    Evolves s u ∧ ∃ v rest, (step.take l reason signal).run u = .ok () v ∧
      (interleaved l reason signal rest).run v = .ok () t := by
  obtain ⟨before, rest, rfl, hbefore⟩ := h
  obtain ⟨u', hu', htaken⟩ := run_interleaved_append.1 hrun
  obtain rfl : u = u' := by simpa using hbefore.symm.trans hu'
  obtain ⟨v, hv, hrest⟩ := run_interleaved_step.1 htaken
  exact ⟨evolves_interleaved hbefore, v, rest, hv, hrest⟩

/-- A child that its node has when it is asked gets the signal, if nothing goes wrong. -/
lemma Due.signalled {v : Session} (h : Due l reason signal s ms (.ask i) u)
    (hrun : (interleaved l reason signal ms).run s = .ok () t)
    (hv : (shutdownNode i reason signal (.int 0)).run u = .ok () v)
    (hlt : c < u.core.children.size) (howns : t.core.Owns i c) (hc : t.core.alive c) :
    Signalled c s t := by
  obtain ⟨hsu, w, rest, hw, hrest⟩ := h.taken hrun
  have hidles := yields_run_ok (idles_takeStep l reason signal (.ask i) u) hw
  have huw := hidles.evolves
  have hwt := evolves_interleaved hrest
  have hltw : c < w.core.children.size := Nat.lt_of_lt_of_le hlt huw.size
  have hown : u.core.Owns i c := (huw.trans hwt).owns i c hlt howns
  obtain rfl : v = w := by
    have hask : (askToEnd l reason signal i).run u = .ok () w := hw
    simpa using (run_askToEnd l reason signal hown hv).symm.trans hask
  have told := yields_run_ok (tells_shutdownNode reason signal (.int 0) hown) hv
  obtain ⟨n, pid, hpid, hmem⟩ := told (hwt.alive c hltw hc)
  refine ⟨n, pid, by rw [hwt.pid c hltw, hpid], ?_⟩
  refine (mem_sent_trans (hsu.trans huw) hwt).2 (.inl ?_)
  exact (mem_sent_trans hsu huw).2 (.inr hmem)

lemma exists_due_of_signalled (htidy : s.core.Tidy)
    (hrun : (interleaved l reason signal ms).run s = .ok () t) (howns : t.core.Owns i c)
    (hforeign : ∀ k f pid, t.core.foreign? k = some f → f.process = .found pid →
      t.core.pid? c ≠ some pid)
    (h : Signalled c s t) :
    SignalKnown signal ∧ ∃ step u, Due l reason signal s ms step u ∧ step.Reaches u i ∧
      c < u.core.children.size := by
  obtain ⟨n, pid, hpid, hmem⟩ := h
  obtain ⟨before, step, rest, u, hms, hu, k, ⟨hknown, hreach⟩, hruns⟩ :=
    exists_step_of_mem_sent hrun hmem
  have hdue : Due l reason signal s ms step u := ⟨before, rest, hms, hu⟩
  obtain ⟨hsu, v, rest, hv, hrest⟩ := hdue.taken hrun
  have hut := (yields_run_ok (idles_takeStep l reason signal step u) hv).evolves.trans
    (evolves_interleaved hrest)
  rcases hruns with ⟨d, hkd, hd⟩ | ⟨f, hf, hfound⟩
  · -- The number leads back to the child, and the child to its node.
    have hlt := pid?_lt hd
    have hdt : t.core.pid? d = some pid := by rw [hut.pid d hlt, hd]
    obtain rfl : d = c := ((hsu.trans hut).tidy htidy).distinct d c pid hdt hpid
    obtain rfl : k = i := (hsu.tidy htidy).sole k i d hkd (hut.owns i d hlt howns)
    exact ⟨hknown, step, u, hdue, hreach, hlt⟩
  · exact absurd hpid (hforeign k f pid (by rw [hut.foreign, hf]) hfound)

lemma exists_due_ask {nodes : List Nat} (hsteps : ms.filterMap Sum.getRight? = shutdownSteps nodes)
    (hrun : (interleaved l reason signal ms).run s = .ok () t) (hi : i ∈ nodes) :
    ∃ u, Due l reason signal s ms (.ask i) u := by
  have hask : ShutdownStep.ask i ∈ ms.filterMap Sum.getRight? := by
    rw [hsteps, shutdownSteps]
    exact mem_append_left _ (mem_map_of_mem hi)
  obtain ⟨m, hm, hright⟩ := mem_filterMap.1 hask
  obtain rfl : m = .inr (.ask i) := Sum.getRight?_eq_some_iff.1 hright
  obtain ⟨before, rest, rfl⟩ := append_of_mem hm
  obtain ⟨u, hu, -⟩ := run_interleaved_append.1 hrun
  exact ⟨u, before, rest, rfl, hu⟩

end Due

end Launch

open Launch in
/-- The children that run when an interleaved end of a launch is through. Each belongs to a node. If
it got a signal, then it was there when its node was asked, and the signal is a known one; and if it
was there when its node was asked, it got a signal unless the node failed. So no child that was
there before the end is left behind by a node that is asked and does not fail. -/
theorem signalled_of_asked_in_time {l : Launcher} {reason signal : Value} {s t : Session}
    {ms : List (Happening ⊕ ShutdownStep)} {nodes : List Nat} {c : Nat} (htidy : s.core.Tidy)
    (hsteps : ms.filterMap Sum.getRight? = shutdownSteps nodes)
    (hrun : (interleaved l reason signal ms).run s = .ok () t) (hc : t.core.alive c)
    (hforeign : ∀ k f pid, t.core.foreign? k = some f → f.process = .found pid →
      t.core.pid? c ≠ some pid) :
    ∃ i, t.core.Owns i c ∧
      (Signalled c s t → SignalKnown signal ∧ ∃ step u, Due l reason signal s ms step u ∧
        step.Reaches u i ∧ c < u.core.children.size) ∧
      (∀ u v, Due l reason signal s ms (.ask i) u →
        (shutdownNode i reason signal (.int 0)).run u = .ok () v → c < u.core.children.size →
        Signalled c s t) ∧
      (i ∈ nodes → c < s.core.children.size →
        (∀ u, Due l reason signal s ms (.ask i) u →
          ∃ v, (shutdownNode i reason signal (.int 0)).run u = .ok () v) →
        Signalled c s t) := by
  obtain ⟨i, howns⟩ := ((evolves_interleaved hrun).tidy htidy).owned c hc
  have asked (u v : Session) (hu : Due l reason signal s ms (.ask i) u)
      (hv : (shutdownNode i reason signal (.int 0)).run u = .ok () v)
      (hlt : c < u.core.children.size) : Signalled c s t :=
    hu.signalled hrun hv hlt howns hc
  refine ⟨i, howns, exists_due_of_signalled htidy hrun howns hforeign, asked, ?_⟩
  intro hi hlt hok
  obtain ⟨u, hu⟩ := exists_due_ask hsteps hrun hi
  obtain ⟨v, hv⟩ := hok u hu
  have hsu : Evolves s u := (hu.taken hrun).1
  exact asked u v hu hv (Nat.lt_of_lt_of_le hlt hsu.size)

lemma Session.tidy_single (respawns : Int) (script : Script.ChildScript) :
    (single respawns script).core.Tidy := by
  refine tidy_of_no_children rfl fun i c h => ?_
  rcases h with h | ⟨f, hf, -⟩
  · cases i <;> simp [childOf, process?, Session.core, single,
      NodeKind.process?, ProcessNode.plain] at h
  · cases i <;> simp [foreign?, Session.core, single, NodeKind.foreign?] at hf

lemma Session.foreign?_single (respawns : Int) (script : Script.ChildScript) (i : Nat) :
    (single respawns script).core.foreign? i = none := by
  cases i <;> simp [foreign?, Session.core, single, NodeKind.foreign?]

def Session.started (respawns : Int) (script : Script.ChildScript) : Session :=
  (Scene.run { session := single respawns script } [.start 0]).session

lemma Session.evolves_started (respawns : Int) (script : Script.ChildScript) :
    Evolves (single respawns script) (started respawns script) :=
  Scene.evolves_run { session := single respawns script } [.start 0]

open Launch in
/-- A child that is started between the beginning of the end and the request to its node, and that
ignores the request, has got the signal. -/
theorem signalled_of_asked_in_time_after_restart :
    let s := Session.started 1 { ignore := [15] }
    let before : List (Happening ⊕ ShutdownStep) := [.inl (.exits 0 1), .inl (.finishes 0 false)]
    let ms := before ++ (shutdownSteps [0]).map .inr
    let ending := interleaved .plain (.str "bye") (.int 15) ms
    ending.returns s ∧ (ending.after s).core.alive 1 ∧ s.core.children.size = 1 ∧
      Signalled 1 s (ending.after s) := by
  intro s before ms ending
  have hreturns : ending.returns s := by decide +kernel
  have hrun := run_eq_of_returns hreturns
  have halive : (ending.after s).core.alive 1 := by decide +kernel
  have htidy := (Session.evolves_started 1 { ignore := [15] }).tidy (Session.tidy_single _ _)
  have hend := evolves_interleaved hrun
  have hsteps : ms.filterMap Sum.getRight? = shutdownSteps [0] := rfl
  obtain ⟨i, howns, -, hasked, -⟩ := signalled_of_asked_in_time htidy hsteps hrun halive
    fun k f pid hf => by
      rw [hend.foreign, (Session.evolves_started _ _).foreign, Session.foreign?_single] at hf
      cases hf
  obtain rfl : i = 0 := (hend.tidy htidy).sole i 0 1 howns (.inl (by decide +kernel))
  have hfirst : (interleaved .plain (.str "bye") (.int 15) before).returns s := by decide +kernel
  have hshut : (shutdownNode 0 (.str "bye") (.int 15) (.int 0)).returns
      ((interleaved .plain (.str "bye") (.int 15) before).after s) := by decide +kernel
  refine ⟨hreturns, halive, by decide +kernel, ?_⟩
  exact hasked _ _ ⟨before, _, rfl, run_eq_of_returns hfirst⟩ (run_eq_of_returns hshut)
    (by decide +kernel)

open Launch in
/-- A child that is started after its node was asked is left behind; and so is every child if the
signal is none that is known. -/
theorem late_child_left_behind :
    (let s := Session.started 1 {}
      let ms := .inr (.ask 0) :: .inl (.finishes 0 false) :: (shutdownSteps []).map .inr
      let ending := interleaved .plain (.str "bye") (.int 15) ms
      ms.filterMap Sum.getRight? = shutdownSteps [0] ∧ ending.returns s ∧
        (ending.after s).core.alive 1 ∧ ¬ Signalled 1 s (ending.after s)) ∧
    (let s := Session.started 0 {}
      let ending := shutdownAll (.str "bye") (.int 35)
      ending.returns s ∧ (ending.after s).core.alive 0 ∧ ¬ Signalled 0 s (ending.after s)) := by
  exact ⟨⟨rfl, by decide +kernel, by decide +kernel, by decide +kernel⟩,
    by decide +kernel, by decide +kernel, by decide +kernel⟩

end Launchpad
