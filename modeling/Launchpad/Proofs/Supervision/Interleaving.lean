import Launchpad.Proofs.Supervision.Scene

/-!
The end of a launch, taken step by step, with exits of children and ends of watchers in between.
Children keep their numbers and, once they have ended, stay so; a node that points to a child has
done so since the child came to be.
-/

namespace Launchpad

open List

open Session.Core

variable {s t : Session} {i : Nat}

lemma NodeKind.foreign?_mapProcess (f : ProcessNode → ProcessNode) (kind : NodeKind) :
    (kind.mapProcess f).foreign? = kind.foreign? := by
  cases kind <;> rfl

lemma NodeKind.wrapped?_mapProcess (f : ProcessNode → ProcessNode) (kind : NodeKind) :
    (kind.mapProcess f).wrapped? = kind.wrapped? := by
  cases kind <;> rfl

namespace Session.Core

lemma view_modifyProcess {α : Type} (k : Core) (i j : Nat) {f : ProcessNode → ProcessNode}
    {view : NodeKind → Option α} (h : ∀ kind, view (NodeKind.mapProcess f kind) = view kind) :
    (k.modifyProcess i f).kinds[j]?.bind view = k.kinds[j]?.bind view := by
  simp only [modifyProcess, Array.getElem?_modify]
  split
  · cases k.kinds[j]? with
    | none => rfl
    | some kind => exact h kind
  · rfl

lemma foreign?_modifyProcess (k : Core) (i j : Nat) (f : ProcessNode → ProcessNode) :
    (k.modifyProcess i f).foreign? j = k.foreign? j :=
  view_modifyProcess k i j (NodeKind.foreign?_mapProcess f)

lemma wrapped?_modifyProcess (k : Core) (i j : Nat) (f : ProcessNode → ProcessNode) :
    (k.modifyProcess i f).wrapped? j = k.wrapped? j :=
  view_modifyProcess k i j (NodeKind.wrapped?_mapProcess f)

variable {k : Core}

lemma foreign?_of_process? {p : ProcessNode} (h : k.process? i = some p) : k.foreign? i = none := by
  obtain ⟨kind, hkind, hp⟩ := Option.bind_eq_some_iff.1 h
  rw [foreign?, hkind]
  cases kind <;> first | rfl | cases hp

/-- What holds of the children of a session: their numbers differ and have been given out, each
belongs to at most one node, and those that run belong to one. -/
structure Tidy (k : Core) : Prop where
  distinct : ∀ c d pid, k.pid? c = some pid → k.pid? d = some pid → c = d
  given : ∀ c pid, k.pid? c = some pid → pid < k.world.nextPid
  sole : ∀ i j c, k.Owns i c → k.Owns j c → i = j
  there : ∀ i c, k.Owns i c → c < k.children.size
  owned : ∀ c, k.alive c → ∃ i, k.Owns i c

lemma tidy_of_no_children (hchildren : k.children = #[]) (hnodes : ∀ i c, ¬ k.Owns i c) :
    k.Tidy := by
  have hpid (c : Nat) : k.pid? c = none := by simp [pid?, hchildren]
  refine ⟨fun c d pid h => ?_, fun c pid h => ?_, fun i j c h => absurd h (hnodes i c),
    fun i c h => absurd h (hnodes i c), fun c h => ?_⟩
  · simp [hpid] at h
  · simp [hpid] at h
  · simp [alive, hchildren] at h

lemma pid?_lt {c : Nat} {pid : Int} (h : k.pid? c = some pid) : c < k.children.size := by
  obtain ⟨d, hd, -⟩ := Option.map_eq_some_iff.1 h
  obtain ⟨hlt, -⟩ := Array.getElem?_eq_some_iff.1 hd
  exact hlt

end Session.Core

/-- A session some time later, whatever was done: the children that were there keep their numbers,
do not come back and do not change their nodes. -/
structure Evolves (s t : Session) : Prop where
  size : s.core.children.size ≤ t.core.children.size
  pid : ∀ c < s.core.children.size, t.core.pid? c = s.core.pid? c
  alive : ∀ c < s.core.children.size, t.core.alive c → s.core.alive c
  owns : ∀ i, ∀ c < s.core.children.size, t.core.Owns i c → s.core.Owns i c
  foreign : ∀ i, t.core.foreign? i = s.core.foreign? i
  wrapped : ∀ i, t.core.wrapped? i = s.core.wrapped? i
  signals : s.core.signals <+: t.core.signals
  tidy : s.core.Tidy → t.core.Tidy

namespace Evolves

variable {s t u : Session}

lemma trans (h : Evolves s t) (h' : Evolves t u) : Evolves s u where
  size := Nat.le_trans h.size h'.size
  pid c hc := (h'.pid c (Nat.lt_of_lt_of_le hc h.size)).trans (h.pid c hc)
  alive c hc hu := h.alive c hc (h'.alive c (Nat.lt_of_lt_of_le hc h.size) hu)
  owns i c hc hu := h.owns i c hc (h'.owns i c (Nat.lt_of_lt_of_le hc h.size) hu)
  foreign i := (h'.foreign i).trans (h.foreign i)
  wrapped i := (h'.wrapped i).trans (h.wrapped i)
  signals := h.signals.trans h'.signals
  tidy hs := h'.tidy (h.tidy hs)

lemma of_ageAll (hchildren : AgeAll s.core.children t.core.children)
    (hnext : t.core.world.nextPid = s.core.world.nextPid)
    (hchild : ∀ i, t.core.childOf i = s.core.childOf i)
    (hforeign : ∀ i, t.core.foreign? i = s.core.foreign? i)
    (hwrapped : ∀ i, t.core.wrapped? i = s.core.wrapped? i)
    (hsignals : s.core.signals <+: t.core.signals) : Evolves s t := by
  have hpid (c : Nat) : t.core.pid? c = s.core.pid? c := hchildren.pid_eq c
  have howns (i c : Nat) : t.core.Owns i c ↔ s.core.Owns i c := by
    simp only [Owns, hchild, hforeign]
  have halive (c : Nat) (hc : t.core.alive c) : s.core.alive c :=
    alive_before hchildren hc
  refine ⟨Nat.le_of_eq hchildren.size.symm, fun c _ => hpid c, fun c _ => halive c,
    fun i c _ => (howns i c).1, hforeign, hwrapped, hsignals, fun hs => ?_⟩
  refine ⟨fun c d pid => ?_, fun c pid => ?_, fun i j c => ?_, fun i c => ?_, fun c hc => ?_⟩
  · rw [hpid, hpid]
    exact hs.distinct c d pid
  · rw [hpid, hnext]
    exact hs.given c pid
  · rw [howns, howns]
    exact hs.sole i j c
  · rw [howns, hchildren.size]
    exact hs.there i c
  · obtain ⟨i, hi⟩ := hs.owned c (halive c hc)
    exact ⟨i, (howns i c).2 hi⟩

end Evolves

variable {P : Nat → Prop} {x : Int × Int}

lemma Idles.evolves (h : Idles P s t) : Evolves s t := by
  obtain ⟨new, hnew, -⟩ := h.signals
  exact .of_ageAll h.children h.nextPid h.childOf_eq h.foreign h.wrapped ⟨new, hnew.symm⟩

namespace Births

variable {i : Nat} {s t : Session}

variable (h : Births i s t)
include h

lemma foreign?_eq (j : Nat) : t.core.foreign? j = s.core.foreign? j := by
  obtain ⟨d, -, -, hcore⟩ := h.born
  rw [hcore]
  exact foreign?_modifyProcess (s.core.addChild d) i j _

lemma wrapped?_eq (j : Nat) : t.core.wrapped? j = s.core.wrapped? j := by
  obtain ⟨d, -, -, hcore⟩ := h.born
  rw [hcore]
  exact wrapped?_modifyProcess (s.core.addChild d) i j _

lemma pid?_eq (c : Nat) :
    t.core.pid? c =
      if c = s.core.children.size then some s.core.world.nextPid else s.core.pid? c := by
  obtain ⟨d, hpid, -, hcore⟩ := h.born
  rw [hcore, pid?, children_bear, Array.getElem?_push]
  split
  · rw [← hpid]
    rfl
  · rfl

lemma nextPid_eq : t.core.world.nextPid = s.core.world.nextPid + 1 := by
  obtain ⟨d, -, -, hcore⟩ := h.born
  rw [hcore]
  rfl

lemma owns_self (c : Nat) : t.core.Owns i c ↔ c = s.core.children.size := by
  obtain ⟨p, hp, -⟩ := h.idle
  have hforeign : t.core.foreign? i = none := by
    rw [h.foreign?_eq, foreign?_of_process? hp]
  have hchild : t.core.childOf i = some s.core.children.size := by
    rw [childOf, h.process?_self hp]
    rfl
  simp [Owns, hforeign, hchild, eq_comm]

lemma owns_of_ne {j : Nat} (hj : j ≠ i) (c : Nat) : t.core.Owns j c ↔ s.core.Owns j c := by
  simp only [Owns, childOf, h.process?_of_ne hj.symm, h.foreign?_eq]

lemma not_alive {c : Nat} (hc : s.core.Owns i c) : ¬ s.core.alive c := by
  obtain ⟨p, hp, hidle⟩ := h.idle
  rcases hc with hc | ⟨f, hf, -⟩
  · have hpc : p.child = some c := by
      rw [childOf, hp] at hc
      exact hc
    rw [hpc] at hidle
    simpa using hidle
  · simp [foreign?_of_process? hp] at hf

lemma tidy (hs : s.core.Tidy) : t.core.Tidy := by
  have hsize := h.size_eq
  refine ⟨fun c d pid hc hd => ?_, fun c pid hc => ?_, fun j k c hj hk => ?_, fun j c hj => ?_,
    fun c hc => ?_⟩
  · rw [h.pid?_eq] at hc hd
    have hnew (c : Nat) (hc : s.core.pid? c = some pid) : s.core.world.nextPid ≠ pid :=
      (Int.ne_of_lt (hs.given c pid hc)).symm
    split at hc <;> split at hd
    · next hcn hdn => rw [hcn, hdn]
    · exact absurd (Option.some.inj hc) (hnew d hd)
    · exact absurd (Option.some.inj hd) (hnew c hc)
    · exact hs.distinct c d pid hc hd
  · rw [h.pid?_eq] at hc
    rw [h.nextPid_eq]
    split at hc
    · have := Option.some.inj hc
      omega
    · have := hs.given c pid hc
      omega
  · have hold (l : Nat) (hl : s.core.Owns l c) : c ≠ s.core.children.size :=
      Nat.ne_of_lt (hs.there l c hl)
    by_cases hji : j = i <;> by_cases hki : k = i
    · rw [hji, hki]
    · rw [hji, h.owns_self] at hj
      exact absurd hj (hold k ((h.owns_of_ne hki c).1 hk))
    · rw [hki, h.owns_self] at hk
      exact absurd hk (hold j ((h.owns_of_ne hji c).1 hj))
    · exact hs.sole j k c ((h.owns_of_ne hji c).1 hj) ((h.owns_of_ne hki c).1 hk)
  · rw [hsize]
    by_cases hji : j = i
    · rw [hji, h.owns_self] at hj
      omega
    · exact Nat.lt_succ_of_lt (hs.there j c ((h.owns_of_ne hji c).1 hj))
  · rw [h.alive_eq] at hc
    by_cases hnew : c = s.core.children.size
    · exact ⟨i, (h.owns_self c).2 hnew⟩
    · have hrun : s.core.alive c := by simpa [hnew] using hc
      obtain ⟨j, hj⟩ := hs.owned c hrun
      have hji : j ≠ i := fun hji => h.not_alive (hji ▸ hj) hrun
      exact ⟨j, (h.owns_of_ne hji c).2 hj⟩

lemma evolves : Evolves s t := by
  have hold (c : Nat) (hc : c < s.core.children.size) : c ≠ s.core.children.size :=
    Nat.ne_of_lt hc
  refine ⟨by rw [h.size_eq]; omega, fun c hc => ?_, fun c hc hrun => ?_, fun j c hc hj => ?_,
    h.foreign?_eq, h.wrapped?_eq, h.signals_eq ▸ prefix_rfl, h.tidy⟩
  · rw [h.pid?_eq, if_neg (hold c hc)]
  · rw [h.alive_eq] at hrun
    simpa [hold c hc] using hrun
  · by_cases hji : j = i
    · rw [hji, h.owns_self] at hj
      exact absurd hj (hold c hc)
    · exact (h.owns_of_ne hji c).1 hj

end Births

lemma Starts.evolves (h : Starts i s t) : Evolves s t := by
  cases h with
  | fails ht => exact ht.idles.evolves
  | spawns m hm ht => exact hm.idles.evolves.trans ht.evolves

lemma Evolves.of_tasks {tasks : List Task} (h : t.core = { s.core with tasks }) : Evolves s t := by
  have hchildren : t.core.children = s.core.children := congrArg (fun k => k.children) h
  have hsignals : t.core.signals = s.core.signals := congrArg (fun k => k.signals) h
  refine .of_ageAll (hchildren ▸ .refl _) ?_ (fun i => ?_) (fun i => ?_) (fun i => ?_) ?_
  · exact congrArg (fun k => k.world.nextPid) h
  · exact congrArg (fun k => k.childOf i) h
  · exact congrArg (fun k => k.foreign? i) h
  · exact congrArg (fun k => k.wrapped? i) h
  · exact hsignals.symm ▸ prefix_rfl

lemma Evolves.of_countRestart (h : t.core = s.core.countRestart i) : Evolves s t := by
  have hchildren : t.core.children = s.core.children := congrArg (fun k => k.children) h
  have hsignals : t.core.signals = s.core.signals := congrArg (fun k => k.signals) h
  refine .of_ageAll (hchildren ▸ .refl _) ?_ (fun j => ?_) (fun j => ?_) (fun j => ?_) ?_
  · exact congrArg (fun k => k.world.nextPid) h
  · have hprocess := congrArg (fun k => k.process? j) h
    simp only [countRestart, process?_modifyProcess] at hprocess
    rw [childOf, hprocess, childOf]
    split <;> cases s.core.process? j <;> rfl
  · rw [h]
    exact foreign?_modifyProcess s.core i j _
  · rw [h]
    exact wrapped?_modifyProcess s.core i j _
  · exact hsignals.symm ▸ prefix_rfl

lemma WatcherEnds.evolves (h : WatcherEnds i s t) : Evolves s t := by
  cases h with
  | quiet ht => exact ht.idles.evolves
  | restarts m u p hm hp hleft hu ht =>
    exact (hm.idles.evolves.trans (.of_countRestart hu)).trans ht.evolves
  | arms m hm hrun ht => exact hm.idles.evolves.trans (.of_tasks ht)

lemma Session.evolves_happen (s : Session) (h : Happening) : Evolves s (s.happen h) := by
  cases h with
  | exits c code => exact (Aged.idles (Launch.keeps_endChild.after s)).evolves
  | finishes n live =>
    simp only [happen]
    split
    · next i c _ =>
      have hends := Launch.watcherEnds_after i c live (s.dropTask n)
      have hdrop : Evolves s (s.dropTask n) := .of_tasks rfl
      exact hdrop.trans hends.evolves
    · exact (refl_of Aged s).idles.evolves

lemma Scene.evolves_step (sc : Scene) (a : Act) : Evolves sc.session (sc.step a).session := by
  have hmoves := sc.moves a
  generalize sc.step a = next at hmoves
  have drop (n : Nat) : Evolves sc.session (sc.session.dropTask n) := .of_tasks rfl
  cases hmoves with
  | stays _ => exact (refl_of Aged _).idles.evolves
  | starts ht => exact ht.evolves
  | exits ht => exact ht.idles.evolves
  | finishes hn ht => exact (drop _).trans ht.evolves
  | shuts ht => exact ht.idles.evolves
  | shutsAll ht => exact ht.evolves
  | fires hn ht => exact (drop _).trans ht.idles.evolves
  | kills hn ht => exact ht.idles.evolves

lemma Scene.evolves_run (sc : Scene) (acts : List Act) :
    Evolves sc.session (sc.run acts).session := by
  induction acts generalizing sc with
  | nil => exact (refl_of Aged _).idles.evolves
  | cons a acts ih => exact (sc.evolves_step a).trans (ih (sc.step a))

/-! ## Signals -/

/-- The signals that were sent to children between two sessions. -/
def sent (s t : Session) : List (Int × Int) :=
  t.core.signals.drop s.core.signals.length

lemma sent_of_append {new : List (Int × Int)} (h : t.core.signals = s.core.signals ++ new) :
    sent s t = new := by
  rw [sent, h, drop_left]

lemma sent_eq_nil (h : t.core.signals = s.core.signals) : sent s t = [] :=
  sent_of_append (by rw [h, append_nil])

lemma Idles.exists_of_mem_sent (h : Idles P s t) (hx : x ∈ sent s t) :
    ∃ i, P i ∧ s.core.Runs i x.2 := by
  obtain ⟨new, hnew, htarget⟩ := h.signals
  rw [sent_of_append hnew] at hx
  exact htarget x hx

lemma mem_sent_trans {u : Session} (h : Evolves s t) (h' : Evolves t u) :
    x ∈ sent s u ↔ x ∈ sent s t ∨ x ∈ sent t u := by
  obtain ⟨new, hnew⟩ := h.signals
  obtain ⟨new', hnew'⟩ := h'.signals
  have hall : u.core.signals = s.core.signals ++ (new ++ new') := by
    rw [← append_assoc, hnew, hnew']
  rw [sent_of_append hnew.symm, sent_of_append hnew'.symm, sent_of_append hall]
  exact mem_append

lemma Starts.signals_eq (h : Starts i s t) : t.core.signals = s.core.signals := by
  cases h with
  | fails ht => exact ht.signals_eq
  | spawns m hm ht => rw [ht.signals_eq, hm.signals_eq]

lemma WatcherEnds.signals_eq (h : WatcherEnds i s t) : t.core.signals = s.core.signals := by
  cases h with
  | quiet ht => exact ht.signals_eq
  | restarts m u p hm hp hleft hu ht =>
    rw [ht.signals_eq, hu, ← hm.signals_eq]
    rfl
  | arms m hm hrun ht =>
    rw [ht, ← hm.signals_eq]
    rfl

lemma Session.signals_happen (s : Session) (h : Happening) :
    (s.happen h).core.signals = s.core.signals := by
  cases h with
  | exits c code => exact Aged.signals_eq (Launch.keeps_endChild.after s)
  | finishes n live =>
    simp only [happen]
    split
    · next i c _ =>
      exact (Launch.watcherEnds_after i c live (s.dropTask n)).signals_eq
    · rfl

/-! ## The end of a launch in its steps -/

namespace Launch

/-- Takes the steps of the end of a launch while other things happen. -/
def interleaved (l : Launcher) (reason signal : Value) (ms : List (Happening ⊕ ShutdownStep)) :
    Launch Unit :=
  ms.forM fun
    | .inl h => modify fun s => s.happen h
    | .inr step => step.take l reason signal

variable {l : Launcher} {reason signal : Value} {s t : Session}
  {ms : List (Happening ⊕ ShutdownStep)}

lemma run_interleaved_step {step : ShutdownStep} :
    (interleaved l reason signal (.inr step :: ms)).run s = .ok () t ↔
      ∃ u, (step.take l reason signal).run s = .ok () u ∧
        (interleaved l reason signal ms).run u = .ok () t := by
  simp only [interleaved, forM_eq_forM, forM_cons, run_bind_eq_ok]
  exact ⟨fun ⟨_, u, h⟩ => ⟨u, h⟩, fun ⟨u, h⟩ => ⟨_, u, h⟩⟩

lemma run_interleaved_append {more : List (Happening ⊕ ShutdownStep)} :
    (interleaved l reason signal (ms ++ more)).run s = .ok () t ↔
      ∃ u, (interleaved l reason signal ms).run s = .ok () u ∧
        (interleaved l reason signal more).run u = .ok () t := by
  simp only [interleaved, forM_eq_forM, forM_append, run_bind_eq_ok]
  exact ⟨fun ⟨_, u, h⟩ => ⟨u, h⟩, fun ⟨u, h⟩ => ⟨_, u, h⟩⟩

lemma evolves_interleaved (h : (interleaved l reason signal ms).run s = .ok () t) :
    Evolves s t := by
  induction ms generalizing s with
  | nil =>
    cases h
    exact (refl_of Aged _).idles.evolves
  | cons m ms ih =>
    cases m with
    | inl happening => exact (s.evolves_happen happening).trans (ih h)
    | inr step =>
      obtain ⟨u, hu, h⟩ := run_interleaved_step.1 h
      have hidles := yields_run_ok (idles_takeStep l reason signal step s) hu
      exact hidles.evolves.trans (ih h)

lemma exists_step_of_mem_sent (h : (interleaved l reason signal ms).run s = .ok () t)
    {x : Int × Int} (hx : x ∈ sent s t) :
    ∃ before step rest u, ms = before ++ .inr step :: rest ∧
      (interleaved l reason signal before).run s = .ok () u ∧
      ∃ i, (SignalKnown signal ∧ step.Reaches u i) ∧ u.core.Runs i x.2 := by
  induction ms generalizing s with
  | nil =>
    cases h
    rw [sent_eq_nil rfl] at hx
    cases hx
  | cons m ms ih =>
    cases m with
    | inl happening =>
      have hsame : sent s t = sent (s.happen happening) t := by
        rw [sent, sent, s.signals_happen happening]
      rw [hsame] at hx
      obtain ⟨before, step, rest, u, rfl, hu, hi⟩ := ih h hx
      exact ⟨.inl happening :: before, step, rest, u, rfl, hu, hi⟩
    | inr step =>
      obtain ⟨v, hv, h⟩ := run_interleaved_step.1 h
      have hidles := yields_run_ok (idles_takeStep l reason signal step s) hv
      rcases (mem_sent_trans hidles.evolves (evolves_interleaved h)).1 hx with hx | hx
      · exact ⟨[], step, ms, s, rfl, rfl, hidles.exists_of_mem_sent hx⟩
      · obtain ⟨before, step', rest, u, rfl, hu, hi⟩ := ih h hx
        exact ⟨.inr step :: before, step', rest, u, rfl, run_interleaved_step.2 ⟨v, hv, hu⟩, hi⟩

end Launch

end Launchpad
