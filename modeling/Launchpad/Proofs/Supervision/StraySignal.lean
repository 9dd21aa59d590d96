import Launchpad.Proofs.Supervision.Interleaving

/-!
Where signals come from. A child gets a signal when its node, or the launcher, is asked to end. The
one other source are timers. A timer is set up by a watcher that comes to its end while the node has
a child that runs, which is then a later one than the child that was watched; and it signals
whatever child the node has when it fires.
-/

namespace Launchpad

open List

namespace Act

/-- Does an act ask for the end of a node? -/
def Requests (a : Act) (s : Session) (i : Nat) : Prop :=
  match a with
  | .shutdown j _ _ _ => s.core.Reaches j i
  | .shutdownAll _ _ => True
  | _ => False

def timer? (a : Act) (sc : Scene) : Option Nat :=
  match a with
  | .fire n _ => match sc.session.tasks[n]? with
    | some (.escalate i) => some i
    | _ => none
  | .kill n _ => sc.armed[n]?
  | _ => none

end Act

namespace Scene

def Timed (sc : Scene) (i : Nat) : Prop :=
  .escalate i ∈ sc.session.core.tasks ∨ i ∈ sc.armed

/-- A watcher of a node comes to its end, and a child that the node had started before still runs. -/
def Overtakes (sc : Scene) (a : Act) (i : Nat) : Prop :=
  let now := sc.session.core
  let next := (sc.step a).session.core
  (∃ c, a.watcher? sc.session = some (i, c)) ∧ next.children.size = now.children.size ∧
    (next.childOf i).any next.alive

/-- In the course of a run, a watcher of a node has come to its end while a child of the node ran. -/
def Overtaken (sc : Scene) (acts : List Act) (i : Nat) : Prop :=
  ∃ before a rest, acts = before ++ a :: rest ∧ (sc.run before).Overtakes a i

end Scene

lemma Starts.mem_tasks_escalate {i j : Nat} {s t : Session} (h : Starts i s t)
    (hj : .escalate j ∈ t.core.tasks) : .escalate j ∈ s.core.tasks := by
  cases h with
  | fails ht => rwa [ht.tasks_eq] at hj
  | spawns m hm ht =>
    rw [ht.tasks_eq, hm.tasks_eq] at hj
    simpa using hj

/-- A watcher sets up a timer only for its own node, and only if that has a child that runs. -/
lemma WatcherEnds.mem_tasks_escalate {i j : Nat} {s t : Session} (h : WatcherEnds i s t)
    (hj : .escalate j ∈ t.core.tasks) :
    .escalate j ∈ s.core.tasks ∨
      (j = i ∧ t.core.children.size = s.core.children.size ∧
        (t.core.childOf i).any t.core.alive) := by
  cases h with
  | quiet ht =>
    rw [ht.tasks_eq] at hj
    exact .inl hj
  | restarts m u p hm hp hleft hu ht =>
    have hu' := ht.mem_tasks_escalate hj
    have htasks : u.core.tasks = m.core.tasks := congrArg (fun k => k.tasks) hu
    rw [htasks, hm.tasks_eq] at hu'
    exact .inl hu'
  | arms m hm hrun ht =>
    have htasks : t.core.tasks = m.core.tasks ++ [.escalate i] := congrArg (fun k => k.tasks) ht
    rw [htasks, hm.tasks_eq, mem_append] at hj
    refine hj.imp id fun hj => ⟨?_, ?_, ?_⟩
    · simpa using hj
    · exact (congrArg (fun k => k.children.size) ht).trans hm.idles.size_eq
    · rw [ht]
      exact hrun

namespace Scene

variable {sc : Scene} {a : Act} {i : Nat}

lemma timed_of_step (h : (sc.step a).Timed i) : sc.Timed i ∨ sc.Overtakes a i := by
  have hmoves := sc.moves a
  unfold Overtakes
  generalize sc.step a = next at hmoves h
  have same {t : Session} (ht : t.core.tasks = sc.session.core.tasks)
      (h : Timed ⟨t, sc.armed⟩ i) : sc.Timed i := h.imp_left fun h => by rwa [← ht]
  have drop {n : Nat} {b : Task} (hb : b ∈ (sc.session.dropTask n).core.tasks) :
      b ∈ sc.session.core.tasks := mem_of_mem_eraseIdx hb
  cases hmoves with
  | stays _ => exact .inl h
  | starts ht => exact .inl (h.imp_left ht.mem_tasks_escalate)
  | exits ht => exact .inl (same ht.tasks_eq h)
  | @finishes n j c live t hn ht =>
    rcases h with h | h
    · rcases ht.mem_tasks_escalate h with hold | ⟨rfl, hsize, hrun⟩
      · exact .inl (.inl (drop hold))
      · exact .inr ⟨⟨c, by simp [Act.watcher?, hn]⟩, hsize, hrun⟩
    · exact .inl (.inr h)
  | shuts ht => exact .inl (same ht.idles.tasks h)
  | shutsAll ht => exact .inl (same ht.tasks h)
  | @fires n j live t armed known hn ht harmed =>
    rcases h with h | h
    · exact .inl (.inl (drop (ht.idles.tasks.subst h)))
    · rcases harmed i h with h | rfl
      · exact .inl (.inr h)
      · exact .inl (.inl (mem_of_getElem? hn))
  | @kills n j live t known hn ht =>
    exact .inl (same ht.idles.tasks (h.imp_right mem_of_mem_eraseIdx))

lemma timed_of_run {acts : List Act} (h : (sc.run acts).Timed i) :
    sc.Timed i ∨ sc.Overtaken acts i := by
  induction acts generalizing sc with
  | nil => exact .inl h
  | cons a acts ih =>
    rcases ih h with htimed | ⟨before, b, rest, rfl, hover⟩
    · exact (timed_of_step htimed).imp_right fun hover => ⟨[], a, acts, rfl, hover⟩
    · exact .inr ⟨a :: before, b, rest, rfl, hover⟩

lemma timed_of_timer? (h : a.timer? sc = some i) : sc.Timed i := by
  cases a with
  | fire n live =>
    simp only [Act.timer?] at h
    split at h
    · next j hn =>
      obtain rfl : j = i := Option.some.inj h
      exact .inl (mem_of_getElem? hn)
    · cases h
  | kill n live => exact .inr (mem_of_getElem? h)
  | _ => cases h

lemma requested_or_timed {x : Int × Int} (h : x ∈ sent sc.session (sc.step a).session) :
    ∃ i, sc.session.core.Runs i x.2 ∧ (a.Requests sc.session i ∨ a.timer? sc = some i) := by
  have hmoves := sc.moves a
  generalize sc.step a = next at hmoves h
  have silent {t : Session} (ht : t.core.signals = sc.session.core.signals)
      (hx : x ∈ sent sc.session t) : False := by
    rw [sent_eq_nil ht] at hx
    cases hx
  cases hmoves with
  | stays _ => exact (silent rfl h).elim
  | starts ht => exact (silent ht.signals_eq h).elim
  | exits ht => exact (silent ht.signals_eq h).elim
  | finishes hn ht => exact (silent ht.signals_eq h).elim
  | shuts ht =>
    obtain ⟨i, ⟨-, hi⟩, hruns⟩ := ht.idles.exists_of_mem_sent h
    exact ⟨i, hruns, .inl hi⟩
  | shutsAll ht =>
    obtain ⟨i, -, hruns⟩ := ht.exists_of_mem_sent h
    exact ⟨i, hruns, .inl trivial⟩
  | @fires n j live t armed known hn ht harmed =>
    obtain ⟨i, ⟨-, rfl⟩, hruns⟩ := ht.idles.exists_of_mem_sent h
    exact ⟨i, hruns, .inr (by simp [Act.timer?, hn])⟩
  | kills hn ht =>
    obtain ⟨i, ⟨-, rfl⟩, hruns⟩ := ht.idles.exists_of_mem_sent h
    exact ⟨i, hruns, .inr hn⟩

end Scene

/-- Every signal of a run goes to a process that a node has at that time. Either the act asks for the
end of this node; or the node's timer goes off, and then a watcher of the node has come to its end
earlier in the run while a child of the node ran. -/
theorem signal_requested_or_stray {s : Session} (hs : ∀ i, .escalate i ∉ s.tasks)
    (acts : List Act) (a : Act) {x : Int × Int} :
    let start : Scene := { session := s }
    let sc := start.run acts
    x ∈ sent sc.session (sc.step a).session →
      ∃ i, sc.session.core.Runs i x.2 ∧
        (a.Requests sc.session i ∨ (a.timer? sc = some i ∧ start.Overtaken acts i)) := by
  intro start sc hx
  obtain ⟨i, hruns, hreq | htimer⟩ := Scene.requested_or_timed hx
  · exact ⟨i, hruns, .inl hreq⟩
  · refine ⟨i, hruns, .inr ⟨htimer, ?_⟩⟩
    refine (Scene.timed_of_run (Scene.timed_of_timer? htimer)).resolve_left ?_
    rintro (h | h)
    · exact hs i h
    · cases h

def Act.overtaking : List Act :=
  [.start 0, .happen (.exits 0 1), .start 0, .happen (.finishes 0 false)]

/-- A child that is asked to end, and one that has overtaken a watcher and is signalled by its
timer. -/
theorem signal_requested_or_stray_both :
    let start : Scene := { session := Session.single 0 {} }
    let asked := start.run [.start 0]
    let ask : Act := .shutdown 0 .null (.int 15) (.int 0)
    let stray := start.run Act.overtaking
    ((15, 1000) ∈ sent asked.session (asked.step ask).session ∧
      ∃ i, asked.session.core.Runs i 1000 ∧ (ask.Requests asked.session i ∨
        (ask.timer? asked = some i ∧ start.Overtaken [.start 0] i))) ∧
    ((15, 1001) ∈ sent stray.session (stray.step (.fire 1 false)).session ∧
      ∃ i, stray.session.core.Runs i 1001 ∧ ((Act.fire 1 false).Requests stray.session i ∨
        ((Act.fire 1 false).timer? stray = some i ∧ start.Overtaken Act.overtaking i))) := by
  intro start asked ask stray
  have hs : ∀ i, Task.escalate i ∉ (Session.single 0 {}).tasks := fun i => not_mem_nil
  have hasked : (15, 1000) ∈ sent asked.session (asked.step ask).session := by decide +kernel
  have hstray : (15, 1001) ∈ sent stray.session (stray.step (.fire 1 false)).session := by
    decide +kernel
  exact ⟨⟨hasked, signal_requested_or_stray hs [.start 0] ask hasked⟩,
    hstray, signal_requested_or_stray hs Act.overtaking (.fire 1 false) hstray⟩

/-- A child gets a signal though nothing was asked to end. -/
theorem stray_signal :
    let sc := Scene.run { session := Session.single 0 {} } Act.overtaking
    (∀ a ∈ Act.overtaking ++ [.fire 1 false], ∀ s i, ¬ a.Requests s i) ∧
      sc.session.core.pid? 1 = some 1001 ∧ sc.session.core.alive 1 ∧
      sent sc.session (sc.step (.fire 1 false)).session = [(15, 1001)] := by
  refine ⟨fun a ha s i => ?_, by decide +kernel, by decide +kernel, by decide +kernel⟩
  simp only [Act.overtaking, cons_append, nil_append, mem_cons, not_mem_nil,
    or_false] at ha
  rcases ha with rfl | rfl | rfl | rfl | rfl <;> exact id

end Launchpad
