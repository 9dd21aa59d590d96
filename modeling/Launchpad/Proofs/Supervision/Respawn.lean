import Launchpad.Proofs.Supervision.Scene
import Mathlib.Data.List.Perm.Basic

/-!
Supervision of one node through every run. Of the children that were started for a node at most
one runs, each has one watcher, there are at most as many of them as there were starts and allowed
restarts, and once the launcher has been shut down there will be no more of them.
-/

namespace Launchpad

open List Option

open Session.Core

variable {s t : Session} {i : Nat}

def born (s t : Session) : List Nat :=
  List.range' s.core.children.size (t.core.children.size - s.core.children.size)

namespace Act

/-- The node for which an act may start a child. -/
def actor? (a : Act) (s : Session) : Option Nat :=
  match a with
  | .start i => some i
  | a => (a.watcher? s).map Prod.fst

def isStart (i : Nat) : Act → Bool
  | .start j => j = i
  | _ => false

end Act

/-- A run, with what it has brought for one node: how often the node was started, the children that
came to be, and the children whose watchers have come to their end. A child counts for the node
unless an act for another node has started it. -/
structure History where
  scene : Scene
  starts : Nat := 0
  spawned : List Nat := []
  finished : List Nat := []

namespace History

def session (h : History) : Session := h.scene.session

def step (i : Nat) (h : History) (a : Act) : History :=
  let next := h.scene.step a
  { scene := next
    starts := h.starts + if a.isStart i then 1 else 0
    spawned := h.spawned ++
      if (a.actor? h.session).all (· = i) then born h.session next.session else []
    finished := h.finished ++ match a.watcher? h.session with
      | none => []
      | some (j, c) => if j = i then [c] else [] }

def run (i : Nat) (s : Session) (acts : List Act) : History :=
  acts.foldl (step i) { scene := { session := s } }

end History

lemma Idles.born_eq {P : Nat → Prop} (h : Idles P s t) : born s t = [] := by
  rw [born, h.size_eq, Nat.sub_self]
  rfl

namespace Session.Core

lemma watchers_addTask (k : Core) (i : Nat) (a : Task) :
    (k.addTask a).watchers i = k.watchers i ++ (a.watches? i).toList := by
  simp only [watchers, addTask, filterMap_append, filterMap_cons, filterMap_nil]
  cases a.watches? i <;> rfl

lemma watchers_dropTask_perm {k : Core} {n : Nat} {a : Task} (h : k.tasks[n]? = some a)
    (i : Nat) : (k.watchers i).Perm ((a.watches? i).toList ++ (k.dropTask n).watchers i) := by
  obtain ⟨hn, rfl⟩ := List.getElem?_eq_some_iff.1 h
  have hperm := (getElem_cons_eraseIdx_perm hn).symm.filterMap (Task.watches? i)
  simp only [watchers, dropTask]
  cases hw : k.tasks[n].watches? i <;> simpa [hw] using hperm

end Session.Core

variable {j : Nat} {p : ProcessNode}

namespace Births

variable {i : Nat} {s t : Session}

lemma watchers_eq (h : Births j s t) :
    t.core.watchers i = s.core.watchers i ++ if j = i then [s.core.children.size] else [] := by
  have hadd := s.core.watchers_addTask i (.watchChild j s.core.children.size)
  rw [watchers, h.tasks_eq]
  refine hadd.trans ?_
  simp only [Task.watches?]
  split <;> rfl

lemma born_eq {u : Session} (h : Births i s t) (hu : u.core.children.size = s.core.children.size) :
    Launchpad.born u t = [s.core.children.size] := by
  rw [Launchpad.born, h.size_eq, hu, Nat.add_sub_cancel_left]
  rfl

end Births

/-- What holds of a node at any time of a run. The node's child is the one that was started last,
none of the others runs, and each of them has a watcher that waits or has come to its end. -/
structure Supervised (i : Nat) (limit : Value) (s : Session) (starts : Int)
    (spawned finished : List Nat) : Prop where
  node : ∃ p, s.core.process? i = some p ∧ p.maxRespawns = limit ∧ p.child = spawned.getLast? ∧
    (spawned.length : Int) ≤ starts + p.retries ∧ ∀ n, limit = .int n → 0 ≤ n → (p.retries : Int) ≤ n
  below : ∀ c ∈ spawned, c < s.core.children.size
  nodup : spawned.Nodup
  running : ∀ c ∈ spawned, s.core.alive c → spawned.getLast? = some c
  watched : (s.core.watchers i ++ finished).Perm spawned

namespace Supervised

variable {i : Nat} {starts : Int} {limit : Value} {spawned finished : List Nat} {s t : Session}

section

variable (h : Supervised i limit s starts spawned finished)
include h

lemma idles {P : Nat → Prop} (ht : Idles P s t) : Supervised i limit t starts spawned finished := by
  refine ⟨?_, fun c hc => ?_, h.nodup, fun c hc hrun => ?_, ?_⟩
  · rw [ht.process]
    exact h.node
  · rw [ht.size_eq]
    exact h.below c hc
  · exact h.running c hc (alive_before ht.children hrun)
  · rw [watchers, ht.tasks]
    exact h.watched

lemma mono {n : Int} (hn : starts ≤ n) : Supervised i limit s n spawned finished := by
  obtain ⟨p, hp, hlimit, hchild, hlength, hretries⟩ := h.node
  exact { h with node := ⟨p, hp, hlimit, hchild, by omega, hretries⟩ }

lemma births_self (ht : Births i s t)
    (hroom : ∀ p, s.core.process? i = some p → (spawned.length : Int) < starts + p.retries) :
    Supervised i limit t starts (spawned ++ [s.core.children.size]) finished := by
  obtain ⟨p, hp, hlimit, hchild, -, hretries⟩ := h.node
  have hidle : p.child.any s.core.alive = false := by
    obtain ⟨q, hq, hidle⟩ := ht.idle
    rwa [← mem_unique hp hq] at hidle
  refine ⟨⟨_, ht.process?_self hp, hlimit, by simp, ?_, hretries⟩, ?_, ?_, ?_, ?_⟩
  · have hlt := hroom p hp
    simp only [length_append, length_singleton]
    omega
  · intro c hc
    rw [ht.size_eq]
    rcases mem_append.1 hc with hc | hc
    · exact Nat.lt_succ_of_lt (h.below c hc)
    · simp [mem_singleton.1 hc]
  · have hnew : s.core.children.size ∉ spawned := fun hc => Nat.lt_irrefl _ (h.below _ hc)
    refine nodup_append.2 ⟨h.nodup, by simp, fun a ha b hb hab => hnew ?_⟩
    rwa [← mem_singleton.1 hb, ← hab]
  · -- A child that ran before would be the node's child, which does not run.
    intro c hc hrun
    rw [ht.alive_eq] at hrun
    by_cases hnew : c = s.core.children.size
    · simp [hnew]
    · have hold : c ∈ spawned := by simpa [hnew] using hc
      have hrun : s.core.alive c := by simpa [hnew] using hrun
      rw [hchild, h.running c hold hrun] at hidle
      simp [hrun] at hidle
  · rw [ht.watchers_eq, if_pos rfl, append_assoc]
    refine List.Perm.trans ?_ (h.watched.append_right _)
    rw [append_assoc]
    exact perm_append_comm.append_left _

lemma births_of_ne (ht : Births j s t) (hj : j ≠ i) :
    Supervised i limit t starts spawned finished := by
  obtain ⟨p, hp, hnode⟩ := h.node
  refine ⟨⟨p, ?_, hnode⟩, fun c hc => ?_, h.nodup, fun c hc hrun => ?_, ?_⟩
  · rw [ht.process?_of_ne hj, hp]
  · rw [ht.size_eq]
    exact Nat.lt_succ_of_lt (h.below c hc)
  · rw [ht.alive_eq] at hrun
    have hne : c ≠ s.core.children.size := Nat.ne_of_lt (h.below c hc)
    exact h.running c hc (by simpa [hne] using hrun)
  · rw [ht.watchers_eq, if_neg hj, append_nil]
    exact h.watched

lemma of_starts (ht : Starts j s t)
    (hroom : j = i → ∀ p, s.core.process? i = some p →
      (spawned.length : Int) < starts + p.retries) :
    Supervised i limit t starts (spawned ++ if j = i then born s t else []) finished := by
  cases ht with
  | fails ht =>
    rw [ht.idles.born_eq, ite_self, append_nil]
    exact h.idles ht.idles
  | spawns m hm ht =>
    have hsup := h.idles hm.idles
    have hsize := hm.idles.size_eq
    by_cases hj : j = i
    · obtain rfl : j = i := hj
      rw [if_pos rfl, ht.born_eq hsize.symm]
      refine hsup.births_self ht fun p hp => hroom rfl p ?_
      rw [← hm.process?_eq, hp]
    · rw [if_neg hj, append_nil]
      exact hsup.births_of_ne ht hj

lemma countRestart (hp : s.core.process? j = some p) (hleft : p.Unspent)
    (ht : t.core = s.core.countRestart j) :
    Supervised i limit t starts spawned finished ∧
      (j = i → ∀ q, t.core.process? i = some q → (spawned.length : Int) < starts + q.retries) := by
  obtain ⟨q, hq, hlimit, hchild, hlength, hretries⟩ := h.node
  have hprocess := process?_modifyProcess s.core j i
    fun p => { p with retries := p.retries + 1 }
  rw [← Session.Core.countRestart, ← ht, hq] at hprocess
  have hrest (r : ProcessNode) (hr : t.core.process? i = some r) (hrl : r.maxRespawns = limit)
      (hrc : r.child = spawned.getLast?) (hrs : (spawned.length : Int) ≤ starts + r.retries)
      (hrr : ∀ n, limit = .int n → 0 ≤ n → (r.retries : Int) ≤ n) :
      Supervised i limit t starts spawned finished := by
    refine ⟨⟨r, hr, hrl, hrc, hrs, hrr⟩, ?_, h.nodup, ?_, ?_⟩
    · rw [ht]
      exact h.below
    · rw [ht]
      exact h.running
    · rw [ht]
      exact h.watched
  by_cases hj : j = i
  · obtain rfl : j = i := hj
    obtain rfl : p = q := mem_unique hp hq
    rw [if_pos rfl, map_some] at hprocess
    refine ⟨hrest _ hprocess hlimit hchild (by push_cast; omega) fun n hn hpos => ?_, ?_⟩
    · have hunspent := hleft n (hlimit.trans hn)
      push_cast
      omega
    · rintro - r hr
      obtain rfl := mem_unique hprocess hr
      push_cast
      omega
  · rw [if_neg hj] at hprocess
    exact ⟨hrest q hprocess hlimit hchild hlength hretries, fun h => absurd h hj⟩

lemma dropTask {n : Nat} {a : Task} (hn : s.tasks[n]? = some a) :
    Supervised i limit (s.dropTask n) starts spawned (finished ++ (a.watches? i).toList) := by
  refine ⟨h.node, h.below, h.nodup, h.running, ?_⟩
  have hperm := (watchers_dropTask_perm (k := s.core) hn i).append_right finished
  refine List.Perm.trans ?_ (hperm.symm.trans h.watched)
  rw [← append_assoc, append_assoc _ _ finished]
  exact perm_append_comm

lemma addTask_escalate (ht : t.core = s.core.addTask (.escalate j)) :
    Supervised i limit t starts spawned finished := by
  refine ⟨?_, ?_, h.nodup, ?_, ?_⟩
  · rw [ht]
    exact h.node
  · rw [ht]
    exact h.below
  · rw [ht]
    exact h.running
  · rw [ht, watchers_addTask]
    simpa [Task.watches?] using h.watched

lemma watcherEnds (ht : WatcherEnds j s t) :
    Supervised i limit t starts (spawned ++ if j = i then born s t else []) finished := by
  cases ht with
  | quiet ht =>
    rw [ht.idles.born_eq, ite_self, append_nil]
    exact h.idles ht.idles
  | restarts m u p hm hp hleft hu ht =>
    obtain ⟨hsup, hroom⟩ := (h.idles hm.idles).countRestart hp hleft hu
    have hsize : u.core.children.size = s.core.children.size :=
      (congrArg (fun k => k.children.size) hu).trans hm.idles.size_eq
    have hborn : born s t = born u t := by rw [born, born, hsize]
    rw [hborn]
    exact hsup.of_starts ht hroom
  | arms m hm hrun ht =>
    have hsize : t.core.children.size = s.core.children.size :=
      (congrArg (fun k => k.children.size) ht).trans hm.idles.size_eq
    rw [born, hsize, Nat.sub_self, List.range'_zero, ite_self, append_nil]
    exact (h.idles hm.idles).addTask_escalate ht

end

variable {h : History}

lemma step {d : Int} (hsup : Supervised i limit h.session (h.starts + d) h.spawned h.finished)
    (a : Act) :
    Supervised i limit (h.step i a).session ((h.step i a).starts + d) (h.step i a).spawned
      (h.step i a).finished := by
  have hmoves := h.scene.moves a
  unfold History.step
  generalize h.scene.step a = next at hmoves
  have idle {t : Session} {P : Nat → Prop} (ht : Idles P h.session t) :
      Supervised i limit t (h.starts + d) (h.spawned ++ born h.session t) (h.finished ++ []) := by
    rw [ht.born_eq, append_nil, append_nil]
    exact hsup.idles ht
  cases hmoves with
  | stays hw =>
    have hborn : born h.scene.session h.scene.session = [] := (refl_of Aged _).idles.born_eq
    simp only [History.session, hw, hborn, ite_self, append_nil]
    exact hsup.mono (by push_cast; omega)
  | @starts j t ht =>
    simp only [Act.actor?, Act.watcher?, Act.isStart, all_some, decide_eq_true_eq,
      append_nil]
    by_cases hj : j = i
    · rw [if_pos hj]
      refine (hsup.mono (by push_cast; omega)).of_starts ht fun _ p hp => ?_
      obtain ⟨q, hq, -, -, hlength, -⟩ := hsup.node
      obtain rfl : p = q := mem_unique hp hq
      push_cast
      omega
    · rw [if_neg hj, Nat.add_zero]
      exact hsup.of_starts ht fun h => absurd h hj
  | exits ht => exact idle ht.idles
  | @finishes n j c live t hn ht =>
    have hends := (hsup.dropTask hn).watcherEnds ht
    have hdone : ((Task.watchChild j c).watches? i).toList = if j = i then [c] else [] := by
      simp only [Task.watches?]
      split <;> rfl
    rw [hdone] at hends
    simp only [Act.actor?, Act.watcher?, History.session, hn, map_some, all_some,
      decide_eq_true_eq]
    exact hends
  | shuts ht => exact idle ht.idles
  | shutsAll ht => exact idle ht
  | @fires n j live t armed known hn ht =>
    have hborn : born h.session t = [] := ht.idles.born_eq
    simp only [Act.watcher?, hborn, ite_self, append_nil]
    have hnext := (hsup.dropTask hn).idles ht.idles
    simp only [Task.watches?, toList_none, append_nil] at hnext
    exact hnext
  | kills hn ht => exact idle ht.idles

lemma foldl {d : Int} (hsup : Supervised i limit h.session (h.starts + d) h.spawned h.finished)
    (acts : List Act) :
    let k := acts.foldl (History.step i) h
    Supervised i limit k.session (k.starts + d) k.spawned k.finished := by
  induction acts generalizing h with
  | nil => exact hsup
  | cons a acts ih => exact ih (hsup.step a)

end Supervised

variable {starts : Int} {limit : Value} {spawned finished : List Nat}

lemma Supervised.childOf_eq (h : Supervised i limit s starts spawned finished) :
    s.core.childOf i = spawned.getLast? := by
  obtain ⟨p, hp, -, hchild, -⟩ := h.node
  rw [childOf, hp, ← hchild]
  rfl

lemma Supervised.length_alive_le_one (h : Supervised i limit s starts spawned finished) :
    (spawned.filter s.core.alive).length ≤ 1 := by
  have hlast (c : Nat) (hc : c ∈ spawned.filter s.core.alive) : spawned.getLast? = some c := by
    obtain ⟨hmem, hrun⟩ := mem_filter.1 hc
    exact h.running c hmem hrun
  have hnodup := h.nodup.filter s.core.alive
  match hl : spawned.filter s.core.alive with
  | [] | [_] => simp
  | a :: b :: _ =>
    rw [hl] at hlast hnodup
    obtain rfl : a = b := some.inj ((hlast a (by simp)).symm.trans (hlast b (by simp)))
    simp at hnodup

/-- A node that has not been started yet. -/
structure Fresh (i : Nat) (p : ProcessNode) (s : Session) : Prop where
  node : s.core.process? i = some p
  child : p.child = none
  retries : p.retries = 0
  watchers : s.core.watchers i = []

lemma Fresh.supervised (h : Fresh i p s) : Supervised i p.maxRespawns s 0 [] [] := by
  refine ⟨⟨p, h.node, rfl, h.child, by simp, fun n _ hn => ?_⟩, ?_, ?_, ?_, ?_⟩
  · rw [h.retries]
    exact hn
  · simp
  · simp
  · simp
  · rw [h.watchers]
    simp

lemma Fresh.supervised_run (h : Fresh i p s) (acts : List Act) :
    let run := History.run i s acts
    Supervised i p.maxRespawns run.session run.starts run.spawned run.finished := by
  intro run
  have hrun : Supervised i p.maxRespawns run.session (run.starts + 0) run.spawned run.finished :=
    Supervised.foldl (h.supervised.mono (by simp)) acts
  rwa [Int.add_zero] at hrun

/-! ## After the end -/

lemma Births.not_ended (h : Births i s t) : ¬ s.core.ended := by
  simp [h.going]

lemma Starts.aged_of_ended (h : Starts i s t) (hs : s.core.ended) : Aged s t := by
  cases h with
  | fails ht => exact ht
  | spawns m hm ht => exact absurd (hm.idles.ended hs) ht.not_ended

lemma Scene.Moves.size_eq_of_ended {sc sc' : Scene} {a : Act} (h : sc.Moves a sc')
    (hs : sc.session.core.ended) :
    sc'.session.core.ended ∧
      sc'.session.core.children.size = sc.session.core.children.size := by
  have idle {t : Session} {P : Nat → Prop} (ht : Idles P sc.session t) :
      t.core.ended ∧ t.core.children.size = sc.session.core.children.size :=
    ⟨ht.ended hs, ht.size_eq⟩
  cases h with
  | stays _ => exact ⟨hs, rfl⟩
  | starts ht => exact idle (ht.aged_of_ended hs).idles
  | exits ht => exact idle ht.idles
  | @finishes n i c live t hn ht =>
    have hdrop : (sc.session.dropTask n).core.ended := hs
    cases ht with
    | quiet ht => exact ⟨ht.idles.ended hdrop, ht.idles.size_eq⟩
    | restarts m u p hm hp hleft hu ht =>
      have hended : u.core.ended := (congrArg (fun k => k.ended) hu).trans (hm.idles.ended hdrop)
      have hidle := (ht.aged_of_ended hended).idles
      refine ⟨hidle.ended hended, hidle.size_eq.trans ?_⟩
      exact (congrArg (fun k => k.children.size) hu).trans hm.idles.size_eq
    | arms m hm hrun ht =>
      refine ⟨(congrArg (fun k => k.ended) ht).trans (hm.idles.ended hdrop), ?_⟩
      exact (congrArg (fun k => k.children.size) ht).trans hm.idles.size_eq
  | shuts ht => exact idle ht.idles
  | shutsAll ht => exact idle ht
  | fires hn ht => exact ⟨ht.idles.ended hs, ht.idles.size_eq⟩
  | kills hn ht => exact idle ht.idles

lemma Scene.size_run_of_ended {sc : Scene} (hs : sc.session.core.ended) (acts : List Act) :
    (sc.run acts).session.core.children.size = sc.session.core.children.size := by
  induction acts generalizing sc with
  | nil => rfl
  | cons a acts ih =>
    obtain ⟨hended, hsize⟩ := (sc.moves a).size_eq_of_ended hs
    exact (ih hended).trans hsize

/-- A start adds a child with its watcher, or changes neither the node's child nor the tasks. -/
def StartsWhole (i : Nat) (s t : Session) : Prop :=
  (t.core.children.size = s.core.children.size ∧ t.core.childOf i = s.core.childOf i ∧
      t.core.tasks = s.core.tasks) ∨
    (t.core.children.size = s.core.children.size + 1 ∧
      t.core.childOf i = some s.core.children.size ∧
      t.core.tasks = s.core.tasks ++ [.watchChild i s.core.children.size])

lemma Starts.whole (h : Starts i s t) : StartsWhole i s t := by
  cases h with
  | fails ht => exact .inl ⟨ht.idles.size_eq, ht.childOf_eq i, ht.tasks_eq⟩
  | spawns m hm ht =>
    have hsize := hm.idles.size_eq
    obtain ⟨p, hp, -⟩ := ht.idle
    refine .inr ⟨?_, ?_, ?_⟩
    · rw [ht.size_eq, hsize]
    · rw [childOf, ht.process?_self hp, ← hsize]
      rfl
    · rw [ht.tasks_eq, hm.tasks_eq, hsize]

/-- A node is supervised through every run. At most one of its children runs, and it is the node's
child; every child has one watcher, and a start that fails changes neither child nor watchers; the
number of children is bounded by the starts and the allowed restarts; and nothing is started once
the launcher has been shut down. -/
theorem node_supervised {i : Nat} {p : ProcessNode} {s : Session} (h : Fresh i p s)
    (acts : List Act) :
    let run := History.run i s acts
    let now := run.session
    ((run.spawned.filter now.core.alive).length ≤ 1 ∧
      now.core.childOf i = run.spawned.getLast?) ∧
    (run.spawned.Nodup ∧ (now.core.watchers i ++ run.finished).Perm run.spawned ∧
      StartsWhole i now ((Launch.startProcess i).after now)) ∧
    (∀ n, p.maxRespawns = .int n → 0 ≤ n → (run.spawned.length : Int) ≤ run.starts + n) ∧
    (Launch.isShutdown.run now = .ok true now → ∀ more : List Act,
      (run.scene.run more).session.core.children.size = now.core.children.size) := by
  intro run now
  have hsup : Supervised i p.maxRespawns now run.starts run.spawned run.finished :=
    h.supervised_run acts
  refine ⟨⟨hsup.length_alive_le_one, hsup.childOf_eq⟩, ⟨hsup.nodup, hsup.watched, ?_⟩, ?_, ?_⟩
  · exact (Launch.yields_startProcess i now).after.whole
  · intro n hn hpos
    obtain ⟨q, -, -, -, hlength, hretries⟩ := hsup.node
    have hbound := hretries n hn hpos
    omega
  · intro hended more
    obtain ⟨-, hended⟩ := Launch.yields_run_ok (Launch.yields_isShutdown now) hended
    exact Scene.size_run_of_ended hended.symm more

lemma Session.fresh_single (respawns : Int) (script : Script.ChildScript) :
    Fresh 0 (.plain respawns) (single respawns script) := by
  refine ⟨?_, rfl, rfl, rfl⟩
  simp [process?, Session.core, single, NodeKind.process?]

/-- One start and one allowed restart: there are two children, and no more. -/
theorem node_supervised_restart :
    let run := History.run 0 (Session.single 1 {})
      [.start 0, .happen (.exits 0 1), .happen (.finishes 0 false)]
    run.spawned = [0, 1] ∧ run.finished = [0] ∧ run.starts = 1 ∧
      (run.spawned.filter run.session.core.alive).length ≤ 1 ∧
      (run.spawned.length : Int) ≤ run.starts + 1 := by
  obtain ⟨⟨halive, -⟩, -, hbound, -⟩ := node_supervised (Session.fresh_single 1 {})
    [.start 0, .happen (.exits 0 1), .happen (.finishes 0 false)]
  exact ⟨by decide +kernel, by decide +kernel, by decide +kernel, halive,
    hbound 1 rfl (by decide)⟩

end Launchpad
