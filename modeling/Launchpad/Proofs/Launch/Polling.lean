import Launchpad.Proofs.Launch.Calm

/-!
Looking at children. A child that is looked at may write something or end, and one that has ended
stays so; nothing else changes. What a look at a node's child says is what is true afterwards.
-/

namespace Launchpad

/-- A child some time later: it is the same process, and if it has ended it stays so. -/
structure Child.Ages (c d : Child) : Prop where
  pid : d.pid = c.pid
  ended : c.code.isSome → d.code.isSome

structure AgeAll (a b : Array Child) : Prop where
  size : b.size = a.size
  ages : ∀ (i : Nat) (c d : Child), a[i]? = some c → b[i]? = some d → c.Ages d

lemma Child.Ages.refl (c : Child) : c.Ages c :=
  ⟨rfl, id⟩

lemma Child.Ages.trans {c d e : Child} (h : c.Ages d) (h' : d.Ages e) : c.Ages e :=
  ⟨h'.pid.trans h.pid, h'.ended ∘ h.ended⟩

lemma AgeAll.refl (a : Array Child) : AgeAll a a := by
  refine ⟨rfl, fun i c d hc hd => ?_⟩
  obtain rfl : c = d := Option.mem_unique hc hd
  exact .refl c

lemma AgeAll.exists_later {a b : Array Child} (h : AgeAll a b) {i : Nat} {c : Child}
    (hc : a[i]? = some c) : ∃ d, b[i]? = some d ∧ c.Ages d := by
  obtain ⟨hi, -⟩ := Array.getElem?_eq_some_iff.1 hc
  have hb : i < b.size := by
    rw [h.size]
    exact hi
  have hd : b[i]? = some b[i] := Array.getElem?_eq_getElem hb
  exact ⟨_, hd, h.ages i c _ hc hd⟩

lemma AgeAll.trans {a b e : Array Child} (h : AgeAll a b) (h' : AgeAll b e) : AgeAll a e := by
  refine ⟨h'.size.trans h.size, fun i c d hc hd => ?_⟩
  obtain ⟨m, hm, hcm⟩ := h.exists_later hc
  exact hcm.trans (h'.ages i m d hm hd)

lemma ageAll_modify (a : Array Child) (i : Nat) {f : Child → Child}
    (hf : ∀ c : Child, c.Ages (f c)) :
    AgeAll a (a.modify i f) := by
  refine ⟨Array.size_modify, fun j c d hc hd => ?_⟩
  rw [Array.getElem?_modify, hc] at hd
  split at hd
  · obtain rfl : f c = d := Option.some.inj hd
    exact hf c
  · obtain rfl : c = d := Option.some.inj hd
    exact .refl c

def NodeKind.process? : NodeKind → Option ProcessNode
  | .process p => some p
  | _ => none

namespace Session.Core

def children (k : Core) : Array Child := k.world.children

def process? (k : Core) (i : Nat) : Option ProcessNode :=
  k.kinds[i]?.bind NodeKind.process?

def childOf (k : Core) (i : Nat) : Option Nat :=
  (k.process? i).bind ProcessNode.child

def alive (k : Core) (c : Nat) : Bool :=
  k.children[c]?.any fun d => d.code.isNone

lemma alive_iff {k : Core} {c : Nat} :
    k.alive c ↔ ∃ d, k.children[c]? = some d ∧ d.code = none := by
  unfold alive
  cases k.children[c]? <;> simp

lemma alive_before {k k' : Core} (h : AgeAll k.children k'.children) {c : Nat}
    (hc : k'.alive c) : k.alive c := by
  obtain ⟨d, hd, hrun⟩ := alive_iff.1 hc
  obtain ⟨hlt, -⟩ := Array.getElem?_eq_some_iff.1 hd
  have hold : k.children[c]? = some _ :=
    Array.getElem?_eq_getElem (by rw [← h.size]; exact hlt)
  refine alive_iff.2 ⟨_, hold, ?_⟩
  by_contra hcode
  have hended := (h.ages c _ d hold hd).ended (Option.isSome_iff_ne_none.2 hcode)
  simp [hrun] at hended

def ended (k : Core) : Bool :=
  (k.launcher.bind fun l => k.promises[l.ending]?).any fun p => p.state != .pending

end Session.Core

/-- Only children have changed, and these have aged. -/
structure Aged (s t : Session) : Prop where
  core : t.core = { s.core with world := { s.core.world with children := t.world.children } }
  children : AgeAll s.world.children t.world.children
  log : s.log.Logged t.log

instance : IsPreorder Session Aged where
  refl s := ⟨rfl, .refl _, .refl⟩
  trans s t u h h' := by
    refine ⟨?_, h.children.trans h'.children, h.log.trans h'.log⟩
    rw [h'.core, h.core]

instance : Tolerant Aged where
  calm s t h := by
    have hc : t.world.children = s.world.children :=
      congrArg (fun k => Session.Core.children k) h.core
    refine ⟨?_, ?_, h.log⟩
    · rw [h.core, hc]
      rfl
    · rw [hc]
      exact .refl _

/-- A relation between sessions that is kept while children are looked at. -/
class Patient (R : SessionRel) : Prop extends Tolerant R where
  aged : ∀ s t, Aged s t → R s t

instance : Patient Aged where
  aged _ _ h := h

/-- A relation between sessions that is kept while children are looked at and the nodes keep what
they were given. -/
class Watchful (R : SessionRel) : Prop extends Lenient R where
  watched : ∀ s t, Aged s t → t.nodes = s.nodes → R s t

instance {R : SessionRel} [Patient R] : Watchful R where
  watched s t h _ := Patient.aged s t h

namespace Aged

variable {s t : Session} (h : Aged s t)

include h

lemma process?_eq (i : Nat) : t.core.process? i = s.core.process? i := by
  rw [h.core]
  rfl

lemma childOf_eq (i : Nat) : t.core.childOf i = s.core.childOf i := by
  rw [Session.Core.childOf, h.process?_eq]
  rfl

lemma ended_eq : t.core.ended = s.core.ended := by
  rw [h.core]
  rfl

lemma tasks_eq : t.core.tasks = s.core.tasks := by
  rw [h.core]

lemma signals_eq : t.core.signals = s.core.signals := by
  rw [h.core]

end Aged

namespace Launch

variable {R : SessionRel} [Watchful R]

@[grind ←]
lemma keeps_modifyChild (i : Nat) {f : Child → Child} (hf : ∀ c : Child, c.Ages (f c)) :
    Keeps R (modifyChild i f) :=
  keeps_modify fun s => Watchful.watched _ _ ⟨rfl, ageAll_modify s.world.children i hf, .refl⟩ rfl

variable {i : Nat} {timeout : Value}

@[grind ←]
lemma keeps_endChild {code : Int} : Keeps R (endChild i code) :=
  keeps_modifyChild i fun _ => ⟨rfl, fun _ => rfl⟩

lemma ages_poll (watching : Bool) (c : Child) : c.Ages (Child.poll watching c) := by
  unfold Child.poll
  split
  · exact .refl c
  · next hcode =>
    have hrun (P : Prop) : c.code.isSome → P := fun h => absurd h hcode
    split
    · split
      · exact ⟨rfl, hrun _⟩
      · split
        · dsimp only
          split <;> split <;> exact ⟨rfl, hrun _⟩
        · exact ⟨rfl, hrun _⟩
    · split
      · split <;> exact ⟨rfl, hrun _⟩
      · exact .refl c

@[grind ←]
lemma keeps_pollChild (i : Nat) : Keeps R (pollChild i) :=
  keeps_get.bind fun s => (keeps_modifyChild i (ages_poll s.watching)).bind fun _ =>
    keeps_getChild.bind fun _ => .pure

@[grind ←]
lemma keeps_waitChild : Keeps R (waitChild i timeout) := by
  refine keeps_getChild.bind fun c => ?_
  split
  · exact .pure
  · refine keeps_endsInTime.bind fun _ => Keeps.ite .pure ?_
    exact keeps_endChild.bind fun _ => .pure

@[grind ←]
lemma keeps_foreignRunning {f : ForeignNode} : Keeps R (foreignRunning f) := by
  unfold foreignRunning
  grind

@[grind ←]
lemma keeps_serviceRunning {v : ServiceNode} : Keeps R (serviceRunning v) := by
  unfold serviceRunning
  grind

@[grind ←]
lemma keeps_connectedByName : Keeps R (connectedByName i timeout) := by
  unfold connectedByName
  grind

@[grind ←]
lemma keeps_runningWith (fuel i : Nat) : Keeps R (runningWith fuel i) := by
  induction fuel generalizing i with
  | zero => exact keeps_silent
  | succ fuel ih =>
    refine keeps_getNode.bind fun n => ?_
    split
    · exact .throw
    · split
      · exact .pure
      · exact (keeps_pollChild _).bind fun _ => .pure
    · exact keeps_foreignRunning
    · split
      · exact .pure
      · exact keeps_connectedByName
    · exact ih _
    · exact keeps_serviceRunning

@[grind ←]
lemma keeps_isRunning : Keeps R (isRunning i) :=
  keeps_get.bind fun _ => keeps_runningWith _ i

@[grind ←]
lemma keeps_pidOf : Keeps R (pidOf i) := by
  unfold pidOf
  grind

@[grind ←]
lemma keeps_nodeText : Keeps R (nodeText i) := by
  refine keeps_getNode.bind fun n => keeps_display.bind fun pkg => ?_
  refine keeps_display.bind fun exe => ?_
  split
  · refine keeps_pidOf.bind fun pid => keeps_display.bind fun _ => ?_
    exact keeps_isRunning.bind fun _ => keeps_display.bind fun _ => .pure
  · exact .pure
  · exact .pure

/-! ## What a look says -/

lemma yields_isShutdown (s : Session) :
    Yields isShutdown s (fun b t => t = s ∧ b = s.core.ended) (fun _ t => t = s) := by
  simp only [isShutdown, getLauncher, getPromise, yields_bind, yields_get]
  cases hl : s.launcher with
  | none => exact .throw rfl
  | some l =>
    rw [yields_pure]
    cases hp : s.promises[l.ending]? with
    | none => exact .throw rfl
    | some p =>
      refine .pure (.pure ⟨rfl, ?_⟩)
      simp [Session.Core.ended, Session.core, hl, hp]

lemma yields_pollChild (c : Nat) (s : Session) :
    Yields (pollChild c) s (fun r t => Aged s t ∧ r.isNone = t.core.alive c)
      (fun _ t => Aged s t) := by
  have said : IfOk (pollChild c) s (fun r t => r.isNone = t.core.alive c) := by
    simp only [pollChild, modifyChild, modifyWorld, getChild, yields_bind, yields_get,
      yields_modify]
    split
    · next d hd =>
      rw [yields_pure, yields_pure]
      simp [Session.Core.alive, Session.Core.children, Session.core, World.core, hd]
    · exact .throw trivial
  exact ((keeps_pollChild (R := Aged) c s).and said).imp (fun _ _ h => h) fun _ _ h => h.1

lemma node_of_process {s : Session} {p : ProcessNode} (h : s.core.process? i = some p) :
    ∃ n, s.nodes[i]? = some n ∧ n.kind = .process p := by
  obtain ⟨n, hn, hview⟩ := node_of_kind h
  cases hkind : n.kind <;> simp_all [NodeKind.process?]

lemma yields_isRunning (i : Nat) (s : Session) :
    Yields (isRunning i) s (fun v t => Aged s t ∧ ∀ p, s.core.process? i = some p →
      v = .bool (p.child.any t.core.alive)) (fun _ t => Aged s t) := by
  by_cases h : ∃ p, s.core.process? i = some p
  · obtain ⟨p, hp⟩ := h
    obtain ⟨n, hn, hkind⟩ := node_of_process hp
    simp only [isRunning, runningWith, getNode, yields_bind, yields_get, hn, yields_pure, hkind,
      hp, Option.some.injEq, forall_eq']
    cases hc : p.child with
    | none => exact .pure ⟨refl_of Aged s, rfl⟩
    | some c =>
      refine (yields_pollChild c s).bind fun r t hr => ?_
      exact .pure ⟨hr.1, by rw [hr.2]; rfl⟩
  · refine (keeps_isRunning s).map fun v t ht => ⟨ht, fun p hp => ?_⟩
    exact absurd ⟨p, hp⟩ h

end Launch

end Launchpad
