import Launchpad.Proofs.Launch.Polling

/-!
Winding down. Asking nodes to end sends signals, ages children and changes what is known of
components and launch services. Which nodes may be concerned is a parameter: the signals go to
processes of these nodes only, and other launch services stay as they are.
-/

namespace Launchpad

open List

def SignalKnown (v : Value) : Prop :=
  (v.whole?.bind fun n => signalNames.lookup n).isSome

namespace NodeKind

def foreign? : NodeKind → Option ForeignNode
  | .foreign f => some f
  | _ => none

def wrapped? : NodeKind → Option Nat
  | .composer c => some c.wrapped
  | _ => none

def service? : NodeKind → Option ServiceNode
  | .service v => some v
  | _ => none

/-- Kinds that differ at most in what is known of components or of a launch service. -/
structure Alike (a b : NodeKind) : Prop where
  process : b.process? = a.process?
  foreign : b.foreign? = a.foreign?
  wrapped : b.wrapped? = a.wrapped?
  service : b.service?.isSome = a.service?.isSome

end NodeKind

namespace Session.Core

def foreign? (k : Core) (i : Nat) : Option ForeignNode :=
  k.kinds[i]?.bind NodeKind.foreign?

def wrapped? (k : Core) (i : Nat) : Option Nat :=
  k.kinds[i]?.bind NodeKind.wrapped?

def service? (k : Core) (i : Nat) : Option ServiceNode :=
  k.kinds[i]?.bind NodeKind.service?

def pid? (k : Core) (c : Nat) : Option Int :=
  k.children[c]?.map Child.pid

/-- What stays as it is while nodes are asked to end. -/
def still (k : Core) : Core :=
  { k with
    world := { k.world with children := #[] }, kinds := #[], signals := [], groupSignals := [] }

/-- Is a child the one that a node has started last? -/
def Owns (k : Core) (i c : Nat) : Prop :=
  k.childOf i = some c ∨ ∃ f, k.foreign? i = some f ∧ f.process = .started c

/-- Is a process number that of the process of a node? -/
def Runs (k : Core) (i : Nat) (pid : Int) : Prop :=
  (∃ c, k.Owns i c ∧ k.pid? c = some pid) ∨ ∃ f, k.foreign? i = some f ∧ f.process = .found pid

end Session.Core

/-- The session winds down: nodes for which `P` holds were asked to end with a signal, which is a
known one if any was sent. -/
structure Winds (known : Prop) (P : Nat → Prop) (s t : Session) : Prop where
  still : t.core.still = s.core.still
  children : AgeAll s.core.children t.core.children
  process : ∀ i, t.core.process? i = s.core.process? i
  foreign : ∀ i, t.core.foreign? i = s.core.foreign? i
  wrapped : ∀ i, t.core.wrapped? i = s.core.wrapped? i
  isService : ∀ i, (t.core.service? i).isSome = (s.core.service? i).isSome
  service : ∀ i, ¬ P i → t.core.service? i = s.core.service? i
  signals : ∃ new, t.core.signals = s.core.signals ++ new ∧
    ∀ x ∈ new, known ∧ ∃ i, P i ∧ s.core.Runs i x.2
  groupSignals : ∃ new, t.core.groupSignals = s.core.groupSignals ++ new ∧
    (new ≠ [] → ∃ i, P i ∧ (s.core.service? i).isSome)
  log : s.log.Logged t.log

lemma AgeAll.pid_eq {a b : Array Child} (h : AgeAll a b) (c : Nat) :
    b[c]?.map Child.pid = a[c]?.map Child.pid := by
  cases ha : a[c]? with
  | none =>
    have hb : b[c]? = none := by
      rw [Array.getElem?_eq_none_iff] at ha ⊢
      rw [h.size]
      exact ha
    rw [hb]
  | some d =>
    obtain ⟨e, he, hde⟩ := h.exists_later ha
    simp [he, hde.pid]

namespace Winds

variable {known : Prop} {P : Nat → Prop} {s t u : Session}

lemma childOf_eq (h : Winds known P s t) (i : Nat) : t.core.childOf i = s.core.childOf i := by
  rw [Session.Core.childOf, h.process]
  rfl

lemma pid?_eq (h : Winds known P s t) (c : Nat) : t.core.pid? c = s.core.pid? c :=
  h.children.pid_eq c

lemma runs_iff (h : Winds known P s t) (i : Nat) (pid : Int) :
    t.core.Runs i pid ↔ s.core.Runs i pid := by
  simp only [Session.Core.Runs, Session.Core.Owns, h.childOf_eq, h.foreign, h.pid?_eq]

lemma of_aged (h : Aged s t) : Winds known P s t := by
  have hk : t.core.kinds = s.core.kinds := by rw [h.core]
  have hview {α : Type} (f : NodeKind → Option α) (i : Nat) :
      t.core.kinds[i]?.bind f = s.core.kinds[i]?.bind f := by rw [hk]
  refine ⟨?_, h.children, hview _, hview _, hview _, fun i => congrArg _ (hview _ i),
    fun i _ => hview _ i, ⟨[], ?_, nofun⟩, ⟨[], ?_, fun h => absurd rfl h⟩, h.log⟩
  · rw [h.core]
    rfl
  · rw [h.core, append_nil]
  · rw [h.core, append_nil]

lemma trans (h : Winds known P s t) (h' : Winds known P t u) : Winds known P s u := by
  obtain ⟨new, hnew, htarget⟩ := h.signals
  obtain ⟨new', hnew', htarget'⟩ := h'.signals
  obtain ⟨sent, hsent, hserver⟩ := h.groupSignals
  obtain ⟨sent', hsent', hserver'⟩ := h'.groupSignals
  refine ⟨?_, h.children.trans h'.children, fun i => (h'.process i).trans (h.process i),
    fun i => (h'.foreign i).trans (h.foreign i), fun i => (h'.wrapped i).trans (h.wrapped i),
    fun i => (h'.isService i).trans (h.isService i),
    fun i hi => (h'.service i hi).trans (h.service i hi), ⟨new ++ new', ?_, ?_⟩,
    ⟨sent ++ sent', ?_, ?_⟩, h.log.trans h'.log⟩
  · rw [h'.still, h.still]
  · rw [hnew', hnew, append_assoc]
  · intro x hx
    rcases mem_append.1 hx with hx | hx
    · exact htarget x hx
    · obtain ⟨hknown, i, hi, hruns⟩ := htarget' x hx
      exact ⟨hknown, i, hi, (h.runs_iff i x.2).1 hruns⟩
  · rw [hsent', hsent, append_assoc]
  · intro hne
    by_cases hnil : sent = []
    · obtain ⟨i, hi, hservice⟩ := hserver' fun hnil' => hne (by rw [hnil, hnil']; rfl)
      exact ⟨i, hi, h.isService i ▸ hservice⟩
    · exact hserver hnil

end Winds

instance (known : Prop) (P : Nat → Prop) : Patient (Winds known P) where
  refl s := Winds.of_aged (refl_of Aged s)
  trans _ _ _ := Winds.trans
  calm _ _ h := Winds.of_aged (Tolerant.calm _ _ h)
  aged _ _ := Winds.of_aged

/-- A relation that is kept while nodes are asked to end, as far as it winds the session down. -/
class Winding (known : outParam Prop) (P : outParam (Nat → Prop)) (R : SessionRel) :
    Prop extends Patient R where
  winds : ∀ {s t}, R s t → Winds known P s t
  signalled : ∀ {s i pid}, known → P i → s.core.Runs i pid → ∀ n,
    R s { s with events := s.events ++ [.signalled n pid] }
  groupSignalled : ∀ {s i}, P i → (s.core.service? i).isSome → ∀ n pid,
    R s { s with events := s.events ++ [.groupSignalled n pid] }
  service : ∀ {i}, P i → ∀ f, Launch.Keeps R (Launch.modifyService i f)

namespace Launch

variable {known : Prop} {P : Nat → Prop}
variable {i : Nat} {E : Post Stop}

lemma view_modify {α β : Type} (nodes : Array Node) (i j : Nat) {f : Node → Node}
    {view : NodeKind → Option α} (part : Option α → β)
    (h : i = j → ∀ n : Node, part (view (f n).kind) = part (view n.kind)) :
    part (((nodes.modify i f).map Node.kind)[j]?.bind view) =
      part ((nodes.map Node.kind)[j]?.bind view) := by
  simp only [Array.getElem?_map, Array.getElem?_modify]
  split
  · next hij =>
    cases nodes[j]? with
    | none => rfl
    | some n => exact h hij n
  · rfl

lemma winds_modifyNode (i : Nat) {f : Node → Node}
    (hname : ∀ n : Node, (f n).title = n.title ∧ (f n).ns = n.ns)
    (halike : ∀ n : Node, n.kind.Alike (f n).kind)
    (hservice : P i ∨ ∀ n : Node, (f n).kind.service? = n.kind.service?) (s : Session) :
    Winds known P s { s with nodes := s.nodes.modify i f } := by
  refine ⟨?_, .refl _, fun j => view_modify _ i j id fun _ n => (halike n).process,
    fun j => view_modify _ i j id fun _ n => (halike n).foreign,
    fun j => view_modify _ i j id fun _ n => (halike n).wrapped,
    fun j => view_modify _ i j Option.isSome fun _ n => (halike n).service,
    fun j hj => view_modify _ i j id fun hij n => ?_,
    ⟨[], (append_nil _).symm, nofun⟩, ⟨[], (append_nil _).symm, fun h => absurd rfl h⟩,
    .refl⟩
  · simp only [Session.core, Session.Core.still, map_modify_of_eq _ _ fun n => (hname n).1,
      map_modify_of_eq _ _ fun n => (hname n).2]
  · rcases hservice with hi | hservice
    · exact absurd (hij ▸ hi) hj
    · exact hservice n

lemma keeps_modifyComponent (i : Nat) (f : ComponentNode → ComponentNode) :
    Keeps (Winds known P) (modifyComponent i f) := by
  refine keeps_modify fun s => winds_modifyNode i (fun n => ?_) (fun n => ?_) (.inr fun n => ?_) s
  · split <;> exact ⟨rfl, rfl⟩
  · cases h : n.kind <;> simp only [h] <;> exact ⟨rfl, rfl, rfl, rfl⟩
  · cases h : n.kind <;> simp [h, NodeKind.service?]

lemma keeps_modifyComposer (i : Nat) {f : ComposerNode → ComposerNode}
    (hf : ∀ c, (f c).wrapped = c.wrapped) : Keeps (Winds known P) (modifyComposer i f) := by
  refine keeps_modify fun s => winds_modifyNode i (fun n => ?_) (fun n => ?_) (.inr fun n => ?_) s
  · split <;> exact ⟨rfl, rfl⟩
  · cases h : n.kind <;> simp only [h] <;> exact ⟨rfl, rfl, by simp [NodeKind.wrapped?, hf], rfl⟩
  · cases h : n.kind <;> simp [h, NodeKind.service?]

lemma keeps_modifyService (hi : P i) (f : ServiceNode → ServiceNode) :
    Keeps (Winds known P) (modifyService i f) := by
  refine keeps_modify fun s => winds_modifyNode i (fun n => ?_) (fun n => ?_) (.inl hi) s
  · split <;> exact ⟨rfl, rfl⟩
  · cases h : n.kind <;> simp only [h] <;> exact ⟨rfl, rfl, rfl, rfl⟩

instance : Winding known P (Winds known P) where
  winds h := h
  signalled {s i pid} hknown hi hpid n := by
    refine ⟨rfl, .refl _, fun _ => rfl, fun _ => rfl, fun _ => rfl, fun _ => rfl, fun _ _ => rfl,
      ⟨[(n, pid)], ?_, ?_⟩, ⟨[], ?_, fun h => absurd rfl h⟩, .refl⟩
    · simp [Session.core, Session.signals, Event.signal?]
    · intro x hx
      obtain rfl := mem_singleton.1 hx
      exact ⟨hknown, i, hi, hpid⟩
    · simp [Session.core, Session.groupSignals, Event.groupSignal?]
  groupSignalled {s i} hi hservice n pid := by
    refine ⟨rfl, .refl _, fun _ => rfl, fun _ => rfl, fun _ => rfl, fun _ => rfl, fun _ _ => rfl,
      ⟨[], ?_, nofun⟩, ⟨[(n, pid)], ?_, fun _ => ⟨i, hi, hservice⟩⟩, .refl⟩
    · simp [Session.core, Session.signals, Event.signal?]
    · simp [Session.core, Session.groupSignals, Event.groupSignal?]
  service := keeps_modifyService

lemma yields_emit_signalled (n pid : Int) (s : Session) :
    Yields (emit (.signalled n pid)) s
      (fun _ t => t.core = { s.core with signals := s.core.signals ++ [(n, pid)] }) E := by
  refine .modify ?_
  simp [Session.core, Session.signals, Session.groupSignals, Event.signal?, Event.groupSignal?]

lemma yields_emit_groupSignalled (num pid : Int) (s : Session) :
    Yields (emit (.groupSignalled num pid)) s (fun _ t =>
      t.core = { s.core with groupSignals := s.core.groupSignals ++ [(num, pid)] }) E := by
  refine .modify ?_
  simp [Session.core, Session.signals, Session.groupSignals, Event.signal?, Event.groupSignal?]

end Launch

end Launchpad
