import Launchpad.Proofs.Supervision.Starting
import Launchpad.Proofs.Supervision.Winding

/-!
Asking nodes to end. Whatever kind of node is asked, and whatever goes wrong, the session winds
down: no child is started, signals go to processes of the node that is asked, or of the node that
a composer is around, and only if the signal is a known one.
-/

namespace Launchpad

namespace Session.Core

/-- Does asking one node to end reach another one? A composer hands on to the node it is around. -/
inductive Reaches (k : Core) : Nat → Nat → Prop where
  | refl (i : Nat) : Reaches k i i
  | wraps {j w i : Nat} (h : k.wrapped? j = some w) (h' : Reaches k w i) : Reaches k j i

end Session.Core

namespace Launch

variable {known : Prop} {P : Nat → Prop}
variable {R : SessionRel} {s m : Session} {i : Nat} {signal : Value}

/-! ## Signals to children -/

lemma yields_signalOf (v : Value) (s : Session) :
    Yields (signalOf v) s (fun _ t => t = s ∧ SignalKnown v) (fun _ t => t = s) := by
  unfold signalOf
  split
  · next r hr =>
    refine .pure ⟨rfl, ?_⟩
    obtain ⟨n, hn, hname⟩ := Option.bind_eq_some_iff.1 hr
    obtain ⟨name, hname, -⟩ := Option.map_eq_some_iff.1 hname
    simp [SignalKnown, hn, hname]
  · exact .throw rfl

lemma yields_getChild (c : Nat) (s : Session) :
    Yields (getChild c) s (fun d t => t = s ∧ s.core.children[c]? = some d)
      (fun _ t => t = s) := by
  simp only [getChild, yields_bind, yields_get]
  cases hd : s.world.children[c]? with
  | none => exact .throw rfl
  | some d => exact .pure ⟨rfl, hd⟩

lemma keeps_takeSignal [Watchful R] (c : Nat) (script : Script.ChildScript) (n : Int) :
    Keeps R (takeSignal c script n) := by
  have ends (code : Int) : Keeps R (modifyChild c fun d => { d with code := some code }) :=
    keeps_modifyChild c fun _ => ⟨rfl, fun _ => rfl⟩
  have gone {x : Launch Unit} (hx : Keeps R x) :
      Keeps R (do modifyChild c fun d => { d with code := some 0 }; silent .processGone; x) :=
    (ends 0).bind fun _ => keeps_silent.bind fun _ => hx
  unfold takeSignal
  cases script.deny with
  | some t =>
    have denied : Keeps R (told .permissionDenied t : Launch Unit) := keeps_told
    exact Keeps.ite (gone denied) denied
  | none =>
    have taken : Keeps R (if !script.ignore.contains n then
        modifyChild c fun d => { d with code := some (-n) } else pure ()) :=
      Keeps.ite (ends _) .pure
    exact Keeps.ite (gone taken) taken

lemma winds_signalChild [Winding known P R] {c : Nat} (h : R s m) (hknown : known) (hi : P i)
    (hc : m.core.Owns i c) (n : Int) : EndsIn (signalChild c n) m (R s) := by
  refine (yields_getChild c m).seq ?_ fun _ _ hm => hm ▸ h
  rintro d m ⟨rfl, hd⟩
  have hruns : m.core.Runs i d.pid := .inl ⟨c, hc, by simp [Session.Core.pid?, hd]⟩
  split
  · exact .pure h
  refine .of_bind (.modify ?_)
  exact (keeps_takeSignal c d.script n).then (trans_of R h (Winding.signalled hknown hi hruns n))

lemma winds_deliverSignal [Winding known P R] {c : Nat} (h : R s m) (hknown : known) (hi : P i)
    (hc : m.core.Owns i c) (n : Node) (num : Int) (name : String) :
    EndsIn (deliverSignal n c num name) m (R s) := by
  refine (keeps_info m).seq (fun _ u hu => ?_) fun _ _ hu => trans_of R h hu
  have hown : u.core.Owns i c := by
    have hwinds := Winding.winds hu
    simpa only [Session.Core.Owns, hwinds.childOf_eq, hwinds.foreign] using hc
  refine Yields.catchFault (winds_signalChild (trans_of R h hu) hknown hi hown num)
    (fun f t ht => ?_) fun _ _ ht => ht
  exact (Keeps.ite keeps_info .throw).then ht

lemma keeps_actualSignal [Lenient R] {n : Node} {num : Int} {name : String} :
    Keeps R (actualSignal n num name) :=
  keeps_get.bind fun _ => Keeps.ite (keeps_warn.bind fun _ => .pure) .pure

lemma winds_signalProcess [Winding (SignalKnown signal) P R] (h : R s m) (hi : P i) :
    EndsIn (signalProcess i signal) m (R s) := by
  refine (yields_getProcess i m).seq ?_ fun _ _ hm => hm ▸ h
  rintro p m ⟨rfl, hp⟩
  cases hc : p.child with
  | none => exact .pure h
  | some c =>
    have hown : s.core.childOf i = some c := by
      rw [← (Winding.winds h).childOf_eq, Session.Core.childOf, hp]
      exact hc
    refine (keeps_pollChild c).along h fun code m hm => ?_
    refine Yields.ite (.pure hm) ?_
    refine (yields_signalOf signal m).seq ?_ fun _ _ ht => ht ▸ hm
    rintro ⟨num, name⟩ m ⟨rfl, hknown⟩
    refine keeps_getNode.along hm fun n m hm => ?_
    refine keeps_isRunning.along hm fun running m hm => ?_
    refine Yields.ite ((keeps_info.bind fun _ => .pure).then hm) ?_
    refine keeps_actualSignal.along hm fun actual m hm => ?_
    refine winds_deliverSignal hm hknown hi (.inl ?_) n actual.1 actual.2
    exact (Winding.winds hm).childOf_eq i ▸ hown

variable {timeout : Value}

variable {i : Nat}

lemma keeps_awaitChild [Watchful R] : Keeps R (awaitChild i timeout) := by
  refine Keeps.ite .pure (keeps_getProcess.bind fun p => ?_)
  split
  · exact keeps_silent
  · refine keeps_waitChild.bind fun code => ?_
    split
    · exact .pure
    · exact keeps_told

lemma yields_askNode [Tolerant R] {text : String} {reason : Value} {send : Int → Launch Unit}
    {Q : Post Unit} {E : Post Stop} [Weakens (fun _ t => R s t) E]
    (h : R s m) (hsend : ∀ num t, R s t → SignalKnown signal → Yields (send num) t Q E) :
    Yields (askNode i text reason signal send) m Q E := by
  refine (yields_signalOf signal m).seq ?_ fun e t ht =>
    Weakens.weaken (E := fun _ t => R s t) e t (ht ▸ h)
  rintro ⟨num, name⟩ m ⟨rfl, hknown⟩
  refine keeps_getNode.along h fun n m hm => ?_
  refine keeps_display.along hm fun why m hm => ?_
  exact keeps_warn.along hm fun _ m hm => hsend num m hm hknown

lemma winds_askThenWait [Winding known P R] {ask wait : Launch Unit} (h : R s m)
    (hask : ∀ m, R s m → EndsIn ask m (R s)) (hwait : Keeps R wait) :
    EndsIn (askThenWait i ask wait) m (R s) := by
  refine keeps_isRunning.along h fun running m hm => ?_
  refine Yields.ite (.pure hm) ((hask m hm).bind fun _ m hm => ?_)
  exact hwait.then hm

lemma winds_shutdownProcess [Winding (SignalKnown signal) P R] (h : R s m) (hi : P i)
    (reason timeout : Value) : EndsIn (shutdownProcess i reason signal timeout) m (R s) := by
  refine winds_askThenWait h (fun m hm => yields_askNode hm fun _ t ht _ => ?_) keeps_awaitChild
  exact winds_signalProcess ht hi

/-! ## Foreign nodes -/

@[grind ←]
lemma keeps_getEntry [IsPreorder Session R] {pid : Int} : Keeps R (getEntry pid) := by
  unfold getEntry
  grind

lemma keeps_modifyEntry [Lenient R] (pid : Int) (f : Script.ProcessEntry → Script.ProcessEntry) :
    Keeps R (modifyEntry pid f) :=
  keeps_modifyWorld fun _ => rfl

lemma keeps_waitEntry [Lenient R] {pid : Int} : Keeps R (waitEntry pid timeout) := by
  refine keeps_getEntry.bind fun p => Keeps.ite .pure ?_
  refine keeps_endsInTime.bind fun _ => Keeps.ite .pure ?_
  exact (keeps_modifyEntry pid _).bind fun _ => .pure

lemma yields_getForeign (i : Nat) (s : Session) :
    Yields (getForeign i) s (fun f t => t = s ∧ s.core.foreign? i = some f) (fun _ t => t = s) :=
  (yields_view (fun n => by cases n.kind <;> rfl) i s).imp (fun _ _ h => h) fun _ _ h => h.1

@[grind ←]
lemma keeps_getForeign [IsPreorder Session R] : Keeps R (getForeign i) := by
  unfold getForeign
  grind

lemma keeps_waitForeign [Watchful R] : Keeps R (waitForeign i timeout) := by
  refine keeps_getForeign.bind fun f => ?_
  split
  · exact .pure
  · refine keeps_getChild.bind fun d => Keeps.ite .pure ?_
    exact keeps_waitChild.bind fun _ => .pure
  · exact keeps_waitEntry.bind fun _ => .pure

lemma winds_signalEntry [Winding known P R] {pid : Int} (h : R s m) (hknown : known) (hi : P i)
    (hpid : m.core.Runs i pid) (n : Int) : EndsIn (signalEntry pid n) m (R s) := by
  refine (keeps_getEntry m).seq (fun p u hu => ?_) fun _ _ hu => trans_of R h hu
  have hruns : u.core.Runs i pid := ((Winding.winds hu).runs_iff i pid).2 hpid
  have hsent := trans_of R (trans_of R h hu) (Winding.signalled hknown hi hruns n)
  refine .of_bind (.modify ?_)
  exact (Keeps.ite (keeps_modifyEntry pid _) .pure).then hsent

lemma keeps_awaitForeign [Watchful R] : Keeps R (awaitForeign i timeout) := by
  refine Keeps.ite .pure (keeps_waitForeign.bind fun r => ?_)
  split
  · exact .pure
  · exact keeps_told

lemma winds_signalForeign [Winding known P R] (h : R s m) (hknown : known) (hi : P i)
    (num : Int) : EndsIn (signalForeign i num) m (R s) := by
  refine (yields_getForeign i m).seq ?_ fun _ _ ht => ht ▸ h
  rintro f m ⟨rfl, hf⟩
  cases hprocess : f.process with
  | found pid => exact winds_signalEntry h hknown hi (.inr ⟨f, hf, hprocess⟩) num
  | started c => exact winds_signalChild h hknown hi (.inr ⟨f, hf, hprocess⟩) num
  | gone => exact keeps_silent.then h

lemma winds_shutdownForeign [Winding (SignalKnown signal) P R] (h : R s m) (hi : P i)
    (reason timeout : Value) : EndsIn (shutdownForeign i reason signal timeout) m (R s) := by
  refine winds_askThenWait h (fun m hm => yields_askNode hm fun num t ht hknown => ?_)
    keeps_awaitForeign
  exact winds_signalForeign ht hknown hi num

/-! ## Launch services -/

lemma yields_getService (i : Nat) (s : Session) :
    Yields (getService i) s (fun v t => t = s ∧ s.core.service? i = some v) (fun _ t => t = s) :=
  (yields_view (fun n => by cases n.kind <;> rfl) i s).imp (fun _ _ h => h) fun _ _ h => h.1

@[grind ←]
lemma keeps_getService [Tolerant R] : Keeps R (getService i) := by
  unfold getService
  grind

lemma keeps_joinServiceProcess [Winding known P R] (hi : P i) (timeout : Value) :
    Keeps R (joinServiceProcess i timeout) := by
  refine keeps_getService.bind fun v => ?_
  split
  · exact keeps_silent
  · exact keeps_silent
  · exact .pure
  · split
    · exact Winding.service hi _
    · exact keeps_pause

lemma keeps_closeService [Winding known P R] (hi : P i) (pid : Int) (signal : Value) :
    Keeps R (closeService i pid signal) := by
  refine Keeps.ite (keeps_emit rfl rfl) (Keeps.ite ?_ .pure)
  exact (keeps_emit rfl rfl).bind fun _ => Winding.service hi _

lemma winds_signalGroup [Winding known P R] (h : R s m) (hi : P i)
    (hservice : (m.core.service? i).isSome) (pid num : Int) :
    EndsIn (signalGroup i pid num) m (R s) := by
  refine .of_bind (.get (.of_bind ?_))
  refine .modify ?_
  refine (Keeps.when .throw fun _ => Keeps.ite ?_ .pure).then
    (trans_of R h (Winding.groupSignalled hi hservice num pid))
  exact Winding.service hi _

lemma keeps_signalNumber [Tolerant R] {v : Value} : Keeps R (signalNumber v) := by
  unfold signalNumber
  split
  · exact .pure
  · exact keeps_silent

lemma winds_signalService [Winding known P R] (h : R s m) (hi : P i) (signal : Value) :
    EndsIn (signalService i signal) m (R s) := by
  refine keeps_isRunning.along h fun running m hm => ?_
  refine Yields.ite (.pure hm) ?_
  refine (yields_getService i m).seq ?_ fun _ _ ht => ht ▸ hm
  rintro v m ⟨rfl, hv⟩
  split
  · refine .of_bind (.get ?_)
    refine Yields.ite ((keeps_closeService hi _ signal).then hm) ?_
    refine (keeps_signalNumber m).seq (fun num u hu => ?_) fun _ _ hu => trans_of R hm hu
    have hservice : (u.core.service? i).isSome := by
      rw [(Winding.winds hu).isService, hv]
      rfl
    exact winds_signalGroup (trans_of R hm hu) hi hservice _ num
  · exact keeps_silent.then hm

lemma keeps_awaitTermination [Winding known P R] (hi : P i) : Keeps R (awaitTermination i) := by
  refine keeps_getService.bind fun v => Keeps.ite ?_ .pure
  refine keeps_isRunning.bind fun _ => Keeps.ite ?_ .pure
  exact (keeps_joinServiceProcess hi _).catchFault fun _ => .pure

lemma keeps_requestEnd [Winding known P R] (hi : P i) (n : Node) (why : String) (kill : Bool) :
    Keeps R (requestEnd i n why kill) := by
  have signals (v : Value) : Keeps R (signalService i v) :=
    fun s => winds_signalService (refl_of R s) hi v
  refine keeps_getService.bind fun v => ?_
  refine Keeps.ite (keeps_warn.bind fun _ => signals _) (Keeps.ite ?_ ?_)
  all_goals exact (Winding.service hi _).bind fun _ => keeps_info.bind fun _ => signals _

lemma keeps_shutdownService [Winding known P R] (hi : P i) (reason signal timeout : Value) :
    Keeps R (shutdownService i reason signal timeout) := by
  refine (keeps_awaitTermination hi).bind fun _ => ?_
  refine keeps_isRunning.bind fun _ => Keeps.ite .pure ?_
  refine keeps_getNode.bind fun n => keeps_display.bind fun why => ?_
  refine ((keeps_requestEnd hi n why _).catchFault fun _ => .pure).bind fun _ => ?_
  exact Keeps.ite .pure (keeps_joinServiceProcess hi timeout)

/-! ## Components -/

section Components

variable {R : SessionRel} [Tolerant R]

@[grind ←]
lemma keeps_getComponent : Keeps R (getComponent i) := by
  unfold getComponent
  grind

@[grind ←]
lemma keeps_getComposer : Keeps R (getComposer i) := by
  unfold getComposer
  grind

lemma keeps_managedComponents : Keeps R (managedComponents i) :=
  keeps_getComposer.bind fun _ => .pure

@[grind ←]
lemma keeps_composerService {name : String} : Keeps R (composerService i name) :=
  keeps_getNode.bind fun _ => .pure

lemma keeps_awaitReply (reply n : Nat) : Keeps R (awaitReply reply n) := by
  induction n with
  | zero => exact .throw
  | succ n ih =>
    refine keeps_replyDone.bind fun b => Keeps.ite .pure ?_
    exact (keeps_sleepOn _).bind fun _ => ih

lemma keeps_awaitReplyWithin (reply : Nat) (timeout start : Float) (n : Nat) :
    Keeps R (awaitReplyWithin reply timeout start n) := by
  induction n with
  | zero => exact .pure
  | succ n ih =>
    refine keeps_now.bind fun _ => Keeps.ite ?_ .pure
    refine keeps_replyDone.bind fun b => Keeps.ite .pure ?_
    exact (keeps_sleep _).bind fun _ => ih

variable {reply : Nat}

lemma keeps_replyFields : Keeps R (replyFields reply) := by
  refine keeps_get.bind fun s => ?_
  split
  · exact .pure
  · exact keeps_silent

lemma keeps_replyRounds : Keeps R (replyRounds reply) :=
  keeps_get.bind fun _ => .pure

lemma keeps_liveComponents {R : SessionRel} [Patient R] : Keeps R (liveComponents i) := by
  refine keeps_getComposer.bind fun c => keeps_isRunning.bind fun b => ?_
  refine Keeps.ite .pure (keeps_composerService.bind fun topic => ?_)
  exact keeps_callWith.bind fun _ => .pure

lemma keeps_componentNumber {component : Value} : Keeps R (componentNumber component) := by
  unfold componentNumber
  split
  · refine keeps_getNode.bind fun n => ?_
    split <;> exact .pure
  · exact .pure

lemma keeps_componentName {R : SessionRel} [Patient R] {cid : Value} :
    Keeps R (componentName i cid) := by
  refine keeps_getComposer.bind fun c => ?_
  split
  · exact keeps_getNode.bind fun _ => .pure
  · refine keeps_liveComponents.bind fun live => keeps_lift.bind fun v => ?_
    exact keeps_display

lemma keeps_awaitUnload : Keeps R (awaitUnload reply timeout) := by
  unfold awaitUnload
  split
  · exact keeps_awaitReply reply _
  · refine keeps_seconds.bind fun t => keeps_replyRounds.bind fun n => ?_
    refine keeps_waitRounds.bind fun m => keeps_now.bind fun start => ?_
    refine (keeps_awaitReplyWithin reply t start _).bind fun b => ?_
    exact Keeps.ite keeps_told .pure

end Components

lemma keeps_forgetComponent {cid : Value} {node : Option Nat} :
    Keeps (Winds known P) (forgetComponent i cid node) := by
  have forgets : Keeps (Winds known P) (modifyComposer i fun c => { c with
      components := c.components.filter fun e => !(e.1.alike cid) }) :=
    keeps_modifyComposer i fun _ => rfl
  unfold forgetComponent
  split
  · exact (keeps_modifyComponent _ _).bind fun _ => forgets
  · exact forgets

lemma keeps_unloadComponent {component timeout : Value} :
    Keeps (Winds known P) (unloadComponent i component timeout) := by
  refine keeps_isRunning.bind fun b => Keeps.when keeps_told fun _ => ?_
  refine keeps_getNode.bind fun n => keeps_componentNumber.bind fun r => ?_
  refine Keeps.unless keeps_silent fun _ => ?_
  refine keeps_componentName.bind fun cname => keeps_display.bind fun shown => ?_
  refine keeps_warn.bind fun _ => keeps_composerService.bind fun topic => ?_
  refine keeps_callAsync.bind fun reply => Keeps.ite .pure ?_
  refine keeps_awaitUnload.bind fun _ => keeps_replyFields.bind fun _ => ?_
  refine Keeps.ite (keeps_forgetComponent.bind fun _ => .pure) ?_
  refine keeps_display.bind fun why => keeps_display.bind fun shown => ?_
  exact keeps_error.bind fun _ => .pure

lemma keeps_shutdownComponent {reason timeout : Value} :
    Keeps (Winds known P) (shutdownComponent i reason timeout) := by
  refine keeps_getComponent.bind fun c => Keeps.ite (Keeps.bind ?_ fun _ => ?_) .pure
  · refine keeps_getNode.bind fun n => keeps_display.bind fun why => ?_
    exact keeps_warn.bind fun _ => keeps_unloadComponent
  · exact keeps_modifyComponent i _

/-! ## All kinds of nodes -/

lemma winds_shutdownWith (reason signal : Value) (fuel : Nat) :
    ∀ (timeout : Value) (i : Nat) {s m : Session}, Winds (SignalKnown signal) P s m →
      (∀ j, s.core.Reaches i j → P j) →
      EndsIn (shutdownWith reason signal timeout fuel i) m (Winds (SignalKnown signal) P s) := by
  induction fuel with
  | zero =>
    intro timeout i s m h _
    exact keeps_silent.then h
  | succ fuel ih =>
    intro timeout i s m h hP
    have hi : P i := hP i (.refl i)
    simp only [shutdownWith, getNode, yields_bind, yields_get]
    cases hn : m.nodes[i]? with
    | none => exact .throw h
    | some n =>
      rw [yields_pure]
      cases hkind : n.kind with
      | bare => exact Keeps.throw.then h
      | process p => exact winds_shutdownProcess h hi reason timeout
      | foreign f => exact winds_shutdownForeign h hi reason timeout
      | component c => exact keeps_shutdownComponent.then h
      | service v => exact (keeps_shutdownService hi reason signal timeout).then h
      | composer c =>
        have hw : s.core.wrapped? i = some c.wrapped := by
          rw [← h.wrapped]
          simp [Session.Core.wrapped?, Session.core, hn, hkind, NodeKind.wrapped?]
        refine keeps_isRunning.along h fun running m hm => ?_
        refine Yields.ite (Keeps.then ?_ hm) ?_
        · refine keeps_managedComponents.bind fun js => ?_
          exact (Keeps.forM js fun j _ => keeps_modifyComponent j _).bind fun _ => .pure
        refine keeps_getNode.along hm fun n m hm => ?_
        refine keeps_managedComponents.along hm fun js m hm => ?_
        refine Keeps.followed (Keeps.forM js fun j _ => ?_) hm (fun _ m hm => ?_) fun _ _ ht => ht
        · refine keeps_shutdownComponent.catchFault fun f => ?_
          exact keeps_nodeText.bind fun _ => keeps_warn
        · have inner := ih timeout c.wrapped hm fun j hj => hP j (.wraps hw hj)
          refine inner.catchFault (fun f t ht => ?_) fun _ _ ht => ht
          exact (Keeps.ite .pure .throw).then ht

lemma winds_shutdownNode (i : Nat) (reason signal timeout : Value)
    (h : Winds (SignalKnown signal) P s m) (hP : ∀ j, s.core.Reaches i j → P j) :
    EndsIn (shutdownNode i reason signal timeout) m (Winds (SignalKnown signal) P s) :=
  .of_bind (.get (winds_shutdownWith reason signal _ timeout i h hP))

lemma winds_askToEnd (l : Launcher) (reason signal : Value) (i : Nat) (s : Session) :
    EndsIn (askToEnd l reason signal i) s (Winds (SignalKnown signal) (s.core.Reaches i) s) := by
  refine Keeps.followed (R := Winds (SignalKnown signal) (s.core.Reaches i)) ?_ (refl_of _ s)
    (fun timeout m hm => ?_) fun _ _ h => h
  · refine keeps_getNode.bind fun n => ?_
    split <;> exact .pure
  · refine Yields.catchFault (winds_shutdownNode i reason signal timeout hm fun _ h => h)
      (fun f t ht => ?_) fun _ _ h => h
    refine (Keeps.ite .pure (keeps_getNode.bind fun n => ?_)).then ht
    exact keeps_error

end Launch

end Launchpad
