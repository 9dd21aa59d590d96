import Launchpad.Proofs.Log.Ordinary
import Launchpad.Proofs.Shutdown.Requests
import Launchpad.Proofs.Supervision.ServiceRequest

/-!
The end of a launch, up to where the callbacks are called. In a sound session, where whatever the
launcher points to is there, it cannot fail, unless one of the nodes is waited for without an end:
every node is asked to end, whatever becomes of the others, and afterwards the launch has ended.
-/

namespace Launchpad

open List

open Session (core)
open Launcher

namespace Session.Core

/-- The callbacks that still have to be called. -/
def pending (k : Core) : List Value :=
  (k.launcher.map Launcher.callbacks).getD []

/-- What the launcher and the groups point to is there. -/
structure Sound (k : Core) : Prop where
  launcher : ∃ l, k.launcher = some l ∧ l.ending < k.promises.size ∧
    l.groupStack.headD l.rootGroup < k.groups.size ∧ ∀ i ∈ l.service, i < k.titles.size
  children : ∀ g ∈ k.groups, ∀ c ∈ g.children, c.2 < k.groups.size
  nodes : ∀ g ∈ k.groups, ∀ i ∈ g.nodes, i < k.titles.size

lemma Sound.of_still {k k' : Core} (h : k.Sound) (hstill : k'.still = k.still) : k'.Sound := by
  have hlauncher : k'.launcher = k.launcher := congrArg (fun k => k.launcher) hstill
  have hpromises : k'.promises = k.promises := congrArg (fun k => k.promises) hstill
  have hgroups : k'.groups = k.groups := congrArg (fun k => k.groups) hstill
  have htitles : k'.titles = k.titles := congrArg (fun k => k.titles) hstill
  obtain ⟨l, hl, hending, hroot, hservice⟩ := h.launcher
  refine ⟨⟨l, ?_, ?_, ?_, ?_⟩, ?_, ?_⟩
  · rw [hlauncher, hl]
  · rw [hpromises]
    exact hending
  · rw [hgroups]
    exact hroot
  · rw [htitles]
    exact hservice
  · rw [hgroups]
    exact h.children
  · rw [hgroups, htitles]
    exact h.nodes

end Session.Core

/-- A session whose launcher can be shut down: what it points to is there, and messages without a
header can be logged. -/
structure Session.Sound (s : Session) : Prop where
  core : s.core.Sound
  log : s.log.Ordinary

/-- Nothing is changed but what becomes of processes, components and launch services. -/
structure Quiet (s t : Session) : Prop where
  still : t.core.still = s.core.still
  log : s.log.Logged t.log

instance : Patient Quiet where
  refl _ := ⟨rfl, .refl⟩
  trans _ _ _ h h' := ⟨h'.still.trans h.still, h.log.trans h'.log⟩
  calm _ _ h := ⟨congrArg _ h.core, h.log⟩
  aged s t h := by
    refine ⟨?_, h.log⟩
    rw [h.core]
    rfl

variable {s t : Session}

lemma Quiet.size_eq (h : Quiet s t) : t.nodes.size = s.nodes.size := by
  have htitles : t.core.titles.size = s.core.titles.size :=
    congrArg (fun k => k.titles.size) h.still
  simpa [core] using htitles

/-- The session stays sound, the callbacks are as before, and what has ended stays so. -/
structure Orderly (s t : Session) : Prop where
  sound : s.Sound → t.Sound
  pending : t.core.pending = s.core.pending
  ended : s.core.ended → t.core.ended

lemma Quiet.orderly (h : Quiet s t) : Orderly s t := by
  have hended : t.core.ended = s.core.ended := congrArg (fun k => k.ended) h.still
  have hpending : t.core.pending = s.core.pending := congrArg (fun k => k.pending) h.still
  refine ⟨fun hs => ⟨hs.core.of_still h.still, hs.log.later h.log⟩, hpending, ?_⟩
  rw [hended]
  exact id

instance : Patient Orderly where
  refl s := (refl_of Quiet s).orderly
  trans _ _ _ h h' :=
    ⟨h'.sound ∘ h.sound, h'.pending.trans h.pending, h'.ended ∘ h.ended⟩
  calm s t h := (Tolerant.calm (R := Quiet) s t h).orderly
  aged s t h := (Patient.aged (R := Quiet) s t h).orderly

/-! ## What a sound session holds -/

namespace Session.Sound

variable {s : Session} (h : s.Sound)

include h

lemma exists_launcher : ∃ l, s.launcher = some l ∧ l.ending < s.promises.size ∧
    l.groupStack.headD l.rootGroup < s.groups.size ∧ ∀ i ∈ l.service, i < s.nodes.size := by
  obtain ⟨k, hk, hending, hroot, hservice⟩ := h.core.launcher
  obtain ⟨l, hl, rfl⟩ := Option.map_eq_some_iff.1 hk
  refine ⟨l, hl, hending, hroot, fun i hi => ?_⟩
  simpa [Session.core] using hservice i hi

lemma exists_node {g : Group} (hg : g ∈ s.groups) {i : Nat} (hi : i ∈ g.nodes) :
    i < s.nodes.size := by
  simpa [Session.core] using h.core.nodes g hg i hi

end Session.Sound

namespace Launch

variable {α β : Type} {s : Session} {E : Post Stop}

lemma run_isShutdown (hs : s.Sound) : isShutdown.run s = .ok s.core.ended s := by
  obtain ⟨l, hl, hlt, -⟩ := hs.exists_launcher
  have returns : Succeeds isShutdown s (fun _ _ => True) := by
    refine (yields_getLauncher_of hl).exactly ?_
    refine .of_bind (.of_bind (.get ?_))
    rw [Array.getElem?_eq_getElem hlt]
    exact .pure (.pure trivial)
  obtain ⟨b, t, hrun, -⟩ := returns.exists_ok
  obtain ⟨rfl, rfl⟩ := yields_run_ok (yields_isShutdown s) hrun
  exact hrun

/-! ## The nodes that are asked -/

lemma collectGroups_lt {groups : Array Group}
    (h : ∀ g ∈ groups, ∀ c ∈ g.children, c.2 < groups.size) (fuel : Nat) (stack : List Nat) :
    ∀ j ∈ collectGroups groups fuel stack, j < groups.size := by
  induction fuel generalizing stack with
  | zero => exact nofun
  | succ fuel ih =>
    cases stack with
    | nil => exact nofun
    | cons i stack =>
      intro j hj
      simp only [collectGroups, mem_append] at hj
      rcases hj with hj | hj
      · obtain ⟨c, hc, rfl⟩ := mem_map.1 hj
        cases hg : groups[i]? with
        | none => simp [hg] at hc
        | some g =>
          rw [hg] at hc
          exact h g (Array.mem_of_getElem? hg) c hc
      · exact ih _ j hj

lemma yields_allGroups (hs : s.Sound) :
    Yields allGroups s (fun gs t => t = s ∧ ∀ g ∈ gs, g < s.groups.size) E := by
  obtain ⟨l, hl, -, hroot, -⟩ := hs.exists_launcher
  refine .of_bind ((yields_getLauncher_of hl).exactly ?_)
  refine .pure (.of_bind (.get (.pure ⟨rfl, fun g hg => ?_⟩)))
  rcases mem_cons.1 hg with rfl | hg
  · exact hroot
  · exact collectGroups_lt hs.core.children _ _ g hg

lemma yields_allNodes_of_sound (hs : s.Sound) :
    Yields (allNodes false true false) s
      (fun nodes t => t = s ∧ ∀ i ∈ nodes, i < s.nodes.size) E := by
  have own : Yields (ownNodes false true) s
      (fun nodes t => t = s ∧ ∀ i ∈ nodes, i < s.nodes.size) E := by
    refine (yields_allGroups hs).bind ?_
    rintro gs s ⟨rfl, hgs⟩
    refine (yields_mapM (R := (· = ·)) (Q := fun part => ∀ i ∈ part, i < s.nodes.size)
      gs ?_ rfl).bind ?_
    · -- The nodes of one group.
      rintro g hg _ rfl
      have hgroup := Array.getElem?_eq_getElem (hgs g hg)
      refine (yields_getGroup_of hgroup).bind ?_
      rintro group s ⟨hgroup', rfl⟩
      have hmem : group ∈ s.groups := Array.mem_of_getElem? (hgroup' ▸ hgroup)
      refine (yields_mapM (R := (· = ·)) (Q := fun part => ∀ i ∈ part, i < s.nodes.size)
        _ ?_ rfl).bind ?_
      · rintro i hi _ rfl
        have hlt := hs.exists_node hmem hi
        refine (yields_getNode (Array.getElem?_eq_getElem hlt)).bind ?_
        rintro n s ⟨-, rfl⟩
        have single : ∀ j ∈ [i], j < s.nodes.size := forall_mem_singleton.2 hlt
        split
        all_goals exact .pure ⟨rfl, single⟩
      · rintro parts _ ⟨rfl, hparts⟩
        exact .pure ⟨rfl, forall_mem_flatten.2 hparts⟩
    · rintro parts _ ⟨rfl, hparts⟩
      obtain ⟨l, hl, -, -, hservice⟩ := hs.exists_launcher
      refine (yields_getLauncher_of hl).exactly ?_
      refine .pure ⟨rfl, forall_mem_append.2 ⟨forall_mem_flatten.2 hparts, ?_⟩⟩
      exact fun i hi => hservice i (by simpa using hi)
  refine own.bind ?_
  rintro nodes _ ⟨rfl, hnodes⟩
  exact .pure ⟨rfl, hnodes⟩

/-! ## The steps of the end -/

lemma yields_announceShutdown (hs : s.Sound) (l : Launcher) (reason : Value) :
    Yields (announceShutdown l reason) s (fun _ t => Calm s t) E := by
  unfold announceShutdown
  split
  · refine yields_log_unmarked _ (by decide) ?_ hs.log _
    exact ⟨'S', _, rfl, by decide⟩
  · refine (yields_display _ s).bind ?_
    rintro why _ ⟨rfl, -⟩
    refine yields_log_unmarked _ (by decide) ?_ hs.log _
    exact Log.StartsPlain.append ⟨'S', _, rfl, by decide⟩ _

lemma keeps_shutdownNode (i : Nat) (reason signal timeout : Value) :
    Keeps Quiet (shutdownNode i reason signal timeout) := fun s =>
  (winds_shutdownNode i reason signal timeout (refl_of (Winds _ (s.core.Reaches i)) s)
    fun _ h => h).imp (fun _ _ h => ⟨h.still, h.log⟩) fun _ _ h => ⟨h.still, h.log⟩

/-- A wait has begun that has no end. -/
def Hangs (s : Session) (e : Stop) (t : Session) : Prop :=
  e.Endless ∧ Quiet s t

lemma Hangs.of_quiet {t u : Session} {e : Stop} (h : Quiet s t) (hu : Hangs t e u) : Hangs s e u :=
  ⟨hu.1, trans_of Quiet h hu.2⟩

lemma yields_handled {x : Launch Unit} {handler : Fault → Launch Unit} (hx : Faults x)
    (hquiet : Keeps Quiet x)
    (hh : ∀ f, Succeeds (handler f) (x.after s) (fun _ t => Calm (x.after s) t)) :
    Yields (catchFault x handler) s (fun _ t => Calm (x.after s) t) (Hangs s) := by
  refine Yields.catchFault_of ((yields_after x s).and (hx s) |>.map fun _ _ h => ?_) ?_ ?_
  · rw [h.1]
    exact refl_of Calm _
  · rintro f t ⟨rfl, -⟩ -
    exact (hh f).imp (fun _ _ h => h) fun _ _ h => h.elim
  · rintro e t ⟨rfl, hf⟩ hnone
    exact ⟨⟨hf, hnone⟩, hquiet.after s⟩

lemma yields_error_unmarked (logger : String) {msg : String} (hmsg : Log.StartsPlain msg)
    (hs : s.log.Ordinary) : Yields (error logger msg) s (fun _ t => Calm s t) E :=
  yields_log_unmarked logger (by decide) hmsg hs _

lemma yields_askToEnd (hs : s.Sound) (l : Launcher) (reason signal : Value) {i : Nat}
    (hi : i < s.nodes.size) :
    Yields (askToEnd l reason signal i) s
      (fun _ t => ∃ timeout, (defaultTimeout i).run s = .ok timeout s ∧
        Calm ((shutdownNode i reason signal timeout).after s) t) (Hangs s) := by
  have reads : Succeeds (defaultTimeout i) s (fun _ t => t = s) := by
    refine (yields_getNode (Array.getElem?_eq_getElem hi)).bind ?_
    rintro n _ ⟨-, rfl⟩
    split
    all_goals exact .pure rfl
  obtain ⟨timeout, s, htimeout, rfl⟩ := reads.exists_ok
  refine Yields.congr ?_ (run_bind_of_ok htimeout)
  have quiet := (keeps_shutdownNode i reason signal timeout).after s
  refine (yields_handled (faults_shutdownNode i reason signal timeout)
    (keeps_shutdownNode i reason signal timeout) fun f => ?_).map
    fun _ _ ht => ⟨timeout, htimeout, ht⟩
  split
  · exact .pure (refl_of Calm _)
  · have hsize : i < ((shutdownNode i reason signal timeout).after s).nodes.size := by
      rw [quiet.size_eq]
      exact hi
    refine (yields_getNode (Array.getElem?_eq_getElem hsize)).bind ?_
    rintro n _ ⟨-, rfl⟩
    refine yields_error_unmarked _ ?_ (quiet.orderly.sound hs).log
    iterate 3 refine Log.StartsPlain.append ?_ _
    exact ⟨'N', _, rfl, by decide⟩

/-- Every node of a list is asked to end, one after the other, whatever becomes of it. Between the
requests nothing happens but that their faults are logged. -/
inductive Asks (reason signal : Value) : List Nat → Session → Session → Prop where
  | nil (s : Session) : Asks reason signal [] s s
  | cons {i : Nat} {nodes : List Nat} {s t u : Session} {timeout : Value}
      (htimeout : (defaultTimeout i).run s = .ok timeout s)
      (hcalm : Calm ((shutdownNode i reason signal timeout).after s) t)
      (h : Asks reason signal nodes t u) : Asks reason signal (i :: nodes) s u

variable {reason signal : Value} {nodes : List Nat} {l : Launcher}

lemma Asks.quiet {t : Session} (h : Asks reason signal nodes s t) : Quiet s t := by
  induction h with
  | nil s => exact refl_of Quiet s
  | @cons i nodes s t u timeout htimeout hcalm h ih =>
    have hasked := (keeps_shutdownNode i reason signal timeout).after s
    have hlogged : Quiet s t := trans_of Quiet hasked (Tolerant.calm _ _ hcalm)
    exact trans_of Quiet hlogged ih

lemma yields_forM_askToEnd (hs : s.Sound) (l : Launcher) (reason signal : Value)
    (nodes : List Nat) (hnodes : ∀ i ∈ nodes, i < s.nodes.size) :
    Yields (nodes.forM (askToEnd l reason signal)) s
      (fun _ t => Asks reason signal nodes s t) (Hangs s) := by
  induction nodes generalizing s with
  | nil => exact .pure (.nil s)
  | cons i nodes ih =>
    obtain ⟨hi, hnodes⟩ := forall_mem_cons.1 hnodes
    refine (yields_askToEnd hs l reason signal hi).bind ?_
    rintro _ t ⟨timeout, htimeout, hcalm⟩
    have hquiet : Quiet s t := (Asks.cons htimeout hcalm (.nil t)).quiet
    refine (ih (hquiet.orderly.sound hs) fun j hj => ?_).imp (fun _ u hu => ?_) fun _ _ hu => ?_
    · rw [hquiet.size_eq]
      exact hnodes j hj
    · exact .cons htimeout hcalm hu
    · exact .of_quiet hquiet hu

lemma yields_stopAdapter (hs : s.Sound) (l : Launcher) (reason signal : Value) :
    Yields (ShutdownStep.adapter.take l reason signal) s (fun _ t => Quiet s t) (Hangs s) := by
  have quiet := (keeps_stopAdapter (R := Quiet)).after s
  refine (yields_handled (stops_stopAdapter (P := Stop.IsFault)) keeps_stopAdapter fun f => ?_).map
    fun _ t ht => ?_
  · refine yields_error_unmarked _ ?_ (quiet.orderly.sound hs).log
    exact Log.StartsPlain.append ⟨'R', _, rfl, by decide⟩ _
  · exact trans_of Quiet quiet (Tolerant.calm _ _ ht)

lemma yields_askServiceToEnd (hs : s.Sound) (l : Launcher) (reason signal : Value) :
    Yields (askServiceToEnd l reason signal) s (fun _ t => Quiet s t) (Hangs s) := by
  obtain ⟨k, hk, -⟩ := hs.exists_launcher
  refine (yields_getLauncher_of hk).exactly ?_
  split
  · exact .pure (refl_of Quiet s)
  · next i _ =>
    have quiet := (keeps_shutdownNode i reason signal (.int 0)).after s
    refine (yields_handled (faults_shutdownNode i reason signal (.int 0))
      (keeps_shutdownNode i reason signal (.int 0)) fun f => ?_).map fun _ t ht => ?_
    · refine yields_error_unmarked _ ?_ (quiet.orderly.sound hs).log
      exact Log.StartsPlain.append ⟨'R', _, rfl, by decide⟩ _
    · exact trans_of Quiet quiet (Tolerant.calm _ _ ht)

lemma yields_settle_ending (hs : s.Sound) {k : Launcher} (hk : s.launcher = some k)
    (hending : k.ending = l.ending) :
    Yields (settle l.ending { state := .done }) s
      (fun _ t => t.core.ended ∧ t.core.pending = s.core.pending ∧ t.Sound) E := by
  obtain ⟨k', hk', hlt, -⟩ := hs.exists_launcher
  obtain rfl : k = k' := Option.mem_unique hk hk'
  rw [hending] at hlt
  refine .modify ⟨?_, rfl, ⟨⟨?_, hs.core.children, hs.core.nodes⟩, hs.log⟩⟩
  · have hsettled : ∀ p : Promise,
        ((if p.state == .pending then { state := .done } else p : Promise).state != .pending) := by
      intro p
      split
      · rfl
      · next hp => simpa using hp
    simp only [Session.Core.ended, core, hk, hending, Option.map_some, Option.bind_some,
      Array.getElem?_modify, Array.getElem?_eq_getElem hlt, Option.any_some, ↓reduceIte]
    exact hsettled _
  · obtain ⟨k', hk', hlt, hroot, hservice⟩ := hs.core.launcher
    refine ⟨k', hk', ?_, hroot, hservice⟩
    rw [core, Array.size_modify]
    exact hlt

/-! ## Up to the callbacks -/

/-- The last steps before the callbacks are called, which are taken off the launcher. -/
def takeCallbacks (l : Launcher) (reason signal : Value) : Launch (List Value) := do
  [ShutdownStep.adapter, .service, .resolve].forM (ShutdownStep.take l reason signal)
  let callbacks := (← getLauncher).callbacks
  modifyLauncher fun l => { l with callbacks := [] }
  return callbacks

/-- What is left to do when all nodes have been asked. -/
def lastSteps : List ShutdownStep :=
  [.adapter, .service, .resolve, .callbacks]

lemma forM_lastSteps (call : Value → Launch Unit) (l : Launcher) (reason signal : Value) :
    lastSteps.forM (ShutdownStep.takeBy call l reason signal) = (do
      let callbacks ← takeCallbacks l reason signal
      callbacks.forM (callOnce call l)) := by
  simp only [lastSteps, takeCallbacks, List.forM, bind_assoc, pure_bind, bind_pure_unit]
  rfl

lemma forM_shutdownSteps (call : Value → Launch Unit) (l : Launcher) (reason signal : Value)
    (nodes : List Nat) :
    (shutdownSteps nodes).forM (ShutdownStep.takeBy call l reason signal) = (do
      nodes.forM (askToEnd l reason signal)
      lastSteps.forM (ShutdownStep.takeBy call l reason signal)) := by
  induction nodes with
  | nil => rfl
  | cons i nodes ih =>
    calc (shutdownSteps (i :: nodes)).forM (ShutdownStep.takeBy call l reason signal)
        = (do
            askToEnd l reason signal i
            (shutdownSteps nodes).forM (ShutdownStep.takeBy call l reason signal)) := rfl
      _ = _ := by
        rw [ih]
        exact (bind_assoc _ _ _).symm

/-- The end of a launch as far as the callbacks. -/
def closeAll (reason signal : Value) : Launch (Launcher × List Value) := do
  let l ← getLauncher
  announceShutdown l reason
  let nodes ← allNodes false true false
  nodes.forM (askToEnd l reason signal)
  return (l, ← takeCallbacks l reason signal)

lemma shutdownBy_eq (call : Value → Launch Unit) (reason signal : Value) :
    shutdownBy call reason signal = (do
      let (l, callbacks) ← closeAll reason signal
      callbacks.forM (callOnce call l)) := by
  simp only [shutdownBy, closeAll, forM_shutdownSteps, forM_lastSteps, bind_assoc, pure_bind]

/-- How the end of a launch comes to its last steps: all nodes that the launcher knows of have been
asked to end. -/
structure Closes (reason signal : Value) (l : Launcher) (nodes : List Nat) (s t u : Session) :
    Prop where
  launcher : s.launcher = some l
  finds : (do announceShutdown l reason; allNodes false true false).run s = .ok nodes t
  asks : Asks reason signal nodes t u
  quiet : Quiet s t

lemma hangs_or_closes (hs : s.Sound) (reason signal : Value) :
    (∃ e v, Hangs s e v ∧ (closeAll reason signal).run s = .error e v ∧
      ∀ call, (shutdownBy call reason signal).run s = .error e v) ∨
    ∃ l nodes t u, Closes reason signal l nodes s t u ∧
      (closeAll reason signal).run s =
        (do return (l, ← takeCallbacks l reason signal)).run u ∧
      ∀ call, (shutdownBy call reason signal).run s =
        (lastSteps.forM (ShutdownStep.takeBy call l reason signal)).run u := by
  obtain ⟨l, hl, -⟩ := hs.exists_launcher
  obtain ⟨_, m, hannounce, hm⟩ := (yields_announceShutdown hs l reason).exists_ok
  have hquiet : Quiet s m := Tolerant.calm _ _ hm
  have hsound := hquiet.orderly.sound hs
  obtain ⟨nodes, t, hall, rfl, hnodes⟩ := (yields_allNodes_of_sound hsound).exists_ok
  have hyields := yields_forM_askToEnd hsound l reason signal nodes hnodes
  have hget : getLauncher.run s = .ok l s := by
    obtain ⟨_, _, hget, rfl, rfl⟩ := (yields_getLauncher_of hl).exists_ok
    exact hget
  simp only [closeAll, shutdownBy, run_bind_of_ok hget, run_bind_of_ok hannounce,
    run_bind_of_ok hall, forM_shutdownSteps]
  cases hask : (nodes.forM (askToEnd l reason signal)).run t with
  | error e v =>
    exact .inl ⟨e, v, .of_quiet hquiet (yields_run_error hyields hask), run_bind_of_error hask,
      fun call => run_bind_of_error hask⟩
  | ok _ u =>
    have hasks := yields_run_ok hyields hask
    refine .inr ⟨l, nodes, t, u, ⟨hl, ?_, hasks, hquiet⟩, run_bind_of_ok hask,
      fun call => run_bind_of_ok hask⟩
    rw [run_bind_of_ok hannounce, hall]

lemma Closes.quiet_all {t u : Session} (h : Closes reason signal l nodes s t u) : Quiet s u :=
  trans_of Quiet h.quiet h.asks.quiet

lemma yields_takeCallbacks (hs : s.Sound)
    (hl : s.core.launcher.map ending = some l.ending) (reason signal : Value) :
    Yields (takeCallbacks l reason signal) s (fun callbacks t =>
      callbacks = s.core.pending ∧ t.core.pending = [] ∧ t.core.ended ∧ t.Sound) (Hangs s) := by
  simp only [takeCallbacks, List.forM, bind_assoc, pure_bind]
  refine (yields_stopAdapter hs l reason signal).bind fun _ m hadapter => ?_
  refine (yields_askServiceToEnd (hadapter.orderly.sound hs) l reason signal).seq ?_ fun _ _ h =>
    .of_quiet hadapter h
  intro _ t hservice
  have hquiet : Quiet s t := trans_of Quiet hadapter hservice
  have hsound := hquiet.orderly.sound hs
  obtain ⟨k, hk, -⟩ := hsound.exists_launcher
  have hending : k.ending = l.ending := by
    have hsame : t.core.launcher.map ending = s.core.launcher.map ending :=
      congrArg (fun k => k.launcher.map ending) hquiet.still
    rw [hl] at hsame
    simpa [core, hk] using hsame
  refine (yields_settle_ending hsound hk hending).bind ?_
  rintro _ u ⟨hended, hpending, hsound⟩
  obtain ⟨k, hk, hlt, hroot, hservice⟩ := hsound.exists_launcher
  refine (yields_getLauncher_of hk).exactly ?_
  refine .of_bind (.modify (.pure ⟨?_, ?_, ?_, ⟨?_, ?_⟩⟩))
  · have hcallbacks : u.core.pending = k.callbacks := by
      simp only [Session.Core.pending, core, hk, Option.map_some, Option.getD_some]
    rw [← hcallbacks, hpending, hquiet.orderly.pending]
  · simp only [Session.Core.pending, core, hk, Option.map_some, Option.getD_some]
  · simp only [Session.Core.ended, core, hk, Option.map_some] at hended ⊢
    exact hended
  · refine ⟨⟨{ k with callbacks := [], adapterRunning := false }, ?_, hlt, hroot, ?_⟩,
      hsound.core.children, hsound.core.nodes⟩
    · simp only [core, hk, Option.map_some]
    · simpa [core] using hservice
  · exact hsound.log

lemma yields_closeAll (hs : s.Sound) (reason signal : Value) :
    Yields (closeAll reason signal) s (fun r t => r.2 = s.core.pending ∧ t.core.pending = [] ∧
      t.core.ended ∧ t.Sound) (Hangs s) := by
  obtain ⟨e, v, hhangs, hrun, -⟩ | ⟨l, nodes, t, u, hcloses, hrun, -⟩ :=
    hangs_or_closes hs reason signal
  · exact yields_of_run_error hrun hhangs
  have hquiet := hcloses.quiet_all
  have hl : u.core.launcher.map ending = some l.ending := by
    have hsame : u.core.launcher.map ending = s.core.launcher.map ending :=
      congrArg (fun k => k.launcher.map ending) hquiet.still
    rw [hsame, core, hcloses.launcher]
    rfl
  refine Yields.congr ?_ hrun
  refine (yields_takeCallbacks (hquiet.orderly.sound hs) hl reason signal).seq
    (fun callbacks v hv => ?_) fun _ _ h => .of_quiet hquiet h
  exact .pure (hquiet.orderly.pending ▸ hv)

end Launch

end Launchpad
