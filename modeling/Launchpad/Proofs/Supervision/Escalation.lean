import Launchpad.Proofs.Supervision.ServiceRequest

/-!
The launch service at the end of a launch. It is asked to end twice, once with all nodes and once by
itself, so that a service which survives the first of the two signals gets the second one right
after it.
-/

namespace Launchpad

open List

/-- A launch service is the only one, and no composer is around it. -/
structure Alone (v : Nat) (s : Session) : Prop where
  only : ∀ i, (s.core.service? i).isSome → i = v
  bare : ∀ i, s.core.wrapped? i ≠ some v

variable {s t : Session}

lemma Alone.beside {v : Nat} (h : Alone v s) (ht : Beside s t) : Alone v t :=
  ⟨fun i hi => h.only i (ht.isService i ▸ hi), fun i => ht.wrapped i ▸ h.bare i⟩

lemma Alone.eq_of_reaches {v i : Nat} (h : Alone v s) (hi : s.core.Reaches i v) : i = v := by
  induction hi with
  | refl i => rfl
  | wraps hw _ ih => exact absurd (ih h ▸ hw) (h.bare _)

/-- After a number of requests to a launch service, with anything else in between. -/
inductive Requests (v : Nat) (reason : Value) (s : Session) : Nat → Session → Prop where
  | none {t : Session} (h : Apart v s t) : Requests v reason s 0 t
  | more {k : Nat} {m u t : Session} (h : Requests v reason s k m) (hmu : Beside m u)
      (hask : Asked v reason m u) (ht : Apart v u t) : Requests v reason s (k + 1) t

namespace Requests

variable {v k : Nat} {reason : Value} {s t u : Session}

lemma then_apart (h : Requests v reason s k t) (ht : Apart v t u) : Requests v reason s k u := by
  cases h with
  | none h => exact .none (trans_of (Apart v) h ht)
  | more h hmu hask hut => exact .more h hmu hask (trans_of (Apart v) hut ht)

lemma beside (h : Requests v reason s k t) : Beside s t := by
  induction h with
  | none h => exact h.toBeside
  | more _ hmu _ ht ih => exact (ih.trans hmu).trans ht.toBeside

end Requests

namespace Launch

variable {v k : Nat} {reason signal : Value} {s : Session}

lemma apart_askToEnd (l : Launcher) (reason signal : Value) {i : Nat} (h : Alone v s)
    (hi : i ≠ v) : EndsIn (askToEnd l reason signal i) s (Apart v s) := by
  have hreach : ¬ s.core.Reaches i v := fun hr => hi (h.eq_of_reaches hr)
  have apart {t : Session} (ht : Winds (SignalKnown signal) (s.core.Reaches i) s t) :
      Apart v s t := by
    refine ⟨ht.beside, ht.service v hreach, ?_⟩
    obtain ⟨new, hnew, hserver⟩ := ht.groupSignals
    obtain rfl : new = [] := by
      by_contra hne
      obtain ⟨j, hj, hservice⟩ := hserver hne
      exact hreach (h.only j hservice ▸ hj)
    rw [hnew, append_nil]
  exact (winds_askToEnd l reason signal i s).imp (fun _ _ ht => apart ht) fun _ _ ht => apart ht

lemma keeps_settle_apart {i : Nat} {p : Promise} : Keeps (Apart v) (settle i p) :=
  keeps_modify fun _ => ⟨⟨fun _ => rfl, fun _ => rfl, rfl, rfl, rfl, .refl⟩, rfl, rfl⟩

lemma keeps_tellShutdown_apart {l : Launcher} : Keeps (Apart v) (tellShutdown l) := by
  refine keeps_tellShutdown_of l (keeps_modify fun s =>
    ⟨⟨fun _ => rfl, fun _ => rfl, rfl, rfl, ?_, .refl⟩, rfl, rfl⟩)
  simp only [Session.core]
  cases s.launcher <;> rfl

lemma yields_getGroup (g : Nat) (s : Session) :
    Yields (getGroup g) s (fun group t => t = s ∧ s.groups[g]? = some group)
      (fun _ t => t = s) := by
  simp only [getGroup, yields_bind, yields_get]
  cases hg : s.groups[g]? with
  | none => exact .throw rfl
  | some group => exact .pure ⟨rfl, rfl⟩

lemma yields_allNodes (hservice : s.core.launcher.bind Launcher.service = some v)
    (hgroups : ∀ g ∈ s.core.groups, v ∉ g.nodes) :
    Yields (allNodes false true false) s
      (fun nodes t => Calm s t ∧ ∃ own, nodes = own ++ [v] ∧ v ∉ own) (fun _ t => Calm s t) := by
  refine Yields.seq (P := fun nodes t => Calm s t ∧ ∃ own, nodes = own ++ [v] ∧ v ∉ own) ?_
    (fun _ t ht => .pure ht) fun _ _ ht => ht
  refine keeps_allGroups.along (refl_of Calm s) fun gs m hm => ?_
  refine (yields_mapM (Q := fun part => v ∉ part) gs ?_ hm).bind ?_
  · -- The nodes of one group.
    intro g _ m hm
    refine (yields_getGroup g m).seq ?_ fun _ _ ht => ht ▸ hm
    rintro group m ⟨rfl, hgroup⟩
    have hv : v ∉ group.nodes := by
      refine hgroups group ?_
      rw [← hm.core]
      exact Array.mem_of_getElem? hgroup
    refine (yields_mapM (Q := fun part => v ∉ part) _ ?_ hm).bind ?_
    · intro i hi t ht
      refine keeps_getNode.along ht fun n u hu => ?_
      have hne : v ≠ i := fun hvi => hv (hvi ▸ hi)
      split <;> exact .pure ⟨hu, by simpa using hne⟩
    · rintro parts t ⟨ht, hparts⟩
      exact .pure ⟨ht, by simpa using hparts⟩
  · rintro parts t ⟨ht, hparts⟩
    refine (yields_getLauncher t).seq ?_ fun _ _ hu => hu ▸ ht
    rintro l t ⟨rfl, hl⟩
    have hlv : l.service = some v := by
      rw [← ht.core] at hservice
      simpa [Session.core, hl] using hservice
    exact .pure ⟨ht, parts.flatten, by simp [hlv], by simpa using hparts⟩

variable {m : Session}

lemma requests_shutdownNode {handler : Fault → Launch Unit} (hv : (s.core.service? v).isSome)
    (hsignal : (signal == .int killSignal) = false) (h : Requests v reason s k m)
    (hh : ∀ f, Keeps (Apart v) (handler f)) :
    EndsIn (catchFault (shutdownNode v reason signal (.int 0)) handler) m
      (Requests v reason s (k + 1)) := by
  obtain ⟨n, hn⟩ := Option.isSome_iff_exists.1 (h.beside.isService v ▸ hv)
  have more {u t : Session} (hu : Beside m u ∧ Launchpad.Asked v reason m u) (ht : Apart v u t) :
      Requests v reason s (k + 1) t := .more h hu.1 hu.2 ht
  refine Yields.catchFault ((asked_shutdownNode hn hsignal).map fun _ _ hu => more hu (refl_of _ _))
    (fun f u hu => ?_) fun _ _ hu =>
    more hu (refl_of _ _)
  exact (hh f u).imp (fun _ _ ht => more hu ht) fun _ _ ht => more hu ht

lemma requests_askToEnd (l : Launcher) (hv : (s.core.service? v).isSome)
    (hsignal : (signal == .int killSignal) = false) (h : Requests v reason s k m) :
    EndsIn (askToEnd l reason signal v) m (Requests v reason s (k + 1)) := by
  obtain ⟨n, hn⟩ := Option.isSome_iff_exists.1 (h.beside.isService v ▸ hv)
  obtain ⟨d, hd, hkind⟩ := node_of_service hn
  simp only [askToEnd, defaultTimeout, getNode, yields_bind, yields_get, hd, yields_pure, hkind]
  refine requests_shutdownNode hv hsignal h fun f => ?_
  refine Keeps.ite .pure ?_
  exact Keeps.bind keeps_getNode fun _ => keeps_error

lemma requests_askServiceToEnd (l : Launcher) (hv : (s.core.service? v).isSome)
    (hservice : s.core.launcher.bind Launcher.service = some v)
    (hsignal : (signal == .int killSignal) = false) (h : Requests v reason s k m) :
    EndsIn (askServiceToEnd l reason signal) m (Requests v reason s (k + 1)) := by
  have hm : m.core.launcher.bind Launcher.service = some v := h.beside.service.trans hservice
  obtain ⟨l', hl', hlv⟩ : ∃ l', m.launcher = some l' ∧ l'.service = some v := by
    cases hl : m.launcher with
    | none => simp [Session.core, hl] at hm
    | some l' => exact ⟨l', rfl, by simpa [Session.core, hl] using hm⟩
  simp only [askServiceToEnd, getLauncher, yields_bind, yields_get, hl', yields_pure, hlv]
  exact requests_shutdownNode hv hsignal h fun f => keeps_error

lemma requests_askOthers (l : Launcher) (hs : Alone v s) {nodes : List Nat}
    (hnodes : v ∉ nodes) (h : Requests v reason s k m) :
    EndsIn ((nodes.map ShutdownStep.ask).forM (ShutdownStep.take l reason signal)) m
      (Requests v reason s k) := by
  induction nodes generalizing m with
  | nil => exact .pure h
  | cons i nodes ih =>
    rw [mem_cons, not_or] at hnodes
    have apart := apart_askToEnd l reason signal (hs.beside h.beside) (Ne.symm hnodes.1)
    refine apart.seq (fun _ t ht => ?_) fun _ _ ht => h.then_apart ht
    exact ih hnodes.2 (h.then_apart ht)

lemma requests_shutdownAll (hs : Alone v s) (hv : (s.core.service? v).isSome)
    (hservice : s.core.launcher.bind Launcher.service = some v)
    (hgroups : ∀ g ∈ s.core.groups, v ∉ g.nodes)
    (hsignal : (signal == .int killSignal) = false) :
    Yields (shutdownAll reason signal) s (fun _ t => Requests v reason s 2 t)
      (fun _ t => ∃ k ≤ 2, Requests v reason s k t) := by
  have few {k : Nat} (hk : k ≤ 2) {t : Session} (h : Requests v reason s k t) :
      ∃ k ≤ 2, Requests v reason s k t := ⟨k, hk, h⟩
  have calm {t : Session} (h : Calm s t) : Requests v reason s 0 t :=
    .none (Tolerant.calm _ _ h)
  refine keeps_getLauncher.followed (refl_of Calm s) (fun l m hm => ?_) fun _ _ h =>
    few (by omega) (calm h)
  refine keeps_announceShutdown.followed hm (fun _ m hm => ?_) fun _ _ h =>
    few (by omega) (calm h)
  refine (yields_allNodes (hm.core ▸ hservice) (hm.core ▸ hgroups)).seq ?_ ?_
  · rintro _ t ⟨ht, own, rfl, hown⟩
    have start : Requests v reason s 0 t := calm (trans_of Calm hm ht)
    have steps : shutdownSteps (own ++ [v]) =
        own.map .ask ++ [.ask v, .adapter, .service, .resolve, .callbacks] := by
      simp [shutdownSteps]
    rw [steps, forM_eq_forM, forM_append]
    refine (requests_askOthers l hs hown start).seq (fun _ u hu => ?_) fun _ _ h => few (by omega) h
    refine (requests_askToEnd l hv hsignal hu).seq (fun _ u hu => ?_) fun _ _ h => few (by omega) h
    have adapter : Keeps (Apart v) (ShutdownStep.adapter.take l reason signal) :=
      keeps_stopAdapter.catchFault fun _ => keeps_error
    refine (adapter u).seq (fun _ w hw => ?_) fun _ _ h =>
      few (by omega) (hu.then_apart h)
    refine (requests_askServiceToEnd l hv hservice hsignal (hu.then_apart hw)).seq (fun _ u hu =>
      ?_) fun _ _ h => few (by omega) h
    refine (keeps_settle_apart u).seq (fun _ w hw => ?_) fun _ _ h => few (by omega)
      (hu.then_apart h)
    refine (keeps_tellShutdown_apart w).seq (fun _ x hx => ?_) fun _ _ h => few (by omega)
      ((hu.then_apart hw).then_apart h)
    exact .pure ((hu.then_apart hw).then_apart hx)
  · exact fun _ _ h => few (by omega) (calm (trans_of Calm hm h))

lemma levelSignal_min (level : Nat) : levelSignal (min level 2) = levelSignal level := by
  match level with
  | 0 | 1 => rfl
  | level + 2 =>
    rw [Nat.min_eq_right (by omega)]
    rfl

end Launch

/-- The signals that were sent to groups of processes between two sessions. -/
def groupSent (s t : Session) : List (Int × Int) :=
  t.core.groupSignals.drop s.core.groupSignals.length

lemma groupSent_of_append {new : List (Int × Int)}
    (h : t.core.groupSignals = s.core.groupSignals ++ new) : groupSent s t = new := by
  rw [groupSent, h, drop_left]

namespace Requests

open Launch

variable {v : Nat} {n : ServiceNode} {pid : Int} {reason : Value} {s t : Session}

lemma exists_last {k : Nat} (h : Requests v reason s (k + 1) t) :
    ∃ m, Requests v reason s k m ∧ Asked v reason m t := by
  cases h with
  | more h hmu hask ht => exact ⟨_, h, hask.then_apart ht⟩

lemma once (h : Requests v reason s 1 t) : Asked v reason s t := by
  obtain ⟨m, hm, hask⟩ := h.exists_last
  cases hm with
  | none hm => exact hask.of_apart hm

lemma exists_sent {k : Nat} (h : Requests v reason s k t) (hk : k ≤ 2)
    (hn : s.core.service? v = some n) (hpid : n.process = .alive pid) :
    ∃ new, t.core.groupSignals = s.core.groupSignals ++ new ∧
      new.Sublist [(levelSignal n.level, pid), (levelSignal (n.level + 1), pid)] ∧
      (new.length ≤ 1 ∨ s.core.survives (levelSignal n.level)) := by
  have first : [(levelSignal n.level, pid)].Sublist
      [(levelSignal n.level, pid), (levelSignal (n.level + 1), pid)] :=
    singleton_sublist.2 mem_cons_self
  match k, hk, h with
  | 0, _, .none h => exact ⟨[], by rw [h.groupSignals, append_nil], by simp, .inl (by simp)⟩
  | 1, _, h =>
    obtain ⟨m, -, ⟨hgroup, -⟩ | ⟨hgroup, -⟩⟩ := h.once.outcome hn hpid
    · exact ⟨[], by rw [hgroup, append_nil], by simp, .inl (by simp)⟩
    · exact ⟨_, hgroup, first, .inl (by simp)⟩
  | 2, _, h =>
    obtain ⟨u, hu, hask⟩ := h.exists_last
    obtain ⟨m, hm, ⟨hgroup, hprocess, hlevel, -⟩ | ⟨hgroup, hlevel, hprocess⟩⟩ :=
      hu.once.outcome hn hpid
    · -- The first request has sent nothing.
      rcases hask.sent hm with hsent | ⟨q, hq, hsent⟩
      · exact ⟨[], by rw [hsent, hgroup, append_nil], by simp, .inl (by simp)⟩
      · obtain rfl := hprocess q hq
        refine ⟨_, by rw [hsent, hgroup], singleton_sublist.2 ?_, .inl (by simp)⟩
        rcases hlevel with hlevel | hlevel
        · simp [hlevel]
        · simp [hlevel, levelSignal_min]
    · rcases hask.sent hm with hsent | ⟨q, hq, hsent⟩
      · exact ⟨_, hsent.trans hgroup, first, .inl (by simp)⟩
      · -- There is a second signal only if the process is still there.
        rw [hprocess] at hq
        split at hq
        · next hsurvives =>
          obtain rfl := ServiceProcess.alive.inj hq
          refine ⟨_, by rw [hsent, hgroup, append_assoc], ?_, .inr hsurvives⟩
          rw [hlevel, levelSignal_min]
          exact List.Sublist.refl _
        · cases hq

lemma sent_twice {why : String} (h : Requests v (.str why) s 2 t)
    (hn : s.core.service? v = some n) (hpid : n.process = .alive pid) (hs : s.Attentive v why) :
    t.core.groupSignals = s.core.groupSignals ++
      if s.core.survives (levelSignal n.level) then
        [(levelSignal n.level, pid), (levelSignal (n.level + 1), pid)]
      else [(levelSignal n.level, pid)] := by
  obtain ⟨u, hu, hask⟩ := h.exists_last
  obtain ⟨m, hm, hgroup, hlevel, hprocess⟩ := hu.once.signalled hn hpid hs
  split
  · next hsurvives =>
    rw [if_pos hsurvives] at hprocess
    obtain ⟨-, -, hsent, -⟩ := hask.signalled hm hprocess (hu.beside.attentive hs)
    rw [hsent, hgroup, hlevel, levelSignal_min, append_assoc]
    rfl
  · next hsurvives =>
    rw [if_neg hsurvives] at hprocess
    rcases hask.sent hm with hsent | ⟨q, hq, -⟩
    · rw [hsent, hgroup]
    · rw [hprocess] at hq
      cases hq

end Requests

/-- The launch service as it is made: there is no other one, and it is known to the launcher alone,
neither to a group nor to another node. -/
structure Serves (v : Nat) (s : Session) : Prop extends Alone v s where
  service : s.core.launcher.bind Launcher.service = some v
  groups : ∀ g ∈ s.core.groups, v ∉ g.nodes

open Launch in
/-- The end of a launch sends the next signal to the launch service, and the one after it if the
service is still there. Only a service that survives the first one gets two; and it does get two,
unless a message cannot be logged or signals do not get through. -/
theorem service_signals_of_shutdownAll {s : Session} {v : Nat} {n : ServiceNode} {pid : Int}
    (reason : Value) {signal : Value} (hs : Serves v s) (hn : s.core.service? v = some n)
    (hpid : n.process = .alive pid) (hsignal : (signal == .int killSignal) = false) :
    let sent := groupSent s ((shutdownAll reason signal).after s)
    sent.Sublist [(levelSignal n.level, pid), (levelSignal (n.level + 1), pid)] ∧
      (sent.length ≤ 1 ∨ s.core.survives (levelSignal n.level)) ∧
      ∀ why, reason = .str why → s.Attentive v why → (shutdownAll reason signal).returns s →
        sent = if s.core.survives (levelSignal n.level) then
            [(levelSignal n.level, pid), (levelSignal (n.level + 1), pid)]
          else [(levelSignal n.level, pid)] := by
  intro sent
  have requests : Yields (shutdownAll reason signal) s _ _ :=
    requests_shutdownAll hs.toAlone (by rw [hn]; rfl) hs.service hs.groups hsignal
  obtain ⟨k, hk, few⟩ := (requests.imp (fun _ _ h => ⟨2, Nat.le_refl 2, h⟩) fun _ _ h => h).after
  obtain ⟨new, hnew, hsub, hone⟩ := few.exists_sent hk hn hpid
  obtain rfl : sent = new := groupSent_of_append hnew
  refine ⟨hsub, hone, ?_⟩
  rintro why rfl hattentive hreturns
  have two := yields_run_ok requests (run_eq_of_returns hreturns)
  exact groupSent_of_append (two.sent_twice hn hpid hattentive)

def ServiceNode.started : ServiceNode :=
  { args := .null, process := .alive 1000 }

def Session.served (ignores : List Int) : Session :=
  let n : Node :=
    { id := 0, package := .str "ros2/launch", executable := .str "launch_service.py",
      name := "LaunchService", ns := "/", remaps := .map [], params := .map [],
      logger := "/LaunchService", kind := .service .started }
  { launcher := some { Launcher.plain with service := some 0 },
    groups := #[{ parent := none, ns := "/" }], promises := #[{}], nodes := #[n],
    world := { serviceIgnores := ignores, nextPid := 1001 } }

lemma Session.serves_served (ignores : List Int) : Serves 0 (served ignores) where
  only i h := by
    cases i with
    | zero => rfl
    | succ i => simp [Session.Core.service?, Session.core, served] at h
  bare i h := by
    cases i <;> simp [Session.Core.wrapped?, Session.core, served, NodeKind.wrapped?] at h
  service := rfl
  groups g h := by
    obtain rfl : g = { parent := none, ns := "/" } := by simpa [Session.core, served] using h
    simp

lemma Session.attentive_served (ignores : List Int) (why : String) :
    (served ignores).Attentive 0 why := by
  refine ⟨rfl, fun name logger _ level => ?_⟩
  exact Log.Registry.accepts_of_handlersOf (r := {}) rfl (Nat.zero_le 1) _

lemma Session.service?_served (ignores : List Int) :
    (served ignores).core.service? 0 = some .started := by
  simp [Session.Core.service?, Session.core, served, NodeKind.service?]

open Launch in
/-- A launch service that heeds the interrupt gets no other signal; one that ignores it is told to
terminate by the same end of a launch. -/
theorem service_signals_of_first_shutdownAll :
    let x := shutdownAll (.str "bye") (.int 15)
    (x.returns (.served []) ∧ groupSent (.served []) (x.after (.served [])) = [(2, 1000)]) ∧
      x.returns (.served [2]) ∧
        groupSent (.served [2]) (x.after (.served [2])) = [(2, 1000), (15, 1000)] := by
  intro x
  have hsignal : (Value.int 15 == .int killSignal) = false := by decide +kernel
  have signals (ignores : List Int) := service_signals_of_shutdownAll (.str "bye")
    (Session.serves_served ignores) (Session.service?_served ignores) rfl hsignal
  have heeded : x.returns (.served []) := by decide +kernel
  have ignored : x.returns (.served [2]) := by decide +kernel
  refine ⟨⟨heeded, ?_⟩, ignored, ?_⟩
  · exact (signals []).2.2 "bye" rfl (Session.attentive_served [] "bye") heeded
  · exact (signals [2]).2.2 "bye" rfl (Session.attentive_served [2] "bye") ignored

open Launch in
/-- One end of a launch sends two signals to a launch service that ignores the interrupt. -/
theorem two_signals_of_shutdownAll :
    groupSent (.served [2]) ((shutdownAll (.str "bye") (.int 15)).after (.served [2])) =
      [(interruptSignal, 1000), (Script.termSignal, 1000)] := by
  decide +kernel

end Launchpad
