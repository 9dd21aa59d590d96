import Launchpad.Proofs.Supervision.Escalation

/-!
A launch service that is started again. Requests to end are counted over all of its processes: what a
request sends to the present process depends on the requests to former ones too, so that a process
which was just started may be told to terminate, or be killed, by the first request.
-/

namespace Launchpad

def Session.serving? (s : Session) (v : Nat) : Option Int :=
  (s.core.service? v).bind fun n => match n.process with
    | .alive pid => some pid
    | _ => none

variable {s t : Session} {v : Nat} {n : ServiceNode}

lemma Session.serving?_eq_some {pid : Int} (hn : s.core.service? v = some n) :
    s.serving? v = some pid ↔ n.process = .alive pid := by
  rw [serving?, hn, Option.bind_some]
  cases n.process <;> simp

lemma Session.serving?_eq_none (hn : s.core.service? v = some n) (h : s.serving? v = none)
    (pid : Int) :
    n.process ≠ .alive pid := fun hpid => by
  rw [(serving?_eq_some hn).2 hpid] at h
  cases h

structure Unasked (v : Nat) (s t : Session) : Prop where
  groupSignals : t.core.groupSignals = s.core.groupSignals
  level : ∀ n, s.core.service? v = some n → ∃ m, t.core.service? v = some m ∧ m.level = n.level

lemma Apart.unasked (h : Apart v s t) : Unasked v s t :=
  ⟨h.groupSignals, fun n hn => ⟨n, h.node.trans hn, rfl⟩⟩

instance (v : Nat) : Patient (Unasked v) where
  refl s := (refl_of (Apart v) s).unasked
  trans s t u h h' := by
    refine ⟨h'.groupSignals.trans h.groupSignals, fun n hn => ?_⟩
    obtain ⟨m, hm, hlevel⟩ := h.level n hn
    obtain ⟨k, hk, hlevel'⟩ := h'.level m hm
    exact ⟨k, hk, hlevel'.trans hlevel⟩
  calm s t h := (Tolerant.calm (R := Apart v) s t h).unasked
  aged s t h := h.apart.unasked

lemma Unasked.groupSent_eq (h : Unasked v s t) : groupSent s t = [] :=
  groupSent_of_append (h.groupSignals.trans (List.append_nil _).symm)

namespace Launch

variable {v : Nat} {n : ServiceNode} {s : Session}
variable {reason signal timeout : Value}

lemma unasked_modifyService (v : Nat) {f : ServiceNode → ServiceNode}
    (hf : ∀ n, (f n).level = n.level) : Keeps (Unasked v) (modifyService v f) := by
  refine keeps_modify fun s => ⟨rfl, fun n hn => ⟨f n, ?_, hf n⟩⟩
  have changed := yields_modifyService (E := fun _ _ => False) hn f
  exact ((yields_modify _).1 changed).2.1

lemma unasked_startService (v : Nat) : Keeps (Unasked v) (startService v) := by
  refine keeps_getNode.bind fun n => keeps_isRunning.bind fun _ => Keeps.ite ?_ ?_
  · exact keeps_warn.bind fun _ => .pure
  · refine keeps_getService.bind fun _ => keeps_plainReportOf.bind fun _ => ?_
    refine (keeps_emit rfl rfl).bind fun _ => keeps_get.bind fun _ => ?_
    refine Keeps.bind (keeps_modify fun _ => ⟨rfl, fun n hn => ⟨n, hn, rfl⟩⟩) fun _ => ?_
    refine Keeps.bind (unasked_modifyService v fun _ => rfl) fun _ => ?_
    exact keeps_modify fun _ => ⟨rfl, fun n hn => ⟨n, hn, rfl⟩⟩

lemma unasked_receiveRecords (v : Nat) (records : List (Option Log.Record)) :
    Keeps (Unasked v) (receiveRecords v records) := by
  induction records with
  | nil => exact keeps_isRunning.bind fun _ => .pure
  | cons r rs ih =>
    refine keeps_isRunning.bind fun _ => Keeps.ite ?_ .pure
    refine Keeps.bind (unasked_modifyService v fun _ => rfl) fun _ => ?_
    refine keeps_getNode.bind fun d => ?_
    cases r with
    | none => exact keeps_error.bind fun _ => ih
    | some record =>
      refine Keeps.bind (Keeps.catchFault (fun s => ?_) fun _ => keeps_error) fun _ => ih
      refine .of_bind (.get (.of_bind (.set ?_)))
      refine Keeps.then ?_ ⟨rfl, fun n hn => ⟨n, hn, rfl⟩⟩
      exact (Keeps.forM _ fun _ _ => keeps_writeTo).bind fun _ => keeps_lift

lemma unasked_watchService (v : Nat) : Keeps (Unasked v) (watchService v) := by
  refine keeps_getService.bind fun _ => (unasked_receiveRecords v _).bind fun _ => ?_
  refine keeps_getService.bind fun n => ?_
  cases n.process with
  | none => exact keeps_silent
  | _ => exact unasked_modifyService v fun _ => rfl

lemma unasked_endService (v : Nat) (pid : Int) : Keeps (Unasked v) (endService v pid) :=
  unasked_modifyService v fun _ => rfl

lemma unasked_joinServiceProcess (v : Nat) (timeout : Value) :
    Keeps (Unasked v) (joinServiceProcess v timeout) := by
  refine keeps_getService.bind fun n => ?_
  cases n.process with
  | none => exact keeps_silent
  | closed => exact keeps_silent
  | ended pid => exact .pure
  | alive pid =>
    cases timeout with
    | null => exact unasked_endService v pid
    | _ => exact keeps_pause

lemma shutdownNode_service (hn : s.core.service? v = some n) {Q : Session → Prop}
    (h : EndsIn (shutdownService v reason signal timeout) s Q) :
    Q ((shutdownNode v reason signal timeout).after s) := by
  obtain ⟨d, hd, hkind⟩ := node_of_service hn
  refine Yields.after ?_
  simp only [shutdownNode, shutdownWith, getNode, yields_bind, yields_get, hd, yields_pure, hkind]
  exact h

lemma asked_of_serving {pid : Int} (hn : s.core.service? v = some n)
    (hpid : n.process = .alive pid) (hs : s.core.hears)
    (hsignal : (signal == .int killSignal) = false) :
    ∃ m, Launchpad.Asked v reason s m ∧ Raised v n m ∧
      Unasked v m ((shutdownNode v reason signal timeout).after s) := by
  refine shutdownNode_service (Q := fun t => ∃ m, Launchpad.Asked v reason s m ∧ Raised v n m ∧
    Unasked v m t) hn ?_
  have asked : Yields (shutdownService v reason signal timeout) s _ _ :=
    asked_shutdownService_of (R := Unasked v) hn hsignal (refl_of (Unasked v)) fun m _ =>
      Keeps.ite .pure (unasked_joinServiceProcess v timeout) m
  exact asked.imp (fun _ t ⟨m, hm, ht⟩ => ⟨m, hm.1, hm.2 pid hpid hs, ht⟩)
    fun _ t ⟨m, hm, ht⟩ => ⟨m, hm.1, hm.2 pid hpid hs, ht⟩

lemma unasked_of_idle (hn : s.core.service? v = some n) (hidle : ∀ pid, n.process ≠ .alive pid) :
    Unasked v s ((shutdownNode v reason signal timeout).after s) := by
  refine shutdownNode_service hn ?_
  have calm {t : Session} (h : Calm s t) : Unasked v s t := Tolerant.calm _ _ h
  refine (yields_awaitTermination hn).seq (fun _ m hm => ?_) fun _ _ ht => calm ht.1
  have hnm : m.core.service? v = some n := by rw [hm.core, hn]
  refine (yields_isRunning_service hnm).seq ?_ ?_
  · rintro b m ⟨rfl, hb⟩
    have hfalse : b.truthy = false :=
      Bool.eq_false_iff.2 fun h => (hb.1 h).elim hidle
    rw [hfalse]
    exact .pure (calm hm)
  · rintro _ _ ⟨rfl, -⟩
    exact calm hm

/-- What a request does after it has seen that the process is alive, if the process dies then. -/
def missedRequest (v : Nat) (pid : Int) (reason : Value) : Launch Unit := do
  endService v pid
  let d ← getNode v
  let why ← display reason
  catchFault (requestEnd v d why false) fun _ => pure ()

lemma raised_missedRequest (hn : s.core.service? v = some n) (pid : Int) (reason : Value) :
    let t := (missedRequest v pid reason).after s
    Raised v n t ∧ t.core.groupSignals = s.core.groupSignals := by
  refine Yields.after (P := fun t => Raised v n t ∧ t.core.groupSignals = s.core.groupSignals) ?_
  refine (yields_modifyService hn _).bind ?_
  rintro _ u ⟨-, hnu, hgroup⟩
  obtain ⟨d, hd, -⟩ := node_of_service hnu
  simp only [getNode, yields_bind, yields_get, hd, yields_pure]
  refine (yields_display reason u).map ?_
  rintro why u ⟨rfl, hreason⟩
  have raised {t : Session}
      (ht : Launchpad.Asked v reason u t ∧ Raised v { n with process := .ended pid } t) :
      Raised v n t ∧ t.core.groupSignals = s.core.groupSignals := by
    refine ⟨ht.2, ?_⟩
    rcases ht.1.sent hnu with hsent | ⟨_, halive, -⟩
    · exact hsent.trans hgroup
    · cases halive
  exact ((asked_requestEnd hnu hd hreason).imp (fun _ _ ht => raised ht) fun _ _ ht =>
    raised ht).catchFault (fun _ _ ht => .pure ht) fun _ _ ht => ht

end Launch

open Launch in
/-- The life of a launch service: so many requests were made while former processes were alive, and so
many while the present one was. -/
inductive Tended (v : Nat) (s₀ : Session) : Nat → Nat → Session → Prop where
  | made : Tended v s₀ 0 0 s₀
  | start {former own : Nat} {s : Session} (h : Tended v s₀ former own s)
      (hidle : s.serving? v = none) : Tended v s₀ (former + own) 0 ((startService v).after s)
  | warn {former own : Nat} {s : Session} {pid : Int} (h : Tended v s₀ former own s)
      (hpid : s.serving? v = some pid) : Tended v s₀ former own ((startService v).after s)
  | watch {former own : Nat} {s : Session} (h : Tended v s₀ former own s) :
      Tended v s₀ former own ((watchService v).after s)
  | die {former own : Nat} {s : Session} {pid : Int} (h : Tended v s₀ former own s)
      (hpid : s.serving? v = some pid) : Tended v s₀ former own ((endService v pid).after s)
  | request {former own : Nat} {s : Session} {pid : Int} (h : Tended v s₀ former own s)
      (hpid : s.serving? v = some pid) (hs : s.core.hears) (reason timeout : Value) {signal : Value}
      (hsignal : (signal == .int killSignal) = false) :
      Tended v s₀ former (own + 1) ((shutdownNode v reason signal timeout).after s)
  | miss {former own : Nat} {s : Session} {pid : Int} (h : Tended v s₀ former own s)
      (hpid : s.serving? v = some pid) (reason : Value) :
      Tended v s₀ former (own + 1) ((missedRequest v pid reason).after s)
  | ignore {former own : Nat} {s : Session} (h : Tended v s₀ former own s)
      (hidle : s.serving? v = none) (reason signal timeout : Value) :
      Tended v s₀ former own ((shutdownNode v reason signal timeout).after s)
  | elsewhere {former own : Nat} {s t : Session} (h : Tended v s₀ former own s)
      (ht : t.core.service? v = s.core.service? v) : Tended v s₀ former own t

namespace Tended

open Launch

variable {v former own : Nat} {s₀ s : Session}

lemma level {n₀ : ServiceNode} (h : Tended v s₀ former own s)
    (hn₀ : s₀.core.service? v = some n₀) (hfresh : n₀.level = 0) :
    ∃ n, s.core.service? v = some n ∧ n.level = min (former + own) 2 := by
  have raised {n : ServiceNode} {k : Nat} {t : Session} (hlevel : n.level = min k 2)
      (ht : Raised v n t) : ∃ m, t.core.service? v = some m ∧ m.level = min (k + 1) 2 := by
    obtain ⟨m, hm, hm'⟩ := ht
    exact ⟨m, hm, by omega⟩
  have unasked {n : ServiceNode} {k : Nat} {s t : Session} (hn : s.core.service? v = some n)
      (hlevel : n.level = min k 2) (ht : Unasked v s t) :
      ∃ m, t.core.service? v = some m ∧ m.level = min k 2 := by
    obtain ⟨m, hm, hm'⟩ := ht.level n hn
    exact ⟨m, hm, hm'.trans hlevel⟩
  induction h with
  | made => exact ⟨n₀, hn₀, hfresh⟩
  | start h hidle ih =>
    obtain ⟨n, hn, hlevel⟩ := ih
    exact unasked hn hlevel ((unasked_startService v).after _)
  | warn h hpid ih =>
    obtain ⟨n, hn, hlevel⟩ := ih
    exact unasked hn hlevel ((unasked_startService v).after _)
  | watch h ih =>
    obtain ⟨n, hn, hlevel⟩ := ih
    exact unasked hn hlevel ((unasked_watchService v).after _)
  | die h hpid ih =>
    obtain ⟨n, hn, hlevel⟩ := ih
    exact unasked hn hlevel ((unasked_endService v _).after _)
  | request h hpid hs reason timeout hsignal ih =>
    obtain ⟨n, hn, hlevel⟩ := ih
    obtain ⟨m, -, hm, ht⟩ :=
      asked_of_serving hn ((Session.serving?_eq_some hn).1 hpid) hs hsignal
    obtain ⟨k, hk, hlevel⟩ := raised hlevel hm
    exact unasked hk hlevel ht
  | miss h hpid reason ih =>
    obtain ⟨n, hn, hlevel⟩ := ih
    exact raised hlevel (raised_missedRequest hn _ reason).1
  | ignore h hidle reason signal timeout ih =>
    obtain ⟨n, hn, hlevel⟩ := ih
    exact unasked hn hlevel (unasked_of_idle hn (Session.serving?_eq_none hn hidle))
  | elsewhere h ht ih => rwa [ht]

end Tended

open Launch in
lemma levelSignal_eq (k : Nat) : levelSignal k = if k = 0 then 2 else if k = 1 then 15 else 9 := by
  rcases k with _ | _ | k <;> rfl

open Launch in
lemma levelSignal_add_eq_iff (former own : Nat) :
    levelSignal (former + own) = levelSignal own ↔ former = 0 ∨ 2 ≤ own := by
  grind [levelSignal_eq]

open Launch in
/-- What is sent to a launch service over its life, by the requests to end that are made while a
process of it is alive. They count over all processes: the first request interrupts a process only if
there was no request to a former one. -/
theorem request_signal_over_restarts {v former own : Nat} {s₀ s : Session} {n₀ : ServiceNode}
    (hn₀ : s₀.core.service? v = some n₀) (hfresh : n₀.level = 0) (h : Tended v s₀ former own s) :
    (∀ pid, s.serving? v = some pid → s.core.hears → ∀ reason signal timeout,
      (signal == .int killSignal) = false →
        let sent := groupSent s ((shutdownNode v reason signal timeout).after s)
        sent = [(levelSignal (former + own), pid)] ∨
          sent = [] ∧ ∀ why, reason = .str why → ¬ s.Attentive v why) ∧
    (levelSignal (former + own) = levelSignal own ↔ former = 0 ∨ 2 ≤ own) ∧
    (s.serving? v = none → ∀ reason signal timeout,
      groupSent s ((shutdownNode v reason signal timeout).after s) = []) ∧
    groupSent s ((startService v).after s) = [] ∧ groupSent s ((watchService v).after s) = [] ∧
    ∀ pid reason, groupSent s ((missedRequest v pid reason).after s) = [] := by
  obtain ⟨n, hn, hlevel⟩ := h.level hn₀ hfresh
  refine ⟨fun pid hpid hs reason signal timeout hsignal => ?_, levelSignal_add_eq_iff former own,
    fun hidle reason signal timeout => ?_, ((unasked_startService v).after s).groupSent_eq,
    ((unasked_watchService v).after s).groupSent_eq, fun pid reason => ?_⟩
  · have halive := (Session.serving?_eq_some hn).1 hpid
    obtain ⟨m, hask, -, ht⟩ := asked_of_serving hn halive hs hsignal
    have hsignal_eq : levelSignal n.level = levelSignal (former + own) := by
      rw [hlevel, levelSignal_min]
    cases hask with
    | held n' m' hn' hm hl hprocess hgroup hwhy =>
      obtain rfl : n = n' := Option.mem_unique hn hn'
      refine .inr ⟨groupSent_of_append ?_, fun why hreason => hwhy pid why halive hreason⟩
      rw [ht.groupSignals, hgroup, List.append_nil]
    | signals n' m' pid' hn' hpid' hm hl hprocess hgroup =>
      obtain rfl : n = n' := Option.mem_unique hn hn'
      obtain rfl : pid = pid' := ServiceProcess.alive.inj (halive.symm.trans hpid')
      refine .inl (groupSent_of_append ?_)
      rw [ht.groupSignals, hgroup, hsignal_eq]
  · exact (unasked_of_idle hn (Session.serving?_eq_none hn hidle)).groupSent_eq
  · exact groupSent_of_append
      ((raised_missedRequest hn pid reason).2.trans (List.append_nil _).symm)

def Session.restarted : Session :=
  let ended := (Launch.shutdownNode 0 (.str "bye") (.int 15) (.int 0)).after (.served [])
  (Launch.startService 0).after ended

open Launch in
theorem request_signal_over_restarts_second :
    Tended 0 (.served []) 1 0 .restarted ∧ Session.restarted.serving? 0 = some 1001 ∧
      groupSent .restarted ((shutdownNode 0 (.str "bye") (.int 15) .null).after .restarted) =
        [(15, 1001)] := by
  have hsignal : (Value.int 15 == .int killSignal) = false := by decide +kernel
  have hfirst : (Session.served []).serving? 0 = some 1000 := by decide +kernel
  have htended : Tended 0 (.served []) 1 0 .restarted :=
    .start (.request .made hfirst rfl (.str "bye") (.int 0) hsignal) (by decide +kernel)
  have hpid : Session.restarted.serving? 0 = some 1001 := by decide +kernel
  have hsent := (request_signal_over_restarts (Session.service?_served []) rfl htended).1 1001 hpid
    (by decide +kernel) (.str "bye") (.int 15) .null hsignal
  refine ⟨htended, hpid, hsent.resolve_right fun hnone => absurd hnone.1 ?_⟩
  decide +kernel

open Launch in
/-- The first request to a process that was started again tells it to terminate. -/
theorem restarted_not_interrupted :
    groupSent .restarted ((shutdownNode 0 (.str "bye") (.int 15) (.int 0)).after .restarted) =
      [(Script.termSignal, 1001)] := by
  decide +kernel

end Launchpad
