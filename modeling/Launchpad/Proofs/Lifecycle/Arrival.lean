import Launchpad.Proofs.Lifecycle.Runs
import Mathlib.Logic.Relation

/-!
A managed node beside what is known of it. The node keeps a state of its own: it makes a transition
that it is asked for if its state allows it, and tells of that by events, which arrive in order and
at any later time; and it may be restarted at any time. A stage that was asked for with success was
reached with the last request, if one was made. If none was made, only the state that was told last
speaks for it.
-/

namespace Launchpad

open List

open Script (Response)
open Lifecycle

namespace Lifecycle

/-- A managed node: its state, the events of it that are under way, the oldest one first, and
whether it was restarted since it last made a transition. -/
structure Plant where
  state : Int := unconfigured
  underway : List Int := []
  restarted : Bool := false
deriving DecidableEq, Repr

namespace Plant

variable {p q r : Plant} {t : Int} {ts es : List Int} {ok : Bool} {rs : List Response}

def restart (p : Plant) : Plant :=
  { p with state := unconfigured, restarted := true }

/-- What happens to a node that nobody asks for anything, with the events that arrive meanwhile. -/
inductive Drifts (p : Plant) : List Int → Plant → Prop where
  | refl : Drifts p [] p
  | restart {es : List Int} {q : Plant} (h : Drifts p es q) : Drifts p es q.restart
  | arrive {es : List Int} {q : Plant} (h : Drifts p es q) {e : Int} {rest : List Int}
      (hnext : q.underway = e :: rest) : Drifts p (es ++ [e]) { q with underway := rest }

/-- How a node answers a request. On the way to its new state it may tell of states that it only
passes through. -/
inductive Answers (p : Plant) (t : Int) : Bool → Plant → Prop where
  | makes {next : Int} (h : (t, next) ∈ transitions p.state) (passed : List Int) :
      Answers p t true { state := next, underway := p.underway ++ (passed ++ [next]) }
  | refuses (h : ∀ next, (t, next) ∉ transitions p.state) : Answers p t false p

/-- The node gives these answers to requests that come one after the other. Anything may happen to
it before and after each answer. -/
inductive Serves : Plant → List Int → List Response → Plant → Prop where
  | nil (p : Plant) (rs : List Response) : Serves p [] rs p
  | cons {p p₁ p₂ p₃ q : Plant} {before later : List Int} {t : Int} {ok : Bool} {ts : List Int}
      {r : Response} {rs : List Response} (hbefore : p.Drifts before p₁)
      (hanswer : p₁.Answers t ok p₂) (hlater : p₂.Drifts later p₃)
      (hevents : r.events = before ++ later) (hok : r.succeeds = ok) (hrest : Serves p₃ ts rs q) :
      Serves p (t :: ts) (r :: rs) q

/-- A state is in step with a node that was not restarted if the events under way lead from it to
the node's state. A restart is not told of. -/
structure InStep (p : Plant) (known : Int) : Prop where
  leads : p.restarted = false → p.underway.getLast?.getD known = p.state
  back : p.restarted = true → p.state = unconfigured

variable {known : Int}

lemma InStep.drift (h : p.InStep known) (hdrift : p.Drifts es q) :
    q.InStep (es.getLast?.getD known) := by
  induction hdrift with
  | refl => exact h
  | restart _ ih => exact ⟨fun hnot => Bool.noConfusion hnot, fun _ => rfl⟩
  | arrive _ hnext ih =>
    rw [List.getLast?_append, List.getLast?_singleton, Option.some_or, Option.getD_some]
    refine ⟨fun hnot => ?_, ih.back⟩
    have hleads := ih.leads hnot
    rw [hnext, List.getLast?_cons, Option.getD_some] at hleads
    exact hleads

lemma InStep.answer (h : p.InStep known) (hanswer : p.Answers t ok q) : q.InStep known := by
  cases hanswer with
  | makes hnext passed => exact ⟨fun _ => by simp, fun hback => Bool.noConfusion hback⟩
  | refuses _ => exact h

lemma Serves.length_le (h : p.Serves ts rs q) : ts.length ≤ rs.length := by
  induction h with
  | nil => exact Nat.zero_le _
  | cons _ _ _ _ _ _ ih => exact Nat.succ_le_succ ih

lemma InStep.serve {l : LifecycleState} (h : p.InStep l.state) (hserves : p.Serves ts rs q) :
    q.InStep (l.hear ((rs.take ts.length).flatMap Response.events)).state := by
  induction hserves generalizing l with
  | nil => exact h
  | @cons p p₁ p₂ p₃ q before later t ok ts r rs hbefore hanswer hlater hevents hok hrest ih =>
    have hthird : p₃.InStep (l.hear r.events).state := by
      have hfirst := h.drift hbefore
      rw [← LifecycleState.state_hear] at hfirst
      have hlast := (hfirst.answer hanswer).drift hlater
      rw [← LifecycleState.state_hear, ← LifecycleState.hear_append, ← hevents] at hlast
      exact hlast
    rw [length_cons, take_succ_cons, flatMap_cons, LifecycleState.hear_append]
    exact ih hthird

lemma Serves.last (h : p.Serves (ts ++ [t]) rs q) :
    ∃ (p₁ p₂ : Plant) (later : List Int) (r : Response), p₁.Answers t r.succeeds p₂ ∧
      p₂.Drifts later q ∧ rs[ts.length]? = some r := by
  induction ts generalizing p rs with
  | nil =>
    cases h with
    | cons hbefore hanswer hlater hevents hok hrest =>
      cases hrest
      exact ⟨_, _, _, _, hok ▸ hanswer, hlater, rfl⟩
  | cons t' ts ih =>
    cases h with
    | cons hbefore hanswer hlater hevents hok hrest => exact ih hrest

lemma Drifts.state_eq (h : p.Drifts es q) (hq : q.restarted = false) : q.state = p.state := by
  induction h with
  | refl => rfl
  | restart => cases hq
  | arrive _ _ ih => exact ih hq

end Plant

lemma next_eq_of_mem {t a b x y : Int} (hx : (t, x) ∈ transitions a)
    (hy : (t, y) ∈ transitions b) : x = y := by
  unfold transitions at hx hy
  grind [inactive, unconfigured, activeState, finalizedState, unknownState]

end Lifecycle

variable {path : List Int} {answers : List Response}

namespace Launch

variable {s : Session} {i : Nat} {name : String} {l : LifecycleState}

variable {made : Nat} {p q : Plant} {start goal : Int} {requests : List Int}

lemma toldBy_answerAt {rs : List Response} (h : made ≤ rs.length) :
    toldBy (answerAt rs) made = (rs.take made).flatMap Response.events := by
  induction made generalizing rs with
  | zero => rfl
  | succ made ih =>
    cases rs with
    | nil => exact absurd h (Nat.not_succ_le_zero made)
    | cons r rs =>
      have hmade : made ≤ rs.length := Nat.le_of_succ_le_succ h
      have hlater : toldBy (fun k => answerAt (r :: rs) (k + 1)) made =
          toldBy (answerAt rs) made := by
        refine flatMap_congr fun k hk => ?_
        have hk' : k < rs.length := Nat.lt_of_lt_of_le (mem_range.1 hk) hmade
        simp [answerAt, hk']
      rw [toldBy_succ, hlater, ih hmade]
      rfl

/-- One step of a session with a node that it follows: the node is restarted, an event arrives, or
the session asks for a stage and the node answers its requests. -/
inductive Advances (i : Nat) (name : String) : Session × Plant → Session × Plant → Prop where
  | restart (s : Session) (p : Plant) : Advances i name (s, p) (s, p.restart)
  | arrive (s : Session) {p : Plant} {e : Int} {rest : List Int} (hnext : p.underway = e :: rest) :
      Advances i name (s, p) (Turn.take i name s (.event e), { p with underway := rest })
  | bring (s : Session) {p q : Plant} (target : Target) {answers : List Response}
      {requests : List Int} (hserves : p.Serves requests answers q)
      (hcalls : (Turn.take i name s (.bring target answers)).calls =
        s.calls ++ requests.map (transitionCall name)) :
      Advances i name (s, p) (Turn.take i name s (.bring target answers), q)

/-- A session follows a node, and what it knows is in step with the node. -/
def Accompanies (i : Nat) (name : String) (s : Session) (p : Plant) : Prop :=
  ∃ l, s.Manages i name l ∧ p.InStep l.state

lemma accompanies_of_advances {t : Session} (h : Accompanies i name s p)
    (hstep : Advances i name (s, p) (t, q)) : Accompanies i name t q := by
  obtain ⟨l, hmanages, hin⟩ := h
  cases hstep with
  | restart => exact ⟨l, hmanages, hin.drift (.restart .refl)⟩
  | @arrive _ _ e rest hnext =>
    have hdrift : p.Drifts [e] { p with underway := rest } := .arrive .refl hnext
    exact ⟨.told e, (Turn.event e).manages hmanages, hin.drift hdrift⟩
  | @bring _ _ _ target answers requests hserves hcalls =>
    refine ⟨_, (Turn.bring target answers).manages hmanages, ?_⟩
    have hmade : (Turn.take i name s (.bring target answers)).calls.length - s.calls.length =
        requests.length := by
      rw [hcalls, length_append, length_map, Nat.add_sub_cancel_left]
    rw [Turn.reports, hmade, toldBy_answerAt hserves.length_le]
    exact hin.serve hserves

lemma accompanies_of_run {a b : Session × Plant} (h : Accompanies i name a.1 a.2)
    (hrun : Relation.ReflTransGen (Advances i name) a b) : Accompanies i name b.1 b.2 := by
  induction hrun with
  | refl => exact h
  | tail _ hstep ih => exact accompanies_of_advances ih hstep

lemma transitionCall_injective (name : String) : Function.Injective (transitionCall name) := by
  intro t u heq
  unfold transitionCall at heq
  simpa using heq

lemma exists_last (hwalk : Walk start path goal) (hpath : path ≠ []) :
    ∃ init t state, path = init ++ [t] ∧ (t, goal) ∈ transitions state := by
  cases hwalk with
  | nil => exact absurd rfl hpath
  | @snoc init state next _ hnext => exact ⟨init, next.1, state, rfl, hnext⟩

lemma Asked.made_eq {answers : Nat → Response} {ok : Bool} (h : Asked answers path made ok)
    (hall : ∀ k < path.length, (answers k).succeeds) : made = path.length := by
  refine Nat.le_antisymm h.le (Nat.le_of_not_lt fun hlt => ?_)
  have hmade : made < made := (h.lt_iff made hlt).2 fun j hj => hall j (by omega)
  exact Nat.lt_irrefl _ hmade

lemma exists_walk_of_true (h : s.Manages i name l) (target : Target) {t : Session}
    (htrue : (transition i target.value).run (answering name answers s) = .ok true t)
    (hcalls : t.calls = s.calls ++ requests.map (transitionCall name))
    (hthere : l.state ≠ stateOf target.stage) :
    Walk l.state requests (stateOf target.stage) ∧ requests ≠ [] ∧
      ∀ k < requests.length, (answerAt answers k).succeeds := by
  have h' := manages_answering h answers
  by_cases hreach : Reachable l.state (stateOf target.stage)
  · have hanswers : ∀ k, answerAt ((answering name answers s).world.answers
        (name ++ "/change_state")) k = answerAt answers k := by
      intro k
      rw [answers_answering]
    obtain ⟨path, made, ok, u, hshort, hpath, hasked, hrun, hcalls', -⟩ :=
      exists_walk h' target hanswers hthere hreach
    obtain ⟨rfl, rfl⟩ := EStateM.Result.ok.inj (htrue.symm.trans hrun)
    have hall := hasked.ok_iff.1 rfl
    have hsame : requests.map (transitionCall name) = path.map (transitionCall name) := by
      rw [hasked.made_eq hall, take_length] at hcalls'
      exact append_cancel_left (hcalls.symm.trans hcalls')
    obtain rfl : requests = path := map_injective_iff.2 (transitionCall_injective name) hsame
    exact ⟨hshort.walk, hpath, hall⟩
  · obtain ⟨text, hrun⟩ := run_stuck h' target hthere hreach
    cases htrue.symm.trans hrun

lemma exists_arrival (hserves : p.Serves requests answers q)
    (hwalk : Walk start requests goal) (hsome : requests ≠ [])
    (hall : ∀ k < requests.length, (answerAt answers k).succeeds) :
    ∃ (there : Plant) (later : List Int), there.state = goal ∧ there.restarted = false ∧
      there.Drifts later q := by
  obtain ⟨init, t, state, rfl, hgoal⟩ := exists_last hwalk hsome
  obtain ⟨p₁, p₂, later, r, hanswer, hlater, hr⟩ := hserves.last
  have hok : r.succeeds = true := by
    have := hall init.length (by simp)
    rw [answerAt, getD_eq_getElem?_getD, hr] at this
    exact this
  rw [hok] at hanswer
  cases hanswer with
  | makes hnext passed =>
    exact ⟨_, later, next_eq_of_mem hnext hgoal, rfl, hlater⟩

lemma accompanies_fresh (h : s.Manages i name {}) : Accompanies i name s {} :=
  ⟨{}, h, fun _ => rfl, fun _ => rfl⟩

/-- When a stage was asked for with success, the node has come to it with the last request, if
there was one; else the state that was told last is that of the stage. So the node is there at the
end if it was not restarted since its last transition and if, where nothing was requested, no event
was under way. -/
theorem node_there_of_transition {s₀ s t : Session} {p₀ p q : Plant}
    (hstart : Accompanies i name s₀ p₀)
    (hrun : Relation.ReflTransGen (Advances i name) (s₀, p₀) (s, p)) (target : Target)
    {answers : List Response} {requests : List Int} (hserves : p.Serves requests answers q)
    (htrue : (transition i target.value).run (answering name answers s) = .ok true t)
    (hcalls : t.calls = s.calls ++ requests.map (transitionCall name)) :
    (requests ≠ [] → ∃ (there : Plant) (later : List Int),
        there.state = Lifecycle.stateOf target.stage ∧ there.restarted = false ∧
          there.Drifts later q) ∧
      (requests = [] → q = p ∧
        ∃ l, s.Manages i name l ∧ l.state = Lifecycle.stateOf target.stage) ∧
      (q.restarted = false → (requests = [] → p.underway = []) →
        q.state = Lifecycle.stateOf target.stage) := by
  obtain ⟨l, hmanages, hin⟩ := accompanies_of_run hstart hrun
  by_cases hthere : l.state = stateOf target.stage
  · -- The stage is known to be reached: nothing is requested, and the node is not looked at.
    have hsame := run_there (manages_answering hmanages answers) target hthere
    obtain ⟨-, rfl⟩ := EStateM.Result.ok.inj (htrue.symm.trans hsame)
    have hnone : requests = [] := by
      have hnil : requests.map (transitionCall name) = [] :=
        append_cancel_left (hcalls.symm.trans (append_nil _).symm)
      exact map_eq_nil_iff.1 hnil
    subst hnone
    cases hserves
    refine ⟨fun hsome => absurd rfl hsome, fun _ => ⟨rfl, l, hmanages, hthere⟩, ?_⟩
    intro hnot hquiet
    have hleads := hin.leads hnot
    rw [hquiet rfl] at hleads
    exact hleads.symm.trans hthere
  · obtain ⟨hwalk, hsome, hall⟩ := exists_walk_of_true hmanages target htrue hcalls hthere
    obtain ⟨there, later, hstate, hfresh, hdrift⟩ := exists_arrival hserves hwalk hsome hall
    refine ⟨fun _ => ⟨there, later, hstate, hfresh, hdrift⟩, fun hnone => absurd hnone hsome, ?_⟩
    intro hnot _
    rw [hdrift.state_eq hnot, hstate]

lemma run_of_granted (h : s.Manages i name l) (target : Target)
    (hpath : findPath l.state (stateOf target.stage) = path) (hsome : path ≠ [])
    (hthere : l.state ≠ stateOf target.stage)
    (hall : ∀ k < path.length, (answerAt answers k).succeeds) :
    (transition i target.value).run (answering name answers s) =
        .ok true (Turn.take i name s (.bring target answers)) ∧
      (Turn.take i name s (.bring target answers)).calls =
        s.calls ++ path.map (transitionCall name) := by
  subst hpath
  have h' := manages_answering h answers
  have hfollow := yields_followPath (E := fun _ _ => False) h' target.value
    (findPath l.state (stateOf target.stage)) (answerAt answers) fun k => by
      rw [answers_answering]
  obtain ⟨ok, t, hrun, made, hasked, -, hcalls⟩ :=
    (transition_eq_followPath h' target hthere hsome hfollow).exists_ok
  obtain rfl : ok = true := hasked.ok_iff.2 hall
  rw [hasked.made_eq hall, take_length] at hcalls
  rw [Turn.take, after, hrun]
  exact ⟨rfl, hcalls⟩

def configuring : Target :=
  ⟨.int 1, .configured, rfl⟩

def activating : Target :=
  ⟨.ref (.stage .active), .active, rfl⟩

def configuredSession : Session :=
  Turn.take 0 followedNode.fullname followingSession (.bring configuring [{}])

lemma calls_configuredSession :
    configuredSession.calls =
      followingSession.calls ++ [1].map (transitionCall followedNode.fullname) := by
  refine (run_of_granted manages_followingSession configuring rfl (by decide) (by decide) ?_).2
  intro k hk
  obtain rfl : k = 0 := Nat.lt_one_iff.1 hk
  rfl

lemma manages_configuredSession : configuredSession.Manages 0 followedNode.fullname {} := by
  have hmanages := (Turn.bring configuring [{}]).manages manages_followingSession
  have hnothing : Turn.reports 0 followedNode.fullname followingSession
      (.bring configuring [{}]) = [] := by
    have hcalls := calls_configuredSession
    unfold configuredSession at hcalls
    rw [Turn.reports, hcalls]
    rfl
  rw [hnothing] at hmanages
  exact hmanages

def informedSession : Session :=
  Turn.take 0 followedNode.fullname configuredSession (.event Lifecycle.inactive)

lemma manages_informedSession : informedSession.Manages 0 followedNode.fullname (.told inactive) :=
  (Turn.event inactive).manages manages_configuredSession

lemma advances_configuring :
    Advances 0 followedNode.fullname (followingSession, {})
      (configuredSession, { state := inactive, underway := [inactive] }) := by
  refine .bring followingSession configuring ?_ calls_configuredSession
  have hmakes : Plant.Answers {} 1 true
      { state := inactive, underway := [inactive] } := .makes (by decide) []
  exact .cons .refl hmakes .refl rfl rfl (.nil _ _)

lemma run_informed :
    Relation.ReflTransGen (Advances 0 followedNode.fullname) (followingSession, {})
      (informedSession, { state := inactive }) :=
  (Relation.ReflTransGen.single advances_configuring).tail (.arrive configuredSession rfl)

/-- The node is asked to be active. The first of its two events arrives before the answer. -/
theorem node_there_when_active :
    (∃ t, (transition 0 activating.value).run
        (answering followedNode.fullname [{ events := [13] }] informedSession) = .ok true t ∧
      t.calls = informedSession.calls ++ [3].map (transitionCall followedNode.fullname)) ∧
    ∃ (there : Plant) (later : List Int), there.state = Lifecycle.activeState ∧
      there.restarted = false ∧ there.Drifts later
        { state := Lifecycle.activeState, underway := [Lifecycle.activeState] } := by
  have hsucceeds : ∀ k < [3].length, (answerAt [{ events := [13] }] k).succeeds := by
    intro k hk
    obtain rfl : k = 0 := Nat.lt_one_iff.1 hk
    rfl
  have hgranted := run_of_granted manages_informedSession activating rfl (by decide) (by decide)
    hsucceeds
  have hmakes : Plant.Answers { state := inactive } 3 true
      { state := activeState, underway := [13, activeState] } :=
    .makes (by decide) [13]
  have hserves : Plant.Serves { state := inactive } [3] [{ events := [13] }]
      { state := activeState, underway := [activeState] } :=
    .cons .refl hmakes (.arrive .refl rfl) rfl rfl (.nil _ _)
  refine ⟨⟨_, hgranted⟩, ?_⟩
  exact (node_there_of_transition (accompanies_fresh manages_followingSession) run_informed
    activating hserves hgranted.1 hgranted.2).1 (by decide)

/-- While the event of a transition is under way, the stage that was left counts as reached. The
stage before a restart counts as reached, too. -/
theorem stage_taken_for_reached :
    (∃ (s t : Session) (p : Plant), Relation.ReflTransGen (Advances 0 followedNode.fullname)
        (followingSession, {}) (s, p) ∧ p.restarted = false ∧
      (transition 0 (.int 0)).run (answering followedNode.fullname [] s) = .ok true t ∧
      t.calls = s.calls ∧ p.state ≠ Lifecycle.stateOf .pristine) ∧
    ∃ (s t : Session) (p : Plant), Relation.ReflTransGen (Advances 0 followedNode.fullname)
        (followingSession, {}) (s, p) ∧ p.underway = [] ∧
      (transition 0 (.int 1)).run (answering followedNode.fullname [] s) = .ok true t ∧
      t.calls = s.calls ∧ p.state ≠ Lifecycle.stateOf .configured := by
  constructor
  · have hthere := run_there (manages_answering manages_configuredSession [])
      ⟨.int 0, .pristine, rfl⟩ rfl
    exact ⟨_, _, _, .single advances_configuring, rfl, hthere, rfl, by decide⟩
  · have hthere := run_there (manages_answering manages_informedSession []) configuring rfl
    exact ⟨_, _, _, run_informed.tail (.restart _ _), rfl, hthere, rfl, by decide⟩

end Launch

end Launchpad
