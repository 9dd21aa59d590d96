import Launchpad.Proofs.Lifecycle.Manager

/-!
Runs of managed nodes. A run is made of events, which tell states, and of transitions that are asked
for, with any answers and with any events while they are answered. Along every run the stage of the
node agrees with the state that was told last, and every transition is served from there: nothing is
asked for if the node is where it should be or if no way leads there, and otherwise the transitions
of a shortest walk are, up to the first one that is refused.
-/

namespace Launchpad.Launch

open List

open Script (Response)
open Lifecycle

variable {answers : Nat → Response} {path : List Int} {made : Nat} {ok : Bool}

variable {s : Session} {i : Nat} {name : String} {l : LifecycleState}

/-- The requests of a path, and the events that come then. -/
def followThenHear (i : Nat) (name : String) (target : Value) (path events : List Int) :
    Launch Unit := do
  let _ ← followPath i target (.str (name ++ "/change_state")) path
  events.forM fun e => do
    let _ ← deliverState (name ++ "/transition_event") e

/-- How a node is brought to a stage from what is known of it. -/
structure Brings (s : Session) (i : Nat) (name : String) (l : LifecycleState) (target : Target)
    (answers : Nat → Response) : Prop where
  there : (∃ t, (transition i target.value).run s = .ok true t ∧ t.calls = s.calls) ↔
    l.state = Lifecycle.stateOf target.stage
  stuck : (∃ t text, (transition i target.value).run s = .error (.told .invalidValue text) t ∧
      t.calls = s.calls) ↔
    l.state ≠ Lifecycle.stateOf target.stage ∧
      ¬ Lifecycle.Reachable l.state (Lifecycle.stateOf target.stage)
  walks : l.state ≠ Lifecycle.stateOf target.stage →
    Lifecycle.Reachable l.state (Lifecycle.stateOf target.stage) →
    ∃ path made ok t, Lifecycle.Shortest l.state path (Lifecycle.stateOf target.stage) ∧
      Asked answers path made ok ∧ (transition i target.value).run s = .ok ok t ∧
      t.calls = s.calls ++ (path.take made).map (transitionCall name) ∧
      ∀ k ≤ made, ∀ events,
        (after (followThenHear i name target.value (path.take k) events) s).Manages i name
          (l.hear (toldBy answers k ++ events))

lemma Asked.take {made' : Nat} {ok' : Bool} (h : Asked answers path made ok) {k : Nat}
    (hk : k ≤ made) (h' : Asked answers (path.take k) made' ok') : made' = k := by
  have hlength : (path.take k).length = k :=
    length_take_of_le (Nat.le_trans hk h.le)
  refine Nat.le_antisymm (hlength ▸ h'.le) (Nat.le_of_not_lt fun hlt => ?_)
  -- The request behind the last one would have been made, too.
  have hmade : made' < made' := by
    refine (h'.lt_iff made' (by omega)).2 ?_
    exact (h.lt_iff made' (Nat.lt_of_lt_of_le hlt (Nat.le_trans hk h.le))).1 (by omega)
  exact Nat.lt_irrefl _ hmade

lemma manages_followThenHear (h : s.Manages i name l) (target : Value)
    (hanswers : ∀ k, answerAt (s.world.answers (name ++ "/change_state")) k = answers k)
    (hasked : Asked answers path made ok) {k : Nat} (hk : k ≤ made) (events : List Int) :
    (after (followThenHear i name target (path.take k) events) s).Manages i name
      (l.hear (toldBy answers k ++ events)) := by
  refine Yields.after (P := fun t => t.Manages i name (l.hear (toldBy answers k ++ events))) ?_
  refine (yields_followPath h target _ answers hanswers).bind ?_
  rintro ok' t ⟨made', hasked', ht, -⟩
  obtain rfl := hasked.take hk hasked'
  refine (yields_tellEach (fun s l e hs => ?_) ht events).map ?_
  · exact (yields_deliverState hs e).bind fun _ _ ht => .pure ht
  · rintro _ u ⟨hu, -⟩
    rw [LifecycleState.hear_append]
    exact hu

lemma Asked.pos (h : Asked answers path made ok) (hpath : path ≠ []) : 0 < made := by
  refine (h.lt_iff 0 (length_pos_iff.2 hpath)).2 fun j hj => ?_
  exact absurd hj (Nat.not_lt_zero j)

lemma run_stuck (h : s.Manages i name l) (target : Target)
    (hthere : l.state ≠ stateOf target.stage)
    (hreach : ¬ Reachable l.state (stateOf target.stage)) :
    ∃ text, (transition i target.value).run s = .error (.told .invalidValue text) s := by
  have hpath := (findPath_eq_nil_iff hthere).2 hreach
  obtain ⟨e, t, hrun, ⟨text, rfl⟩, rfl⟩ := (yields_transition_stuck h target hthere hpath).exists_error
  exact ⟨text, hrun⟩

lemma run_there (h : s.Manages i name l) (target : Target)
    (hthere : l.state = stateOf target.stage) :
    (transition i target.value).run s = .ok true s := by
  obtain ⟨ok, t, hrun, rfl, rfl⟩ :=
    (yields_transition_there (E := fun _ _ => False) h target hthere).exists_ok
  exact hrun

lemma calls_ne (hpath : path ≠ []) (hmade : 0 < made) (calls : List GraphCall) :
    calls ++ (path.take made).map (transitionCall name) ≠ calls := by
  intro heq
  have hnil := map_eq_nil_iff.1 (append_cancel_left (heq.trans (append_nil _).symm))
  rcases take_eq_nil_iff.1 hnil with hzero | hzero
  · omega
  · exact hpath hzero

section

variable (h : s.Manages i name l) (target : Target)
  (hanswers : ∀ k, answerAt (s.world.answers (name ++ "/change_state")) k = answers k)
include h hanswers

lemma exists_walk (hthere : l.state ≠ stateOf target.stage)
    (hreach : Reachable l.state (stateOf target.stage)) :
    ∃ path made ok t, Shortest l.state path (stateOf target.stage) ∧
      path ≠ [] ∧ Asked answers path made ok ∧ (transition i target.value).run s = .ok ok t ∧
      t.calls = s.calls ++ (path.take made).map (transitionCall name) ∧
      t.Manages i name (l.hear (toldBy answers made)) := by
  have hpath : findPath l.state (stateOf target.stage) ≠ [] :=
    fun hnil => (findPath_eq_nil_iff hthere).1 hnil hreach
  have hfollow := yields_followPath (E := fun _ _ => False) h target.value
    (findPath l.state (stateOf target.stage)) answers hanswers
  obtain ⟨ok, t, hrun, made, hasked, ht, hcalls⟩ :=
    (transition_eq_followPath h target hthere hpath hfollow).exists_ok
  exact ⟨_, made, ok, t, shortest_findPath hthere hreach, hpath, hasked, hrun, hcalls, ht⟩

lemma brings : Brings s i name l target answers where
  there := by
    constructor
    · rintro ⟨t, hrun, hcalls⟩
      by_contra hthere
      by_cases hreach : Reachable l.state (stateOf target.stage)
      · obtain ⟨path, made, ok, u, -, hpath, hasked, hrun', hcalls', -⟩ :=
          exists_walk h target hanswers hthere hreach
        obtain ⟨rfl, rfl⟩ := EStateM.Result.ok.inj (hrun.symm.trans hrun')
        exact calls_ne hpath (hasked.pos hpath) _ (hcalls'.symm.trans hcalls)
      · obtain ⟨text, hrun'⟩ := run_stuck h target hthere hreach
        cases hrun.symm.trans hrun'
    · intro hthere
      exact ⟨s, run_there h target hthere, rfl⟩
  stuck := by
    constructor
    · rintro ⟨t, text, hrun, -⟩
      have hthere : l.state ≠ stateOf target.stage := by
        intro hthere
        cases hrun.symm.trans (run_there h target hthere)
      refine ⟨hthere, fun hreach => ?_⟩
      obtain ⟨path, made, ok, u, -, -, -, hrun', -⟩ := exists_walk h target hanswers hthere hreach
      cases hrun.symm.trans hrun'
    · rintro ⟨hthere, hreach⟩
      obtain ⟨text, hrun⟩ := run_stuck h target hthere hreach
      exact ⟨s, text, hrun, rfl⟩
  walks := by
    intro hthere hreach
    obtain ⟨path, made, ok, t, hshort, -, hasked, hrun, hcalls, -⟩ :=
      exists_walk h target hanswers hthere hreach
    refine ⟨path, made, ok, t, hshort, hasked, hrun, hcalls, fun k hk events => ?_⟩
    exact manages_followThenHear h target.value hanswers hasked hk events

end

/-- One part of a run: a state is told, or a stage is asked for, with the answers of the service to
what is requested then. -/
inductive Turn where
  | event (state : Int)
  | bring (target : Target) (answers : List Response)

/-- The session with other answers of the service of a node. -/
def answering (name : String) (answers : List Response) (s : Session) : Session :=
  { s with world := { s.world with
    responses := (name ++ "/change_state", answers) :: s.world.responses } }

def Turn.take (i : Nat) (name : String) (s : Session) : Turn → Session
  | .event state => after (deliverState (name ++ "/transition_event") state) s
  | .bring target answers => after (transition i target.value) (answering name answers s)

/-- The states that are told along a turn: of the answers, those of the requests that were made. -/
def Turn.reports (i : Nat) (name : String) (s : Session) : Turn → List Int
  | .event state => [state]
  | .bring target answers =>
    toldBy (answerAt answers)
      ((Turn.take i name s (.bring target answers)).calls.length - s.calls.length)

def runTurns (i : Nat) (name : String) : List Turn → Session → Session
  | [], s => s
  | turn :: turns, s => runTurns i name turns (turn.take i name s)

def reports (i : Nat) (name : String) : List Turn → Session → List Int
  | [], _ => []
  | turn :: turns, s => turn.reports i name s ++ reports i name turns (turn.take i name s)

lemma manages_answering (h : s.Manages i name l) (answers : List Response) :
    (answering name answers s).Manages i name l :=
  h.of_eq rfl rfl h.log

lemma answers_answering (name : String) (answers : List Response) (s : Session) :
    (answering name answers s).world.answers (name ++ "/change_state") = answers := by
  simp [answering, World.answers]

lemma Turn.manages (h : s.Manages i name l) (turn : Turn) :
    (turn.take i name s).Manages i name (l.hear (turn.reports i name s)) := by
  cases turn with
  | event state =>
    refine Yields.after (P := fun t => t.Manages i name (.told state)) ?_
    exact (yields_deliverState h state).map fun _ _ ht => ht.1
  | bring target answers =>
    have h' := manages_answering h answers
    have hanswers : ∀ k, answerAt ((answering name answers s).world.answers
        (name ++ "/change_state")) k = answerAt answers k := by
      intro k
      rw [answers_answering]
    -- Without a walk the session stays as it is; a walk is told of by what it asked for.
    have unmoved : after (transition i target.value) (answering name answers s) =
        answering name answers s → (Turn.take i name s (.bring target answers)).Manages i name
          (l.hear (Turn.reports i name s (.bring target answers))) := by
      intro hafter
      have hreports : Turn.reports i name s (.bring target answers) = [] := by
        rw [Turn.reports, Turn.take, hafter]
        simp [answering, toldBy]
      rw [hreports, Turn.take, hafter]
      exact h'
    by_cases hthere : l.state = stateOf target.stage
    · exact unmoved (by rw [after, run_there h' target hthere])
    by_cases hreach : Reachable l.state (stateOf target.stage)
    · obtain ⟨path, made, ok, t, -, -, hasked, hrun, hcalls, ht⟩ :=
        exists_walk h' target hanswers hthere hreach
      have hafter : Turn.take i name s (.bring target answers) = t := by
        rw [Turn.take, after, hrun]
      have hmade : t.calls.length - s.calls.length = made := by
        rw [hcalls, length_append, length_map, length_take_of_le hasked.le]
        exact Nat.add_sub_cancel_left _ _
      rw [Turn.reports, hafter, hmade]
      exact ht
    · obtain ⟨text, hrun⟩ := run_stuck h' target hthere hreach
      exact unmoved (by rw [after, hrun])

lemma manages_runTurns (h : s.Manages i name l) (turns : List Turn) :
    (runTurns i name turns s).Manages i name (l.hear (reports i name turns s)) := by
  induction turns generalizing s l with
  | nil => exact h
  | cons turn turns ih =>
    rw [reports, LifecycleState.hear_append]
    exact ih (turn.manages h)

/-- Along every run the stage of a managed node agrees with the state that was told last, and from
there every transition is served. -/
theorem transitions_served_along_run (h : s.Manages i name l) (turns : List Turn) :
    ∃ l', (runTurns i name turns s).Manages i name l' ∧
      l'.state = (reports i name turns s).getLast?.getD l.state ∧
      (∀ g, l'.stage = some g ↔ Lifecycle.stateOf g = l'.state) ∧
      ∀ target answers, Brings (answering name answers (runTurns i name turns s)) i name l' target
        (answerAt answers) := by
  have hrun := manages_runTurns h turns
  refine ⟨_, hrun, l.state_hear _, hrun.stage_eq_some_iff, fun target answers => ?_⟩
  refine brings (manages_answering hrun answers) target fun k => ?_
  rw [answers_answering]

def followedNode : Node :=
  { id := 0, package := .null, executable := .null, name := "arm", ns := "/robot",
    remaps := .map [], params := .map [], logger := "/robot/arm", lifecycle := some {},
    kind := .bare }

def followingSession : Session :=
  { nodes := #[followedNode],
    subscribers := [(.str (followedNode.fullname ++ "/transition_event"), .lifecycle 0)] }

lemma manages_followingSession : followingSession.Manages 0 followedNode.fullname {} where
  node := ⟨followedNode, rfl, rfl, rfl⟩
  agrees := rfl
  follows := mem_singleton_self _
  followers := by
    intro e he _
    rw [mem_singleton.1 he]
    exact ⟨0, rfl⟩
  log := ⟨⟨Log.info, rfl⟩, by simp [followingSession]⟩

/-- A state that no stage has is told, then a way is asked for, which is refused on its second
step. -/
def refusedTurns : List Turn :=
  [.event 10, .event 1, .bring ⟨.int 2, .active, rfl⟩
    [{ events := [10, 2] }, { fields := [("success", .bool false)], events := [13] }]]

theorem transitions_served_after_refusal :
    ∃ l', (runTurns 0 followedNode.fullname refusedTurns followingSession).Manages 0
        followedNode.fullname l' ∧
      l'.state = (reports 0 followedNode.fullname refusedTurns followingSession).getLast?.getD
        Lifecycle.unconfigured ∧
      (∀ g, l'.stage = some g ↔ Lifecycle.stateOf g = l'.state) ∧
      ∀ target answers, Brings (answering followedNode.fullname answers
        (runTurns 0 followedNode.fullname refusedTurns followingSession)) 0 followedNode.fullname
        l' target (answerAt answers) :=
  transitions_served_along_run manages_followingSession refusedTurns

end Launchpad.Launch
