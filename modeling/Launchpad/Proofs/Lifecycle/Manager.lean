import Launchpad.Proofs.Lifecycle.Search
import Launchpad.Proofs.Log.Ordinary
import Launchpad.Proofs.Supervision.ServiceRequest

/-!
Managed nodes along whole runs: events tell states, in any order and also while a service is
called, and transitions are asked for in between. What is known of the stage of a node always agrees
with the state that was told last, so that an empty path means that there is no way.
-/

namespace Launchpad

open List Option

open Script (Response)
open Lifecycle

lemma Value.same_str (a b : String) : (Value.str a).same (.str b) = (a == b) := by
  rw [Value.same]

namespace Lifecycle

lemma stageOf?_eq_some_iff {state : Int} {g : Stage} :
    stageOf? state = some g ↔ stateOf g = state := by
  constructor
  · intro h
    exact of_decide_eq_true (List.find?_some (p := fun s => decide (stateOf s = state)) h)
  · rintro rfl
    cases g <;> rfl

end Lifecycle

/-- What is known of a node when a state was told. -/
def LifecycleState.told (state : Int) : LifecycleState :=
  { stage := Lifecycle.stageOf? state, state }

/-- What is known of a node after states were told one after the other. -/
def LifecycleState.hear (l : LifecycleState) (states : List Int) : LifecycleState :=
  states.foldl (fun _ state => .told state) l

lemma LifecycleState.hear_append (l : LifecycleState) (a b : List Int) :
    l.hear (a ++ b) = (l.hear a).hear b :=
  foldl_append

lemma LifecycleState.state_hear (l : LifecycleState) (states : List Int) :
    (l.hear states).state = states.getLast?.getD l.state := by
  induction states using List.reverseRecOn with
  | nil => rfl
  | append_singleton states state _ =>
    rw [hear_append, List.getLast?_append]
    rfl

def Script.Response.succeeds (r : Response) : Bool :=
  ((r.fields.reverse.lookup "success").getD (.bool true)).truthy

def World.answers (w : World) (topic : String) : List Response :=
  ((w.responses.find? fun e => topic == e.1).map Prod.snd).getD []

/-- The answers as a stream: the last one is given again and again. -/
def answerAt (rs : List Response) (k : Nat) : Response :=
  rs.getD k (rs.getLast?.getD {})

namespace Graph

lemma lookup_map_set (k j : String) (v : Value) (fs : Named) :
    (fs.map fun (k', v') => if k' == k then (k, v) else (k', v')).lookup j =
      if j == k then (fs.lookup j).map fun _ => v else fs.lookup j := by
  induction fs with
  | nil => simp
  | cons f fs ih =>
    obtain ⟨k', v'⟩ := f
    by_cases hj : j = k'
    · subst hj
      by_cases hk : j = k <;> simp [hk]
    · have hne : (j == k') = false := by simpa using hj
      have hskip (w : Value) : List.lookup j ((k', w) :: fs) = fs.lookup j := by
        rw [lookup_cons, hne]
      rw [hskip, ← ih]
      by_cases hk : k' = k
      · subst hk
        simp [lookup_cons, hne]
      · simp [hk, lookup_cons, hne]

lemma lookup_setField (fs : Named) (k j : String) (v : Value) :
    (setField fs k v).lookup j = if j == k then some v else fs.lookup j := by
  unfold setField
  split
  · next hk =>
    rw [lookup_map_set]
    split
    · next hj => rw [eq_of_beq hj, (eq_some_of_isSome hk), map_some]
    · rfl
  · next hk =>
    rw [lookup_append]
    by_cases hj : j = k
    · rw [hj, not_isSome_iff_eq_none.1 hk]
      simp
    · have hne : (j == k) = false := by simpa using hj
      simp [lookup_cons, hne]

lemma lookup_foldl_setField (given fs : Named) (j : String) :
    (given.foldl (fun fs (k, v) => setField fs k v) fs).lookup j =
      (given.reverse.lookup j).or (fs.lookup j) := by
  induction given generalizing fs with
  | nil => rfl
  | cons f given ih =>
    obtain ⟨k, v⟩ := f
    rw [foldl_cons, ih, lookup_setField, reverse_cons, lookup_append]
    by_cases hj : (j == k) = true
    · simp [lookup_cons, hj]
    · simp [lookup_cons, hj]

end Graph

lemma answerAt_left (r : Response) (rs : List Response) (k : Nat) :
    answerAt (if rs.isEmpty then [r] else rs) k = answerAt (r :: rs) (k + 1) := by
  cases rs with
  | nil => cases k <;> rfl
  | cons r' rs => rfl

lemma find?_map_key {key : String} (left : List Response) (es : List (String × List Response)) :
    ((es.map fun (k, v) => if k == key then (k, left) else (k, v)).find? fun e => key == e.1) =
      (es.find? fun e => key == e.1).map fun _ => (key, left) := by
  induction es with
  | nil => rfl
  | cons e es ih =>
    obtain ⟨k, v⟩ := e
    rw [map_cons, List.find?_cons, List.find?_cons]
    by_cases hk : key = k
    · subst hk
      simp only [beq_self_eq_true, if_true, map_some]
    · have hkey : (key == k) = false := beq_eq_false_iff_ne.2 hk
      have hkey' : (k == key) = false := beq_eq_false_iff_ne.2 fun heq => hk heq.symm
      simp only [hkey, hkey', Bool.false_eq_true, if_false]
      exact ih

namespace Session

/-- A node whose state is followed, with what is known of it. Only followers hear its events. -/
structure Manages (s : Session) (i : Nat) (name : String) (l : LifecycleState) : Prop where
  node : ∃ n, s.nodes[i]? = some n ∧ n.fullname = name ∧ n.lifecycle = some l
  agrees : l.stage = Lifecycle.stageOf? l.state
  follows : (.str (name ++ "/transition_event"), .lifecycle i) ∈ s.subscribers
  followers : ∀ e ∈ s.subscribers, e.1.same (.str (name ++ "/transition_event")) →
    ∃ j, e.2 = .lifecycle j
  log : s.log.Ordinary

variable {s t : Session} {i : Nat} {name : String} {l : LifecycleState}

lemma Manages.of_eq (h : s.Manages i name l) (hnodes : t.nodes = s.nodes)
    (hsubscribers : t.subscribers = s.subscribers) (hlog : t.log.Ordinary) :
    t.Manages i name l where
  node := hnodes ▸ h.node
  agrees := h.agrees
  follows := hsubscribers ▸ h.follows
  followers := hsubscribers ▸ h.followers
  log := hlog

lemma Manages.stage_eq_some_iff (h : s.Manages i name l) (g : Stage) :
    l.stage = some g ↔ stateOf g = l.state := by
  rw [h.agrees]
  exact stageOf?_eq_some_iff

end Session

namespace Launch

variable {s : Session} {i : Nat} {name : String} {l : LifecycleState} {E : Post Stop}

lemma yields_setLifecycle (h : s.Manages i name l) (j : Nat) (state : Int) :
    Yields (setLifecycle j state) s (fun _ t =>
      t.Manages i name (if j = i then .told state else l) ∧ t.calls = s.calls ∧
        t.world = s.world) E := by
  refine .modify ⟨⟨?_, ?_, h.follows, h.followers, h.log⟩, rfl, rfl⟩
  · obtain ⟨n, hn, hname, hl⟩ := h.node
    by_cases hj : j = i
    · subst hj
      refine ⟨{ n with lifecycle := n.lifecycle.map fun _ => .told state }, ?_, hname, ?_⟩
      · rw [Array.getElem?_modify, if_pos rfl, hn]
        rfl
      · rw [if_pos rfl, hl]
        rfl
    · refine ⟨n, ?_, hname, ?_⟩
      · rw [Array.getElem?_modify, if_neg hj]
        exact hn
      · rw [if_neg hj]
        exact hl
  · split
    · rfl
    · exact h.agrees

lemma yields_tellFollowers (h : s.Manages i name l) (state : Int)
    (heard : List (Value × Subscriber)) (hheard : ∀ e ∈ heard, ∃ j, e.2 = .lifecycle j) :
    Yields (heard.forM fun (_, s) => match s with
      | .lifecycle n => setLifecycle n state
      | .callback f => do
        let s ← get
        let m : Message := ⟨"TransitionEvent", [("goal_state", .record [("id", .int state)])]⟩
        set { s with messages := s.messages.push m }
        let _ ← callValue f [.ref (.message s.messages.size)]) s (fun _ t =>
      ∃ l', t.Manages i name l' ∧ t.calls = s.calls ∧ t.world = s.world ∧
        (l' = l ∨ l' = .told state) ∧ ((∃ e ∈ heard, e.2 = .lifecycle i) → l' = .told state))
      E := by
  induction heard generalizing s l with
  | nil =>
    refine .pure ⟨l, h, rfl, rfl, .inl rfl, ?_⟩
    rintro ⟨e, he, -⟩
    exact absurd he not_mem_nil
  | cons e heard ih =>
    obtain ⟨topic, subscriber⟩ := e
    obtain ⟨j, rfl⟩ : ∃ j, subscriber = .lifecycle j := hheard _ mem_cons_self
    refine (yields_setLifecycle h j state).bind ?_
    rintro _ t ⟨ht, hcalls, hworld⟩
    refine (ih ht fun e he => hheard e (mem_cons_of_mem _ he)).map ?_
    rintro _ u ⟨l', hu, hcalls', hworld', hcases, htold⟩
    refine ⟨l', hu, hcalls'.trans hcalls, hworld'.trans hworld, ?_, ?_⟩
    · rcases hcases with rfl | rfl
      · by_cases hj : j = i
        · exact .inr (if_pos hj)
        · exact .inl (if_neg hj)
      · exact .inr rfl
    · rintro ⟨e, he, hfollows⟩
      rcases mem_cons.1 he with rfl | he
      · have hj : j = i := by
          cases hfollows
          rfl
        rcases hcases with rfl | rfl
        · exact if_pos hj
        · rfl
      · exact htold ⟨e, he, hfollows⟩

lemma yields_deliverState (h : s.Manages i name l) (state : Int) :
    Yields (deliverState (name ++ "/transition_event") state) s (fun _ t =>
      t.Manages i name (.told state) ∧ t.calls = s.calls ∧ t.world = s.world) E := by
  unfold deliverState
  refine .of_bind (.get ?_)
  have hheard : ∀ e ∈ s.subscribers.filter fun e => e.1.same (.str (name ++ "/transition_event")),
      ∃ j, e.2 = .lifecycle j := by
    intro e he
    obtain ⟨hmem, hsame⟩ := mem_filter.1 he
    exact h.followers e hmem hsame
  refine (yields_tellFollowers h state _ hheard).bind ?_
  rintro _ t ⟨l', ht, hcalls, hworld, -, htold⟩
  have hsame : (Value.str (name ++ "/transition_event")).same
      (.str (name ++ "/transition_event")) = true := by
    rw [Value.same_str, beq_self_eq_true]
  obtain rfl : l' = .told state := htold ⟨_, mem_filter.2 ⟨h.follows, hsame⟩, rfl⟩
  exact .pure ⟨ht, hcalls, hworld⟩

lemma stateTopic_change_state (name : String) :
    stateTopic (name ++ "/change_state") = name ++ "/transition_event" := by
  have hcut : Text.cutLast? (name ++ "/change_state") "/" = some (name, "change_state") := by
    have hreverse : (name ++ "/change_state").toList.reverse =
        "etats_egnahc/".toList ++ name.toList.reverse := by
      rw [String.toList_append, reverse_append]
      rfl
    rw [Text.cutLast?, hreverse]
    have hchars : Text.cutChars ("/".toList.reverse) ("etats_egnahc/".toList ++ name.toList.reverse)
        = some ("etats_egnahc".toList, name.toList.reverse) := rfl
    rw [hchars, map_some]
    dsimp only
    rw [reverse_reverse, String.ofList_toList]
    rfl
  rw [stateTopic, hcut]

lemma yields_tellEach {tell : Int → Launch PUnit}
    (htell : ∀ s l e, s.Manages i name l → Yields (tell e) s (fun _ t =>
      t.Manages i name (.told e) ∧ t.calls = s.calls ∧ t.world = s.world) E)
    (h : s.Manages i name l) (events : List Int) :
    Yields (events.forM tell) s (fun _ t =>
      t.Manages i name (l.hear events) ∧ t.calls = s.calls ∧ t.world = s.world) E := by
  induction events generalizing s l with
  | nil => exact .pure ⟨h, rfl, rfl⟩
  | cons e events ih =>
    refine (htell s l e h).bind ?_
    rintro _ t ⟨ht, hcalls, hworld⟩
    refine (ih ht).map ?_
    rintro _ u ⟨hu, hcalls', hworld'⟩
    exact ⟨hu, hcalls'.trans hcalls, hworld'.trans hworld⟩

lemma yields_tellBeside (h : s.Manages i name l) (events : List Int) :
    Yields (events.forM fun e => do
      let _ ← deliverState (stateTopic (← textOf (.str (name ++ "/change_state")))) e) s
      (fun _ t => t.Manages i name (l.hear events) ∧ t.calls = s.calls ∧ t.world = s.world)
      E := by
  refine yields_tellEach (fun s l e hs => ?_) h events
  refine .of_bind (.pure ?_)
  rw [stateTopic_change_state]
  exact (yields_deliverState hs e).bind fun _ _ ht => .pure ht

lemma yields_takeResponse (topic : String) (s : Session) :
    Yields (takeResponse (.str topic)) s (fun r t =>
      r = answerAt (s.world.answers topic) 0 ∧
      (∀ k, answerAt (t.world.answers topic) k = answerAt (s.world.answers topic) (k + 1)) ∧
      t = { s with world := { s.world with responses := t.world.responses } }) E := by
  refine .of_bind (.get ?_)
  simp only [Value.same_str]
  cases hfind : s.world.responses.find? fun e => topic == e.1 with
  | none =>
    have hnone : s.world.answers topic = [] := by rw [World.answers, hfind]; rfl
    refine .pure ⟨?_, fun k => ?_, rfl⟩
    · rw [hnone]
      rfl
    · rw [hnone]
      rfl
  | some e =>
    obtain ⟨key, rs⟩ := e
    have hkey := List.find?_some hfind
    obtain rfl : topic = key := eq_of_beq hkey
    have hsome : s.world.answers topic = rs := by rw [World.answers, hfind]; rfl
    cases rs with
    | nil =>
      refine .pure ⟨?_, fun k => ?_, rfl⟩
      · rw [hsome]
        rfl
      · rw [hsome]
        rfl
    | cons r rs =>
      refine .of_bind (.modify (.pure ⟨?_, fun k => ?_, rfl⟩))
      · rw [hsome]
        rfl
      · rw [hsome, ← answerAt_left]
        rw [World.answers, find?_map_key, hfind]
        rfl

def transitionCall (name : String) (t : Int) : GraphCall :=
  .called false (.str (name ++ "/change_state")) "lifecycle_msgs/srv/ChangeState"
    [("transition", .record [("id", .int t)])]

lemma form?_changeState :
    Graph.form? "lifecycle_msgs/srv/ChangeState" =
      some (.service [Graph.transitionField 0] [Graph.trueField "success"]) := by
  rfl

lemma truthy_success (r : Response) :
    (((r.fields.foldl (fun fs (k, v) => Graph.setField fs k v)
      [Graph.trueField "success"]).lookup "success").getD .null).truthy = r.succeeds := by
  rw [Graph.lookup_foldl_setField, Script.Response.succeeds]
  cases r.fields.reverse.lookup "success" <;> rfl

lemma yields_request (h : s.Manages i name l) (t : Int) :
    Yields (request false (.str (name ++ "/change_state")) "lifecycle_msgs/srv/ChangeState"
        [Graph.transitionField t]) s (fun a u =>
      let answers := answerAt (s.world.answers (name ++ "/change_state"))
      u.Manages i name (l.hear (answers 0).events) ∧
      u.calls = s.calls ++ [transitionCall name t] ∧
      (∀ k, answerAt (u.world.answers (name ++ "/change_state")) k = answers (k + 1)) ∧
      ((a.1.lookup "success").getD .null).truthy = (answers 0).succeeds) E := by
  refine .of_bind (.get (.of_bind (.modify ?_)))
  refine (yields_takeResponse _ _).bind ?_
  rintro r t ⟨rfl, hanswers, ht⟩
  have hmanages : t.Manages i name l := by
    rw [ht]
    exact h.of_eq rfl rfl h.log
  refine (yields_tellBeside hmanages _).bind ?_
  rintro _ u ⟨hu, hcalls, hworld⟩
  refine .pure ⟨hu, ?_, ?_, ?_⟩
  · rw [hcalls, ht]
    rfl
  · rw [hworld]
    exact hanswers
  · simp only [form?_changeState]
    exact truthy_success _

def toldBy (answers : Nat → Response) (made : Nat) : List Int :=
  (List.range made).flatMap fun k => (answers k).events

lemma toldBy_succ (answers : Nat → Response) (made : Nat) :
    toldBy answers (made + 1) = (answers 0).events ++ toldBy (fun k => answers (k + 1)) made := by
  rw [toldBy, range_succ_eq_map, flatMap_cons, flatMap_map]
  rfl

/-- Of the transitions of a path as many are asked for as come before or with the first one that is
refused. -/
structure Asked (answers : Nat → Response) (path : List Int) (made : Nat) (ok : Bool) : Prop where
  le : made ≤ path.length
  lt_iff : ∀ k < path.length, k < made ↔ ∀ j < k, (answers j).succeeds
  ok_iff : ok = true ↔ ∀ j < path.length, (answers j).succeeds

lemma asked_nil (answers : Nat → Response) : Asked answers [] 0 true where
  le := Nat.le_refl _
  lt_iff k hk := absurd hk (Nat.not_lt_zero k)
  ok_iff := by simp

lemma Asked.cons {answers : Nat → Response} {path : List Int} {made : Nat} {ok : Bool}
    (h : Asked (fun k => answers (k + 1)) path made ok) (hfirst : (answers 0).succeeds = true)
    (t : Int) : Asked answers (t :: path) (made + 1) ok where
  le := Nat.succ_le_succ h.le
  lt_iff k hk := by
    cases k with
    | zero => simp
    | succ k =>
      rw [Nat.add_lt_add_iff_right, h.lt_iff k (Nat.lt_of_succ_lt_succ hk), Nat.forall_lt_succ_left]
      exact (and_iff_right hfirst).symm
  ok_iff := by
    rw [h.ok_iff, length_cons, Nat.forall_lt_succ_left]
    exact (and_iff_right hfirst).symm

lemma asked_refused {answers : Nat → Response} (hfirst : (answers 0).succeeds = false) (t : Int)
    (path : List Int) : Asked answers (t :: path) 1 false where
  le := Nat.succ_le_succ (Nat.zero_le _)
  lt_iff k _ := by
    cases k with
    | zero => simp
    | succ k =>
      refine ⟨fun h => absurd h (by omega), fun h => ?_⟩
      rw [h 0 (Nat.succ_pos k)] at hfirst
      cases hfirst
  ok_iff := by
    constructor
    · intro h
      cases h
    · intro h
      rw [h 0 (Nat.succ_pos _)] at hfirst
      cases hfirst

lemma manages_of_error (h : s.Manages i name l) (logger : String) {msg : String}
    (hmsg : Log.StartsPlain msg) :
    Yields (error logger msg) s (fun _ t => t.Manages i name l ∧ t.calls = s.calls) E := by
  refine (yields_log_unmarked (R := Written) logger (by decide) hmsg h.log []).map ?_
  rintro _ _ ⟨_, _, _, hlog, rfl⟩
  exact ⟨h.of_eq rfl rfl (h.log.later hlog), rfl⟩

lemma yields_followPath (h : s.Manages i name l) (target : Value) (path : List Int)
    (answers : Nat → Response)
    (hanswers : ∀ k, answerAt (s.world.answers (name ++ "/change_state")) k = answers k) :
    Yields (followPath i target (.str (name ++ "/change_state")) path) s (fun ok t =>
      ∃ made, Asked answers path made ok ∧ t.Manages i name (l.hear (toldBy answers made)) ∧
        t.calls = s.calls ++ (path.take made).map (transitionCall name)) E := by
  induction path generalizing s l answers with
  | nil => exact .pure ⟨0, asked_nil answers, h, (append_nil _).symm⟩
  | cons t path ih =>
    unfold followPath
    refine (yields_request h t).bind ?_
    rintro ⟨answer, delay⟩ u ⟨hu, hcalls, hleft, hsuccess⟩
    rw [hanswers 0] at hu hsuccess
    simp only [hanswers] at hleft
    dsimp only at hsuccess ⊢
    rw [hsuccess]
    cases hfirst : (answers 0).succeeds with
    | true =>
      rw [if_pos rfl]
      refine (ih hu (fun k => answers (k + 1)) hleft).map ?_
      rintro ok v ⟨made, hmade, hv, hcalls'⟩
      refine ⟨made + 1, hmade.cons hfirst t, ?_, ?_⟩
      · rw [toldBy_succ, LifecycleState.hear_append]
        exact hv
      · rw [hcalls', hcalls, append_assoc]
        rfl
    | false =>
      rw [if_neg (by decide)]
      obtain ⟨n, hn, -⟩ := hu.node
      refine (yields_getNode hn).exactly ?_
      refine (yields_display target _).bind ?_
      rintro shown _ ⟨rfl, -⟩
      refine (manages_of_error hu _ ?_).bind ?_
      · iterate 6 refine Log.StartsPlain.append ?_ _
        exact ⟨'L', _, rfl, by decide⟩
      · rintro _ v ⟨hv, hcalls'⟩
        refine .pure ⟨1, asked_refused hfirst t path, ?_, ?_⟩
        · have htold : toldBy answers 1 = (answers 0).events :=
            (toldBy_succ answers 0).trans (append_nil _)
          rw [htold]
          exact hv
        · rw [hcalls', hcalls]
          rfl

/-- A value that stands for a stage: the stage itself, or its number. -/
structure Target where
  value : Value
  stage : Stage
  names : value.whole?.bind Stage.ofRank? = some stage

lemma Target.whole?_eq (target : Target) : target.value.whole? = some (target.stage.rank : Int) := by
  obtain ⟨n, hn, hstage⟩ := bind_eq_some_iff.1 target.names
  have hrank := List.find?_some hstage
  rw [hn, eq_of_beq hrank]

lemma rank_eq_stageRank_iff (g : Stage) (stage : Option Stage) :
    (g.rank : Int) = stageRank stage ↔ stage = some g := by
  cases stage with
  | none =>
    constructor
    · intro h
      simp only [stageRank] at h
      omega
    · intro h
      cases h
  | some h => cases g <;> cases h <;> decide

variable (h : s.Manages i name l)
include h

lemma yields_getLifecycle : Yields (getLifecycle i) s (fun l' t => l' = l ∧ t = s) E := by
  obtain ⟨n, hn, -, hl⟩ := h.node
  refine (yields_getNode hn).exactly ?_
  rw [hl]
  exact .pure ⟨rfl, rfl⟩

/-- The stage is compared where the states are meant: this rests on their agreement. -/
lemma names_current_iff (target : Target) :
    (target.value.whole? == some (stageRank l.stage)) = true ↔
      l.state = stateOf target.stage := by
  rw [target.whole?_eq, beq_iff_eq, some_inj, rank_eq_stageRank_iff,
    h.stage_eq_some_iff, eq_comm]

lemma yields_transition_there (target : Target)
    (hthere : l.state = stateOf target.stage) :
    Yields (transition i target.value) s (fun ok t => ok = true ∧ t = s) E := by
  refine (yields_getLifecycle h).exactly ?_
  rw [if_pos ((names_current_iff h target).2 hthere)]
  exact .pure ⟨rfl, rfl⟩

lemma yields_transition_stuck (target : Target)
    (hthere : l.state ≠ stateOf target.stage)
    (hpath : findPath l.state (stateOf target.stage) = []) :
    Yields (transition i target.value) s (fun _ _ => False)
      (fun e t => (∃ text, e = .told .invalidValue text) ∧ t = s) := by
  have hnot := fun heq => hthere ((names_current_iff h target).1 heq)
  refine (yields_getLifecycle h).exactly ?_
  rw [if_neg hnot, target.names]
  dsimp only
  rw [if_pos (isEmpty_iff.2 hpath)]
  refine (yields_display _ _).bind ?_
  rintro shown _ ⟨rfl, -⟩
  exact .of_bind (.throw ⟨⟨_, rfl⟩, rfl⟩)

lemma transition_eq_followPath (target : Target)
    (hthere : l.state ≠ stateOf target.stage)
    (hpath : findPath l.state (stateOf target.stage) ≠ [])
    {Q : Post Bool}
    (hfollow : Yields (followPath i target.value (.str (name ++ "/change_state"))
      (findPath l.state (stateOf target.stage))) s Q E) :
    Yields (transition i target.value) s Q E := by
  have hnot := fun heq => hthere ((names_current_iff h target).1 heq)
  obtain ⟨n, hn, hname, -⟩ := h.node
  refine (yields_getLifecycle h).exactly ?_
  rw [if_neg hnot, target.names]
  dsimp only
  rw [if_neg fun hempty => hpath (isEmpty_iff.1 hempty)]
  refine (yields_getNode hn).exactly ?_
  rw [hname]
  exact hfollow

end Launch

end Launchpad
