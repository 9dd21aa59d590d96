import Launchpad.Proofs.Groups.Place

/-!
Programs of blocks. A launch function enters groups and composers in blocks, starts nodes in them, and
may fail at any point. Whatever happens in a block, the script stands afterwards where it stood before;
and a node that it starts is in the namespace that the blocks around it say.
-/

namespace Launchpad.Launch

open List Option

variable {α β : Type}
variable {x : Launch α} {f : α → Launch β} {t final : Session} {e : Stop} {ns : String}
    {l : Launcher} {args : Bound} {i : Nat}

/-! ## Programs -/

def inGroup (ns : String) (x : Launch Unit) : Launch Unit := do
  let stack := (← getLauncher).groupStack
  let _ ← enterGroup (.str ns)
  always x (leave (.group stack))

def inComposer (args : Bound) (x : Launch Unit) : Launch Unit := do
  let _ ← compose args
  always x (leave .compose)

def attempt (x : Launch Unit) : Launch Unit :=
  catchFault x fun _ => pure ()

/-- A launch function: blocks in groups and composers, nodes, and faults that may be handled further
out. -/
inductive Plan where
  | done
  | fail (e : Stop)
  | node (args : Bound) (next : Plan)
  | group (ns : String) (body next : Plan)
  | compose (args : Bound) (body next : Plan)
  | attempt (body next : Plan)

def Plan.run : Plan → Launch Unit
  | .done => pure ()
  | .fail e => throw e
  | .node args next => do
    let _ ← Launch.node args
    next.run
  | .group ns body next => do
    inGroup ns body.run
    next.run
  | .compose args body next => do
    inComposer args body.run
    next.run
  | .attempt body next => do
    Launch.attempt body.run
    next.run

/-- What is to be told of a run: that a node was asked for inside of groups, and that a block was
left, with the sessions before and after. -/
inductive Mark where
  | asked (scope : List String) (before after : Session)
  | left (composing : Bool) (entry exit : Session)

/-- What is to be told of what follows an operation, if it succeeds. -/
def sequel (x : Launch α) (s : Session) (next : Session → List Mark) : List Mark :=
  match x.run s with
  | .ok _ t => next t
  | .error _ _ => []

/-- What is to be told of a run of a program inside of groups. -/
def Plan.marks (scope : List String) : Plan → Session → List Mark
  | .done, _ => []
  | .fail _, _ => []
  | .node args next, s =>
    .asked scope s ((Launch.node args).after s) :: sequel (Launch.node args) s (next.marks scope)
  | .group ns body next, s =>
    sequel (enterGroup (.str ns)) s (fun t =>
      body.marks (scope ++ [ns]) t ++ [.left false s ((inGroup ns body.run).after s)]) ++
    sequel (inGroup ns body.run) s (next.marks scope)
  | .compose args body next, s =>
    .asked scope s ((Launch.compose args).after s) ::
      sequel (Launch.compose args) s (fun t =>
        body.marks scope t ++ [.left true s ((inComposer args body.run).after s)]) ++
    sequel (inComposer args body.run) s (next.marks scope)
  | .attempt body next, s =>
    body.marks scope s ++ sequel (Launch.attempt body.run) s (next.marks scope)

variable {s : Session} {root : String} {scope : List String}

/-! ## Blocks -/

lemma after_attempt (x : Launch Unit) (s : Session) : (attempt x).after s = x.after s := by
  refine ((yields_after x s).catchFault (fun f t ht => ?_) fun c t ht => ht).after
  exact .pure ht

structure Enters (root : String) (scope : List String) (ns : String) (s t : Session) : Prop where
  within : t.Within root (scope ++ [ns])
  launcher : ∃ l stack, s.launcher = some l ∧ t.launcher = some { l with groupStack := stack }
  grows : Grows s t
  nodes : t.nodes = s.nodes

lemma enterGroup_cases (hs : s.Within root scope) (ns : String) :
    (∃ g t, (enterGroup (.str ns)).run s = .ok g t ∧ Enters root scope ns s t) ∨
      ∃ e, (enterGroup (.str ns)).run s = .error e s := by
  obtain ⟨l, hl, -⟩ := hs.launcher
  cases hfree : l.composing with
  | none =>
    obtain ⟨g, t, hrun, hwithin, ⟨stack, ht⟩, hextended, hnodes⟩ :=
      (yields_enterGroup (E := fun _ _ => False) hs hl hfree ns).exists_ok
    refine .inl ⟨g, t, hrun, hwithin, ⟨l, stack, hl, ht⟩, ⟨hextended, fun _ => hwithin.tree, ?_, ?_⟩,
      hnodes⟩
    · rw [hnodes]
    · intro i _
      rw [Session.made?, hnodes, Session.made?]
  | some c =>
    have refused : Yields (enterGroup (.str ns)) s (fun _ _ => False) (fun _ t => t = s) := by
      refine (yields_getLauncher_of hl).exactly ?_
      rw [if_pos (by simp [hfree])]
      exact .of_bind (.throw rfl)
    obtain ⟨e, t, hrun, rfl⟩ := refused.exists_error
    exact .inr ⟨e, hrun⟩

lemma after_inGroup {g : Nat} (hl : s.launcher = some l)
    (h : (enterGroup (.str ns)).run s = .ok g t) (x : Launch Unit) :
    (inGroup ns x).after s = { x.after t with
      launcher := (x.after t).launcher.map fun k => { k with groupStack := l.groupStack } } := by
  unfold inGroup
  rw [after_bind_of_ok (run_getLauncher hl), after_bind_of_ok h]
  exact after_always x _ t

lemma after_inGroup_refused (hl : s.launcher = some l)
    (h : (enterGroup (.str ns)).run s = .error e s) (x : Launch Unit) :
    (inGroup ns x).after s = s := by
  unfold inGroup
  rw [after_bind_of_ok (run_getLauncher hl), after_bind_of_error h]

lemma after_inComposer (h : (compose args).run s = .ok i t) (x : Launch Unit) :
    (inComposer args x).after s = { x.after t with
      launcher := (x.after t).launcher.map fun k => { k with composing := none } } := by
  unfold inComposer
  rw [after_bind_of_ok h]
  exact after_always x _ t

lemma after_inComposer_refused (h : (compose args).run s = .error e t) (x : Launch Unit) :
    (inComposer args x).after s = t :=
  after_bind_of_error h

lemma leaves_inGroup {g : Nat} (hl : s.launcher = some l)
    (h : (enterGroup (.str ns)).run s = .ok g t) (x : Launch Unit) :
    Grows (x.after t) ((inGroup ns x).after s) ∧
      ((inGroup ns x).after s).nodes = (x.after t).nodes := by
  rw [after_inGroup hl h]
  exact ⟨.of_fields rfl rfl, rfl⟩

lemma leaves_inComposer (h : (compose args).run s = .ok i t) (x : Launch Unit) :
    Grows (x.after t) ((inComposer args x).after s) ∧
      ((inComposer args x).after s).nodes = (x.after t).nodes := by
  rw [after_inComposer h]
  exact ⟨.of_fields rfl rfl, rfl⟩

variable {u : Session} {marks more : List Mark}

lemma Enters.settles (h : Enters root scope ns s t) (hu : Settles t u)
    (hl : s.launcher = some l) :
    Settles s { u with
      launcher := u.launcher.map fun k => { k with groupStack := l.groupStack } } := by
  obtain ⟨k, stack, hk, ht⟩ := h.launcher
  obtain rfl : k = l := mem_unique hk hl
  obtain ⟨k', hk', heq⟩ := Session.launcher_of_core hu.launcher ht
  refine ⟨?_, (h.grows.trans hu.grows).trans (.of_fields rfl rfl)⟩
  have hrestored := congrArg (fun j : Launcher => { j with groupStack := k.groupStack }) heq
  simp only [Session.core, hk', hk, map_some]
  exact congrArg some hrestored

lemma Composes.within (h : Composes root scope s i t) (hs : s.Within root scope) :
    t.Within root scope := by
  obtain ⟨m, hm, hgroups, hnodes, ht⟩ := h.made
  have hplace := hs.settled hm.settles
  obtain ⟨l, hl, -⟩ := hplace.launcher
  rw [hl, map_some] at ht
  exact hplace.grown (.of_fields hgroups hnodes) hl ht rfl rfl

lemma Composes.grows (h : Composes root scope s i t) : Grows s t := by
  obtain ⟨m, hm, hgroups, hnodes, -⟩ := h.made
  exact hm.grows.trans (.of_fields hgroups hnodes)

lemma Composes.settles (h : Composes root scope s i t) (hs : s.Within root scope)
    (hu : Settles t u) :
    Settles s { u with launcher := u.launcher.map fun k => { k with composing := none } } := by
  obtain ⟨m, hm, -, -, ht⟩ := h.made
  obtain ⟨l, hl, -⟩ := hs.launcher
  obtain ⟨k, hk, hkl⟩ := Session.launcher_of_core hm.launcher hl
  rw [hk, map_some] at ht
  obtain ⟨k', hk', hk'k⟩ := Session.launcher_of_core hu.launcher ht
  have hfree : l.composing = none := by
    have hnone := h.free
    rwa [Session.composing?, hl, bind_some] at hnone
  refine ⟨?_, (h.grows.trans hu.grows).trans (.of_fields rfl rfl)⟩
  simp only [Session.core, hk', hl, map_some]
  have hemptied := congrArg (fun j : Launcher => { j with composing := none }) hk'k
  have hbefore := congrArg (fun j : Launcher => { j with composing := none }) hkl
  refine congrArg some (hemptied.trans (hbefore.trans ?_))
  simp only [← hfree]

lemma settles_attempt {x : Launch Unit} (hx : Settles s (x.after s)) :
    Settles s ((attempt x).after s) := by
  rwa [after_attempt]

lemma settles_bind (hx : Settles s (x.after s))
    (hf : ∀ a t, x.run s = .ok a t → Settles t ((f a).after t)) :
    Settles s ((x >>= f).after s) := by
  cases hrun : x.run s with
  | ok a t =>
    rw [after_of_ok hrun] at hx
    rw [after_bind_of_ok hrun]
    exact hx.trans (hf a t hrun)
  | error e t =>
    rw [after_of_error hrun] at hx
    rw [after_bind_of_error hrun]
    exact hx

lemma settles_inGroup (hs : s.Within root scope) (ns : String) {x : Launch Unit}
    (hx : ∀ t, t.Within root (scope ++ [ns]) → Settles t (x.after t)) :
    Settles s ((inGroup ns x).after s) := by
  obtain ⟨l, hl, -⟩ := hs.launcher
  rcases enterGroup_cases hs ns with ⟨g, t, hrun, ht⟩ | ⟨e, hrun⟩
  · rw [after_inGroup hl hrun]
    exact ht.settles (hx t ht.within) hl
  · rw [after_inGroup_refused hl hrun]
    exact .refl s

lemma settles_inComposer (hs : s.Within root scope) (args : Bound) {x : Launch Unit}
    (hx : ∀ t, t.Within root scope → Settles t (x.after t)) :
    Settles s ((inComposer args x).after s) := by
  cases hrun : (compose args).run s with
  | ok i t =>
    have ht := yields_run_ok (yields_compose hs args) hrun
    rw [after_inComposer hrun]
    exact ht.settles hs (hx t (ht.within hs))
  | error e t =>
    have ht : Makes (home root scope) s t := yields_run_error (yields_compose hs args) hrun
    rw [after_inComposer_refused hrun]
    exact ht.settles

lemma Plan.settles (plan : Plan) (hs : s.Within root scope) : Settles s (plan.run.after s) := by
  induction plan generalizing scope s with
  | done => exact .refl s
  | fail e => exact .refl s
  | node args next ih =>
    have hnode := (makes_node hs args).after.settles
    refine settles_bind hnode fun _ t hrun => ih (hs.settled ?_)
    rwa [after_of_ok hrun] at hnode
  | group ns body next ihbody ihnext =>
    have hblock := settles_inGroup hs ns fun t ht => ihbody ht
    refine settles_bind hblock fun _ t hrun => ihnext (hs.settled ?_)
    rwa [after_of_ok hrun] at hblock
  | compose args body next ihbody ihnext =>
    have hblock := settles_inComposer hs args fun t ht => ihbody ht
    refine settles_bind hblock fun _ t hrun => ihnext (hs.settled ?_)
    rwa [after_of_ok hrun] at hblock
  | attempt body next ihbody ihnext =>
    have hbody := settles_attempt (ihbody hs)
    refine settles_bind hbody fun _ t hrun => ihnext (hs.settled ?_)
    rwa [after_of_ok hrun] at hbody

/-! ## What is told of a run -/

/-- What holds of a mark, if a run has led to a session in the end. The nodes that were made when one
was asked for are in the namespace of the place and have stayed there. A block was left with the stack
of groups with which it was entered, and a composer takes no components any more. -/
def Mark.Holds (root : String) (final : Session) : Mark → Prop
  | .asked scope before after => ∀ i ns, Created before after i ns →
      Placed root scope ns ∧ final.made? i = after.made? i
  | .left composing entry exit => exit.groupStack? = entry.groupStack? ∧
      (composing = true → exit.composing? = none)

/-- All nodes that were made between two sessions were made when one was asked for. -/
def Covers (marks : List Mark) (s t : Session) : Prop :=
  ∀ i, s.nodes.size ≤ i → (t.made? i).isSome → ∃ scope before after,
    Mark.asked scope before after ∈ marks ∧ before.nodes.size ≤ i ∧ after.made? i = t.made? i

lemma mem_sequel {next : Session → List Mark} {mark : Mark} :
    mark ∈ sequel x s next ↔ ∃ a t, x.run s = .ok a t ∧ mark ∈ next t := by
  unfold sequel
  cases hrun : x.run s with
  | ok a t => simp
  | error e t => simp

lemma sequel_of_ok {a : α} (h : x.run s = .ok a t) (next : Session → List Mark) :
    sequel x s next = next t := by
  unfold sequel
  rw [h]

lemma holds_asked (hhome : ∀ i ns, Created s t i ns → ns = home root scope)
    (hfinal : Grows t final) : (Mark.asked scope s t).Holds root final := by
  intro i ns hi
  obtain ⟨around, hmade⟩ := hi.exists_made
  obtain rfl := hhome i ns hi
  exact ⟨placed_home root scope, hfinal.kept i (Session.lt_size_of_made? hmade)⟩

lemma holds_left {composing : Bool} {exit : Session} (h : Settles s exit)
    (hfree : composing = true → s.composing? = none) (final : Session) :
    (Mark.left composing s exit).Holds root final := by
  refine ⟨Session.groupStack?_of_core h.launcher, fun hcomposing => ?_⟩
  rw [Session.composing?_of_core h.launcher, hfree hcomposing]

section

variable (hs : s.Within root scope)
include hs

lemma created_compose (args : Bound) (i : Nat) (ns : String)
    (h : Created s ((compose args).after s) i ns) : ns = home root scope := by
  cases hrun : (compose args).run s with
  | ok c t =>
    rw [after_of_ok hrun] at h
    obtain ⟨m, hm, -, hnodes, -⟩ := (yields_run_ok (yields_compose hs args) hrun).made
    have hmade : Created s m i ns := by
      unfold Created Session.made? at h ⊢
      rwa [hnodes] at h
    exact hm.created (home_ne_empty root scope) hmade
  | error e t =>
    rw [after_of_error hrun] at h
    exact (yields_run_error (yields_compose hs args) hrun).created (home_ne_empty root scope) h

lemma grows_inComposer (args : Bound) (body : Plan) :
    Grows ((compose args).after s) ((inComposer args body.run).after s) := by
  cases hrun : (compose args).run s with
  | ok i t =>
    have ht := yields_run_ok (yields_compose hs args) hrun
    rw [after_of_ok hrun]
    exact (body.settles (ht.within hs)).grows.trans (leaves_inComposer hrun body.run).1
  | error e t =>
    rw [after_of_error hrun, after_inComposer_refused hrun]
    exact .of_fields rfl rfl

lemma grows_next (hx : Settles s (x.after s)) (next : Plan) :
    Grows (x.after s) ((x >>= fun _ => next.run).after s) := by
  cases hrun : x.run s with
  | ok a t =>
    rw [after_of_ok hrun] at hx ⊢
    rw [after_bind_of_ok hrun]
    exact (next.settles (hs.settled hx)).grows
  | error e t =>
    rw [after_of_error hrun, after_bind_of_error hrun]
    exact .of_fields rfl rfl

lemma holds_sequel (hx : Settles s (x.after s)) {next : Plan}
    (ih : ∀ {s : Session}, s.Within root scope → Grows (next.run.after s) final → ∀ mark ∈
      next.marks scope s, mark.Holds root final)
    (hfinal : Grows ((x >>= fun _ => next.run).after s) final) :
    ∀ mark ∈ sequel x s (next.marks scope), mark.Holds root final := by
  intro mark hmark
  obtain ⟨a, t, hrun, hmem⟩ := mem_sequel.1 hmark
  rw [after_of_ok hrun] at hx
  rw [after_bind_of_ok hrun] at hfinal
  exact ih (hs.settled hx) hfinal mark hmem

end

lemma Plan.marks_hold (plan : Plan) (hs : s.Within root scope)
    (hfinal : Grows (plan.run.after s) final) :
    ∀ mark ∈ plan.marks scope s, mark.Holds root final := by
  induction plan generalizing scope s with
  | done => exact forall_mem_nil _
  | fail e => exact forall_mem_nil _
  | node args next ih =>
    have hmakes := (makes_node hs args).after
    refine forall_mem_cons.2 ⟨holds_asked (fun i ns => hmakes.created ?_) ?_, ?_⟩
    · exact home_ne_empty root scope
    · exact (grows_next hs hmakes.settles next).trans hfinal
    · exact holds_sequel hs hmakes.settles (fun hs => ih hs) hfinal
  | group ns body next ihbody ihnext =>
    have hblock := settles_inGroup hs ns fun t ht => body.settles ht
    have hexit := (grows_next hs hblock next).trans hfinal
    refine forall_mem_append.2 ⟨fun mark hmark => ?_, ?_⟩
    · obtain ⟨l, hl, -⟩ := hs.launcher
      obtain ⟨g, t, hrun, hmem⟩ := mem_sequel.1 hmark
      rcases enterGroup_cases hs ns with ⟨g', t', hrun', ht⟩ | ⟨e, hrun'⟩
      · obtain ⟨rfl, rfl⟩ : g' = g ∧ t' = t := by
          rw [hrun] at hrun'
          cases hrun'
          exact ⟨rfl, rfl⟩
        rcases mem_append.1 hmem with hbody | hleft
        · exact ihbody ht.within ((leaves_inGroup hl hrun body.run).1.trans hexit) mark hbody
        · obtain rfl := mem_singleton.1 hleft
          exact holds_left hblock (fun h => absurd h Bool.false_ne_true) final
      · rw [hrun] at hrun'
        cases hrun'
    · exact holds_sequel hs hblock (fun hs => ihnext hs) hfinal
  | compose args body next ihbody ihnext =>
    have hblock := settles_inComposer hs args fun t ht => body.settles ht
    have hexit := (grows_next hs hblock next).trans hfinal
    refine forall_mem_append.2 ⟨forall_mem_cons.2 ⟨?_, fun mark hmark => ?_⟩, ?_⟩
    · exact holds_asked (created_compose hs args) ((grows_inComposer hs args body).trans hexit)
    · obtain ⟨i, t, hrun, hmem⟩ := mem_sequel.1 hmark
      have ht := yields_run_ok (yields_compose hs args) hrun
      rcases mem_append.1 hmem with hbody | hleft
      · exact ihbody (ht.within hs) ((leaves_inComposer hrun body.run).1.trans hexit) mark hbody
      · obtain rfl := mem_singleton.1 hleft
        exact holds_left hblock (fun _ => ht.free) final
    · exact holds_sequel hs hblock (fun hs => ihnext hs) hfinal
  | attempt body next ihbody ihnext =>
    have hbody := settles_attempt (body.settles hs)
    have hexit := (grows_next hs hbody next).trans hfinal
    rw [after_attempt] at hexit
    refine forall_mem_append.2 ⟨ihbody hs hexit, ?_⟩
    exact holds_sequel hs hbody (fun hs => ihnext hs) hfinal

/-! ## Where nodes come from -/

lemma covers_of_nodes (h : t.nodes = s.nodes) : Covers marks s t := by
  intro i hi hmade
  have hsize : t.nodes.size ≤ i := by rwa [h]
  rw [Session.made?_eq_none hsize] at hmade
  cases hmade

lemma covers_asked (scope : List String) (s t : Session) (marks : List Mark) :
    Covers (.asked scope s t :: marks) s t :=
  fun _ hi _ => ⟨scope, s, t, mem_cons_self, hi, rfl⟩

lemma Covers.mono (h : Covers marks s t) (hmore : marks ⊆ more) : Covers more s t := by
  intro i hi hmade
  obtain ⟨scope, before, after, hmem, hbefore, hafter⟩ := h i hi hmade
  exact ⟨scope, before, after, hmore hmem, hbefore, hafter⟩

lemma Covers.append {m : Session} (h : Covers marks s m) (h' : Covers more m t)
    (hgrows : Grows m t) : Covers (marks ++ more) s t := by
  intro i hi hmade
  rcases lt_or_ge i m.nodes.size with hlt | hge
  · rw [hgrows.kept i hlt] at hmade ⊢
    exact h.mono (subset_append_left _ _) i hi hmade
  · exact h'.mono (subset_append_right _ _) i hge hmade

lemma Covers.of_nodes {s' t' : Session} (h : Covers marks s t) (hs : s'.nodes = s.nodes)
    (ht : t'.nodes = t.nodes) : Covers marks s' t' := by
  unfold Covers Session.made? at h ⊢
  rwa [hs, ht]

lemma covers_next (hs : s.Within root scope) (hx : Settles s (x.after s))
    (hmarks : Covers marks s (x.after s)) {next : Plan}
    (ih : ∀ {s : Session}, s.Within root scope → Covers (next.marks scope s) s (next.run.after s)) :
    Covers (marks ++ sequel x s (next.marks scope)) s ((x >>= fun _ => next.run).after s) := by
  refine hmarks.append ?_ (grows_next hs hx next)
  cases hrun : x.run s with
  | ok a t =>
    rw [after_of_ok hrun] at hx ⊢
    rw [after_bind_of_ok hrun, sequel_of_ok hrun]
    exact ih (hs.settled hx)
  | error e t =>
    rw [after_of_error hrun, after_bind_of_error hrun]
    exact covers_of_nodes rfl

lemma Plan.covers (plan : Plan) (hs : s.Within root scope) :
    Covers (plan.marks scope s) s (plan.run.after s) := by
  induction plan generalizing scope s with
  | done => exact covers_of_nodes rfl
  | fail e => exact covers_of_nodes rfl
  | node args next ih =>
    have hasked := covers_asked scope s ((Launch.node args).after s) []
    exact covers_next hs (makes_node hs args).after.settles hasked fun hs => ih hs
  | group ns body next ihbody ihnext =>
    refine covers_next hs (settles_inGroup hs ns fun t ht => body.settles ht) ?_ fun hs => ihnext hs
    obtain ⟨l, hl, -⟩ := hs.launcher
    rcases enterGroup_cases hs ns with ⟨g, t, hrun, ht⟩ | ⟨e, hrun⟩
    · rw [sequel_of_ok hrun]
      have hbody := (ihbody ht.within).of_nodes ht.nodes.symm (leaves_inGroup hl hrun body.run).2
      exact hbody.mono (subset_append_left _ _)
    · rw [after_inGroup_refused hl hrun]
      exact covers_of_nodes rfl
  | compose args body next ihbody ihnext =>
    have hasked := covers_asked scope s ((Launch.compose args).after s) []
    have hbody : Covers (sequel (Launch.compose args) s fun t =>
        body.marks scope t ++ [.left true s ((inComposer args body.run).after s)])
        ((Launch.compose args).after s) ((inComposer args body.run).after s) := by
      cases hrun : (Launch.compose args).run s with
      | ok i t =>
        have ht := yields_run_ok (yields_compose hs args) hrun
        rw [after_of_ok hrun, sequel_of_ok hrun]
        have hinside := (ihbody (ht.within hs)).of_nodes rfl (leaves_inComposer hrun body.run).2
        exact hinside.mono (subset_append_left _ _)
      | error e t =>
        rw [after_of_error hrun, after_inComposer_refused hrun]
        exact covers_of_nodes rfl
    have hblock := hasked.append hbody (grows_inComposer hs args body)
    exact covers_next hs (settles_inComposer hs args fun t ht => body.settles ht) hblock
      fun hs => ihnext hs
  | attempt body next ihbody ihnext =>
    have hbody := settles_attempt (body.settles hs)
    refine covers_next hs hbody ?_ fun hs => ihnext hs
    rw [after_attempt]
    exact ihbody hs

/-- A launch function runs after the launch has begun, with any namespace of the outermost group, and
fails where it fails. When it leaves a block, in whatever way, the script stands in the same groups as
when it has entered the block, and no components go into a composer that it has left. The nodes that it
makes in a place are in a namespace that is spelled properly and consists of the outermost one and those
in force there, in which they stay; and no node is made in any other way. -/
theorem blocks_restore_groups_and_place_nodes {s₀ s : Session} (hgroups : GroupTree s₀.groups)
    {name launchArgs root : Value} (hbegin : (begin name launchArgs root).run s₀ = .ok () s)
    (plan : Plan) :
    (∀ mark ∈ plan.marks [] s, mark.Holds (rootText root) (plan.run.after s)) ∧
      Covers (plan.marks [] s) s (plan.run.after s) := by
  have hs := yields_run_ok (yields_begin hgroups name launchArgs root) hbegin
  exact ⟨plan.marks_hold hs (.of_fields rfl rfl), plan.covers hs⟩

/-- A session in which nothing has begun but the log file. -/
def unbegun : Session :=
  let log : Log.Handler := { target := .file "/log/launch.log", kind := "WatchedFileHandler" }
  { log := { directory := some "/log", handlers := #[log], fileHandlers := [("launch.log", 0)] } }

/-- A launch function that fails behind its first node, and then composes in a group from the root,
where another group is refused. -/
def Plan.robot : Plan :=
  let hand : Bound := ⟨[("name", .str "hand")]⟩
  let eyes : Bound := ⟨[("name", .str "eyes"), ("language", .str "cpp"), ("variant", .str "normal")]⟩
  .attempt (.group "arms//" (.group "left" (.node hand (.fail (.silent .runtime))) .done) .done)
    (.group "arms" (.group "/head" (.compose eyes (.group "in" .done .done) .done) .done) .done)

lemma groupTree_empty : GroupTree #[] := by
  intro i g hg
  cases hg

theorem robot_is_placed :
    let s := (begin (.str "bl") .null (.str "robots")).after unbegun
    let final := Plan.robot.run.after s
    GroupTree unbegun.groups ∧ (begin (.str "bl") .null (.str "robots")).run unbegun = .ok () s ∧
      final.made? 0 = some (none, "/robots/arms/left") ∧
      final.made? 2 = some (some 1, "/robots/head") ∧
      (∀ mark ∈ Plan.robot.marks [] s, mark.Holds "robots" final) ∧
      Covers (Plan.robot.marks [] s) s final := by
  intro s final
  have hbegin : (begin (.str "bl") .null (.str "robots")).run unbegun = .ok () s :=
    run_eq_of_returns (by decide +kernel)
  exact ⟨groupTree_empty, hbegin, by decide +kernel, by decide +kernel,
    blocks_restore_groups_and_place_nodes groupTree_empty hbegin Plan.robot⟩

end Launchpad.Launch
