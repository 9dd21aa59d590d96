import Launchpad.Proofs.Composition.Books
import Launchpad.Proofs.Supervision.Ending

/-!
What loading, starting and unloading do to the books. Most of what these operations do leaves the
books as they are: looking at processes, asking for services, writing log lines. A load can change
the composer of a component before it fails; otherwise each of them changes nothing or all.
-/

namespace Launchpad

def NodeKind.component? : NodeKind → Option ComponentNode
  | .component c => some c
  | _ => none

def NodeKind.composer? : NodeKind → Option ComposerNode
  | .composer c => some c
  | _ => none

def Session.books (s : Session) : Books where
  component i := s.core.kinds[i]?.bind NodeKind.component?
  composer i := s.core.kinds[i]?.bind NodeKind.composer?

def SameBooks (s t : Session) : Prop :=
  t.books = s.books

lemma books_of_kinds {s t : Session} (h : t.core.kinds = s.core.kinds) : SameBooks s t := by
  unfold SameBooks Session.books
  rw [h]

instance : Patient SameBooks where
  refl _ := rfl
  trans _ _ _ h h' := h'.trans h
  calm _ _ h := books_of_kinds (by rw [h.core])
  aged _ _ h := books_of_kinds (by rw [h.core])

/-- The names of all nodes have stayed as they were. -/
def SameNames (s t : Session) : Prop :=
  t.core.titles = s.core.titles ∧ t.core.namespaces = s.core.namespaces

instance : Patient SameNames where
  refl _ := ⟨rfl, rfl⟩
  trans _ _ _ h h' := ⟨h'.1.trans h.1, h'.2.trans h.2⟩
  calm _ _ h := ⟨by rw [h.core], by rw [h.core]⟩
  aged _ _ h := ⟨by rw [h.core], by rw [h.core]⟩

/-- Neither the books nor the names have changed. -/
structure Unmoved (s t : Session) : Prop where
  books : SameBooks s t
  names : SameNames s t

instance : Patient Unmoved where
  refl s := ⟨refl_of _ s, refl_of _ s⟩
  trans _ _ _ h h' := ⟨trans_of _ h.books h'.books, trans_of _ h.names h'.names⟩
  calm _ _ h := ⟨Tolerant.calm _ _ h, Tolerant.calm _ _ h⟩
  aged _ _ h := ⟨Patient.aged _ _ h, Patient.aged _ _ h⟩

/-- Is a load refused, because the composer does not run or the component does? -/
def Session.RefusesLoad (s : Session) (k c : Nat) : Prop :=
  ∃ v t, (Launch.isRunning k).run s = .ok v t ∧
    (v.truthy = false ∨ ∃ w u, (Launch.isRunning c).run t = .ok w u ∧ w.truthy)

namespace Launch

variable {s : Session}
variable {α : Type} {E : Post Stop}

/-! ## Single changes -/

lemma yields_modifyNode_books (i : Nat) {f : Node → Node} (h : ∀ n, (f n).kind = n.kind)
    (s : Session) : Yields (modifyNode i f) s (fun _ t => t.books = s.books) E := by
  refine .modify (books_of_kinds ?_)
  simp only [Session.core, map_modify_of_eq _ _ h]

lemma view_modify_map (nodes : Array Node) (i j : Nat) {f : Node → Node} {g : α → α}
    {view : NodeKind → Option α} (h : ∀ n : Node, view (f n).kind = (view n.kind).map g) :
    ((nodes.modify i f).map Node.kind)[j]?.bind view =
      if j = i then ((nodes.map Node.kind)[j]?.bind view).map g
      else (nodes.map Node.kind)[j]?.bind view := by
  simp only [Array.getElem?_map, Array.getElem?_modify]
  by_cases hj : j = i
  · subst hj
    cases nodes[j]? with
    | none => simp
    | some n => simpa using h n
  · simp [hj, Ne.symm hj]

lemma yields_modifyComponent (c : Nat) (f : ComponentNode → ComponentNode) (s : Session) :
    Yields (modifyComponent c f) s (fun _ t => t.books = s.books.onComponent c f) E := by
  refine .modify ?_
  simp only [Session.books, Books.onComponent, Books.mk.injEq, Session.core]
  refine ⟨funext fun i => view_modify_map s.nodes c i fun n => ?_,
    funext fun i => view_modify s.nodes c i id fun _ n => ?_⟩
  all_goals cases hkind : n.kind <;> simp [hkind, NodeKind.component?, NodeKind.composer?]

lemma sameNames_modifyComponent (c : Nat) (f : ComponentNode → ComponentNode) :
    Keeps SameNames (modifyComponent c f) :=
  keeps_modify fun s => by
    simp only [SameNames, Session.core]
    constructor <;> exact map_modify_of_eq s.nodes c fun n => by split <;> rfl

lemma yields_modifyComposer (k : Nat) (f : ComposerNode → ComposerNode) (s : Session) :
    Yields (modifyComposer k f) s (fun _ t => t.books = s.books.onComposer k f) E := by
  refine .modify ?_
  simp only [Session.books, Books.onComposer, Books.mk.injEq, Session.core]
  refine ⟨funext fun i => view_modify s.nodes k i id fun _ n => ?_,
    funext fun i => view_modify_map s.nodes k i fun n => ?_⟩
  all_goals cases hkind : n.kind <;> simp [hkind, NodeKind.component?, NodeKind.composer?]

lemma yields_getComponent (c : Nat) (s : Session) :
    Yields (getComponent c) s (fun n t => t = s ∧ s.books.component c = some n)
      (fun _ t => t = s ∧ s.books.component c = none) :=
  yields_view (fun n => by cases n.kind <;> rfl) c s

lemma yields_getComposer (k : Nat) (s : Session) :
    Yields (getComposer k) s (fun n t => t = s ∧ s.books.composer k = some n)
      (fun _ t => t = s ∧ s.books.composer k = none) :=
  yields_view (fun n => by cases n.kind <;> rfl) k s

lemma yields_nodeOf (x : Value) (s : Session) :
    Yields (nodeOf x) s (fun c t => t = s ∧ x = nodeValue c) (fun _ t => t = s) := by
  unfold nodeOf
  split
  · exact .pure ⟨rfl, rfl⟩
  · exact .throw rfl

/-! ## Loading -/

lemma keeps_serialized {R : SessionRel} [Tolerant R] (what : String)
    {params : Launch Entries} (h : Keeps R params) : Keeps R (serialized what params) := by
  refine Keeps.catchFault (h.bind fun es => Keeps.mapM es fun e _ => ?_) fun f => keeps_told
  exact keeps_lift

lemma yields_adoptComponent (k c : Nat) (logger : String) (s : Session) :
    Yields (adoptComponent k c logger) s
      (fun _ t => (∃ n, s.books.component c = some n) ∧ t.books = s.books.rehome c k ∧
        SameNames s t)
      (fun _ t => Unmoved s t) := by
  refine (yields_getComponent c s).seq ?_ fun _ t ht => ht.1 ▸ refl_of Unmoved _
  rintro n s ⟨rfl, hn⟩
  refine keeps_getNode.along (refl_of Unmoved s) fun m u hu => ?_
  split
  · refine keeps_warn.along hu fun _ u hu => ?_
    refine ((yields_modifyComponent c _ u).and ((sameNames_modifyComponent c _).then hu.names)).imp
      ?_ fun _ _ h => h.1
    rintro _ t ⟨ht, hnames⟩
    rw [hu.books] at ht
    exact ⟨⟨n, hn⟩, ht, hnames⟩
  · next hsame =>
    refine .pure ⟨⟨n, hn⟩,
      hu.books.trans (Books.onComponent_eq_self fun m hm => ?_).symm, hu.names⟩
    obtain rfl : n = m := Option.mem_unique hn hm
    have hk : n.composer = k := by simpa using hsame
    rw [ComponentNode.rehomed, ← hk]

lemma yields_requestLoad (k c : Nat) (logger : String) (intra : Value) (extra : Entries)
    (s : Session) :
    Yields (requestLoad k c logger intra extra) s
      (fun _ t => Unmoved s t ∧ ∃ kn, s.books.composer k = some kn)
      (fun _ t => Unmoved s t) := by
  refine (keeps_serialized _ (keeps_flatParams c)).along (refl_of Unmoved s)
    fun params m hm => ?_
  refine (yields_getComposer k m).seq ?_ fun _ t ht => ht.1 ▸ hm
  rintro kn m ⟨rfl, hkn⟩
  rw [hm.books] at hkn
  refine (Keeps.then (R := Unmoved) ?_ hm).map fun _ t ht => ⟨ht, kn, hkn⟩
  refine keeps_getNode.bind fun n => keeps_lift.bind fun remaps => ?_
  refine (keeps_serialized _ .pure).bind fun extra => keeps_info.bind fun _ => ?_
  exact keeps_composerService.bind fun topic => keeps_callWith

lemma yields_takeName_books (c : Nat) (full : Value) (s : Session) :
    Yields (takeName c full) s (fun _ t => t.books = s.books) (fun _ t => t = s) := by
  refine Yields.ite ?_ (.pure rfl)
  split
  · split
    · refine yields_modifyNode_books c ?_ s
      exact fun _ => rfl
    · exact .throw rfl
  · exact .throw rfl

lemma yields_enterComponent (k c : Nat) (v : Value) (s : Session) :
    Yields (enterComponent k c v) s
      (fun _ t => t.books = (s.books.assign c v).onComposer k (·.enter v c))
      (fun _ t => v.isKey = false ∧ t.books = s.books.assign c v) := by
  refine (yields_modifyComponent c _ s).bind fun _ m hm => ?_
  split
  · refine (yields_modifyComposer k _ m).map fun _ t ht => ?_
    rw [ht, hm]
    rfl
  · next hkey =>
    refine .of_bind (.throw ⟨by simpa using hkey, hm⟩)

/-- What a load does: it is refused, or the component gets a number of the composer. If it fails,
the composer of the component may have changed; and a number that cannot be written down has been
given, but is in no book. -/
lemma yields_loadComponent (k : Nat) (x intra : Value) (extra : Entries) (s : Session) :
    Yields (loadComponent k x intra extra) s
      (fun v t => (v = .int (-1) ∧ (∀ c, x = nodeValue c → s.RefusesLoad k c) ∧ Unmoved s t) ∨
        ∃ c kn, x = nodeValue c ∧ ¬ s.RefusesLoad k c ∧ s.books.composer k = some kn ∧
          t.books = s.books.load k c v)
      (fun _ t => Unmoved s t ∨ ∃ c n, x = nodeValue c ∧ s.books.component c = some n ∧
        (t.books = s.books.rehome c k ∧ SameNames s t ∨
          ∃ v, v.isKey = false ∧ t.books = (s.books.rehome c k).assign c v)) := by
  simp only [loadComponent, getNode, bind_assoc, yields_bind, yields_get]
  cases s.nodes[k]? with
  | none => exact .throw (.inl (refl_of _ s))
  | some n => ?_
  refine .pure (((keeps_isRunning (R := Unmoved) s).and (yields_self _ s)).imp ?_
    fun _ _ ht => .inl ht.1)
  rintro running v ⟨hv, hrun⟩
  refine Yields.ite_of (fun hstopped => ?_) fun hruns => ?_
  · refine keeps_error.followed hv (fun _ m hm => .pure (.inl ⟨rfl, fun c _ => ?_, hm⟩))
      fun _ _ ht => .inl ht
    exact ⟨running, v, hrun, .inl (by simpa using hstopped)⟩
  refine (yields_nodeOf x v).seq ?_ fun _ t ht => .inl (ht ▸ hv)
  rintro c v ⟨rfl, rfl⟩
  refine ((keeps_isRunning.then hv).and (yields_self _ v)).seq ?_ fun _ _ ht => .inl ht.1
  rintro loaded m ⟨hm, hloaded⟩
  refine Yields.ite_of (fun hlive => ?_) fun hidle => ?_
  · refine keeps_error.followed hm (fun _ u hu => .pure (.inl ⟨rfl, fun d hd => ?_, hu⟩))
      fun _ _ ht => .inl ht
    obtain rfl : c = d := by simpa [nodeValue] using hd
    exact ⟨running, v, hrun, .inr ⟨loaded, m, hloaded, hlive⟩⟩
  have hadmitted : ¬ s.RefusesLoad k c := by
    rintro ⟨_, _, hrun', hcause⟩
    cases hrun.symm.trans hrun'
    rcases hcause with hstopped | ⟨_, _, hloaded', hlive⟩
    · simp [hstopped] at hruns
    · cases hloaded.symm.trans hloaded'
      exact hidle hlive
  refine (yields_adoptComponent k c _ m).seq ?_ fun _ t ht => .inl (trans_of Unmoved hm ht)
  rintro _ u ⟨⟨cn, hcn⟩, hu, hnames⟩
  rw [hm.books] at hcn hu
  -- From here on the composer of the component is this one, whatever happens.
  have moved {t : Session} (ht : Unmoved u t) : t.books = s.books.rehome c k ∧ SameNames s t :=
    ⟨ht.books.trans hu, trans_of SameNames hm.names (trans_of SameNames hnames ht.names)⟩
  refine (yields_requestLoad k c _ intra extra u).seq ?_ fun _ _ ht =>
    .inr ⟨c, cn, rfl, hcn, .inl (moved ht)⟩
  rintro answer m ⟨hm, kn, hkn⟩
  rw [hu] at hkn
  refine Yields.ite ?_ ?_
  · refine (yields_takeName_books c _ m).seq (fun _ t ht => ?_) fun _ t ht =>
      .inr ⟨c, cn, rfl, hcn, .inl (moved (ht ▸ hm))⟩
    have hbooks : t.books = s.books.rehome c k := ht.trans (hm.books.trans hu)
    refine (yields_enterComponent k c _ t).seq (fun _ t ht => ?_) ?_
    · rw [hbooks] at ht
      exact .pure (.inr ⟨c, kn, rfl, hadmitted, hkn, ht⟩)
    · rintro e t ⟨hkey, ht⟩
      rw [hbooks] at ht
      exact .inr ⟨c, cn, rfl, hcn, .inr ⟨_, hkey, ht⟩⟩
  · refine Yields.imp (Q := fun _ _ => False) ?_ (fun _ _ h => h.elim) fun _ _ ht =>
      .inr ⟨c, cn, rfl, hcn, .inl (moved ht)⟩
    refine keeps_nodeText.along hm fun shown m hm => ?_
    refine keeps_display.along hm fun why m hm => ?_
    refine keeps_error.along hm fun _ m hm => ?_
    refine keeps_display.along hm fun why m hm => ?_
    exact .throw hm

lemma yields_startComponent (c : Nat) (intra : Value) (extra : Entries) (s : Session) :
    Yields (startComponent c intra extra) s
      (fun _ t => ∃ n v u, s.books.component c = some n ∧
        (loadComponent n.composer (nodeValue c) intra extra).run s = .ok v u ∧
        t.books = u.books.assign c v ∧ SameNames u t)
      (fun _ t => Unmoved s t ∨ ∃ n e, s.books.component c = some n ∧
        (loadComponent n.composer (nodeValue c) intra extra).run s = .error e t) := by
  refine (yields_getComponent c s).seq ?_ fun _ t ht => .inl (ht.1 ▸ refl_of _ _)
  rintro n s ⟨rfl, hn⟩
  refine (yields_getComposer n.composer s).seq ?_ fun _ t ht => .inl (ht.1 ▸ refl_of _ _)
  rintro kn s ⟨rfl, -⟩
  refine Yields.ite (.of_bind (.throw (.inl (refl_of _ s)))) ?_
  refine (yields_self _ s).seq (fun v u hu => ?_) fun e _ he => .inr ⟨n, e, hn, he⟩
  exact ((yields_modifyComponent c _ u).and (sameNames_modifyComponent c _ u)).imp
    (fun _ t ht => ⟨n, v, u, hn, hu, ht⟩) fun _ _ ht => ht.1

/-! ## Unloading -/

lemma yields_componentNumber (x : Value) (s : Session) :
    Yields (componentNumber x) s (fun r t => t = s ∧ r = s.books.target x) (fun _ t => t = s) := by
  unfold componentNumber Books.target
  cases x with
  | ref r =>
    cases r with
    | node j =>
      simp only [getNode, yields_bind, yields_get]
      cases hn : s.nodes[j]? with
      | none => exact .throw rfl
      | some n =>
        rw [yields_pure]
        cases hkind : n.kind <;>
          exact .pure ⟨rfl, by
            simp [Session.books, Session.core, hn, hkind, NodeKind.component?]⟩
    | _ => exact .pure ⟨rfl, rfl⟩
  | _ => exact .pure ⟨rfl, rfl⟩

lemma yields_forgetComponent (k : Nat) (v : Value) (node : Option Nat) (s : Session) :
    Yields (forgetComponent k v node) s (fun _ t => t.books = s.books.forget k v node) E := by
  cases node with
  | none => exact yields_modifyComposer k _ s
  | some c =>
    refine (yields_modifyComponent c _ s).bind fun _ m hm => ?_
    refine (yields_modifyComposer k _ m).map fun _ t ht => ?_
    rw [ht, hm]
    rfl

instance (s : Session) : Weakens (fun _ t => SameBooks s t) fun _ t => t.books = s.books :=
  ⟨fun _ _ h => h⟩

/-- Unloading strikes out a number if the answer is waited for and confirms it; a request that is
not waited for is taken for done and changes nothing. -/
lemma yields_unloadComponent (k : Nat) (x timeout : Value) (s : Session) :
    Yields (unloadComponent k x timeout) s
      (fun done t => t.books = if done && !(timeout == .int 0)
        then s.books.forget k (s.books.target x).1 (s.books.target x).2 else s.books)
      (fun _ t => t.books = s.books) := by
  refine keeps_isRunning.along (refl_of SameBooks s) fun running m hm => ?_
  refine Yields.ite (.of_bind (.throw hm)) ?_
  refine keeps_getNode.along hm fun n m hm => ?_
  refine (yields_componentNumber x m).seq ?_ fun _ t ht => ht ▸ hm
  rintro r m ⟨rfl, rfl⟩
  rw [hm]
  refine Yields.ite ?_ (.of_bind (.throw hm))
  refine keeps_componentName.along hm fun cname m hm => ?_
  refine keeps_display.along hm fun shown m hm => ?_
  refine keeps_warn.along hm fun _ m hm => ?_
  refine keeps_composerService.along hm fun topic m hm => ?_
  refine keeps_callAsync.along hm fun reply m hm => ?_
  split
  · next hwait =>
    refine .pure ?_
    rw [if_neg (by simp [hwait])]
    exact hm
  · next hwait =>
    refine keeps_awaitUnload.along hm fun _ m hm => ?_
    refine keeps_replyFields.along hm fun answer m hm => ?_
    refine Yields.ite ?_ ?_
    · refine (yields_forgetComponent k _ _ m).bind fun _ t ht => ?_
      rw [hm] at ht
      refine .pure ?_
      rw [if_pos (by simp [hwait])]
      exact ht
    · refine keeps_display.along hm fun why m hm => ?_
      refine keeps_display.along hm fun shown m hm => ?_
      refine keeps_error.along hm fun _ m hm => ?_
      exact .pure hm

end Launch

end Launchpad
