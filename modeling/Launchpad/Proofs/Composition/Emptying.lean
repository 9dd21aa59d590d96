import Launchpad.Proofs.Composition.Closing

/-!
A composer that is asked to end strikes out its components one after another, as their unloading is
confirmed. Its book is empty in the end if it is up to date in the beginning and every component of
it is unloaded in time.
-/

namespace Launchpad

open List

/-- The book of a composer has just these entries, each of a component of it with this number. -/
structure Books.Lists (b : Books) (k : Nat) (es : List (Value × Nat)) : Prop where
  book : ∃ kn, b.composer k = some kn ∧ kn.Tidy ∧ kn.components = es
  current : ∀ e ∈ es, ∃ n, b.component e.2 = some n ∧ n.composer = k ∧ n.componentId = e.1

lemma Books.Lists.forget {b : Books} {k : Nat} {e : Value × Nat} {es : List (Value × Nat)}
    (h : b.Lists k (e :: es)) : (b.forget k e.1 (some e.2)).Lists k es := by
  obtain ⟨kn, hk, htidy, hes⟩ := h.book
  have hkeys {d : Value × Nat} (hd : d ∈ e :: es) : ∃ z : Int, d.1 = .int z :=
    htidy.keys d (hes ▸ hd)
  obtain ⟨hnew, -⟩ : e.1 ∉ es.map Prod.fst ∧ (es.map Prod.fst).Nodup := by
    simpa [hes] using htidy.distinct
  have hne {d : Value × Nat} (hd : d ∈ es) : d.1 ≠ e.1 := fun heq =>
    hnew (heq ▸ mem_map_of_mem hd)
  obtain ⟨z, hz⟩ := hkeys mem_cons_self
  refine ⟨⟨kn.erase e.1, composer_self hk, htidy.erase _, ?_⟩, fun d hd => ?_⟩
  · simp only [ComposerNode.erase, hes]
    rw [filter_cons_of_neg (by simp [hz, Value.alike_int]), filter_eq_self]
    intro d hd
    obtain ⟨y, hy⟩ := hkeys (mem_cons_of_mem _ hd)
    have hyz : y ≠ z := fun heq => hne hd (by rw [hy, hz, heq])
    simp [hy, hz, Value.alike_int, hyz]
  · obtain ⟨n, hn, hcomposer, hnumber⟩ := h.current d (mem_cons_of_mem _ hd)
    obtain ⟨m, hm, -, hfirst⟩ := h.current e mem_cons_self
    -- One component does not have two numbers.
    have hother : d.2 ≠ e.2 := by
      intro heq
      rw [heq, hm] at hn
      obtain rfl := Option.some.inj hn
      exact hne hd (hnumber.symm.trans hfirst)
    exact ⟨n, (component_ne hother).trans hn, hcomposer, hnumber⟩

/-- The components are shut down one after another, and each of these requests is confirmed. -/
def Session.Confirms (reason timeout : Value) : Session → List Nat → Prop
  | _, [] => True
  | s, c :: cs =>
    (∃ n t, s.books.component c = some n ∧
      (Launch.requestUnload c n reason timeout).run s = .ok true t) ∧
    Session.Confirms reason timeout ((Launch.shutdownComponent c reason timeout).after s) cs

namespace Launch

variable {timeout : Value}

lemma yields_shutdownComponent_confirmed (hw : (timeout == .int 0) = false) {c : Nat}
    {n : ComponentNode} {s u : Session} (hn : s.books.component c = some n) (hloaded : n.isLoaded)
    {reason : Value} (hdone : (requestUnload c n reason timeout).run s = .ok true u) :
    Succeeds (shutdownComponent c reason timeout) s
      (fun _ t => t.books = s.books.forget n.composer n.componentId (some c)) := by
  refine (yields_shutdownComponent c reason timeout s).imp ?_ ?_
  · rintro - t ⟨m, hm, ht⟩
    obtain rfl : n = m := Option.mem_unique hn hm
    obtain ⟨hfree, -⟩ | ⟨-, done, v, hv, ht⟩ := ht
    · exact absurd hloaded hfree
    · obtain ⟨rfl, rfl⟩ : true = done ∧ u = v := by simpa [hdone] using hv
      rw [ht, yields_run_ok (yields_requestUnload hn reason timeout) hdone]
      simp [hw, Books.release_forget]
  · rintro e t (⟨-, hnone⟩ | ⟨m, hm, ht⟩)
    · simp [hn] at hnone
    · obtain rfl : n = m := Option.mem_unique hn hm
      simp [hdone] at ht

lemma yields_shutdownComponents_confirmed (hw : (timeout == .int 0) = false) (reason : Value)
    (k : Nat) (handle : Nat → Fault → Launch Unit) (es : List (Value × Nat)) (s : Session)
    (hlists : s.books.Lists k es) (hconfirms : s.Confirms reason timeout (es.map (·.2))) :
    Succeeds ((es.map (·.2)).forM fun c =>
        catchFault (shutdownComponent c reason timeout) (handle c)) s
      (fun _ t => t.books.Lists k []) := by
  induction es generalizing s with
  | nil => exact .pure hlists
  | cons e es ih =>
    obtain ⟨⟨n, u, hn, hdone⟩, hrest⟩ := hconfirms
    obtain ⟨m, hm, hcomposer, hnumber⟩ := hlists.current e mem_cons_self
    obtain rfl : n = m := Option.mem_unique hn hm
    have hloaded : n.isLoaded := by
      obtain ⟨kn, -, htidy, hes⟩ := hlists.book
      obtain ⟨z, hz⟩ := htidy.keys e (by simp [hes])
      simp [ComponentNode.isLoaded_iff, hnumber, hz]
    have hstruck := (yields_shutdownComponent_confirmed hw hn hloaded hdone).and (yields_self _ s)
    refine .of_bind ?_
    refine Yields.catchFault (hstruck.imp ?_ fun _ _ ht => ht.1) (fun _ _ h => h.elim)
      fun _ _ h => h
    rintro _ t ⟨ht, hrun⟩
    refine ih t ?_ ?_
    · rw [ht, hcomposer, hnumber]
      exact hlists.forget
    · simpa only [after, hrun] using hrest

/-- A composer that is found running has an empty book after it was asked to end, if the book was up
to date and all its components have been unloaded. -/
lemma yields_shutdownNode_confirmed (hw : (timeout == .int 0) = false) {k : Nat}
    {kn : ComposerNode} {running : Value} {s u : Session} (hk : s.books.composer k = some kn)
    (hlists : s.books.Lists k kn.components) (hrun : (isRunning kn.wrapped).run s = .ok running u)
    (hrunning : running.truthy) (reason signal : Value)
    (hconfirms : u.Confirms reason timeout (kn.components.map (·.2))) :
    EndsIn (shutdownNode k reason signal timeout) s
      (fun t => ∃ kn', t.books.composer k = some kn' ∧ kn'.components = []) := by
  have hu : u.books = s.books := yields_run_ok (keeps_isRunning (R := SameBooks) s) hrun
  refine yields_shutdownNode_composer hk hrun reason signal timeout (fun h => ?_) fun _ logger => ?_
  · simp [hrunning] at h
  · refine (yields_shutdownComponents_confirmed hw reason k _ _ u
      (hu ▸ hlists) hconfirms).andThen fun _ m hm => ?_
    obtain ⟨km, hkm, -, hempty⟩ := hm.book
    -- The wrapped node can be a composer too; nothing is written down again.
    have still {t : Session} (ht : Unwinds True True m t) :
        ∃ kn', t.books.composer k = some kn' ∧ kn'.components = [] := by
      obtain ⟨kn', hk', hshrinks⟩ := ht.exists_after hkm
      exact ⟨kn', hk', sublist_nil.1 (hempty ▸ hshrinks.sublist)⟩
    have wrapped : EndsIn (shutdownWith reason signal timeout s.nodes.size kn.wrapped) m
      (Unwinds True True m) :=
      unwinds_shutdownWith (fun _ => trivial) reason signal _ _ (refl_of _ m) (.inl trivial)
    refine Yields.catchFault (wrapped.map fun _ _ ht => still ht) ?_
      fun _ _ ht => still ht
    refine fun f t ht => ((Keeps.ite .pure .throw).then ht).imp ?_ ?_
    all_goals exact fun _ _ ht => still ht

end Launch

end Launchpad
