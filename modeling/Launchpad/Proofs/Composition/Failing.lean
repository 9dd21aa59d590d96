import Launchpad.Proofs.Composition.Agreement

/-!
Starts and ends of components that come to nothing. One that stops with an error has changed neither
the books nor a name. But a start that is refused returns, and the component then has the number
minus one whatever it had before; and an unload that is denied returns too, after which the component
counts as ended while the composer still has it in its book.
-/

namespace Launchpad.Launch

open Composition

/-- What a start that returns has done. -/
inductive Started (c : Nat) (s t : Session) : Prop
  | refused {n : ComponentNode} (hn : s.books.component c = some n)
    (hrefuses : s.RefusesLoad n.composer c) (hbooks : t.books = s.books.assign c (.int (-1)))
    (hnames : SameNames s t)
  | loaded {n : ComponentNode} {v : Value} (hn : s.books.component c = some n)
    (hadmitted : ¬ s.RefusesLoad n.composer c) (hbooks : t.books = s.books.load n.composer c v)

/-- What an end that returns has done. A request that is not waited for is not confirmed. -/
inductive Ended (c : Nat) (reason timeout : Value) (s t : Session) : Prop
  | idle {n : ComponentNode} (hn : s.books.component c = some n) (hidle : ¬ n.isLoaded)
    (hsame : Unmoved s t)
  | unloaded {n : ComponentNode} {u : Session} (hn : s.books.component c = some n)
    (hloaded : n.isLoaded) (hdone : (requestUnload c n reason timeout).run s = .ok true u)
    (hbooks : t.books = s.books.forget n.composer n.componentId (some c)) (hnames : SameNames s t)
  | denied {n : ComponentNode} {done : Bool} {u : Session} (hn : s.books.component c = some n)
    (hloaded : n.isLoaded) (hrun : (requestUnload c n reason timeout).run s = .ok done u)
    (hdenied : done → timeout == .int 0) (hbooks : t.books = s.books.release c)
    (hnames : SameNames s t)

lemma yields_startComponent_started (c : Nat) (intra : Value) (extra : Entries) (s : Session) :
    Yields (startComponent c intra extra) s (fun _ t => Started c s t)
      (fun _ t => Unmoved s t ∨ ∃ v, v.isKey = false ∧ t.books = s.books.assign c v) := by
  refine (yields_startComponent c intra extra s).imp ?_ ?_
  · rintro - t ⟨n, v, u, hn, hu, ht, hnames⟩
    rcases yields_run_ok (yields_loadComponent _ _ _ _ _) hu with
      ⟨rfl, hrefuses, hsame⟩ | ⟨d, kn, hd, hadmitted, -, hload⟩
    · rw [hsame.books] at ht
      exact .refused hn (hrefuses c rfl) ht (trans_of SameNames hsame.names hnames)
    · obtain rfl : c = d := by simpa [nodeValue] using hd
      rw [hload, Books.assign_load] at ht
      exact .loaded hn hadmitted ht
  · rintro - t (ht | ⟨n, e, hn, ht⟩)
    · exact .inl ht
    · rcases yields_run_error (yields_loadComponent _ _ _ _ _) ht with ht | ⟨d, m, hd, hm, ht⟩
      · exact .inl ht
      · obtain rfl : c = d := by simpa [nodeValue] using hd
        rw [Books.rehome_self hn] at ht
        exact ht.imp_left fun h => ⟨h.1, h.2⟩

lemma sameNames_shutdownComponent (c : Nat) (reason timeout : Value) :
    Keeps SameNames (shutdownComponent c reason timeout) :=
  Keeps.mono (R := Winds True fun _ => True) keeps_shutdownComponent
    fun _ _ h => ⟨congrArg (·.titles) h.still, congrArg (·.namespaces) h.still⟩

lemma yields_shutdownComponent_ended (c : Nat) (reason timeout : Value) (s : Session) :
    Yields (shutdownComponent c reason timeout) s (fun _ t => Ended c reason timeout s t)
      (fun _ t => Unmoved s t) := by
  refine ((sameNames_shutdownComponent c reason timeout s).and
    (yields_shutdownComponent c reason timeout s)).imp ?_ ?_
  · rintro - t ⟨hnames, n, hn, ⟨hidle, ht⟩ | ⟨hloaded, done, u, hu, ht⟩⟩
    · exact .idle hn hidle ⟨ht, hnames⟩
    · rw [yields_run_ok (yields_requestUnload hn reason timeout) hu] at ht
      split at ht
      · next hdone =>
        rw [Books.release_forget] at ht
        obtain rfl : done = true := by simp_all
        exact .unloaded hn hloaded hu ht hnames
      · next hdone => exact .denied hn hloaded hu (by simp_all) ht hnames
  · rintro e t ⟨hnames, ⟨rfl, -⟩ | ⟨n, hn, ht⟩⟩
    · exact refl_of _ t
    · exact ⟨yields_run_error (yields_requestUnload hn reason timeout) ht, hnames⟩

/-- What becomes of a component and its composer. An error leaves all as it was, unless the number
that was given is one that no book can hold. A refused start takes the number of the component away
and nothing else, and an unload that is not confirmed ends the component for itself alone. -/
theorem books_of_failed_request (c : Nat) (s : Session) :
    (∀ intra extra, Yields (startComponent c intra extra) s (fun _ t => Started c s t)
      (fun _ t => Unmoved s t ∨ ∃ v, v.isKey = false ∧ t.books = s.books.assign c v)) ∧
    ∀ reason timeout, Yields (shutdownComponent c reason timeout) s
      (fun _ t => Ended c reason timeout s t) (fun _ t => Unmoved s t) :=
  ⟨fun intra extra => yields_startComponent_started c intra extra s,
    fun reason timeout => yields_shutdownComponent_ended c reason timeout s⟩

/-- A component that is started again after its composer has ended loses its number, under which the
composer still has it. -/
theorem refused_start_changes_number :
    stopped.RefusesLoad 1 2 ∧
      (stopped.books.component 2).map ComponentNode.componentId = some (.int 1) ∧
      (((startComponent 2 (.bool true) []).after stopped).books.component 2).map
        ComponentNode.componentId = some (.int (-1)) ∧
      ((startComponent 2 (.bool true) []).after stopped).books.composer 1 =
        stopped.books.composer 1 := by
  refine ⟨⟨.bool false, (isRunning 1).after stopped, ?_, .inl rfl⟩, ?_, ?_, ?_⟩
  all_goals with_unfolding_all rfl

end Launchpad.Launch
