import Launchpad.Proofs.Composition.Emptying
import Launchpad.Proofs.Supervision.Scene

/-!
The books over whole runs. Components are started, loaded, unloaded and shut down in any order,
while processes exit and the world around them changes. If loading gives fresh numbers, a component
in the book of its composer always has a number, and one with a number does not count as ended. The
books agree as long as the acts are orderly, and there are four ways in which they are not: a
refused start leaves a number that no composer knows of, a component that is unloaded by its number
is not told so, a load that fails has already moved the component, and a stopped composer takes
numbers away without ending anything.
-/

namespace Launchpad.Composition

open Launch
open Books

variable {k : Nat} {x intra : Value} {extra : Entries} {a : Act}

/-- What is done with components and composers, and what happens around them. -/
inductive Act where
  | start (component : Nat) (intra : Value) (extra : Entries)
  | load (composer : Nat) (component intra : Value) (extra : Entries)
  | unload (composer : Nat) (component timeout : Value)
  | shutdown (node : Nat) (reason signal timeout : Value)
  | exits (child : Nat) (code : Int)
  | changes (f : World → World)

def step (s : Session) : Act → Session
  | .start c intra extra => (startComponent c intra extra).after s
  | .load k x intra extra => (loadComponent k x intra extra).after s
  | .unload k x timeout => (unloadComponent k x timeout).after s
  | .shutdown i reason signal timeout => (shutdownNode i reason signal timeout).after s
  | .exits c code => (endChild c code).after s
  | .changes f => (modifyWorld f).after s

def run (s : Session) (acts : List Act) : Session :=
  acts.foldl step s

/-- A condition on acts that holds whenever one is done in the course of a run. -/
def Along (P : Session → Act → Prop) : Session → List Act → Prop
  | _, [] => True
  | s, a :: acts => P s a ∧ Along P (step s a) acts

/-! ## Conditions on acts -/

/-- The number that a load returns is whole and not in the book of the composer. What a load that
fails has given as a number could at least be one. -/
structure LoadsFresh (s : Session) (k : Nat) (x intra : Value) (extra : Entries) : Prop where
  fresh : ∀ v t, (loadComponent k x intra extra).run s = .ok v t →
    ∃ z : Int, v = .int z ∧ ∀ kn, s.books.composer k = some kn → kn.holder v = none
  key : ∀ e t, (loadComponent k x intra extra).run s = .error e t →
    ∀ c n, t.books.component c = some n → n.componentId.isKey

def Fresh (s : Session) : Act → Prop
  | .start c intra extra =>
    ∀ n, s.books.component c = some n → LoadsFresh s n.composer (nodeValue c) intra extra
  | .load k x intra extra => LoadsFresh s k x intra extra
  | _ => True

/-- No start is refused, no load that fails moves a component with a number, no number is struck out
while a component that is not told so has it, and no composer is found stopped while a component in
its book has a number. -/
def Orderly (s : Session) : Act → Prop
  | .start c intra extra => ∀ n v t, s.books.component c = some n →
    (loadComponent n.composer (nodeValue c) intra extra).run s = .ok v t → v ≠ .int (-1)
  | .load k x intra extra => ∀ e t, (loadComponent k x intra extra).run s = .error e t →
    ∀ c n, x = nodeValue c → s.books.component c = some n → n.isLoaded → n.composer = k
  | .unload k x _ => ∀ c n, s.books.component c = some n → n.isLoaded → n.composer = k →
    n.componentId.alike (s.books.target x).1 → x = nodeValue c
  | .shutdown i _ _ _ => (s.books.Vacant i ∨ s.FindsRunning i) ∧ s.VacantBelow i
  | .exits _ _ | .changes _ => True

/-! ## One act -/

inductive Moves (s : Session) : Act → Books → Prop where
  | stays (a : Act) : Moves s a s.books
  | enters {a : Act} {k c : Nat} {kn : ComposerNode} {z : Int} (hk : s.books.composer k = some kn)
      (hnew : kn.holder (.int z) = none) : Moves s a (s.books.load k c (.int z))
  | refuses {c : Nat} {n : ComponentNode} {intra : Value} {extra : Entries} {t : Session}
      (hn : s.books.component c = some n)
      (hrun : (loadComponent n.composer (nodeValue c) intra extra).run s = .ok (.int (-1)) t) :
      Moves s (.start c intra extra) (s.books.assign c (.int (-1)))
  | rehomes {k c : Nat} {intra : Value} {extra : Entries} {e : Stop} {t : Session}
      (hrun : (loadComponent k (nodeValue c) intra extra).run s = .error e t) :
      Moves s (.load k (nodeValue c) intra extra) (s.books.rehome c k)
  | forgets (k : Nat) (x timeout : Value) :
      Moves s (.unload k x timeout) (s.books.forget k (s.books.target x).1 (s.books.target x).2)
  | closes {i : Nat} {reason signal timeout : Value} {b : Books}
      (h : ∀ stopped : Prop, stopped ∨ ((s.books.Vacant i ∨ s.FindsRunning i) ∧ s.VacantBelow i) →
        Books.Closing True stopped s.books b) :
      Moves s (.shutdown i reason signal timeout) b

variable {s : Session}

lemma LoadsFresh.yields (h : LoadsFresh s k x intra extra) :
    Yields (loadComponent k x intra extra) s
      (fun v t => (v = .int (-1) ∧ t.books = s.books) ∨ ∃ c kn z, x = nodeValue c ∧ v = .int z ∧
        s.books.composer k = some kn ∧ kn.holder v = none ∧ t.books = s.books.load k c v)
      (fun _ t => t.books = s.books ∨ ∃ c, x = nodeValue c ∧ t.books = s.books.rehome c k) := by
  refine ((yields_loadComponent k x intra extra s).and (yields_self _ s)).imp ?_ ?_
  · rintro v t ⟨ht, hrun⟩
    refine ht.imp (fun ht => ⟨ht.1, ht.2.2.books⟩) ?_
    rintro ⟨c, kn, hx, -, hk, ht⟩
    obtain ⟨z, hz, hnew⟩ := h.fresh v t hrun
    exact ⟨c, kn, z, hx, hz, hk, hnew kn hk, ht⟩
  · rintro e t ⟨ht | ⟨c, n, hx, hn, ⟨ht, -⟩ | ⟨v, hkey, ht⟩⟩, hrun⟩
    · exact .inl ht.books
    · exact .inr ⟨c, hx, ht⟩
    · have hgiven : t.books.component c = some ((n.rehomed k).assigned v) := by
        rw [ht]
        exact component_self (component_self hn)
      have hkey' : v.isKey := h.key e t hrun c _ hgiven
      simp [hkey] at hkey'

lemma moves_start {c : Nat} (h : Fresh s (.start c intra extra)) :
    Moves s (.start c intra extra) ((startComponent c intra extra).after s).books := by
  refine Yields.after (P := fun t => Moves s _ t.books)
    ((yields_startComponent c intra extra s).imp ?_ ?_)
  · rintro - t ⟨n, v, u, hn, hu, ht, -⟩
    rw [ht]
    rcases yields_run_ok (h n hn).yields hu with ⟨rfl, hsame⟩ | ⟨d, kn, z, hd, rfl, hk, hnew, hload⟩
    · exact hsame ▸ .refuses hn hu
    · obtain rfl : c = d := by simpa [nodeValue] using hd
      rw [hload, assign_load]
      exact .enters hk hnew
  · rintro e t (ht | ⟨n, e, hn, ht⟩)
    · exact ht.books ▸ .stays _
    · rcases yields_run_error (h n hn).yields ht with ht | ⟨d, hd, ht⟩
      · exact ht ▸ .stays _
      · obtain rfl : c = d := by simpa [nodeValue] using hd
        exact (ht.trans (rehome_self hn)) ▸ .stays _

lemma moves_load (h : LoadsFresh s k x intra extra) :
    Moves s (.load k x intra extra) ((loadComponent k x intra extra).after s).books := by
  refine Yields.after (P := fun t => Moves s _ t.books) ((h.yields.and (yields_self _ s)).imp ?_ ?_)
  · rintro v t ⟨⟨-, ht⟩ | ⟨c, kn, z, -, rfl, hk, hnew, ht⟩, -⟩
    · exact ht ▸ .stays _
    · exact ht ▸ .enters hk hnew
  · rintro e t ⟨ht | ⟨c, rfl, ht⟩, hrun⟩
    · exact ht ▸ .stays _
    · exact ht ▸ .rehomes hrun

lemma moves_unload (s : Session) (k : Nat) (x timeout : Value) :
    Moves s (.unload k x timeout) ((unloadComponent k x timeout).after s).books := by
  refine Yields.after (P := fun t => Moves s _ t.books)
    ((yields_unloadComponent k x timeout s).imp (fun done t ht => ?_) fun _ t ht => ht ▸ .stays _)
  rw [ht]
  split
  · exact .forgets k x timeout
  · exact .stays _

lemma moves (h : Fresh s a) : Moves s a (step s a).books := by
  cases a with
  | start c intra extra => exact moves_start h
  | load k x intra extra => exact moves_load h
  | unload k x timeout => exact moves_unload s k x timeout
  | shutdown i reason signal timeout =>
    exact .closes fun stopped hmet => Yields.after (P := Unwinds True stopped s)
      (unwinds_shutdownNode (fun _ => trivial) i reason signal hmet)
  | exits c code =>
    have hsame : SameBooks s ((endChild c code).after s) := keeps_endChild.after s
    exact hsame ▸ .stays _
  | changes f => exact .stays _

lemma Moves.sound {b : Books} (h : Moves s a b) (hs : s.books.Sound) : b.Sound := by
  cases h with
  | stays => exact hs
  | enters hk hnew => exact hs.load fun n hn => Option.mem_unique hn hk ▸ hnew
  | refuses hn hrun => exact hs.assign _ _
  | rehomes hrun => exact hs.rehome _ _
  | forgets k x timeout => exact hs.forget _ _ _
  | closes h => exact (h True (.inl trivial)).sound hs

lemma Moves.agree {b : Books} (h : Moves s a b) (hs : s.books.Agree) (horderly : Orderly s a) :
    b.Agree := by
  cases h with
  | stays => exact hs
  | enters hk hnew => exact hs.load hk hnew
  | refuses hn hrun => exact absurd rfl (horderly _ _ _ hn hrun)
  | rehomes hrun => exact hs.rehome fun n hn hl => horderly _ _ hrun _ n rfl hn hl
  | forgets k x timeout =>
    refine hs.forget fun d n hd hl hk halike => ?_
    obtain rfl := horderly d n hd hl hk halike
    simp [target, nodeValue, hd]
  | closes h => exact (h False (.inr horderly)).agree hs

/-! ## Composers that are asked to end -/

/-- What is left in the book of a composer that has been asked to end. -/
structure Leaves (s : Session) (k : Nat) (reason signal timeout : Value)
    (kn left : ComposerNode) : Prop where
  book : (step s (.shutdown k reason signal timeout)).books.composer k = some left
  sublist : left.components.Sublist kn.components
  /-- Nothing is struck out if no answers are waited for. -/
  unawaited : (timeout == .int 0) → left.components = kn.components
  /-- Nothing is struck out by a stopped composer, but all components lose their numbers. -/
  stopped : ∀ running t, (isRunning kn.wrapped).run s = .ok running t → running.truthy = false →
    left.components = kn.components ∧ ∀ e ∈ kn.components, ∀ n,
      (step s (.shutdown k reason signal timeout)).books.component e.2 = some n → ¬ n.isLoaded
  /-- Everything is struck out if the book is up to date and all components are unloaded. -/
  emptied : ∀ running t, (isRunning kn.wrapped).run s = .ok running t → running.truthy →
    (timeout == .int 0) = false → s.books.Lists k kn.components →
    t.Confirms reason timeout (kn.components.map (·.2)) → left.components = []
  /-- What is struck out in good order has no number any more. -/
  struck : s.books.Agree → Orderly s (.shutdown k reason signal timeout) →
    ∀ e ∈ kn.components, e ∉ left.components → ∀ n,
      (step s (.shutdown k reason signal timeout)).books.component e.2 = some n → ¬ n.isLoaded

lemma exists_leaves {kn : ComposerNode} (hk : s.books.composer k = some kn)
    (reason signal timeout : Value) : ∃ left, Leaves s k reason signal timeout kn left := by
  have closing (stopped : Prop)
      (hmet : stopped ∨ ((s.books.Vacant k ∨ s.FindsRunning k) ∧ s.VacantBelow k)) :
      Closing ((timeout == .int 0) = false) stopped s.books
        (step s (.shutdown k reason signal timeout)).books :=
    Yields.after (P := Unwinds _ stopped s) (unwinds_shutdownNode id k reason signal hmet)
  obtain ⟨left, hleft, hshrinks⟩ := (closing True (.inl trivial)).exists_after hk
  refine ⟨left, hleft, hshrinks.sublist, fun hzero => hshrinks.whole (by simp [hzero]), ?_, ?_, ?_⟩
  · intro running t hrun hstopped
    have htaken : (step s (.shutdown k reason signal timeout)).books =
        (kn.components.map (·.2)).foldl unnumber s.books :=
      Yields.after (P := fun t => t.books = (kn.components.map (·.2)).foldl unnumber s.books)
        ((yields_shutdownNode_stopped hk hrun hstopped reason signal timeout).map fun _ _ h => h)
    rw [htaken] at hleft ⊢
    have hrest : Closing False True s.books
        ((kn.components.map (·.2)).foldl unnumber s.books) :=
      closing_unnumber trivial _ _
    obtain ⟨kn', hk', hwhole⟩ := hrest.exists_after hk
    obtain rfl : left = kn' := Option.mem_unique hleft hk'
    exact ⟨hwhole.whole id, fun e he n hn =>
      not_loaded_of_unnumber (List.mem_map_of_mem he) hn⟩
  · intro running t hrun hrunning hwaits hlists hconfirms
    obtain ⟨kn', hk', hempty⟩ := Yields.after
      (yields_shutdownNode_confirmed hwaits hk hlists hrun hrunning reason signal hconfirms)
    obtain rfl : left = kn' := Option.mem_unique hleft hk'
    exact hempty
  · intro hs horderly e he hgone n hn
    exact (closing False (.inr horderly)).unloaded_of_erased hs hk hleft he hgone hn

/-! ## Whole runs -/

lemma sound_run {acts : List Act} (hs : s.books.Sound) (hfresh : Along Fresh s acts) :
    (run s acts).books.Sound := by
  induction acts generalizing s with
  | nil => exact hs
  | cons a acts ih => exact ih ((moves hfresh.1).sound hs) hfresh.2

lemma agree_run {acts : List Act} (hs : s.books.Agree) (hfresh : Along Fresh s acts)
    (horderly : Along Orderly s acts) : (run s acts).books.Agree := by
  induction acts generalizing s with
  | nil => exact hs
  | cons a acts ih => exact ih ((moves hfresh.1).agree hs horderly.1) hfresh.2 horderly.2

/-- Whatever is done, a component in the book of its composer has a number, and one with a number
does not count as ended. If it is done in good order, the three say the same. -/
theorem books_of_run (hs : s.books.Agree) {acts : List Act} (hfresh : Along Fresh s acts) :
    (∀ c n, (run s acts).books.component c = some n →
      ((run s acts).books.Maps c n → n.isLoaded) ∧ (n.isLoaded → n.terminated = false)) ∧
    (Along Orderly s acts → ∀ c n, (run s acts).books.component c = some n →
      (n.isLoaded ↔ (run s acts).books.Maps c n) ∧ (n.isLoaded ↔ n.terminated = false)) ∧
    ∀ k kn reason signal timeout, (run s acts).books.composer k = some kn →
      ∃ left, Leaves (run s acts) k reason signal timeout kn left := by
  have hsound := sound_run hs.toSound hfresh
  refine ⟨fun c n hn => ⟨hsound.isLoaded_of_maps, (hsound.component c n hn).event⟩,
    fun horderly c n hn => ?_, fun k kn reason signal timeout hk => exists_leaves hk _ _ _⟩
  have hagree := agree_run hs hfresh horderly
  exact ⟨⟨hagree.maps c n hn, hsound.isLoaded_of_maps⟩,
    ⟨(hsound.component c n hn).event, hagree.loaded c n hn⟩⟩

/-! ## A small session -/

/-- A composer whose process runs. It has one component under the number one; another one is not
loaded. -/
def composed : Session :=
  let node (id : Nat) (name : String) (kind : NodeKind) : Node :=
    { id, package := .str "demo", executable := .str "box", name, ns := "/", remaps := .map [],
      params := .map [], logger := "/" ++ name, kind }
  { nodes := #[node 0 "box" (.process { ProcessNode.plain 0 with child := some 0 }),
      node 1 "box" (.composer { wrapped := 0, remaps := .map [], components := [(.int 1, 2)] }),
      node 2 "talker" (.component { composer := 1, componentId := .int 1, terminated := false }),
      node 3 "listener" (.component { composer := 1 })],
    world := { children := #[{ pid := 1000, script := {} }] } }

lemma component_composed {c : Nat} {n : ComponentNode}
    (h : composed.books.component c = some n) :
    (c = 2 ∧ n = { composer := 1, componentId := .int 1, terminated := false }) ∨
      n = { composer := 1 } := by
  rcases c with _ | _ | _ | _ | c <;>
    simp_all [Session.books, Session.core, composed, NodeKind.component?]

lemma composer_composed {n : ComposerNode} (h : composed.books.composer k = some n) :
    n.components = [(.int 1, 2)] := by
  rcases k with _ | _ | _ | _ | k
  all_goals simp [Session.books, Session.core, composed, NodeKind.composer?] at h
  exact h ▸ rfl

lemma agree_composed : composed.books.Agree := by
  refine ⟨⟨fun c n hc => ?_, fun k n hk => ?_⟩, fun c n hc hl => ?_, fun c n hc hevent => ?_⟩
  · rcases component_composed hc with ⟨-, rfl⟩ | rfl
    · exact ⟨fun _ => ⟨1, rfl⟩, fun _ => rfl⟩
    · exact ⟨nofun, nofun⟩
  · refine ⟨fun e he => ?_, ?_⟩
    · rw [composer_composed hk, List.mem_singleton] at he
      exact ⟨1, he ▸ rfl⟩
    · rw [composer_composed hk]
      exact List.nodup_singleton _
  · rcases component_composed hc with ⟨rfl, rfl⟩ | rfl
    · refine ⟨{ wrapped := 0, remaps := .map [], components := [(.int 1, 2)] }, ?_, ?_⟩
      · simp [Session.books, Session.core, composed, NodeKind.composer?]
      · simp [ComposerNode.holder, Value.alike_int]
    · cases hl
  · rcases component_composed hc with ⟨-, rfl⟩ | rfl
    · rfl
    · cases hevent

lemma LoadsFresh.of_refused {t : Session}
    (hrun : (loadComponent k x intra extra).run s = .ok (.int (-1)) t)
    (hnew : ∀ kn, s.books.composer k = some kn → kn.holder (.int (-1)) = none) :
    LoadsFresh s k x intra extra := by
  refine ⟨fun v u hu => ?_, fun e u hu => ?_⟩
  · obtain ⟨rfl, rfl⟩ : .int (-1) = v ∧ t = u := by simpa [hrun] using hu
    exact ⟨-1, rfl, hnew⟩
  · simp [hrun] at hu

def stopped : Session :=
  step composed (.exits 0 0)

lemma loadComponent_stopped :
    (loadComponent 1 (nodeValue 3) (.bool true) []).run stopped =
      .ok (.int (-1)) ((loadComponent 1 (nodeValue 3) (.bool true) []).after stopped) := by
  with_unfolding_all rfl

lemma loadsFresh_stopped : LoadsFresh stopped 1 (nodeValue 3) (.bool true) [] := by
  refine .of_refused loadComponent_stopped fun kn hk => ?_
  have hcomponents : kn.components = [(.int 1, 2)] := composer_composed hk
  simp [ComposerNode.holder, hcomponents, Value.alike_int]

/-- A load into the stopped composer is refused, and the component that is loaded is not unloaded:
this is in good order, and the books agree. -/
theorem books_of_run_stopped :
    let acts : List Act := [.exits 0 0, .load 1 (nodeValue 3) (.bool true) [],
      .shutdown 2 (.str "done") (.str "SIGTERM") (.int 5)]
    composed.books.Agree ∧ Along Fresh composed acts ∧ Along Orderly composed acts ∧
      (((run composed acts).books.component 2).map ComponentNode.isLoaded = some true) ∧
      ∀ c n, (run composed acts).books.component c = some n →
        (n.isLoaded ↔ (run composed acts).books.Maps c n) ∧
          (n.isLoaded ↔ n.terminated = false) := by
  intro acts
  have hfresh : Along Fresh composed acts := ⟨trivial, loadsFresh_stopped, trivial, trivial⟩
  have hnone : (step stopped (.load 1 (nodeValue 3) (.bool true) [])).books.composer 2 = none := by
    with_unfolding_all rfl
  have horderly : Along Orderly composed acts := by
    refine ⟨trivial, fun e t hrun => ?_, ⟨.inl fun kn hk => ?_, fun kn hk => ?_⟩, trivial⟩
    · cases loadComponent_stopped.symm.trans hrun
    · cases hnone.symm.trans hk
    · cases hnone.symm.trans hk
  exact ⟨agree_composed, hfresh, horderly, by with_unfolding_all rfl,
    (books_of_run agree_composed hfresh).2.1 horderly⟩

/-- A start that is refused gives a component a number that is in no book; a stopped composer that
is asked to end leaves a component without a number that does not count as ended; and a composer
that is asked to end without waiting has the component in its book as before. -/
theorem books_disagree_composed :
    let started : List Act := [.exits 0 0, .start 3 (.bool true) []]
    let ended : List Act := [.exits 0 0, .shutdown 1 (.str "done") (.str "SIGTERM") (.int 5)]
    composed.books.Agree ∧
      (Along Fresh composed started ∧ ∃ n, (run composed started).books.component 3 = some n ∧
        n.isLoaded ∧ ¬ (run composed started).books.Maps 3 n) ∧
      (Along Fresh composed ended ∧ ∃ n, (run composed ended).books.component 2 = some n ∧
        ¬ n.isLoaded ∧ n.terminated = false) ∧
      ∃ kn, (run composed [.shutdown 1 (.str "done") (.str "SIGTERM") (.int 0)]).books.composer 1 =
        some kn ∧ kn.components = [(.int 1, 2)] := by
  intro started ended
  refine ⟨agree_composed, ⟨⟨trivial, fun n hn => ?_, trivial⟩, ?_⟩,
    ⟨⟨trivial, trivial, trivial⟩, ?_⟩, ?_⟩
  · obtain ⟨hc, -⟩ | rfl := component_composed hn
    · cases hc
    · exact loadsFresh_stopped
  · refine ⟨{ composer := 1, componentId := .int (-1), terminated := false },
      by with_unfolding_all rfl, rfl, ?_⟩
    rintro ⟨kn, hk, hholder⟩
    have hbook : (run composed started).books.composer 1 =
        some { wrapped := 0, remaps := .map [], components := [(.int 1, 2)] } := by
      with_unfolding_all rfl
    obtain rfl := Option.mem_unique hbook hk
    simp [ComposerNode.holder, Value.alike_int] at hholder
  · exact ⟨{ composer := 1, terminated := false }, by with_unfolding_all rfl,
      Bool.false_ne_true, rfl⟩
  · have hk : composed.books.composer 1 =
        some { wrapped := 0, remaps := .map [], components := [(.int 1, 2)] } := by
      simp [Session.books, Session.core, composed, NodeKind.composer?]
    obtain ⟨left, hleft⟩ := exists_leaves hk (.str "done") (.str "SIGTERM") (.int 0)
    exact ⟨left, hleft.book, hleft.unawaited (by decide +kernel)⟩

end Launchpad.Composition
