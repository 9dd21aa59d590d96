import Launchpad.Proofs.Composition.Loading

/-!
What asking nodes to end does to the books. Components lose their numbers, and composers strike out
what a process has confirmed; nothing is written down. A composer that is found stopped takes the
numbers of its components away and leaves everything else as it is.
-/

namespace Launchpad

/-- A book later on, while nodes are asked to end. It stays whole if no answers are waited for. -/
structure ComposerNode.Shrinks (waits : Prop) (n m : ComposerNode) : Prop where
  wrapped : m.wrapped = n.wrapped
  sublist : m.components.Sublist n.components
  whole : ¬ waits → m.components = n.components

namespace ComposerNode.Shrinks

variable {waits : Prop} {n m l : ComposerNode}

lemma refl (n : ComposerNode) : n.Shrinks waits n :=
  ⟨rfl, List.Sublist.refl _, fun _ => rfl⟩

lemma trans (h : n.Shrinks waits m) (h' : m.Shrinks waits l) : n.Shrinks waits l :=
  ⟨h'.wrapped.trans h.wrapped, h'.sublist.trans h.sublist,
    fun hw => (h'.whole hw).trans (h.whole hw)⟩

lemma erase (hw : waits) (v : Value) (n : ComposerNode) : n.Shrinks waits (n.erase v) :=
  ⟨rfl, List.filter_sublist, fun h => absurd hw h⟩

end ComposerNode.Shrinks

variable {k c : Nat} {kn kn' : ComposerNode}

namespace Books

/-- One step of an ending: a component loses its number, and its composer may strike it out if
answers are waited for. Where stopped composers can be met, numbers are also just taken away. -/
inductive Closes (waits stopped : Prop) (b : Books) : Books → Prop
  | release {c : Nat} {n : ComponentNode} (hc : b.component c = some n) (hn : n.isLoaded) :
    Closes waits stopped b (b.release c)
  | unload {c : Nat} {n : ComponentNode} (hw : waits) (hc : b.component c = some n)
    (hn : n.isLoaded) : Closes waits stopped b (b.forget n.composer n.componentId (some c))
  | unnumber (hs : stopped) (c : Nat) : Closes waits stopped b (b.unnumber c)

/-- Has no component in the book of a composer a number? -/
def Vacant (b : Books) (k : Nat) : Prop :=
  ∀ kn, b.composer k = some kn → ∀ e ∈ kn.components, ∀ n, b.component e.2 = some n → ¬ n.isLoaded

variable {waits stopped : Prop} {b b' : Books}
variable {n : ComponentNode}

namespace Closes

lemma sound (h : Closes waits stopped b b') (hb : b.Sound) : b'.Sound := by
  cases h with
  | release hc hn => exact hb.release _
  | unload hw hc hn => exact hb.forget _ _ _
  | unnumber hs c => exact hb.unnumber c

lemma agree (h : Closes waits False b b') (hb : b.Agree) : b'.Agree := by
  cases h with
  | release hc hn => exact hb.release _
  | unload hw hc hn => exact hb.unload hc hn
  | unnumber hs c => exact hs.elim

lemma exists_after (h : Closes waits stopped b b') (hk : b.composer k = some kn) :
    ∃ kn', b'.composer k = some kn' ∧ kn.Shrinks waits kn' := by
  cases h with
  | release hc hn => exact ⟨kn, hk, .refl kn⟩
  | unnumber hs c => exact ⟨kn, hk, .refl kn⟩
  | @unload c n hw hc hn =>
    by_cases hsame : k = n.composer
    · subst hsame
      exact ⟨kn.erase n.componentId, composer_self hk, .erase hw _ kn⟩
    · exact ⟨kn, (composer_ne hsame).trans hk, .refl kn⟩

lemma exists_before (h : Closes waits stopped b b') (hk' : b'.composer k = some kn') :
    ∃ kn, b.composer k = some kn := by
  cases h with
  | release hc hn => exact ⟨kn', hk'⟩
  | unnumber hs c => exact ⟨kn', hk'⟩
  | unload hw hc hn =>
    rcases composer_cases hk' with ⟨-, hk⟩ | ⟨rfl, kn, hk, -⟩
    · exact ⟨kn', hk⟩
    · exact ⟨kn, hk⟩

lemma loaded_before (h : Closes waits stopped b b') (hc : b'.component c = some n)
    (hn : n.isLoaded) : b.component c = some n := by
  cases h with
  | release | unload | unnumber =>
    rcases component_cases hc with ⟨-, hc⟩ | ⟨-, m, -, rfl⟩
    · exact hc
    · cases hn

lemma unloaded_of_erased (h : Closes waits False b b') (hb : b.Agree)
    (hk : b.composer k = some kn) (hk' : b'.composer k = some kn') {e : Value × Nat}
    (he : e ∈ kn.components) (he' : e ∉ kn'.components) (hn : b'.component e.2 = some n) :
    ¬ n.isLoaded := by
  cases h with
  | release hc hl =>
    obtain rfl : kn = kn' := Option.mem_unique hk hk'
    exact absurd he he'
  | unnumber hs c => exact hs.elim
  | @unload c m hw hc hl =>
    rcases composer_cases hk' with ⟨-, hsame⟩ | ⟨rfl, ko, hko, rfl⟩
    · obtain rfl : kn = kn' := Option.mem_unique hk hsame
      exact absurd he he'
    · obtain rfl : kn = ko := Option.mem_unique hk hko
      obtain ⟨z, hz⟩ := (hb.component c m hc).number hl
      obtain ⟨kc, hkc, hholder⟩ := hb.maps c m hc hl
      obtain rfl : kn = kc := Option.mem_unique hk hkc
      -- The book has only one entry of that number, and this is the entry of the component.
      have htidy := hb.composer _ kn hk
      have halike : e.1.alike m.componentId := by
        by_contra hne
        exact he' (List.mem_filter.2 ⟨he, by simpa using hne⟩)
      obtain ⟨y, hy⟩ := htidy.keys e he
      rw [hy, hz, Value.alike_int, beq_iff_eq] at halike
      rw [hz, htidy.holder_int_iff] at hholder
      have hentry : e = (.int z, c) :=
        List.inj_on_of_nodup_map htidy.distinct he hholder (by rw [hy, halike])
      rcases component_cases (b := b) hn with ⟨hne, -⟩ | ⟨-, l, -, rfl⟩
      · exact absurd (congrArg Prod.snd hentry) hne
      · exact Bool.false_ne_true

end Closes

def Closing (waits stopped : Prop) : Books → Books → Prop :=
  Relation.ReflTransGen (Closes waits stopped)

namespace Closing

lemma sound (h : Closing waits stopped b b') (hb : b.Sound) : b'.Sound := by
  induction h with
  | refl => exact hb
  | tail _ hstep ih => exact hstep.sound ih

lemma agree (h : Closing waits False b b') (hb : b.Agree) : b'.Agree := by
  induction h with
  | refl => exact hb
  | tail _ hstep ih => exact hstep.agree ih

lemma exists_after (h : Closing waits stopped b b') (hk : b.composer k = some kn) :
    ∃ kn', b'.composer k = some kn' ∧ kn.Shrinks waits kn' := by
  induction h with
  | refl => exact ⟨kn, hk, .refl kn⟩
  | tail _ hstep ih =>
    obtain ⟨km, hkm, hshrinks⟩ := ih
    obtain ⟨kn', hk', hshrinks'⟩ := hstep.exists_after hkm
    exact ⟨kn', hk', hshrinks.trans hshrinks'⟩

lemma exists_before (h : Closing waits stopped b b') (hk' : b'.composer k = some kn') :
    ∃ kn, b.composer k = some kn ∧ kn.Shrinks waits kn' := by
  have hsome : ∃ kn, b.composer k = some kn := by
    induction h generalizing kn' with
    | refl => exact ⟨kn', hk'⟩
    | tail _ hstep ih =>
      obtain ⟨km, hkm⟩ := hstep.exists_before hk'
      exact ih hkm
  obtain ⟨kn, hk⟩ := hsome
  obtain ⟨ko, hko, hshrinks⟩ := h.exists_after hk
  obtain rfl : ko = kn' := Option.mem_unique hko hk'
  exact ⟨kn, hk, hshrinks⟩

lemma loaded_before (h : Closing waits stopped b b') (hc : b'.component c = some n)
    (hn : n.isLoaded) : b.component c = some n := by
  induction h with
  | refl => exact hc
  | tail _ hstep ih => exact ih (hstep.loaded_before hc hn)

lemma vacant (h : Closing waits stopped b b') (hb : b.Vacant k) : b'.Vacant k := by
  intro kn' hk' e he n hn hl
  obtain ⟨kn, hk, hshrinks⟩ := h.exists_before hk'
  exact hb kn hk e (hshrinks.sublist.subset he) n (h.loaded_before hn hl) hl

lemma unloaded_of_erased (h : Closing waits False b b') (hb : b.Agree)
    (hk : b.composer k = some kn) (hk' : b'.composer k = some kn') {e : Value × Nat}
    (he : e ∈ kn.components) (he' : e ∉ kn'.components) (hn : b'.component e.2 = some n) :
    ¬ n.isLoaded := by
  induction h generalizing kn' n with
  | refl =>
    obtain rfl : kn = kn' := Option.mem_unique hk hk'
    exact absurd he he'
  | @tail m l hrun hstep ih =>
    obtain ⟨km, hkm, -⟩ := Closing.exists_after hrun hk
    by_cases hem : e ∈ km.components
    · exact hstep.unloaded_of_erased (Closing.agree hrun hb) hkm hk' hem he' hn
    · exact fun hl => ih hkm hem (hstep.loaded_before hn hl) hl

end Closing

/-! ## Numbers that are taken away -/

variable {js : List Nat}

lemma foldl_unnumber_eq_self (h : ∀ j ∈ js, ∀ n, b.component j = some n → ¬ n.isLoaded) :
    js.foldl unnumber b = b := by
  induction js with
  | nil => rfl
  | cons j js ih =>
    obtain ⟨hj, hjs⟩ := List.forall_mem_cons.1 h
    have hself : b.unnumber j = b :=
      onComponent_eq_self fun n hn => ComponentNode.unnumbered_eq (hj n hn)
    rw [List.foldl_cons, hself]
    exact ih hjs

lemma closing_unnumber (hs : stopped) (js : List Nat) (b : Books) :
    Closing waits stopped b (js.foldl unnumber b) := by
  induction js generalizing b with
  | nil => exact .refl
  | cons j js ih => exact Relation.ReflTransGen.head (.unnumber hs j) (ih _)

lemma not_loaded_of_unnumber {j : Nat} (hj : j ∈ js)
    (h : (js.foldl unnumber b).component j = some n) : ¬ n.isLoaded := by
  induction js generalizing b with
  | nil => cases hj
  | cons i js ih =>
    rcases List.mem_cons.1 hj with rfl | hj
    · -- Nothing gives the number back.
      intro hl
      have hrest : Closing False True (b.unnumber j) (js.foldl unnumber (b.unnumber j)) :=
        closing_unnumber trivial js _
      rcases component_cases (hrest.loaded_before h hl) with ⟨hne, -⟩ | ⟨-, m, -, rfl⟩
      · exact hne rfl
      · cases hl
    · exact ih hj h

lemma closing_takeNumbers (hmet : stopped ∨ b.Vacant k) (hk : b.composer k = some kn) :
    Closing waits stopped b ((kn.components.map (·.2)).foldl unnumber b) := by
  rcases hmet with hs | hvacant
  · exact closing_unnumber hs _ b
  · rw [foldl_unnumber_eq_self]
    · exact .refl
    · intro j hj
      obtain ⟨e, he, rfl⟩ := List.mem_map.1 hj
      exact hvacant kn hk e he

end Books

def Unwinds (waits stopped : Prop) (s t : Session) : Prop :=
  Books.Closing waits stopped s.books t.books

variable {s : Session}

lemma SameBooks.unwinds {waits stopped : Prop} {t : Session} (h : SameBooks s t) :
    Unwinds waits stopped s t := by
  unfold Unwinds
  rw [h]
  exact .refl

instance (waits stopped : Prop) : Patient (Unwinds waits stopped) where
  refl _ := .refl
  trans _ _ _ h h' := Relation.ReflTransGen.trans h h'
  calm _ _ h := (Tolerant.calm (R := SameBooks) _ _ h).unwinds
  aged _ _ h := (Patient.aged (R := SameBooks) _ _ h).unwinds

/-- Is a composer found running, if this can be found out at all? -/
def Session.FindsRunning (s : Session) (k : Nat) : Prop :=
  ∀ kn, s.books.composer k = some kn →
    ∀ v t, (Launch.isRunning kn.wrapped).run s = .ok v t → v.truthy

/-- Has no composer that is reached through a composer a component with a number in its book? -/
def Session.VacantBelow (s : Session) (k : Nat) : Prop :=
  ∀ kn, s.books.composer k = some kn → ∀ i, s.core.Reaches kn.wrapped i → s.books.Vacant i

lemma wrapped?_of_composer (h : s.books.composer k = some kn) :
    s.core.wrapped? k = some kn.wrapped := by
  obtain ⟨kind, hkind, hview⟩ := Option.bind_eq_some_iff.1 h
  rw [Session.Core.wrapped?, hkind]
  cases kind <;> simp_all [NodeKind.composer?, NodeKind.wrapped?]

lemma Session.VacantBelow.wrapped (h : s.VacantBelow k) (hk : s.books.composer k = some kn)
    {p : Prop} : (s.books.Vacant kn.wrapped ∨ p) ∧ s.VacantBelow kn.wrapped := by
  refine ⟨.inl (h kn hk _ (.refl _)), fun kw hkw i hi => h kn hk i ?_⟩
  exact .wraps (wrapped?_of_composer hkw) hi

namespace Launch

variable {waits stopped : Prop}
variable {s : Session} {timeout : Value}

/-! ## Nodes that keep no books -/

lemma sameBooks_modifyService (i : Nat) (f : ServiceNode → ServiceNode) :
    Keeps SameBooks (modifyService i f) := by
  refine keeps_modify fun s => ?_
  simp only [SameBooks, Session.books, Session.core, Books.mk.injEq]
  refine ⟨funext fun j => view_modify s.nodes i j id fun _ n => ?_,
    funext fun j => view_modify s.nodes i j id fun _ n => ?_⟩
  all_goals cases hkind : n.kind <;> simp [hkind, NodeKind.component?, NodeKind.composer?]

structure WindsBeside (known : Prop) (P : Nat → Prop) (s t : Session) : Prop
    extends Winds known P s t where
  books : SameBooks s t

instance (known : Prop) (P : Nat → Prop) : Winding known P (WindsBeside known P) where
  refl s := ⟨refl_of (Winds known P) s, rfl⟩
  trans _ _ _ h h' := ⟨h.toWinds.trans h'.toWinds, trans_of SameBooks h.books h'.books⟩
  calm _ _ h := ⟨Tolerant.calm _ _ h, Tolerant.calm _ _ h⟩
  aged _ _ h := ⟨Patient.aged _ _ h, Patient.aged _ _ h⟩
  winds h := h.toWinds
  signalled hknown hi hpid n := ⟨Winding.signalled hknown hi hpid n, rfl⟩
  groupSignalled hi hservice n pid := ⟨Winding.groupSignalled hi hservice n pid, rfl⟩
  service hi f s := ((keeps_modifyService hi f s).and (sameBooks_modifyService _ f s)).imp
    (fun _ _ h => ⟨h.1, h.2⟩) fun _ _ h => ⟨h.1, h.2⟩

/-! ## Components -/

lemma yields_requestUnload {n : ComponentNode} (hn : s.books.component c = some n)
    (reason timeout : Value) :
    Yields (requestUnload c n reason timeout) s
      (fun done t => t.books = if done && !(timeout == .int 0)
        then s.books.forget n.composer n.componentId (some c) else s.books)
      (fun _ t => t.books = s.books) := by
  have htarget : s.books.target (nodeValue c) = (n.componentId, some c) := by
    simp [Books.target, nodeValue, hn]
  refine keeps_getNode.along (refl_of SameBooks s) fun m u hu => ?_
  refine keeps_display.along hu fun why u hu => ?_
  refine keeps_warn.along hu fun _ u hu => ?_
  refine (yields_unloadComponent n.composer (nodeValue c) timeout u).imp (fun done t ht => ?_)
    fun _ t ht => ht.trans hu
  rw [hu, htarget] at ht
  exact ht

/-- A component without a number is left alone. Otherwise it counts as ended as soon as the request
has returned, whatever has come of it. -/
lemma yields_shutdownComponent (c : Nat) (reason timeout : Value) (s : Session) :
    Yields (shutdownComponent c reason timeout) s
      (fun _ t => ∃ n, s.books.component c = some n ∧ ((¬ n.isLoaded ∧ t.books = s.books) ∨
        (n.isLoaded ∧ ∃ done u, (requestUnload c n reason timeout).run s = .ok done u ∧
          t.books = u.books.release c)))
      (fun e t => t = s ∧ s.books.component c = none ∨ ∃ n, s.books.component c = some n ∧
        (requestUnload c n reason timeout).run s = .error e t) := by
  refine (yields_getComponent c s).seq ?_ fun _ t ht => .inl ht
  rintro n s ⟨rfl, hn⟩
  split
  · next hloaded =>
    refine (yields_self _ s).seq (fun done u hu => ?_) fun _ t ht => .inr ⟨n, hn, ht⟩
    exact (yields_modifyComponent c _ u).map fun _ t ht => ⟨n, hn, .inr ⟨hloaded, done, u, hu, ht⟩⟩
  · next hloaded => exact .pure ⟨n, hn, .inl ⟨hloaded, rfl⟩⟩

lemma unwinds_shutdownComponent (hw : (timeout == .int 0) = false → waits) (c : Nat)
    (reason : Value) : Keeps (Unwinds waits stopped) (shutdownComponent c reason timeout) := by
  intro s
  refine (yields_shutdownComponent c reason timeout s).imp ?_ ?_
  · rintro - t ⟨n, hn, ⟨-, ht⟩ | ⟨hloaded, done, u, hu, ht⟩⟩
    · exact SameBooks.unwinds ht
    · refine .single ?_
      rw [ht, yields_run_ok (yields_requestUnload hn reason timeout) hu]
      split
      · next hdone =>
        rw [Books.release_forget]
        exact .unload (hw (by simp_all)) hn hloaded
      · exact .release hn hloaded
  · rintro e t (⟨rfl, -⟩ | ⟨n, hn, ht⟩)
    · exact refl_of _ t
    · exact SameBooks.unwinds (yields_run_error (yields_requestUnload hn reason timeout) ht)

/-! ## All kinds of nodes -/

lemma yields_managedComponents (k : Nat) (s : Session) :
    Yields (managedComponents k) s
      (fun js t => t = s ∧ ∃ kn, s.books.composer k = some kn ∧ js = kn.components.map (·.2))
      (fun _ t => t = s ∧ s.books.composer k = none) := by
  refine (yields_getComposer k s).bind ?_
  rintro kn s ⟨rfl, hk⟩
  exact .pure ⟨rfl, kn, hk, rfl⟩

variable {E : Post Stop} {running : Value} {u : Session}

lemma yields_takeNumbers (js : List Nat) (s : Session) :
    Yields (js.forM fun j => modifyComponent j fun c => { c with componentId := .null }) s
      (fun _ t => t.books = js.foldl Books.unnumber s.books) E := by
  induction js generalizing s with
  | nil => exact .pure rfl
  | cons j js ih =>
    refine (yields_modifyComponent j _ s).bind fun _ m hm => ?_
    refine (ih m).map fun _ t ht => ?_
    rw [ht, hm]
    rfl

lemma unwinds_shutdownWith (hw : (timeout == .int 0) = false → waits) (reason signal : Value)
    (fuel : Nat) :
    ∀ (i : Nat) {s m : Session}, Unwinds waits stopped s m →
      (stopped ∨ ((s.books.Vacant i ∨ m.FindsRunning i) ∧ s.VacantBelow i)) →
      EndsIn (shutdownWith reason signal timeout fuel i) m (Unwinds waits stopped s) := by
  induction fuel with
  | zero =>
    intro i s m h _
    exact keeps_silent.then h
  | succ fuel ih =>
    intro i s m h hfree
    have beside {x : Launch Unit} (hx : EndsIn x m
      (WindsBeside (SignalKnown signal) (fun _ => True) m)) :
        EndsIn x m (Unwinds waits stopped s) :=
      hx.imp (fun _ _ ht => trans_of _ h ht.books.unwinds)
        fun _ _ ht => trans_of _ h ht.books.unwinds
    simp only [shutdownWith, getNode, yields_bind, yields_get]
    cases hn : m.nodes[i]? with
    | none => exact .throw h
    | some n =>
      rw [yields_pure]
      cases hkind : n.kind with
      | bare => exact Keeps.throw.then h
      | process p => exact beside (winds_shutdownProcess (refl_of _ m) trivial _ _)
      | foreign f => exact beside (winds_shutdownForeign (refl_of _ m) trivial _ _)
      | component c => exact (unwinds_shutdownComponent hw i reason).then h
      | service v => exact beside (keeps_shutdownService trivial _ _ _ m)
      | composer c =>
        have hc : m.books.composer i = some c := by
          simp [Session.books, Session.core, hn, hkind, NodeKind.composer?]
        obtain ⟨kn, hkn, hshrinks⟩ := Books.Closing.exists_before h hc
        refine ((keeps_isRunning.then h).and (yields_self _ m)).seq ?_ fun _ _ ht =>
          ht.1
        rintro running u ⟨hu, hrun⟩
        split
        · next hstopped =>
          have hmet : stopped ∨ s.books.Vacant i := by
            refine hfree.imp_right fun hfree => hfree.1.resolve_right fun hfound => ?_
            simp [hfound c hc running u hrun] at hstopped
          refine (yields_managedComponents i u).seq ?_ fun _ _ ht => ht.1 ▸ hu
          rintro js u ⟨rfl, ku, hku, rfl⟩
          refine (yields_takeNumbers _ u).bind fun _ t ht => ?_
          refine .pure (trans_of (Unwinds waits stopped) hu ?_)
          rw [Unwinds, ht]
          exact Books.closing_takeNumbers (hmet.imp_right fun hvacant => hu.vacant hvacant) hku
        · refine keeps_getNode.along hu fun n u hu => ?_
          refine keeps_managedComponents.along hu fun js u hu => ?_
          refine Keeps.followed (Keeps.forM js fun j _ => ?_) hu (fun _ u hu => ?_) fun _ _ ht => ht
          · refine (unwinds_shutdownComponent hw j reason).catchFault fun f => ?_
            exact keeps_nodeText.bind fun _ => keeps_warn
          · have inner := ih c.wrapped hu (hfree.imp_right fun hfree => by
              rw [hshrinks.wrapped]
              exact hfree.2.wrapped hkn)
            refine inner.catchFault (fun f t ht => ?_) fun _ _ ht => ht
            exact (Keeps.ite .pure .throw).then ht

lemma unwinds_shutdownNode (hw : (timeout == .int 0) = false → waits) (i : Nat)
    (reason signal : Value)
    (hfree : stopped ∨ ((s.books.Vacant i ∨ s.FindsRunning i) ∧ s.VacantBelow i)) :
    EndsIn (shutdownNode i reason signal timeout) s (Unwinds waits stopped s) :=
  .of_bind (.get (unwinds_shutdownWith hw reason signal _ i (refl_of _ s) hfree))

variable (hk : s.books.composer k = some kn) (hrun : (isRunning kn.wrapped).run s = .ok running u)
include hk hrun

lemma yields_shutdownNode_composer {Q : Post Unit} (reason signal timeout : Value)
    (hstopped : running.truthy = false → Yields ((kn.components.map (·.2)).forM fun j =>
      modifyComponent j fun c => { c with componentId := .null }) u Q E)
    (hrunning : running.truthy → ∀ logger, Yields (do
      (kn.components.map (·.2)).forM fun j =>
        catchFault (shutdownComponent j reason timeout) fun f => do
          warn logger s!"Failed to unload component {← nodeText j}: {f.text}"
      unlessImplemented (shutdownWith reason signal timeout s.nodes.size kn.wrapped)) u Q E) :
    Yields (shutdownNode k reason signal timeout) s Q E := by
  have hu : u.books = s.books := yields_run_ok (keeps_isRunning (R := SameBooks) s) hrun
  have node {t : Session} (ht : t.books.composer k = some kn) :
      ∃ n, t.nodes[k]? = some n ∧ n.kind = .composer kn := by
    obtain ⟨n, hn, hview⟩ := node_of_kind ht
    cases hkind : n.kind <;> simp_all [NodeKind.composer?]
  have managed {f : List Nat → Launch Unit} (h : Yields (f (kn.components.map (·.2))) u Q E) :
      Yields (managedComponents k >>= f) u Q E := by
    refine (yields_managedComponents k u).seq ?_ fun _ t ht => ?_
    · rintro js u ⟨rfl, ku, hku, rfl⟩
      rw [hu, hk] at hku
      obtain rfl := Option.some.inj hku
      exact h
    · simp [hu, hk] at ht
  obtain ⟨n, hn, hkind⟩ := node hk
  obtain ⟨m, hm, -⟩ := node (hu ▸ hk)
  simp only [shutdownNode, shutdownWith, getNode, yields_bind, yields_get, hn, yields_pure, hkind]
  refine (yields_self _ s).imp (fun v t ht => ?_) fun e t ht => ?_
  · obtain ⟨rfl, rfl⟩ : running = v ∧ u = t := by simpa [hrun] using ht
    cases htruthy : running.truthy with
    | false =>
      refine managed ((hstopped htruthy).bind fun _ t ht => ?_)
      exact .pure ht
    | true =>
      rw [if_neg (by simp), yields_bind, yields_bind, yields_get]
      simp only [hm, yields_pure]
      exact managed (hrunning htruthy _)
  · simp [hrun] at ht

lemma yields_shutdownNode_stopped (hstopped : running.truthy = false)
    (reason signal timeout : Value) :
    Succeeds (shutdownNode k reason signal timeout) s
      (fun _ t => t.books = (kn.components.map (·.2)).foldl Books.unnumber s.books) := by
  have hu : u.books = s.books := yields_run_ok (keeps_isRunning (R := SameBooks) s) hrun
  refine yields_shutdownNode_composer hk hrun reason signal timeout (fun _ => ?_) fun h => ?_
  · exact (yields_takeNumbers _ u).map fun _ t ht => hu ▸ ht
  · simp [hstopped] at h

end Launch

end Launchpad
