import Launchpad.Proofs.Terminal.Aside
import Launchpad.Proofs.Terminal.Screen
import Mathlib.Data.List.ReduceOption

/-!
Keys and the menu. Whatever is pressed and typed, also behind a key that has failed, the selection of
the menu is one of its items. As long as no key has failed, a key fails for a reason of the terminal's
own exactly where it is stuck: it moves in an empty menu, it is a digit and there is no item at the
place that digits choose, or the mode refuses the item that it accepts. The menu of a node refuses
the information about it if that is no markup.
-/

namespace Launchpad

open ScreenLevel Terminal

/-- The selection is one of the items, and the levels are among those that are offered. -/
structure Terminal.Settled (t : Terminal) : Prop where
  menu : t.menu.Fits
  level : t.level ∈ ScreenLevel.all
  prev : t.prevLevel ∈ ScreenLevel.all

def NodeItem (v : Value) : Prop :=
  ∃ style name i, v = .tuple [.str style, .str name, .ref (.node i)]

def NamedItem (v : Value) : Prop :=
  ∃ style name rest, v = .tuple (style :: .str name :: rest)

def Mode.onNode : Mode → Bool
  | .nodeMenu | .nodeLifecycle | .confirmTakeover | .confirmRestart | .confirmKill => true
  | _ => false

structure Terminal.Ready (t : Terminal) : Prop where
  searched : t.mode = .searchNode → ∃ xs, t.menu.items = .list xs ∧ ∀ x ∈ xs, NodeItem x
  levels : t.mode = .logLevel → ∃ xs, t.menu.items = .list xs ∧ ∀ x ∈ xs, NamedItem x
  selected : t.mode.onNode = true → ∃ i, t.selected = .ref (.node i)

lemma Terminal.ready_of_onNode {t : Terminal} {i : Nat} (hmode : t.mode.onNode = true)
    (hselected : t.selected = .ref (.node i)) : t.Ready :=
  ⟨fun hm => by simp [hm, Mode.onNode] at hmode, fun hm => by simp [hm, Mode.onNode] at hmode,
    fun _ => ⟨i, hselected⟩⟩

namespace Session

def Settled (b : Prop) (s : Session) : Prop :=
  ∃ t, s.terminal = some t ∧ t.Settled ∧ (b → t.Ready)

def stage? (s : Session) (i : Nat) : Option Stage :=
  s.nodes[i]?.bind fun n => n.lifecycle.bind (·.stage)

def Unstaged (s : Session) (t : Terminal) : Prop :=
  ∃ i, t.selected = .ref (.node i) ∧ s.stage? i = none

open Launch in
/-- What there is to tell about the node that is selected, which is nothing if it fails to tell, is
not well-formed as markup. -/
def Unprintable (s : Session) (t : Terminal) : Prop :=
  ∃ i, t.selected = .ref (.node i) ∧ Markup.checkStyle
    ((result? (infoSheet i) ((enterMode .nodeInfo).after s)).getD "") ≠ .ok ()

/-- The mode has no use for an item: a lifecycle without a stage, information that cannot be printed,
or a name that is no stage or no level. -/
def Refuses (s : Session) (t : Terminal) (item : Value) : Prop :=
  match t.mode with
  | .nodeMenu => item = .str "lifecycle" ∧ s.Unstaged t ∨ item = .str "info" ∧ s.Unprintable t
  | .nodeLifecycle => ∀ stage : Stage, item ≠ .str stage.name
  | .logLevel => ∀ l ∈ ScreenLevel.all, ∀ style rest, item ≠ .tuple (style :: .str l.name :: rest)
  | _ => False

open Launch in
/-- A key fails for a reason of the terminal's own. -/
def Stuck (s : Session) (t : Terminal) : Key → Prop
  | .tab | .backTab => t.menu.items = .list []
  | .enter => ∃ item, t.menu.current = .ok item ∧ s.Refuses t item
  | .digit _ => ∀ xs item, t.menu.items = .list xs → xs[8]? = some item →
    ((setMenu (·.select (.int 8))).after s).Refuses t item
  | _ => False

end Session

namespace Launch

open Session (Refuses Stuck Unprintable Unstaged stage?)

variable {α β : Type}

/-- A fault leaves the terminal settled. Where `b` holds, it is due to `P`, unless nothing guards
against the faults of others. -/
def Blames (g : Bool) (b P : Prop) (_ : Stop) (s : Session) : Prop :=
  s.Settled False ∧ (b → g = false ∨ P)

/-- An operation of the terminal keeps it settled, whatever ends it. Where `b` holds, it keeps the
terminal ready, and its own faults are due to `P`. -/
def Handles (g : Bool) (b P : Prop) (x : Launch α) (s : Session) : Prop :=
  Yields x s (fun _ u => u.Settled b ∧ (b → ¬ P)) (Blames g b P)

section Handles

variable {s : Session} {t : Terminal} {g : Bool} {b P : Prop} {i : Nat} {Q : Post β}

lemma handles_redrawn {x : Launch Unit} {t' : Terminal}
    (hx : ∀ {E : Post Stop}, Yields x s (fun _ u => Redrawn s t' u) E) (hs : t'.Settled)
    (hb : b → t'.Ready) (hP : b → ¬ P) : Handles g b P x s :=
  hx.weaken fun _ _ hu => ⟨⟨t', hu.terminal, hs, hb⟩, hP⟩

lemma handles_cancelMenu (h : s.terminal = some t) (hs : t.Settled) (hP : b → ¬ P) :
    Handles g b P cancelMenu s :=
  handles_redrawn (yields_cancelMenu h) ⟨hs.menu, hs.level, hs.prev⟩
    (fun _ => ⟨by simp, by simp, by simp [Mode.onNode]⟩) hP

lemma handles_setItems (h : s.terminal = some t) (hs : t.Settled) (hmode : t.mode.onNode = true)
    (hselected : t.selected = .ref (.node i)) (hP : b → ¬ P) {items : List Value} {k : Nat}
    (hk : k < items.length) : Handles g b P (setItems items (.int k)) s :=
  handles_redrawn (yields_setItems h _ _) ⟨⟨items, k, ⟨rfl, rfl⟩, .inr hk⟩, hs.level, hs.prev⟩
    (fun _ => ready_of_onNode hmode hselected) hP

lemma yields_ask [Inhabited α] {x : Launch α} {f : α → Launch β} {A : Session → Prop}
    (hA : ∀ u, A u → u.Settled False) (hx : EndsIn x s A)
    (hf : ∀ a u, A u → Yields (f a) u Q (Blames g b P)) :
    Yields (reach g x >>= f) s Q (Blames g b P) := by
  refine .of_bind (Yields.ite_of (fun _ => (yields_tryCatch _ _).2 ?_) fun hg => ?_)
  · exact hx.imp hf fun _ u hu => .pure (hf _ u hu)
  · exact hx.imp hf fun _ u hu => ⟨hA u hu, fun _ => .inl (Bool.eq_false_iff.2 hg)⟩

variable {item : Value} {mode : Mode} {footer : String → Footer}

section

variable (h : s.terminal = some t) (hs : t.Settled)
include h hs

lemma yields_reach [Inhabited α] {x : Launch α} {f : α → Launch β} (hx : Keeps Aside x)
    (hf : ∀ a u, u.terminal = some t → Yields (f a) u Q (Blames g b P)) :
    Yields (reach g x >>= f) s Q (Blames g b P) :=
  yields_ask (fun _ hu => ⟨t, hu, hs, False.elim⟩)
    ((hx s).imp (fun _ _ hu => hu.trans h) fun _ _ hu => hu.trans h) hf

lemma yields_reachNode {f : Node → Launch β} (hf : ∀ n, Yields (f n) s Q (Blames g b P)) :
    Yields (reach g (getNode i) >>= f) s Q (Blames g b P) :=
  yields_ask (A := (s = ·)) (fun _ hu => hu ▸ ⟨t, h, hs, False.elim⟩) (keeps_getNode s)
    fun n _ hu => hu ▸ hf n

lemma yields_selected {v : Value} {f : Nat → Launch β} (hv : b → ∃ i, v = .ref (.node i))
    (hf : ∀ i, v = .ref (.node i) → Yields (f i) s Q (Blames g b P)) :
    Yields (nodeOf v >>= f) s Q (Blames g b P) := by
  refine .of_bind ?_
  unfold nodeOf
  split
  · exact .pure (hf _ rfl)
  · next hother =>
    refine .throw ⟨⟨t, h, hs, False.elim⟩, fun hb => ?_⟩
    exact absurd (hv hb).choose_spec (hother _)

/-! ## Modes -/

lemma yields_matchingItems (text : String) :
    Yields (matchingItems text g) s (fun items u => u.terminal = some t ∧ ∀ x ∈ items, NodeItem x)
      (Blames g b P) := by
  refine yields_terminal h ((yields_mapM (R := Aside) (Q := fun o => ∀ x ∈ o, NodeItem x) _
    (fun i _ u hu => ?_) (refl_of Aside s)).bind fun found u hu => ?_)
  · have hu' := hu.trans h
    refine yields_reachNode hu' hs fun n => Yields.ite ?_ (.pure ⟨hu, by simp⟩)
    refine yields_reach hu' hs keeps_isRunning fun _ v hv => .pure ⟨?_, ?_⟩
    · exact hv.trans h.symm
    · rintro _ ⟨⟩
      exact ⟨_, _, i, rfl⟩
  · exact .pure ⟨hu.1.trans h, fun x hx => hu.2 _ (List.reduceOption_mem_iff.1 hx) x rfl⟩

lemma handles_setSearch (ht : b → t.Ready) (hP : b → ¬ P) (text : String) :
    Handles g b P (setSearch text g) s := by
  refine yields_terminal h (Yields.ite ?_ (.pure ⟨⟨t, h, hs, ht⟩, hP⟩))
  refine (yields_modifyTerminal h _).bind fun _ u hu => ?_
  refine (yields_matchingItems hu.terminal ⟨hs.menu, hs.level, hs.prev⟩ text).bind fun items v hv => ?_
  obtain ⟨xs, i, hshows, -⟩ := hs.menu
  obtain ⟨j, hj, hfits⟩ := hshows.exists_updateItems items
  refine handles_redrawn (yields_setMenu hv.1 hj) ⟨⟨items, j, ⟨rfl, rfl⟩, hfits⟩, hs.level, hs.prev⟩ ?_ hP
  refine fun hb => ⟨fun _ => ⟨items, rfl, hv.2⟩, fun _ => ⟨items, rfl, fun x hx => ?_⟩, (ht hb).selected⟩
  obtain ⟨style, name, i, rfl⟩ := hv.2 x hx
  exact ⟨_, name, _, rfl⟩

lemma handles_enterSearch (hP : b → ¬ P) : Handles g b P (enterMode .searchNode g) s := by
  have hsame : Settled { t with mode := .searchNode, footer := .text "" } :=
    ⟨hs.menu, hs.level, hs.prev⟩
  refine (yields_modifyTerminal h _).bind fun _ u hu => ?_
  refine (yields_modifyTerminal hu.terminal _).bind fun _ v hv => yields_terminal hv.terminal ?_
  refine yields_reach hv.terminal hsame (aside_allNodes true true _) fun nodes w hw => ?_
  refine (yields_modifyTerminal hw _).bind fun _ x hx => ?_
  refine (yields_matchingItems hx.terminal ⟨hs.menu, hs.level, hs.prev⟩ "").bind fun items y hy => ?_
  have hfits := (Nat.eq_zero_or_pos items.length).imp List.length_eq_zero_iff.1 id
  refine (yields_setItems hy.1 _ _).bind fun _ z hz => .of_bind ?_
  refine (handles_setSearch (P := P) hz.terminal ⟨⟨items, 0, ⟨rfl, rfl⟩, hfits⟩, hs.level, hs.prev⟩
    (fun _ => ⟨fun _ => ⟨items, rfl, hy.2⟩, by simp, by simp [Mode.onNode]⟩) hP "").weaken ?_
  rintro _ a ⟨⟨t', ht', hs', hready⟩, -⟩
  refine handles_redrawn (yields_focus ht' _) ⟨hs'.menu, hs'.level, hs'.prev⟩ (fun hb => ?_) hP
  exact ⟨(hready hb).searched, (hready hb).levels, (hready hb).selected⟩

lemma handles_enterNodeMenu (hP : b → ¬ P) (hcurrent : t.menu.current = .ok item)
    (hitem : b → NodeItem item) : Handles g b P (enterMode .nodeMenu g) s := by
  have hsame (v : Value) : Settled { t with mode := .nodeMenu, selected := v } :=
    ⟨hs.menu, hs.level, hs.prev⟩
  have hnode (hb : b) : ∃ i, Value.item item (.int 2) = .ok (.ref (.node i)) := by
    obtain ⟨_, _, i, rfl⟩ := hitem hb
    exact ⟨i, rfl⟩
  refine (yields_modifyTerminal h _).bind fun _ u hu => yields_terminal hu.terminal ?_
  rw [hcurrent]
  refine .of_bind (.pure (.of_bind (yields_lift.2 ⟨?_, ?_⟩)))
  · intro v hv
    refine (yields_modifyTerminal hu.terminal _).bind fun _ w hw => ?_
    refine yields_selected hw.terminal (hsame v) (fun hb => ?_) fun i hi => ?_
    · obtain ⟨i, hi⟩ := hnode hb
      exact ⟨i, Except.ok.inj (hv.symm.trans hi)⟩
    have offered (choices : List String) {x : Session} (hx : x.terminal = w.terminal) :
        Handles g b P (do
          setFooter (.text (← reach g (getNode i)).fullname)
          setItems (("info" :: choices).map .str)) x := by
      have hx := hx.trans hw.terminal
      refine yields_reachNode hx (hsame v) fun n => (yields_modifyTerminal hx _).bind fun _ y hy => ?_
      exact handles_setItems (k := 0) hy.terminal ⟨hs.menu, hs.level, hs.prev⟩ rfl hi hP (by simp)
    refine yields_reach hw.terminal (hsame v) keeps_isRunning fun _ x hx => Yields.ite ?_ ?_
    · refine yields_reach hx (hsame v) (keeps_isLifecycleNode i _) fun _ y hy => ?_
      refine yields_reachNode hy (hsame v) fun n => .of_bind (.pure ?_)
      exact offered _ (hy.trans hw.terminal.symm)
    · exact .of_bind (.pure (offered _ (hx.trans hw.terminal.symm)))
  · refine fun e he => ⟨⟨_, hu.terminal, ⟨hs.menu, hs.level, hs.prev⟩, False.elim⟩, fun hb => ?_⟩
    obtain ⟨i, hi⟩ := hnode hb
    cases he.symm.trans hi

lemma yields_footer (ht : b → ∃ i, t.selected = .ref (.node i)) {f : Unit → Launch β}
    (hf : ∀ i name u, t.selected = .ref (.node i) →
      Redrawn s { t with mode, footer := footer name } u → Yields (f ()) u Q (Blames g b P)) :
    Yields (do
      modifyTerminal fun t => { t with mode }
      let name ← selectedName g
      setFooter (footer name) >>= f) s Q (Blames g b P) := by
  have hsame : Settled { t with mode } := ⟨hs.menu, hs.level, hs.prev⟩
  refine (yields_modifyTerminal h _).bind fun _ u hu => .of_bind ?_
  refine yields_terminal hu.terminal (yields_selected hu.terminal hsame ht fun i hi => ?_)
  refine yields_reachNode hu.terminal hsame fun n => .pure ?_
  exact (yields_modifyTerminal hu.terminal _).bind fun _ v hv => hf i _ v hi (hu.trans hv)

lemma handles_askNode (ht : b → ∃ i, t.selected = .ref (.node i)) (hP : b → ¬ P)
    (hmode : mode.onNode = true) :
    Handles g b P (do
      modifyTerminal fun t => { t with mode }
      setFooter (footer (← selectedName g))
      setItems yesNo) s :=
  yields_footer h hs ht fun _ _ _ hi hu =>
    handles_setItems (k := 0) hu.terminal ⟨hs.menu, hs.level, hs.prev⟩ hmode hi hP (by decide)

end

lemma yields_getLifecycle_stage (s : Session) (i : Nat) :
    Yields (getLifecycle i) s (fun l u => u = s ∧ s.stage? i = l.stage) fun _ u =>
      u = s ∧ s.stage? i = none := by
  refine .of_bind (.of_bind (.get ?_))
  unfold stage?
  cases s.nodes[i]? with
  | none => exact .throw ⟨rfl, rfl⟩
  | some n =>
    refine .pure ?_
    cases hl : n.lifecycle with
    | none => exact .throw ⟨rfl, by simp [hl]⟩
    | some l => exact .pure ⟨rfl, by simp [hl]⟩

lemma handles_enterLifecycle (h : s.terminal = some t) (hs : t.Settled)
    (ht : b → ∃ i, t.selected = .ref (.node i))
    (hP : P ↔ s.Unstaged t) : Handles g b P (enterMode .nodeLifecycle g) s := by
  refine yields_footer h hs ht fun i _ u hi hu => yields_terminal hu.terminal ?_
  have hsettled : u.Settled False := ⟨_, hu.terminal, ⟨hs.menu, hs.level, hs.prev⟩, False.elim⟩
  have hstage : P ↔ u.stage? i = none := by
    simp [hP, Unstaged, stage?, hu.nodes, hi]
  dsimp only
  rw [hi]
  refine .of_bind (.pure (.of_bind ?_))
  refine (yields_getLifecycle_stage u i).imp ?_ ?_
  · rintro l _ ⟨rfl, hl⟩
    rw [hl] at hstage
    split
    · next hnone => exact .throw ⟨hsettled, fun _ => .inr (hstage.2 hnone)⟩
    · next stage hsome =>
      have hk : Stage.all.idxOf stage < (Stage.all.map fun s => Value.str s.name).length := by
        cases stage <;> decide
      refine handles_setItems hu.terminal ⟨hs.menu, hs.level, hs.prev⟩ rfl hi (fun _ hp => ?_) hk
      cases (hstage.1 hp).symm.trans hsome
  · rintro _ _ ⟨rfl, hnone⟩
    exact ⟨hsettled, fun _ => .inr (hstage.2 hnone)⟩

/-! ## Items -/

lemma handles_printInfo (h : s.terminal = some t) (hs : t.Settled)
    (ht : b → ∃ i, t.selected = .ref (.node i)) (hP : P ↔ s.Unprintable t) :
    Handles g b P (printInfo g) s := by
  have hsame : Settled { t with mode := .nodeInfo } := ⟨hs.menu, hs.level, hs.prev⟩
  have printed (text : String) {v : Session} (hv : v.terminal = some { t with mode := .nodeInfo })
      (hbad : P ↔ Markup.checkStyle text ≠ .ok ()) : Handles g b P (do
        lift (Markup.checkStyle text)
        emit (.printed [t.bar, "\n", text, t.bar])
        cancelMenu) v := by
    refine .of_bind (yields_lift.2 ⟨fun _ hok => .of_bind (.modify ?_), fun e he => ?_⟩)
    · exact handles_cancelMenu hv hsame fun _ hp => hbad.1 hp hok
    · exact ⟨⟨_, hv, hsame, False.elim⟩, fun _ => .inr (hbad.2 (by simp [he]))⟩
  have entered : Yields (enterMode .nodeInfo) s (fun _ u =>
      u.terminal = some { t with mode := .nodeInfo } ∧ (enterMode .nodeInfo).after s = u)
      (Blames g b P) :=
    .of_bind (.modify (.pure ⟨by rw [h]; rfl, rfl⟩))
  refine entered.bind fun _ u ⟨hu, hafter⟩ => ?_
  refine yields_terminal hu (yields_selected hu hsame ht fun i hi => ?_)
  have hbad : P ↔ Markup.checkStyle ((result? (infoSheet i) u).getD "") ≠ .ok () := by
    rw [hP, Unprintable, hafter]
    refine ⟨?_, fun htext => ⟨i, hi, htext⟩⟩
    rintro ⟨j, hj, htext⟩
    cases hj.symm.trans hi
    exact htext
  have told : Yields (infoSheet i) u
      (fun text v => v.terminal = u.terminal ∧ result? (infoSheet i) u = some text)
      fun _ v => v.terminal = u.terminal ∧ result? (infoSheet i) u = none := by
    refine ((aside_infoSheet i u).and (yields_self _ u)).imp (fun text v hv => ⟨hv.1, ?_⟩)
      fun e v hv => ⟨hv.1, ?_⟩
    · rw [result?, hv.2]
    · rw [result?, hv.2]
  refine .of_bind (Yields.ite_of (fun _ => (yields_tryCatch _ _).2 ?_) fun hg => ?_)
  · refine told.imp (fun text v hv => ?_) fun _ v hv => ?_
    · exact printed text (hv.1.trans hu) (by rw [hbad, hv.2]; rfl)
    · exact .pure (printed "" (hv.1.trans hu) (by rw [hbad, hv.2]; rfl))
  · refine told.imp (fun text v hv => ?_) fun _ v hv => ?_
    · exact printed text (hv.1.trans hu) (by rw [hbad, hv.2]; rfl)
    · exact ⟨⟨_, hv.1.trans hu, hsame, False.elim⟩, fun _ => .inl (Bool.eq_false_iff.2 hg)⟩

lemma handles_acceptNodeAction (h : s.terminal = some t) (hs : t.Settled)
    (ht : b → ∃ i, t.selected = .ref (.node i)) {action : Value} (hP : P ↔
      action = .str "lifecycle" ∧ s.Unstaged t ∨ action = .str "info" ∧ s.Unprintable t) :
    Handles g b P (acceptNodeAction action g) s := by
  have never (hother : action ≠ .str "lifecycle") (hother' : action ≠ .str "info") : b → ¬ P :=
    fun _ hp => (hP.1 hp).elim (fun hp => hother hp.1) fun hp => hother' hp.1
  unfold acceptNodeAction
  split
  · exact handles_printInfo h hs ht (by simpa using hP)
  · exact handles_enterLifecycle h hs ht (by simpa using hP)
  iterate 4 exact handles_askNode h hs ht (never (by simp) (by simp)) rfl
  · refine yields_terminal h (yields_selected h hs ht fun i _ => ?_)
    refine yields_reach h hs (aside_start i) fun _ u hu => ?_
    exact handles_cancelMenu hu hs (never (by simp) (by simp))
  · next hinfo hother _ _ _ _ _ => exact handles_cancelMenu h hs (never hother hinfo)

lemma yields_lookupKey (find : String → Option α) (v : Value) (s : Session) :
    Yields (lookupKey find v) s (fun a u => u = s ∧ ∃ n, v = .str n ∧ find n = some a)
      fun _ u => u = s ∧ ∀ n, v = .str n → find n = none := by
  refine Yields.ite_of (fun hkey => .of_bind (.throw ⟨rfl, ?_⟩)) fun _ => ?_
  · rintro n rfl
    cases hkey
  · split
    · next n _ =>
      cases hfind : find n with
      | some a => exact .pure ⟨rfl, n, rfl, hfind⟩
      | none => exact .throw ⟨rfl, by rintro m ⟨⟩; exact hfind⟩
    · next hother => exact .throw ⟨rfl, fun n hn => absurd hn (hother n)⟩

variable (h : s.terminal = some t) (hs : t.Settled)
include h hs

lemma handles_quitTerminal (ht : b → t.Ready) (hP : b → ¬ P) (reason : String) :
    Handles g b P (quitTerminal reason g) s := by
  have left {u : Session} (hu : u.terminal = some t) : Handles g b P (emit .appLeft) u :=
    .modify ⟨⟨t, hu, hs, ht⟩, hP⟩
  refine .of_bind (.get (Yields.ite ?_ (left h)))
  refine yields_reach h hs ?_ fun _ u hu => left hu
  exact (aside_shutdownAll _ _).catchFault fun _ => keeps_write

lemma handles_chooseLevel (hitem : b → NamedItem item)
    (hP : P ↔ ∀ l ∈ all, ∀ style rest, item ≠ .tuple (style :: .str l.name :: rest)) :
    Handles g b P (do
      let name ← match item with
        | .tuple _ => lift (Value.item item (.int 1))
        | v => pure v
      let l ← lookupKey ofName? name
      changeLevel (·.setLevel l)
      cancelMenu) s := by
  have hsettled : s.Settled False := ⟨t, h, hs, False.elim⟩
  have chosen (v : Value) (hv : b → ∃ style name rest,
      item = .tuple (style :: .str name :: rest) ∧ v = .str name) : Handles g b P (do
        let l ← lookupKey ofName? v
        changeLevel (·.setLevel l)
        cancelMenu) s := by
    refine (yields_lookupKey _ v s).seq ?_ ?_
    · rintro l _ ⟨rfl, n, rfl, hfind⟩
      have hl : l ∈ all := List.mem_of_find?_eq_some hfind
      have hn : l.name = n := by simpa using List.find?_some hfind
      refine (yields_changeLevel h _).bind fun _ u hu => ?_
      subst hu
      refine handles_cancelMenu rfl ⟨hs.menu, hl, hs.level⟩ fun hb hp => ?_
      obtain ⟨style, name, rest, hvs, hname⟩ := hv hb
      cases hname
      exact hP.1 hp l hl style rest (by rw [hvs, hn])
    · rintro _ _ ⟨rfl, hnone⟩
      refine ⟨hsettled, fun hb => .inr (hP.2 fun l hl style rest hvs => ?_)⟩
      obtain ⟨style', name, rest', hvs', hname⟩ := hv hb
      cases hvs.symm.trans hvs'
      simpa using List.find?_eq_none.1 (hnone _ hname) l hl
  split
  · refine .of_bind (yields_lift.2 ⟨fun v hv => chosen v fun hb => ?_, fun e he => ?_⟩)
    · obtain ⟨style, name, rest, hvs⟩ := hitem hb
      rw [hvs] at hv
      exact ⟨style, name, rest, hvs, (Except.ok.inj hv).symm⟩
    · refine ⟨hsettled, fun hb => ?_⟩
      obtain ⟨style, name, rest, hvs⟩ := hitem hb
      rw [hvs] at he
      cases he
  · next hother =>
    refine .of_bind (.pure (chosen _ fun hb => ?_))
    obtain ⟨style, name, rest, rfl⟩ := hitem hb
    exact absurd rfl (hother _)

/-- An accepted item fails for a reason of the terminal's own exactly if it is refused. -/
lemma handles_acceptItem (ht : b → t.Ready) (hcurrent : t.menu.current = .ok item)
    {xs : List Value} (hitems : t.menu.items = .list xs) (hmem : item ∈ xs) :
    Handles g b (s.Refuses t item) (acceptItem g) s := by
  have hsettled : s.Settled False := ⟨t, h, hs, False.elim⟩
  refine yields_terminal h ?_
  rw [hcurrent]
  refine .of_bind (.pure ?_)
  dsimp only
  cases hmode : t.mode with
  | standard => exact .pure ⟨⟨t, h, hs, ht⟩, by simp [Refuses, hmode]⟩
  | nodeInfo => exact .pure ⟨⟨t, h, hs, ht⟩, by simp [Refuses, hmode]⟩
  | confirmExit =>
    have hnever : b → ¬ s.Refuses t item := by simp [Refuses, hmode]
    exact Yields.ite (handles_quitTerminal h hs ht hnever _) (handles_cancelMenu h hs hnever)
  | searchNode =>
    refine handles_enterNodeMenu h hs (by simp [Refuses, hmode]) hcurrent fun hb => ?_
    obtain ⟨ys, hys, hnodes⟩ := (ht hb).searched hmode
    cases hitems.symm.trans hys
    exact hnodes item hmem
  | nodeMenu =>
    refine handles_acceptNodeAction h hs (fun hb => (ht hb).selected (by rw [hmode]; rfl)) ?_
    simp [Refuses, hmode]
  | nodeLifecycle =>
    have hrefuses : s.Refuses t item ↔ ∀ stage : Stage, item ≠ .str stage.name := by
      simp [Refuses, hmode]
    refine (yields_lookupKey _ item s).seq ?_ ?_
    · rintro stage _ ⟨rfl, n, rfl, hfind⟩
      have hname : stage.name = n := by simpa using List.find?_some hfind
      refine yields_selected h hs (fun hb => (ht hb).selected (by rw [hmode]; rfl)) fun i _ => ?_
      refine yields_reach h hs (keeps_transition i _) fun _ u hu => handles_cancelMenu hu hs ?_
      exact fun _ hr => hrefuses.1 hr stage (by rw [hname])
    · rintro _ _ ⟨rfl, hnone⟩
      refine ⟨hsettled, fun _ => .inr (hrefuses.2 fun stage hstage => ?_)⟩
      have := List.find?_eq_none.1 (hnone _ hstage) stage (by cases stage <;> decide)
      simp at this
  | confirmTakeover =>
    have hnever : b → ¬ s.Refuses t item := by simp [Refuses, hmode]
    refine Yields.ite (yields_selected h hs (fun hb => ?_) fun i _ => ?_) (handles_cancelMenu h hs hnever)
    · exact (ht hb).selected (by rw [hmode]; rfl)
    · exact yields_reach h hs (aside_takeover i _ _) fun _ u hu => handles_cancelMenu hu hs hnever
  | confirmRestart =>
    have hnever : b → ¬ s.Refuses t item := by simp [Refuses, hmode]
    refine Yields.ite (yields_selected h hs (fun hb => ?_) fun i _ => ?_) (handles_cancelMenu h hs hnever)
    · exact (ht hb).selected (by rw [hmode]; rfl)
    · refine yields_reach h hs (aside_shutdownNode i _ _ _) fun _ u hu => ?_
      exact yields_reach hu hs (aside_start i) fun _ v hv => handles_cancelMenu hv hs hnever
  | confirmKill =>
    have hnever : b → ¬ s.Refuses t item := by simp [Refuses, hmode]
    refine Yields.ite (yields_selected h hs (fun hb => ?_) fun i _ => ?_) (handles_cancelMenu h hs hnever)
    · exact (ht hb).selected (by rw [hmode]; rfl)
    · refine yields_reach h hs (aside_defaultTimeout i) fun _ u hu => ?_
      refine yields_reach hu hs (aside_shutdownNode i _ _ _) fun _ v hv => ?_
      exact handles_cancelMenu hv hs hnever
  | logLevel =>
    refine handles_chooseLevel h hs (fun hb => ?_) (by simp [Refuses, hmode])
    obtain ⟨ys, hys, hnamed⟩ := (ht hb).levels hmode
    cases hitems.symm.trans hys
    exact hnamed item hmem

/-! ## Keys -/

lemma handles_move (ht : b → t.Ready) (d : Int) :
    Handles g b (t.menu.items = .list []) (setMenu (·.move d)) s := by
  obtain ⟨xs, i, hshows, -⟩ := hs.menu
  by_cases hnil : xs = []
  · subst hnil
    refine (yields_setMenu_error h (hshows.move_nil d)).2 ⟨⟨t, h, hs, False.elim⟩, fun _ => ?_⟩
    exact .inr hshows.items
  · obtain ⟨j, hj, hlt⟩ := hshows.exists_move hnil d
    refine handles_redrawn (yields_setMenu h hj) ?_ (fun hb => ?_) fun _ hp => ?_
    · exact ⟨⟨xs, j, ⟨hshows.items, rfl⟩, .inr hlt⟩, hs.level, hs.prev⟩
    · exact ⟨(ht hb).searched, (ht hb).levels, (ht hb).selected⟩
    · cases hshows.items.symm.trans hp
      exact hnil rfl

lemma handles_pressKey (ht : b → t.Ready) (k : Key) :
    Handles g b (s.Stuck t k) (pressKey k g) s := by
  obtain ⟨xs, i, hshows, hi⟩ := hs.menu
  cases k with
  | interrupt =>
    refine (yields_modifyTerminal h _).bind fun _ u hu => ?_
    refine (yields_modifyTerminal hu.terminal _).bind fun _ v hv => ?_
    refine handles_redrawn (yields_setItems hv.terminal _ _) ?_ (fun _ => ?_) fun _ => id
    · exact ⟨⟨yesNo, 0, ⟨rfl, rfl⟩, .inr (by decide)⟩, hs.level, hs.prev⟩
    · exact ⟨by simp, by simp, by simp [Mode.onNode]⟩
  | space =>
    refine (yields_changeLevel h _).weaken fun _ u hu => ?_
    subst hu
    refine ⟨⟨_, rfl, ⟨hs.menu, ?_, hs.level⟩, fun hb => ?_⟩, fun _ => id⟩
    · cases hm : t.muted
      · simp [toggleMute, setLevel, hm, all]
      · simpa [toggleMute, setLevel, hm] using hs.prev
    · exact ⟨(ht hb).searched, (ht hb).levels, (ht hb).selected⟩
  | f1 => exact handles_enterSearch h hs fun _ => id
  | f9 =>
    refine handles_redrawn (yields_enterLogLevel h false) ?_ (fun _ => ⟨by simp, fun _ => ?_, ?_⟩)
      fun _ => id
    · refine ⟨⟨levelItems, _, ⟨rfl, rfl⟩, .inr ?_⟩, hs.level, hs.prev⟩
      simpa [levelItems] using List.idxOf_lt_length_of_mem hs.level
    · refine ⟨levelItems, rfl, fun x hx => ?_⟩
      obtain ⟨l, -, rfl⟩ := List.mem_map.1 hx
      exact ⟨_, l.name, [], rfl⟩
    · simp [Mode.onNode]
  | escape =>
    exact handles_redrawn (yields_enterStandard h false) ⟨hs.menu, hs.level, hs.prev⟩
      (fun _ => ⟨by simp, by simp, by simp [Mode.onNode]⟩) fun _ => id
  | enter =>
    refine yields_terminal h ?_
    rw [hshows.items]
    cases xs with
    | nil =>
      refine handles_cancelMenu h hs ?_
      rintro - ⟨item, hitem, -⟩
      cases hshows.current_nil.symm.trans hitem
    | cons x xs =>
      have hlt := hi.resolve_left (List.cons_ne_nil _ _)
      have hcurrent := hshows.current_eq hlt
      have hstuck : s.Stuck t .enter ↔ s.Refuses t (x :: xs)[i] := by
        simp [Stuck, hcurrent]
      rw [hstuck]
      exact handles_acceptItem h hs ht hcurrent hshows.items (List.getElem_mem hlt)
  | tab => exact handles_move h hs ht _
  | backTab => exact handles_move h hs ht _
  | digit n =>
    have hstuck : s.Stuck t (.digit n) ↔ ∀ item, xs[8]? = some item →
        ((setMenu (·.select (.int 8))).after s).Refuses t item := by
      refine ⟨fun hall item => hall xs item hshows.items, fun hall ys item hys => ?_⟩
      cases hshows.items.symm.trans hys
      exact hall item
    rw [hstuck]
    obtain ⟨text, hselect⟩ := hshows.select_int 8
    rcases Nat.lt_or_ge 8 xs.length with hlt | hle
    · rw [if_pos hlt] at hselect
      have hset := (yields_setMenu (f := (·.select (.int 8))) (E := fun _ _ => False) h hselect).and
        (yields_self _ s)
      refine hset.seq (fun _ u hu => ?_) fun _ _ he => he.1.elim
      obtain ⟨hu, hrun⟩ := hu
      have hrefuses : (∀ item, xs[8]? = some item →
          ((setMenu (·.select (.int 8))).after s).Refuses t item) ↔
            u.Refuses { t with menu := { t.menu with selected := .int 8 } } xs[8] := by
        rw [after_of_ok hrun]
        simp only [List.getElem?_eq_getElem hlt, Option.some.injEq, forall_eq']
        rfl
      rw [hrefuses]
      refine handles_acceptItem hu.terminal ?_ (fun hb => ?_) ?_ hshows.items (List.getElem_mem hlt)
      · exact ⟨⟨xs, 8, ⟨hshows.items, rfl⟩, .inr hlt⟩, hs.level, hs.prev⟩
      · exact ⟨(ht hb).searched, (ht hb).levels, (ht hb).selected⟩
      · exact (⟨hshows.items, rfl⟩ : Menu.Shows { t.menu with selected := .int 8 } xs 8).current_eq hlt
    · rw [if_neg (Nat.not_lt.2 hle)] at hselect
      refine .of_bind ((yields_setMenu_error h hselect).2 ?_)
      exact ⟨⟨t, h, hs, False.elim⟩, fun _ => .inr (by simp [List.getElem?_eq_none hle])⟩

end Handles

/-! ## Runs -/

namespace Handles

variable {g : Bool} {b P : Prop} {x : Launch α} {s : Session}

lemma fails (h : Handles g b P x s) (hb : b) (hP : P) : x.returns s = false := by
  unfold returns
  cases hx : x.run s with
  | ok a u => exact absurd hP ((yields_run_ok h hx).2 hb)
  | error e u => rfl

lemma fails_iff (h : Handles true b P x s) (hb : b) : x.returns s = false ↔ P := by
  refine ⟨fun hfails => ?_, h.fails hb⟩
  unfold returns at hfails
  cases hx : x.run s with
  | ok a u => simp [hx] at hfails
  | error e u => simpa using (yields_run_error h hx).2 hb

lemma settled_after (h : Handles g b P x s) : (x.after s).Settled (b ∧ x.returns s = true) := by
  unfold Launch.after returns
  cases hx : x.run s with
  | ok a u =>
    obtain ⟨⟨t, ht, hs, hready⟩, -⟩ := yields_run_ok h hx
    exact ⟨t, ht, hs, fun hb => hready hb.1⟩
  | error e u =>
    obtain ⟨⟨t, ht, hs, -⟩, -⟩ := yields_run_error h hx
    exact ⟨t, ht, hs, by simp⟩

end Handles

/-- The sessions that are reached from `s₀` by keys that are pressed and texts that are typed, with
whatever nodes and the launcher do in between. The flag tells whether all of them succeeded. -/
inductive Reached (s₀ : Session) : Bool → Session → Prop
  | start : Reached s₀ true s₀
  | press {smooth : Bool} {s : Session} (k : Key) : Reached s₀ smooth s →
      Reached s₀ (smooth && (pressBound k).returns s) ((pressBound k).after s)
  | type {smooth : Bool} {s : Session} (text : String) : Reached s₀ smooth s →
      Reached s₀ (smooth && (setSearch text).returns s) ((setSearch text).after s)
  | aside {smooth : Bool} {s u : Session} : Reached s₀ smooth s → Aside s u → Reached s₀ smooth u

lemma Reached.settled {s₀ s : Session} {smooth : Bool} (h : Reached s₀ smooth s)
    (h₀ : s₀.Settled True) : s.Settled (smooth = true) := by
  induction h with
  | start => simpa using h₀
  | @press smooth s k _ ih =>
    obtain ⟨t, ht, hs, hready⟩ := ih
    have hpress : Handles false (smooth = true) (t.binds k = true ∧ s.Stuck t k) (pressBound k) s := by
      refine yields_pressBound ht (fun hbinds => ?_) fun hbinds => ⟨⟨t, ht, hs, hready⟩, by simp [hbinds]⟩
      have hiff : s.Stuck t k ↔ t.binds k = true ∧ s.Stuck t k := by simp [hbinds]
      rw [← hiff]
      exact handles_pressKey ht hs hready k
    simpa using hpress.settled_after
  | type text _ ih =>
    obtain ⟨t, ht, hs, hready⟩ := ih
    simpa using (handles_setSearch (P := False) ht hs hready (fun _ => id) text).settled_after
  | aside _ hu ih =>
    obtain ⟨t, ht, hrest⟩ := ih
    exact ⟨t, hu.trans ht, hrest⟩

/-- From a terminal that was just opened, the selection is always one of the items, if there are any.
As long as all keys and texts succeeded, a key fails for a reason of the terminal's own exactly if it
is stuck. -/
theorem key_fails_iff_stuck (positional : List Value) (named : Named) (columns : Int) (s₀ : Session)
    (hopen : (openTerminal positional named columns).returns s₀ = true) {smooth : Bool} {s : Session}
    (h : Reached ((openTerminal positional named columns).after s₀) smooth s) :
    ∃ t, s.terminal = some t ∧ t.menu.Fits ∧ (smooth = true → ∀ k,
      ((pressKey k true).returns s = false ↔ s.Stuck t k) ∧
      (s.Stuck t k → (pressKey k).returns s = false)) := by
  have hfresh : ((openTerminal positional named columns).after s₀).Settled True := by
    obtain ⟨_, _, _, hafter⟩ := exists_openTerminal hopen
    rw [hafter]
    refine ⟨_, rfl, ⟨⟨[], 0, ⟨rfl, rfl⟩, .inl rfl⟩, ?_, ?_⟩, fun _ => ⟨by simp, by simp, ?_⟩⟩
    · exact (by decide : ScreenLevel.info ∈ all)
    · exact (by decide : mute ∈ all)
    · simp [Mode.onNode]
  obtain ⟨t, ht, hs, hready⟩ := h.settled hfresh
  refine ⟨t, ht, hs.menu, fun hsmooth k => ⟨?_, ?_⟩⟩
  · exact (handles_pressKey ht hs hready k).fails_iff hsmooth
  · exact (handles_pressKey ht hs hready k).fails hsmooth

/-- In the menu of the six levels, the selection can be moved, and digits are stuck. -/
theorem key_fails_iff_stuck_levels :
    let s₀ := (openTerminal [] [] 80).after {}
    let s := (pressBound .f9).after s₀
    Reached s₀ true s ∧ (pressKey .tab true).returns s = true ∧
      (pressKey (.digit 0)).returns s = false := by
  intro s₀ s
  have hreached : Reached s₀ true s := by
    have hpress := Reached.press .f9 (.start : Reached s₀ true s₀)
    rwa [show (true && (pressBound .f9).returns s₀) = true by decide +kernel] at hpress
  obtain ⟨t, ht, -, hkeys⟩ := key_fails_iff_stuck [] [] 80 {} (by decide +kernel) hreached
  have hsize : s.terminal.bind (fun t => t.menu.items.size?) = some 6 := by decide +kernel
  rw [ht, Option.bind_some] at hsize
  refine ⟨hreached, ?_, (hkeys rfl (.digit 0)).2 fun xs item hitems hitem => ?_⟩
  · rw [← Bool.not_eq_false, (hkeys rfl .tab).1]
    intro hstuck
    rw [show t.menu.items = .list [] from hstuck] at hsize
    cases hsize
  · rw [hitems] at hsize
    obtain ⟨hlt, -⟩ := List.getElem?_eq_some_iff.1 hitem
    have hlength : xs.length = 6 := Option.some.inj hsize
    omega

/-- A digit fails in the menu of the levels, and so does moving the selection where no node is
found. -/
theorem bound_key_fails :
    let s₀ := (openTerminal [] [] 80).after { launcher := some default, groups := #[default] }
    (pressBound (.digit 0)).returns ((pressBound .f9).after s₀) = false ∧
      (pressBound .tab).returns ((pressBound .f1).after s₀) = false := by
  decide +kernel

end Launch

end Launchpad
