import Launchpad.Proofs.Launch.Outcome
import Launchpad.Proofs.Terminal.Menu
import Launchpad.Session.Terminal

/-!
What the operations of the terminal do to a session. Drawing touches the terminal only; choosing a
level also sets that of the handler of the screen, which is made if there is none.
-/

namespace Launchpad

namespace Log.Registry

variable {r : Registry}

/-- The handler of the screen, once made, is one of the handlers. -/
def ScreenKnown (r : Registry) : Prop :=
  ∀ h, r.screenHandler = some h → h < r.handlers.size

def screenLevel (r : Registry) : Int :=
  (r.screen.1.handlers[r.screen.2]?.map (·.level)).getD 0

def setScreenLevel (r : Registry) (level : Int) : Registry :=
  r.screen.1.modifyHandler r.screen.2 fun h => { h with level }

lemma screenHandler_setScreenLevel (r : Registry) (level : Int) :
    (r.setScreenLevel level).screenHandler = some r.screen.2 := by
  unfold setScreenLevel modifyHandler screen
  split
  · next h => exact h
  · rfl

lemma screen_setScreenLevel (r : Registry) (level : Int) :
    (r.setScreenLevel level).screen = (r.setScreenLevel level, r.screen.2) := by
  rw [screen, screenHandler_setScreenLevel]

lemma ScreenKnown.lt_size (h : r.ScreenKnown) : r.screen.2 < r.screen.1.handlers.size := by
  unfold screen
  split
  · next hscreen => exact h _ hscreen
  · simp

lemma ScreenKnown.setScreenLevel (h : r.ScreenKnown) (level : Int) :
    (r.setScreenLevel level).ScreenKnown := by
  intro i hi
  rw [screenHandler_setScreenLevel] at hi
  obtain rfl := Option.some.inj hi
  unfold Registry.setScreenLevel modifyHandler
  rw [Array.size_modify]
  exact h.lt_size

lemma ScreenKnown.screenLevel_setScreenLevel (h : r.ScreenKnown) (level : Int) :
    (r.setScreenLevel level).screenLevel = level := by
  unfold screenLevel
  rw [screen_setScreenLevel]
  unfold Registry.setScreenLevel modifyHandler
  rw [Array.getElem?_modify, if_pos rfl, Array.getElem?_eq_getElem h.lt_size]
  rfl

end Log.Registry

def Redrawn (s : Session) (t : Terminal) (u : Session) : Prop :=
  ∃ events, u = { s with terminal := some t, events }

namespace Redrawn

variable {s u v : Session} {t t' : Terminal}

lemma terminal (h : Redrawn s t u) : u.terminal = some t := by
  obtain ⟨_, rfl⟩ := h
  rfl

lemma log (h : Redrawn s t u) : u.log = s.log := by
  obtain ⟨_, rfl⟩ := h
  rfl

lemma nodes (h : Redrawn s t u) : u.nodes = s.nodes := by
  obtain ⟨_, rfl⟩ := h
  rfl

lemma trans (h : Redrawn s t u) (h' : Redrawn u t' v) : Redrawn s t' v := by
  obtain ⟨_, rfl⟩ := h
  obtain ⟨events, rfl⟩ := h'
  exact ⟨events, rfl⟩

end Redrawn

def levelItems : List Value :=
  ScreenLevel.all.map fun l => .tuple [.str l.style, .str l.name]

namespace Launch

variable {s : Session} {t : Terminal} {E : Post Stop}

lemma yields_getTerminal (h : s.terminal = some t) {Q : Post Terminal} :
    Yields getTerminal s Q E ↔ Q t s := by
  simp only [getTerminal, yields_bind, yields_get, h, yields_pure]

lemma yields_terminal (h : s.terminal = some t) {β : Type} {f : Terminal → Launch β}
    {Q : Post β} (hf : Yields (f t) s Q E) : Yields (getTerminal >>= f) s Q E :=
  .of_bind ((yields_getTerminal h).2 hf)

lemma Yields.weaken {α : Type} {x : Launch α} {Q Q' : Post α} (h : Yields x s Q E)
    (hQ : ∀ a u, Q a u → Q' a u) : Yields x s Q' E :=
  h.map hQ

section

variable (h : s.terminal = some t)
include h

lemma yields_modifyTerminal (f : Terminal → Terminal) :
    Yields (modifyTerminal f) s (fun _ u => Redrawn s (f t) u) E :=
  .modify ⟨s.events, by rw [h, Option.map_some]⟩

lemma yields_setMenu {f : Menu → Try Menu} {m : Menu} (hf : f t.menu = .ok m) :
    Yields (setMenu f) s (fun _ u => Redrawn s { t with menu := m } u) E := by
  simp only [setMenu, yields_bind, yields_getTerminal h, hf, lift, yields_pure]
  refine (yields_modifyTerminal h _).weaken (fun _ u hu => ?_)
  obtain ⟨events, rfl⟩ := hu
  exact .modify ⟨_, rfl⟩

lemma yields_setMenu_error {f : Menu → Try Menu} {e : Stop} (hf : f t.menu = .error e)
    {Q : Post Unit} : Yields (setMenu f) s Q E ↔ E e s := by
  simp only [setMenu, yields_bind, yields_getTerminal h, hf, lift, yields_throw]

lemma yields_setItems (items : List Value) (place : Value) :
    Yields (setItems items place) s
      (fun _ u => Redrawn s { t with menu := t.menu.setItems (.list items) place } u) E :=
  yields_setMenu h rfl

lemma yields_focus (typing : Bool) :
    Yields (focus typing) s (fun _ u => Redrawn s { t with typing } u) E := by
  refine (yields_modifyTerminal h _).bind fun _ u hu => ?_
  obtain ⟨events, rfl⟩ := hu
  exact .modify ⟨_, rfl⟩

lemma yields_enterStandard (guarded : Bool) :
    Yields (enterMode .standard guarded) s
      (fun _ u => Redrawn s { t with mode := .standard, footer := .keys } u) E := by
  refine (yields_modifyTerminal h _).bind fun _ u hu => ?_
  exact (yields_modifyTerminal hu.terminal _).weaken (fun _ _ hv => hu.trans hv)

lemma yields_cancelMenu :
    Yields cancelMenu s
      (fun _ u => Redrawn s { t with mode := .standard, footer := .keys, typing := false } u) E := by
  refine (yields_enterStandard h _).bind fun _ u hu => ?_
  exact (yields_focus hu.terminal _).weaken (fun _ _ hv => hu.trans hv)

lemma yields_enterLogLevel (guarded : Bool) :
    Yields (enterMode .logLevel guarded) s
      (fun _ u => Redrawn s { t with
        mode := .logLevel
        footer := .text "Select log level"
        menu := t.menu.setItems (.list levelItems) (.int (ScreenLevel.all.idxOf t.level)) } u)
      E := by
  refine (yields_modifyTerminal h _).bind fun _ u hu => ?_
  refine (yields_modifyTerminal hu.terminal _).bind fun _ v hv => ?_
  refine yields_terminal hv.terminal ?_
  exact (yields_setItems hv.terminal _ _).weaken (fun _ _ hw => (hu.trans hv).trans hw)

lemma yields_pressBound {k : Key} {Q : Post Bool}
    (hbound : t.binds k = true → Yields (pressKey k) s (fun _ u => Q true u) E)
    (hunbound : t.binds k = false → Q false s) : Yields (pressBound k) s Q E := by
  refine yields_terminal h ?_
  refine Yields.ite_of (fun hb => ?_) fun hb => .pure ?_
  · exact .of_bind ((hbound hb).weaken (fun _ _ hQ => .pure hQ))
  · exact hunbound (Bool.eq_false_iff.2 hb)

lemma yields_changeLevel (f : Terminal → Terminal) :
    Yields (changeLevel f) s
      (fun _ u => u = { s with
        terminal := some (f t), log := s.log.setScreenLevel (f t).level.level }) E := by
  simp only [changeLevel, modifyTerminal, screenHandler, yields_bind, yields_modify, yields_get,
    yields_set, yields_pure]
  refine (yields_getTerminal (t := f t) (by rw [h, Option.map_some])).2 ?_
  rw [h]
  rfl

end

lemma exists_openTerminal {positional : List Value} {named : Named} {columns : Int}
    (h : (openTerminal positional named columns).returns s = true) :
    ∃ manageForeign keepAlive columns', (openTerminal positional named columns).after s =
      { s with terminal := some { manageForeign, keepAlive, columns := columns' } } := by
  have hyields : IfOk (openTerminal positional named columns) s (fun _ u =>
      ∃ manageForeign keepAlive columns',
        u = { s with terminal := some { manageForeign, keepAlive, columns := columns' } }) := by
    unfold openTerminal bindArgs
    cases terminalSignature.bind positional named true with
    | error e => exact .of_bind (.throw trivial)
    | ok b =>
      refine .of_bind (.pure (Yields.ite ?_ (Yields.ite ?_ ?_)))
      · exact .of_bind (.throw trivial)
      · exact .of_bind (.throw trivial)
      · exact .modify ⟨_, _, _, rfl⟩
  exact yields_run_ok hyields (run_eq_of_returns h)

end Launch

end Launchpad
