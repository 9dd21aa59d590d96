import Launchpad.Proofs.Terminal.Screen
import Mathlib.Algebra.Ring.Parity

/-!
Muting the screen. One key mutes it and brings its level back, another one opens a menu in which a
level is chosen. The mark of a muted screen follows the first key alone: it agrees with the level
exactly as long as levels are chosen while the screen is not muted, and silence is not among them.
-/

namespace Launchpad

open List

/-- What is done to the level of the screen. -/
inductive Turn where
  | toggle
  | choose (l : ScreenLevel)
deriving DecidableEq

/-- The level that the terminal has chosen, the one before it, the mark of a muted screen, and the
level of the handler of the screen. -/
structure Dial where
  level : ScreenLevel
  prev : ScreenLevel
  muted : Bool
  screen : Int

namespace Dial

variable {d : Dial}

def turn (d : Dial) : Turn → Dial
  | .toggle =>
    let level := if d.muted then d.prev else .mute
    ⟨level, d.level, !d.muted, level.level⟩
  | .choose l => ⟨l, d.level, d.muted, l.level⟩

def run (d : Dial) (ts : List Turn) : Dial :=
  ts.foldl turn d

def Agrees (d : Dial) : Prop :=
  d.muted = true ↔ d.level = .mute

/-- A muted screen is silent and has a level to come back to; any other screen is not silent. -/
structure Steady (d : Dial) : Prop where
  muted : d.muted = true → d.level = .mute ∧ d.prev ≠ .mute
  loud : d.muted = false → d.level ≠ .mute

lemma Steady.agrees (h : d.Steady) : d.Agrees := by
  unfold Agrees
  cases hm : d.muted with
  | true => simp [(h.muted hm).1]
  | false => simp [h.loud hm]

lemma Steady.toggle (h : d.Steady) : (d.turn .toggle).Steady := by
  cases hm : d.muted with
  | true => exact ⟨by simp [turn, hm], fun _ => by simpa [turn, hm] using (h.muted hm).2⟩
  | false =>
    exact ⟨fun _ => ⟨by simp [turn, hm], by simpa [turn] using h.loud hm⟩, by simp [turn, hm]⟩

lemma steady_choose (hm : d.muted = false) {l : ScreenLevel} (hl : l ≠ .mute) :
    (d.turn (.choose l)).Steady :=
  ⟨fun h => by simp [turn, hm] at h, fun _ => hl⟩

lemma loud_of_agrees (h : d.Steady) {l : ScreenLevel} (hl : (d.turn (.choose l)).Agrees)
    (hback : ((d.turn (.choose l)).turn .toggle).Agrees) : d.muted = false ∧ l ≠ .mute := by
  cases hm : d.muted with
  | false => exact ⟨rfl, fun heq => by simp [Agrees, turn, hm, heq] at hl⟩
  | true => simp [Agrees, turn, hm, (h.muted hm).1] at hback

lemma screen_toggle_toggle (d : Dial) :
    ((d.turn .toggle).turn .toggle).screen =
      (if d.muted then ScreenLevel.mute else d.level).level := by
  cases hm : d.muted <;> simp [turn, hm]

lemma muted_run (d : Dial) (ts : List Turn) :
    (d.run ts).muted = true ↔ (Odd (ts.count .toggle) ↔ d.muted = false) := by
  induction ts generalizing d with
  | nil => simp [run]
  | cons a ts ih =>
    rw [run, foldl_cons, ← run, ih]
    cases a with
    | toggle => cases hm : d.muted <;> simp [turn, hm, Nat.odd_add_one]
    | choose l => simp [turn]

lemma screen_run {ts : List Turn} (h : ts ≠ []) (d : Dial) :
    (d.run ts).screen = (d.run ts).level.level := by
  obtain ⟨init, a, rfl⟩ := (eq_nil_or_concat ts).resolve_left h
  rw [run, concat_eq_append, foldl_append]
  cases a <;> rfl

/-- The mark agrees with the level at all times, also if the screen is muted at any of them. -/
def AgreesAlong (d : Dial) (ts : List Turn) : Prop :=
  ∀ q, q <+: ts → (d.run q).Agrees ∧ (d.run (q ++ [.toggle])).Agrees

lemma Steady.agreesAlong_cons (h : d.Steady) (a : Turn) (ts : List Turn) :
    d.AgreesAlong (a :: ts) ↔ (d.turn a).AgreesAlong ts := by
  refine ⟨fun hall q hq => hall (a :: q) (cons_prefix_cons.2 ⟨rfl, hq⟩), fun hall q hq => ?_⟩
  rcases prefix_cons_iff.1 hq with rfl | ⟨q, rfl, htail⟩
  · exact ⟨h.agrees, h.toggle.agrees⟩
  · exact hall q htail

end Dial

/-- Levels are chosen only while the screen is not muted, and silence is not among them. -/
def Plain : Bool → List Turn → Prop
  | _, [] => True
  | muted, .toggle :: ts => Plain (!muted) ts
  | muted, .choose l :: ts => muted = false ∧ l ≠ .mute ∧ Plain muted ts

lemma Dial.Steady.plain_iff {d : Dial} (h : d.Steady) (ts : List Turn) :
    Plain d.muted ts ↔ d.AgreesAlong ts := by
  induction ts generalizing d with
  | nil =>
    refine ⟨fun _ q hq => ?_, fun _ => trivial⟩
    rw [prefix_nil.1 hq]
    exact ⟨h.agrees, h.toggle.agrees⟩
  | cons a ts ih =>
    rw [h.agreesAlong_cons]
    cases a with
    | toggle => exact ih h.toggle
    | choose l =>
      constructor
      · rintro ⟨hm, hl, hplain⟩
        exact (ih (steady_choose hm hl)).1 hplain
      · intro hall
        obtain ⟨hnow, hback⟩ := hall [] nil_prefix
        obtain ⟨hm, hl⟩ := loud_of_agrees h hnow hback
        exact ⟨hm, hl, (ih (steady_choose hm hl)).2 hall⟩

/-! ## Keys -/

/-- The key that mutes the screen, and those that open, use and close the menu of levels. -/
def levelKeys : List Key := [.space, .f9, .escape, .enter, .tab, .backTab]

namespace Terminal

def chosen? (t : Terminal) : Option ScreenLevel :=
  match t.menu.current with
  | .ok (.tuple [_, .str name]) => ScreenLevel.ofName? name
  | _ => none

/-- What a key does to the level of the screen. -/
def turn? (t : Terminal) : Key → Option Turn
  | .space => some .toggle
  | .enter => if t.mode = .logLevel then t.chosen?.map .choose else none
  | _ => none

end Terminal

/-- What a key does to the level of the screen now. -/
def Session.turn? (s : Session) (k : Key) : Option Turn :=
  s.terminal.bind (·.turn? k)

/-- The mark of a muted screen agrees with the level of the terminal. -/
def Session.MarksMute (s : Session) : Prop :=
  ∃ t, s.terminal = some t ∧ (t.muted = true ↔ t.level = .mute)

def Terminal.AtLevels (t : Terminal) : Prop :=
  t.mode = .standard ∨ t.mode = .logLevel ∧ ∃ j, t.menu.Shows levelItems j ∧ j < levelItems.length

structure Tunable (s : Session) (t : Terminal) (d : Dial) : Prop where
  terminal : s.terminal = some t
  dial : d = ⟨t.level, t.prevLevel, t.muted, s.log.screenLevel⟩
  mode : t.AtLevels
  level : t.level ∈ ScreenLevel.all
  prev : t.prevLevel ∈ ScreenLevel.all
  known : s.log.ScreenKnown

namespace Tunable

variable {s u : Session} {t t' : Terminal} {d : Dial}

lemma redrawn (h : Tunable s t d) (hu : Redrawn s t' u) (hmode : t'.AtLevels)
    (hlevel : t'.level = t.level) (hprev : t'.prevLevel = t.prevLevel) (hmuted : t'.muted = t.muted) : Tunable u t' d where
  terminal := hu.terminal
  dial := by rw [hlevel, hprev, hmuted, hu.log, h.dial]
  mode := hmode
  level := hlevel ▸ h.level
  prev := hprev ▸ h.prev
  known := hu.log ▸ h.known

lemma toggleMute (h : Tunable s t d) :
    Tunable { s with
      terminal := some t.toggleMute
      log := s.log.setScreenLevel t.toggleMute.level.level } t.toggleMute (d.turn .toggle) where
  terminal := rfl
  dial := by
    rw [h.dial, h.known.screenLevel_setScreenLevel]
    cases hm : t.muted <;> simp [Dial.turn, Terminal.toggleMute, Terminal.setLevel, hm]
  mode := h.mode
  level := by
    cases hm : t.muted
    · simp [Terminal.toggleMute, Terminal.setLevel, hm, ScreenLevel.all]
    · simpa [Terminal.toggleMute, Terminal.setLevel, hm] using h.prev
  prev := h.level
  known := h.known.setScreenLevel _

lemma setLevel (h : Tunable s t d) {l : ScreenLevel} (hl : l ∈ ScreenLevel.all) :
    Tunable { s with terminal := some (t.setLevel l), log := s.log.setScreenLevel l.level }
      (t.setLevel l) (d.turn (.choose l)) where
  terminal := rfl
  dial := by
    rw [h.dial, h.known.screenLevel_setScreenLevel]
    rfl
  mode := h.mode
  level := hl
  prev := h.level
  known := h.known.setScreenLevel _

end Tunable

lemma levelItems_get {j : Nat} (h : j < levelItems.length) :
    ∃ l ∈ ScreenLevel.all, levelItems[j] = .tuple [.str l.style, .str l.name] ∧
      ScreenLevel.ofName? l.name = some l := by
  have hlength : j < ScreenLevel.all.length := by simpa [levelItems] using h
  have hnames : ∀ l ∈ ScreenLevel.all, ScreenLevel.ofName? l.name = some l := by decide
  have hmem := getElem_mem hlength
  exact ⟨_, hmem, by simp [levelItems], hnames _ hmem⟩

namespace Launch

variable {s : Session} {t : Terminal} {d : Dial} {k : Key} {E : Post Stop}
variable {keys : List Key}

def pressKeys (keys : List Key) : Launch Unit :=
  keys.forM fun k => do
    let _ ← pressBound k

def turnsOf : List Key → Session → List Launchpad.Turn
  | [], _ => []
  | k :: keys, s => (s.turn? k).toList ++ turnsOf keys (after (pressBound k) s)

lemma yields_chooseLevel (h : Tunable s t d) (hmode : t.mode = .logLevel) :
    Yields (pressKey .enter) s (fun _ u => ∃ t', Tunable u t' (d.run (t.turn? .enter).toList)) E := by
  obtain ⟨j, hmenu, hj⟩ := (h.mode.resolve_left (by simp [hmode])).2
  obtain ⟨l, hl, hitem, hname⟩ := levelItems_get hj
  have hcurrent := hmenu.current_eq hj
  rw [hitem] at hcurrent
  have hchosen : t.turn? .enter = some (.choose l) := by
    simp [Terminal.turn?, Terminal.chosen?, hmode, hcurrent, hname]
  have hsome : t.menu.items.truthy = true := by
    rw [hmenu.items]
    rfl
  rw [hchosen]
  refine yields_terminal h.terminal ?_
  rw [if_pos hsome]
  refine yields_terminal h.terminal ?_
  simp only [hcurrent, hmode]
  have hfound : lookupKey ScreenLevel.ofName? (.str l.name) = pure l := by
    simp [lookupKey, Value.isKey, hname]
  show Yields (lookupKey ScreenLevel.ofName? (.str l.name) >>= _) s _ E
  rw [hfound]
  refine (yields_changeLevel h.terminal _).bind fun _ u hu => ?_
  subst hu
  refine (yields_cancelMenu rfl).weaken (fun _ u hu => ?_)
  exact ⟨_, (h.setLevel hl).redrawn hu (.inl rfl) rfl rfl rfl⟩

lemma yields_moveLevel (h : Tunable s t d) (hmode : t.mode = .logLevel) (n : Int) :
    Yields (setMenu (·.move n)) s (fun _ u => ∃ t', Tunable u t' d) E := by
  obtain ⟨j, hmenu, -⟩ := (h.mode.resolve_left (by simp [hmode])).2
  obtain ⟨i, hmove, hi⟩ := hmenu.exists_move (by decide) n
  refine (yields_setMenu h.terminal hmove).weaken (fun _ u hu => ?_)
  exact ⟨_, h.redrawn hu (.inr ⟨hmode, i, ⟨hmenu.items, rfl⟩, hi⟩) rfl rfl rfl⟩

lemma yields_turn (h : Tunable s t d) (hk : k ∈ levelKeys) :
    Yields (pressBound k) s (fun _ u => ∃ t', Tunable u t' (d.run (s.turn? k).toList)) E := by
  have hturn : s.turn? k = t.turn? k := by rw [Session.turn?, h.terminal, Option.bind_some]
  have hmenu : t.mode.showsMenu = true → t.mode = .logLevel := by
    rcases h.mode with hm | ⟨hm, -⟩ <;> simp [hm, Mode.showsMenu]
  rw [hturn]
  refine yields_pressBound h.terminal (fun hb => ?_) fun hb => ⟨t, ?_⟩
  · simp only [levelKeys, mem_cons, not_mem_nil, or_false] at hk
    rcases hk with rfl | rfl | rfl | rfl | rfl | rfl
    · refine (yields_changeLevel h.terminal _).weaken (fun _ u hu => ?_)
      subst hu
      exact ⟨_, h.toggleMute⟩
    · refine (yields_enterLogLevel h.terminal false).weaken (fun _ u hu => ?_)
      refine ⟨_, h.redrawn hu (.inr ⟨rfl, _, ⟨rfl, rfl⟩, ?_⟩) rfl rfl rfl⟩
      simpa [levelItems] using idxOf_lt_length_of_mem h.level
    · refine (yields_enterStandard h.terminal false).weaken (fun _ u hu => ?_)
      exact ⟨_, h.redrawn hu (.inl rfl) rfl rfl rfl⟩
    · exact yields_chooseLevel h (hmenu hb)
    · exact yields_moveLevel h (hmenu hb) _
    · exact yields_moveLevel h (hmenu hb) _
  · have hnone : t.turn? k = none := by
      rcases h.mode with hm | ⟨hm, -⟩ <;>
        cases k <;> simp_all [Terminal.binds, Terminal.turn?, Mode.showsMenu, Mode.showsSearch]
    rw [hnone]
    exact h

lemma run_pressKeys_cons {b : Bool} {u : Session} (h : (pressBound k).run s = .ok b u) :
    (pressKeys (k :: keys)).run s = (pressKeys keys).run u := by
  exact run_bind_of_ok (run_bind_of_ok h)

section

variable (h : Tunable s t d) (hkeys : ∀ k ∈ keys, k ∈ levelKeys)
include h hkeys

lemma exists_pressKeys :
    ∃ u t', (pressKeys keys).run s = .ok () u ∧ Tunable u t' (d.run (turnsOf keys s)) := by
  induction keys generalizing s t d with
  | nil => exact ⟨s, t, rfl, h⟩
  | cons k keys ih =>
    obtain ⟨hk, hkeys⟩ := forall_mem_cons.1 hkeys
    obtain ⟨b, u, hrun, t', hu⟩ := (yields_turn h hk).exists_ok
    obtain ⟨v, t'', hrun', hv⟩ := ih hu hkeys
    refine ⟨v, t'', (run_pressKeys_cons hrun).trans hrun', ?_⟩
    rw [turnsOf, after_of_ok hrun, Dial.run, foldl_append]
    exact hv

lemma turnsOf_append (more : List Key) :
    turnsOf (keys ++ more) s = turnsOf keys s ++ turnsOf more (after (pressKeys keys) s) := by
  induction keys generalizing s t d with
  | nil => rfl
  | cons k keys ih =>
    obtain ⟨hk, hkeys⟩ := forall_mem_cons.1 hkeys
    obtain ⟨b, u, hrun, t', hu⟩ := (yields_turn h hk).exists_ok
    have hafter : after (pressKeys (k :: keys)) s = after (pressKeys keys) u := by
      rw [after, run_pressKeys_cons hrun, after]
    rw [cons_append, turnsOf, turnsOf, after_of_ok hrun, ih hu hkeys, hafter, append_assoc]

lemma turnsOf_space : turnsOf (keys ++ [.space]) s = turnsOf keys s ++ [.toggle] := by
  obtain ⟨u, t', hrun, hu⟩ := exists_pressKeys h hkeys
  rw [turnsOf_append h hkeys, after_of_ok hrun, turnsOf, turnsOf, Session.turn?, hu.terminal]
  rfl

lemma prefix_turnsOf_iff {q : List Launchpad.Turn} :
    q <+: turnsOf keys s ↔ ∃ p, p <+: keys ∧ turnsOf p s = q := by
  constructor
  · intro hq
    induction keys generalizing s t d q with
    | nil => exact ⟨[], nil_prefix, (prefix_nil.1 hq).symm⟩
    | cons k keys ih =>
      obtain ⟨hk, hkeys⟩ := forall_mem_cons.1 hkeys
      obtain ⟨b, u, hrun, t', hu⟩ := (yields_turn h hk).exists_ok
      rw [turnsOf, after_of_ok hrun] at hq
      have hcons {p : List Key} : turnsOf (k :: p) s = (s.turn? k).toList ++ turnsOf p u := by
        rw [turnsOf, after_of_ok hrun]
      cases hturn : s.turn? k with
      | none =>
        rw [hturn] at hq hcons
        obtain ⟨p, hp, rfl⟩ := ih hu hkeys hq
        exact ⟨k :: p, cons_prefix_cons.2 ⟨rfl, hp⟩, hcons⟩
      | some a =>
        rw [hturn] at hq hcons
        rcases prefix_cons_iff.1 hq with rfl | ⟨q, rfl, htail⟩
        · exact ⟨[], nil_prefix, rfl⟩
        · obtain ⟨p, hp, rfl⟩ := ih hu hkeys htail
          exact ⟨k :: p, cons_prefix_cons.2 ⟨rfl, hp⟩, hcons⟩
  · rintro ⟨p, ⟨more, rfl⟩, rfl⟩
    rw [turnsOf_append h (fun k hk => hkeys k (mem_append_left _ hk))]
    exact prefix_append _ _

lemma count_turnsOf : (turnsOf keys s).count .toggle = keys.count .space := by
  induction keys generalizing s t d with
  | nil => rfl
  | cons k keys ih =>
    obtain ⟨hk, hkeys⟩ := forall_mem_cons.1 hkeys
    obtain ⟨b, u, hrun, t', hu⟩ := (yields_turn h hk).exists_ok
    have hone : (s.turn? k).toList.count .toggle = [k].count .space := by
      rw [Session.turn?, h.terminal, Option.bind_some]
      cases k with
      | enter =>
        simp only [Terminal.turn?]
        split
        · cases t.chosen? <;> rfl
        · rfl
      | _ => rfl
    rw [turnsOf, after_of_ok hrun, count_append, ih hu hkeys, hone, ← count_append]
    rfl

lemma agreesAlong_iff :
    d.AgreesAlong (turnsOf keys s) ↔ ∀ p, p <+: keys →
      (after (pressKeys p) s).MarksMute ∧ (after (pressKeys (p ++ [.space])) s).MarksMute := by
  have hagrees {p : List Key} (hp : ∀ k ∈ p, k ∈ levelKeys) :
      (d.run (turnsOf p s)).Agrees ↔ (after (pressKeys p) s).MarksMute := by
    obtain ⟨u, t', hrun, hu⟩ := exists_pressKeys h hp
    rw [after_of_ok hrun, Session.MarksMute, hu.terminal, hu.dial, Dial.Agrees]
    simp
  have hboth {p : List Key} (hp : p <+: keys) :
      (d.run (turnsOf p s)).Agrees ∧ (d.run (turnsOf p s ++ [.toggle])).Agrees ↔
        (after (pressKeys p) s).MarksMute ∧ (after (pressKeys (p ++ [.space])) s).MarksMute := by
    have hmem : ∀ k ∈ p, k ∈ levelKeys := fun k hk => hkeys k (hp.subset hk)
    have hmore : ∀ k ∈ p ++ [.space], k ∈ levelKeys :=
      forall_mem_append.2 ⟨hmem, by decide⟩
    rw [← turnsOf_space h hmem, hagrees hmem, hagrees hmore]
  refine ⟨fun hall p hp => (hboth hp).1 (hall _ ((prefix_turnsOf_iff h hkeys).2 ⟨p, hp, rfl⟩)),
    fun hall q hq => ?_⟩
  obtain ⟨p, hp, rfl⟩ := (prefix_turnsOf_iff h hkeys).1 hq
  exact (hboth hp).2 (hall p hp)

end

lemma exists_tunable {positional : List Value} {named : Named} {columns : Int}
    (hopen : (openTerminal positional named columns).returns s = true)
    (hknown : s.log.ScreenKnown) :
    ∃ t, Tunable ((openTerminal positional named columns).after s) t
      ⟨.info, .mute, false, s.log.screenLevel⟩ := by
  obtain ⟨_, _, _, hafter⟩ := exists_openTerminal hopen
  have hoffered : ScreenLevel.info ∈ ScreenLevel.all ∧ ScreenLevel.mute ∈ ScreenLevel.all := by decide
  rw [hafter]
  exact ⟨_, rfl, rfl, .inl rfl, hoffered.1, hoffered.2, hknown⟩

/-- From a terminal that was just opened, keys for the level never fail. The mark of a muted screen
tells whether the screen was muted an odd number of times, and muting twice silences a muted screen
and brings back the level of another one. This is the level that the screen had once it was set, if
the choices are plain; and the choices are plain exactly if the mark agrees with the level all
along. -/
theorem mute_reversible_iff (positional : List Value) (named : Named) (columns : Int) (s : Session)
    (hopen : (openTerminal positional named columns).returns s = true)
    (hknown : s.log.ScreenKnown) (keys : List Key) (hkeys : ∀ k ∈ keys, k ∈ levelKeys) :
    let s₀ := (openTerminal positional named columns).after s
    ∃ u v t, (pressKeys keys).run s₀ = .ok () u ∧ u.terminal = some t ∧
      (t.muted = true ↔ Odd (keys.count .space)) ∧
      (pressKeys [.space, .space]).run u = .ok () v ∧
      v.log.screenLevel = (if t.muted then ScreenLevel.mute else t.level).level ∧
      (turnsOf keys s₀ ≠ [] → u.log.screenLevel = t.level.level) ∧
      (Plain false (turnsOf keys s₀) → turnsOf keys s₀ ≠ [] →
        v.log.screenLevel = u.log.screenLevel) ∧
      (Plain false (turnsOf keys s₀) ↔ ∀ p, p <+: keys →
        (after (pressKeys p) s₀).MarksMute ∧ (after (pressKeys (p ++ [.space])) s₀).MarksMute) := by
  intro s₀
  obtain ⟨t₀, hfresh⟩ := exists_tunable hopen hknown
  have hsteady : Dial.Steady ⟨.info, .mute, false, s.log.screenLevel⟩ := by
    refine ⟨fun hm => ?_, fun _ => ?_⟩
    · cases hm
    · exact (by decide : ScreenLevel.info ≠ .mute)
  have hplain := (hsteady.plain_iff (turnsOf keys s₀)).trans (agreesAlong_iff hfresh hkeys)
  obtain ⟨u, t, hrun, hu⟩ := exists_pressKeys hfresh hkeys
  obtain ⟨v, t', hrun', hv⟩ := exists_pressKeys hu (by decide : ∀ k ∈ [Key.space, .space], k ∈ levelKeys)
  have htwice : turnsOf [.space, .space] u = [.toggle, .toggle] := by
    rw [show [Key.space, .space] = ([] ++ [.space]) ++ [.space] from rfl,
      turnsOf_space hu (by decide), turnsOf_space hu (by decide)]
    rfl
  have hmuted := Dial.muted_run ⟨.info, .mute, false, s.log.screenLevel⟩ (turnsOf keys s₀)
  rw [count_turnsOf hfresh hkeys, hu.dial] at hmuted
  have hset (hne : turnsOf keys s₀ ≠ []) : u.log.screenLevel = t.level.level := by
    have hscreen := Dial.screen_run hne ⟨.info, .mute, false, s.log.screenLevel⟩
    rwa [hu.dial] at hscreen
  have hback : v.log.screenLevel = (if t.muted then ScreenLevel.mute else t.level).level := by
    have hscreen := congrArg Dial.screen hv.dial
    rw [htwice, hu.dial] at hscreen
    exact hscreen.symm.trans (Dial.screen_toggle_toggle _)
  refine ⟨u, v, t, hrun, hu.terminal, by simpa using hmuted, hrun', hback, hset, ?_, hplain⟩
  intro hchoices hne
  obtain ⟨t₁, ht₁, hmark⟩ := (hplain.1 hchoices keys (prefix_refl _)).1
  rw [after_of_ok hrun, hu.terminal] at ht₁
  obtain rfl := Option.some.inj ht₁
  rw [hback, hset hne]
  split
  · next hm => rw [hmark.1 hm]
  · rfl

/-- A warning level is chosen, and the screen is muted. -/
theorem mute_reversible_warning :
    let s₀ := (openTerminal [] [] 80).after {}
    let keys : List Key := [.f9, .tab, .enter, .space]
    turnsOf keys s₀ = [.choose .warning, .toggle] ∧
      ∃ u v t, (pressKeys keys).run s₀ = .ok () u ∧ u.terminal = some t ∧ t.muted = true ∧
        (pressKeys [.space, .space]).run u = .ok () v ∧
        v.log.screenLevel = u.log.screenLevel := by
  intro s₀ keys
  have hturns : turnsOf keys s₀ = [.choose .warning, .toggle] := by decide +kernel
  obtain ⟨u, v, t, hrun, ht, hmuted, hrun', -, -, hback, -⟩ := mute_reversible_iff
    [] [] 80 {} (by decide +kernel) (fun _ h => by cases h) keys (by decide)
  have hplain : Plain false (turnsOf keys s₀) := by
    rw [hturns]
    exact ⟨rfl, by decide, trivial⟩
  refine ⟨hturns, u, v, t, hrun, ht, hmuted.2 (by decide), hrun', hback hplain ?_⟩
  rw [hturns]
  exact cons_ne_nil _ _

/-- Silence that was chosen is not marked. Muting twice does not bring back the level that the screen
had before any was chosen, nor one that was chosen on a muted screen. -/
theorem mute_not_reversible :
    let s₀ := (openTerminal [] [] 80).after {}
    let s₁ := (pressKeys [.space, .f9, .tab, .enter]).after s₀
    ¬ ((pressKeys [.f9, .backTab, .enter]).after s₀).MarksMute ∧
      ((pressKeys [.space, .space]).after s₀).log.screenLevel ≠ s₀.log.screenLevel ∧
      ((pressKeys [.space, .space]).after s₁).log.screenLevel ≠ s₁.log.screenLevel := by
  refine ⟨?_, by decide +kernel, by decide +kernel⟩
  rintro ⟨t, ht, hmark⟩
  have hsilent : ((pressKeys [.f9, .backTab, .enter]).after
      ((openTerminal [] [] 80).after {})).terminal.map (fun t => (t.level, t.muted)) =
        some (.mute, false) := by decide +kernel
  rw [ht, Option.map_some, Option.some_inj, Prod.mk.injEq] at hsilent
  exact absurd (hmark.2 hsilent.1) (by simp [hsilent.2])

end Launch

end Launchpad
