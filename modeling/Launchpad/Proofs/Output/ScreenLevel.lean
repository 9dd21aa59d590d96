import Launchpad.Proofs.Output.Following
import Launchpad.Proofs.Terminal.Screen

/-!
The level of the screen and the lines of nodes. Every line of a node is logged at one level, and its
severity is found out only when a handler shows it. The handler of the screen comes first for a node,
so the screen shows either all lines of a node or none, whatever their severity.
-/

namespace Launchpad

namespace Log.Registry

variable {r r' : Registry} {cwd logger text shown : String} {level level' : Int}

/-- The handler of the screen comes first for a logger and has a level; the others write to files. -/
structure Heeds (r : Registry) (logger : String) (level : Int) : Prop where
  least : reaches (.int info) r.leastLevel = .ok true
  handlers : ∃ i is k j template files, r.screenHandler = some i ∧ r.handlersOf logger = i :: is ∧
    r.handlers[i]? = some k ∧ k.level = level ∧ k.target = .screen ∧
    formatterFor k (.str logger) = some (some j) ∧ Dresses r.formatters j template ∧
    List.Forall₂ r.WritesTo is files ∧ .screen ∉ files

lemma Routed.exists_heeds {own : Bool} (h : r.Routed logger own) (hr : r.Equipped cwd)
    (hleast : reaches (.int info) r.leastLevel = .ok true) : ∃ level, r.Heeds logger level := by
  obtain ⟨dir, -, hreaches⟩ := h.exists_reaches hr
  obtain ⟨i, j, hs, hi, -, hhandlers, -⟩ := h
  rw [Reaches, hhandlers, nodeTargets] at hreaches
  obtain ⟨hscreen, hfiles⟩ := List.forall₂_cons.1 hreaches
  obtain ⟨template, k, f, hk, -, htarget, hf, hdresses⟩ := hr.exists_serves hscreen logger
  refine ⟨k.level, hleast, i, j :: hs, k, f, template, _, hi, hhandlers, hk, rfl, htarget, hf,
    hdresses, hfiles, ?_⟩
  cases own <;> simp

lemma Heeds.redressed (h : r.Heeds logger level) (hr : r.Redressed r') : r'.Heeds logger level := by
  obtain ⟨hleast, i, is, k, j, template, files, hi, his, hk, hlevel, htarget, hj, hdresses, hrest⟩ := h
  have hdresses' := hr.dresses j template hdresses
  obtain ⟨formatters, hue, rfl⟩ := hr.eq
  exact ⟨hleast, i, is, k, j, template, files, hi, his, hk, hlevel, htarget, hj, hdresses', hrest⟩

lemma Heeds.setScreenLevel (h : r.Heeds logger level) (l : Int) :
    (r.setScreenLevel l).Heeds logger l := by
  obtain ⟨hleast, i, is, k, j, template, files, hi, his, hk, -, htarget, hj, hdresses, hwrites,
    hfiles⟩ := h
  have hset : r.setScreenLevel l = r.modifyHandler i fun h => { h with level := l } := by
    rw [Registry.setScreenLevel, screen, hi]
  have hothers (m : Nat) (target : Target) (hm : r.WritesTo m target) :
      (r.setScreenLevel l).WritesTo m target := by
    obtain ⟨k', hk', htarget'⟩ := hm
    rw [hset, WritesTo, modifyHandler, Array.getElem?_modify, hk']
    split
    · exact ⟨_, rfl, htarget'⟩
    · exact ⟨k', rfl, htarget'⟩
  refine ⟨by rwa [hset], i, is, { k with level := l }, j, template, files, by rwa [hset], by rwa [hset],
    ?_, rfl, htarget, hj, by rwa [hset], hwrites.imp hothers, hfiles⟩
  rw [hset, modifyHandler, Array.getElem?_modify, if_pos rfl, hk, Option.map_some]

/-- The screen is the first to get a message, if its level is not above that of all lines of nodes. -/
lemma Heeds.exists_lines (h : r.Heeds logger level) (hshown : shownOf info text = some (level', shown))
    (now : Float) :
    ∃ lines, .screen ∉ lines.map Prod.fst ∧
      ((level ≤ info ∧ ∃ head, (r.log logger (.int info) (.str text) now []).2.1 =
          (.screen, head ++ shown ++ "\n") :: lines) ∨
        (info < level ∧ (r.log logger (.int info) (.str text) now []).2.1 = lines)) := by
  obtain ⟨hleast, i, is, k, j, template, files, hi, his, hk, rfl, htarget, hj, hdresses, hwrites,
    hfiles⟩ := h
  have hinfo : info ∈ knownLevels := by decide
  obtain ⟨record, hcarries, hlog⟩ := @exists_log_eq info r logger hinfo hleast text now
  rw [hlog, his]
  rcases Int.lt_or_le info k.level with hlt | hle
  · obtain ⟨lines, hlines, hsub⟩ := exists_deliver_sublist hwrites record []
    refine ⟨lines, fun hmem => hfiles (hsub.subset hmem), .inr ⟨hlt, ?_⟩⟩
    rw [deliver_of_lt hk hcarries hlt, hlines, List.nil_append]
  · obtain ⟨⟨target, line⟩, r₁, record₁, hstep, ⟨htarget', head, hline⟩, hr₁, -⟩ :=
      exists_deliver_of_le hk hj hdresses hcarries hinfo hle hshown is []
    obtain rfl : target = .screen := htarget'.trans htarget
    have hwrites₁ : List.Forall₂ r₁.WritesTo is files := by
      obtain ⟨_, _, rfl⟩ := hr₁.eq
      exact hwrites
    obtain ⟨lines, hlines, hsub⟩ := exists_deliver_sublist hwrites₁ record₁ ([] ++ [(.screen, line)])
    refine ⟨lines, fun hmem => hfiles (hsub.subset hmem), .inl ⟨hle, head ++ template.joint, ?_⟩⟩
    rw [hstep, hlines, ← show line = _ from hline]
    rfl

end Log.Registry

namespace Launch

variable {s u : Session} {logger text : String} {level : Int}

/-- A text has come to the screen between two sessions, behind whatever stands before a message. -/
def ShownBetween (s t : Session) (text : String) : Prop :=
  ∃ head, t.out = s.out ++ (head ++ text ++ "\n")

lemma yields_info_heeded (h : s.log.Heeds logger level) {level' : Int} {shown : String}
    (hshown : Log.shownOf Log.info text = some (level', shown)) :
    let P (t : Session) : Prop :=
      (level ≤ Log.info ∧ ShownBetween s t shown) ∨ (Log.info < level ∧ t.out = s.out)
    EndsIn (info logger text) s P := by
  intro P
  obtain ⟨lines, hfiles, hlines⟩ := h.exists_lines hshown (timeOf s.world.clock)
  refine .of_bind (.get ?_)
  generalize s.log.log logger (.int Log.info) (.str text) (timeOf s.world.clock) [] = res at hlines
  obtain ⟨r, written, result⟩ := res
  refine .of_bind (.set (.of_bind ?_))
  have last (t : Session) (ht : P t) : EndsIn (lift result) t P :=
    yields_lift.2 ⟨fun _ _ => ht, fun _ _ => ht⟩
  rcases hlines with ⟨hle, head, rfl⟩ | ⟨hlt, rfl⟩
  · refine (yields_message _ hfiles _).map fun _ t ht => last t (.inl ⟨hle, head, ?_⟩)
    obtain ⟨_, rfl⟩ := ht
    rfl
  · refine (filed_writeLines _ hfiles _).map fun _ t ht => last t (.inr ⟨hlt, ?_⟩)
    obtain ⟨_, rfl⟩ := ht
    rfl

lemma bundleOf_line (h : '\n' ∉ text.toList) : bundleOf ("" ++ (text ++ "\n")) = text := by
  have hfull : fullLines ("" ++ (text ++ "\n")) = [text] := by
    have hsplit := splitAt_newline text ""
    rw [Text.splitAt_of_not_mem h, String.append_empty] at hsplit
    rw [fullLines, String.empty_append, hsplit]
    rfl
  rw [bundleOf, hfull]
  rfl

lemma heeded_line (h : s.log.Heeds logger level) {header : Log.Header} (hline : '\n' ∉ text.toList)
    (hheader : Log.Header.read? text = some header)
    (hseverity : (Log.levelNumbers.lookup header.severity).isSome)
    (htime : (Text.readFloat? header.time).isSome) :
    let t := (collectBundled logger "" (text ++ "\n")).after s
    (level ≤ Log.info ∧ ShownBetween s t header.text) ∨ (Log.info < level ∧ t.out = s.out) := by
  obtain ⟨n, hn⟩ := Option.isSome_iff_exists.1 hseverity
  obtain ⟨x, hx⟩ := Option.isSome_iff_exists.1 htime
  have hshown : Log.shownOf Log.info text = some (n, header.text) := by
    rw [Log.shownOf, hheader]
    simp [hn, hx]
  have hne : text ≠ "" := by
    rintro rfl
    cases hheader
  have heeded := yields_info_heeded h hshown
  refine Yields.after (P := fun t => (level ≤ Log.info ∧ ShownBetween s t header.text) ∨
    (Log.info < level ∧ t.out = s.out)) ?_
  unfold collectBundled
  rw [completeLines_eq]
  dsimp only
  rw [trim_fullLines, ← bundleOf, bundleOf_line hline, if_pos (by simpa using hne)]
  exact heeded.bind fun _ t ht => .pure ht

/-- The sessions that come of choosing levels and showing messages. -/
inductive Attuned (s₀ : Session) : Session → Prop
  | start : Attuned s₀ s₀
  | choose {s : Session} (l : ScreenLevel) : Attuned s₀ s →
      Attuned s₀ ((changeLevel (·.setLevel l)).after s)
  | shown {s u : Session} : Attuned s₀ s → s.log.Redressed u.log → u.terminal = s.terminal →
      Attuned s₀ u

lemma after_changeLevel {t : Terminal} (h : s.terminal = some t) (l : ScreenLevel) :
    (changeLevel (·.setLevel l)).after s =
      { s with terminal := some (t.setLevel l), log := s.log.setScreenLevel l.level } :=
  Yields.after (P := fun u => u = _) (yields_changeLevel h (·.setLevel l))

lemma Attuned.exists_heeds {s₀ : Session} (h : Attuned s₀ s) {own : Bool}
    (hrouted : s₀.log.Routed logger own) (hequipped : s₀.log.Equipped s₀.world.cwd)
    (hleast : Log.reaches (.int Log.info) s₀.log.leastLevel = .ok true) {t : Terminal}
    (ht : s₀.terminal = some t) :
    (∃ t, s.terminal = some t) ∧ ∃ level, s.log.Heeds logger level := by
  induction h with
  | start => exact ⟨⟨t, ht⟩, hrouted.exists_heeds hequipped hleast⟩
  | choose l _ ih =>
    obtain ⟨⟨t, ht⟩, level, hheeds⟩ := ih
    rw [after_changeLevel ht]
    exact ⟨⟨_, rfl⟩, l.level, hheeds.setScreenLevel l.level⟩
  | shown _ hr hterminal ih =>
    obtain ⟨⟨t, ht⟩, level, hheeds⟩ := ih
    exact ⟨⟨t, hterminal.trans ht⟩, level, hheeds.redressed hr⟩

/-- Once a level was chosen for the screen, a line that a node prints with a header is shown exactly
if this level is not above the one that all lines of nodes are logged at. The severity in the header
makes no difference. -/
theorem line_shown_iff_level_le_info {s₀ : Session} {own : Bool} (hrouted : s₀.log.Routed logger own)
    (hequipped : s₀.log.Equipped s₀.world.cwd)
    (hleast : Log.reaches (.int Log.info) s₀.log.leastLevel = .ok true) {t₀ : Terminal}
    (hterminal : s₀.terminal = some t₀) (hs : Attuned s₀ s) (l : ScreenLevel)
    {header : Log.Header} (hline : '\n' ∉ text.toList)
    (hheader : Log.Header.read? text = some header)
    (hseverity : (Log.levelNumbers.lookup header.severity).isSome)
    (htime : (Text.readFloat? header.time).isSome) :
    let u := (changeLevel (·.setLevel l)).after s
    let t := (collectBundled logger "" (text ++ "\n")).after u
    (l.level ≤ Log.info ∧ ShownBetween u t header.text) ∨ (Log.info < l.level ∧ t.out = u.out) := by
  obtain ⟨⟨t, ht⟩, level, hheeds⟩ := hs.exists_heeds hrouted hequipped hleast hterminal
  intro u
  have hu : u.log.Heeds logger l.level := by
    rw [show u = _ from after_changeLevel ht l]
    exact hheeds.setScreenLevel l.level
  exact heeded_line hu hline hheader hseverity htime

def withTerminal (s : Session) : Session :=
  { s with terminal := some {} }

lemma routed_withTerminal_oneTalker : (withTerminal oneTalker).log.Routed "/talker" false ∧
    (withTerminal oneTalker).log.Equipped (withTerminal oneTalker).world.cwd ∧
    Log.reaches (.int Log.info) (withTerminal oneTalker).log.leastLevel = .ok true := by
  have hlog (s : Session) : (withTerminal s).log = s.log := rfl
  have hworld (s : Session) : (withTerminal s).world = s.world := rfl
  rw [hlog, hworld]
  exact routed_oneTalker.2

/-- On a screen for errors, a critical line is not to be seen. -/
theorem line_shown_iff_level_le_info_critical :
    let s := (changeLevel (·.setLevel .info)).after (withTerminal oneTalker)
    Attuned (withTerminal oneTalker) s ∧
      Log.Header.read? "%%FATAL%%1.5%%hot" = some ⟨"FATAL", "1.5", "hot"⟩ ∧
      let u := (changeLevel (·.setLevel .error)).after s
      ((collectBundled "/talker" "" "%%FATAL%%1.5%%hot\n").after u).out = u.out := by
  obtain ⟨hrouted, hequipped, hleast⟩ := routed_withTerminal_oneTalker
  have hattuned := Attuned.choose .info (.start : Attuned (withTerminal oneTalker) _)
  have hheader : Log.Header.read? "%%FATAL%%1.5%%hot" = some ⟨"FATAL", "1.5", "hot"⟩ := by
    decide +kernel
  refine ⟨hattuned, hheader, ?_⟩
  have hshown := line_shown_iff_level_le_info hrouted hequipped hleast rfl hattuned .error
    (by decide) hheader (by decide +kernel) (by decide +kernel)
  exact (hshown.resolve_left fun h => absurd h.1 (by decide)).2

/-- A line for debugging is shown on a screen for information, and an error is not shown on a screen
for warnings. -/
theorem severity_disregarded :
    let chosen (l : ScreenLevel) := (changeLevel (·.setLevel l)).after (withTerminal oneTalker)
    let printed (line : String) (u : Session) := (collectBundled "/talker" "" (line ++ "\n")).after u
    ShownBetween (chosen .info) (printed "%%DEBUG%%1.5%%idle" (chosen .info)) "idle" ∧
      (printed "%%ERROR%%1.5%%hot" (chosen .warning)).out = (chosen .warning).out := by
  obtain ⟨hrouted, hequipped, hleast⟩ := routed_withTerminal_oneTalker
  obtain ⟨level, hheeds⟩ := hrouted.exists_heeds hequipped hleast
  intro chosen printed
  have hchosen (l : ScreenLevel) : (chosen l).log.Heeds "/talker" l.level := by
    rw [show chosen l = _ from after_changeLevel (s := withTerminal oneTalker) rfl l]
    exact hheeds.setScreenLevel l.level
  have hread : Log.Header.read? "%%DEBUG%%1.5%%idle" = some ⟨"DEBUG", "1.5", "idle"⟩ ∧
      Log.Header.read? "%%ERROR%%1.5%%hot" = some ⟨"ERROR", "1.5", "hot"⟩ := by decide +kernel
  have hidle := heeded_line (hchosen .info) (by decide) hread.1 (by decide +kernel) (by decide +kernel)
  have hhot := heeded_line (hchosen .warning) (by decide) hread.2 (by decide +kernel) (by decide +kernel)
  exact ⟨(hidle.resolve_right fun h => absurd h.1 (by decide)).2,
    (hhot.resolve_left fun h => absurd h.1 (by decide)).2⟩

end Launch

end Launchpad
