import Launchpad.Proofs.Log.Showing

/-!
Where loggers write. A registry that is equipped for a launch has one handler for the screen and
one for each log file, all with formatters that can show any message. Making handlers and giving
them to a logger leaves every other logger as it is.
-/

namespace Launchpad.Log

open List Option

/-- A formatter is a pretty one of a launch. -/
def IsPretty (formatters : Array Formatter) (f : Option Nat) : Prop :=
  ∃ j template, f = some j ∧ Registry.Dresses formatters j template

/-- The handler takes messages of all levels and has a pretty formatter for every logger. -/
structure Handler.Fitted (formatters : Array Formatter) (k : Handler) : Prop where
  level : k.level ≤ 0
  formatter : IsPretty formatters k.formatter
  perLogger : ∀ name f, k.perLogger.lookup name = some f → IsPretty formatters f

namespace Registry

variable {cwd dir logger name : String} {changed : List String} {r r' : Registry}
variable {target : Target} {i : Nat} {targets : List Target}

def WritesTo (r : Registry) (i : Nat) (target : Target) : Prop :=
  ∃ k, r.handlers[i]? = some k ∧ k.target = target

/-- A registry that is set up for a launch whose files are looked for from `cwd`. -/
structure Equipped (cwd : String) (r : Registry) : Prop where
  screenFormatter : IsPretty r.formatters r.screenFormatter
  fileFormatter : IsPretty r.formatters r.fileFormatter
  fitted : ∀ k ∈ r.handlers, k.Fitted r.formatters
  screen : ∀ i, r.screenHandler = some i → r.WritesTo i .screen
  files : ∀ name i, r.fileHandlers.lookup name = some i → ∃ dir, r.directory = some dir ∧
    r.WritesTo i (.file (Path.absolute cwd (Path.join dir name)))
  apart : ∀ name name' i, r.fileHandlers.lookup name = some i →
    r.fileHandlers.lookup name' = some i → name = name'

/-- Handlers were made and given to some loggers; all else of the registry is as before. -/
structure Tunes (cwd : String) (changed : List String) (r r' : Registry) : Prop where
  equipped : r.Equipped cwd → r'.Equipped cwd
  others : ∀ name ∉ changed, r'.handlersOf name = r.handlersOf name
  writes : ∀ i target, r.WritesTo i target → r'.WritesTo i target
  screen : ∀ i, r.screenHandler = some i → r'.screenHandler = some i
  files : ∀ name i, r.fileHandlers.lookup name = some i → r'.fileHandlers.lookup name = some i
  directory : ∀ dir, r.directory = some dir → r'.directory = some dir

instance : IsPreorder Registry (Tunes cwd changed) where
  refl _ := ⟨id, fun _ _ => rfl, fun _ _ => id, fun _ => id, fun _ _ => id, fun _ => id⟩
  trans _ _ _ h h' :=
    ⟨h'.equipped ∘ h.equipped, fun n hn => (h'.others n hn).trans (h.others n hn),
      fun i t => h'.writes i t ∘ h.writes i t, fun i => h'.screen i ∘ h.screen i,
      fun n i => h'.files n i ∘ h.files n i, fun d => h'.directory d ∘ h.directory d⟩

lemma Tunes.mono {changed' : List String} (h : Tunes cwd changed r r')
    (hsub : changed ⊆ changed') : Tunes cwd changed' r r' :=
  { h with others := fun name hname => h.others name fun hmem => hname (hsub hmem) }

/-! ## Giving handlers to a logger -/

lemma handlersOf_attach (r : Registry) (logger name : String) (i : Nat) :
    (r.attach logger i).handlersOf name =
      if name = logger then
        if i ∈ r.handlersOf logger then r.handlersOf logger else r.handlersOf logger ++ [i]
      else r.handlersOf name := by
  unfold attach
  rw [handlersOf, lookup_setAssoc]
  split
  · simp only [getD_some, contains_iff_mem]
  · rfl

lemma tunes_attach (r : Registry) (logger : String) (i : Nat) :
    Tunes cwd [logger] r (r.attach logger i) := by
  refine ⟨fun h => ?_, fun name hname => ?_, fun _ _ => id, fun _ => id, fun _ _ => id, fun _ => id⟩
  · exact ⟨h.screenFormatter, h.fileFormatter, h.fitted, h.screen, h.files, h.apart⟩
  · rw [handlersOf_attach, if_neg (ne_of_not_mem_cons hname)]

lemma WritesTo.setFormatterFor {m : Nat} (h : r.WritesTo m target) (i : Nat) (f : Option Nat) :
    (r.setFormatterFor i logger f).WritesTo m target := by
  obtain ⟨k, hk, htarget⟩ := h
  simp only [WritesTo, Registry.setFormatterFor, modifyHandler, Array.getElem?_modify, hk]
  split
  · exact ⟨_, rfl, htarget⟩
  · exact ⟨k, rfl, htarget⟩

lemma tunes_setFormatterFor (r : Registry) (logger : String) (i : Nat) {f : Option Nat}
    (hf : r.Equipped cwd → IsPretty r.formatters f) :
    Tunes cwd changed r (r.setFormatterFor i logger f) := by
  refine ⟨fun h => ⟨h.screenFormatter, h.fileFormatter, fun k hk => ?_, fun m hm => ?_,
    fun name m hm => ?_, h.apart⟩, fun _ _ => rfl, fun _ _ h => h.setFormatterFor i f, fun _ => id,
    fun _ _ => id, fun _ => id⟩
  · obtain ⟨m, hm⟩ := Array.mem_iff_getElem?.1 hk
    simp only [setFormatterFor, modifyHandler, Array.getElem?_modify] at hm
    split at hm
    · obtain ⟨k, hold, rfl⟩ := map_eq_some_iff.1 hm
      have hfitted := h.fitted k (Array.mem_of_getElem? hold)
      refine ⟨hfitted.level, hfitted.formatter, fun name g hg => ?_⟩
      rw [lookup_setAssoc] at hg
      split at hg
      · rw [← some.inj hg]
        exact hf h
      · exact hfitted.perLogger name g hg
    · exact h.fitted k (Array.mem_of_getElem? hm)
  · exact (h.screen m hm).setFormatterFor i f
  · obtain ⟨dir, hdir, hwrites⟩ := h.files name m hm
    exact ⟨dir, hdir, hwrites.setFormatterFor i f⟩

/-! ## Making handlers -/

lemma WritesTo.push (h : r.WritesTo i target) (k : Handler) :
    { r with handlers := r.handlers.push k }.WritesTo i target := by
  obtain ⟨k', hk', htarget⟩ := h
  have hlt : i < r.handlers.size := (Array.getElem?_eq_some_iff.1 hk').1
  refine ⟨k', ?_, htarget⟩
  rw [Array.getElem?_push_lt hlt]
  exact (Array.getElem?_eq_getElem hlt).symm.trans hk'

lemma WritesTo.lt (h : r.WritesTo i target) : i < r.handlers.size := by
  obtain ⟨k, hk, -⟩ := h
  exact (Array.getElem?_eq_some_iff.1 hk).1

lemma fitted_push {k : Handler} (h : ∀ k ∈ r.handlers, k.Fitted r.formatters)
    (hk : IsPretty r.formatters k.formatter) (hlevel : k.level = 0) (hper : k.perLogger = []) :
    ∀ k' ∈ r.handlers.push k, k'.Fitted r.formatters := by
  intro k' hk'
  rcases Array.mem_push.1 hk' with hk' | rfl
  · exact h k' hk'
  · refine ⟨Int.le_of_eq hlevel, hk, fun name f hf => ?_⟩
    rw [hper, lookup_nil] at hf
    cases hf

lemma tunes_screen (r : Registry) : Tunes cwd changed r r.screen.1 := by
  unfold screen
  split
  · exact refl_of (Tunes cwd changed) r
  · next hnone =>
    refine ⟨fun h => ?_, fun _ _ => rfl, fun _ _ h => h.push _, fun i hi => ?_, fun _ _ => id,
      fun _ => id⟩
    · refine ⟨h.screenFormatter, h.fileFormatter,
        fitted_push h.fitted h.screenFormatter rfl rfl, fun i hi => ?_, fun name i hi => ?_, h.apart⟩
      · rw [← some.inj hi]
        exact ⟨_, Array.getElem?_push_size, rfl⟩
      · obtain ⟨dir, hdir, hwrites⟩ := h.files name i hi
        exact ⟨dir, hdir, hwrites.push _⟩
    · rw [hnone] at hi
      cases hi

lemma screenHandler_screen (r : Registry) : r.screen.1.screenHandler = some r.screen.2 := by
  unfold screen
  split
  · next h => exact h
  · rfl

lemma lookup_addFileHandler (hnone : r.fileHandlers.lookup name = none) (path kind n : String) :
    (r.addFileHandler name path kind).1.fileHandlers.lookup n =
      if n = name then some r.handlers.size else r.fileHandlers.lookup n := by
  show (r.fileHandlers ++ [(name, r.handlers.size)]).lookup n = _
  rw [lookup_append]
  split
  · next h => rw [h, hnone, none_or, lookup_cons_self]
  · next h => rw [lookup_cons, beq_false_of_ne h, lookup_nil, or_none]

lemma tunes_addFileHandler (hnone : r.fileHandlers.lookup name = none)
    (hdir : r.directory = some dir) (kind : String) :
    Tunes cwd changed r
      (r.addFileHandler name (Path.absolute cwd (Path.join dir name)) kind).1 := by
  have hold (h : r.Equipped cwd) {n : String} {i : Nat} (hi : r.fileHandlers.lookup n = some i) :
      i < r.handlers.size := by
    obtain ⟨_, -, hwrites⟩ := h.files n i hi
    exact hwrites.lt
  refine ⟨fun h => ?_, fun _ _ => rfl, fun _ _ h => h.push _, fun _ => id, fun n i hi => ?_,
    fun _ => id⟩
  · refine ⟨h.screenFormatter, h.fileFormatter,
      fitted_push h.fitted h.fileFormatter rfl rfl, fun i hi => (h.screen i hi).push _,
      fun n i hi => ?_, fun n n' i hi hi' => ?_⟩
    · rw [lookup_addFileHandler hnone] at hi
      split at hi
      · next hn =>
        rw [hn, ← some.inj hi]
        exact ⟨dir, hdir, _, Array.getElem?_push_size, rfl⟩
      · obtain ⟨d, hd, hwrites⟩ := h.files n i hi
        exact ⟨d, hd, hwrites.push _⟩
    · rw [lookup_addFileHandler hnone] at hi hi'
      -- The new handler has a number that no other file has.
      split at hi
      · next hn =>
        split at hi'
        · next hn' => rw [hn, hn']
        · exact absurd (hold h hi') (by rw [← some.inj hi]; exact Nat.lt_irrefl _)
      · split at hi'
        · exact absurd (hold h hi) (by rw [← some.inj hi']; exact Nat.lt_irrefl _)
        · exact h.apart n n' i hi hi'
  · rw [lookup_addFileHandler hnone, if_neg, hi]
    rintro rfl
    rw [hnone] at hi
    cases hi

lemma tunes_directory (hnone : r.directory = none) (dir : String) :
    Tunes cwd changed r { r with directory := some dir } := by
  refine ⟨fun h => ?_, fun _ _ => rfl, fun _ _ => id, fun _ => id, fun _ _ => id, fun d hd => ?_⟩
  · refine ⟨h.screenFormatter, h.fileFormatter, h.fitted, h.screen, fun n i hi => ?_,
      h.apart⟩
    obtain ⟨d, hd, -⟩ := h.files n i hi
    rw [hnone] at hd
    cases hd
  · rw [hnone] at hd
    cases hd

/-! ## Handlers that show messages -/

lemma Equipped.exists_serves (h : r.Equipped cwd) (hi : r.WritesTo i target) (logger : String) :
    ∃ template, r.Serves logger i (target, template) := by
  obtain ⟨k, hk, htarget⟩ := hi
  have hfitted := h.fitted k (Array.mem_of_getElem? hk)
  obtain ⟨j, template, hj, hdresses⟩ : ∃ j template,
      formatterFor k (.str logger) = some (some j) ∧ Dresses r.formatters j template := by
    unfold formatterFor
    split
    · next f hf =>
      obtain ⟨j, template, rfl, hdresses⟩ := hfitted.perLogger logger f hf
      exact ⟨j, template, rfl, hdresses⟩
    · obtain ⟨j, template, hj, hdresses⟩ := hfitted.formatter
      exact ⟨j, template, by rw [hj, map_some], hdresses⟩
  exact ⟨template, k, j, hk, hfitted.level, htarget, hj, hdresses⟩

/-- The targets of the handlers of a logger. -/
def Reaches (r : Registry) (logger : String) (targets : List Target) : Prop :=
  List.Forall₂ r.WritesTo (r.handlersOf logger) targets

lemma Reaches.exists_places (h : r.Reaches logger targets) (hr : r.Equipped cwd) :
    ∃ places, places.map Prod.fst = targets ∧
      List.Forall₂ (r.Serves logger) (r.handlersOf logger) places := by
  unfold Reaches at h
  generalize r.handlersOf logger = is at h ⊢
  induction h with
  | nil => exact ⟨[], rfl, .nil⟩
  | cons hi _ ih =>
    obtain ⟨places, hplaces, hserves⟩ := ih
    obtain ⟨template, htemplate⟩ := hr.exists_serves hi logger
    exact ⟨(_, template) :: places, by rw [map_cons, hplaces], .cons htemplate hserves⟩

lemma Equipped.redressed (h : r.Equipped cwd) (hr : r.Redressed r') : r'.Equipped cwd := by
  have hdresses := hr.dresses
  obtain ⟨formatters, hue, rfl⟩ := hr.eq
  have hpretty {f : Option Nat} (hf : IsPretty r.formatters f) : IsPretty formatters f := by
    obtain ⟨j, template, hj, hd⟩ := hf
    exact ⟨j, template, hj, hdresses j template hd⟩
  refine ⟨hpretty h.screenFormatter, hpretty h.fileFormatter, fun k hk => ?_, h.screen, h.files,
    h.apart⟩
  obtain ⟨hlevel, hformatter, hper⟩ := h.fitted k hk
  exact ⟨hlevel, hpretty hformatter, fun name f hf => hpretty (hper name f hf)⟩

lemma Reaches.redressed (h : r.Reaches logger targets) (hr : r.Redressed r') :
    r'.Reaches logger targets := by
  obtain ⟨_, _, rfl⟩ := hr.eq
  exact h

/-! ## The handlers of a node -/

/-- The handlers of a logger are that of the screen, that of the common file and, if it has one,
that of its own file. -/
def Routed (r : Registry) (logger : String) (own : Bool) : Prop :=
  ∃ i j hs, r.screenHandler = some i ∧ r.fileHandlers.lookup "launch.log" = some j ∧
    r.handlersOf logger = i :: j :: hs ∧
    if own then ∃ h, r.fileHandlers.lookup (logger ++ ".log") = some h ∧ hs = [h] else hs = []

lemma Routed.tunes {own : Bool} (h : r.Routed logger own) (ht : Tunes cwd changed r r')
    (hlogger : logger ∉ changed) : r'.Routed logger own := by
  obtain ⟨i, j, hs, hi, hj, hhandlers, hown⟩ := h
  refine ⟨i, j, hs, ht.screen i hi, ht.files _ j hj, (ht.others logger hlogger).trans hhandlers, ?_⟩
  cases own with
  | false => exact hown
  | true =>
    obtain ⟨h, hh, rfl⟩ := hown
    exact ⟨h, ht.files _ h hh, rfl⟩

lemma Equipped.file_ne_screen (h : r.Equipped cwd) {j : Nat} (hi : r.screenHandler = some i)
    (hj : r.fileHandlers.lookup name = some j) : j ≠ i := by
  rintro rfl
  obtain ⟨k, hk, hscreen⟩ := h.screen j hi
  obtain ⟨_, _, k', hk', hfile⟩ := h.files name j hj
  rw [mem_unique hk' hk, hscreen] at hfile
  cases hfile

lemma Equipped.routed_attach (h : r.Equipped cwd) {j : Nat} (hi : r.screenHandler = some i)
    (hj : r.fileHandlers.lookup "launch.log" = some j) (hlogger : r.handlersOf logger = [i]) :
    (r.attach logger j).Routed logger false := by
  refine ⟨i, j, [], hi, hj, ?_, rfl⟩
  rw [handlersOf_attach, if_pos rfl, if_neg, hlogger, singleton_append]
  rw [hlogger, mem_singleton]
  exact h.file_ne_screen hi hj

lemma Routed.attach_own (h : r.Routed logger false) (hr : r.Equipped cwd)
    (hname : logger ++ ".log" ≠ "launch.log") {m : Nat}
    (hm : r.fileHandlers.lookup (logger ++ ".log") = some m) (f : Option Nat) :
    m ∉ r.handlersOf logger ∧ ((r.setFormatterFor m logger f).attach logger m).Routed logger true := by
  obtain ⟨i, j, hs, hi, hj, hhandlers, hown⟩ := h
  have hnil : hs = [] := hown
  have hnew : m ∉ r.handlersOf logger := by
    rw [hhandlers, hnil, mem_pair]
    rintro (rfl | rfl)
    · exact hr.file_ne_screen hi hm rfl
    · exact hname (hr.apart _ _ m hm hj)
  have hsame : (r.setFormatterFor m logger f).handlersOf logger = r.handlersOf logger := rfl
  refine ⟨hnew, i, j, [m], hi, hj, ?_, m, hm, rfl⟩
  rw [handlersOf_attach, if_pos rfl, hsame, if_neg hnew, hhandlers, hnil]
  rfl

def nodeTargets (cwd dir logger : String) (own : Bool) : List Target :=
  .screen :: .file (Path.absolute cwd (Path.join dir "launch.log")) ::
    if own then [.file (Path.absolute cwd (Path.join dir (logger ++ ".log")))] else []

lemma Routed.exists_reaches {own : Bool} (h : r.Routed logger own) (hr : r.Equipped cwd) :
    ∃ dir, r.directory = some dir ∧ r.Reaches logger (nodeTargets cwd dir logger own) := by
  obtain ⟨i, j, hs, hi, hj, hhandlers, hown⟩ := h
  obtain ⟨dir, hdir, hcommon⟩ := hr.files _ j hj
  refine ⟨dir, hdir, ?_⟩
  rw [Reaches, hhandlers]
  refine .cons (hr.screen i hi) (.cons hcommon ?_)
  cases own with
  | false =>
    rw [hown]
    exact .nil
  | true =>
    obtain ⟨h, hh, rfl⟩ := hown
    obtain ⟨dir', hdir', hwrites⟩ := hr.files _ h hh
    rw [mem_unique hdir' hdir] at hwrites
    exact .cons hwrites .nil

/-! ## Lines of any message -/

lemma handlers_formatAt (r : Registry) (k : Handler) (record : Record) :
    (r.formatAt k record).2.1.handlers = r.handlers := by
  unfold formatAt
  split
  · rfl
  · rfl
  · split
    · rfl
    · rfl

lemma exists_deliver_sublist {is : List Nat} (h : List.Forall₂ r.WritesTo is targets)
    (record : Record) (out : Lines) :
    ∃ lines, (r.deliver is record out).2.1 = out ++ lines ∧
      List.Sublist (lines.map Prod.fst) targets := by
  induction is generalizing r record out targets with
  | nil => exact ⟨[], by rw [deliver, append_nil], nil_sublist _⟩
  | cons i is ih =>
    obtain ⟨target, targets, ⟨k, hk, htarget⟩, hrest, rfl⟩ := forall₂_cons_left_iff.1 h
    have hskip : ∃ lines, (r.deliver is record out).2.1 = out ++ lines ∧
        List.Sublist (lines.map Prod.fst) (target :: targets) := by
      obtain ⟨lines, hlines, hsub⟩ := ih hrest record out
      exact ⟨lines, hlines, hsub.cons target⟩
    rw [deliver, hk]
    dsimp only
    split
    · exact ⟨[], (append_nil _).symm, nil_sublist _⟩
    · exact hskip
    · have hrest' : List.Forall₂ (r.formatAt k record).2.1.WritesTo is targets := by
        unfold WritesTo
        rw [handlers_formatAt]
        exact hrest
      split
      · next line _ =>
        obtain ⟨lines, hlines, hsub⟩ := ih hrest' (r.formatAt k record).2.2
          (out ++ [(k.target, line ++ "\n")])
        refine ⟨(k.target, line ++ "\n") :: lines, ?_, ?_⟩
        · rw [hlines, append_assoc, singleton_append]
        · rw [map_cons, htarget]
          exact hsub.cons_cons target
      · obtain ⟨lines, hlines, hsub⟩ := ih hrest' (r.formatAt k record).2.2 out
        exact ⟨lines, hlines, hsub.cons target⟩

lemma Reaches.sublist (h : r.Reaches logger targets) (level msg : Value) (now : Float)
    (args : List Value) :
    List.Sublist ((r.log logger level msg now args).2.1.map Prod.fst) targets := by
  unfold Registry.log
  dsimp only
  split
  · next record _ =>
    obtain ⟨lines, hlines, hsub⟩ := exists_deliver_sublist h record []
    rw [handle, hlines, nil_append]
    exact hsub
  · exact nil_sublist _
  · exact nil_sublist _

end Registry

end Launchpad.Log
