import Launchpad.Proofs.Command.Holding
import Launchpad.Proofs.Command.Wrapping

/-!
Foreign processes that are started again. What their command lines assign is held as texts and
written as parameters, so that the values come back in quotes, and a remapping loses the name of the
node that it was meant for. All else is said again.
-/

namespace Launchpad.Launch

open List

open Assignment

variable {E : Post Stop}

variable {s t : Session} {i : Nat} {pid : Int} {exe : String} {plain : List String}
  {as : List Assignment} {n : Node}

def quoted (ps : TextPairs) : TextPairs :=
  ps.map fun q => (q.1, Text.asciiQuote q.2)

def restated (as : List Assignment) : List Assignment :=
  assignTo .param (quoted (lastTexts (paramsOf as))) ++
    assignTo .remap (lastTexts (bareRemapsOf as ++
      [("__ns", spelled (nsFrom "" as)), ("__node", nameFrom "" as)]))

def argsOf (as : List Assignment) : List Value :=
  (as.flatMap Assignment.words).map .str

lemma argsOf_append (as bs : List Assignment) : argsOf (as ++ bs) = argsOf as ++ argsOf bs := by
  rw [argsOf, flatMap_append, map_append]
  rfl

lemma flatten_texts (ps : TextPairs) :
    flatten (.str "") (.map (texts ps)) [] = .ok (texts (lastTexts ps)) := by
  have hleaves : flatLeavesAll (.str "") (texts ps) = texts ps := by
    induction ps with
    | nil => rfl
    | cons q ps ih => exact congrArg (_ :: ·) ih
  have hlists : (texts ps).any (fun e => listsMap e.2) = false := by simp [texts, listsMap]
  rw [flatten_eq, flatLeaves, hleaves, flattened, hlists, lastTexts, ← update_put]
  rfl

lemma paramArgs_texts (ps : TextPairs) :
    paramArgs (texts ps) = .ok (argsOf (assignTo .param (quoted ps))) := by
  induction ps with
  | nil => rfl
  | cons q ps ih =>
    obtain ⟨parts, hparts, hflat⟩ := bind_eq_ok.1 ih
    refine bind_eq_ok.2 ⟨[.str "-p", .str (q.1 ++ ":=" ++ Text.asciiQuote q.2)] :: parts, ?_, ?_⟩
    · rw [texts, map_cons, mapM_cons]
      refine bind_eq_ok.2 ⟨_, ?_, bind_eq_ok.2 ⟨_, hparts, rfl⟩⟩
      exact bind_eq_ok.2 ⟨Text.asciiQuote q.2, rfl, congrArg _ (by rw [← word_str q.1]; rfl)⟩
    · have hparts : parts.flatten = argsOf (assignTo .param (quoted ps)) := Except.ok.inj hflat
      rw [flatten_cons, hparts]
      rfl

lemma remapArgs_texts (rs : TextPairs) : remapArgs (texts rs) = argsOf (assignTo .remap rs) := by
  induction rs with
  | nil => rfl
  | cons q rs ih =>
    rw [remapArgs_cons, ih]
    rfl

/-! ## The arguments of a node that holds what assignments say -/

section

variable (h : Repeats n as)
include h

lemma loaded_of_repeats : n.Loaded := by
  intro file hfile
  rw [h.params] at hfile
  cases hfile

lemma flatten_of_repeats :
    flatten (.str "") n.params [] = .ok (texts (lastTexts (paramsOf as))) := by
  rw [h.params, flatten_texts, lastTexts_lastTexts]

lemma extend_of_repeats :
    Entries.extend [] n.remaps = .ok (texts (lastTexts (bareRemapsOf as))) := by
  rw [h.remaps]
  refine congrArg Except.ok ((update_put [] _).trans (congrArg texts ?_))
  exact lastTexts_lastTexts _

lemma insert_of_repeats :
    Entries.insert (Entries.insert (texts (lastTexts (bareRemapsOf as))) (.str "__ns") (.str n.ns))
      (.str "__node") (.str n.name) =
      texts (lastTexts (bareRemapsOf as ++
        [("__ns", spelled (nsFrom "" as)), ("__node", nameFrom "" as)])) := by
  have hns := insert_put (lastTexts (bareRemapsOf as)) ("__ns", n.ns)
  have hname := insert_put (put (lastTexts (bareRemapsOf as)) ("__ns", n.ns)) ("__node", n.name)
  rw [hns, hname, h.ns, h.name, lastTexts, lastTexts, foldl_append]
  rfl

lemma args_of_repeats {args : List Value} (hargs : GraphArgs n args) :
    args = argsOf (restated as) := by
  obtain ⟨flat, params, remaps, hflat, hparams, hremaps, rfl⟩ := hargs.made
  obtain rfl := Except.ok.inj ((flatten_of_repeats h).symm.trans hflat)
  obtain rfl := Except.ok.inj ((paramArgs_texts _).symm.trans hparams)
  obtain rfl := Except.ok.inj ((extend_of_repeats h).symm.trans hremaps)
  rw [insert_of_repeats h, remapArgs_texts, restated, argsOf_append]

end

/-! ## Starting a foreign node again -/

def awake (s : Session) : Bool :=
  (s.launcher.bind fun l => s.promises[l.ending]?).any fun p => p.state == .pending

lemma yields_isShutdown_awake (h : awake s) :
    Yields isShutdown s (fun b t => b = false ∧ t = s) E := by
  simp only [isShutdown, getLauncher, getPromise, yields_bind, yields_get]
  cases hl : s.launcher with
  | none => simp [awake, hl] at h
  | some l =>
    rw [yields_pure]
    cases hp : s.promises[l.ending]? with
    | none => simp [awake, hl, hp] at h
    | some p =>
      have hpending : p.state = .pending := by simpa [awake, hl, hp] using h
      simp only [yields_pure, hpending, and_true]
      rfl

/-- A foreign process has ended, and the launch has not. -/
structure Restartable (s : Session) (pid : Int) : Prop where
  awake : awake s
  ended : ∀ e, s.world.processes.find? (fun p => p.pid == pid) = some e → e.running = false
  log : s.log.Ordinary

section

variable (hn : s.nodes[i]? = some n)
include hn

lemma run_isRunning_ended (h : Wraps n pid exe plain as)
    (hended : ∀ e, s.world.processes.find? (fun p => p.pid == pid) = some e → e.running = false) :
    Succeeds (isRunning i) s (fun v t => v.truthy = false ∧ t = s) := by
  simp only [isRunning, runningWith, getNode, yields_bind, yields_get, hn, yields_pure, h.kind,
    foreignRunning, and_true]
  cases hfind : s.world.processes.find? fun p => p.pid == pid with
  | none => rfl
  | some e => simp [hended e hfind, Value.truthy]

lemma yields_getForeign_of {f : ForeignNode} (hkind : n.kind = .foreign f) :
    Yields (getForeign i) s (fun g t => g = f ∧ t = s) E := by
  refine (yields_getNode hn).exactly ?_
  rw [hkind]
  exact .pure ⟨rfl, rfl⟩

lemma yields_flatParams_of_repeats (h : Repeats n as) :
    Yields (flatParams i) s
      (fun es t => es = texts (lastTexts (paramsOf as)) ∧ t = s) E := by
  refine (yields_nodeParams_loaded hn (loaded_of_repeats h)).exactly ?_
  rw [flatten_of_repeats h]
  exact .pure ⟨rfl, rfl⟩

lemma yields_graphArgs_of_repeats (h : Repeats n as) :
    Yields (graphArgs i) s
      (fun es t => es = texts (lastTexts (bareRemapsOf as ++
        [("__ns", spelled (nsFrom "" as)), ("__node", nameFrom "" as)])) ∧ t = s) E := by
  refine (yields_getNode hn).exactly ?_
  rw [extend_of_repeats h]
  refine .of_bind (.pure (.pure ⟨?_, rfl⟩))
  exact insert_of_repeats h

end

lemma texts?_map_str (ts : List String) : Substitution.texts? (ts.map .str) = some ts := by
  induction ts with
  | nil => rfl
  | cons t ts ih => rw [map_cons, Substitution.texts?, ih]; rfl

def restartLine (exe : String) (plain : List String) (as : List Assignment) : List String :=
  exe :: plain ++ nodeMark :: (restated as).flatMap Assignment.words

lemma yields_startForeign (hn : s.nodes[i]? = some n) (h : Wraps n pid exe plain as)
    (hs : Restartable s pid) {event : Event}
    (hevent : event = .spawned ((restartLine exe plain as).map .str) (.bool false) none) :
    EndsIn (startForeign i) s (fun t => t.events.getLast? = some event) := by
  unfold startForeign
  refine (yields_getNode hn).bind ?_
  rintro m u ⟨rfl, rfl⟩
  refine (yields_isShutdown_awake hs.awake).exactly ?_
  refine (run_isRunning_ended hn h hs.ended).andThen ?_
  rintro v u ⟨hstill, rfl⟩
  rw [hstill]
  refine (yields_getForeign_of hn h.kind).exactly ?_
  refine .of_bind (.pure ?_)
  refine (yields_flatParams_of_repeats hn h.repeats).exactly ?_
  rw [paramArgs_texts]
  refine .of_bind (.pure ?_)
  refine (yields_graphArgs_of_repeats hn h.repeats).exactly ?_
  have hline : m.executable :: plain.map Value.str ++ [.str "--ros-args"] ++
      argsOf (assignTo .param (quoted (lastTexts (paramsOf as)))) ++
      remapArgs (texts (lastTexts (bareRemapsOf as ++
        [("__ns", spelled (nsFrom "" as)), ("__node", nameFrom "" as)]))) =
      (restartLine exe plain as).map .str := by
    rw [h.executable, remapArgs_texts, append_assoc, ← argsOf_append, ← restated]
    simp [restartLine, argsOf, nodeMark]
  dsimp only
  rw [hline, texts?_map_str]
  refine .of_bind (.pure ?_)
  have hplain : Log.StartsPlain "Starting process '" := ⟨'S', _, rfl, by decide⟩
  refine (yields_log_unmarked (R := Written) m.logger (by decide) ((hplain.append _).append _) hs.log
    []).bind fun _ v hv => ?_
  refine (yields_spawn_event _ _ v).seq ?_ ?_
  · rintro c w ⟨-, hevents⟩
    simp only [modifyForeign, modifyNode, addTask, yields_bind, yields_modify]
    rw [hevents, List.getLast?_concat, hevent]
  · intro e w hevents
    rw [hevents, List.getLast?_concat, hevent]

end Launchpad.Launch
