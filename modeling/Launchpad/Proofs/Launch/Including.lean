import Launchpad.Session.Include
import Launchpad.Proofs.Params.Sections
import Launchpad.Proofs.Substitution.InPlace

/-!
The arguments of an included launch function. What the include names comes before what the launcher
passes on, and this before the default of a parameter.
-/

namespace Launchpad

open List Option

open Entries

/-! ## Binding by name -/

/-- A parameter with its value, if there is one. -/
def Param.filled (value? : Param → Option Value) (p : Param) : Except BindError (String × Value) :=
  match value? p with
  | some v => .ok (p.name, v)
  | none => .error (.missing p.name)

def given (value? : String → Option Value) (names : List String) : Named :=
  names.filterMap fun k => (value? k).map fun v => (k, v)

variable {named : Named} {value? : String → Option Value}

lemma mem_given {names : List String} {e : String × Value} (h : e ∈ given value? names) :
    e.1 ∈ names := by
  obtain ⟨k, hk, hek⟩ := mem_filterMap.1 h
  obtain ⟨v, -, rfl⟩ := map_eq_some_iff.1 hek
  exact hk

lemma assignNamed_given {ps : List Param} {later : Named} (hps : (ps.map (·.name)).Nodup)
    (hlater : ∀ e ∈ later, e.1 ∉ ps.map (·.name)) :
    assignNamed true ps (given value? (ps.map (·.name)) ++ later) =
      (ps.mapM (Param.filled fun p => (value? p.name).or p.default)).map fun a => (a, later) := by
  induction ps with
  | nil => rfl
  | cons p ps ih =>
    obtain ⟨hp, hps⟩ := nodup_cons.1 hps
    have hfresh : ∀ e ∈ given value? (ps.map (·.name)) ++ later, (e.1 != p.name) = true := by
      refine fun e he => bne_iff_ne.2 fun heq => ?_
      rcases mem_append.1 he with he | he
      · have hmem := mem_given he
        rw [heq] at hmem
        exact hp hmem
      · exact hlater e he (heq ▸ mem_cons_self)
    have hrest := ih hps fun e he hmem => hlater e he (mem_cons_of_mem _ hmem)
    rw [assignNamed, mapM_cons]
    cases hvalue : value? p.name with
    | some v =>
      have hgiven : given value? ((p :: ps).map (·.name)) =
          (p.name, v) :: given value? (ps.map (·.name)) := by simp [given, hvalue]
      have hremoved : removeNamed ((p.name, v) :: (given value? (ps.map (·.name)) ++ later))
          p.name = given value? (ps.map (·.name)) ++ later := by
        rw [removeNamed, filter_cons_of_neg (by simp), filter_eq_self.2 hfresh]
      simp only [hgiven, cons_append, lookup_cons_self, hremoved, hrest, Param.filled,
        hvalue, some_or]
      cases ps.mapM (Param.filled fun p => (value? p.name).or p.default) <;> rfl
    | none =>
      have hgiven : given value? ((p :: ps).map (·.name)) = given value? (ps.map (·.name)) := by
        simp [given, hvalue]
      have hlookup : (given value? (ps.map (·.name)) ++ later).lookup p.name = none :=
        lookup_eq_none_iff.2 fun e he => by rw [bne_comm, hfresh e he]
      simp only [hgiven, hlookup, hrest, Param.filled, hvalue, none_or]
      cases p.default
      · rfl
      · cases ps.mapM (Param.filled fun p => (value? p.name).or p.default) <;> rfl

lemma Signature.bind_given {sig : Signature} (hargs : sig.varargs = none)
    (hkw : sig.varkw = none) (hnames : sig.names.Nodup) :
    sig.bind [] (given value? sig.names) true = ((sig.params ++ sig.kwonly).mapM
      (Param.filled fun p => (value? p.name).or p.default)).map Bound.mk := by
  have hpositional : assignPositional sig.params [] = ([], sig.params, []) := by
    cases sig.params <;> rfl
  simp only [Signature.names, hargs, hkw, toList_none, append_nil] at hnames ⊢
  obtain ⟨hparams, hkwonly, hapart⟩ := nodup_append.1 hnames
  have hfirst : assignNamed true sig.params (given value? (sig.params.map (·.name)) ++
      given value? (sig.kwonly.map (·.name))) = _ :=
    assignNamed_given hparams fun e he hmem => hapart _ hmem _ (mem_given he) rfl
  have hsecond : assignNamed true sig.kwonly (given value? (sig.kwonly.map (·.name)) ++ []) = _ :=
    assignNamed_given hkwonly (by simp)
  rw [append_nil] at hsecond
  simp only [Signature.bind, hpositional, hargs, hkw, mapM_append, given,
    filterMap_append] at hfirst hsecond ⊢
  rw [hfirst]
  cases sig.params.mapM (Param.filled fun p => (value? p.name).or p.default) with
  | error e => rfl
  | ok a =>
    change (assignNamed true sig.kwonly _ >>= fun r => _) = _
    rw [hsecond]
    cases sig.kwonly.mapM (Param.filled fun p => (value? p.name).or p.default) with
    | error e => rfl
    | ok b =>
      change Except.ok (⟨[] ++ a ++ [] ++ b ++ []⟩ : Bound) = Except.ok ⟨a ++ b⟩
      simp only [nil_append, append_nil]

/-! ## What is passed on -/

lemma Entries.getText?_map_str (named : Named) (k : String) :
    getText? (named.map fun e => (.str e.1, e.2)) k = named.lookup k := by
  induction named with
  | nil => rfl
  | cons e named ih =>
    rw [map_cons, getText?_cons, ih, Value.alike_str, lookup_cons, Bool.beq_comm]
    cases k == e.1 <;> rfl

lemma Entries.distinct_map_str (h : (named.map Prod.fst).Nodup) :
    Distinct (named.map fun e => (.str e.1, e.2)) := by
  refine pairwise_map.2 ((pairwise_map.1 h).imp fun hne => ?_)
  rw [Value.alike_str]
  simpa using hne

/-- What an included launch function gets for a parameter, where an include names some arguments and
others are passed on. -/
def includedValue (passed : Entries) (named : Named) (p : Param) : Option Value :=
  ((named.lookup p.name).or (passed.getText? p.name)).or p.default

namespace Launch

variable {package file subdir : Value} {path : String} {spec : LaunchSpec} {l : Launcher}
variable {s m t : Session} {passed args : Entries}

/-- A launch function is found in a file that can be read. -/
structure Includes (package file subdir : Value) (path : String) (spec : LaunchSpec)
    (s m : Session) : Prop where
  found : (find package file subdir).run s = .ok (.str path) m
  content : m.world.files.read? (Path.absolute m.world.cwd path) = some (.launch spec)
  readable : spec.isReadable = true
  synchronous : spec.asynchronous = false

/-- The parameters of a launch function can all be given by name, and there is a launcher that can
log. -/
structure Launchable (spec : LaunchSpec) (l : Launcher) (m : Session) : Prop where
  runnable : spec.isRunnable
  defined : (checkDefinition spec).run m = .ok () m
  fixed : spec.varargs = none ∧ spec.varkw = none
  launcher : m.launcher = some l
  log : m.log.Ordinary

/-- The values of all parameters of an included launch function. -/
def includedValues (passed : Entries) (named : Named) (spec : LaunchSpec) :
    Except BindError Named :=
  (spec.signature.params ++ spec.signature.kwonly).mapM (Param.filled (includedValue passed named))

lemma Launchable.includedArgs_eq (h : Launchable spec l m)
    (hargs : ∀ k, args.getText? k = (named.lookup k).or (passed.getText? k)) :
    (∀ vs, includedValues passed named spec = .ok vs → includedArgs spec args = pure ⟨vs⟩) ∧
      ∀ e, includedValues passed named spec = .error e →
        includedArgs spec args = throw (.fault e.fault) := by
  have hrunnable := h.runnable
  simp only [LaunchSpec.isRunnable, Bool.and_eq_true, decide_eq_true_eq] at hrunnable
  have hbind : spec.signature.bind [] (given args.getText? spec.signature.names) true = _ :=
    Signature.bind_given h.fixed.1 h.fixed.2 hrunnable.2
  simp only [hargs] at hbind
  have hvalues : spec.signature.bind [] (given args.getText? spec.signature.names) true =
      (includedValues passed named spec).map Bound.mk := hbind
  unfold given at hvalues
  unfold includedArgs bindArgs
  dsimp only
  rw [hvalues]
  refine ⟨fun vs hvs => ?_, fun e he => ?_⟩
  · rw [hvs]
    rfl
  · rw [he]
    rfl

/-! ## Running it -/

lemma run_catchFault_congr {x y : Launch Unit} (h : x.run s = y.run t)
    (handle : Fault → Launch Unit) : (catchFault x handle).run s = (catchFault y handle).run t := by
  simp only [catchFault, EStateM.run, tryCatch, tryCatchThe, MonadExceptOf.tryCatch,
    EStateM.tryCatch] at h ⊢
  rw [h]

lemma exists_run_display (v : Value) (s : Session) : ∃ text, (display v).run s = .ok text s := by
  obtain ⟨text, t, hrun, rfl, -⟩ := (yields_display v s).exists_ok
  exact ⟨text, hrun⟩

/-- Tells that an include failed, and passes the failure on. -/
def reportInclude (logger : String) (package file : Value) (f : Fault) : Launch Unit := do
  error logger s!"Launch include '{← display package}/{← display file}' failed: {f.text}"
  throw (.fault f)

lemma Launchable.exists_run (h : Launchable spec l m) (package file : Value) (path : String)
    (args : Entries) (runBody : List Script.Step → Launch (List Answer)) :
    ∃ line t, (info l.logger line).run m = .ok () t ∧ Written m t ∧
      (includeFunction runBody package file path args spec).run m =
        (catchFault (includedArgs spec args >>= runFunction runBody path spec)
          (reportInclude l.logger package file)).run t := by
  obtain ⟨shown, hshown⟩ := exists_run_display file m
  obtain ⟨list, hlist⟩ := exists_run_display (.map args) m
  let line := s!"Including launch file: {shown} (args={list})"
  have hplain : Log.StartsPlain line := by
    iterate 4 refine Log.StartsPlain.append ?_ _
    exact ⟨'I', _, rfl, by decide⟩
  have hlogs : Succeeds (info l.logger line) m (fun _ t => Written m t) :=
    yields_log_unmarked l.logger (by decide) hplain h.log []
  obtain ⟨_, t, hinfo, hwritten⟩ := hlogs.exists_ok
  have hlauncher : getLauncher.run m = .ok l m := by
    rw [getLauncher, run_bind_of_ok (x := get) (s := m) rfl, h.launcher]
    rfl
  refine ⟨line, t, hinfo, hwritten, ?_⟩
  rw [includeFunction, run_bind_of_ok hlauncher]
  refine run_catchFault_congr ?_ (reportInclude l.logger package file)
  rw [if_pos h.runnable, run_bind_of_ok h.defined, run_bind_of_ok hshown, run_bind_of_ok hlist]
  exact run_bind_of_ok hinfo

/-- What is done with a file depends on what the search for a launch function comes to. -/
lemma Includes.exists_args (h : Includes package file subdir path spec s m) {own : Entries}
    (hown : m.launchArgs = .map own) (hdistinct : own.Distinct)
    (hnamed : (named.map Prod.fst).Nodup) (pass : Bool)
    (runBody : List Script.Step → Launch (List Answer)) :
    ∃ args, (∀ k, getText? args k = (named.lookup k).or (getText? (if pass then own else []) k)) ∧
      (includeFile runBody package file subdir pass named).run s =
        (do match ← lift (Content.launch spec).launchFunction? with
          | none => includeForeign path args
          | some spec => includeFunction runBody package file path args spec).run m := by
  let passed := if pass then update [] own else []
  let args := update passed (named.map fun e => (.str e.1, e.2))
  refine ⟨args, fun k => ?_, ?_⟩
  · rw [getText?_update (distinct_map_str hnamed), getText?_map_str]
    congr 1
    cases pass
    · rfl
    · exact (getText?_update hdistinct [] k).trans or_none
  have hpassed {next : Entries → Launch Unit} :
      (if pass then lift (extend [] m.launchArgs) >>= next else pure [] >>= next).run m =
        (next passed).run m := by
    rw [hown]
    cases pass <;> rfl
  unfold includeFile
  rw [run_bind_of_ok h.found, run_bind_of_ok (x := textOf _) (s := m) rfl,
    run_bind_of_ok (x := get) (s := m) rfl]
  refine hpassed.trans ?_
  dsimp only
  rw [h.content]
  rfl

/-- An included launch function that the search finds is run once, with a value for each of its
parameters. If there is none for one, it is not run, and the failure is logged and passed on. Until
then the launcher keeps its arguments. The search fails at a decorator that is called and has no plain
name, also where that marks the launch function, and it does not know a mark without a call that is
named by its path. -/
theorem included_by_precedence (h : Includes package file subdir path spec s m) {own : Entries}
    (hown : s.launchArgs = .map own) (hdistinct : own.Distinct)
    (hnamed : (named.map Prod.fst).Nodup) (pass : Bool)
    (runBody : List Script.Step → Launch (List Answer)) :
    let values := includedValues (if pass then own else []) named spec
    let including := includeFile runBody package file subdir pass named
    (spec.obscured = false → spec.marking = .name ∨ spec.marking = .call → Launchable spec l m →
      ∃ line t, (info l.logger line).run m = .ok () t ∧ Written m t ∧ t.launchArgs = .map own ∧
        (∀ vs, values = .ok vs → including.run s = (catchFault (runFunction runBody path spec ⟨vs⟩)
          (reportInclude l.logger package file)).run t) ∧
        ∀ e, values = .error e →
          including.run s = (reportInclude l.logger package file e.fault).run t) ∧
    (spec.obscured = true ∨ spec.marking = .callViaModule →
      including.run s = .error (.silent .noAttribute) m) ∧
    (spec.obscured = false → spec.marking = .viaModule →
      ∃ args, (∀ k, getText? args k = (named.lookup k).or (getText? (if pass then own else []) k)) ∧
        including.run s = (includeForeign path args).run m) := by
  have hsame := (yields_run_ok (keeps_find (R := Light) package file subdir true s) h.found).args
  rw [← hsame] at hown
  obtain ⟨args, hargs, hrun⟩ := h.exists_args hown hdistinct hnamed pass runBody
  simp only [Content.launchFunction?, h.readable, h.synchronous] at hrun
  refine ⟨fun hplain hmarked hcall => ?_, fun hfails => ?_, fun hplain hmarked => ⟨args, hargs, ?_⟩⟩
  · obtain ⟨line, t, hinfo, hwritten, hfunction⟩ := hcall.exists_run package file path args runBody
    have ht := hwritten.light.args.trans hown
    obtain ⟨hok, herror⟩ := hcall.includedArgs_eq hargs
    have hincluding : (includeFile runBody package file subdir pass named).run s =
        (includeFunction runBody package file path args spec).run m := by
      rcases hmarked with hmarked | hmarked
      all_goals
        rw [hplain, hmarked] at hrun
        exact hrun
    rw [hfunction] at hincluding
    refine ⟨line, t, hinfo, hwritten, ht, fun vs hvs => ?_, fun e he => ?_⟩
    · rw [hok vs hvs] at hincluding
      exact hincluding
    · rw [herror e he] at hincluding
      exact hincluding
  · rcases hfails with hobscured | hmarked
    · rw [hobscured] at hrun
      exact hrun
    · rw [hmarked] at hrun
      cases hobscured : spec.obscured <;> rw [hobscured] at hrun <;> exact hrun
  · rw [hplain, hmarked] at hrun
    exact hrun

def spawnArm (marking : Marking) : LaunchSpec where
  params := [⟨"name", none, none⟩, ⟨"speed", none, none⟩]
  kwonly := [⟨"load", none, some (.int 3)⟩]
  marking := marking

def armLaunch (marking : Marking) : Session where
  world := { files := { entries := [("/arm", .file (.launch (spawnArm marking)) false)] } }
  launcher := some default
  launchArgs := .map [(.str "name", .str "left"), (.str "speed", .int 1)]

theorem included_by_precedence_arm :
    let including := includeFile (fun _ => pure []) .null (.str "/arm") .null true
      [("speed", .int 5)]
    (∃ t, including.run (armLaunch .name) =
      (catchFault (runFunction (fun _ => pure []) "/arm" (spawnArm .name)
        ⟨[("name", .str "left"), ("speed", .int 5), ("load", .int 3)]⟩)
        (reportInclude "" .null (.str "/arm"))).run t) ∧
    including.run (armLaunch .callViaModule) = .error (.silent .noAttribute)
      (armLaunch .callViaModule) := by
  have hincludes (marking : Marking) : Includes .null (.str "/arm") .null "/arm" (spawnArm marking)
      (armLaunch marking) (armLaunch marking) := by
    let f : Substitution.Fragment := ⟨"/arm".toList, by simp⟩
    have hfound := Substitution.run_find (f := f) rfl .null .null (armLaunch marking)
    rw [show f.text = "/arm" by decide +kernel,
      show " ".intercalate f.words = "/arm" by decide +kernel] at hfound
    exact ⟨hfound, by cases marking <;> rfl, by cases marking <;> decide +kernel, rfl⟩
  have precedence (marking : Marking) := included_by_precedence (l := default) (hincludes marking) rfl
    (by simp [Distinct, Value.alike_str])
    (show (List.map Prod.fst [("speed", Value.int 5)]).Nodup by simp) true fun _ => pure []
  have hlaunchable : Launchable (spawnArm .name) default (armLaunch .name) :=
    ⟨by decide +kernel, rfl, ⟨rfl, rfl⟩, rfl, ⟨_, rfl⟩, by simp [armLaunch]⟩
  obtain ⟨-, t, -, -, -, hcalled, -⟩ := (precedence .name).1 rfl (.inl rfl) hlaunchable
  refine ⟨⟨t, hcalled _ ?_⟩, (precedence .callViaModule).2.1 (.inr rfl)⟩
  simp [includedValues, LaunchSpec.signature, spawnArm, LaunchParam.toParam, Param.filled,
    includedValue, getText?_cons, Value.alike_str, lookup_cons, pure, Except.pure,
    bind, Except.bind]

/-- A launch function is not run if it is marked by a call that is named by its path. -/
theorem include_marked_by_path_fails :
    let including := includeFile (fun _ => pure []) .null (.str "/arm") .null true
      [("speed", .int 5)]
    (spawnArm .callViaModule).isMarked = true ∧
      including.returns (armLaunch .callViaModule) = false ∧
      (including.after (armLaunch .callViaModule)).events = [] ∧
      including.returns (armLaunch .name) = true := by
  decide +kernel

end Launch

end Launchpad
