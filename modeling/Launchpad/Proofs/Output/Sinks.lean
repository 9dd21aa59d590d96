import Launchpad.Proofs.Output.Routing
import Launchpad.Proofs.Groups.Making

/-!
Where the messages of nodes go. Every node that is made writes to the screen and to the common log
file, whatever its output says, and to a file of its own if the output asks for it. That file is
named like the node from the outermost directory on, so the log directory has no part in it.
-/

namespace Launchpad

open List Option

open Log Registry

variable {changed : List String} {logger : String} {s t : Session}

/-- Handlers were made and given to some loggers, and nodes were added. -/
structure Tuned (changed : List String) (s t : Session) : Prop where
  cwd : t.world.cwd = s.world.cwd
  nodes : ∀ (i : Nat) (n : Node), s.nodes[i]? = some n → t.nodes[i]? = some n
  log : Log.Registry.Tunes s.world.cwd changed s.log t.log

instance : IsPreorder Session (Tuned changed) where
  refl s := ⟨rfl, fun _ _ => id, refl_of (Log.Registry.Tunes s.world.cwd changed) s.log⟩
  trans s t u h h' := by
    refine ⟨h'.cwd.trans h.cwd, fun i n => h'.nodes i n ∘ h.nodes i n, ?_⟩
    have hlog := h'.log
    rw [h.cwd] at hlog
    exact trans_of (Log.Registry.Tunes s.world.cwd changed) h.log hlog

lemma Tuned.mono {changed' : List String} (h : Tuned changed s t) (hsub : changed ⊆ changed') :
    Tuned changed' s t :=
  ⟨h.cwd, h.nodes, h.log.mono hsub⟩

lemma Tuned.equipped (h : Tuned changed s t) (hs : s.log.Equipped s.world.cwd) :
    t.log.Equipped t.world.cwd := by
  rw [h.cwd]
  exact h.log.equipped hs

lemma Tuned.with_log (h : Tuned changed s t) {r : Registry}
    (hr : Tunes t.world.cwd changed t.log r) : Tuned changed s { t with log := r } := by
  have hset : Tuned changed t { t with log := r } := ⟨rfl, fun _ _ => id, hr⟩
  exact trans_of (Tuned changed) h hset

def Filed (s t : Session) : Prop :=
  ∃ files, t = { s with world := { s.world with files } }

instance : IsPreorder Session Filed where
  refl _ := ⟨_, rfl⟩
  trans := by
    rintro _ _ _ ⟨_, rfl⟩ ⟨_, rfl⟩
    exact ⟨_, rfl⟩

lemma Filed.log_eq (h : Filed s t) : t.log = s.log := by
  obtain ⟨_, rfl⟩ := h
  rfl

lemma Filed.tuned (h : Filed s t) : Tuned changed s t := by
  obtain ⟨_, rfl⟩ := h
  exact ⟨rfl, fun _ _ => id, refl_of _ s.log⟩

namespace Launch

variable {E : Post Stop} {sinks : List Value} {r : Registry} {p : Pretty}
    {level : Int} {msg : String}

lemma Keeps.tuned {α : Type} {x : Launch α} (h : Keeps (Tuned []) x) : Keeps (Tuned changed) x :=
  h.mono fun _ _ h => h.mono (nil_subset _)

/-! ## Files -/

lemma filed_files (f : World → FileTree Content) :
    Keeps Filed (modifyWorld fun w => { w with files := f w }) :=
  keeps_modify fun _ => ⟨_, rfl⟩

lemma filed_renewLatest (dir : String) (noLinks : Bool) :
    Keeps Filed (renewLatest dir noLinks) := by
  refine keeps_get.bind fun s => ?_
  dsimp only
  split
  iterate 2
    exact (filed_files _).bind fun _ => Keeps.when .throw fun _ =>
      (filed_files _).bind fun _ => .pure
  exact .pure

lemma filed_makeLogDir : Keeps Filed makeLogDir :=
  keeps_get.bind fun _ => (filed_files _).bind fun _ => .pure

lemma filed_openForAppend (path : String) : Keeps Filed (openForAppend path) := by
  refine Keeps.when keeps_silent fun _ => Keeps.when keeps_silent fun _ => ?_
  refine keeps_get.bind fun s => ?_
  dsimp only
  split
  · exact keeps_silent
  · exact .pure
  · exact Keeps.ite (filed_files _) keeps_silent

lemma yields_logDir (s : Session) :
    Yields logDir s
      (fun dir t => Tuned [] s t ∧ t.log.directory = some dir ∧
        t.log.fileHandlers = s.log.fileHandlers)
      (fun _ t => Tuned [] s t) := by
  unfold logDir logDirWith
  refine .of_bind (.of_bind (.get ?_))
  split
  · next dir hdir =>
    exact .pure (.pure ⟨refl_of (Tuned []) s, hdir, rfl⟩)
  · next hnone =>
    refine filed_makeLogDir.followed (refl_of Filed s) (fun dir m hm => ?_) fun _ _ h => h.tuned
    refine .of_bind (.modify ?_)
    have hset : Tuned [] s { m with log := { m.log with directory := some dir } } :=
      hm.tuned.with_log (tunes_directory (by rw [hm.log_eq, hnone]) dir)
    refine (Keeps.catchFault ?_ fun f => .pure).followed (refl_of Filed _) (fun warnings t ht => ?_)
      fun _ t ht => ?_
    · exact (filed_renewLatest dir false).bind fun _ => Keeps.ite .pure .pure
    · refine .pure (.pure ⟨trans_of (Tuned []) hset ht.tuned, ?_, ?_⟩)
      · rw [ht.log_eq]
      · rw [ht.log_eq, ← hm.log_eq]
    · exact trans_of (Tuned []) hset ht.tuned

/-! ## Handlers -/

lemma yields_screenHandler (s : Session) :
    Yields screenHandler s
      (fun h t => Tuned [] s t ∧ t.log.screenHandler = some h) E := by
  simp only [screenHandler, yields_bind, yields_get, yields_set, yields_pure]
  exact ⟨⟨rfl, fun _ _ => id, tunes_screen s.log⟩, screenHandler_screen s.log⟩

lemma yields_logFileHandler (name : String) (s : Session) :
    Yields (logFileHandler name) s
      (fun h t => Tuned [] s t ∧ t.log.fileHandlers.lookup name = some h)
      (fun _ t => Tuned [] s t) := by
  unfold logFileHandler logFilePath
  refine .of_bind (.get ?_)
  split
  · next h hh => exact .pure ⟨refl_of (Tuned []) s, hh⟩
  · next hnone =>
    refine .of_bind ((yields_logDir s).bind ?_)
    rintro dir m ⟨hm, hdir, hfiles⟩
    refine .pure (.of_bind (.get ?_))
    refine Yields.ite (.of_bind (.throw hm)) ?_
    refine .of_bind (.get ?_)
    refine (filed_openForAppend _).followed (refl_of Filed m) (fun _ u hu => ?_) fun _ u hu => ?_
    · simp only [yields_bind, yields_get, yields_set, yields_pure]
      have hnone' : u.log.fileHandlers.lookup name = none := by
        rw [hu.log_eq, hfiles, hnone]
      have hopen : Tuned [] m u := hu.tuned
      refine ⟨(trans_of (Tuned []) hm hopen).with_log ?_, ?_⟩
      · rw [← hopen.cwd]
        exact tunes_addFileHandler hnone' (hu.log_eq ▸ hdir) _
      · exact (lookup_addFileHandler hnone' _ _ _).trans (if_pos rfl)
    · exact trans_of (Tuned []) hm hu.tuned

lemma tuned_screenHandler : Keeps (Tuned changed) screenHandler :=
  Keeps.tuned fun s => (yields_screenHandler s).map fun _ _ h => h.1

lemma tuned_logFileHandler (name : String) : Keeps (Tuned changed) (logFileHandler name) :=
  Keeps.tuned fun s => (yields_logFileHandler name s).map fun _ _ h => h.1

lemma tuned_attach (logger : String) (h : Nat) : Keeps (Tuned [logger]) (attach logger h) :=
  keeps_modify fun s => (refl_of (Tuned [logger]) s).with_log (tunes_attach _ _ h)

variable {f : Registry → Option Nat} {own : Bool} {colors : Value × Value}
  {lines : Lines}

lemma tuned_attachWith (logger : String) (h : Nat)
    (hf : ∀ cwd (r : Registry), r.Equipped cwd → IsPretty r.formatters (f r)) :
    Keeps (Tuned [logger]) (do attachWith logger h (f (← get).log)) := by
  intro s
  refine .of_bind (.get (.of_bind (.get (Yields.ite ?_ ?_))))
  · exact .pure (refl_of (Tuned [logger]) s)
  · refine .set ⟨rfl, fun _ _ => id, ?_⟩
    exact trans_of (Tunes s.world.cwd [logger])
      (tunes_setFormatterFor s.log logger h (hf s.world.cwd s.log))
      (tunes_attach _ logger h)

lemma tuned_addSink (logger : String) (sink : Value) :
    Keeps (Tuned [logger]) (addSink logger sink) := by
  have hscreen (h : Nat) := tuned_attachWith logger h fun _ _ hr => hr.screenFormatter
  have hfile (h : Nat) := tuned_attachWith logger h fun _ _ hr => hr.fileFormatter
  unfold addSink
  split
  · exact tuned_screenHandler.bind hscreen
  · exact (tuned_logFileHandler _).bind hfile
  · exact (tuned_logFileHandler _).bind hfile
  · exact .pure

lemma tuned_useLogger (name : String) : Keeps (Tuned [name]) (useLogger name) :=
  tuned_screenHandler.bind fun _ => (tuned_attach _ _).bind fun _ =>
    (tuned_logFileHandler _).bind fun _ => tuned_attach _ _

lemma tuned_configureLogger (logger : String) (config : Value) :
    Keeps (Tuned [logger]) (configureLogger logger config) :=
  keeps_lift.bind fun sinks => Keeps.forM sinks fun sink _ => tuned_addSink logger sink

/-! ## The handlers of a node -/

def asksFor (name : String) (sinks : List Value) : Bool :=
  sinks.any fun sink => sink.text? == some name

lemma yields_useLogger (hs : s.log.Equipped s.world.cwd) (hfresh : s.log.handlersOf logger = []) :
    IfOk (useLogger logger) s (fun _ t => t.log.Routed logger false) := by
  refine (yields_screenHandler s).bind ?_
  rintro i m ⟨hm, hi⟩
  have hnone : m.log.handlersOf logger = [] := (hm.log.others logger not_mem_nil).trans hfresh
  have hgiven : (m.log.attach logger i).handlersOf logger = [i] := by
    rw [handlersOf_attach, if_pos rfl, hnone, if_neg not_mem_nil, nil_append]
  have hm' : Tuned [logger] s { m with log := m.log.attach logger i } :=
    (hm.mono (nil_subset _)).with_log (tunes_attach _ _ i)
  refine .of_bind (.modify (.of_bind ?_))
  refine (yields_logFileHandler _ _).map ?_
  rintro j u ⟨hu, hj⟩
  have hkept : u.log.handlersOf logger = [i] :=
    (hu.log.others logger not_mem_nil).trans hgiven
  exact (yields_modify _).2
    ((hu.equipped (hm'.equipped hs)).routed_attach (hu.log.screen i hi) hj hkept)

lemma yields_attachWith_mem {h : Nat} (hmem : h ∈ s.log.handlersOf logger) :
    Yields (do attachWith logger h (f (← get).log)) s (fun _ t => t = s) E := by
  refine .of_bind (.get (.of_bind (.get ?_)))
  rw [if_pos (by simpa using hmem)]
  exact .pure rfl

section

variable (h : s.log.Routed logger own) (hs : s.log.Equipped s.world.cwd)
    (hname : logger ++ ".log" ≠ "launch.log")
include h hs hname

lemma yields_addSink (sink : Value) :
    IfOk (addSink logger sink) s
      (fun _ t => t.log.Routed logger (own || sink.text? == some "own_log")) := by
  unfold addSink
  split
  · refine (yields_screenHandler s).bind ?_
    rintro i m ⟨hm, hi⟩
    have hrouted := h.tunes hm.log not_mem_nil
    have hmem : i ∈ m.log.handlersOf logger := by
      obtain ⟨i', j, hs, hi', -, hhandlers, -⟩ := hrouted
      rw [hhandlers, mem_unique hi hi']
      exact mem_cons_self
    refine (yields_attachWith_mem hmem).map fun _ t ht => ?_
    rw [ht]
    simpa [Value.text?] using hrouted
  · refine (yields_logFileHandler _ s).andThen ?_
    rintro j m ⟨hm, hj⟩
    have hrouted := h.tunes hm.log not_mem_nil
    have hmem : j ∈ m.log.handlersOf logger := by
      obtain ⟨i, j', hs, -, hj', hhandlers, -⟩ := hrouted
      rw [hhandlers, mem_unique hj hj']
      exact mem_cons_of_mem _ mem_cons_self
    refine (yields_attachWith_mem hmem).map fun _ t ht => ?_
    rw [ht]
    simpa [Value.text?] using hrouted
  · refine (yields_logFileHandler _ s).andThen ?_
    rintro k m ⟨hm, hk⟩
    have hrouted := h.tunes hm.log not_mem_nil
    have hasked : (own || (Value.str "own_log").text? == some "own_log") = true := by simp [Value.text?]
    rw [hasked]
    cases own with
    | true =>
      have hmem : k ∈ m.log.handlersOf logger := by
        obtain ⟨i, j, hs, -, -, hhandlers, k', hk', rfl⟩ := hrouted
        rw [hhandlers, mem_unique hk hk']
        simp
      refine (yields_attachWith_mem hmem).map fun _ t ht => ?_
      rw [ht]
      exact hrouted
    | false =>
      obtain ⟨hnew, hown⟩ := hrouted.attach_own (hm.equipped hs) hname hk m.log.fileFormatter
      refine .of_bind (.get (.of_bind (.get ?_)))
      rw [if_neg (by simpa using hnew)]
      exact .set hown
  · next hscreen hlog hother =>
    have hunasked : (sink.text? == some "own_log") = false := by
      refine beq_false_of_ne fun heq => ?_
      cases sink with
      | str name => exact hother (congrArg Value.str (some.inj heq))
      | _ => cases heq
    rw [hunasked, Bool.or_false]
    exact .pure h

lemma yields_addSinks (sinks : List Value) :
    IfOk (sinks.forM (addSink logger)) s
      (fun _ t => t.log.Routed logger (own || asksFor "own_log" sinks)) := by
  induction sinks generalizing s own with
  | nil =>
    rw [asksFor, any_nil, Bool.or_false]
    exact .pure h
  | cons sink sinks ih =>
    have hstep := (yields_addSink h hs hname sink).and (tuned_addSink logger sink s)
    refine hstep.andThen ?_
    rintro _ t ⟨hrouted, ht⟩
    have hrest := ih hrouted (ht.equipped hs)
    rwa [Bool.or_assoc] at hrest

end

/-! ## Making nodes -/

lemma fullname_eq (n : Node) : ∃ rest, n.fullname = "/" ++ rest := by
  unfold Node.fullname
  dsimp only
  split
  · exact ⟨n.name, rfl⟩
  · exact ⟨Text.trimBy (· == '/') n.ns ++ "/" ++ n.name, by simp only [String.append_assoc]⟩

lemma fullname_congr {n m : Node} (hns : n.ns = m.ns) (hname : n.name = m.name) :
    n.fullname = m.fullname := by
  unfold Node.fullname
  rw [hns, hname]

lemma ownLog_ne (n : Node) : n.fullname ++ ".log" ≠ "launch.log" := by
  obtain ⟨rest, hrest⟩ := fullname_eq n
  intro h
  have hhead := congrArg String.toList h
  simp [hrest] at hhead

lemma tuned_takeUp (n : Node) (output : Value) : Keeps (Tuned [n.fullname]) (takeUp n output) := by
  unfold takeUp
  dsimp only
  refine (tuned_useLogger n.fullname).bind fun _ => ?_
  refine (tuned_configureLogger n.fullname output).bind fun _ => ?_
  intro s
  simp only [yields_bind, yields_get, yields_set, yields_pure]
  refine ⟨rfl, fun i m hm => ?_, refl_of _ s.log⟩
  have hlt : i < s.nodes.size := (Array.getElem?_eq_some_iff.1 hm).1
  rw [Array.getElem?_push_lt hlt]
  exact (Array.getElem?_eq_getElem hlt).symm.trans hm

lemma yields_takeUp_routed (hs : s.log.Equipped s.world.cwd) {n : Node}
    (hfresh : s.log.handlersOf n.fullname = []) {output : Value}
    (hsinks : sinksOf output = .ok sinks) :
    IfOk (takeUp n output) s
      (fun i t => (∃ m, t.nodes[i]? = some m ∧ m.fullname = n.fullname ∧ m.logger = n.fullname) ∧
        t.log.Routed n.fullname (asksFor "own_log" sinks)) := by
  unfold takeUp
  dsimp only
  have huse := (yields_useLogger hs hfresh).and (tuned_useLogger n.fullname s)
  refine huse.andThen ?_
  rintro _ m ⟨hrouted, hm⟩
  unfold configureLogger
  rw [hsinks]
  simp only [lift, yields_bind, yields_pure, yields_get, yields_set]
  refine (yields_addSinks hrouted (hm.equipped hs) (ownLog_ne n) sinks).map ?_
  rintro _ t ht
  rw [Bool.false_or] at ht
  have hname : Node.fullname { n with logger := n.fullname } = n.fullname := fullname_congr rfl rfl
  have hlogger : Node.logger { n with logger := n.fullname } = n.fullname := by dsimp only
  exact ⟨⟨_, Array.getElem?_push_size, hname, hlogger⟩, ht⟩

/-- A node that is asked for. -/
structure Order where
  package : Value
  executable : Value
  name : String
  ns : String
  remaps : Value
  params : Value
  output : Value
  kind : NodeKind

namespace Order

def node (o : Order) (id : Nat) : Node :=
  { id, package := o.package, executable := o.executable, name := o.name, ns := spelled o.ns,
    remaps := orElse o.remaps (.map []), params := orElse o.params (.map []), logger := "",
    kind := o.kind }

def fullname (o : Order) : String :=
  (o.node 0).fullname

def make (o : Order) : Launch Nat :=
  newNode o.package o.executable (.str o.name) (.str o.ns) o.remaps o.params o.output o.kind

end Order

lemma yields_make (o : Order) {Q : Post Nat} (hrefused : ∀ e, E e s)
    (htaken : Yields (takeUp (o.node s.nodeCounter) o.output)
      { s with nodeCounter := s.nodeCounter + 1 } Q E) : Yields o.make s Q E := by
  unfold Order.make newNode
  rw [namespaceText_str]
  refine Yields.ite (.of_bind (.throw (hrefused _))) ?_
  refine .of_bind (.pure ?_)
  refine Yields.ite (.of_bind (.throw (hrefused _))) ?_
  simp only [yields_bind, yields_get, yields_modify]
  exact htaken

lemma tuned_make (o : Order) : Keeps (Tuned [o.fullname]) o.make := by
  intro s
  refine yields_make o (fun _ => refl_of _ s) ?_
  have hcounted : Tuned [o.fullname] s { s with nodeCounter := s.nodeCounter + 1 } :=
    ⟨rfl, fun _ _ => id, refl_of _ s.log⟩
  exact (tuned_takeUp (o.node s.nodeCounter) o.output).then hcounted

lemma yields_make_routed {o : Order} (hs : s.log.Equipped s.world.cwd)
    (hfresh : s.log.handlersOf o.fullname = []) (hsinks : sinksOf o.output = .ok sinks) :
    IfOk o.make s
      (fun i t => (∃ n, t.nodes[i]? = some n ∧ n.fullname = o.fullname ∧ n.logger = o.fullname) ∧
        t.log.Routed o.fullname (asksFor "own_log" sinks)) := by
  refine yields_make o (fun _ => trivial) ?_
  have hname : (o.node s.nodeCounter).fullname = o.fullname := fullname_congr rfl rfl
  rw [← hname] at hfresh ⊢
  exact yields_takeUp_routed (s := { s with nodeCounter := s.nodeCounter + 1 }) hs hfresh hsinks

/-- The session after nodes were asked for one after the other; some may be refused. -/
def madeAll (orders : List Order) (s : Session) : Session :=
  orders.foldl (fun s o => o.make.after s) s

lemma tuned_madeAll (orders : List Order) (s : Session) :
    Tuned (orders.map Order.fullname) s (madeAll orders s) := by
  induction orders generalizing s with
  | nil => exact refl_of _ s
  | cons o orders ih =>
    have hfirst : Tuned [o.fullname] s (o.make.after s) := (tuned_make o).after s
    refine trans_of (Tuned _) (hfirst.mono ?_) ((ih _).mono ?_)
    · exact cons_subset_cons _ (nil_subset _)
    · exact subset_cons_self _ _

/-! ## The start of a launch -/

lemma equipped_of_pretty (hhandlers : r.handlers = #[]) (hscreen : r.screenHandler = none)
    (hfiles : r.fileHandlers = []) {q : Pretty} (hp : p.Fit) (hq : q.Fit) (cwd : String) :
    Equipped cwd { r with
      formatters := (r.formatters.push (.pretty p)).push (.pretty q)
      screenFormatter := some r.formatters.size
      fileFormatter := some (r.formatters.push (.pretty p)).size } := by
  refine ⟨⟨_, _, rfl, .pretty p, ?_, hp, rfl⟩, ⟨_, _, rfl, .pretty q, ?_, hq, rfl⟩, fun k hk => ?_,
    fun i hi => ?_, fun name i hi => ?_, fun name name' i hi => ?_⟩
  · rw [Array.getElem?_push_lt (by simp), Array.getElem_push_eq]
  · exact Array.getElem?_push_size
  · simp [hhandlers] at hk
  · simp [hscreen] at hi
  · simp [hfiles] at hi
  · simp [hfiles] at hi

lemma beautifyScreen_eq
    (h : Pretty.make { format := .str defaultScreenFormat, sourceColors := colors.1,
                       levelColors := colors.2 } = .ok p) (r : Registry) :
    r.beautifyScreen .null colors = .ok { r with
      formatters := r.formatters.push (.pretty p), screenFormatter := some r.formatters.size } := by
  have hchosen : chosenFormat .null defaultScreenFormat = .str defaultScreenFormat := rfl
  simp only [beautifyScreen, hchosen, h]
  rfl

lemma beautifyFiles_eq (h : Pretty.make { format := .str defaultFileFormat } = .ok p)
    (r : Registry) :
    r.beautifyFiles .null = .ok { r with
      formatters := r.formatters.push (.pretty p), fileFormatter := some r.formatters.size } := by
  have hchosen : chosenFormat .null defaultFileFormat = .str defaultFileFormat := rfl
  simp only [beautifyFiles, hchosen, h]
  rfl

lemma yields_initLogging {mode : Value} (hmode : modeColors mode = .ok colors)
    (hhandlers : s.log.handlers = #[]) (hscreen : s.log.screenHandler = none)
    (hfiles : s.log.fileHandlers = []) :
    Succeeds (initLogging .null .null mode) s (fun _ t => t.log.Equipped t.world.cwd) := by
  obtain ⟨hsources, hlevels⟩ := shines_modeColors hmode
  obtain ⟨p, hmake, hp⟩ := exists_make (.inl rfl) hsources hlevels
  have hdefault : modeColors (.str "default") = .ok (defaultSourceColor, .null) :=
    rfl
  obtain ⟨hsources, hlevels⟩ := shines_modeColors hdefault
  obtain ⟨q, hmake', hq⟩ := exists_make (.inr rfl) hsources hlevels
  unfold initLogging changeLog
  rw [hmode]
  simp only [lift, processVariables, List.forM, setEnvVar, modifyWorld, yields_bind, yields_pure,
    yields_modify, yields_get, beautifyScreen_eq hmake, beautifyFiles_eq hmake']
  exact equipped_of_pretty (r := { s.log with rootLevel := .int Log.info }) hhandlers hscreen hfiles hp
    hq _

/-! ## Messages of nodes -/

/-- A message writes one line to each target, and each line ends with what is shown of it. -/
def Delivers (t : Session) (logger : String) (level : Int) (msg shown : String)
    (targets : List Log.Target) : Prop :=
  ∃ (lines : Log.Lines) (r : Log.Registry),
    (log logger level msg).run t = (lines.forM writeTo).run { t with log := r } ∧
    lines.map Prod.fst = targets ∧ ∀ line ∈ lines, ∃ head, line.2 = head ++ shown ++ "\n"

section

variable
    (h : t.log.log logger (.int level) (.str msg) (timeOf t.world.clock) [] = (r, lines, .ok ()))
include h

lemma run_log : (log logger level msg).run t = (lines.forM writeTo).run { t with log := r } := by
  have hget : (get : Launch Session).run t = .ok t t := rfl
  unfold log
  rw [run_bind_of_ok hget, h]
  have hset : (set { t with log := r } : Launch PUnit).run t = .ok ⟨⟩ { t with log := r } := rfl
  rw [run_bind_of_ok hset]
  exact congrArg (EStateM.run · _) (bind_pure _)

lemma yields_log_lines {Q : Post Unit}
    (hlines : Yields (lines.forM writeTo) { t with log := r } Q E) :
    Yields (log logger level msg) t Q E := by
  unfold Yields at hlines ⊢
  rw [run_log h]
  exact hlines

end

lemma delivers_of_reaches {targets : List Target} (ht : t.log.Equipped t.world.cwd)
    (h : t.log.Reaches logger targets) {level' : Int} {shown : String}
    (hlevel : level ∈ knownLevels)
    (hleast : reaches (.int level) t.log.leastLevel = .ok true)
    (hshown : shownOf level msg = some (level', shown))
    (hunread : Header.read? shown = none) : Delivers t logger level msg shown targets := by
  obtain ⟨places, rfl, hserves⟩ := h.exists_places ht
  obtain ⟨lines, r, hlog, hlines, -⟩ := exists_log hserves hlevel hleast hshown
    hunread (timeOf t.world.clock)
  exact ⟨lines, r, run_log hlog, targets_of_shows hlines, exists_head_of_shows hlines⟩

lemma madeAll_append (before later : List Order) (o : Order) (s : Session) :
    madeAll (before ++ o :: later) s = madeAll later (o.make.after (madeAll before s)) := by
  rw [madeAll, foldl_append, foldl_cons]
  rfl

lemma routed_madeAll {before later : List Order} {o : Order} (hs : s.log.Equipped s.world.cwd)
    (hnames : ((before ++ o :: later).map Order.fullname).Nodup)
    (hfresh : s.log.handlersOf o.fullname = []) (hsinks : sinksOf o.output = .ok sinks) {i : Nat}
    {u : Session} (hmade : o.make.run (madeAll before s) = .ok i u) :
    (∃ n, (madeAll (before ++ o :: later) s).nodes[i]? = some n ∧ n.fullname = o.fullname ∧
      n.logger = o.fullname) ∧
    (madeAll (before ++ o :: later) s).log.Routed o.fullname (asksFor "own_log" sinks) := by
  rw [map_append, map_cons, nodup_append, nodup_cons] at hnames
  obtain ⟨-, ⟨hlater, -⟩, hbefore⟩ := hnames
  have hfirst := tuned_madeAll before s
  have hunused : (madeAll before s).log.handlersOf o.fullname = [] := by
    refine (hfirst.log.others _ fun hmem => ?_).trans hfresh
    exact hbefore _ hmem _ mem_cons_self rfl
  have hmaking := yields_make_routed (hfirst.equipped hs) hunused hsinks
  obtain ⟨⟨n, hnode, hnamed⟩, hrouted⟩ := yields_run_ok hmaking hmade
  have hafter : o.make.after (madeAll before s) = u := by rw [Launch.after, hmade]
  have hrest := tuned_madeAll later u
  rw [madeAll_append, hafter]
  exact ⟨⟨n, hrest.nodes i n hnode, hnamed⟩, hrouted.tunes hrest.log hlater⟩

/-- Where the messages of a node go; the log directory matters for the common file only. -/
def Order.targets (o : Order) (cwd dir : String) (sinks : List Value) : List Log.Target :=
  .screen :: .file (Path.absolute cwd (Path.join dir "launch.log")) ::
    if asksFor "own_log" sinks then [.file (Path.absolute cwd (o.fullname ++ ".log"))] else []

lemma join_fullname (dir : String) (n : Node) :
    Path.join dir (n.fullname ++ ".log") = n.fullname ++ ".log" := by
  obtain ⟨rest, hrest⟩ := fullname_eq n
  have habs : Path.isAbsolute (n.fullname ++ ".log") = true := by
    rw [hrest]
    simp [Path.isAbsolute, Text.startsWith]
  rw [Path.join, if_pos habs]

lemma Order.targets_eq (o : Order) (cwd dir : String) (sinks : List Value) :
    o.targets cwd dir sinks =
      nodeTargets cwd dir o.fullname (asksFor "own_log" sinks) := by
  rw [Order.targets, nodeTargets, Order.fullname, join_fullname]

/-- However many nodes are made, the messages of each one go to the screen and to the common log
file, and to a file of its own exactly if its output asks for one. -/
theorem messages_reach_targets (before later : List Order) {o : Order} {sinks : List Value}
    {i : Nat} {u : Session} (hs : s.log.Equipped s.world.cwd)
    (hnames : ((before ++ o :: later).map Order.fullname).Nodup)
    (hfresh : s.log.handlersOf o.fullname = []) (hsinks : sinksOf o.output = .ok sinks)
    (hmade : o.make.run (madeAll before s) = .ok i u)
    (ht : t = madeAll (before ++ o :: later) s) :
    ∃ n dir, t.nodes[i]? = some n ∧ n.fullname = o.fullname ∧ n.logger = o.fullname ∧
      t.log.directory = some dir ∧
      (∀ level msg now args, List.Sublist ((t.log.log n.logger level msg now args).2.1.map Prod.fst)
        (o.targets s.world.cwd dir sinks)) ∧
      ∀ level msg level' shown, level ∈ Log.knownLevels →
        Log.reaches (.int level) t.log.leastLevel = .ok true →
        Log.shownOf level msg = some (level', shown) → Log.Header.read? shown = none →
        Delivers t n.logger level msg shown (o.targets s.world.cwd dir sinks) := by
  obtain ⟨⟨n, hnode, hname, hlogger⟩, hrouted⟩ := routed_madeAll hs hnames hfresh hsinks hmade
  have htuned := tuned_madeAll (before ++ o :: later) s
  rw [← ht] at hnode hrouted htuned
  have hequipped := htuned.equipped hs
  obtain ⟨dir, hdir, hreaches⟩ := hrouted.exists_reaches hequipped
  rw [← o.targets_eq, htuned.cwd] at hreaches
  rw [← hlogger] at hreaches
  refine ⟨n, dir, hnode, hname, hlogger, hdir, hreaches.sublist, ?_⟩
  intro level msg level' shown hlevel hleast hshown hunread
  exact delivers_of_reaches hequipped hreaches hlevel hleast hshown hunread

def openedLaunch : Session :=
  (initLogging .null .null (.str "default")).after
    { log := { directory := some "/logs" },
      world := { files := { entries := [("/logs", .dir)] } } }

lemma equipped_openedLaunch : openedLaunch.log.Equipped openedLaunch.world.cwd := by
  have hmode : modeColors (.str "default") = .ok (defaultSourceColor, .null) := rfl
  obtain ⟨_, t, hrun, ht⟩ := (yields_initLogging hmode rfl rfl rfl).exists_ok
    (s := { log := { directory := some "/logs" },
            world := { files := { entries := [("/logs", .dir)] } } })
  rw [openedLaunch, Launch.after, hrun]
  exact ht

def plainOrder (name : String) (output : Value) : Order :=
  { package := .null, executable := .null, name, ns := "/", remaps := .null, params := .null,
    output, kind := .bare }

def threeOrders : List Order :=
  [plainOrder "listener" (.str "screen"), plainOrder "talker" (.list [.str "none", .str "own_log"]),
    plainOrder "relay" (.str "log")]

lemma reaches_of_toOption {a b : Value} (h : (reaches a b).toOption = some true) :
    reaches a b = .ok true := by
  cases hr : reaches a b with
  | ok c =>
    rw [hr] at h
    rw [some.inj h]
  | error e =>
    rw [hr] at h
    cases h

theorem messages_reach_targets_talker : ∃ n,
    (madeAll threeOrders openedLaunch).nodes[1]? = some n ∧ n.fullname = "/talker" ∧
    Delivers (madeAll threeOrders openedLaunch) n.logger Log.info "hello" "hello"
      [.screen, .file "/logs/launch.log", .file "/talker.log"] := by
  have hmade : (plainOrder "talker" (.list [.str "none", .str "own_log"])).make.result?
      (madeAll [plainOrder "listener" (.str "screen")] openedLaunch) = some 1 := by decide +kernel
  have hlogs : (madeAll threeOrders openedLaunch).log.directory = some "/logs" := by decide +kernel
  have hleast : (reaches (.int Log.info)
      (madeAll threeOrders openedLaunch).log.leastLevel).toOption = some true := by decide +kernel
  obtain ⟨n, dir, hnode, hname, -, hdir, -, hshown⟩ :=
    messages_reach_targets (t := madeAll threeOrders openedLaunch)
      [plainOrder "listener" (.str "screen")] [plainOrder "relay" (.str "log")]
      equipped_openedLaunch (by decide +kernel) (by decide +kernel) rfl (run_of_result? hmade) rfl
  have hfull : (plainOrder "talker" (.list [.str "none", .str "own_log"])).fullname = "/talker" := by
    decide +kernel
  have htargets : (plainOrder "talker" (.list [.str "none", .str "own_log"])).targets
      openedLaunch.world.cwd "/logs" [.str "none", .str "own_log"] =
      [.screen, .file "/logs/launch.log", .file "/talker.log"] := by decide +kernel
  rw [mem_unique hdir hlogs, htargets] at hshown
  refine ⟨n, hnode, hname.trans hfull, ?_⟩
  have hplain : Header.read? "hello" = none := by decide +kernel
  exact hshown Log.info "hello" Log.info "hello" (by decide) (reaches_of_toOption hleast)
    (shownOf_of_unread Log.info hplain) hplain

/-- A node that asks for no output at all is heard on the screen. -/
theorem silenced_node_on_screen : asksFor "screen" [.str "none"] = false ∧
    sinksOf (.str "none") = .ok [.str "none"] ∧
    Delivers (madeAll [plainOrder "quiet" (.str "none")] openedLaunch) "/quiet" Log.info "hello"
      "hello" [.screen, .file "/logs/launch.log"] := by
  refine ⟨by decide, rfl, ?_⟩
  have hmade : (plainOrder "quiet" (.str "none")).make.result? (madeAll [] openedLaunch) =
      some 0 := by decide +kernel
  have hlogs : (madeAll [plainOrder "quiet" (.str "none")] openedLaunch).log.directory =
      some "/logs" := by decide +kernel
  have hleast : (reaches (.int Log.info)
      (madeAll [plainOrder "quiet" (.str "none")] openedLaunch).log.leastLevel).toOption =
      some true := by decide +kernel
  have hplain : Header.read? "hello" = none := by decide +kernel
  have hnames : ((([] : List Order) ++ plainOrder "quiet" (.str "none") :: []).map
      Order.fullname).Nodup := nodup_singleton _
  obtain ⟨-, hrouted⟩ := routed_madeAll equipped_openedLaunch hnames (by decide +kernel) rfl
    (run_of_result? hmade)
  have hequipped := (tuned_madeAll [plainOrder "quiet" (.str "none")] openedLaunch).equipped
    equipped_openedLaunch
  obtain ⟨dir, hdir, hreaches⟩ := hrouted.exists_reaches hequipped
  have htargets : nodeTargets
      (madeAll [plainOrder "quiet" (.str "none")] openedLaunch).world.cwd "/logs" "/quiet" false =
      [.screen, .file "/logs/launch.log"] := by decide +kernel
  have hfull : (plainOrder "quiet" (.str "none")).fullname = "/quiet" := by decide +kernel
  rw [nil_append] at hdir hreaches
  rw [mem_unique hdir hlogs, hfull] at hreaches
  rw [← htargets]
  exact delivers_of_reaches hequipped hreaches (by decide) (reaches_of_toOption hleast)
    (shownOf_of_unread Log.info hplain) hplain

end Launch

end Launchpad
