import Launchpad.Proofs.Command.Line
import Launchpad.Proofs.Supervision.Scene

/-!
The command line that a node is started with says again what the node holds: its namespace and its
name, its parameters with their values as texts, its remappings and its own arguments.
-/

namespace Launchpad

open List

open Assignment

lemma Value.alike_str (a b : String) : (Value.str a).alike (.str b) = (a == b) := by
  rw [alike, same, bothNaN, Bool.or_false]
  all_goals simp

namespace Entries

/-- No key of the entries would be found in the place of an earlier one. -/
def Distinct (es : Entries) : Prop :=
  es.Pairwise fun e f => Value.alike e.1 f.1 = false

variable {es : Entries}

lemma insert_of_new {k : Value} (h : ∀ e ∈ es, Value.alike e.1 k = false) (v : Value) :
    es.insert k v = es ++ [(k, v)] := by
  induction es with
  | nil => rfl
  | cons e es ih =>
    obtain ⟨he, hes⟩ := forall_mem_cons.1 h
    rw [insert, he, ih hes]
    rfl

lemma insert_cases (es : Entries) (k v : Value) :
    (es.insert k v).keys = es.keys ∨
      es.insert k v = es ++ [(k, v)] ∧ ∀ e ∈ es, Value.alike e.1 k = false := by
  induction es with
  | nil => exact .inr ⟨rfl, fun _ he => absurd he (by simp)⟩
  | cons e es ih =>
    rw [insert]
    split
    · exact .inl rfl
    · next hnot =>
      rcases ih with hkeys | ⟨hnew, hall⟩
      · exact .inl (congrArg (e.1 :: ·) hkeys)
      · refine .inr ⟨by rw [hnew]; rfl, forall_mem_cons.2 ⟨?_, hall⟩⟩
        simpa using hnot

lemma distinct_iff_keys (es : Entries) :
    es.Distinct ↔ es.keys.Pairwise fun a b => Value.alike a b = false := by
  rw [keys, pairwise_map]
  rfl

lemma Distinct.insert (h : es.Distinct) (k v : Value) : (es.insert k v).Distinct := by
  rcases insert_cases es k v with hkeys | ⟨hnew, hall⟩
  · rw [distinct_iff_keys, hkeys, ← distinct_iff_keys]
    exact h
  · rw [hnew]
    exact pairwise_append.2 ⟨h, pairwise_singleton _ _, fun e he f hf => by
      rw [mem_singleton.1 hf]
      exact hall e he⟩

lemma Distinct.update (h : es.Distinct) (fs : Entries) : (es.update fs).Distinct := by
  induction fs generalizing es with
  | nil => exact h
  | cons f fs ih => exact ih (h.insert f.1 f.2)

lemma update_append (es fs gs : Entries) : es.update (fs ++ gs) = (es.update fs).update gs :=
  foldl_append

lemma update_of_distinct {fs : Entries} (h : (es ++ fs).Distinct) : es.update fs = es ++ fs := by
  induction fs generalizing es with
  | nil => exact (append_nil es).symm
  | cons f fs ih =>
    have hnew : ∀ e ∈ es, Value.alike e.1 f.1 = false := fun e he =>
      (pairwise_append.1 h).2.2 e he f mem_cons_self
    have hstep : es.update (f :: fs) = (es.insert f.1 f.2).update fs := rfl
    rw [hstep, insert_of_new hnew, ih (by simpa using h), append_assoc]
    rfl

end Entries

lemma distinct_texts (ps : TextPairs) : (texts ps).Distinct ↔ (ps.map Prod.fst).Nodup := by
  rw [Entries.Distinct, texts, pairwise_map, List.Nodup, pairwise_map]
  simp [Value.alike_str]

lemma update_texts {ps qs : TextPairs} (h : ((ps ++ qs).map Prod.fst).Nodup) :
    Entries.update (texts ps) (texts qs) = texts (ps ++ qs) := by
  have happend : texts (ps ++ qs) = texts ps ++ texts qs := map_append
  rw [← distinct_texts, happend] at h
  rw [happend, Entries.update_of_distinct h]

lemma update_nil_texts {ps : TextPairs} (h : (ps.map Prod.fst).Nodup) :
    Entries.update [] (texts ps) = texts ps :=
  Entries.update_of_distinct ((distinct_texts ps).2 h)

namespace Launch

variable {v : Value} {flat : Entries} {ps rs : TextPairs} {n : Node} {pid : Int}
    {argv : List String}

/-! ## Flat parameters -/

def keyBelow (path k : Value) : Value :=
  if path.truthy then .str (path.display Value.plainRef ++ "." ++ k.display Value.plainRef) else k

mutual

def flatLeaves (path : Value) : Value → Entries
  | .map es => flatLeavesAll path es
  | v => [(path, v)]

def flatLeavesAll (path : Value) : Entries → Entries
  | [] => []
  | (k, v) :: es => flatLeaves (keyBelow path k) v ++ flatLeavesAll path es

end

def listsMap : Value → Bool
  | .list vs => hasMap vs
  | _ => false

def flattened (leaves acc : Entries) : Try Entries :=
  if leaves.any fun e => listsMap e.2 then
    .error (.told .invalidValue "ROS2 does not support lists of dicts :(")
  else .ok (acc.update leaves)

lemma flatten_eq (path v : Value) (acc : Entries) :
    flatten path v acc = flattened (flatLeaves path v) acc := by
  refine flatten.induct
    (fun path v acc => flatten path v acc = flattened (flatLeaves path v) acc)
    (fun path es acc => flattenAll path es acc = flattened (flatLeavesAll path es) acc)
    ?_ ?_ ?_ ?_ ?_ ?_ path v acc
  · intro path es acc ih
    rw [flatten, flatLeaves, ih]
  · intro path vs acc hmap
    rw [flatten, if_pos hmap, flatLeaves]
    · simp [flattened, listsMap, hmap]
    · simp
  · intro path vs acc hmap
    rw [flatten, if_neg hmap, flatLeaves]
    · simp [flattened, listsMap, hmap, Entries.update]
    · simp
  · intro path v acc hmap hlist
    rw [flatten, flatLeaves, flattened]
    · simp [listsMap, Entries.update]
    all_goals assumption
  · intro path acc
    rfl
  · intro path k v es acc key ihv ihes
    rw [flattenAll, flatLeavesAll, keyBelow]
    rw [ihv, flattened, flattened, any_append]
    cases (flatLeaves _ v).any fun e => listsMap e.2 with
    | true => rfl
    | false =>
      rw [Entries.update_append]
      exact ihes _

lemma distinct_flatten {path : Value} {acc es : Entries} (hacc : acc.Distinct)
    (h : flatten path v acc = .ok es) : es.Distinct := by
  rw [flatten_eq, flattened] at h
  split at h <;> cases h
  exact hacc.update _

lemma renderPercent_level {w : String} (h : Format.renderPercent "Level %s" v = .ok w) :
    ∃ rest, w = "Level " ++ rest := by
  obtain ⟨⟨t, a⟩, hchars, hrest⟩ := bind_eq_ok.1 h
  obtain ⟨⟨r, b⟩, hr, ht⟩ := bind_eq_ok.1 hchars
  obtain ⟨rfl, rfl⟩ := Prod.mk.inj (Except.ok.inj ht)
  dsimp only at hrest
  split at hrest
  · cases hrest
  · cases hrest
    exact ⟨r, rfl⟩

lemma label_notMem_knownMarks {n : Int} (h : Log.labelOf (.int n) = .ok v) :
    ∃ w, v = .str w ∧ w ∉ knownMarks := by
  unfold Log.labelOf at h
  rw [if_neg (by simp [Value.isKey])] at h
  split at h
  · next e name hfind =>
    have hall : ∀ e ∈ Log.levelNames, e.2 ∉ knownMarks := by decide
    exact ⟨name, (Except.ok.inj h).symm, hall _ (mem_of_find?_eq_some hfind)⟩
  · dsimp only at h
    cases hw : Format.renderPercent "Level %s" (.int n) with
    | error e =>
      rw [hw] at h
      cases h
    | ok w =>
      rw [hw] at h
      obtain ⟨rest, rfl⟩ := renderPercent_level hw
      refine ⟨_, (Except.ok.inj h).symm, fun hmem => ?_⟩
      have hdash : ∀ m ∈ knownMarks, m.toList.head? = some '-' := by decide
      have hhead := hdash _ hmem
      rw [String.toList_append] at hhead
      cases hhead

def word (v : Value) : String :=
  v.display Value.plainRef

lemma word_str (s : String) : word (.str s) = s := by
  rw [word, Value.display]

def assignTo (assignee : Assignee) (ps : TextPairs) : List Assignment :=
  ps.map fun q => ⟨assignee, q.1, q.2⟩

/-- Parameters are written with these names and texts. -/
def ParamTexts (flat : Entries) (ps : TextPairs) : Prop :=
  List.Forall₂ (fun e q => word e.1 = q.1 ∧ e.2.assignment = .ok q.2) flat ps

lemma words_paramArgs (h : ParamTexts flat ps) {params : List Value}
    (hparams : paramArgs flat = .ok params) :
    params.map word = (assignTo .param ps).flatMap words := by
  obtain ⟨parts, hparts, hflatten⟩ := bind_eq_ok.1 hparams
  cases hflatten
  clear hparams
  induction h generalizing parts with
  | nil =>
    cases hparts
    rfl
  | @cons e q flat ps he _ ih =>
    obtain ⟨hname, htext⟩ := he
    rw [mapM_cons] at hparts
    obtain ⟨first, hfirst, hrest⟩ := bind_eq_ok.1 hparts
    obtain ⟨later, hlater, hcons⟩ := bind_eq_ok.1 hrest
    cases hcons
    obtain ⟨text, htext', hwords⟩ := bind_eq_ok.1 hfirst
    obtain rfl := Except.ok.inj (htext'.symm.trans htext)
    cases hwords
    have hoperand : e.1.display Value.plainRef ++ ":=" ++ q.2 = q.1 ++ assignSign ++ q.2 :=
      congrArg (· ++ assignSign ++ q.2) hname
    simp only [flatten_cons, cons_append, nil_append, map_cons, word_str,
      hoperand, ih later hlater]
    rfl

lemma remapArgs_cons (q : String × String) (rs : TextPairs) :
    remapArgs (texts (q :: rs)) = [.str "-r", .str (q.1 ++ ":=" ++ q.2)] ++ remapArgs (texts rs) := by
  rfl

lemma words_remapArgs (rs : TextPairs) :
    (remapArgs (texts rs)).map word = (assignTo .remap rs).flatMap words := by
  induction rs with
  | nil => rfl
  | cons q rs ih =>
    rw [remapArgs_cons, map_append, ih]
    rfl

/-- A node that remaps names of the graph, none of them a name that stands for its own. -/
structure Remaps (n : Node) (rs : TextPairs) : Prop where
  held : n.remaps = .map (texts rs)
  nodup : (rs.map Prod.fst).Nodup
  apart : ∀ r ∈ rs, r.1 ∉ Assignment.ownNames

def assignments (n : Node) (ps rs : TextPairs) : List Assignment :=
  assignTo .param ps ++ assignTo .remap (rs ++ [("__ns", n.ns), ("__node", n.name)])

lemma words_graphArgs {args : List Value} (h : GraphArgs n args)
    (hflat : flatten (.str "") n.params [] = .ok flat) (hps : ParamTexts flat ps)
    (hrs : Remaps n rs) : args.map word = (assignments n ps rs).flatMap words := by
  obtain ⟨flat', params, remaps, hflat', hparams, hremaps, rfl⟩ := h.made
  obtain rfl : flat' = flat := Except.ok.inj (hflat'.symm.trans hflat)
  obtain rfl : remaps = texts rs := by
    rw [hrs.held] at hremaps
    have hupdate : Entries.update [] (texts rs) = remaps := Except.ok.inj hremaps
    rw [← hupdate, update_nil_texts hrs.nodup]
  have hnames : ((rs ++ [("__ns", n.ns), ("__node", n.name)]).map Prod.fst).Nodup := by
    rw [map_append, nodup_append]
    refine ⟨hrs.nodup, by simp, fun a ha b hb hab => ?_⟩
    obtain ⟨r, hr, rfl⟩ := mem_map.1 ha
    exact hrs.apart r hr (hab ▸ by revert b; simp [ownNames])
  have hown : Entries.insert (Entries.insert (texts rs) (.str "__ns") (.str n.ns)) (.str "__node")
      (.str n.name) = texts (rs ++ [("__ns", n.ns), ("__node", n.name)]) := update_texts hnames
  rw [hown, map_append,
    words_paramArgs hps hparams, words_remapArgs, assignments, flatMap_append]

lemma record_params (ps : TextPairs) (acc : NodeArgs) : (assignTo .param ps).foldl record acc =
      { acc with params := acc.params.update (texts ps) } := by
  induction ps generalizing acc with
  | nil => rfl
  | cons q ps ih => exact ih _

lemma record_remaps (hapart : ∀ r ∈ rs, r.1 ∉ ownNames)
    (hplain : ∀ r ∈ rs, ':' ∉ r.1.toList) (acc : NodeArgs) :
    (assignTo .remap rs).foldl record acc =
      { acc with remaps := acc.remaps.update (texts rs) } := by
  induction rs generalizing acc with
  | nil => rfl
  | cons r rs ih =>
    obtain ⟨hnames, hapart⟩ := forall_mem_cons.1 hapart
    obtain ⟨hcolon, hplain⟩ := forall_mem_cons.1 hplain
    simp only [ownNames, mem_cons, not_mem_nil, or_false, not_or] at hnames
    obtain ⟨hns, hname, hnode⟩ := hnames
    have hbare : bareSource r.1 = r.1 := by
      have hnone : Text.cut? r.1 ":" = none := by
        refine (Text.cut?_eq_none_iff (Text.toList_ne_nil (by decide))).2 fun hinside => ?_
        exact hcolon (hinside.subset mem_cons_self)
      rw [bareSource, hnone]
      rfl
    have hrecord : record acc ⟨.remap, r.1, r.2⟩ =
        { acc with remaps := acc.remaps.insert (.str r.1) (.str r.2) } := by
      simp only [record, hns, hname, hnode, hbare, or_self, if_false]
    have hcons : (assignTo .remap (r :: rs)).foldl record acc =
        (assignTo .remap rs).foldl record
          (record acc ⟨.remap, r.1, r.2⟩) := rfl
    rw [hcons, hrecord, ih hapart hplain]
    rfl

/-- What a command line is to say of a node: the parameters with their values as texts. -/
def NodeArgs.of (n : Node) (p : ProcessNode) (ps rs : TextPairs) : NodeArgs :=
  { ns := n.ns, name := n.name, params := Entries.update [] (texts ps), remaps := texts rs,
    others := (ownOf p).map fun v => .str (word v) }

lemma record_assignments (hrs : Remaps n rs) (hplain : ∀ r ∈ rs, ':' ∉ r.1.toList)
    (p : ProcessNode) (ps : TextPairs) :
    (assignments n ps rs).foldl record
      { others := (ownOf p).map fun v => .str (word v) } = NodeArgs.of n p ps rs := by
  have hlast (acc : NodeArgs) :
      (assignTo .remap [("__ns", n.ns), ("__node", n.name)]).foldl record acc =
        { acc with ns := n.ns, name := n.name } := rfl
  have happend : assignTo .remap (rs ++ [("__ns", n.ns), ("__node", n.name)]) =
      assignTo .remap rs ++ assignTo .remap [("__ns", n.ns), ("__node", n.name)] :=
    map_append
  rw [assignments, happend, foldl_append, foldl_append, record_params,
    record_remaps hrs.apart hplain, hlast, update_nil_texts hrs.nodup]
  rfl

/-- A process with this command line can be asked for it. -/
def Tells (s : Session) (pid : Int) (argv : List String) : Prop :=
  ∃ e, s.world.processes.find? (fun p => p.pid == pid) = some e ∧ e.cmdline = argv ∧
    e.zombie = false ∧ e.denied = false

lemma Tells.exists_entry (h : Tells s pid argv) :
    ∃ e, (getEntry pid).run s = .ok e s ∧ (commandOf e).run s = .ok argv s := by
  obtain ⟨e, he, rfl, hzombie, hdenied⟩ := h
  have hget : (get : Launch Session).run s = .ok s s := rfl
  refine ⟨e, ?_, ?_⟩
  · rw [getEntry, run_bind_of_ok hget, he]
    rfl
  · simp only [commandOf, hzombie, hdenied]
    rfl

lemma parseProcessArgs_eq (h : Tells s pid argv) :
    (parseProcessArgs pid .null).run s = (readNodeArgs .null false {} (argv.drop 1)).run s := by
  obtain ⟨e, hentry, hcommand⟩ := h.exists_entry
  rw [parseProcessArgs, run_bind_of_ok hentry, run_bind_of_ok hcommand]

/-- A process tells its command line, and what cannot be read in it is warned of. -/
structure Observes (s : Session) (pid : Int) (argv : List String) : Prop where
  tells : Tells s pid argv
  launched : s.launcher.isSome
  ordinary : s.log.Ordinary

/-- A level that was given as a number, or none. -/
def LevelGiven (v : Value) : Prop :=
  v = .null ∨ ∃ n : Int, Log.labelOf (.int n) = .ok v

lemma words_levelArgs (h : LevelGiven v) : ∀ w ∈ (levelArgs v).map word, w ∉ knownMarks := by
  rcases h with rfl | ⟨n, hn⟩
  · simp [levelArgs]
  · obtain ⟨w, rfl, hw⟩ := label_notMem_knownMarks hn
    have hmark : "--log-level" ∉ knownMarks := by decide
    simp only [levelArgs, map_cons, map_nil, word_str, forall_mem_cons]
    exact ⟨hmark, hw, fun _ hnil => absurd hnil (by simp)⟩

lemma words_of_commands {p : ProcessNode} {cmd : List Value} (h : Commands n p cmd)
    (hraw : p.raw.truthy = false) (hflat : flatten (.str "") n.params [] = .ok flat)
    (hps : ParamTexts flat ps) (hrs : Remaps n rs) :
    (cmd.map word).drop 1 = (ownOf p).map word ++ nodeMark ::
      ((assignments n ps rs).flatMap words ++ (levelArgs p.logLevel).map word) := by
  obtain ⟨exe, args, hargs, rfl⟩ := h.made hraw
  simp only [map_append, map_cons, word_str, cons_append, drop_succ_cons, drop_zero, append_assoc, nil_append,
    words_graphArgs hargs hflat hps hrs]

lemma nodup_of_paramTexts (hflat : flatten (.str "") v [] = .ok flat) (hps : ParamTexts flat ps)
    (htexts : ∀ e ∈ flat, e.1.text?.isSome) : (ps.map Prod.fst).Nodup := by
  have hdistinct : flat.Distinct := distinct_flatten .nil hflat
  have hnames : ps.map Prod.fst = flat.map fun e => word e.1 := by
    clear hflat hdistinct htexts
    induction hps with
    | nil => rfl
    | cons he _ ih => rw [map_cons, map_cons, ih, he.1]
  rw [hnames, List.Nodup, pairwise_map]
  refine hdistinct.imp_of_mem fun {e f} he hf halike heq => ?_
  have htext {e : Value × Value} (he : e ∈ flat) : e.1 = .str (word e.1) := by
    have hsome := htexts e he
    cases hk : e.1 with
    | str k => rw [word_str]
    | _ => simp [hk, Value.text?] at hsome
  rw [htext he, htext hf, Value.alike_str, heq] at halike
  simp at halike

variable {own level : List String} {as : List Assignment} {u : Session}

section

variable (h : Observes u pid argv)
    (hargv : argv.drop 1 = own ++ nodeMark :: (as.flatMap words ++ level))
    (hown : nodeMark ∉ own)
include h hargv hown

lemma run_read_clean (hlevel : ∀ w ∈ level, w ∉ knownMarks) (hclean : ∀ a ∈ as, a.Clean) :
    ∃ v, (parseProcessArgs pid .null).run u =
      .ok (as.foldl record { others := own.map .str }) v := by
  have hskip : Succeeds (readNodeArgs .null true
      (as.foldl record { others := own.map .str }) level) u
      (fun args _ => args = as.foldl record { others := own.map .str }) := yields_readNodeArgs_skip hlevel h.launched h.ordinary
  obtain ⟨args, v, hrun, rfl⟩ := hskip.exists_ok
  refine ⟨v, ?_⟩
  rw [parseProcessArgs_eq h.tells, hargv, readNodeArgs_plain _ hown, readNodeArgs_nodeMark,
    readNodeArgs_of_clean hclean]
  exact hrun

lemma run_read_twice (htwice : ∃ a ∈ as, Text.OccursTwice assignSign a.operand) :
    (parseProcessArgs pid .null).run u = .error (.silent .invalidValue) u := by
  rw [parseProcessArgs_eq h.tells, hargv, readNodeArgs_plain _ hown, readNodeArgs_nodeMark,
    readNodeArgs_of_twice htwice]
  rfl

end

/-- What a node holds is read back from the command line that its child was started with. If an
assignment holds a second sign, the command line cannot be read. -/
theorem command_read_back {n : Node} {p : ProcessNode} {flat : Entries}
    {ps rs : List (String × String)} (hrun : (startProcess i).run s = .ok () t)
    (hborn : s.world.children.size < t.world.children.size) (hn : t.nodes[i]? = some n)
    (hp : n.kind = .process p) (hraw : p.raw.truthy = false) (hlevel : LevelGiven p.logLevel)
    (hown : nodeMark ∉ (ownOf p).map word) (hrs : Remaps n rs)
    (hplain : ∀ r ∈ rs, ':' ∉ r.1.toList)
    (hflat : flatten (.str "") n.params [] = .ok flat) (hps : ParamTexts flat ps) :
    ((∀ e ∈ flat, e.1.text?.isSome) → (NodeArgs.of n p ps rs).params = texts ps) ∧
    ∃ argv shell env, t.events.getLast? = some (.spawned (argv.map .str) shell env) ∧
      ∀ (u : Session) (pid : Int), Observes u pid argv →
        ((∀ a ∈ assignments n ps rs, a.Clean) →
          ∃ v, (parseProcessArgs pid .null).run u = .ok (NodeArgs.of n p ps rs) v) ∧
        ((∃ a ∈ assignments n ps rs, Text.OccursTwice assignSign a.operand) →
          ∃ v, (parseProcessArgs pid .null).run u = .error (.silent .invalidValue) v) := by
  refine ⟨fun htexts => update_nil_texts (nodup_of_paramTexts hflat hps htexts), ?_⟩
  rcases yields_run_ok (startedWith_startProcess i s) hrun with haged | hstarted
  · have hsize : t.world.children.size = s.world.children.size := haged.children.size
    omega
  obtain ⟨n', p', cmd, shell, env, hn', hcmd, hevent⟩ := hstarted
  obtain rfl : n' = n := Option.mem_unique hn' hn
  obtain rfl : p' = p := NodeKind.process.inj (hcmd.kind.symm.trans hp)
  refine ⟨cmd.map word, shell, env, hevent, fun u pid hu => ?_⟩
  have hwords := words_of_commands hcmd hraw hflat hps hrs
  constructor
  · intro hclean
    obtain ⟨v, hread⟩ := run_read_clean hu hwords hown (words_levelArgs hlevel) hclean
    refine ⟨v, hread.trans ?_⟩
    rw [← record_assignments hrs hplain, map_map]
    rfl
  · intro htwice
    exact ⟨u, run_read_twice hu hwords hown htwice⟩

end Launch

namespace Value

mutual

def coincide : Value → Value → Bool
  | .int a, .int b => a == b
  | .str a, .str b => a == b
  | .map as, .map bs => coincideAll as bs
  | _, _ => false

def coincideAll : List (Value × Value) → List (Value × Value) → Bool
  | [], [] => true
  | (k, v) :: as, (k', v') :: bs => coincide k k' && (coincide v v' && coincideAll as bs)
  | _, _ => false

end

lemma eq_of_coincide (a b : Value) : coincide a b → a = b := by
  refine coincide.induct (fun a b => coincide a b → a = b)
    (fun as bs => coincideAll as bs → as = bs) ?_ ?_ ?_ ?_ ?_ ?_ ?_ a b
  case refine_6 =>
    intro k v as k' v' bs hkey hvalue hrest h
    simp only [coincideAll, Bool.and_eq_true] at h
    rw [hkey h.1, hvalue h.2.1, hrest h.2.2]
  all_goals simp +contextual [coincide, coincideAll]

end Value

namespace Launch

def talker : ProcessNode :=
  { ProcessNode.plain 0 with
    cmdArgs := .list [.str "--fast"], logLevel := .str "INFO", raw := .bool false }

def talkerParams : Value :=
  .map [(.str "a", .map [(.str "b", .int 1)]), (.str "c", .str "x")]

def talkerSession : Session :=
  let n : Node :=
    { id := 0, package := .null, executable := .str "/bin/talker", name := "n", ns := "/ns",
      remaps := .map (texts [("from", "to")]), params := talkerParams, logger := "/n",
      kind := .process talker }
  { Session.single 0 {} with nodes := #[n] }

lemma node_talkerSession : ∃ n c, ((startProcess 0).after talkerSession).nodes[0]? = some n ∧
    n.kind = .process { talker with child := c } ∧ n.name = "n" ∧ n.ns = "/ns" ∧
    n.remaps = .map (texts [("from", "to")]) ∧ n.params = talkerParams := by
  have hreturns : (startProcess 0).returns talkerSession := by decide +kernel
  have hstart := yields_run_ok (yields_startProcess 0 talkerSession) (run_eq_of_returns hreturns)
  have hborn : ((startProcess 0).after talkerSession).world.children.size = 1 := by decide +kernel
  have hheld : (((startProcess 0).after talkerSession).nodes[0]?.any fun n => n.name == "n" &&
      n.ns == "/ns" && n.remaps.coincide (.map (texts [("from", "to")])) &&
      n.params.coincide talkerParams) = true := by decide +kernel
  cases hstart with
  | fails haged =>
    have hsize := haged.children.size
    rw [hborn] at hsize
    cases hsize
  | spawns m hm hbirth =>
    have hbefore : talkerSession.core.process? 0 = some talker := by
      simp [Session.Core.process?, Session.core, talkerSession, NodeKind.process?]
    have hself := hbirth.process?_self ((hm.process?_eq 0).trans hbefore)
    obtain ⟨n, hn, hkind⟩ := node_of_process hself
    rw [hn] at hheld
    simp only [Option.any_some, Bool.and_eq_true, beq_iff_eq] at hheld
    obtain ⟨⟨⟨hname, hns⟩, hremaps⟩, hparams⟩ := hheld
    exact ⟨n, _, hn, hkind, hname, hns, Value.eq_of_coincide _ _ hremaps,
      Value.eq_of_coincide _ _ hparams⟩

def observing (pid : Int) (argv : List String) : Session :=
  { Session.single 0 {} with world := { processes := [{ pid, cmdline := argv }] } }

lemma observes_observing (pid : Int) (argv : List String) :
    Observes (observing pid argv) pid argv := by
  refine ⟨⟨{ pid, cmdline := argv }, ?_, rfl, rfl, rfl⟩, rfl, ⟨_, rfl⟩, fun f hf => ?_⟩
  · simp [observing]
  · simp [observing, Session.single] at hf

theorem command_read_back_talker :
    (startProcess 0).returns talkerSession ∧
    ∃ argv shell env, ((startProcess 0).after talkerSession).events.getLast? =
        some (.spawned (argv.map .str) shell env) ∧
      ∃ v, (parseProcessArgs 7 .null).run (observing 7 argv) =
        .ok { ns := "/ns", name := "n", params := texts [("a.b", "1"), ("c", "\"x\"")],
              remaps := texts [("from", "to")], others := [.str "--fast"] } v := by
  have hreturns : (startProcess 0).returns talkerSession := by decide +kernel
  have hborn : talkerSession.world.children.size <
      ((startProcess 0).after talkerSession).world.children.size := by decide +kernel
  obtain ⟨n, c, hn, hkind, hname, hns, hremaps, hparams⟩ := node_talkerSession
  have hrs : Remaps n [("from", "to")] := ⟨hremaps, by decide, by decide⟩
  have hflat : flatten (.str "") n.params [] =
      .ok [(.str "a.b", .int 1), (.str "c", .str "x")] := by
    rw [hparams]
    with_unfolding_all rfl
  have hps : ParamTexts [(.str "a.b", .int 1), (.str "c", .str "x")]
      [("a.b", "1"), ("c", "\"x\"")] := by
    refine .cons ⟨rfl, rfl⟩ (.cons ⟨rfl, rfl⟩ .nil)
  have hlevel : LevelGiven talker.logLevel := .inr ⟨20, by with_unfolding_all rfl⟩
  have hown : nodeMark ∉ (ownOf talker).map word := by decide
  obtain ⟨-, argv, shell, env, hevent, hread⟩ := command_read_back (run_eq_of_returns hreturns)
    hborn hn hkind rfl hlevel hown hrs (by decide) hflat hps
  refine ⟨hreturns, argv, shell, env, hevent, ?_⟩
  have hclean : ∀ a ∈ assignments n [("a.b", "1"), ("c", "\"x\"")] [("from", "to")], a.Clean := by
    rw [assignments, hns, hname]
    decide
  obtain ⟨v, hv⟩ := (hread _ 7 (observes_observing 7 argv)).1 hclean
  refine ⟨v, hv.trans ?_⟩
  rw [NodeArgs.of, hns, hname, update_nil_texts (by decide)]
  rfl

end Launch

end Launchpad
