import Launchpad.Proofs.Command.Restart

/-!
Foreign nodes that are taken over. The node that takes the place of a foreign one is started with
the same assignments as the foreign one would be, and with the usual level for its messages.
-/

namespace Launchpad

open List

lemma Text.length_asciiChar_pos (c : Char) : 0 < (asciiChar c).toList.length := by
  have hite {p : Prop} [Decidable p] {a b : String} (ha : 0 < a.toList.length)
      (hb : 0 < b.toList.length) : 0 < (if p then a else b).toList.length := by
    split
    · exact ha
    · exact hb
  have happend {a : String} (ha : 0 < a.toList.length) (b : String) :
      0 < (a ++ b).toList.length := by
    rw [String.toList_append, length_append]
    omega
  have hescape : 0 < "\\u".toList.length := by decide
  unfold asciiChar
  refine hite (by decide) (hite (by decide) (hite (by decide) (hite (by decide)
    (hite (by decide) (hite (by decide) (hite (by decide) (hite ?_ (hite ?_ ?_))))))))
  · rw [String.toList_ofList]
    exact Nat.one_pos
  · exact happend hescape _
  · exact happend (happend (happend hescape _) _) _

lemma Text.asciiQuote_ne (s : String) : asciiQuote s ≠ s := by
  have hchars (cs : Chars) :
      cs.length ≤ (String.join (cs.map asciiChar)).toList.length := by
    induction cs with
    | nil => exact Nat.zero_le _
    | cons c cs ih =>
      have hc := length_asciiChar_pos c
      rw [map_cons, String.join_cons, String.toList_append, length_append,
        length_cons]
      omega
  intro h
  have hlength := congrArg (fun s => s.toList.length) h
  have hle := hchars s.toList
  simp only [asciiQuote, String.toList_append, length_append] at hlength
  have hquote : "\"".toList.length = 1 := rfl
  omega

instance (i : Nat) : Launch.Neutral (Holds i) where
  neutral _ _ h _ := .of_nodes h

def SameNodes (s t : Session) : Prop :=
  t.nodes = s.nodes

instance : Launch.Neutral SameNodes where
  refl _ := rfl
  trans _ _ _ h h' := Eq.trans h' h
  neutral _ _ h _ := h

namespace Launch

open Assignment

variable {f : ForeignNode} {p : ProcessNode}

variable {s t : Session} {i : Nat} {pid : Int} {exe : String} {plain : List String}
  {as : List Assignment} {n : Node}

/-! ## The first start of a node -/

section

variable (hn : s.nodes[i]? = some n) (hkind : n.kind = .process p) (hfresh : p.child = none)
include hn hkind hfresh

lemma yields_isRunning_fresh {E : Post Stop} :
    Yields (isRunning i) s (fun v t => v = .bool false ∧ t = s) E := by
  simp only [isRunning, runningWith, getNode, yields_bind, yields_get, hn, yields_pure, hkind,
    hfresh, and_self]

lemma yields_startProcess_fresh :
    IfOk (startProcess i) s
      (fun _ t => t.core.childOf i = none ∨ StartedWith i t ∧ Holds i s t) := by
  have hnone : s.core.childOf i = none := by
    simp [Session.Core.childOf, Session.Core.process?, Session.core, hn, hkind,
      NodeKind.process?, hfresh]
  refine (startProcess_of (fun _ h => .inl ((h.childOf_eq i).trans hnone))
    fun logger v u hrun _ _ _ => ?_).imp (fun _ _ h => h) fun _ _ _ => trivial
  obtain ⟨-, rfl⟩ := yields_run_ok
    (yields_isRunning_fresh (E := fun _ _ => True) hn hkind hfresh) hrun
  exact ((startedWith_launchChild i logger u).and (holds_launchChild i logger u)).imp
    (fun _ _ => .inr) fun _ _ h => h.1

end

/-! ## Taking a node over -/

def takeoverLine (exe : String) (plain : List String) (as : List Assignment) : List String :=
  exe :: plain ++ nodeMark :: ((restated as).flatMap Assignment.words ++ ["--log-level", "INFO"])

structure Replaces (n : Node) (plain : List String) (as : List Assignment) : Prop where
  repeats : Repeats n as
  kind : ∃ p, n.kind = .process p ∧ p.child = none ∧ p.cmdArgs = .list (plain.map .str) ∧
    p.logLevel = .str "INFO" ∧ p.raw = .bool false

lemma Repeats.of_gift {m : Node} (h : Repeats n as) (hm : m.gift = n.gift) : Repeats m as := by
  refine ⟨?_, ?_, ?_, ?_⟩
  · exact (congrArg Node.name hm).trans h.name
  · exact (congrArg Node.ns hm).trans h.ns
  · exact (congrArg Node.params hm).trans h.params
  · exact (congrArg Node.remaps hm).trans h.remaps

lemma map_word_str (ts : List String) : (ts.map Value.str).map word = ts := by
  rw [map_map]
  exact (map_congr_left fun t _ => word_str t).trans (map_id ts)

lemma ownOf_texts (h : p.cmdArgs = .list (plain.map .str)) : ownOf p = plain.map .str := by
  rw [ownOf, h]
  cases plain <;> rfl

lemma event_of_started (hn : s.nodes[i]? = some n) (h : Replaces n plain as)
    (hstarted : StartedWith i t) (hholds : Holds i s t) :
    ∃ exe shell env, t.events.getLast? =
      some (.spawned ((takeoverLine exe plain as).map .str) shell env) := by
  obtain ⟨p, hkind, -, hargs, hlevel, hraw⟩ := h.kind
  obtain ⟨m, q, cmd, shell, env, hm, hcmd, hevent⟩ := hstarted
  obtain ⟨m', hm', hgift⟩ := hholds n hn (loaded_of_repeats h.repeats)
  obtain rfl : m' = m := Option.mem_unique hm' hm
  have hsame : ({ q with child := none, retries := 0 } : ProcessNode) =
      { p with child := none, retries := 0 } := by
    have hkinds : m'.kind.gift = n.kind.gift := congrArg Node.kind hgift
    rw [hcmd.kind, hkind] at hkinds
    exact NodeKind.process.inj hkinds
  have hargs' : q.cmdArgs = .list (plain.map .str) := (congrArg ProcessNode.cmdArgs hsame).trans hargs
  have hlevel' : q.logLevel = .str "INFO" := (congrArg ProcessNode.logLevel hsame).trans hlevel
  have hraw' : q.raw = .bool false := (congrArg ProcessNode.raw hsame).trans hraw
  obtain ⟨exe, args, hgraph, rfl⟩ := hcmd.made (by rw [hraw']; rfl)
  have hline : (exe :: ownOf q ++ [Value.str nodeMark] ++ args ++ levelArgs q.logLevel).map word =
      takeoverLine (word exe) plain as := by
    rw [args_of_repeats (h.repeats.of_gift hgift) hgraph, ownOf_texts hargs', hlevel', argsOf,
      levelArgs]
    · simp only [map_append, map_cons, map_nil, map_word_str, word_str]
      simp [takeoverLine]
    · simp
  exact ⟨word exe, shell, env, hevent.trans (by rw [← hline]; rfl)⟩

lemma bind_newNode (package executable name ns remaps params cmdArgs : Value) :
    ∃ b, Script.newNodeSignature.bind [] [("package", package), ("executable", executable),
      ("name", name), ("namespace", ns), ("remaps", remaps), ("params", params),
      ("cmd_args", cmdArgs)] true = .ok b ∧ b.get "package" = package ∧
      b.get "executable" = executable ∧ b.get "name" = name ∧ b.get "namespace" = ns ∧
      b.get "remaps" = remaps ∧ b.get "params" = params ∧ b.get "cmd_args" = cmdArgs ∧
      b.get "log_level" = .int 20 ∧ b.get "raw" = .bool false :=
  ⟨_, rfl, rfl, rfl, rfl, rfl, rfl, rfl, rfl, rfl, rfl⟩

lemma spelled_spelled (ns : String) : spelled (spelled ns) = spelled ns := by
  by_cases h : ns = ""
  · rw [h]
    rfl
  · rw [spelled_eq h, spelled_eq h]

lemma yields_newProcessNode_replaces (h : Repeats n as) {b : Bound}
    (hname : b.get "name" = .str n.name) (hns : b.get "namespace" = .str n.ns)
    (hremaps : b.get "remaps" = n.remaps) (hparams : b.get "params" = n.params)
    (hargs : b.get "cmd_args" = .list (plain.map .str)) (hlevel : b.get "log_level" = .int 20)
    (hraw : b.get "raw" = .bool false) (s : Session) :
    IfOk (newProcessNode b (b.get "namespace")) s
      (fun j t => ∃ m, t.nodes[j]? = some m ∧ Replaces m plain as) := by
  have hlabel : Log.labelOf (.int 20) = .ok (.str "INFO") := by with_unfolding_all rfl
  have hlist : orElse (.list (plain.map .str)) (.list []) = .list (plain.map .str) := by
    cases plain <;> rfl
  unfold newProcessNode
  dsimp only
  rw [hlevel, hname, hns, hremaps, hparams, hargs, hraw, hlist, h.params, h.remaps]
  dsimp only
  rw [hlabel]
  refine (yields_newNode_pushed _ _ _ _ _ _ _ _ s).map ?_
  rintro j t ⟨id, logger, hj⟩
  refine ⟨_, hj, ⟨h.name, ?_, orElse_map _, orElse_map _⟩, ⟨_, rfl, rfl, rfl, rfl, rfl⟩⟩
  exact (congrArg spelled h.ns).trans (spelled_spelled _)

lemma yields_modifyForeign (i : Nat) (f : ForeignNode → ForeignNode) (s : Session) :
    Succeeds (modifyForeign i f) s
      (fun _ t => t.events = s.events ∧ ∀ j, t.core.childOf j = s.core.childOf j) := by
  simp only [modifyForeign, modifyNode, yields_modify, true_and]
  intro j
  simp only [Session.Core.childOf, Session.Core.process?, Session.core, Array.getElem?_map,
    Array.getElem?_modify]
  by_cases hij : i = j
  · cases hj : s.nodes[j]? with
    | none => simp [hij]
    | some n => cases hkind : n.kind <;> simp [hij, hkind, NodeKind.process?]
  · simp [hij]

/-- What a takeover has led to: if the new node has a child, the last event tells of it. -/
def TakenOver (plain : List String) (as : List Assignment) (v : Value) (t : Session) : Prop :=
  ∀ j, v = .ref (.node j) → t.core.childOf j ≠ none → ∃ exe shell env,
    t.events.getLast? = some (.spawned ((takeoverLine exe plain as).map .str) shell env)

lemma yields_takeover (hn : s.nodes[i]? = some n) (h : Wraps n pid exe plain as)
    (killAfter : Value) :
    IfOk (takeover i killAfter []) s (TakenOver plain as) := by
  refine (keeps_endForeign i killAfter).along (refl_of (Holds i) s) fun _ v hv => ?_
  obtain ⟨m, hm, hgift⟩ := hv n hn (loaded_of_repeats h.repeats)
  obtain ⟨f, hkind, hargs⟩ : ∃ f, m.kind = .foreign f ∧ f.cmdArgs = .list (plain.map .str) := by
    have hkinds : m.kind.gift = n.kind.gift := congrArg Node.kind hgift
    rw [h.kind] at hkinds
    cases hkind : m.kind with
    | foreign f =>
      rw [hkind] at hkinds
      exact ⟨f, rfl, congrArg ForeignNode.cmdArgs (NodeKind.foreign.inj hkinds)⟩
    | _ => simp [hkind, NodeKind.gift] at hkinds
  have hrepeats := h.repeats.of_gift hgift
  refine (yields_getNode hm).exactly ?_
  refine keeps_info.along (refl_of Written v) fun _ w hw => ?_
  have hnode : w.nodes[i]? = some m := by rw [hw.nodes_eq, hm]
  refine (yields_nodeParams_loaded hnode (loaded_of_repeats hrepeats)).exactly ?_
  refine (yields_getForeign_of hnode hkind).exactly ?_
  rw [hargs]
  obtain ⟨b, hbind, -, -, hname, hns, hremaps, hparams, hargs, hlevel, hraw⟩ :=
    bind_newNode m.package m.executable (.str m.name) (.str m.ns) m.remaps m.params
      (.list (plain.map .str))
  simp only [append_nil, map_nil, any_nil, Bool.false_eq_true, if_false]
  rw [hbind]
  refine (yields_newProcessNode_replaces hrepeats hname hns hremaps hparams hargs hlevel hraw
    w).andThen ?_
  rintro j u ⟨k, hk, hreplaces⟩
  refine (keeps_findGroup _ _).along (refl_of SameNodes u) fun group u' hu => ?_
  split
  · next g =>
    have hadd : Keeps SameNodes (addNode g j) := keeps_modify fun _ => rfl
    refine hadd.along hu fun _ u' hu => ?_
    obtain ⟨p, hkind, hfresh, -⟩ := hreplaces.kind
    have hk' : u'.nodes[j]? = some k := by rw [hu, hk]
    refine (yields_startProcess_fresh hk' hkind hfresh).andThen ?_
    rintro _ v hv
    refine (yields_modifyForeign _ _ v).andThen ?_
    rintro _ w ⟨hevents, hchildren⟩
    refine .pure fun j' hj' hchild => ?_
    obtain rfl : j = j' := by
      cases hj'
      rfl
    rcases hv with hnone | ⟨hstarted, hholds⟩
    · exact absurd ((hchildren j).trans hnone) hchild
    · rw [hevents]
      exact event_of_started hk' hreplaces hstarted hholds
  · exact .of_bind (.throw trivial)

/-! ## What is the same -/

/-- Assignments to different parameters and of different names, once the names of nodes before
these are dropped. -/
structure Distinguished (as : List Assignment) : Prop where
  params : ((paramsOf as).map Prod.fst).Nodup
  remaps : ((bareRemapsOf as).map Prod.fst).Nodup
  apart : ∀ r ∈ bareRemapsOf as, r.1 ∉ ownNames

lemma restated_of_distinguished (h : Distinguished as) :
    restated as = assignTo .param (quoted (paramsOf as)) ++ (assignTo .remap (bareRemapsOf as) ++
      assignTo .remap [("__ns", spelled (nsFrom "" as)), ("__node", nameFrom "" as)]) := by
  have hnodup : ((bareRemapsOf as ++ [("__ns", spelled (nsFrom "" as)),
      ("__node", nameFrom "" as)]).map Prod.fst).Nodup := by
    rw [map_append, nodup_append]
    refine ⟨h.remaps, by simp, ?_⟩
    intro k hk k' hk' heq
    obtain ⟨r, hr, rfl⟩ := mem_map.1 hk
    refine h.apart r hr ?_
    rw [heq]
    simp only [map_cons, map_nil, mem_cons, not_mem_nil, or_false] at hk'
    rcases hk' with rfl | rfl <;> simp [ownNames]
  rw [restated, lastTexts_of_nodup h.params, lastTexts_of_nodup hnodup]
  simp [assignTo]

lemma paramsOf_assignTo (ps : TextPairs) : paramsOf (assignTo .param ps) = ps := by
  simp [paramsOf, assignTo, filterMap_map]

lemma remapsOf_assignTo {rs : TextPairs} (h : ∀ r ∈ rs, r.1 ∉ ownNames) :
    remapsOf (assignTo .remap rs) = rs := by
  induction rs with
  | nil => rfl
  | cons r rs ih =>
    obtain ⟨hr, hrs⟩ := forall_mem_cons.1 h
    have hrest := ih hrs
    simp only [remapsOf, assignTo, map_cons] at hrest ⊢
    simp [hr, hrest]

lemma paramsOf_restated (h : Distinguished as) : paramsOf (restated as) = quoted (paramsOf as) := by
  have hremap (rs : TextPairs) : paramsOf (assignTo .remap rs) = [] := by
    simp [paramsOf, assignTo, filterMap_map]
  have happend (as bs : List Assignment) : paramsOf (as ++ bs) = paramsOf as ++ paramsOf bs :=
    filterMap_append
  rw [restated_of_distinguished h, happend, happend, paramsOf_assignTo, hremap, hremap,
    append_nil, append_nil]

lemma remapsOf_restated (h : Distinguished as) : remapsOf (restated as) = bareRemapsOf as := by
  have hparam (ps : TextPairs) : remapsOf (assignTo .param ps) = [] := by
    simp [remapsOf, assignTo, filterMap_map]
  have hown (ns name : String) :
      remapsOf (assignTo .remap [("__ns", ns), ("__node", name)]) = [] := rfl
  have happend (as bs : List Assignment) : remapsOf (as ++ bs) = remapsOf as ++ remapsOf bs :=
    filterMap_append
  rw [restated_of_distinguished h, happend, happend, hparam, hown, remapsOf_assignTo h.apart,
    nil_append, append_nil]

lemma ownNames_restated (h : Distinguished as) :
    nsFrom "" (restated as) = spelled (nsFrom "" as) ∧
      nameFrom "" (restated as) = nameFrom "" as := by
  have hlast (bs : List Assignment) (ns name : String) :
      nsFrom "" (bs ++ assignTo .remap [("__ns", ns), ("__node", name)]) = ns ∧
      nameFrom "" (bs ++ assignTo .remap [("__ns", ns), ("__node", name)]) = name := by
    rw [nsFrom, nameFrom, foldl_append, foldl_append]
    exact ⟨rfl, rfl⟩
  rw [restated_of_distinguished h, ← append_assoc]
  exact hlast _ _ _

lemma quoted_eq_iff (ps : TextPairs) : quoted ps = ps ↔ ps = [] := by
  refine ⟨fun h => ?_, fun h => by rw [h]; rfl⟩
  cases ps with
  | nil => rfl
  | cons q ps =>
    have hquote : Text.asciiQuote q.2 = q.2 := congrArg Prod.snd (List.cons.inj h).1
    exact absurd hquote (Text.asciiQuote_ne q.2)

lemma bareRemapsOf_eq_iff (as : List Assignment) :
    bareRemapsOf as = remapsOf as ↔ ∀ r ∈ remapsOf as, bareSource r.1 = r.1 := by
  rw [bareRemapsOf]
  conv_lhs => rhs; rw [← map_id (remapsOf as)]
  rw [map_inj_left]
  exact forall₂_congr fun r _ => by simp [Prod.ext_iff]

/-- A foreign node that is started again, and the node that takes its place, are given the plain
arguments of its process and the assignments as they are restated. Of assignments to different
names these keep the namespace and the name, and the remappings that are for no one node; no
parameter keeps its value. -/
theorem restarted_restates {u : Session} (h : RunsNode s pid exe plain as)
    (hwrap : (wrapProcess (.ref (.process pid))).run s = .ok i t)
    (hsame : u.nodes[i]? = t.nodes[i]?) :
    (Restartable u pid → ((startForeign i).after u).events.getLast? =
      some (.spawned ((restartLine exe plain as).map .str) (.bool false) none)) ∧
    (∀ killAfter j v, (takeover i killAfter []).run u = .ok (.ref (.node j)) v →
      v.core.childOf j ≠ none → ∃ exe shell env, v.events.getLast? =
        some (.spawned ((takeoverLine exe plain as).map .str) shell env)) ∧
    (Distinguished as →
      (paramsOf (restated as) = paramsOf as ↔ paramsOf as = []) ∧
      (remapsOf (restated as) = remapsOf as ↔ ∀ r ∈ remapsOf as, bareSource r.1 = r.1) ∧
      nsFrom "" (restated as) = spelled (nsFrom "" as) ∧
      nameFrom "" (restated as) = nameFrom "" as) := by
  obtain ⟨n, hn, hwraps⟩ := yields_run_ok (yields_wrapProcess h) hwrap
  have hu : u.nodes[i]? = some n := hsame.trans hn
  refine ⟨fun hready => ?_, fun killAfter j v hrun hchild => ?_, fun hd => ⟨?_, ?_, ?_⟩⟩
  · exact (yields_startForeign hu hwraps hready rfl).after
  · exact yields_run_ok (yields_takeover hu hwraps killAfter) hrun j rfl hchild
  · rw [paramsOf_restated hd]
    exact quoted_eq_iff _
  · rw [remapsOf_restated hd]
    exact bareRemapsOf_eq_iff as
  · exact ownNames_restated hd

def isNode : Value → Nat → Bool
  | .ref (.node j), k => j == k
  | _, _ => false

lemma eq_of_isNode {v : Value} {j : Nat} (h : isNode v j) : v = .ref (.node j) := by
  unfold isNode at h
  split at h
  · rw [beq_iff_eq.1 h]
  · cases h

def listenerArgs : List Assignment :=
  [⟨.param, "a", "1"⟩, ⟨.remap, "from", "to"⟩, ⟨.remap, "__ns", "/ns"⟩, ⟨.remap, "__node", "n"⟩]

def listenerLine : List String :=
  "/bin/listener" :: "--fast" :: nodeMark :: listenerArgs.flatMap Assignment.words

/-- A session beside a process that is a node with a parameter and a remapping. -/
def listening : Session :=
  { observing 7 listenerLine with log := { directory := some "/" } }

lemma runsNode_listening : RunsNode listening 7 "/bin/listener" ["--fast"] listenerArgs :=
  ⟨(observes_observing 7 listenerLine).tells, by decide, by decide⟩

def listenerRead : NodeArgs :=
  { ns := "/ns", name := "n", params := texts [("a", "1")], remaps := texts [("from", "to")],
    others := [.str "--fast"] }

def afterListening : Session :=
  { Session.single 0 {} with
    log := { directory := some "/" }, nodes := ((wrapParsed 7 listenerRead).after listening).nodes }

lemma run_wrapProcess_listening : (wrapProcess (.ref (.process 7))).run listening =
    .ok 1 ((wrapParsed 7 listenerRead).after listening) := by
  have hparse := run_parse_node runsNode_listening
  have hresult : result? (wrapParsed 7 listenerRead) listening = some 1 := by decide +kernel
  have hpid : (processOf (.ref (.process 7))).run listening = .ok 7 listening := rfl
  rw [wrapProcess, run_bind_of_ok hpid, run_bind_of_ok hparse]
  exact run_of_result? hresult

lemma restartable_afterListening : Restartable afterListening 7 := by
  refine ⟨by decide +kernel, fun e he => ?_, ⟨_, rfl⟩, fun f hf => ?_⟩
  · simp [afterListening, Session.single] at he
  · simp [afterListening] at hf

theorem restarted_restates_listener :
    ((startForeign 1).after afterListening).events.getLast? =
      some (.spawned (["/bin/listener", "--fast", nodeMark, "-p", "a:=\"1\"", "-r", "from:=to",
        "-r", "__ns:=/ns", "-r", "__node:=n"].map .str) (.bool false) none) ∧
    ∃ exe shell env, ((takeover 1 (.float 0.05) []).after afterListening).events.getLast? =
      some (.spawned ([exe, "--fast", nodeMark, "-p", "a:=\"1\"", "-r", "from:=to",
        "-r", "__ns:=/ns", "-r", "__node:=n", "--log-level", "INFO"].map .str) shell env) := by
  have hargs : (restated listenerArgs).flatMap Assignment.words = ["-p", "a:=\"1\"", "-r",
      "from:=to", "-r", "__ns:=/ns", "-r", "__node:=n"] := by decide +kernel
  have htaken : (result? (takeover 1 (.float 0.05) []) afterListening).any (isNode · 2) := by
    decide +kernel
  have hchild : ((takeover 1 (.float 0.05) []).after afterListening).core.childOf 2 = some 0 := by
    decide +kernel
  obtain ⟨v, hv, hnode⟩ := (Option.any_eq_true _ _).1 htaken
  rw [eq_of_isNode hnode] at hv
  obtain ⟨hstart, htake, -⟩ :=
    @restarted_restates _ _ _ _ _ _ _ afterListening runsNode_listening run_wrapProcess_listening rfl
  have hnew := htake (.float 0.05) 2 _ (run_of_result? hv) (by rw [hchild]; exact Option.some_ne_none 0)
  simp only [restartLine, takeoverLine, hargs] at hstart hnew
  exact ⟨hstart restartable_afterListening, hnew⟩

/-- A number that a process was started with is a text when it is started again. -/
theorem value_restated_in_quotes : ∃ line : List String,
    ((startForeign 1).after afterListening).events.getLast? =
      some (.spawned (line.map .str) (.bool false) none) ∧
    "a:=1" ∈ listenerLine ∧ "a:=1" ∉ line ∧ "a:=\"1\"" ∈ line := by
  obtain ⟨n, hn, hwraps⟩ :=
    yields_run_ok (yields_wrapProcess runsNode_listening) run_wrapProcess_listening
  have hnode : afterListening.nodes[1]? = some n := hn
  have hstart := (yields_startForeign hnode hwraps restartable_afterListening rfl).after
  exact ⟨_, hstart, by decide +kernel, by decide +kernel, by decide +kernel⟩

end Launch

end Launchpad
