import Launchpad.Proofs.Command.RoundTrip
import Launchpad.Proofs.Groups.Making

/-!
Foreign nodes that are made of running processes. The node holds what the command line of the
process assigns: of two assignments to one name the last, with its value as a text, and of a
remapping for one node only what follows the name of that node.
-/

namespace Launchpad

open Entries

/-- Assigns a text to a name, in the place of an earlier assignment. -/
def put : TextPairs → String × String → TextPairs
  | [], q => [q]
  | p :: ps, q => if p.1 = q.1 then (p.1, q.2) :: ps else p :: put ps q

/-- One assignment to each name: the place of the first and the text of the last. -/
def lastTexts (ps : TextPairs) : TextPairs :=
  ps.foldl put []

lemma insert_put (ps : TextPairs) (q : String × String) :
    insert (texts ps) (.str q.1) (.str q.2) = texts (put ps q) := by
  induction ps with
  | nil => rfl
  | cons p ps ih =>
    have hcons : insert (texts (p :: ps)) (.str q.1) (.str q.2) =
        if p.1 = q.1 then (.str p.1, .str q.2) :: texts ps
        else (.str p.1, .str p.2) :: insert (texts ps) (.str q.1) (.str q.2) := by
      rw [texts, List.map_cons, Entries.insert, Value.alike_str]
      simp only [beq_iff_eq]
      rfl
    rw [hcons, ih, put]
    split <;> rfl

lemma update_put (ps qs : TextPairs) : update (texts ps) (texts qs) = texts (qs.foldl put ps) := by
  induction qs generalizing ps with
  | nil => rfl
  | cons q qs ih =>
    have hcons : update (texts ps) (texts (q :: qs)) =
        update (insert (texts ps) (.str q.1) (.str q.2)) (texts qs) := rfl
    rw [hcons, insert_put, ih]
    rfl

lemma nodup_foldl_put {ps : TextPairs} (h : (ps.map Prod.fst).Nodup)
    (qs : TextPairs) : ((qs.foldl put ps).map Prod.fst).Nodup := by
  rw [← distinct_texts] at h ⊢
  rw [← update_put]
  exact h.update _

lemma texts_injective : Function.Injective texts := by
  refine List.map_injective_iff.2 ?_
  rintro ⟨_, _⟩ ⟨_, _⟩ h
  simpa using h

lemma lastTexts_of_nodup {ps : TextPairs} (h : (ps.map Prod.fst).Nodup) : lastTexts ps = ps :=
  texts_injective ((update_put [] ps).symm.trans (update_nil_texts h))

lemma lastTexts_lastTexts (ps : TextPairs) : lastTexts (lastTexts ps) = lastTexts ps :=
  lastTexts_of_nodup (@nodup_foldl_put [] List.nodup_nil ps)

namespace Assignment

open Launch (NodeArgs)

def paramsOf (as : List Assignment) : TextPairs :=
  as.filterMap fun a => if a.assignee = .param then some (a.left, a.right) else none

/-- The names that assignments remap, those that stand for the node itself apart. -/
def remapsOf (as : List Assignment) : TextPairs :=
  as.filterMap fun a =>
    if a.assignee = .remap ∧ a.left ∉ ownNames then some (a.left, a.right) else none

/-- The remappings without the names of the nodes that they are for. -/
def bareRemapsOf (as : List Assignment) : TextPairs :=
  (remapsOf as).map fun r => (bareSource r.1, r.2)

def nsFrom (ns : String) (as : List Assignment) : String :=
  as.foldl (fun ns a => if a.assignee = .remap ∧ a.left = "__ns" then a.right else ns) ns

def nameFrom (name : String) (as : List Assignment) : String :=
  as.foldl (fun name a =>
    if a.assignee = .remap ∧ (a.left = "__name" ∨ a.left = "__node") then a.right else name) name

lemma record_eq (as : List Assignment) (acc : NodeArgs) :
    as.foldl record acc =
      { acc with ns := nsFrom acc.ns as, name := nameFrom acc.name as,
                 params := acc.params.update (texts (paramsOf as)),
                 remaps := acc.remaps.update (texts (bareRemapsOf as)) } := by
  induction as generalizing acc with
  | nil => rfl
  | cons a as ih =>
    obtain ⟨assignee, left, right⟩ := a
    rw [List.foldl_cons, ih]
    cases assignee with
    | param => rfl
    | remap =>
      by_cases hns : left = "__ns"
      · subst hns
        rfl
      by_cases hname : left = "__name" ∨ left = "__node"
      · rcases hname with rfl | rfl <;> rfl
      have hown : left ∉ ownNames := by
        simp only [ownNames, List.mem_cons, List.not_mem_nil, or_false]
        tauto
      have hremaps : bareRemapsOf (⟨.remap, left, right⟩ :: as) =
          (bareSource left, right) :: bareRemapsOf as := by
        simp [bareRemapsOf, remapsOf, hown]
      rw [hremaps]
      simp [record, nsFrom, nameFrom, paramsOf, texts, update, hns, hname]

end Assignment

namespace Launch

open Assignment

variable {s t : Session} {i : Nat} {pid : Int} {exe : String} {plain : List String}
  {as : List Assignment}

/-- A process that runs a node: a program, plain arguments, and assignments behind the mark. -/
structure RunsNode (s : Session) (pid : Int) (exe : String) (plain : List String)
    (as : List Assignment) : Prop where
  tells : Tells s pid (exe :: plain ++ nodeMark :: as.flatMap Assignment.words)
  plain : nodeMark ∉ plain
  clean : ∀ a ∈ as, a.Clean

structure Repeats (n : Node) (as : List Assignment) : Prop where
  name : n.name = nameFrom "" as
  ns : n.ns = spelled (nsFrom "" as)
  params : n.params = .map (texts (lastTexts (paramsOf as)))
  remaps : n.remaps = .map (texts (lastTexts (bareRemapsOf as)))

structure Wraps (n : Node) (pid : Int) (exe : String) (plain : List String)
    (as : List Assignment) : Prop where
  repeats : Repeats n as
  executable : n.executable = .str exe
  kind : n.kind = .foreign { process := .found pid, cmdArgs := .list (plain.map .str) }

lemma orElse_map (es : Entries) : orElse (.map es) (.map []) = .map es := by
  cases es <;> rfl

lemma yields_any {α : Type} (x : Launch α) (s : Session) : EndsIn x s (fun _ => True) := by
  unfold EndsIn Yields
  split <;> trivial

lemma yields_newNode_pushed (package executable : Value) (name ns : String)
    (remaps params output : Value) (kind : NodeKind) (s : Session) :
    IfOk (newNode package executable (.str name) (.str ns) remaps params output kind) s
      (fun i t => ∃ id logger, t.nodes[i]? = some
        { id, package, executable, name, ns := spelled ns, remaps := orElse remaps (.map []),
          params := orElse params (.map []), logger, kind }) := by
  unfold newNode
  rw [namespaceText_str]
  refine Yields.ite (.of_bind (.throw trivial)) ?_
  refine Yields.ite (.of_bind (.throw trivial)) ?_
  simp only [yields_bind, yields_get, yields_modify, takeUp]
  refine (yields_any _ _).map fun _ _ _ => ?_
  refine (yields_any _ _).map fun _ _ _ => ?_
  simp only [yields_set, yields_pure, Array.getElem?_push_size]
  exact ⟨_, _, rfl⟩

lemma Tells.of_written {argv : List String} (h : Tells s pid argv) (hw : Written s t) :
    Tells t pid argv := by
  obtain ⟨_, _, _, -, rfl⟩ := hw
  exact h

lemma run_parse_node (h : RunsNode s pid exe plain as) :
    (parseProcessArgs pid .null).run s =
      .ok { ns := nsFrom "" as, name := nameFrom "" as,
            params := texts (lastTexts (paramsOf as)),
            remaps := texts (lastTexts (bareRemapsOf as)), others := plain.map .str } s := by
  have hargv : (exe :: plain ++ nodeMark :: as.flatMap Assignment.words).drop 1 =
      plain ++ nodeMark :: (as.flatMap Assignment.words ++ []) := by simp
  rw [parseProcessArgs_eq h.tells, hargv, readNodeArgs_plain _ h.plain, readNodeArgs_nodeMark,
    readNodeArgs_of_clean h.clean, record_eq, readNodeArgs, lastTexts, lastTexts, ← update_put,
    ← update_put]
  rfl

lemma yields_wrapProcess (h : RunsNode s pid exe plain as) :
    IfOk (wrapProcess (.ref (.process pid))) s
      (fun i t => ∃ n, t.nodes[i]? = some n ∧ Wraps n pid exe plain as) := by
  have hwarn {c : Prop} [Decidable c] {msg : String} {f : PUnit → Launch Nat} {m : Session}
      (hm : Written s m) (hf : ∀ u, Written s u → IfOk (f ⟨⟩) u
        (fun i t => ∃ n, t.nodes[i]? = some n ∧ Wraps n pid exe plain as)) :
      IfOk (if c then do let l ← getLauncher; let r ← warn l.logger msg; f r else f ⟨⟩) m
        (fun i t => ∃ n, t.nodes[i]? = some n ∧ Wraps n pid exe plain as) := by
    refine Yields.ite ?_ (hf m hm)
    refine (keeps_getLauncher).along hm fun l u hu => ?_
    exact keeps_warn.along hu fun _ v hv => hf v hv
  refine .of_bind (.pure ?_)
  refine .of_bind (yields_of_run_ok (run_parse_node h) ?_)
  obtain ⟨e, hentry, hcommand⟩ := h.tells.exists_entry
  refine .of_bind (yields_of_run_ok hentry ?_)
  refine .of_bind (yields_of_run_ok hcommand ?_)
  refine keeps_packageForPath.along (refl_of Written s) fun package m hm => ?_
  refine hwarn hm fun u hu => hwarn hu fun v hv => ?_
  refine .of_bind (.pure ?_)
  obtain ⟨e, hentry, hcommand⟩ := (h.tells.of_written hv).exists_entry
  refine .of_bind (yields_of_run_ok hentry ?_)
  refine .of_bind (yields_of_run_ok hcommand ?_)
  refine (yields_newNode_pushed _ _ _ _ _ _ _ _ v).andThen ?_
  rintro i t ⟨id, logger, hi⟩
  simp only [addTask, yields_bind, yields_modify, yields_pure]
  exact ⟨_, hi, ⟨rfl, rfl, orElse_map _, orElse_map _⟩, rfl, rfl⟩

end Launch

end Launchpad
