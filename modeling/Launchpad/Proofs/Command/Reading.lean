import Launchpad.Proofs.Command.Assignment

/-!
Command lines of nodes are read argument by argument: what stands before the mark is plain, and
behind it every assignment is put down where it belongs. What is neither is warned of and skipped.
-/

namespace Launchpad

open List

def texts (ps : TextPairs) : Entries :=
  ps.map fun q => (.str q.1, .str q.2)

inductive Assignee where
  | param
  | remap
deriving DecidableEq, Repr

def Assignee.mark : Assignee → String
  | .param => "-p"
  | .remap => "-r"

structure Assignment where
  assignee : Assignee
  left : String
  right : String
deriving DecidableEq, Repr

namespace Assignment

open Launch (NodeArgs)

def operand (a : Assignment) : String :=
  a.left ++ assignSign ++ a.right

def words (a : Assignment) : List String :=
  [a.assignee.mark, a.operand]

/-- Does an assignment hold no sign but its own? -/
structure Clean (a : Assignment) : Prop where
  left : ¬ assignSign.toList <:+: a.left.toList
  right : ¬ assignSign.toList <:+: a.right.toList

instance (a : Assignment) : Decidable a.Clean :=
  decidable_of_iff (¬ assignSign.toList <:+: a.left.toList ∧ ¬ assignSign.toList <:+: a.right.toList)
    ⟨fun h => ⟨h.1, h.2⟩, fun h => ⟨h.left, h.right⟩⟩

/-- The names that stand for the namespace and the name of a node. -/
def ownNames : List String := ["__ns", "__name", "__node"]

/-- What is left of a remapping's source when the name of a node before it is dropped. -/
def bareSource (source : String) : String :=
  ((Text.cut? source ":").map Prod.snd).getD source

def record (acc : NodeArgs) (a : Assignment) : NodeArgs :=
  match a.assignee with
  | .param => { acc with params := acc.params.insert (.str a.left) (.str a.right) }
  | .remap =>
    if a.left = "__ns" then { acc with ns := a.right }
    else if a.left = "__name" ∨ a.left = "__node" then { acc with name := a.right }
    else { acc with remaps := acc.remaps.insert (.str (bareSource a.left)) (.str a.right) }

lemma twice_of_not_clean {a : Assignment} (h : ¬ a.Clean) :
    Text.OccursTwice assignSign a.operand := by
  unfold Text.OccursTwice operand
  rw [String.toList_append, String.toList_append]
  by_cases hleft : assignSign.toList <:+: a.left.toList
  · obtain ⟨x, y, hxy⟩ := hleft
    exact ⟨x, y, a.right.toList, by rw [← hxy]⟩
  · by_cases hright : assignSign.toList <:+: a.right.toList
    · obtain ⟨y, z, hyz⟩ := hright
      exact ⟨a.left.toList, y, z, by rw [← hyz]; simp⟩
    · exact absurd ⟨hleft, hright⟩ h

end Assignment

namespace Launch

open Assignment

variable {acc : NodeArgs} {rest : List String}

lemma readNodeArgs_clean {a : Assignment} (h : a.Clean) :
    readNodeArgs .null true acc (a.words ++ rest) = readNodeArgs .null true (a.record acc) rest := by
  obtain ⟨assignee, left, right⟩ := a
  have hsplit := splitAssignment_once h.left h.right
  simp only [words, operand, cons_append, nil_append]
  rw [readNodeArgs]
  simp only [List.head?_cons, hsplit, pure_bind, drop_one, tail_cons]
  cases assignee with
  | param => rfl
  | remap =>
    rw [Assignee.mark, if_neg (by decide), if_neg (by decide), if_neg (by decide),
      if_pos (by decide)]
    simp only [record, bareSource, beq_iff_eq, Bool.or_eq_true]
    by_cases hns : left = "__ns"
    · rw [if_pos hns, if_pos hns]
    by_cases hname : left = "__name" ∨ left = "__node"
    · rw [if_neg hns, if_neg hns, if_pos hname, if_pos hname]
    rw [if_neg hns, if_neg hns, if_neg hname, if_neg hname]
    cases Text.cut? left ":" with
    | none => rfl
    | some pair => rfl

lemma readNodeArgs_of_clean {as : List Assignment} (h : ∀ a ∈ as, a.Clean) :
    readNodeArgs .null true acc (as.flatMap words ++ rest) =
      readNodeArgs .null true (as.foldl record acc) rest := by
  induction as generalizing acc with
  | nil => rfl
  | cons a as ih =>
    obtain ⟨ha, has⟩ := forall_mem_cons.1 h
    rw [flatMap_cons, append_assoc, readNodeArgs_clean ha, ih has]
    rfl

lemma readNodeArgs_twice {a : Assignment} (h : Text.OccursTwice assignSign a.operand) :
    readNodeArgs .null true acc (a.words ++ rest) = silent .invalidValue := by
  obtain ⟨assignee, left, right⟩ := a
  have hsplit := splitAssignment_twice h
  simp only [words, cons_append, nil_append]
  rw [readNodeArgs]
  simp only [List.head?_cons, hsplit]
  cases assignee <;> rfl

lemma readNodeArgs_of_twice {as : List Assignment}
    (h : ∃ a ∈ as, Text.OccursTwice assignSign a.operand) :
    readNodeArgs .null true acc (as.flatMap words ++ rest) = silent .invalidValue := by
  induction as generalizing acc with
  | nil =>
    obtain ⟨a, ha, -⟩ := h
    cases ha
  | cons a as ih =>
    rw [flatMap_cons, append_assoc]
    by_cases hclean : a.Clean
    · rw [readNodeArgs_clean hclean]
      obtain ⟨b, hb, htwice⟩ := h
      rcases mem_cons.1 hb with rfl | hb
      · exact (readNodeArgs_clean hclean).symm.trans (readNodeArgs_twice htwice)
      · exact ih ⟨b, hb, htwice⟩
    · exact readNodeArgs_twice (twice_of_not_clean hclean)

def nodeMark : String := "--ros-args"

lemma readNodeArgs_nodeMark (node : Value) (inMarks : Bool) :
    readNodeArgs node inMarks acc (nodeMark :: rest) = readNodeArgs node true acc rest := by
  rw [readNodeArgs]
  rfl

lemma readNodeArgs_plain (node : Value) {own : List String} (h : nodeMark ∉ own) :
    readNodeArgs node false acc (own ++ rest) =
      readNodeArgs node false { acc with others := acc.others ++ own.map .str } rest := by
  induction own generalizing acc with
  | nil => simp
  | cons w own ih =>
    obtain ⟨hw, hown⟩ := not_or.1 (mem_cons.not.1 h)
    have hplain : (w == "--ros-args") = false := beq_false_of_ne (Ne.symm hw)
    rw [cons_append, readNodeArgs]
    simp only [hplain]
    rw [if_neg (by decide), if_pos (by decide), ih hown]
    simp

def knownMarks : List String :=
  [nodeMark, "-p", "--param", "-r", "--remap", "--params-file"]

lemma isSome_launcher_of_calm {s t : Session} (h : Calm s t) :
    t.launcher.isSome = s.launcher.isSome := by
  have hmap := congrArg (fun k => k.launcher.isSome) h.core
  simpa only [Session.core, Option.isSome_map] using hmap

lemma yields_readNodeArgs_skip {ws : List String} (h : ∀ w ∈ ws, w ∉ knownMarks) {u : Session}
    (hl : u.launcher.isSome) (hlog : u.log.Ordinary) {E : Post Stop} :
    Yields (readNodeArgs .null true acc ws) u (fun args _ => args = acc) E := by
  induction ws generalizing u with
  | nil =>
    rw [readNodeArgs]
    exact .pure rfl
  | cons w ws ih =>
    obtain ⟨hw, hws⟩ := forall_mem_cons.1 h
    simp only [knownMarks, nodeMark, mem_cons, not_mem_nil, or_false, not_or] at hw
    obtain ⟨hmark, hp, hparam, hr, hremap, hfile⟩ := hw
    obtain ⟨l, hl'⟩ := Option.isSome_iff_exists.1 hl
    rw [readNodeArgs]
    simp only [beq_iff_eq, Bool.or_eq_true, hmark, hp, hparam, hr, hremap, hfile, or_self,
      if_false, Bool.not_true, Bool.false_eq_true]
    refine (yields_getLauncher_of hl').bind ?_
    rintro k m ⟨rfl, rfl⟩
    have hplain : Log.StartsPlain "parse_process_args: unhandled ros-arg %s" :=
      ⟨'p', _, rfl, by decide⟩
    have hused : Log.warning ∈ Log.knownLevels := by decide
    refine (yields_log_unmarked (R := Calm) k.logger hused hplain hlog []).bind fun _ t ht => ?_
    exact ih hws (by rw [isSome_launcher_of_calm ht, hl]) (hlog.later ht.log)

end Launch

end Launchpad
