import Launchpad.Proofs.Supervision.Scene

/-!
Queries for nodes by their names: one for all whose names begin with a match, and one for the first
whose name matches as a whole.
-/

namespace Launchpad

namespace Pattern

def Matcher.Mono (m : Matcher) : Prop :=
  ∀ ⦃c k k'⦄, (∀ c, (k c).isSome → (k' c).isSome) → (m c k).isSome → (m c k').isSome

section

variable {x x' y y' : Option Cursor} (hx : x.isSome → x'.isSome) (hy : y.isSome → y'.isSome)
include hx hy

lemma orElse_imp : (x.orElse fun _ => y).isSome → (x'.orElse fun _ => y').isSome := by
  simpa using Or.imp hx hy

lemma ite_imp {q : Prop} [Decidable q] :
    (if q then x else y).isSome → (if q then x' else y').isSome := by
  split
  · exact hx
  · exact hy

end

lemma mono_repeatMatch {m : Matcher} (hm : m.Mono) (greed : Greed) (fuel min : Nat)
    (max : Option Nat) : (repeatMatch m greed fuel min max).Mono := by
  induction fuel generalizing min max with
  | zero => exact fun _ _ _ h => h _
  | succ fuel ih =>
    intro c k k' h
    refine ite_imp (hm fun _ => ih _ _ h) (ite_imp (h c) ?_)
    cases greed with
    | lazy => exact orElse_imp (h c) (hm fun _ => ite_imp (h _) (ih _ _ h))
    | _ => exact orElse_imp (hm fun _ => ite_imp (h _) (ih _ _ h)) (h c)

lemma mono_run (p : Regex) : (run p).Mono := by
  have hbind (x : Option Cursor) : Matcher.Mono fun _ => x.bind := by
    cases x with
    | none => exact fun _ _ _ _ => id
    | some c => exact fun _ _ _ h => h c
  induction p with
  | empty => exact fun _ _ _ h => h _
  | char | any | cls => exact fun c _ _ => @hbind _ c _ _
  | seq p q ihp ihq => exact fun _ _ _ h => ihp fun _ => ihq h
  | alt p q ihp ihq => exact fun _ _ _ h => orElse_imp (ihp h) (ihq h)
  | rep min max greed p ih =>
    cases greed with
    | possessive => exact fun c _ _ => @hbind _ c _ _
    | _ => exact fun _ _ _ => @mono_repeatMatch _ ih _ _ _ _ _ _ _
  | group i p ih => exact fun _ _ _ h => ih fun _ => h _
  | _ => exact fun _ _ _ h => ite_imp (h _) id

end Pattern

def Session.named (s : Session) (test : String → Bool) (i : Nat) : Bool :=
  s.nodes[i]?.any fun n => test n.fullname

lemma Session.named_of_whole {s : Session} {whole begins : String → Bool}
    (h : ∀ name, whole name → begins name) {i : Nat} : s.named whole i → s.named begins i := by
  unfold named
  cases s.nodes[i]? with
  | none => exact id
  | some n => exact h n.fullname

namespace Launch

open Pattern (matchAt matchWhole)

variable {s : Session} {nodes : List Nat}

lemma run_isNamed {i : Nat} (hi : i < s.nodes.size) {test : String → Bool} :
    (isNamed test i).run s = .ok (s.named test i) s := by
  have hn := Array.getElem?_eq_getElem hi
  rw [isNamed, run_bind_of_ok (run_getNode hn), Session.named, hn]
  rfl

section

variable {f : Nat → Launch Bool} {r : Nat → Bool} (h : ∀ i ∈ nodes, (f i).run s = .ok (r i) s)
include h

lemma run_filterM : (nodes.filterM f).run s = .ok (nodes.filter r) s := by
  have hloop (found : List Nat) : (nodes.filterAuxM f found).run s =
      .ok ((nodes.filter r).reverse ++ found) s := by
    induction nodes generalizing found with
    | nil => rfl
    | cons i nodes ih =>
      obtain ⟨hi, hnodes⟩ := List.forall_mem_cons.1 h
      rw [List.filterAuxM, run_bind_of_ok hi, ih hnodes]
      cases hr : r i <;> simp [hr]
  rw [List.filterM, run_bind_of_ok (hloop []), List.append_nil, List.reverse_reverse]
  rfl

lemma run_findM : (nodes.findM? f).run s = .ok (nodes.find? r) s := by
  induction nodes with
  | nil => rfl
  | cons i nodes ih =>
    obtain ⟨hi, hnodes⟩ := List.forall_mem_cons.1 h
    rw [List.findM?, run_bind_of_ok hi, List.find?]
    cases r i with
    | true => rfl
    | false => exact ih hnodes

end

section

variable {components service foreign : Bool} {t : Session}
variable (hnodes : (allNodes components service foreign).run s = .ok nodes t)
variable (hknown : ∀ i ∈ nodes, i < t.nodes.size)
include hnodes hknown

lemma run_listNamed (begins : String → Bool) :
    (listNamed begins components service foreign).run s =
      .ok (nodes.filter (t.named begins)) t := by
  rw [listNamed, run_bind_of_ok hnodes]
  exact run_filterM fun i hi => run_isNamed (hknown i hi)

lemma run_findNamed {whole begins : String → Bool} (h : ∀ name, whole name → begins name) :
    (findNamed whole components service foreign).run s =
      .ok ((nodes.filter (t.named begins)).find? (t.named whole)) t := by
  rw [findNamed, run_bind_of_ok hnodes, List.find?_filter]
  simp only [and_iff_right_of_imp (Session.named_of_whole h), Bool.decide_eq_true]
  exact run_findM fun i hi => run_isNamed (hknown i hi)

/-- Both queries go through the same nodes. One lists those whose names begin with a match, and the
other one finds the first of these whose name matches as a whole, if there is one: whatever a match
is, as long as a whole one is one at the beginning too, and so for all patterns that are read. -/
theorem queries_by_name :
    (∀ whole begins : String → Bool, (∀ name, whole name → begins name) →
      (listNamed begins components service foreign).run s =
          .ok (nodes.filter (t.named begins)) t ∧
        (findNamed whole components service foreign).run s =
          .ok ((nodes.filter (t.named begins)).find? (t.named whole)) t) ∧
    ∀ text r, Pattern.compile text = .ok r →
      let found := nodes.filter (t.named fun name => (matchAt r.pattern name).isSome)
      (queryNodes (.str text) components service foreign).run s = .ok found t ∧
        (queryNode (.str text) components service foreign).run s =
          .ok (found.find? (t.named fun name => (matchWhole r.pattern name).isSome)) t := by
  refine ⟨fun whole begins h => ⟨run_listNamed hnodes hknown begins,
    run_findNamed hnodes hknown h⟩, fun text r hpattern => ?_⟩
  have hread : (patternOf (.str text)).run s = .ok r.pattern s := by
    rw [patternOf, hpattern]
    rfl
  constructor
  · rw [queryNodes, run_bind_of_ok hread]
    exact run_listNamed hnodes hknown _
  · rw [queryNode, run_bind_of_ok hread]
    exact run_findNamed hnodes hknown fun _ => Pattern.mono_run r.pattern fun _ _ => rfl

end

theorem queries_by_name_single :
    (queryNodes (.str "/") true true false).run (.single 0 {}) = .ok [0] (.single 0 {}) ∧
      (queryNode (.str "/") true true false).run (.single 0 {}) = .ok none (.single 0 {}) :=
  (@queries_by_name (.single 0 {}) [0] true true false (.single 0 {}) rfl (by decide)).2 "/" _ rfl

theorem single_queried_in_part :
    (queryNodes (.str "/") true true false).result? (.single 0 {}) = some [0] ∧
      (queryNode (.str "/") true true false).result? (.single 0 {}) = some none := by
  decide +kernel

end Launch

end Launchpad
