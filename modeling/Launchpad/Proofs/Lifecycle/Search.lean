import Launchpad.Lifecycle.Path
import Mathlib.Algebra.BigOperators.Group.Finset.Basic
import Mathlib.Data.List.Pairwise

/-!
The search for a way between two states finds a shortest walk of the transitions if there is one,
and nothing otherwise.

The invariant is that of breadth-first search: what waits in the queue are walks from the start,
the shorter ones first and never more than one transition apart, and every way out of the visited
states waits there with a walk that is as short as any.
-/

namespace Launchpad.Lifecycle

open List

variable {start goal : Int}

/-- A walk from a state to another one by transitions, which are given by their numbers. -/
inductive Walk (start : Int) : List Int → Int → Prop where
  | nil : Walk start [] start
  | snoc {path : List Int} {state : Int} {next : Int × Int} (h : Walk start path state)
      (hnext : next ∈ transitions state) : Walk start (path ++ [next.1]) next.2

/-- No walk between the two states is shorter. -/
structure Shortest (start : Int) (path : List Int) (goal : Int) : Prop where
  walk : Walk start path goal
  least : ∀ other, Walk start other goal → path.length ≤ other.length

def Reachable (start goal : Int) : Prop :=
  ∃ path, Walk start path goal

lemma Walk.eq_of_nil (h : Walk start [] goal) : goal = start := by
  generalize hpath : ([] : List Int) = path at h
  cases h with
  | nil => rfl
  | snoc h hnext => simp at hpath

structure Frontier (start goal : Int) (queue : List (Int × List Int)) (visited : List Int) :
    Prop where
  walks : ∀ e ∈ queue, Walk start e.2 e.1
  sorted : queue.Pairwise fun e f => e.2.length ≤ f.2.length
  near : ∀ e ∈ queue, ∀ f ∈ queue, f.2.length ≤ e.2.length + 1
  begun : start ∈ visited ∨ (start, []) ∈ queue
  exits : ∀ state ∈ visited, ∀ path, Walk start path state → ∀ next ∈ transitions state,
    next.2 ∉ visited → ∃ e ∈ queue, e.1 = next.2 ∧ e.2.length ≤ path.length + 1
  missed : goal ∉ visited

lemma frontier_start (start goal : Int) : Frontier start goal [(start, [])] [] := by
  refine ⟨?_, pairwise_singleton _ _, ?_, Or.inr (mem_singleton_self _), ?_, ?_⟩
  · intro e he
    rw [mem_singleton.1 he]
    exact .nil
  · intro e he f hf
    rw [mem_singleton.1 he, mem_singleton.1 hf]
    exact Nat.zero_le _
  · intro state hstate
    exact absurd hstate not_mem_nil
  · exact not_mem_nil

namespace Frontier

variable {start goal state : Int} {path : List Int} {queue : List (Int × List Int)}
  {visited : List Int}

lemma exists_waiting (h : Frontier start goal queue visited) {other : List Int}
    (hwalk : Walk start other state) (hstate : state ∉ visited) :
    ∃ e ∈ queue, e.2.length ≤ other.length := by
  induction hwalk with
  | nil =>
    have hqueue := h.begun.resolve_left hstate
    exact ⟨_, hqueue, Nat.le_refl _⟩
  | @snoc other state next hwalk hnext ih =>
    have hlength : (other ++ [next.1]).length = other.length + 1 := by simp
    by_cases hbefore : state ∈ visited
    · obtain ⟨e, he, -, hle⟩ := h.exits state hbefore other hwalk next hnext hstate
      exact ⟨e, he, hlength ▸ hle⟩
    · obtain ⟨e, he, hle⟩ := ih hbefore
      exact ⟨e, he, by omega⟩

section

variable (h : Frontier start goal ((state, path) :: queue) visited)
include h

lemma head_le {e : Int × List Int} (he : e ∈ (state, path) :: queue) :
    path.length ≤ e.2.length := by
  rcases mem_cons.1 he with rfl | he
  · exact Nat.le_refl _
  · exact (pairwise_cons.1 h.sorted).1 e he

lemma shortest_head (hstate : state ∉ visited) : Shortest start path state := by
  refine ⟨h.walks _ mem_cons_self, fun other hother => ?_⟩
  obtain ⟨e, he, hle⟩ := h.exists_waiting hother hstate
  exact Nat.le_trans (h.head_le he) hle

lemma drop (hstate : state ∈ visited) : Frontier start goal queue visited where
  walks e he := h.walks e (mem_cons_of_mem _ he)
  sorted := (pairwise_cons.1 h.sorted).2
  near e he f hf := h.near e (mem_cons_of_mem _ he) f (mem_cons_of_mem _ hf)
  begun := by
    rcases h.begun with hbegun | hbegun
    · exact .inl hbegun
    · rcases mem_cons.1 hbegun with heq | hbegun
      · have hstart : start = state := congrArg Prod.fst heq
        exact .inl (hstart ▸ hstate)
      · exact .inr hbegun
  exits v hv other hother next hnext hout := by
    obtain ⟨e, he, heq, hle⟩ := h.exits v hv other hother next hnext hout
    rcases mem_cons.1 he with rfl | he
    · exact absurd (heq ▸ hstate) hout
    · exact ⟨e, he, heq, hle⟩
  missed := h.missed

end

def onward (state : Int) (path : List Int) (visited : List Int) : List (Int × List Int) :=
  ((transitions state).filter fun t => t.2 ∉ visited).map fun t => (t.2, path ++ [t.1])

lemma mem_onward {e : Int × List Int} (he : e ∈ onward state path visited) :
    ∃ next ∈ transitions state, next.2 ∉ visited ∧ e = (next.2, path ++ [next.1]) := by
  obtain ⟨next, hnext, rfl⟩ := mem_map.1 he
  obtain ⟨hmem, hout⟩ := mem_filter.1 hnext
  exact ⟨next, hmem, of_decide_eq_true hout, rfl⟩

lemma length_of_mem_onward {e : Int × List Int} (he : e ∈ onward state path visited) :
    e.2.length = path.length + 1 := by
  obtain ⟨next, -, -, rfl⟩ := mem_onward he
  simp

lemma expand (h : Frontier start goal ((state, path) :: queue) visited) (hgoal : state ≠ goal)
    (hstate : state ∉ visited) :
    Frontier start goal (queue ++ onward state path (state :: visited)) (state :: visited) where
  walks e he := by
    rcases mem_append.1 he with he | he
    · exact h.walks e (mem_cons_of_mem _ he)
    · obtain ⟨next, hnext, -, rfl⟩ := mem_onward he
      exact (h.walks _ mem_cons_self).snoc hnext
  sorted := by
    refine pairwise_append.2 ⟨(pairwise_cons.1 h.sorted).2, ?_, ?_⟩
    · refine pairwise_of_forall_mem_list fun e he f hf => ?_
      rw [length_of_mem_onward he, length_of_mem_onward hf]
    · intro e he f hf
      rw [length_of_mem_onward hf]
      exact h.near _ mem_cons_self e (mem_cons_of_mem _ he)
  near e he f hf := by
    -- Old walks are at least as long as the first one was, and at most one transition longer.
    rcases mem_append.1 he with he | he <;> rcases mem_append.1 hf with hf | hf
    · exact h.near e (mem_cons_of_mem _ he) f (mem_cons_of_mem _ hf)
    · have hle := h.head_le (mem_cons_of_mem _ he)
      rw [length_of_mem_onward hf]
      omega
    · have hle : f.2.length ≤ path.length + 1 :=
        h.near _ mem_cons_self f (mem_cons_of_mem _ hf)
      rw [length_of_mem_onward he]
      omega
    · rw [length_of_mem_onward he, length_of_mem_onward hf]
      omega
  begun := by
    rcases h.begun with hbegun | hbegun
    · exact .inl (mem_cons_of_mem _ hbegun)
    · rcases mem_cons.1 hbegun with heq | hbegun
      · have hstart : start = state := congrArg Prod.fst heq
        exact .inl (hstart ▸ mem_cons_self)
      · exact .inr (mem_append_left _ hbegun)
  exits v hv other hother next hnext hout := by
    rcases mem_cons.1 hv with rfl | hv
    · have hle := (h.shortest_head hstate).least other hother
      refine ⟨(next.2, path ++ [next.1]), mem_append_right _ ?_, rfl, ?_⟩
      · exact mem_map.2 ⟨next, mem_filter.2 ⟨hnext, decide_eq_true hout⟩, rfl⟩
      · rw [length_append, length_singleton]
        omega
    · have hout' : next.2 ∉ visited := fun hmem => hout (mem_cons_of_mem _ hmem)
      obtain ⟨e, he, heq, hle⟩ := h.exits v hv other hother next hnext hout'
      rcases mem_cons.1 he with rfl | he
      · exact absurd (heq ▸ mem_cons_self) hout
      · exact ⟨e, mem_append_left _ he, heq, hle⟩
  missed hmem := by
    rcases mem_cons.1 hmem with heq | hmem
    · exact hgoal heq.symm
    · exact h.missed hmem

end Frontier

def sources : Finset Int :=
  {unconfigured, inactive, activeState, finalizedState}

lemma transitions_eq_nil {state : Int} (h : state ∉ sources) : transitions state = [] := by
  simp only [sources, Finset.mem_insert, Finset.mem_singleton, not_or] at h
  obtain ⟨h₁, h₂, h₃, h₄⟩ := h
  simp only [transitions, if_neg h₁, if_neg h₂, if_neg h₃, if_neg h₄]

/-- The number of transitions out of the states that were not visited. -/
def remaining (visited : List Int) : Nat :=
  ∑ state ∈ sources.filter (· ∉ visited), (transitions state).length

lemma remaining_cons_add {state : Int} {visited : List Int} (h : state ∉ visited) :
    remaining (state :: visited) + (transitions state).length = remaining visited := by
  have herase : sources.filter (· ∉ state :: visited) =
      (sources.filter (· ∉ visited)).erase state := by
    ext other
    simp only [Finset.mem_filter, Finset.mem_erase, mem_cons, not_or]
    tauto
  unfold remaining
  rw [herase]
  by_cases hsource : state ∈ sources
  · exact Finset.sum_erase_add _ _ (Finset.mem_filter.2 ⟨hsource, h⟩)
  · have hout : state ∉ sources.filter (· ∉ visited) :=
      fun hmem => hsource (Finset.mem_filter.1 hmem).1
    rw [Finset.erase_eq_of_notMem hout, transitions_eq_nil hsource]
    rfl

/-- With fuel for what waits and for what may still come the search ends with a shortest walk, or
there is none. -/
lemma search_correct (fuel : Nat) (queue : List (Int × List Int)) (visited : List Int)
    (h : Frontier start goal queue visited) (hfuel : queue.length + remaining visited < fuel) :
    Shortest start (search goal fuel queue visited) goal ∨
      search goal fuel queue visited = [] ∧ ¬ Reachable start goal := by
  induction fuel generalizing queue visited with
  | zero => omega
  | succ fuel ih =>
    cases queue with
    | nil =>
      refine .inr ⟨rfl, fun ⟨path, hpath⟩ => ?_⟩
      obtain ⟨e, he, -⟩ := h.exists_waiting hpath h.missed
      exact not_mem_nil he
    | cons e queue =>
      obtain ⟨state, path⟩ := e
      rw [length_cons] at hfuel
      rw [search]
      by_cases hgoal : state = goal
      · subst hgoal
        rw [if_pos rfl]
        exact .inl (h.shortest_head h.missed)
      · rw [if_neg hgoal]
        by_cases hstate : state ∈ visited
        · rw [if_pos hstate]
          exact ih queue visited (h.drop hstate) (by omega)
        · rw [if_neg hstate]
          refine ih _ _ (h.expand hgoal hstate) ?_
          have hremaining := remaining_cons_add hstate
          have honward : (Frontier.onward state path (state :: visited)).length ≤
              (transitions state).length := by
            rw [Frontier.onward, length_map]
            exact length_filter_le _ _
          change (queue ++ Frontier.onward state path (state :: visited)).length + _ < fuel
          rw [length_append]
          omega

lemma findPath_correct (hne : start ≠ goal) :
    Shortest start (findPath start goal) goal ∨
      findPath start goal = [] ∧ ¬ Reachable start goal := by
  rw [findPath, if_neg hne]
  have hremaining : remaining [] = 8 := by decide
  refine search_correct 16 _ _ (frontier_start start goal) ?_
  rw [hremaining, length_singleton]
  decide

lemma shortest_findPath (hne : start ≠ goal) (h : Reachable start goal) :
    Shortest start (findPath start goal) goal :=
  (findPath_correct hne).resolve_right fun hnone => hnone.2 h

lemma findPath_eq_nil_iff (hne : start ≠ goal) :
    findPath start goal = [] ↔ ¬ Reachable start goal := by
  constructor
  · intro hnil hreach
    have hwalk := (shortest_findPath hne hreach).walk
    rw [hnil] at hwalk
    exact hne hwalk.eq_of_nil.symm
  · intro hreach
    rcases findPath_correct hne with hshort | hnone
    · exact absurd ⟨_, hshort.walk⟩ hreach
    · exact hnone.1

end Launchpad.Lifecycle
