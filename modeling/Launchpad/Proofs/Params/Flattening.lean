import Launchpad.Proofs.Groups.Namespace
import Launchpad.Proofs.Params.Sections

/-!
Parameters in nested maps, and the flat ones that a node is started with: a flat key holds the keys on
the way to a value, with dots between them. If no key has a dot of its own, the flat keys lead back to
the same maps.
-/

namespace Launchpad

open List

open Value

lemma Entries.insert_insert (es : Entries) (k : String) (v w : Value) :
    (es.insert (.str k) v).insert (.str k) w = es.insert (.str k) w := by
  have hsame : (str k).alike (.str k) = true := by simp [alike_str]
  induction es with
  | nil => exact if_pos hsame
  | cons e es ih =>
    rw [insert, insert]
    split
    · next he => rw [insert, if_pos he]
    · next he => rw [insert, if_neg he, ih]

def Value.entries : Value → Entries
  | .map es => es
  | _ => []

namespace Launch

def Parts (ps : List String) : Prop :=
  ∀ p ∈ ps, p ≠ "" ∧ '.' ∉ p.toList

mutual

/-- The maps in a value are not empty, and their keys are texts that can be joined with dots and
differ from each other. -/
def Nests : Value → Prop
  | .map es => es ≠ [] ∧ NestsAll es
  | _ => True

def NestsAll : Entries → Prop
  | [] => True
  | (k, v) :: es => (∃ t, k = .str t ∧ Parts [t] ∧ ∀ e ∈ es, e.1 ≠ k) ∧ Nests v ∧ NestsAll es

end

mutual

def leaves : Value → List (List String × Value)
  | .map es => leavesAll es
  | v => [([], v)]

def leavesAll : Entries → List (List String × Value)
  | [] => []
  | (k, v) :: es => (leaves v).map (fun l => (k.text?.toList ++ l.1, l.2)) ++ leavesAll es

end

def joined (path : List String) : Value :=
  .str (".".intercalate path)

lemma splitAt_joined {path : List String} (h : Parts path) (hne : path ≠ []) :
    Text.splitAt (".".intercalate path) '.' = path :=
  Text.splitAt_intercalate hne fun p hp => (h p hp).2

lemma keyBelow_joined {path : List String} (h : Parts path) (t : String) :
    keyBelow (joined path) (.str t) = joined (path ++ [t]) := by
  by_cases hne : path = []
  · subst hne
    rfl
  · have htruthy : (joined path).truthy = true := by
      have hsplit := splitAt_joined h hne
      refine bne_iff_ne.2 fun hempty => ?_
      rw [hempty] at hsplit
      exact (h "" (hsplit ▸ mem_singleton_self "")).1 rfl
    rw [keyBelow, if_pos htruthy, joined, joined,
      String.intercalate_append_of_ne_nil hne (cons_ne_nil t []), String.intercalate_singleton]
    rfl

lemma flatLeavesAll_joined {es : Entries} (h : NestsAll es) :
    flatLeavesAll (.str "") es = (leavesAll es).map fun l => (joined l.1, l.2) := by
  refine (leaves.mutual_induct
    (fun v => ∀ path, Parts path → Nests v →
      flatLeaves (joined path) v = (leaves v).map fun l => (joined (path ++ l.1), l.2))
    (fun es => ∀ path, Parts path → NestsAll es →
      flatLeavesAll (joined path) es = (leavesAll es).map fun l => (joined (path ++ l.1), l.2))
    (fun es ih path hpath h => ?_) (fun v hv path _ _ => ?_) (fun _ _ _ => rfl)
    (fun k v es ihv ihes path hpath h => ?_)).2 es [] (fun _ hp => absurd hp (by simp)) h
  · rw [flatLeaves, leaves]
    exact ih path hpath h.2
  · rw [flatLeaves, leaves]
    · simp
    all_goals assumption
  · obtain ⟨⟨t, rfl, ht, -⟩, hv, hes⟩ := h
    have hbelow : Parts (path ++ [t]) := fun p hp => (mem_append.1 hp).elim (hpath p) (ht p)
    rw [flatLeavesAll, keyBelow_joined hpath, ihv _ hbelow hv, ihes path hpath hes, leavesAll]
    simp [text?]

/-! ## Nesting again -/

/-- Puts a value where keys lead to, into maps that are made if they are not there. -/
def nest : List String → Value → Value → Value
  | [], v, _ => v
  | k :: ks, v, m =>
    .map (m.entries.insert (.str k) (nest ks v ((m.entries.getText? k).getD .null)))

def nestAll (ls : List (List String × Value)) (m : Value) : Value :=
  ls.foldl (fun m l => nest l.1 l.2 m) m

/-- The parameters that flat ones stand for: their keys are split at the dots. -/
def renest (flat : Entries) : Value :=
  nestAll (flat.map fun e => (Text.splitAt (e.1.text?.getD "") '.', e.2)) (.map [])

lemma nestAll_below (k : String) {ls : List (List String × Value)} (hne : ls ≠ []) (m : Value) :
    nestAll (ls.map fun l => (k :: l.1, l.2)) m = .map (m.entries.insert (.str k)
      (nestAll ls ((m.entries.getText? k).getD .null))) := by
  induction ls generalizing m with
  | nil => exact absurd rfl hne
  | cons l ls ih =>
    by_cases hlast : ls = []
    · rw [hlast]
      rfl
    · have hstep : nestAll ((l :: ls).map fun l => (k :: l.1, l.2)) m =
          nestAll (ls.map fun l => (k :: l.1, l.2)) (nest (k :: l.1) l.2 m) := rfl
      rw [hstep, ih hlast, nest, entries, Entries.insert_insert, Entries.getText?_insert,
        if_pos (by simp [alike_str])]
      rfl

lemma nestAll_leaves : (∀ v, Nests v → leaves v ≠ [] ∧ nestAll (leaves v) .null = v) ∧
    ∀ es, NestsAll es → (es ≠ [] → leavesAll es ≠ []) ∧ ∀ m : Value,
      (es = [] → m = .map m.entries) → (∀ e ∈ m.entries, ∀ f ∈ es, e.1 ≠ f.1) →
      nestAll (leavesAll es) m = .map (m.entries ++ es) := by
  refine leaves.mutual_induct _ _ (fun es ih h => ?_) (fun v hv _ => ?_) (fun _ => ?_)
    (fun k v es ihv ihes h => ?_)
  · obtain ⟨hne, hall⟩ := ih h.2
    exact ⟨hne h.1, hall .null (fun hnil => absurd hnil h.1) (by simp [entries])⟩
  · rw [leaves]
    · exact ⟨cons_ne_nil _ _, rfl⟩
    · exact hv
  · refine ⟨fun hne => absurd rfl hne, fun m hm _ => ?_⟩
    rw [append_nil]
    exact hm rfl
  · obtain ⟨⟨t, rfl, -, hnew⟩, hv, hes⟩ := h
    obtain ⟨hne, hv⟩ := ihv hv
    obtain ⟨-, hall⟩ := ihes hes
    rw [leavesAll]
    refine ⟨fun _ => by simp [hne], fun m _ hm => ?_⟩
    have hnone : ∀ e ∈ m.entries, e.1.alike (.str t) = false := fun e he =>
      Bool.eq_false_iff.2 (mt alike_str_right.1 (hm e he (.str t, v) mem_cons_self))
    have hsplit : nestAll ((leaves v).map (fun l => ((str t).text?.toList ++ l.1, l.2)) ++
          leavesAll es) m =
        nestAll (leavesAll es) (nestAll ((leaves v).map fun l => (t :: l.1, l.2)) m) :=
      foldl_append
    rw [hsplit, nestAll_below t hne, Entries.getText?_eq_none hnone, Option.getD_none, hv,
      Entries.insert_of_new hnone, hall]
    · rw [entries, append_assoc]
      rfl
    · exact fun _ => rfl
    · intro e he f hf
      rcases mem_append.1 he with he | he
      · exact hm e he f (mem_cons_of_mem _ hf)
      · rw [mem_singleton.1 he]
        exact (hnew f hf).symm

lemma paths_leaves : (∀ v, Nests v → (∀ l ∈ leaves v, Parts l.1) ∧
      ((leaves v).map Prod.fst).Nodup) ∧
    ∀ es, NestsAll es → (∀ l ∈ leavesAll es, Parts l.1 ∧ ∃ t ∈ l.1.head?, ∃ e ∈ es, e.1 = .str t) ∧
      ((leavesAll es).map Prod.fst).Nodup := by
  refine leaves.mutual_induct _ _ (fun es ih h => ?_) (fun v hv _ => ?_) (fun _ => ?_)
    (fun k v es ihv ihes h => ?_)
  · rw [leaves]
    exact ⟨fun l hl => ((ih h.2).1 l hl).1, (ih h.2).2⟩
  · rw [leaves]
    · simp [Parts]
    · exact hv
  · simp [leavesAll]
  · obtain ⟨⟨t, rfl, ht, hnew⟩, hv, hes⟩ := h
    obtain ⟨hparts, hnodup⟩ := ihv hv
    obtain ⟨hall, hrest⟩ := ihes hes
    rw [leavesAll]
    constructor
    · intro l hl
      rcases mem_append.1 hl with hl | hl
      · obtain ⟨l, hmem, rfl⟩ := mem_map.1 hl
        exact ⟨forall_mem_cons.2 ⟨ht t (mem_singleton_self t), hparts l hmem⟩, t, rfl, _,
          mem_cons_self, rfl⟩
      · obtain ⟨hl, k, hk, e, he, hek⟩ := hall l hl
        exact ⟨hl, k, hk, e, mem_cons_of_mem _ he, hek⟩
    · rw [map_append, map_map]
      refine nodup_append.2 ⟨pairwise_map.2 ((pairwise_map.1 hnodup).imp ?_), hrest, ?_⟩
      · exact fun hne heq => hne (tail_eq_of_cons_eq heq)
      · -- A way through the first key is none of those through the others.
        rintro _ hp _ hl rfl
        obtain ⟨p, -, rfl⟩ := mem_map.1 hp
        obtain ⟨l, hl, hpath⟩ := mem_map.1 hl
        obtain ⟨-, k, hk, e, he, hek⟩ := hall l hl
        rw [hpath] at hk
        obtain rfl : t = k := Option.some.inj hk
        exact hnew e he hek

/-! ## Parameters of a node -/

lemma listsMap_iff (v : Value) : listsMap v ↔ ∃ vs es, v = .list vs ∧ .map es ∈ vs := by
  have hlist (vs : List Value) : hasMap vs ↔ ∃ es, .map es ∈ vs := by
    induction vs with
    | nil => simp [hasMap]
    | cons v vs ih => cases v <;> simp [hasMap, ih]
  cases v <;> simp [listsMap, hlist]

lemma run_flatParams {s : Session} {i : Nat} {n : Node} {es : Entries}
    (hn : s.nodes[i]? = some n) (hparams : n.params = .map es) :
    (flatParams i).run s = (lift (flatten (.str "") (.map es) [])).run s := by
  have hread : (nodeParams i).run s = .ok (.map es) s := by
    rw [nodeParams, run_bind_of_ok (run_getNode hn), run_bind_of_ok (x := get) (s := s) rfl, hparams]
    rfl
  rw [flatParams, run_bind_of_ok hread]

/-- Parameters whose keys hold no dots are flattened without a loss. Only a list with a map in it
cannot be flattened; otherwise there is one flat key for each leaf, and the flat keys, split at their
dots, lead back to the same maps with all keys in the same order. -/
theorem params_flattened_without_loss {s : Session} {i : Nat} {n : Node} {es : Entries}
    (hn : s.nodes[i]? = some n) (hparams : n.params = .map es) (h : NestsAll es) :
    ((flatParams i).run s =
        .error (.told .invalidValue "ROS2 does not support lists of dicts :(") s ↔
      ∃ l ∈ leavesAll es, ∃ vs fs, l.2 = .list vs ∧ .map fs ∈ vs) ∧
    ((¬ ∃ l ∈ leavesAll es, ∃ vs fs, l.2 = .list vs ∧ .map fs ∈ vs) →
      ∃ flat, (flatParams i).run s = .ok flat s ∧ renest flat = .map es ∧
        flat = (leavesAll es).map (fun l => (joined l.1, l.2)) ∧ (flat.map Prod.fst).Nodup) := by
  obtain ⟨hpaths, hnodup⟩ := paths_leaves.2 es h
  have hsplit {l : List String × Value} (hl : l ∈ leavesAll es) :
      Text.splitAt (".".intercalate l.1) '.' = l.1 := by
    obtain ⟨hparts, k, hk, -⟩ := hpaths l hl
    refine splitAt_joined hparts fun hnil => ?_
    rw [hnil] at hk
    cases hk
  have hkeys : (leavesAll es).Pairwise fun l m => ".".intercalate l.1 ≠ ".".intercalate m.1 :=
    (pairwise_map.1 hnodup).imp_of_mem fun hl hm hne heq =>
      hne (by rw [← hsplit hl, heq, hsplit hm])
  have hdistinct : Entries.Distinct ([] ++ (leavesAll es).map fun l => (joined l.1, l.2)) :=
    pairwise_map.2 (hkeys.imp fun hne => by simpa [joined, alike_str] using hne)
  have hany : ((leavesAll es).map fun l => (joined l.1, l.2)).any (fun e => listsMap e.2) ↔
      ∃ l ∈ leavesAll es, ∃ vs fs, l.2 = .list vs ∧ .map fs ∈ vs := by
    simp [listsMap_iff]
  rw [run_flatParams hn hparams, flatten_eq, flatLeaves, flatLeavesAll_joined h, flattened,
    Entries.update_of_distinct hdistinct, nil_append, ← hany]
  split
  · next hlists => exact ⟨⟨fun _ => hlists, fun _ => rfl⟩, fun hnone => absurd hlists hnone⟩
  · next hnone =>
    refine ⟨⟨fun hrun => (by cases hrun), fun hlists => absurd hlists hnone⟩, fun _ => ?_⟩
    refine ⟨_, rfl, ?_, rfl, pairwise_map.2 (pairwise_map.2
      (hkeys.imp fun hne heq => hne (str.inj heq)))⟩
    have hback : ((leavesAll es).map fun l => (joined l.1, l.2)).map
        (fun e => (Text.splitAt (e.1.text?.getD "") '.', e.2)) = (leavesAll es).map id := by
      rw [map_map]
      exact map_congr_left fun l hl => Prod.ext (hsplit hl) rfl
    rw [renest, hback, map_id,
      (nestAll_leaves.2 es h).2 (.map []) (fun _ => rfl) (by simp [entries])]
    rfl

def armGains : Entries :=
  [(.str "arm", .map [(.str "gain", .int 2), (.str "limits", .list [.int 1, .int 3])]),
    (.str "rate", .int 10)]

theorem params_flattened_without_loss_arm :
    let s : Session := { nodes := #[{ (default : Node) with params := .map armGains }] }
    ∃ flat, (flatParams 0).run s = .ok flat s ∧ renest flat = .map armGains := by
  intro s
  have hlists : ¬ ∃ l ∈ leavesAll armGains, ∃ vs fs, l.2 = .list vs ∧ .map fs ∈ vs := by
    simp [armGains, leavesAll, leaves]
  obtain ⟨flat, hrun, hback, -⟩ := (params_flattened_without_loss (s := s) (i := 0) rfl rfl
    (by simp [armGains, NestsAll, Nests, Parts])).2 hlists
  exact ⟨flat, hrun, hback⟩

end Launch

end Launchpad
