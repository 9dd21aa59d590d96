import Launchpad.Session.State
import Mathlib.Data.List.Nodup
import Mathlib.Logic.Relation

/-!
The books of composition: what each component knows of itself, and which components each composer
has written down under which number. Loading and unloading change these books in a few ways, and the
books agree if a component has a number exactly when its composer has it under this number, and
exactly when it counts as not ended.
-/

namespace Launchpad

open List Option

namespace Value

lemma alike_int (a b : Int) : (Value.int a).alike (.int b) = (a == b) := by
  simp [alike, same, asInt?, bothNaN]

lemma alike_int_null (a : Int) : (Value.int a).alike .null = false := by
  simp [alike, same, asInt?, bothNaN]

end Value

namespace ComponentNode

variable {n : ComponentNode}

lemma isLoaded_iff : n.isLoaded ↔ n.componentId ≠ .null := by
  unfold isLoaded
  cases n.componentId <;> simp

/-- Numbers are whole, and a component that has one does not count as ended. -/
structure Tidy (n : ComponentNode) : Prop where
  number : n.isLoaded → ∃ z : Int, n.componentId = .int z
  event : n.isLoaded → n.terminated = false

def rehomed (k : Nat) (n : ComponentNode) : ComponentNode :=
  { n with composer := k }

lemma tidy_assigned (z : Int) (n : ComponentNode) : (n.assigned (.int z)).Tidy :=
  ⟨fun _ => ⟨z, rfl⟩, fun _ => rfl⟩

lemma tidy_released (n : ComponentNode) : n.released.Tidy :=
  ⟨nofun, nofun⟩

lemma tidy_unnumbered (n : ComponentNode) : n.unnumbered.Tidy :=
  ⟨nofun, nofun⟩

lemma unnumbered_eq (h : ¬ n.isLoaded) : n.unnumbered = n := by
  obtain ⟨composer, componentId, terminated⟩ := n
  obtain rfl : componentId = .null := by simpa [isLoaded_iff] using h
  rfl

end ComponentNode

namespace ComposerNode

def holder (n : ComposerNode) (v : Value) : Option Nat :=
  (n.components.find? fun e => e.1.alike v).map (·.2)

/-- A component is written down under a number, in the place of any other one. -/
def enter (v : Value) (c : Nat) (n : ComposerNode) : ComposerNode :=
  { n with components := if n.components.any fun e => e.1.alike v then
      n.components.map fun e => if e.1.alike v then (e.1, c) else e
    else n.components ++ [(v, c)] }

def erase (v : Value) (n : ComposerNode) : ComposerNode :=
  { n with components := n.components.filter fun e => !(e.1.alike v) }

/-- The numbers in a book are whole, and each of them is there once. -/
structure Tidy (n : ComposerNode) : Prop where
  keys : ∀ e ∈ n.components, ∃ z : Int, e.1 = .int z
  distinct : (n.components.map Prod.fst).Nodup

variable {n : ComposerNode}

lemma Tidy.holder_int_iff (h : n.Tidy) {z : Int} {c : Nat} :
    n.holder (.int z) = some c ↔ (.int z, c) ∈ n.components := by
  have key {e : Value × Nat} (hfind : n.components.find? (fun e => e.1.alike (.int z)) = some e) :
      e.1 = .int z := by
    obtain ⟨m, hm⟩ := h.keys e (mem_of_find?_eq_some hfind)
    have halike : e.1.alike (.int z) :=
      List.find?_some (p := fun e : Value × Nat => e.1.alike (.int z)) hfind
    rw [hm, Value.alike_int, beq_iff_eq] at halike
    rw [hm, halike]
  simp only [holder, map_eq_some_iff]
  constructor
  · rintro ⟨⟨v, d⟩, hfind, rfl⟩
    obtain rfl : v = .int z := key hfind
    exact mem_of_find?_eq_some hfind
  · intro hmem
    obtain ⟨e, hfind⟩ : ∃ e, n.components.find? (fun e => e.1.alike (.int z)) = some e := by
      rw [← isSome_iff_exists, List.find?_isSome]
      exact ⟨_, hmem, by simp [Value.alike_int]⟩
    obtain rfl : e = (.int z, c) :=
      inj_on_of_nodup_map h.distinct (mem_of_find?_eq_some hfind) hmem (key hfind)
    exact ⟨_, hfind, rfl⟩

lemma Tidy.holder_null (h : n.Tidy) : n.holder .null = none := by
  simp only [holder, map_eq_none_iff, List.find?_eq_none]
  intro e he
  obtain ⟨m, hm⟩ := h.keys e he
  rw [hm, Value.alike_int_null]
  exact Bool.false_ne_true

lemma not_alike_of_holder {v : Value} (h : n.holder v = none) :
    ∀ e ∈ n.components, ¬ e.1.alike v := by
  simpa [holder] using h

lemma components_enter {v : Value} (h : n.holder v = none) (c : Nat) :
    (n.enter v c).components = n.components ++ [(v, c)] := by
  have hany : ¬ n.components.any fun e => e.1.alike v := by
    simpa using not_alike_of_holder h
  simp [enter, hany]

lemma Tidy.enter (h : n.Tidy) {z : Int} (hfresh : n.holder (.int z) = none) (c : Nat) :
    (n.enter (.int z) c).Tidy := by
  constructor
  · rw [components_enter hfresh]
    simp only [mem_append, mem_singleton]
    rintro e (he | rfl)
    · exact h.keys e he
    · exact ⟨z, rfl⟩
  · rw [components_enter hfresh, map_append, map_singleton, nodup_append]
    refine ⟨h.distinct, nodup_singleton _, ?_⟩
    rintro v hv w hw rfl
    obtain rfl : v = .int z := mem_singleton.1 hw
    obtain ⟨e, he, hkey⟩ := mem_map.1 hv
    refine not_alike_of_holder hfresh e he ?_
    rw [hkey, Value.alike_int, beq_self_eq_true]

lemma Tidy.erase (h : n.Tidy) (v : Value) : (n.erase v).Tidy :=
  ⟨fun e he => h.keys e (mem_of_mem_filter he),
    h.distinct.sublist (filter_sublist.map _)⟩

end ComposerNode

/-- What components know of themselves, and composers of their components. -/
structure Books where
  component : Nat → Option ComponentNode
  composer : Nat → Option ComposerNode

namespace Books

variable {f : ComponentNode → ComponentNode} {v : Value}

def onComponent (b : Books) (c : Nat) (f : ComponentNode → ComponentNode) : Books :=
  { b with component := fun i => if i = c then (b.component i).map f else b.component i }

def onComposer (b : Books) (k : Nat) (f : ComposerNode → ComposerNode) : Books :=
  { b with composer := fun i => if i = k then (b.composer i).map f else b.composer i }

/-- Is a component in the book of its composer, under its number? -/
def Maps (b : Books) (c : Nat) (n : ComponentNode) : Prop :=
  ∃ k, b.composer n.composer = some k ∧ k.holder n.componentId = some c

/-- Books with all numbers in order, whether they agree or not. -/
structure Sound (b : Books) : Prop where
  component : ∀ c n, b.component c = some n → n.Tidy
  composer : ∀ k n, b.composer k = some n → n.Tidy

/-- Books in which a component has a number exactly if its composer has it under this number, and
exactly if it does not count as ended. -/
structure Agree (b : Books) : Prop extends Sound b where
  maps : ∀ c n, b.component c = some n → n.isLoaded → b.Maps c n
  loaded : ∀ c n, b.component c = some n → n.terminated = false → n.isLoaded

variable {b : Books} {c d k : Nat} {n : ComponentNode}

lemma component_self (h : b.component c = some n) :
    (b.onComponent c f).component c = some (f n) := by
  simp [onComponent, h]

lemma component_ne (h : d ≠ c) : (b.onComponent c f).component d = b.component d := by
  simp [onComponent, h]

variable {kn : ComposerNode} {m : ComponentNode}

lemma composer_self {f : ComposerNode → ComposerNode} (h : b.composer k = some kn) :
    (b.onComposer k f).composer k = some (f kn) := by
  simp [onComposer, h]

lemma composer_ne {f : ComposerNode → ComposerNode} {i : Nat} (h : i ≠ k) :
    (b.onComposer k f).composer i = b.composer i := by
  simp [onComposer, h]

lemma onComponent_eq_self (h : ∀ n, b.component c = some n → f n = n) : b.onComponent c f = b := by
  obtain ⟨component, composer⟩ := b
  simp only [onComponent, mk.injEq, and_true]
  funext i
  split
  · next hi =>
    subst hi
    cases hn : component i with
    | none => rfl
    | some n => exact congrArg some (h n hn)
  · rfl

lemma component_cases (h : (b.onComponent c f).component d = some n) :
    (d ≠ c ∧ b.component d = some n) ∨ (d = c ∧ ∃ m, b.component c = some m ∧ n = f m) := by
  by_cases hd : d = c
  · subst hd
    simp only [onComponent, if_pos, map_eq_some_iff] at h
    obtain ⟨m, hm, rfl⟩ := h
    exact .inr ⟨rfl, m, hm, rfl⟩
  · exact .inl ⟨hd, component_ne hd ▸ h⟩

lemma composer_cases {f : ComposerNode → ComposerNode} {i : Nat} {n : ComposerNode}
    (h : (b.onComposer k f).composer i = some n) :
    (i ≠ k ∧ b.composer i = some n) ∨ (i = k ∧ ∃ m, b.composer k = some m ∧ n = f m) := by
  by_cases hi : i = k
  · subst hi
    simp only [onComposer, if_pos, map_eq_some_iff] at h
    obtain ⟨m, hm, rfl⟩ := h
    exact .inr ⟨rfl, m, hm, rfl⟩
  · exact .inl ⟨hi, composer_ne hi ▸ h⟩

lemma Sound.onComponent (h : b.Sound) (hf : ∀ n : ComponentNode, n.Tidy → (f n).Tidy) :
    (b.onComponent c f).Sound := by
  refine ⟨fun d n hd => ?_, h.composer⟩
  rcases component_cases hd with ⟨-, hd⟩ | ⟨-, m, hm, rfl⟩
  · exact h.component d n hd
  · exact hf m (h.component c m hm)

lemma Sound.onComposer (h : b.Sound) {f : ComposerNode → ComposerNode}
    (hf : ∀ n, b.composer k = some n → n.Tidy → (f n).Tidy) : (b.onComposer k f).Sound := by
  refine ⟨h.component, fun i n hi => ?_⟩
  rcases composer_cases hi with ⟨-, hi⟩ | ⟨-, m, hm, rfl⟩
  · exact h.composer i n hi
  · exact hf m hm (h.composer k m hm)

lemma Sound.isLoaded_of_maps (h : b.Sound) (hmaps : b.Maps c n) : n.isLoaded := by
  obtain ⟨k, hk, hholder⟩ := hmaps
  rw [ComponentNode.isLoaded_iff]
  intro hnull
  rw [hnull, (h.composer _ k hk).holder_null] at hholder
  cases hholder

/-! ## Loading -/

def rehome (b : Books) (c k : Nat) : Books :=
  b.onComponent c (·.rehomed k)

def assign (b : Books) (c : Nat) (v : Value) : Books :=
  b.onComponent c (·.assigned v)

def load (b : Books) (k c : Nat) (v : Value) : Books :=
  ((b.rehome c k).assign c v).onComposer k (·.enter v c)

lemma rehome_self (hn : b.component c = some n) : b.rehome c n.composer = b :=
  onComponent_eq_self fun m hm => by
    obtain rfl : n = m := mem_unique hn hm
    rfl

lemma Sound.rehome (h : b.Sound) (c k : Nat) : (b.rehome c k).Sound :=
  h.onComponent fun _ hn => ⟨hn.number, hn.event⟩

lemma Sound.assign (h : b.Sound) (c : Nat) (z : Int) : (b.assign c (.int z)).Sound :=
  h.onComponent fun n _ => n.tidy_assigned z

lemma Sound.load (h : b.Sound) {z : Int}
    (hfresh : ∀ n, b.composer k = some n → n.holder (.int z) = none) :
    (b.load k c (.int z)).Sound :=
  ((h.rehome c k).assign c z).onComposer fun n hn htidy => htidy.enter (hfresh n hn) c

lemma Agree.rehome (h : b.Agree)
    (hfree : ∀ n, b.component c = some n → n.isLoaded → n.composer = k) : (b.rehome c k).Agree := by
  refine ⟨h.toSound.rehome c k, fun d n hd hloaded => ?_, fun d n hd hevent => ?_⟩
  · rcases component_cases hd with ⟨-, hd⟩ | ⟨rfl, m, hm, rfl⟩
    · exact h.maps d n hd hloaded
    · obtain rfl := hfree m hm hloaded
      exact h.maps d m hm hloaded
  · rcases component_cases hd with ⟨-, hd⟩ | ⟨-, m, hm, rfl⟩
    · exact h.loaded d n hd hevent
    · exact h.loaded c m hm hevent

lemma component_load (h : (b.load k c v).component d = some m) :
    (d ≠ c ∧ b.component d = some m) ∨
      (d = c ∧ ∃ n : ComponentNode, m = (n.rehomed k).assigned v) := by
  rcases component_cases (b := b.rehome c k) h with ⟨hd, h⟩ | ⟨rfl, n, hn, rfl⟩
  · exact .inl ⟨hd, component_ne hd ▸ h⟩
  · rcases component_cases hn with ⟨hne, -⟩ | ⟨-, n, -, rfl⟩
    · exact absurd rfl hne
    · exact .inr ⟨rfl, n, rfl⟩

lemma assign_load (b : Books) (k c : Nat) (v : Value) :
    (b.load k c v).assign c v = b.load k c v := by
  refine onComponent_eq_self fun n hn => ?_
  rcases component_load hn with ⟨hne, -⟩ | ⟨-, m, rfl⟩
  · exact absurd rfl hne
  · rfl

lemma Agree.load (h : b.Agree) (hk : b.composer k = some kn) {z : Int}
    (hfresh : kn.holder (.int z) = none) : (b.load k c (.int z)).Agree := by
  have hcomposer {n : ComposerNode} (hn : b.composer k = some n) : n = kn :=
    mem_unique hn hk
  have hsound : (b.load k c (.int z)).Sound :=
    h.toSound.load fun n hn => hcomposer hn ▸ hfresh
  have hk' : (b.load k c (.int z)).composer k = some (kn.enter (.int z) c) := composer_self hk
  have htidy := hsound.composer k _ hk'
  refine ⟨hsound, fun d n hd hloaded => ?_, fun d n hd hevent => ?_⟩
  · rcases component_load hd with ⟨hne, hd⟩ | ⟨rfl, n, rfl⟩
    · obtain ⟨y, hy⟩ := (h.component d n hd).number hloaded
      obtain ⟨kd, hkd, hholder⟩ := h.maps d n hd hloaded
      by_cases hsame : n.composer = k
      · rw [hsame] at hkd
        obtain rfl := hcomposer hkd
        refine ⟨_, by rw [hsame]; exact hk', ?_⟩
        rw [hy] at hholder ⊢
        rw [htidy.holder_int_iff, ComposerNode.components_enter hfresh]
        exact mem_append_left _ (((h.composer k _ hk).holder_int_iff).1 hholder)
      · exact ⟨kd, (composer_ne hsame).trans hkd, hholder⟩
    · refine ⟨_, hk', htidy.holder_int_iff.2 ?_⟩
      rw [ComposerNode.components_enter hfresh]
      simp
  · rcases component_load hd with ⟨hne, hd⟩ | ⟨-, n, rfl⟩
    · exact h.loaded d n hd hevent
    · rfl

/-! ## Unloading -/

def release (b : Books) (c : Nat) : Books :=
  b.onComponent c (·.released)

def unnumber (b : Books) (c : Nat) : Books :=
  b.onComponent c (·.unnumbered)

def erase (b : Books) (k : Nat) (v : Value) : Books :=
  b.onComposer k (·.erase v)

/-- The number of a component that is given as a node or by its number, and the node. -/
def target (b : Books) : Value → Value × Option Nat
  | .ref (.node c) => match b.component c with
    | some n => (n.componentId, some c)
    | none => (.ref (.node c), none)
  | v => (v, none)

/-- A composer strikes out a number. The component knows of it only if it was given itself. -/
def forget (b : Books) (k : Nat) (v : Value) : Option Nat → Books
  | some c => (b.release c).erase k v
  | none => b.erase k v

lemma release_forget (b : Books) (c k : Nat) (v : Value) :
    (b.forget k v (some c)).release c = b.forget k v (some c) := by
  refine onComponent_eq_self fun n hn => ?_
  rcases component_cases (b := b) hn with ⟨hne, -⟩ | ⟨-, m, -, rfl⟩
  · exact absurd rfl hne
  · rfl

lemma Sound.release (h : b.Sound) (c : Nat) : (b.release c).Sound :=
  h.onComponent fun n _ => n.tidy_released

lemma Sound.unnumber (h : b.Sound) (c : Nat) : (b.unnumber c).Sound :=
  h.onComponent fun n _ => n.tidy_unnumbered

lemma Sound.erase (h : b.Sound) (k : Nat) (v : Value) : (b.erase k v).Sound :=
  h.onComposer fun _ _ hn => hn.erase v

lemma Agree.release (h : b.Agree) (c : Nat) : (b.release c).Agree := by
  refine ⟨h.toSound.release c, fun d n hd hloaded => ?_, fun d n hd hevent => ?_⟩
  · rcases component_cases hd with ⟨-, hd⟩ | ⟨-, m, -, rfl⟩
    · exact h.maps d n hd hloaded
    · cases hloaded
  · rcases component_cases hd with ⟨-, hd⟩ | ⟨-, m, -, rfl⟩
    · exact h.loaded d n hd hevent
    · cases hevent

lemma Agree.erase (h : b.Agree)

    (hfree : ∀ d n, b.component d = some n → n.isLoaded → n.composer = k → ¬ n.componentId.alike v) :
    (b.erase k v).Agree := by
  have hsound := h.toSound.erase k v
  refine ⟨hsound, fun d n hd hloaded => ?_, h.loaded⟩
  obtain ⟨z, hz⟩ := (h.component d n hd).number hloaded
  obtain ⟨kd, hkd, hholder⟩ := h.maps d n hd hloaded
  by_cases hsame : n.composer = k
  · have hkd' : (b.erase k v).composer n.composer = some (kd.erase v) := by
      rw [hsame] at hkd ⊢
      exact composer_self hkd
    refine ⟨_, hkd', ?_⟩
    have halike := hfree d n hd hloaded hsame
    rw [hz] at hholder halike ⊢
    rw [(hsound.composer _ _ hkd').holder_int_iff]
    refine mem_filter.2 ⟨((h.composer _ kd hkd).holder_int_iff).1 hholder, ?_⟩
    simpa using halike
  · exact ⟨kd, (composer_ne hsame).trans hkd, hholder⟩

lemma Sound.forget (h : b.Sound) (k : Nat) (v : Value) (node : Option Nat) :
    (b.forget k v node).Sound := by
  cases node with
  | none => exact h.erase k v
  | some c => exact (h.release c).erase k v

lemma Agree.forget (h : b.Agree) {node : Option Nat}
    (hfree : ∀ d n, b.component d = some n → n.isLoaded → n.composer = k → n.componentId.alike v →
      node = some d) : (b.forget k v node).Agree := by
  cases node with
  | none =>
    refine h.erase fun d n hd hn hk halike => ?_
    cases hfree d n hd hn hk halike
  | some c =>
    refine (h.release c).erase fun d n hd hn hk halike => ?_
    rcases component_cases hd with ⟨hne, hd⟩ | ⟨-, m, -, rfl⟩
    · exact hne (some.inj (hfree d n hd hn hk halike)).symm
    · cases hn

lemma Agree.eq_of_alike (h : b.Agree) (hc : b.component c = some n)
    (hd : b.component d = some m) (hn : n.isLoaded) (hm : m.isLoaded)
    (hsame : m.composer = n.composer) (halike : m.componentId.alike n.componentId) : d = c := by
  obtain ⟨z, hz⟩ := (h.component c n hc).number hn
  obtain ⟨w, hw⟩ := (h.component d m hd).number hm
  obtain ⟨k, hk, hholder⟩ := h.maps c n hc hn
  obtain ⟨k', hk', hholder'⟩ := h.maps d m hd hm
  obtain rfl : k = k' := some.inj (hk.symm.trans (hsame ▸ hk'))
  rw [hw, hz, Value.alike_int, beq_iff_eq] at halike
  rw [hw, halike, ← hz, hholder] at hholder'
  exact (some.inj hholder').symm

lemma Agree.unload (h : b.Agree) (hc : b.component c = some n) (hn : n.isLoaded) :
    (b.forget n.composer n.componentId (some c)).Agree :=
  h.forget fun _ _ hd hm hsame halike =>
    congrArg some (h.eq_of_alike hc hd hn hm hsame halike).symm

end Books

end Launchpad
