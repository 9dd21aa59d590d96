import Launchpad.Session.Groups
import Mathlib.Data.List.Infix
import Mathlib.Data.List.TakeWhile

/-!
Namespaces as texts. A namespace is read by its segments, the parts between slashes that are not
empty; what slashes stand at the ends, or how many stand together, makes no difference for them. The
namespace of a group has the segments of all groups on the way to it.
-/

namespace Launchpad

open Text

namespace Text

variable {sep : Char} {s : String}

lemma splitChars_ne_nil (sep : Char) (cs : Chars) : splitChars sep cs ≠ [] := by
  fun_induction splitChars sep cs <;> simp

lemma splitChars_append (sep : Char) (a b : Chars) :
    splitChars sep (a ++ sep :: b) = splitChars sep a ++ splitChars sep b := by
  induction a with
  | nil => simp [splitChars]
  | cons c a ih =>
    rw [List.cons_append, splitChars, splitChars, ih]
    split
    · rfl
    · cases hsplit : splitChars sep a with
      | nil => exact absurd hsplit (splitChars_ne_nil sep a)
      | cons p ps => rfl

lemma splitChars_of_not_mem {cs : Chars} (h : sep ∉ cs) : splitChars sep cs = [cs] := by
  induction cs with
  | nil => rfl
  | cons c cs ih =>
    obtain ⟨hc, hcs⟩ := not_or.1 (mt List.mem_cons.2 h)
    rw [splitChars, if_neg (Ne.symm hc), ih hcs]

lemma not_mem_of_mem_splitChars {cs p : Chars} (hp : p ∈ splitChars sep cs) : sep ∉ p := by
  fun_induction splitChars sep cs generalizing p with
  | case1 => simp_all
  | case2 cs ih =>
    rcases List.mem_cons.1 hp with rfl | hp
    · exact List.not_mem_nil
    · exact ih hp
  | case3 c cs hc hsplit ih => exact absurd hsplit (splitChars_ne_nil sep cs)
  | case4 c cs hc q qs hsplit ih =>
    rw [hsplit] at ih
    rcases List.mem_cons.1 hp with rfl | hp
    · have hq := ih List.mem_cons_self
      exact fun hmem => (List.mem_cons.1 hmem).elim (fun h => hc h.symm) hq
    · exact ih (List.mem_cons_of_mem q hp)

lemma not_mem_of_mem_splitAt {t : String} (h : t ∈ splitAt s sep) : sep ∉ t.toList := by
  obtain ⟨w, hw, rfl⟩ := List.mem_map.1 h
  rw [String.toList_ofList]
  exact not_mem_of_mem_splitChars hw

lemma splitAt_of_not_mem (h : sep ∉ s.toList) : splitAt s sep = [s] := by
  rw [splitAt, splitChars_of_not_mem h, List.map_singleton, String.ofList_toList]

lemma splitAt_append (a b : String) (sep : Char) :
    splitAt (a ++ String.singleton sep ++ b) sep = splitAt a sep ++ splitAt b sep := by
  have hchars : (a ++ String.singleton sep ++ b).toList = a.toList ++ sep :: b.toList := by simp
  rw [splitAt, hchars, splitChars_append, List.map_append]
  rfl

lemma splitChars_intercalate {parts : List Chars} (hne : parts ≠ [])
    (h : ∀ part ∈ parts, sep ∉ part) : splitChars sep ([sep].intercalate parts) = parts := by
  induction parts with
  | nil => exact absurd rfl hne
  | cons part parts ih =>
    obtain ⟨hpart, hparts⟩ := List.forall_mem_cons.1 h
    cases parts with
    | nil => rw [List.intercalate_singleton, splitChars_of_not_mem hpart]
    | cons next parts =>
      rw [List.intercalate_cons_cons, List.append_assoc, List.singleton_append, splitChars_append,
        splitChars_of_not_mem hpart, ih (List.cons_ne_nil _ _) hparts, List.singleton_append]

lemma dropWhile_surrounded {p : Char → Bool} {a m b : Chars} (ha : ∀ c ∈ a, p c = true)
    (hm : ∀ c ∈ m.head?, p c = false) :
    (a ++ m ++ b).dropWhile p = if m = [] then b.dropWhile p else m ++ b := by
  rw [List.append_assoc, List.dropWhile_append_of_pos ha]
  cases m with
  | nil => rfl
  | cons c m =>
    have hc : p c = false := hm c rfl
    rw [if_neg (List.cons_ne_nil c m), List.cons_append, List.dropWhile_cons_of_neg (by simp [hc])]

lemma trimBy_surrounded {p : Char → Bool} {a m b : Chars} (hs : s.toList = a ++ m ++ b)
    (ha : ∀ c ∈ a, p c = true) (hb : ∀ c ∈ b, p c = true) (hfirst : ∀ c ∈ m.head?, p c = false)
    (hlast : ∀ c ∈ m.getLast?, p c = false) : trimBy p s = String.ofList m := by
  rw [trimBy, trimLeftBy, trimRightBy, String.toList_ofList, hs, dropWhile_surrounded ha hfirst]
  have hb' : ∀ c ∈ b.reverse, p c = true := fun c hc => hb c (List.mem_reverse.1 hc)
  split
  · next hm =>
    have hnone : b.dropWhile p = [] := List.dropWhile_eq_nil_iff.2 hb
    rw [hnone, hm]
    rfl
  · next hm =>
    have hsome : m.reverse ≠ [] := mt List.reverse_eq_nil_iff.1 hm
    have hdrop := dropWhile_surrounded (b := []) hb' (m := m.reverse) (by simpa using hlast)
    rw [if_neg hsome, List.append_nil, List.append_nil] at hdrop
    rw [List.reverse_append, hdrop, List.reverse_reverse]

lemma splitAt_intercalate {parts : List String} (hne : parts ≠ [])
    (h : ∀ part ∈ parts, sep ∉ part.toList) :
    splitAt ((String.singleton sep).intercalate parts) sep = parts := by
  rw [splitAt, String.toList_intercalate, String.toList_singleton,
    splitChars_intercalate (by simpa using hne) (by simpa using h)]
  simp

end Text

/-- The parts between slashes that are not empty. -/
def segments (s : String) : List String :=
  (Text.splitAt s '/').filter (· ≠ "")

namespace Segments

open Text

def pieces (cs : Chars) : List Chars :=
  (splitChars '/' cs).filter (· ≠ [])

lemma segments_eq (s : String) : segments s = (pieces s.toList).map String.ofList := by
  have hempty : ∀ cs : Chars, String.ofList cs ≠ "" ↔ cs ≠ [] := by
    intro cs
    rw [← String.ofList_nil, Ne, Ne, String.ofList_inj]
  simp only [segments, splitAt, pieces, List.filter_map, Function.comp_def, hempty]

lemma pieces_append (a b : Chars) : pieces (a ++ '/' :: b) = pieces a ++ pieces b := by
  rw [pieces, splitChars_append, List.filter_append]
  rfl

@[simp]
lemma pieces_nil : pieces [] = [] :=
  rfl

@[simp]
lemma pieces_cons_slash (cs : Chars) : pieces ('/' :: cs) = pieces cs :=
  pieces_append [] cs

lemma pieces_of_slashes {a b : Chars} (h : ∀ c ∈ b, c = '/') : pieces (a ++ b) = pieces a := by
  induction b generalizing a with
  | nil => rw [List.append_nil]
  | cons c b ih =>
    obtain ⟨rfl, hb⟩ := List.forall_mem_cons.1 h
    have hnone : pieces ([] ++ b) = pieces [] := ih hb
    rw [pieces_append, ← List.nil_append b, hnone, pieces_nil, List.append_nil]

lemma flatMap_pieces_splitChars (cs : Chars) : (splitChars '/' cs).flatMap pieces = pieces cs := by
  have hpiece : ∀ p ∈ splitChars '/' cs, pieces p = if p ≠ [] then [p] else [] := by
    intro p hp
    rw [pieces, splitChars_of_not_mem (not_mem_of_mem_splitChars hp)]
    by_cases hempty : p = [] <;> simp [hempty]
  have hfilter : ∀ ps : List Chars, (∀ p ∈ ps, pieces p = if p ≠ [] then [p] else []) →
      ps.flatMap pieces = ps.filter (· ≠ []) := by
    intro ps hps
    induction ps with
    | nil => rfl
    | cons p ps ih =>
      obtain ⟨hp, hps⟩ := List.forall_mem_cons.1 hps
      rw [List.flatMap_cons, ih hps, hp]
      by_cases hempty : p = [] <;> simp [hempty]
  exact hfilter _ hpiece
/-! ## Slashes at the ends, and together -/

lemma pieces_dropWhile (cs : Chars) : pieces (cs.dropWhile (· == '/')) = pieces cs := by
  induction cs with
  | nil => rfl
  | cons c cs ih =>
    rw [List.dropWhile_cons]
    split
    · next hc =>
      rw [ih, eq_of_beq hc, pieces_cons_slash]
    · rfl

lemma pieces_trimBy (s : String) : pieces (trimBy (· == '/') s).toList = pieces s.toList := by
  let cs := s.toList.dropWhile (· == '/')
  have hsplit : (cs.reverse.dropWhile (· == '/')).reverse ++
      (cs.reverse.takeWhile (· == '/')).reverse = cs := by
    rw [← List.reverse_append, List.takeWhile_append_dropWhile, List.reverse_reverse]
  have hslashes : ∀ c ∈ (cs.reverse.takeWhile (· == '/')).reverse, c = '/' := by
    intro c hc
    have htake := List.mem_takeWhile_imp (List.mem_reverse.1 hc)
    exact eq_of_beq htake
  calc pieces (trimBy (· == '/') s).toList
      = pieces (cs.reverse.dropWhile (· == '/')).reverse := by
        simp only [trimBy, trimRightBy, trimLeftBy, String.toList_ofList, cs]
    _ = pieces cs := by rw [← pieces_of_slashes hslashes, hsplit]
    _ = pieces s.toList := pieces_dropWhile _

lemma pieces_append_joinSlashes (a cs : Chars) :
    pieces (a ++ joinSlashes cs) = pieces (a ++ cs) := by
  fun_induction joinSlashes cs generalizing a with
  | case1 cs ih => rw [ih, pieces_append, pieces_append, pieces_cons_slash]
  | case2 c cs _ ih =>
    rw [List.append_cons, ih, ← List.append_cons]
  | case3 => rfl

lemma head?_joinSlashes (cs : Chars) : (joinSlashes cs).head? = cs.head? := by
  fun_induction joinSlashes cs with
  | case1 cs ih => exact ih
  | case2 => rfl
  | case3 => rfl

lemma not_infix_joinSlashes (cs : Chars) : ¬ ['/', '/'] <:+: joinSlashes cs := by
  fun_induction joinSlashes cs with
  | case1 cs ih => exact ih
  | case2 c cs hone ih =>
    intro hinfix
    rcases List.infix_cons_iff.1 hinfix with hfirst | hrest
    · obtain ⟨rfl, hnext⟩ := List.cons_prefix_cons.1 hfirst
      have hhead : (joinSlashes cs).head? = some '/' := by
        obtain ⟨rest, hrest⟩ := hnext
        rw [← hrest]
        rfl
      rw [head?_joinSlashes] at hhead
      obtain ⟨rest, rfl⟩ := List.head?_eq_some_iff.1 hhead
      exact hone rest rfl rfl
    · exact ih hrest
  | case3 => simp

end Segments

open Segments

lemma flatMap_segments_ofList (cs : Chars) :
    ((splitChars '/' cs).map String.ofList).flatMap segments =
      (pieces cs).map String.ofList := by
  rw [List.flatMap_map, ← flatMap_pieces_splitChars, List.map_flatMap]
  simp only [segments_eq, String.toList_ofList]

lemma flatMap_segments_splitAt (s : String) :
    (splitAt (trimBy (· == '/') s) '/').flatMap segments = segments s := by
  rw [splitAt, flatMap_segments_ofList, pieces_trimBy, segments_eq]

/-- A namespace in its usual form. -/
structure IsNamespace (ns : String) : Prop where
  starts : Text.startsWith ns "/"
  single : ¬ ['/', '/'] <:+: ns.toList

def chainNamespace (names : List String) : String :=
  String.ofList (joinSlashes (String.join (names.map fun ns =>
    "/" ++ Text.trimBy (· == '/') ns)).toList)

lemma toList_join_parts (names : List String) :
    (String.join (names.map fun ns => "/" ++ trimBy (· == '/') ns)).toList =
      names.flatMap fun ns => '/' :: (trimBy (· == '/') ns).toList := by
  simp only [String.toList_join, List.flatMap_map, String.toList_append]
  rfl

lemma segments_chainNamespace (names : List String) :
    segments (chainNamespace names) = names.flatMap segments := by
  have hparts (a : Chars) :
      pieces (a ++ names.flatMap fun ns => '/' :: (trimBy (· == '/') ns).toList) =
        pieces a ++ names.flatMap fun ns => pieces ns.toList := by
    induction names generalizing a with
    | nil => simp
    | cons ns names ih =>
      rw [List.flatMap_cons, List.cons_append, pieces_append, ih, pieces_trimBy, List.flatMap_cons]
  have hjoined := pieces_append_joinSlashes [] (names.flatMap fun ns =>
    '/' :: (trimBy (· == '/') ns).toList)
  rw [List.nil_append, hparts, pieces_nil, List.nil_append] at hjoined
  rw [chainNamespace, segments_eq, String.toList_ofList, toList_join_parts, hjoined,
    List.map_flatMap]
  exact (congrArg names.flatMap (funext segments_eq)).symm

lemma isNamespace_chainNamespace {names : List String} (h : names ≠ []) :
    IsNamespace (chainNamespace names) := by
  refine ⟨?_, ?_⟩
  · obtain ⟨ns, names, rfl⟩ := List.exists_cons_of_ne_nil h
    have hhead : (chainNamespace (ns :: names)).toList.head? = some '/' := by
      rw [chainNamespace, String.toList_ofList, head?_joinSlashes, toList_join_parts]
      rfl
    obtain ⟨cs, hcs⟩ := List.head?_eq_some_iff.1 hhead
    rw [startsWith, hcs]
    rfl
  · rw [chainNamespace, String.toList_ofList]
    exact not_infix_joinSlashes _

end Launchpad
