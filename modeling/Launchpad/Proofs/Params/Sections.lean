import Launchpad.Proofs.Command.RoundTrip

/-!
The parameters that a file holds for a name. Where several sections match the name, what later ones
hold overrides what earlier ones hold, but their wrappers count as one more entry: only the last one
is opened, and its parameters override those of all sections.
-/

namespace Launchpad

open List

variable {v : Value} {k name : String}

lemma Value.alike_str_right : v.alike (.str k) = true ↔ v = .str k := by
  cases v <;> simp [alike, same, bothNaN, sameReal, asInt?]

lemma Value.alike_str_left (h : (Value.str k).alike v = true) : v = .str k := by
  cases v <;> simp_all [alike, same, bothNaN, sameReal, asInt?]

lemma Value.alike_str_congr {w : Value} (h : v.alike w = true) (k : String) :
    v.alike (.str k) = w.alike (.str k) := by
  rw [Bool.eq_iff_iff, alike_str_right, alike_str_right]
  constructor
  · rintro rfl
    exact alike_str_left h
  · rintro rfl
    exact alike_str_right.1 h

namespace Entries

@[simp] theorem getText?_nil (k : String) : getText? [] k = none := rfl

lemma getText?_cons (e : Value × Value) (es : Entries) (k : String) :
    getText? (e :: es) k = if e.1.alike (.str k) then some e.2 else getText? es k := by
  rw [getText?, get?, List.find?_cons]
  cases e.1.alike (.str k) <;> rfl

lemma getText?_eq_none {es : Entries} (h : ∀ e ∈ es, e.1.alike (.str k) = false) :
    es.getText? k = none := by
  rw [getText?, get?, List.find?_eq_none.2 fun e he => by simp [h e he]]
  rfl

lemma getText?_insert (es : Entries) (key v : Value) (k : String) :
    getText? (es.insert key v) k = if key.alike (.str k) then some v else es.getText? k := by
  induction es with
  | nil => exact getText?_cons (key, v) [] k
  | cons e es ih =>
    rw [insert]
    split
    · next halike =>
      rw [getText?_cons, getText?_cons, Value.alike_str_congr halike]
      split <;> rfl
    · next halike =>
      rw [getText?_cons, getText?_cons, ih]
      -- a text that both keys are like would make them alike
      split <;> split
      · next he hkey =>
        rw [Value.alike_str_right] at he hkey
        rw [he, hkey, Value.alike_str] at halike
        simp at halike
      all_goals rfl

lemma getText?_update {fs : Entries} (hfs : fs.Distinct) (es : Entries) (k : String) :
    getText? (es.update fs) k = (fs.getText? k).or (es.getText? k) := by
  induction fs generalizing es with
  | nil => rfl
  | cons f fs ih =>
    obtain ⟨hf, hfs⟩ := pairwise_cons.1 hfs
    have hstep : es.update (f :: fs) = (es.insert f.1 f.2).update fs := rfl
    rw [hstep, ih hfs, getText?_insert, getText?_cons]
    split
    · next hk =>
      have hnone : getText? fs k = none := getText?_eq_none fun e he => by
        refine Bool.eq_false_iff.2 fun hek => absurd (hf e he) ?_
        rw [Value.alike_str_right.1 hk, Value.alike_str_right.1 hek, Value.alike_str]
        simp
      rw [hnone]
      rfl
    · rfl

lemma isEmpty_update (es fs : Entries) : (es.update fs).isEmpty = (es.isEmpty && fs.isEmpty) := by
  induction fs generalizing es with
  | nil => exact (Bool.and_true _).symm
  | cons f fs ih =>
    have hstep : es.update (f :: fs) = (es.insert f.1 f.2).update fs := rfl
    have hinsert : (es.insert f.1 f.2).isEmpty = false := by
      cases es with
      | nil => rfl
      | cons e es => rw [insert]; split <;> rfl
    rw [hstep, ih, hinsert, isEmpty_cons, Bool.and_false, Bool.false_and]

lemma getText?_erase (es : Entries) (key k : String) :
    getText? (es.erase (.str key)) k = if k = key then none else es.getText? k := by
  split
  · next heq =>
    exact getText?_eq_none fun e he => by
      rw [heq]
      simpa using (mem_filter.1 he).2
  · next hne =>
    rw [getText?, getText?, get?, get?, erase, List.find?_filter]
    congr 2
    funext e
    cases hk : e.1.alike (.str k) with
    | false => simp
    | true => rw [Value.alike_str_right.1 hk, Value.alike_str]; simp [hne]

end Entries

namespace Launch

variable {α β : Type} {sections : List Section}

structure Section where
  name : String
  entries : Entries
  /-- What the section holds in its wrapper, if it has one. -/
  wrapped : Option Entries
  distinct : entries.Distinct
  wraps : entries.getText? paramsKey = wrapped.map .map
  distinct_wrapped : ∀ es ∈ wrapped, es.Distinct

/-- What the last one that has something has. -/
def lastly {α β : Type} (f : α → Option β) : List α → Option β
  | [] => none
  | x :: xs => (lastly f xs).or (f x)

lemma exists_of_lastly_eq_some {f : α → Option β} {xs : List α} {b : β}
    (h : lastly f xs = some b) : ∃ x ∈ xs, f x = some b := by
  induction xs with
  | nil => cases h
  | cons x xs ih =>
    rcases Option.or_eq_some_iff.1 h with hlater | ⟨-, hx⟩
    · obtain ⟨y, hy, hfy⟩ := ih hlater
      exact ⟨y, mem_cons_of_mem x hy, hfy⟩
    · exact ⟨x, mem_cons_self, hx⟩

lemma lastly_eq_none {f : α → Option β} {xs : List α} (h : ∀ x ∈ xs, f x = none) :
    lastly f xs = none :=
  Option.eq_none_iff_forall_ne_some.2 fun b hb => by
    obtain ⟨x, hx, hfx⟩ := exists_of_lastly_eq_some hb
    simp [h x hx] at hfx

lemma lastly_map {γ : Type} (f : α → Option β) (g : β → γ) (xs : List α) :
    lastly (fun x => (f x).map g) xs = (lastly f xs).map g := by
  induction xs with
  | nil => rfl
  | cons x xs ih => rw [lastly, lastly, ih, Option.map_or]

namespace Section

def entry (x : Section) : Value × Value :=
  (.str x.name, .map x.entries)

def pattern (x : Section) : Try Pattern.Compiled :=
  Pattern.compile (sectionPattern x.name)

lemma compile_name (x : Section) : Pattern.compile (sectionPattern x.name) = x.pattern := rfl

-- the pattern's reader would be run to no end
attribute [irreducible] pattern

def hits (name : String) (x : Section) : Bool :=
  match x.pattern with
  | .ok p => (Pattern.matchAt p.pattern name).isSome
  | .error _ => false

lemma exists_pattern {x : Section} (h : x.hits name = true) : ∃ p, x.pattern = .ok p := by
  unfold hits at h
  split at h
  · next p hp => exact ⟨p, hp⟩
  · cases h

/-- The parameter that the section has under a name, in its wrapper or beside it. -/
def param? (k : String) (x : Section) : Option Value :=
  if k = paramsKey then none
  else (x.wrapped.bind (·.getText? k)).or (x.entries.getText? k)

/-- The first section has no wrapper, or one that the second section leaves as it is: it has no
wrapper itself and sets none of the parameters in it. -/
def Clears (x y : Section) : Prop :=
  ∀ es ∈ x.wrapped, y.wrapped = none ∧ ∀ k, (es.getText? k).isSome → y.entries.getText? k = none

end Section

open Section

def merged (acc : Entries) (xs : List Section) : Entries :=
  xs.foldl (fun acc x => acc.update x.entries) acc

lemma getText?_merged (acc : Entries) (xs : List Section) (k : String) :
    (merged acc xs).getText? k = (lastly (·.entries.getText? k) xs).or (acc.getText? k) := by
  induction xs generalizing acc with
  | nil => rfl
  | cons x xs ih =>
    have hstep : merged acc (x :: xs) = merged (acc.update x.entries) xs := rfl
    rw [hstep, ih, Entries.getText?_update x.distinct, lastly, Option.or_assoc]

lemma isEmpty_merged (acc : Entries) (xs : List Section) :
    (merged acc xs).isEmpty = (acc.isEmpty && xs.all (·.entries.isEmpty)) := by
  induction xs generalizing acc with
  | nil => exact (Bool.and_true _).symm
  | cons x xs ih =>
    have hstep : merged acc (x :: xs) = merged (acc.update x.entries) xs := rfl
    rw [hstep, ih, Entries.isEmpty_update, all_cons, Bool.and_assoc]

lemma lastly_param? {xs : List Section} (hxs : xs.Pairwise Clears) (hk : k ≠ paramsKey) :
    ((lastly wrapped xs).bind (·.getText? k)).or
      (lastly (·.entries.getText? k) xs) = lastly (param? k) xs := by
  induction xs with
  | nil => rfl
  | cons x xs ih =>
    obtain ⟨hx, hxs⟩ := pairwise_cons.1 hxs
    simp only [lastly, param?, if_neg hk]
    rw [← ih hxs]
    cases hwrapped : x.wrapped with
    | none => simp [Option.or_assoc]
    | some es =>
      have hnone : lastly wrapped xs = none :=
        lastly_eq_none fun y hy => (hx y hy es hwrapped).1
      rw [hnone]
      -- the parameters of the wrapper are not set behind it, so that they may come first
      cases hes : es.getText? k with
      | none => simp [hes]
      | some v =>
        have hlater : lastly (·.entries.getText? k) xs = none :=
          lastly_eq_none fun y hy => (hx y hy es hwrapped).2 k (by simp [hes])
        simp [hes, hlater]

lemma run_holdsParams (es : Entries) (s : Session) :
    (holdsParams (.map es)).run s = .ok (es.getText? paramsKey).isSome s := by
  rfl

lemma run_unpackParams {es : Entries} {wrapped : Option Entries}
    (h : es.getText? paramsKey = wrapped.map .map) (s : Session) :
    (unpackParams (.map es)).run s = .ok (.map (wrapped.elim es fun inner =>
      (es.update inner).erase (.str paramsKey))) s := by
  rw [unpackParams, run_bind_of_ok (run_holdsParams es s), h]
  cases wrapped <;> rfl

lemma sectionMatches_name (x : Section) (name : String) :
    sectionMatches (.str x.name) name = lift (x.pattern.map fun p =>
      (Pattern.matchAt p.pattern name).isSome) := by
  have hstep (c : Try Pattern.Compiled) :
      (do return (Pattern.matchAt (← lift c).pattern name).isSome) =
        lift (c.map fun p => (Pattern.matchAt p.pattern name).isSome) := by
    cases c <;> rfl
  rw [← hstep, sectionMatches, x.compile_name]

lemma run_matchingSections (h : ∀ x ∈ sections, ∃ p, x.pattern = .ok p) (acc : Entries)
    (s : Session) :
    (matchingSections name acc (sections.map entry)).run s =
      .ok (merged acc (sections.filter (·.hits name))) s := by
  induction sections generalizing acc with
  | nil => rfl
  | cons x xs ih =>
    obtain ⟨⟨p, hp⟩, hxs⟩ := forall_mem_cons.1 h
    have hhits : x.hits name = (Pattern.matchAt p.pattern name).isSome := by
      simp only [hits, hp]
    have hmatches : (sectionMatches (.str x.name) name).run s = .ok (x.hits name) s := by
      rw [sectionMatches_name, hp, hhits]
      rfl
    rw [map_cons, entry, matchingSections, run_bind_of_ok hmatches]
    cases hx : x.hits name with
    | false => simpa [hx] using ih hxs acc
    | true =>
      have hstep := ih hxs (acc.update x.entries)
      rw [filter_cons_of_pos hx]
      exact hstep

lemma matchingSections_fails (name : String) {x : Section} {e : Stop} (hx : x ∈ sections)
    (he : x.pattern = .error e) (acc : Entries) (s : Session) :
    ∃ e, (matchingSections name acc (sections.map entry)).run s = .error e s := by
  induction sections generalizing acc with
  | nil => cases hx
  | cons y ys ih =>
    rw [map_cons, entry, matchingSections, sectionMatches_name]
    cases hy : y.pattern with
    | error e' => exact ⟨e', rfl⟩
    | ok p =>
      have hys : x ∈ ys := (mem_cons.1 hx).resolve_left fun heq => by simp [← heq, he] at hy
      change ∃ e, EStateM.run (if (Pattern.matchAt p.pattern name).isSome = true then _ else _) s = _
      split
      · exact ih hys _
      · exact ih hys acc

lemma run_loadParams {package file subdir target : Value} {s t : Session}
    (hread : (readParams package file subdir).run s = .ok (.map (sections.map entry)) t)
    (htop : ∀ x ∈ sections, x.name ≠ paramsKey) (htarget : target.truthy)
    (hname : (sectionName target).run t = .ok name t) :
    (loadParams package file subdir target).run s =
      (matchingSections name [] (sections.map entry) >>= fun found =>
        if found.isEmpty then told .invalidValue s!"No param section matching '{name}'"
        else unpackParams (.map found)).run t := by
  have hnot : Entries.getText? (sections.map entry) paramsKey = none :=
    Entries.getText?_eq_none fun e he => by
      obtain ⟨x, hx, rfl⟩ := mem_map.1 he
      rw [entry, Value.alike_str]
      simpa using htop x hx
  rw [loadParams, run_bind_of_ok hread, paramsFor, run_bind_of_ok (run_holdsParams _ t), hnot]
  simp only [targetParams, htarget, Option.isSome_none, Bool.not_true, Bool.false_eq_true, if_false,
    bind_assoc]
  rw [run_bind_of_ok hname]
  refine congrArg (fun f => (matchingSections name [] _ >>= f).run t) (funext fun found => ?_)
  split <;> rfl

def opened (matching : List Section) : Entries :=
  (lastly Section.wrapped matching).elim (merged [] matching) fun inner =>
    ((merged [] matching).update inner).erase (.str paramsKey)

lemma run_unpackParams_merged (matching : List Section) (s : Session) :
    (unpackParams (.map (merged [] matching))).run s = .ok (.map (opened matching)) s := by
  apply run_unpackParams
  rw [getText?_merged, Entries.getText?_nil, Option.or_none, ← lastly_map]
  exact congrArg (lastly · matching) (funext fun x => x.wraps)

lemma getText?_opened (matching : List Section) (k : String) :
    (opened matching).getText? k = if k = paramsKey then none else
      ((lastly wrapped matching).bind (·.getText? k)).or
        (lastly (·.entries.getText? k) matching) := by
  have hmerged (k : String) :
      (merged [] matching).getText? k = lastly (·.entries.getText? k) matching := by
    rw [getText?_merged, Entries.getText?_nil, Option.or_none]
  rw [opened]
  cases hwrapped : lastly wrapped matching with
  | none =>
    split
    · next hk =>
      rw [Option.elim_none, hmerged, hk, show (fun x : Section => x.entries.getText? paramsKey) = _
        from funext wraps, lastly_map, hwrapped, Option.map_none]
    · exact hmerged k
  | some inner =>
    obtain ⟨x, -, hx⟩ := exists_of_lastly_eq_some hwrapped
    rw [Option.elim_some, Entries.getText?_erase, Entries.getText?_update (x.distinct_wrapped inner hx),
      hmerged, Option.bind_some]

/-- What is loaded from a file of sections. The last wrapper of the matching sections is opened, and
its parameters override those beside the wrappers, of which the last one counts. This overrides
section by section, whether or not there are wrappers, if no section is behind a wrapped one that has
a wrapper too or sets a parameter of the wrapper. A section whose name is no pattern makes the file
unusable, and so do sections without entries only. -/
theorem loaded_from_last_wrapper {package file subdir target : Value} {name : String}
    {sections : List Section} {s t : Session}
    (hread : (readParams package file subdir).run s = .ok (.map (sections.map Section.entry)) t)
    (htop : ∀ x ∈ sections, x.name ≠ paramsKey) (htarget : target.truthy)
    (hname : (sectionName target).run t = .ok name t) :
    let loaded := (loadParams package file subdir target).run s
    let matching := sections.filter (·.hits name)
    ((∃ x ∈ sections, ∃ e, x.pattern = .error e) → ∃ e, loaded = .error e t) ∧
    ((∀ x ∈ sections, ∃ p, x.pattern = .ok p) →
      ((∀ x ∈ matching, x.entries = []) →
        loaded = .error (.told .invalidValue s!"No param section matching '{name}'") t) ∧
      ((∃ x ∈ matching, x.entries ≠ []) → ∃ es : Entries, loaded = .ok (.map es) t ∧
        (∀ k, es.getText? k = if k = paramsKey then none else
          ((lastly Section.wrapped matching).bind (·.getText? k)).or
            (lastly (·.entries.getText? k) matching)) ∧
        (matching.Pairwise Section.Clears →
          ∀ k, es.getText? k = lastly (Section.param? k) matching))) := by
  intro loaded matching
  have hloaded := run_loadParams hread htop htarget hname
  refine ⟨fun ⟨x, hx, e, he⟩ => ?_, fun hpatterns => ⟨fun hempty => ?_, fun ⟨x, hx, hne⟩ => ?_⟩⟩
  · obtain ⟨e, hfails⟩ := matchingSections_fails name hx he [] t
    refine ⟨e, hloaded.trans ?_⟩
    simp only [EStateM.run, bind, EStateM.bind] at hfails ⊢
    rw [hfails]
  · have hnone : (merged [] matching).isEmpty = true := by
      rw [isEmpty_merged]
      simpa using hempty
    refine hloaded.trans ?_
    rw [run_bind_of_ok (run_matchingSections hpatterns [] t), if_pos hnone]
    rfl
  · have hsome : ¬ (merged [] matching).isEmpty = true := by
      rw [isEmpty_merged]
      simpa using ⟨x, hx, hne⟩
    refine ⟨opened matching, hloaded.trans ?_, getText?_opened matching, fun hclears k => ?_⟩
    · rw [run_bind_of_ok (run_matchingSections hpatterns [] t), if_neg hsome]
      exact run_unpackParams_merged matching t
    · rw [getText?_opened]
      split
      · next hk => exact (lastly_eq_none fun x _ => if_pos hk).symm
      · next hk => exact lastly_param? hclears hk

def paramFile (text : String) : Session :=
  { world := { files := { entries := [("/params", .file (.text text) false)] } } }

def Section.rates : List Section :=
  [{  name := "/**"
      entries := [(.str "rate", .int 5)]
      wrapped := none
      distinct := pairwise_singleton _ _
      wraps := by simp [Entries.getText?_cons, Value.alike_str, paramsKey]
      distinct_wrapped := by simp },
    { name := "arm/*"
      entries := [(.str paramsKey, .map [(.str "rate", .int 7)])]
      wrapped := some [(.str "rate", .int 7)]
      distinct := pairwise_singleton _ _
      wraps := by simp [Entries.getText?_cons, Value.alike_str]
      distinct_wrapped := by simp [Entries.Distinct] }]

def Section.areRates : Value → Bool
  | .map [(.str "/**", .map [(.str "rate", .int 5)]),
      (.str "arm/*", .map [(.str "ros__parameters", .map [(.str "rate", .int 7)])])] => true
  | _ => false

theorem loaded_from_last_wrapper_rates :
    let s := paramFile "/**: {rate: 5}\narm/*: {ros__parameters: {rate: 7}}"
    ∃ (es : Entries) (t : Session),
      (loadParams .null (.str "/params") .null (.str "/arm/hand")).run s = .ok (.map es) t ∧
        es.getText? "rate" = some (.int 7) := by
  intro s
  have hread : (readParams .null (.str "/params") .null).result? s =
      some (.map (rates.map entry)) := by
    have hany : ((readParams .null (.str "/params") .null).result? s).any areRates := by
      decide +kernel
    obtain ⟨v, hv, hmatches⟩ := (Option.any_eq_true _ _).1 hany
    rw [hv]
    unfold areRates at hmatches
    split at hmatches
    · rfl
    · cases hmatches
  have hhits : ∀ x ∈ rates, x.hits "arm/hand" = true := by decide +kernel
  have hname (t : Session) : (sectionName (.str "/arm/hand")).run t = .ok "arm/hand" t := by
    change EStateM.Result.ok (Text.trimBy (· == '/') "/arm/hand") t = _
    rw [show Text.trimBy (· == '/') "/arm/hand" = "arm/hand" by decide +kernel]
  obtain ⟨-, hloaded⟩ := loaded_from_last_wrapper (run_of_result? hread) (by decide +kernel)
    (by decide) (hname _)
  rw [filter_eq_self.2 hhits] at hloaded
  obtain ⟨es, hes, -, hparams⟩ := (hloaded fun x hx => exists_pattern (hhits x hx)).2
    ⟨rates[0], by simp [rates], by simp [rates]⟩
  refine ⟨es, _, hes, (hparams ?_ "rate").trans ?_⟩
  · simp [rates, Clears]
  · simp [rates, lastly, param?, paramsKey, Entries.getText?_cons, Value.alike_str]

/-- Of two wrappers only the last one counts, and a parameter in a wrapper is not overridden by one
behind it. -/
theorem wrapper_lost :
    let loads := loadParams .null (.str "/params") .null (.str "n")
    ((loads.result? (paramFile "/**: {ros__parameters: {a: 1}}\nn: {ros__parameters: {b: 2}}")).any
      (· matches .map [(.str "b", .int 2)])) ∧
    ((loads.result? (paramFile "/**: {ros__parameters: {a: 1}}\nn: {a: 2}")).any
      (· matches .map [(.str "a", .int 1)])) := by
  decide +kernel

end Launch

end Launchpad
