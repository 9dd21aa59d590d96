import Launchpad.Proofs.Launch.Outcome
import Launchpad.Proofs.Substitution.Evaluation

/-!
What is made of the values of a text. Substitutions may have values of any kind, and give them to
others around them as arguments; but what stands outside of all substitutions has to be texts in the
end, which are joined by single blanks. So nothing of the blanks in a text is left, and what stood
directly behind something else does not any more.
-/

namespace Launchpad.Substitution

variable {σ : Type} {handlers : Handlers (EStateM Stop σ)}

/-! ## Handlers that return -/

/-- Do all handlers return, with whatever value? -/
def Total (handlers : Handlers (EStateM Stop σ)) : Prop :=
  ∀ key call, handlers key = some call → ∀ args s, ∃ v t, call args s = .ok v t

variable {vs : List Value}

lemma expand_call {key : String} {call : List Value → EStateM Stop σ Value} {args : List Tree}
    {s u : σ} (hcall : handlers key = some call)
    (hargs : expandAll handlers (forms args) s = .ok vs u) :
    (Tree.call key args).form.expand handlers s = call vs u := by
  have happly := applyForm_key handlers key vs
  rw [hcall] at happly
  rw [Tree.form, Form.expand, expandAll, Form.expand]
  simp only [bind, EStateM.bind, pure, EStateM.pure, hargs, happly]

lemma expandAll_cons_eq_ok {f : Form} {fs : List Form} {s w : σ} :
    expandAll handlers (f :: fs) s = .ok vs w ↔ ∃ v u us,
      f.expand handlers s = .ok v u ∧ expandAll handlers fs u = .ok us w ∧ vs = v :: us := by
  rw [expandAll]
  simp only [bind, EStateM.bind]
  constructor
  · intro h
    split at h
    · next v u hv =>
      split at h
      · next us w' hus =>
        cases h
        exact ⟨v, u, us, hv, hus, rfl⟩
      · cases h
    · cases h
  · rintro ⟨v, u, us, hv, hus, rfl⟩
    simp only [hv, hus]
    rfl

mutual

lemma Tree.exists_expand (hh : Total handlers) (t : Tree)
    (hkeys : ∀ key ∈ t.keys, knows handlers key) (s : σ) :
    ∃ v u, t.form.expand handlers s = .ok v u := by
  cases t with
  | leaf text => exact ⟨.str text, s, by rw [Tree.form, Form.expand]; rfl⟩
  | call key args =>
    simp only [Tree.keys, List.mem_append, List.mem_singleton] at hkeys
    obtain ⟨vs, u, hvs, -⟩ := exists_expandAll hh args (fun k hk => hkeys k (.inl hk)) s
    obtain ⟨call, hcall⟩ := Option.isSome_iff_exists.1 (hkeys key (.inr rfl))
    obtain ⟨v, w, hv⟩ := hh key call hcall vs u
    exact ⟨v, w, (expand_call hcall hvs).trans hv⟩

lemma exists_expandAll (hh : Total handlers) (ts : List Tree)
    (hkeys : ∀ key ∈ keysAll ts, knows handlers key) (s : σ) :
    ∃ vs u, expandAll handlers (forms ts) s = .ok vs u ∧ vs.length = ts.length := by
  cases ts with
  | nil => exact ⟨[], s, by rw [forms, expandAll]; rfl, rfl⟩
  | cons t ts =>
    simp only [keysAll, List.mem_append] at hkeys
    obtain ⟨v, u, hv⟩ := t.exists_expand hh (fun k hk => hkeys k (.inl hk)) s
    obtain ⟨vs, w, hvs, hlen⟩ := exists_expandAll hh ts (fun k hk => hkeys k (.inr hk)) u
    exact ⟨v :: vs, w, expandAll_cons_eq_ok.2 ⟨v, u, vs, hv, hvs, rfl⟩, congrArg (· + 1) hlen⟩

end

lemma texts?_eq_some_iff {ts : List String} : texts? vs = some ts ↔ vs = ts.map .str := by
  constructor
  · intro h
    fun_induction texts? vs generalizing ts with
    | case1 => cases h; rfl
    | case2 s vs ih =>
      obtain ⟨us, hus, rfl⟩ := Option.map_eq_some_iff.1 h
      rw [ih hus, List.map_cons]
    | case3 => cases h
  · rintro rfl
    exact texts?_map ts

/-- Is the first of the values a text that is taken for a key? -/
def KeyFirst (vs : List Value) : Prop :=
  ∃ text, vs.head? = some (.str text) ∧ text.toList.head? = some '$'

lemma applyForm_of_not_text {v : Value} (hv : ∀ text, v ≠ .str text) (vs : List Value) :
    applyForm handlers (v :: vs) = throw (Stop.silent (badHead v)) := by
  cases v with
  | str text => exact absurd rfl (hv text)
  | _ => rfl

/-- The values are texts, of which there is one, and are joined. -/
def Joins (vs : List Value) (v : Value) : Prop :=
  ∃ texts, texts ≠ [] ∧ vs = texts.map .str ∧ v = .str (" ".intercalate texts)

lemma applyForm_eq_ok_iff (hvs : ¬ KeyFirst vs) {s t : σ} {v : Value} :
    applyForm handlers vs s = .ok v t ↔ Joins vs v ∧ t = s := by
  cases vs with
  | nil =>
    refine iff_of_false (by rintro ⟨⟩) ?_
    rintro ⟨⟨texts, hne, hnil, -⟩, -⟩
    exact hne (List.map_eq_nil_iff.1 hnil.symm)
  | cons first vs =>
    by_cases hfirst : ∃ text, first = .str text
    · obtain ⟨text, rfl⟩ := hfirst
      rw [applyForm_of_not_dollar handlers fun h => hvs ⟨text, rfl, h⟩]
      cases htexts : texts? (.str text :: vs) with
      | none =>
        refine iff_of_false (by rintro ⟨⟩) ?_
        rintro ⟨⟨texts, -, hmap, -⟩, -⟩
        rw [hmap, texts?_map] at htexts
        cases htexts
      | some texts =>
        rw [texts?_eq_some_iff.1 htexts]
        constructor
        · rintro ⟨⟩
          refine ⟨⟨texts, ?_, rfl, rfl⟩, rfl⟩
          rintro rfl
          cases texts?_eq_some_iff.1 htexts
        · rintro ⟨⟨us, -, hmap, rfl⟩, rfl⟩
          rw [show us = texts by simpa [texts?_map] using (congrArg texts? hmap).symm]
          rfl
    · rw [applyForm_of_not_text fun text h => hfirst ⟨text, h⟩]
      refine iff_of_false (by rintro ⟨⟩) ?_
      rintro ⟨⟨texts, hne, hmap, -⟩, -⟩
      obtain ⟨text, texts, rfl⟩ := List.exists_cons_of_ne_nil hne
      exact hfirst ⟨text, (List.cons.inj hmap).1⟩

/-- What the values of one level come to: if the first is a key, to the answer of its handler, and
otherwise to a text. -/
def Amount (handlers : Handlers (EStateM Stop σ)) (vs : List Value) (s : σ) (v : Value) (t : σ) :
    Prop :=
  (∃ key call args, vs = .str ("$" ++ key) :: args ∧ handlers key = some call ∧
    call args s = .ok v t) ∨ ¬ KeyFirst vs ∧ Joins vs v ∧ t = s

lemma applyForm_eq_ok {s t : σ} {v : Value} :
    applyForm handlers vs s = .ok v t ↔ Amount handlers vs s v t := by
  by_cases h : KeyFirst vs
  · obtain ⟨text, hvs, htext⟩ := h
    obtain ⟨args, rfl⟩ := List.head?_eq_some_iff.1 hvs
    obtain ⟨key, rfl⟩ := eq_dollar_append htext
    rw [applyForm_key]
    constructor
    · intro hrun
      cases hcall : handlers key with
      | none =>
        rw [hcall] at hrun
        cases hrun
      | some call => exact .inl ⟨key, call, args, rfl, hcall, by simpa [hcall] using hrun⟩
    · rintro (⟨key', call, args', heq, hcall, hrun⟩ | ⟨hkey, -⟩)
      · obtain ⟨rfl, rfl⟩ : key = key' ∧ args = args' := by simpa using heq
        simpa [hcall] using hrun
      · exact absurd ⟨_, rfl, htext⟩ hkey
  · rw [applyForm_eq_ok_iff h]
    refine ⟨fun hv => .inr ⟨h, hv⟩, ?_⟩
    rintro (⟨key, call, args, rfl, -⟩ | ⟨-, hv⟩)
    · exact absurd ⟨_, rfl, by simp⟩ h
    · exact hv

mutual

/-- What a form comes to, at any depth: its items first, from the left, and then their values. -/
def Form.Gives (handlers : Handlers (EStateM Stop σ)) : Form → σ → Value → σ → Prop
  | .word text, s, v, t => v = .str text ∧ t = s
  | .items fs, s, v, t => ∃ vs u, GiveEach handlers fs s vs u ∧ Amount handlers vs u v t

def GiveEach (handlers : Handlers (EStateM Stop σ)) : List Form → σ → List Value → σ → Prop
  | [], s, vs, t => vs = [] ∧ t = s
  | f :: fs, s, vs, t =>
    ∃ v u us, f.Gives handlers s v u ∧ GiveEach handlers fs u us t ∧ vs = v :: us

end

mutual

lemma Form.expand_eq_ok (f : Form) {s t : σ} {v : Value} :
    f.expand handlers s = .ok v t ↔ f.Gives handlers s v t := by
  cases f with
  | word text =>
    rw [Form.expand, Form.Gives]
    constructor
    · rintro ⟨⟩
      exact ⟨rfl, rfl⟩
    · rintro ⟨rfl, rfl⟩
      rfl
  | items fs =>
    rw [Form.expand, Form.Gives]
    simp only [bind, EStateM.bind, ← expandAll_eq_ok, ← applyForm_eq_ok]
    constructor
    · intro h
      split at h
      · next vs u hvs => exact ⟨vs, u, hvs, h⟩
      · cases h
    · rintro ⟨vs, u, hvs, h⟩
      rw [hvs]
      exact h

lemma expandAll_eq_ok (fs : List Form) {s t : σ} {vs : List Value} :
    expandAll handlers fs s = .ok vs t ↔ GiveEach handlers fs s vs t := by
  cases fs with
  | nil =>
    rw [expandAll, GiveEach]
    constructor
    · rintro ⟨⟩
      exact ⟨rfl, rfl⟩
    · rintro ⟨rfl, rfl⟩
      rfl
  | cons f fs => simp only [expandAll_cons_eq_ok, GiveEach, f.expand_eq_ok, expandAll_eq_ok fs]

end

/-- What an accepted text comes to. At every level that does not begin with a key, be it that
outside of all substitutions or a substitution that is empty or begins with another one, the values
have to be texts, of which there has to be one, and are joined; a first value that begins with a
dollar sign is taken for a key. If all substitutions begin with their keys, these are known and the
handlers return, with values of any kind, then all substitutions are made, and the level outside of
them is the only one that can fail. -/
theorem resolved_iff_texts (handlers : Handlers (EStateM Stop σ)) {s : String} {fs : List Form}
    (hparse : parse s = .ok fs) (st : σ) :
    let run := (substituteValue handlers (.str s)).run st
    (∀ v t, run = .ok v t ↔ (Form.items fs).Gives handlers st v t) ∧
    ∀ ts, fs = forms ts → Total handlers → (∀ key ∈ keysAll ts, knows handlers key) →
      ∃ vs u, GiveEach handlers fs st vs u ∧ vs.length = ts.length ∧
        (¬ KeyFirst vs → ∀ v t, run = .ok v t ↔ Joins vs v ∧ t = u) := by
  intro run
  have hrun : run = (Form.items fs).expand handlers st := by
    rw [← substituteValue_of_parse handlers hparse]
    rfl
  refine ⟨fun v t => hrun ▸ Form.expand_eq_ok _, ?_⟩
  rintro ts rfl hh hkeys
  obtain ⟨vs, u, hvs, hlen⟩ := exists_expandAll hh ts hkeys st
  refine ⟨vs, u, (expandAll_eq_ok _).1 hvs, hlen, fun hkey v t => ?_⟩
  have hlevel : run = applyForm handlers vs u := by
    rw [hrun, Form.expand]
    simp only [bind, EStateM.bind, hvs]
  rw [hlevel, applyForm_eq_ok_iff hkey]

/-- Handlers of which one tells how many arguments it has got, and one returns a text. -/
def counting : Handlers (EStateM Stop Unit) := fun key =>
  if key = "count" then some fun args => pure (.int args.length)
  else if key = "name" then some fun _ => pure (.str "talker")
  else none

lemma total_counting : Total counting := by
  intro key call hcall args s
  unfold counting at hcall
  split at hcall
  · cases hcall
    exact ⟨_, _, rfl⟩
  · split at hcall
    · cases hcall
      exact ⟨_, _, rfl⟩
    · cases hcall

theorem resolved_iff_texts_counting :
    (substituteValue counting (.str "$(name $(count a b))")).run () = .ok (.str "talker") () := by
  have hparse : parse "$(name $(count a b))" =
      .ok (forms [.call "name" [.call "count" [.leaf "a", .leaf "b"]]]) :=
    parse_of_scan_trees (by decide +kernel)
  obtain ⟨-, htrees⟩ := resolved_iff_texts counting hparse ()
  obtain ⟨vs, u, hvs, -, hresult⟩ := htrees _ rfl total_counting (by decide)
  cases (expandAll_eq_ok _).2 hvs
  have hkey : ¬ KeyFirst [.str "talker"] := by
    rintro ⟨text, ⟨⟩, htext⟩
    simp at htext
  exact (hresult hkey _ _).2 ⟨⟨["talker"], by decide, rfl, rfl⟩, rfl⟩

lemma exists_resolveWith {text : String} (htext : text ≠ "") (fuel : Nat) :
    ∃ handlers : Handlers (EStateM Stop Session), handlers "arg" = some Launch.substituteArg ∧
      handlers "eval" = some (Launch.substituteEval .full) ∧
      Launch.resolveWith (.str text) (fuel + 1) = substituteValue handlers (.str text) := by
  have htruthy : (!(Value.str text).truthy) = false := by simpa [Value.truthy] using htext
  rw [Launch.resolveWith, htruthy]
  exact ⟨_, rfl, rfl, rfl⟩

/-- A number as the value of a text is no result, and neither can it stand in an expression. -/
theorem number_not_resolved :
    (substituteValue counting (.str "$(count a b)")).run () = .error (.silent .noAttribute) () ∧
      ∀ n : Int,
        let s : Session := { launcher := some default, launchArgs := .map [(.str "x", .int n)] }
        (Launch.resolve (.str "$(eval $(arg x) * 5)")).run s = .error (.silent .wrongType) s := by
  have hcount : parse "$(count a b)" = .ok (forms [.call "count" [.leaf "a", .leaf "b"]]) :=
    parse_of_scan_trees (by decide +kernel)
  have hproduct : parse "$(eval $(arg x) * 5)" =
      .ok (forms [.call "eval" [.call "arg" [.leaf "x"], .leaf "*", .leaf "5"]]) :=
    parse_of_scan_trees (by decide +kernel)
  refine ⟨?_, fun n => ?_⟩
  · rw [substituteValue_of_parse counting hcount]
    rfl
  · intro s
    obtain ⟨handlers, harg, heval, hresolve⟩ :=
      exists_resolveWith (show "$(eval $(arg x) * 5)" ≠ "" by decide) 199
    have hitem : (Value.map [(.str "x", .int n)]).item (.str "x") = .ok (.int n) := by
      simp [Value.item, Value.isKey, Entries.get?, Value.alike, Value.same]
    have hx : (Tree.call "arg" [.leaf "x"]).form.expand handlers s = .ok (.int n) s := by
      have hleaf : expandAll handlers (forms [.leaf "x"]) s = .ok [.str "x"] s := rfl
      refine (expand_call harg hleaf).trans ?_
      change (Launch.lift ((Value.map [(.str "x", .int n)]).item (.str "x"))).run s = _
      rw [hitem]
      rfl
    have hargs : expandAll handlers (forms [.call "arg" [.leaf "x"], .leaf "*", .leaf "5"]) s =
        .ok [.int n, .str "*", .str "5"] s := expandAll_cons_eq_ok.2 ⟨_, _, _, hx, rfl, rfl⟩
    have hroot : expandAll handlers (forms
        [.call "eval" [.call "arg" [.leaf "x"], .leaf "*", .leaf "5"]]) s =
        .error (.silent .wrongType) s := by
      rw [forms, expandAll]
      simp only [bind, EStateM.bind, expand_call heval hargs]
      rfl
    rw [Launch.resolve, Launch.substitutionDepth, hresolve, substituteValue_of_parse _ hproduct,
      Form.expand]
    simp only [EStateM.run, bind, EStateM.bind, hroot]

end Launchpad.Substitution
