import Launchpad.Proofs.Launch.Calm

/-!
Messages that are logged. Logging changes nothing but the formatters of a registry, and it cannot
fail for a logger with one handler at most.
-/

namespace Launchpad

variable {r : Registry} {level : Int}

namespace Log

def knownLevels : List Int :=
  levelNames.map Prod.fst

lemma exists_labelOf (h : level ∈ knownLevels) :
    ∃ label, labelOf (.int level) = .ok (.str label) := by
  have hall : ∀ level ∈ knownLevels,
      ((labelOf (.int level)).toOption.bind Value.text?).isSome := by decide +kernel
  have hsome := hall level h
  cases hlabel : labelOf (.int level) with
  | error e =>
    rw [hlabel] at hsome
    cases hsome
  | ok v =>
    rw [hlabel] at hsome
    cases v with
    | str label => exact ⟨label, rfl⟩
    | _ => cases hsome

namespace Registry

/-- A registry takes a message as information or as a warning without a fault, whatever was logged
before. -/
def Accepts (r : Registry) (logger msg : String) : Prop :=
  ∀ r', r.Logged r' → ∀ level ∈ [info, warning], ∀ now,
    (r'.log logger (.int level) (.str msg) now []).2.2 = .ok ()

lemma Accepts.later {r' : Registry} {logger msg : String} (h : r.Accepts logger msg)
    (hr : r.Logged r') : r'.Accepts logger msg :=
  fun r'' h'' => h r'' (hr.trans h'')

lemma formatAt_eq (r : Registry) (h : Handler) (record : Record) :
    ∃ formatters hue, (r.formatAt h record).2.1 = { r with formatters, hue } := by
  unfold formatAt
  repeat' split
  all_goals exact ⟨_, _, rfl⟩

/-- What holds before a record is delivered and is kept by every formatter holds in the end, or
when a handler cannot compare the level of the record. -/
lemma deliver_induction {P : Registry → Record → Prop} {Q : Registry → Try Unit → Prop}
    (hend : ∀ r record, P r record → Q r (.ok ()))
    (hfail : ∀ r record least e, P r record → reaches record.level (.int least) = .error e →
      Q r (.error e))
    (hstep : ∀ r record h, P r record → P (r.formatAt h record).2.1 (r.formatAt h record).2.2)
    (is : List Nat) {record : Record} (out : Lines) (hr : P r record) :
    Q (r.deliver is record out).1 (r.deliver is record out).2.2 := by
  induction is generalizing r record out with
  | nil => exact hend r record hr
  | cons i is ih =>
    rw [deliver]
    split
    · exact ih out hr
    · next h _ =>
      split
      · next e he => exact hfail r record _ e hr he
      · exact ih out hr
      · dsimp only
        split
        · exact ih _ (hstep r record h hr)
        · exact ih _ (hstep r record h hr)

lemma deliver_eq (r : Registry) (is : List Nat) (record : Record) (out : Lines) :
    ∃ formatters hue, (r.deliver is record out).1 = { r with formatters, hue } := by
  have step (r' : Registry) (record : Record) (h : Handler) :
      (∃ formatters hue, r' = { r with formatters, hue }) →
        ∃ formatters hue, (r'.formatAt h record).2.1 = { r with formatters, hue } := by
    rintro ⟨_, _, rfl⟩
    exact formatAt_eq _ h record
  exact deliver_induction (Q := fun r' _ => ∃ formatters hue, r' = { r with formatters, hue })
    (fun _ _ h => h) (fun _ _ _ _ h _ => h) step is out ⟨_, _, rfl⟩

lemma log_eq (r : Registry) (logger : String) (level msg : Value) (now : Float)
    (args : List Value) :
    ∃ formatters hue, (r.log logger level msg now args).1 = { r with formatters, hue } := by
  unfold log
  dsimp only
  split
  · exact deliver_eq r _ _ _
  · exact ⟨_, _, rfl⟩
  · exact ⟨_, _, rfl⟩

lemma Logged.eq {r' : Registry} (h : r.Logged r') :
    ∃ formatters hue, r' = { r with formatters, hue } := by
  induction h with
  | refl => exact ⟨_, _, rfl⟩
  | log h logger level msg now args ih =>
    obtain ⟨_, _, rfl⟩ := ih
    exact log_eq _ logger (.int level) (.str msg) now args

lemma reaches_int (level least : Int) :
    reaches (.int level) (.int least) = .ok (decide (least ≤ level)) := rfl

lemma deliver_ok {is : List Nat} {record : Record} (hone : is.length ≤ 1)
    (hlevel : record.level = .int level) : (r.deliver is record []).2.2 = .ok () := by
  match is with
  | [] => rfl
  | [i] =>
    simp only [deliver, hlevel, reaches_int]
    repeat' split
    all_goals first | rfl | contradiction

lemma exists_leastLevel {least : Int} (h : r.rootLevel = .int least) :
    ∃ l, r.leastLevel = .int l := by
  rw [leastLevel, h]
  split
  · exact ⟨_, rfl⟩
  · exact ⟨_, rfl⟩

/-- A message for one handler at most is always taken. A second handler could find that the
formatter of the first one has put another level into the record. -/
lemma accepts_of_handlersOf {logger : String} {least : Int} (hleast : r.rootLevel = .int least)
    (hone : (r.handlersOf logger).length ≤ 1) (msg : String) : r.Accepts logger msg := by
  intro r' h level hlevel now
  obtain ⟨formatters, hue, rfl⟩ := h.eq
  have hknown : level ∈ knownLevels := (show [info, warning] ⊆ knownLevels by decide) hlevel
  obtain ⟨label, hlabel⟩ := exists_labelOf hknown
  obtain ⟨l, hl⟩ := exists_leastLevel hleast
  have hl' : Registry.leastLevel { r with formatters, hue } = .int l := hl
  by_cases hle : l ≤ level
  · simp only [log, hl', reaches_int, Record.ofValues, hlabel, hle]
    exact deliver_ok hone rfl
  · simp only [log, hl', reaches_int, decide_eq_false hle]
    rfl

end Registry

end Log

namespace Launch

lemma yields_writeLines {E : Post Stop} (lines : Log.Lines)
    (s : Session) : Yields (lines.forM writeTo) s (fun _ _ => True) E := by
  induction lines generalizing s with
  | nil => exact .pure trivial
  | cons line lines ih =>
    refine .of_bind ?_
    unfold writeTo
    split
    · exact .modify (ih _)
    · exact .modify (ih _)

lemma yields_log (logger : String) (hlevel : level ∈ [Log.info, Log.warning]) (msg : String)
    (s : Session) :
    Yields (log logger level msg) s (fun _ t => Calm s t)
      (fun _ t => Calm s t ∧ ¬ s.log.Accepts logger msg) := by
  have fails : Yields (log logger level msg) s (fun _ _ => True)
      (fun _ _ => ¬ s.log.Accepts logger msg) := by
    unfold log
    simp only [yields_bind, yields_get, yields_set]
    refine (yields_writeLines _ _).map fun _ t _ => ?_
    unfold lift
    split
    · exact .pure trivial
    · next hr =>
      refine .throw fun haccepts => ?_
      rw [haccepts s.log .refl level hlevel _] at hr
      cases hr
  exact ((keeps_log (R := Calm) logger level msg [] s).and fails).map fun _ _ h => h.1

end Launch

end Launchpad
