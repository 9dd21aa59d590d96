import Launchpad.Proofs.Log.Ordinary
import Mathlib.Data.List.Forall2

/-!
Records that are shown. The pretty formatters of a launch, for the screen and for the log files,
make a line of every record whose message has no header, and of one whose header tells a time that
can be read; the line ends with the message.
-/

namespace Launchpad

open List Option

namespace Format

variable {fields : Named} {depth : Nat} {ps : List Piece}

/-- A piece that is a text, or shows one of some fields as it is. -/
def Piece.uses (names : List String) : Piece → Bool
  | .text _ => true
  | .field f =>
    names.contains f.name && f.conversion.isNone && f.spec == "" &&
      splitName f.name == (f.name, []) && !f.name.toList.all Text.isDecimal
  | .broken => false

def Shows (fields : Named) (name : String) : Prop :=
  ∃ v, fields.lookup name = some v ∧ hasHuge v = false

variable {name : String}

lemma renderField_plain {v : Value} (hname : Piece.uses [name] (.field ⟨name, none, ""⟩))
    (hv : fields.lookup name = some v) (hsmall : hasHuge v = false) :
    renderField fields depth ⟨name, none, ""⟩ = .ok (v.display Value.plainRef) := by
  simp only [Piece.uses, Bool.and_eq_true, beq_iff_eq, Bool.not_eq_true'] at hname
  obtain ⟨⟨-, hsplit⟩, hdigits⟩ := hname
  have hvalue : fieldValue fields name = .ok v := by
    simp only [fieldValue, hsplit, hdigits, hv]
    rfl
  rw [renderField, hvalue]
  simp only [bind, Except.bind, convert, formatValue, plainText, hsmall]
  rfl

def Piece.fill (field : String → String) : Piece → String
  | .text t => t
  | .field f => field f.name
  | .broken => ""

def shownAs (fields : Named) (name : String) : String :=
  ((fields.lookup name).map (·.display Value.plainRef)).getD ""

lemma shownAs_of_lookup {v : Value} (h : fields.lookup name = some v) :
    shownAs fields name = v.display Value.plainRef := by
  rw [shownAs, h]
  rfl

lemma renderPieces_eq {names : List String} (hnames : ∀ n ∈ names, Shows fields n)
    (h : ∀ p ∈ ps, p.uses names) :
    renderPieces fields depth ps = .ok (String.join (ps.map (Piece.fill (shownAs fields)))) := by
  induction ps with
  | nil => rw [renderPieces]; rfl
  | cons p ps ih =>
    obtain ⟨hp, hps⟩ := forall_mem_cons.1 h
    rw [map_cons, String.join_cons]
    cases p with
    | text s =>
      rw [renderPieces, ih hps]
      rfl
    | broken => cases hp
    | field f =>
      obtain ⟨name, conversion, spec⟩ := f
      simp only [Piece.uses, Bool.and_eq_true, isNone_iff_eq_none, beq_iff_eq] at hp
      obtain ⟨⟨⟨⟨hmem, rfl⟩, rfl⟩, hsplit⟩, hdigits⟩ := hp
      obtain ⟨v, hv, hsmall⟩ := hnames name (contains_iff_mem.1 hmem)
      have hname : Piece.uses [name] (.field ⟨name, none, ""⟩) := by
        simp only [Piece.uses, hsplit, hdigits]
        simp
      rw [renderPieces, renderField_plain hname hv hsmall, ih hps, ← shownAs_of_lookup hv]
      rfl

end Format

namespace Log

open Format (Shows hasHuge)

variable {key severity shown : String} {r : Record} {c : Value} {s : Scratch} {t : Template}
    {p : Pretty} {level' : Int}

/-! ## What a template finds in a record -/

variable {β α : Type} {es : Entries}

lemma lookup_setAssoc (k k' : String) (v : β) (es : List (String × β)) :
    (setAssoc k v es).lookup k' = if k' = k then some v else es.lookup k' := by
  induction es with
  | nil =>
    rw [setAssoc, lookup_cons, lookup_nil]
    by_cases h : k' = k
    · simp [h]
    · simp [h, beq_false_of_ne h]
  | cons e es ih =>
    obtain ⟨key, value⟩ := e
    rw [setAssoc]
    by_cases hkey : key = k
    · rw [if_pos (by simpa using hkey), lookup_cons, lookup_cons, hkey]
      by_cases h : k' = k
      · simp [h]
      · simp [h, beq_false_of_ne h]
    · rw [if_neg (by simpa using hkey), lookup_cons, lookup_cons, ih]
      by_cases h : k' = key
      · simp [h, hkey]
      · simp [beq_false_of_ne h]

def Record.Has (r : Record) (key : String) : Prop :=
  ∃ v, r.extra.lookup key = some v ∧ hasHuge v = false

lemma Record.set_added (r : Record) (hkey : key ∈ addedKeys) (v : Value) :
    r.set key v = { r with extra := setAssoc key v r.extra } := by
  simp only [addedKeys, mem_cons, not_mem_nil, or_false] at hkey
  rcases hkey with rfl | rfl | rfl | rfl | rfl | rfl
  all_goals rfl

lemma Record.Has.set {key' : String} (hkey : key ∈ addedKeys) {v : Value} (hv : hasHuge v = false)
    (h : key' ≠ key → r.Has key') : (r.set key v).Has key' := by
  rw [r.set_added hkey]
  by_cases heq : key' = key
  · exact ⟨v, by rw [lookup_setAssoc, if_pos heq], hv⟩
  · obtain ⟨w, hw, hsmall⟩ := h heq
    exact ⟨w, by rw [lookup_setAssoc, if_neg heq, hw], hsmall⟩

/-- A record of a message at some level, whose arguments are none. -/
structure Record.Carries (r : Record) (name : String) (rank : Value) (msg : String) : Prop where
  name_eq : r.name = .str name
  level_eq : r.level = rank
  label : ∃ label, r.levelName = .str label
  msg_eq : r.msg = .str msg
  args : r.args.truthy = false

variable {name : String} {level : Int} {rank rank' : Value} {msg : String}

lemma Record.Carries.set (h : r.Carries name rank msg) (hkey : key ∈ addedKeys) (v : Value) :
    (r.set key v).Carries name rank msg := by
  rw [r.set_added hkey]
  exact ⟨h.name_eq, h.level_eq, h.label, h.msg_eq, h.args⟩

lemma Record.Carries.message_eq (h : r.Carries name rank msg) : r.message = .ok msg := by
  rw [Record.message, h.args, h.msg_eq, Value.display]
  rfl

def lineFields : List String :=
  ["levelname", "name"] ++ addedKeys

lemma Record.shows_of_has (h : r.Carries name rank msg) (hhas : ∀ key ∈ addedKeys, r.Has key) :
    ∀ key ∈ lineFields, Shows r.fields key := by
  intro key hkey
  rcases mem_append.1 hkey with hmem | hmem
  · obtain ⟨label, hlabel⟩ := h.label
    simp only [mem_cons, not_mem_nil, or_false] at hmem
    rcases hmem with rfl | rfl
    · exact ⟨r.levelName, rfl, by rw [hlabel]; rfl⟩
    · exact ⟨r.name, rfl, by rw [h.name_eq]; rfl⟩
  · obtain ⟨v, hv, hsmall⟩ := hhas key hmem
    refine ⟨v, ?_, hsmall⟩
    have hfixed : ([("name", r.name), ("msg", r.msg), ("args", r.args), ("levelname", r.levelName),
        ("levelno", r.level), ("created", .float r.created)] : Named).lookup key = none := by
      simp only [addedKeys, mem_cons, not_mem_nil, or_false] at hmem
      rcases hmem with rfl | rfl | rfl | rfl | rfl | rfl
      all_goals rfl
    rw [Record.fields, lookup_append, lookup_append, hfixed, hv]
    rfl

/-! ## Colors -/

def Shines (es : Entries) : Prop :=
  ∀ e ∈ es, ∃ on, Color.escape e.2 = .ok on

lemma Shines.get? (h : Shines es) {k : Value} (hc : es.get? k = some c) :
    ∃ on, Color.escape c = .ok on := by
  obtain ⟨e, he, rfl⟩ := map_eq_some_iff.1 hc
  exact h e (mem_of_find?_eq_some he)

lemma Shines.insert (h : Shines es) (k : Value) {on : String} (hc : Color.escape c = .ok on) :
    Shines (es.insert k c) := by
  induction es with
  | nil =>
    intro e he
    rw [Entries.insert, mem_singleton] at he
    exact ⟨on, by rw [he, hc]⟩
  | cons e es ih =>
    obtain ⟨he, hes⟩ := forall_mem_cons.1 h
    rw [Entries.insert]
    split
    · exact forall_mem_cons.2 ⟨⟨on, hc⟩, hes⟩
    · exact forall_mem_cons.2 ⟨he, ih hes⟩

lemma run_bind {x : FormatM α} {f : α → FormatM β} {a : α} {t : Scratch}
    (h : x.run s = .ok a t) : (x >>= f).run s = (f a).run t := by
  simp only [EStateM.run, bind, EStateM.bind] at h ⊢
  rw [h]

lemma run_bind_error {x : FormatM α} {f : α → FormatM β} {e : Stop} {t : Scratch}
    (h : x.run s = .error e t) : (x >>= f).run s = .error e t := by
  simp only [EStateM.run, bind, EStateM.bind] at h ⊢
  rw [h]

lemma run_bind_congr {x y : FormatM α} {f : α → FormatM β} {t : Scratch}
    (h : x.run s = y.run t) : (x >>= f).run s = (y >>= f).run t := by
  simp only [EStateM.run, bind, EStateM.bind] at h ⊢
  rw [h]

lemma exists_sourceColor (name : String) (h : Shines s.sources) :
    ∃ c t, (sourceColor (.str name)).run s = .ok c t ∧ (∃ on, Color.escape c = .ok on) ∧
      t.record = s.record ∧ Shines t.sources := by
  unfold sourceColor
  have hget : (get : FormatM Scratch).run s = .ok s s := rfl
  rw [run_bind hget]
  cases hstar : Entries.getText? s.sources "*" with
  | some c => exact ⟨c, s, rfl, h.get? hstar, rfl, h⟩
  | none =>
    dsimp only
    split
    · exact ⟨_, s, rfl, ⟨"", rfl⟩, rfl, h⟩
    · cases hown : Entries.get? s.sources (.str name) with
      | some c => exact ⟨c, s, rfl, h.get? hown, rfl, h⟩
      | none =>
        refine ⟨_, _, rfl, ⟨_, rfl⟩, rfl, ?_⟩
        exact h.insert _ rfl

/-- A known level, or a text in its place. -/
def Ranked : Value → Prop
  | .int level => level ∈ knownLevels
  | .str _ => True
  | _ => False

lemma exists_levelColor {colors : Entries} (h : Shines colors) (hrank : Ranked rank) :
    ∃ on, (levelColor colors rank >>= Color.escape) = .ok on := by
  unfold levelColor
  cases hstar : Entries.getText? colors "*" with
  | some c =>
    obtain ⟨on, hon⟩ := h.get? hstar
    exact ⟨on, hon⟩
  | none =>
    have hnamed (label : String) : ∃ on, ((if (Value.str label).isKey then
        pure ((Entries.get? colors (.str label)).getD (.str "")) else throw (.silent .wrongType) :
        Try Value) >>= Color.escape) = .ok on := by
      cases hown : Entries.get? colors (.str label) with
      | some c => exact h.get? hown
      | none => exact ⟨"", rfl⟩
    cases rank with
    | int level =>
      obtain ⟨label, hlabel⟩ := exists_labelOf hrank
      simp only [hlabel]
      exact hnamed label
    | str label => exact hnamed label
    | _ => cases hrank

/-! ## Lines -/

def headerParts : Value :=
  .tuple [.str "levelname", .str "created", .str "msg"]

/-- A pretty formatter of a launch. -/
structure Pretty.Fit (p : Pretty) : Prop where
  template : p.template = { text := defaultScreenFormat } ∨
    p.template = { text := defaultFileFormat }
  pattern : p.pattern = headerPattern
  parts : p.parts = headerParts
  sources : Shines p.sourceColors
  levels : Shines p.levelColors

lemma check_default
    (ht : t = { text := defaultScreenFormat } ∨ t = { text := defaultFileFormat }) :
    t.check = .ok () := by
  have hok : t.check.isOk := by rcases ht with rfl | rfl <;> decide +kernel
  cases h : t.check with
  | ok _ => rfl
  | error e =>
    rw [h] at hok
    cases hok

lemma exists_make {format : String}
    (hformat : format = defaultScreenFormat ∨ format = defaultFileFormat) {d : Value}
    (hc : Shines (addColors [] c)) (hd : Shines (addColors defaultLevelColors d)) :
    ∃ p, Pretty.make { format := .str format, sourceColors := c, levelColors := d } = .ok p ∧
      p.Fit := by
  have htemplate : ({ text := format } : Template) = { text := defaultScreenFormat } ∨
      ({ text := format } : Template) = { text := defaultFileFormat } := by
    rcases hformat with rfl | rfl
    · exact .inl rfl
    · exact .inr rfl
  have htext : Style.brace.textOf (.str format) = .ok format := by
    rcases hformat with rfl | rfl <;> rfl
  refine ⟨{ template := { text := format }, timeFormat := .str "%Y-%m-%d %H:%M:%S.%f",
            pattern := headerPattern, parts := headerParts, sourceColors := addColors [] c,
            levelColors := addColors defaultLevelColors d }, ?_, htemplate, rfl, rfl, hc, hd⟩
  simp only [Pretty.make, bind, Except.bind, htext, check_default htemplate,
    compile_processPattern, Value.truthy]
  rfl

lemma shines_modeColors {mode : Value} {colors : Value × Value}
    (h : Registry.modeColors mode = .ok colors) :
    Shines (addColors [] colors.1) ∧ Shines (addColors defaultLevelColors colors.2) := by
  have hbase : Shines defaultLevelColors := by
    simp [Shines, defaultLevelColors, Color.escape]
  have hquiet {es : Entries} (h : Shines es) : Shines (addColors es (.str "")) :=
    h.insert (.str "*") rfl
  have hnone : Shines [] := fun e he => absurd he not_mem_nil
  unfold Registry.modeColors at h
  split at h
  · cases h
    exact ⟨hnone.insert (.str "*") rfl, hbase⟩
  · cases h
    exact ⟨hquiet hnone, hbase⟩
  · cases h
    exact ⟨hnone, hquiet hbase⟩
  · cases h
    exact ⟨hquiet hnone, hquiet hbase⟩
  · cases h
    exact ⟨hnone, hbase⟩
  · cases h
  · cases h

def Template.joint (t : Template) : String :=
  if t.text = defaultScreenFormat then "]\n" else "] "

section

variable (ht : t = { text := defaultScreenFormat } ∨ t = { text := defaultFileFormat })
include ht

lemma exists_pieces :
    ∃ init, Format.readPieces t.text =
      init ++ [.text t.joint, .field ⟨"message", none, ""⟩] ∧ ∀ p ∈ init, p.uses lineFields := by
  refine ⟨((Format.readPieces t.text).dropLast).dropLast, ?_⟩
  rcases ht with rfl | rfl <;> decide +kernel

lemma exists_render (h : r.Carries name rank msg)
    (hmsg : r.extra.lookup "message" = some (.str msg)) (hhas : ∀ key ∈ addedKeys, r.Has key) :
    ∃ head, t.render r.fields = .ok (head ++ t.joint ++ msg) := by
  obtain ⟨init, hpieces, hinit⟩ := exists_pieces ht
  have hmessage : r.fields.lookup "message" = some (.str msg) := by
    rw [Record.fields, lookup_append, lookup_append, hmsg]
    rfl
  have huses : ∀ p ∈ Format.readPieces t.text, p.uses lineFields := by
    rw [hpieces]
    refine forall_mem_append.2 ⟨hinit, forall_mem_cons.2 ⟨rfl, ?_⟩⟩
    exact forall_mem_singleton.2 (by decide)
  have hline := @Format.renderPieces_eq r.fields 1 _ _ (Record.shows_of_has h hhas) huses
  rw [hpieces, map_append, String.join_append] at hline
  have hlast : String.join ([.text t.joint, .field ⟨"message", none, ""⟩].map
      (Format.Piece.fill (Format.shownAs r.fields))) = t.joint ++ msg := by
    simp [Format.Piece.fill, Format.shownAs_of_lookup hmessage, Value.display]
  rw [hlast, ← hpieces, ← String.append_assoc] at hline
  have hdefaults : t.defaults = .null := by rcases ht with rfl | rfl <;> rfl
  have hstyle : t.style = .brace := by rcases ht with rfl | rfl <;> rfl
  simp only [Template.render, hdefaults, hstyle, Value.truthy, Bool.false_eq_true, if_false, bind,
    Except.bind, pure, Except.pure, append_nil, Format.renderBraces, hline]
  exact ⟨_, rfl⟩

end

lemma run_liftExcept {r : Try α} {a : α} (h : r = .ok a) (s : Scratch) :
    (liftExcept r : FormatM α).run s = .ok a s := by
  rw [h]
  rfl

lemma run_modify (f : Scratch → Scratch) (s : Scratch) :
    (modify f : FormatM PUnit).run s = .ok ⟨⟩ (f s) :=
  rfl

lemma run_get (s : Scratch) : (get : FormatM Scratch).run s = .ok s s :=
  rfl

lemma stamp_small (timeFormat : Value) (created : Float) :
    hasHuge (stamp timeFormat created) = false := by
  unfold stamp
  split
  · rfl
  · split
    · rfl
    · split <;> rfl

section

variable (ht : t = { text := defaultScreenFormat } ∨ t = { text := defaultFileFormat })
include ht

lemma usesTime_of : t.usesTime = true := by
  rcases ht with rfl | rfl <;> decide +kernel

lemma exists_finish (timeFormat : Value) (h : s.record.Carries name rank msg)
    (hhas : ∀ key ∈ addedKeys, key ≠ "message" → key ≠ "asctime" → s.record.Has key) :
    ∃ head u, (finish t fun r => stamp timeFormat r.created).run s =
      .ok (head ++ t.joint ++ msg) u ∧ u.record.Carries name rank msg ∧
      u.sources = s.sources := by
  unfold finish
  rw [run_bind (run_get s), run_bind (run_liftExcept h.message_eq s), run_bind (run_modify _ s),
    usesTime_of ht]
  have hmessage : "message" ∈ addedKeys := by decide
  have htime : "asctime" ∈ addedKeys := by decide
  have hcarries := (h.set hmessage (.str msg)).set htime
    (stamp timeFormat (s.record.set "message" (.str msg)).created)
  have hall : ∀ key ∈ addedKeys, (((s.record.set "message" (.str msg)).set "asctime"
      (stamp timeFormat (s.record.set "message" (.str msg)).created))).Has key := fun key hkey =>
    .set htime (stamp_small _ _) fun hne => .set hmessage rfl fun hne' => hhas key hkey hne' hne
  have hmsg : ((s.record.set "message" (.str msg)).set "asctime"
      (stamp timeFormat (s.record.set "message" (.str msg)).created)).extra.lookup "message" =
      some (.str msg) := by
    rw [Record.set_added _ htime, Record.set_added _ hmessage, lookup_setAssoc, lookup_setAssoc]
    simp
  obtain ⟨head, hline⟩ := exists_render ht hcarries hmsg hall
  exact ⟨head, _, run_liftExcept hline _, hcarries, rfl⟩

end

lemma Pretty.Fit.exists_present (hp : p.Fit) (hs : Shines s.sources)
    (h : s.record.Carries name rank msg) (hrank : Ranked rank) :
    ∃ head t, p.present.run s = .ok (head ++ p.template.joint ++ msg) t ∧
      t.record.Carries name rank msg ∧ Shines t.sources := by
  obtain ⟨c, t, hcolor, ⟨on, hon⟩, hrecord, hsources⟩ := exists_sourceColor name hs
  obtain ⟨on', hon'⟩ := exists_levelColor hp.levels hrank
  unfold Pretty.present
  rw [run_bind (run_get s), h.name_eq, run_bind hcolor, run_bind (run_liftExcept hon t),
    run_bind (run_modify _ t), run_bind (run_get _)]
  rw [hrecord]
  have hstart : "sourcecolor_start" ∈ addedKeys := by decide
  have hend : "sourcecolor_end" ∈ addedKeys := by decide
  have hstart' : "levelcolor_start" ∈ addedKeys := by decide
  have hend' : "levelcolor_end" ∈ addedKeys := by decide
  have hcarries := (h.set hstart (.str on)).set hend (.str (Color.reset on))
  rw [hcarries.level_eq, run_bind (run_liftExcept hon' _), run_bind (run_modify _ _)]
  have hcarries' := (hcarries.set hstart' (.str on')).set hend' (.str (Color.reset on'))
  obtain ⟨head, u, hfinish, hu, hkept⟩ := exists_finish (s := ⟨_, t.hue, t.sources⟩) hp.template
    p.timeFormat hcarries' fun key hkey hmessage htime =>
      .set hend' rfl fun h₁ => .set hstart' rfl fun h₂ => .set hend rfl fun h₃ =>
        .set hstart rfl fun h₄ =>
          absurd hkey (by simp [addedKeys, hmessage, htime, h₁, h₂, h₃, h₄])
  exact ⟨head, u, hfinish, hu, hkept ▸ hsources⟩

/-- The level that a severity stands for. That of an unknown one is no number. -/
def rankOf (severity : String) : Value :=
  match levelNumbers.lookup severity with
  | some n => .int n
  | none => .str ("Level " ++ severity)

/-- The level and the text that a pretty formatter reads from a message. -/
def readAs (rank : Value) (msg : String) : Option (Value × String) :=
  match Header.read? msg with
  | none => some (rank, msg)
  | some h => (Text.readFloat? h.time).map fun _ => (rankOf h.severity, h.text)

/-- What a pretty formatter shows of a message, and the level that it has then. A header is taken
off; if it tells no known severity or no time, the message is not shown as it should be. -/
def shownOf (level : Int) (msg : String) : Option (Int × String) :=
  match Header.read? msg with
  | none => some (level, msg)
  | some h => (levelNumbers.lookup h.severity).bind fun n =>
    (Text.readFloat? h.time).map fun _ => (n, h.text)

lemma shownOf_of_unread (level : Int) (h : Header.read? msg = none) :
    shownOf level msg = some (level, msg) := by
  rw [shownOf, h]

lemma known_of_lookup (h : levelNumbers.lookup severity = some level) : level ∈ knownLevels := by
  have hall : ∀ e ∈ levelNumbers, e.2 ∈ knownLevels := by decide
  obtain ⟨pre, post, hsplit, -⟩ := lookup_eq_some_iff.1 h
  exact hall (severity, level) (by rw [hsplit]; simp)

lemma ranked_rankOf (severity : String) : Ranked (rankOf severity) := by
  unfold rankOf
  split
  · next h => exact known_of_lookup h
  · trivial

lemma ranked_of_readAs (hrank : Ranked rank) (h : readAs rank msg = some (rank', shown)) :
    Ranked rank' := by
  unfold readAs at h
  split at h
  · obtain ⟨rfl, -⟩ := Prod.mk.inj (some.inj h)
    exact hrank
  · obtain ⟨x, -, hpair⟩ := map_eq_some_iff.1 h
    obtain ⟨rfl, -⟩ := Prod.mk.inj hpair
    exact ranked_rankOf _

lemma readAs_of_shown (h : shownOf level msg = some (level', shown)) :
    readAs (.int level) msg = some (.int level', shown) := by
  unfold shownOf at h
  unfold readAs
  cases hread : Header.read? msg with
  | none =>
    rw [hread] at h
    obtain ⟨rfl, rfl⟩ := Prod.mk.inj (some.inj h)
    rfl
  | some header =>
    rw [hread] at h
    obtain ⟨n, hn, hrest⟩ := bind_eq_some_iff.1 h
    obtain ⟨x, hx, hpair⟩ := map_eq_some_iff.1 hrest
    obtain ⟨rfl, rfl⟩ := Prod.mk.inj hpair
    simp only [hx, rankOf, hn]
    rfl

lemma labelOf_severity (severity : String) : labelOf (.str severity) = .ok (rankOf severity) := by
  have hnumber : levelNames.find? (fun e => (Value.int e.1).same (.str severity)) = none := by
    refine List.find?_eq_none.2 fun e _ hsame => ?_
    have hnot : (Value.int e.1).same (.str severity) = false := by
      rw [Value.same]
      all_goals simp [Value.asInt?]
    rw [hnot] at hsame
    cases hsame
  rw [labelOf, hnumber, rankOf]
  cases levelNumbers.lookup severity <;> rfl

lemma run_takeParts {groups i : Nat} {c : Pattern.Cursor} {keys : List Value} {v : Value}
    (hi : i ≤ groups) (hv : readLike ((s.record.get? key).getD (.str "")) (c.group? i) = .ok v) :
    (takeParts groups c i (.str key :: keys)).run s =
      (takeParts groups c (i + 1) keys).run { s with record := s.record.set key v } := by
  have hkey : (pure key : FormatM String).run s = .ok key s := rfl
  have hnot : ¬ groups < i := by omega
  rw [takeParts]
  rw [run_bind hkey, run_bind (run_get s), if_neg hnot, run_bind (run_liftExcept hv s),
    run_bind (run_modify _ s)]

lemma run_alignLevel (hname : s.record.levelName = .str severity) :
    (alignLevel headerParts).run s =
      .ok () { s with record := s.record.set "levelno" (rankOf severity) } := by
  have hnamed : headerParts.contains (.str "levelname") = .ok true := by
    with_unfolding_all rfl
  have hnumbered : headerParts.contains (.str "levelno") = .ok false := by
    with_unfolding_all rfl
  unfold alignLevel
  rw [run_bind (run_liftExcept hnamed s), run_bind (run_liftExcept hnumbered s),
    run_bind (run_get s), hname]
  rw [if_pos (by decide), run_bind (run_liftExcept (labelOf_severity severity) s)]
  rfl

/-- The record of a message whose header has told its severity. -/
def Scratch.marked (s : Scratch) (header : Header) : Scratch :=
  { s with record := s.record.set "levelname" (.str header.severity) }

lemma Pretty.Fit.exists_parts (hp : p.Fit) (h : s.record.Carries name rank msg) {header : Header}
    (hread : Header.read? msg = some header) :
    ∃ c : Pattern.Cursor, c.group? 2 = some header.time ∧ c.group? 3 = some header.text ∧
      p.recognise.run s = (takeParts headerPattern.groups c 2 [.str "created", .str "msg"] >>=
        fun _ => alignLevel headerParts).run (s.marked header) := by
  obtain ⟨c, hmatch, hseverity, htime, htext⟩ := matchAt_of_read? hread
  obtain ⟨label, hlabel⟩ := h.label
  have hlevelname : readLike ((s.record.get? "levelname").getD (.str "")) (c.group? 1) =
      .ok (.str header.severity) := by
    rw [hseverity, Record.get?, hlabel]
    rfl
  have helements : headerParts.elements? =
      some [.str "levelname", .str "created", .str "msg"] := rfl
  refine ⟨c, htime, htext, ?_⟩
  unfold Pretty.recognise
  rw [run_bind (run_get s), h.msg_eq, hp.pattern, hp.parts]
  dsimp only
  rw [hmatch, helements]
  exact run_bind_congr (run_takeParts (by decide) hlevelname)

lemma Pretty.Fit.exists_recognise (hp : p.Fit) (h : s.record.Carries name rank msg)
    (hshown : readAs rank msg = some (rank', shown)) :
    ∃ t, p.recognise.run s = .ok () t ∧ t.record.Carries name rank' shown ∧
      t.sources = s.sources := by
  unfold readAs at hshown
  cases hread : Header.read? msg with
  | none =>
    rw [hread] at hshown
    obtain ⟨rfl, rfl⟩ := Prod.mk.inj (some.inj hshown)
    unfold Pretty.recognise
    rw [run_bind (run_get s), h.msg_eq, hp.pattern]
    dsimp only
    rw [matchAt_eq_none hread]
    exact ⟨s, rfl, h, rfl⟩
  | some header =>
    rw [hread] at hshown
    obtain ⟨x, hx, hpair⟩ := map_eq_some_iff.1 hshown
    obtain ⟨rfl, rfl⟩ := Prod.mk.inj hpair
    obtain ⟨c, htime, htext, hrun⟩ := hp.exists_parts h hread
    have hcreated : readLike (((s.marked header).record.get? "created").getD (.str ""))
        (c.group? 2) = .ok (.float x) := by
      simp only [htime, Record.get?, getD_some, readLike, hx]
    have hmsg : readLike ((((s.marked header).record.set "created" (.float x)).get? "msg").getD
        (.str "")) (c.group? 3) = .ok (.str header.text) := by
      have hkept : ((s.marked header).record.set "created" (.float x)).msg = .str msg := h.msg_eq
      simp only [htext, Record.get?, getD_some, hkept, readLike]
    have hparts : (takeParts headerPattern.groups c 2 [.str "created", .str "msg"]).run
        (s.marked header) = .ok () _ :=
      (run_takeParts (by decide) hcreated).trans <|
        (run_takeParts (by decide) hmsg).trans rfl
    rw [hrun, run_bind hparts]
    exact ⟨_, run_alignLevel rfl, ⟨h.name_eq, rfl, ⟨_, rfl⟩, rfl, h.args⟩, rfl⟩

lemma Pretty.Fit.exists_format (hp : p.Fit) (hs : Shines s.sources)
    (h : s.record.Carries name rank msg) (hrank : Ranked rank)
    (hshown : readAs rank msg = some (rank', shown)) :
    ∃ head t, p.format.run s = .ok (head ++ p.template.joint ++ shown) t ∧
      t.record.Carries name rank' shown ∧ Shines t.sources := by
  obtain ⟨t, hrun, hcarries, hkept⟩ := hp.exists_recognise h hshown
  rw [Pretty.format, run_bind hrun]
  exact hp.exists_present (hkept ▸ hs) hcarries (ranked_of_readAs hrank hshown)

def Formatter.template : Formatter → Template
  | .plain t => t
  | .pretty p => p.template

/-- Is it a pretty formatter of a launch? -/
def Formatter.Fit : Formatter → Prop
  | .plain _ => False
  | .pretty p => p.Fit

lemma Formatter.Fit.exists_run {f : Formatter} (hf : f.Fit) (hue : Float)
    (h : r.Carries name rank msg) (hrank : Ranked rank)
    (hshown : readAs rank msg = some (rank', shown)) :
    ∃ head f' hue' r', f.run hue r = (.ok (head ++ f.template.joint ++ shown), f', hue', r') ∧
      f'.Fit ∧ f'.template = f.template ∧ r'.Carries name rank' shown := by
  cases f with
  | plain t => cases hf
  | pretty p =>
    have hp : p.Fit := hf
    obtain ⟨head, t, hrun, hcarries, hsources⟩ :=
      Pretty.Fit.exists_format (s := ⟨r, hue, p.sourceColors⟩) hp hp.sources h hrank hshown
    refine ⟨head, .pretty { p with sourceColors := t.sources }, t.hue, t.record, ?_, ?_, rfl,
      hcarries⟩
    · simp only [Formatter.run, hrun]
      rfl
    · exact ⟨hp.template, hp.pattern, hp.parts, hsources, hp.levels⟩

lemma Pretty.Fit.run_untimed (hp : p.Fit) (hue : Float) (h : r.Carries name rank msg)
    {header : Header} (hread : Header.read? msg = some header)
    (htime : Text.readFloat? header.time = none) :
    let out := (Formatter.pretty p).run hue r
    (∃ text, out.1 = .error (.silent .invalidValue text)) ∧ out.2.2.2.level = rank := by
  obtain ⟨c, hgroup, -, hrun⟩ := Pretty.Fit.exists_parts (s := ⟨r, hue, p.sourceColors⟩) hp h hread
  have hkey (u : Scratch) : (pure "created" : FormatM String).run u = .ok "created" u := rfl
  have hparts (u : Scratch) : ∃ text,
      (takeParts headerPattern.groups c 2 [.str "created", .str "msg"]).run u =
        .error (.silent .invalidValue text) u := by
    rw [takeParts]
    rw [run_bind (hkey u), run_bind (run_get u), if_neg (by decide), hgroup]
    simp only [Record.get?, getD_some, readLike, htime]
    exact ⟨_, rfl⟩
  obtain ⟨text, hparts⟩ := hparts _
  have hformat := run_bind_error (f := fun _ => p.present) (hrun.trans (run_bind_error hparts))
  simp only [Formatter.run, Pretty.format, hformat]
  exact ⟨⟨text, rfl⟩, h.level_eq⟩

/-- A pretty formatter makes a line of a message unless the time in its header cannot be read. The
level of the record can be compared with that of the next handler unless the severity is unknown. -/
theorem formatted_unless_untimed (hp : p.Fit) (hue : Float) (h : r.Carries name (.int level) msg)
    (hlevel : level ∈ knownLevels) :
    let out := (Formatter.pretty p).run hue r
    (readAs (.int level) msg = none →
      (∃ text, out.1 = .error (.silent .invalidValue text)) ∧ out.2.2.2.level = .int level) ∧
    ∀ rank shown, readAs (.int level) msg = some (rank, shown) →
      (∃ head, out.1 = .ok (head ++ p.template.joint ++ shown)) ∧ out.2.2.2.level = rank ∧
      ∀ least : Int, (reaches out.2.2.2.level (.int least)).isOk ↔ ∃ n, rank = .int n := by
  have hrank : Ranked (.int level) := hlevel
  refine ⟨fun hread => ?_, fun rank shown hread => ?_⟩
  · unfold readAs at hread
    cases hheader : Header.read? msg with
    | none =>
      rw [hheader] at hread
      cases hread
    | some header =>
      rw [hheader] at hread
      exact hp.run_untimed hue h hheader (map_eq_none_iff.1 hread)
  · obtain ⟨head, f', hue', r', hrun, -, -, hr'⟩ :=
      Formatter.Fit.exists_run (f := .pretty p) hp hue h hrank hread
    rw [hrun]
    refine ⟨⟨head, rfl⟩, hr'.level_eq, fun least => ?_⟩
    rw [hr'.level_eq]
    have hrank' := ranked_of_readAs hrank hread
    cases rank with
    | int n => exact ⟨fun _ => ⟨n, rfl⟩, fun _ => rfl⟩
    | str label => exact ⟨fun h => (by cases h), by rintro ⟨_, ⟨⟩⟩⟩
    | _ => cases hrank'

def infoRecord (msg : String) : Record :=
  { name := .str "/talker", level := .int info, levelName := .str "INFO", created := 0, msg := .str msg }

lemma infoRecord_carries (msg : String) : (infoRecord msg).Carries "/talker" (.int info) msg :=
  ⟨rfl, rfl, ⟨"INFO", rfl⟩, rfl, rfl⟩

lemma exists_default : ∃ p, Pretty.make {} = .ok p ∧ p.Fit := by
  have hmode : Registry.modeColors (.str "default") = .ok (defaultSourceColor, .null) := rfl
  obtain ⟨hsources, hlevels⟩ := shines_modeColors hmode
  exact exists_make (.inl rfl) hsources hlevels

theorem formatted_unless_untimed_hello : ∃ p head, Pretty.make {} = .ok p ∧
    ((Formatter.pretty p).run 0 (infoRecord "hello")).1 =
      .ok (head ++ p.template.joint ++ "hello") := by
  obtain ⟨p, hmake, hp⟩ := exists_default
  have hread : Header.read? "hello" = none := by decide +kernel
  obtain ⟨⟨head, hline⟩, -⟩ := (formatted_unless_untimed hp 0 (infoRecord_carries "hello")
    (by decide)).2 (.int info) "hello" (by rw [readAs, hread])
  exact ⟨p, head, hmake, hline⟩

theorem not_formatted_untimed : ∃ p text, Pretty.make {} = .ok p ∧
    ((Formatter.pretty p).run 0 (infoRecord "%%INFO%%1.2.3%%x")).1 =
      .error (.silent .invalidValue text) := by
  obtain ⟨p, hmake, hp⟩ := exists_default
  have hread : Header.read? "%%INFO%%1.2.3%%x" = some ⟨"INFO", "1.2.3", "x"⟩ := by decide +kernel
  obtain ⟨⟨text, hline⟩, -⟩ := hp.run_untimed 0 (infoRecord_carries _) hread
    (isNone_iff_eq_none.1 (by decide +kernel))
  exact ⟨p, text, hmake, hline⟩

namespace Registry

variable {r r' : Registry} {logger : String} {level' : Int} {shown : String}
variable {i : Nat} {places : List (Target × Template)} {record : Record}

/-- A place in the table of formatters has a pretty one of a launch, with a template. -/
def Dresses (formatters : Array Formatter) (j : Nat) (template : Template) : Prop :=
  ∃ f, formatters[j]? = some f ∧ f.Fit ∧ f.template = template

/-- Nothing has changed but the colors of sources. -/
structure Redressed (r r' : Registry) : Prop where
  eq : ∃ formatters hue, r' = { r with formatters, hue }
  dresses : ∀ j template, Dresses r.formatters j template → Dresses r'.formatters j template

instance : IsPreorder Registry Redressed where
  refl _ := ⟨⟨_, _, rfl⟩, fun _ _ => id⟩
  trans := by
    rintro _ _ _ ⟨⟨_, _, rfl⟩, h⟩ ⟨⟨_, _, rfl⟩, h'⟩
    exact ⟨⟨_, _, rfl⟩, fun j template => h' j template ∘ h j template⟩

/-- A handler takes the messages of a logger and writes them to a target after a template. -/
def Serves (r : Registry) (logger : String) (i : Nat) (place : Target × Template) : Prop :=
  ∃ h j, r.handlers[i]? = some h ∧ h.level ≤ 0 ∧ h.target = place.1 ∧
    formatterFor h (.str logger) = some (some j) ∧ Dresses r.formatters j place.2

variable {place : Target × Template} {lines : Lines} {k : Handler}

lemma Serves.redressed (h : r.Serves logger i place) (hr : r.Redressed r') :
    r'.Serves logger i place := by
  obtain ⟨k, j, hk, hlevel, htarget, hformatter, hdresses⟩ := h
  have hdresses' := hr.dresses j place.2 hdresses
  obtain ⟨fs, hue, rfl⟩ := hr.eq
  exact ⟨k, j, hk, hlevel, htarget, hformatter, hdresses'⟩

lemma nonneg_of_known (h : level ∈ knownLevels) : 0 ≤ level := by
  have hall : ∀ level ∈ knownLevels, (0 : Int) ≤ level := by decide
  exact hall level h

def ShowsAt (shown : String) (line : Target × String) (place : Target × Template) : Prop :=
  line.1 = place.1 ∧ ∃ head, line.2 = head ++ place.2.joint ++ shown ++ "\n"

lemma targets_of_shows (h : List.Forall₂ (ShowsAt shown) lines places) :
    lines.map Prod.fst = places.map Prod.fst := by
  induction h with
  | nil => rfl
  | cons hline _ ih => rw [map_cons, map_cons, hline.1, ih]

lemma exists_head_of_shows (h : List.Forall₂ (ShowsAt shown) lines places) :
    ∀ line ∈ lines, ∃ head, line.2 = head ++ shown ++ "\n" := by
  induction h with
  | nil => exact fun line hline => absurd hline not_mem_nil
  | cons hline _ ih =>
    obtain ⟨-, head, hhead⟩ := hline
    exact forall_mem_cons.2 ⟨⟨_, hhead⟩, ih⟩

lemma redressed_set {j : Nat} {f f' : Formatter} (hf : r.formatters[j]? = some f) (hfit : f'.Fit)
    (htemplate : f'.template = f.template) (hue : Float) :
    r.Redressed { r with formatters := r.formatters.set! j f', hue := hue } := by
  refine ⟨⟨_, _, rfl⟩, fun m template ⟨g, hg, hgfit, hgtemplate⟩ => ?_⟩
  have hlt : j < r.formatters.size := (Array.getElem?_eq_some_iff.1 hf).1
  unfold Dresses
  rw [Array.set!_eq_setIfInBounds, Array.getElem?_setIfInBounds]
  by_cases hjm : j = m
  · subst hjm
    rw [hf] at hg
    rw [if_pos rfl, if_pos hlt]
    exact ⟨f', rfl, hfit, by rw [htemplate, some.inj hg, hgtemplate]⟩
  · rw [if_neg hjm]
    exact ⟨g, hg, hgfit, hgtemplate⟩

lemma exists_deliver_of_le {j : Nat} (hk : r.handlers[i]? = some k)
    (hformatter : formatterFor k (.str logger) = some (some j)) {template : Template}
    (hdresses : Dresses r.formatters j template) (h : record.Carries logger (.int level) msg)
    (hlevel : level ∈ knownLevels) (hle : k.level ≤ level)
    (hshown : shownOf level msg = some (level', shown)) (is : List Nat)
    (out : Lines) :
    ∃ line r' record', r.deliver (i :: is) record out = r'.deliver is record' (out ++ [line]) ∧
      ShowsAt shown line (k.target, template) ∧ r.Redressed r' ∧
      record'.Carries logger (.int level') shown := by
  obtain ⟨f, hf, hfit, htemplate⟩ := hdresses
  obtain ⟨head, f', hue', record', hrun, hfit', htemplate', hcarries⟩ :=
    hfit.exists_run r.hue h hlevel (readAs_of_shown hshown)
  have hformat : r.formatAt k record = (.ok (head ++ f.template.joint ++ shown),
      { r with formatters := r.formatters.set! j f', hue := hue' }, record') := by
    simp only [formatAt, h.name_eq, hformatter, hf, hrun]
  have hreaches : reaches record.level (.int k.level) = .ok true := by
    rw [h.level_eq, reaches_int, decide_eq_true hle]
  refine ⟨(k.target, head ++ f.template.joint ++ shown ++ "\n"),
    { r with formatters := r.formatters.set! j f', hue := hue' }, record', ?_,
    ⟨rfl, head, by rw [htemplate]⟩, redressed_set hf hfit' htemplate' hue', hcarries⟩
  rw [deliver, hk]
  dsimp only
  rw [hreaches]
  rw [hformat]

lemma deliver_of_lt (hk : r.handlers[i]? = some k) (h : record.Carries logger (.int level) msg)
    (hlt : level < k.level) (is : List Nat) (out : Lines) :
    r.deliver (i :: is) record out = r.deliver is record out := by
  have hreaches : reaches record.level (.int k.level) = .ok false := by
    rw [h.level_eq, reaches_int, decide_eq_false (Int.not_le.2 hlt)]
  rw [deliver, hk]
  dsimp only
  rw [hreaches]

lemma exists_deliver_cons (hi : r.Serves logger i place) (h : record.Carries logger (.int level) msg)
    (hlevel : level ∈ knownLevels) (hshown : shownOf level msg = some (level', shown))
    (is : List Nat) (out : Lines) :
    ∃ line r' record', r.deliver (i :: is) record out = r'.deliver is record' (out ++ [line]) ∧
      ShowsAt shown line place ∧ r.Redressed r' ∧ record'.Carries logger (.int level') shown := by
  obtain ⟨k, j, hk, hk0, htarget, hformatter, hdresses⟩ := hi
  have hle := Int.le_trans hk0 (nonneg_of_known hlevel)
  obtain ⟨target, template⟩ := place
  obtain rfl : k.target = target := htarget
  exact exists_deliver_of_le hk hformatter hdresses h hlevel hle hshown is out

lemma exists_deliver {is : List Nat} (his : List.Forall₂ (r.Serves logger) is places)
    (h : record.Carries logger (.int level) msg) (hlevel : level ∈ knownLevels)
    (hshown : shownOf level msg = some (level', shown)) (hunread : Header.read? shown = none)
    (out : Lines) :
    ∃ lines r', r.deliver is record out = (r', out ++ lines, .ok ()) ∧
      List.Forall₂ (ShowsAt shown) lines places ∧ r.Redressed r' := by
  -- only the first handler finds a header
  induction is generalizing r record level msg out places with
  | nil =>
    cases his
    exact ⟨[], r, by rw [deliver, append_nil], .nil, refl_of Redressed r⟩
  | cons i is ih =>
    obtain ⟨place, places, hi, hrest, rfl⟩ := forall₂_cons_left_iff.1 his
    obtain ⟨line, r₁, record₁, hstep, hline, hr₁, hrecord₁⟩ :=
      exists_deliver_cons hi h hlevel hshown is out
    have hrest₁ : List.Forall₂ (r₁.Serves logger) is places :=
      hrest.imp fun _ _ hserves => hserves.redressed hr₁
    have hrank : Ranked (.int level) := hlevel
    obtain ⟨lines, r₂, hlines, hshows, hr₂⟩ := ih hrest₁ hrecord₁
      (ranked_of_readAs hrank (readAs_of_shown hshown))
      (shownOf_of_unread level' hunread) (out ++ [line])
    refine ⟨line :: lines, r₂, ?_, .cons hline hshows, trans_of Redressed hr₁ hr₂⟩
    rw [hstep, hlines, append_assoc]
    rfl

lemma exists_log_eq (hlevel : level ∈ knownLevels)
    (hleast : reaches (.int level) r.leastLevel = .ok true) (msg : String) (now : Float) :
    ∃ record : Record, record.Carries logger (.int level) msg ∧
      r.log logger (.int level) (.str msg) now [] = r.deliver (r.handlersOf logger) record [] := by
  obtain ⟨label, hlabel⟩ := exists_labelOf hlevel
  obtain ⟨record, hmade, hcarries⟩ : ∃ record, Record.ofValues (.str logger) (.int level) (.str msg)
      (argumentsOf []) now (millisOf now) = .ok record ∧ record.Carries logger (.int level) msg := by
    rw [Record.ofValues, hlabel]
    exact ⟨_, rfl, rfl, rfl, ⟨label, rfl⟩, rfl, rfl⟩
  refine ⟨record, hcarries, ?_⟩
  simp only [Registry.log, hleast, hmade]
  rfl

lemma exists_log (his : List.Forall₂ (r.Serves logger) (r.handlersOf logger) places)
    (hlevel : level ∈ knownLevels) (hleast : reaches (.int level) r.leastLevel = .ok true)
    (hshown : shownOf level msg = some (level', shown)) (hunread : Header.read? shown = none)
    (now : Float) :
    ∃ lines r', r.log logger (.int level) (.str msg) now [] = (r', lines, .ok ()) ∧
      List.Forall₂ (ShowsAt shown) lines places ∧ r.Redressed r' := by
  obtain ⟨record, hcarries, hlog⟩ := exists_log_eq hlevel hleast msg now
  obtain ⟨lines, r', hlines, hshows, hr'⟩ :=
    exists_deliver his hcarries hlevel hshown hunread []
  exact ⟨lines, r', hlog.trans hlines, hshows, hr'⟩

end Registry

end Log

end Launchpad
