import Launchpad.Proofs.Command.RoundTrip
import Launchpad.Proofs.Lifecycle.Manager
import Mathlib.Data.Rat.Floor

/-!
Waiting for something to appear in the node graph. A wait looks at once and then every tenth of a
second, until it sees what it waits for or the time has run out. Main statement: with an exact
clock no wait gives up before its time, and none misses what was there in time.
-/

namespace Launchpad

open Launch
open Script (GraphEntry)

/-- The clock at a look of a wait that begins in this session. -/
def Session.look (s : Session) (k : Nat) : Int :=
  s.world.clock + 100 * k

/-- A session at a look of a wait that began in `s`. -/
structure Session.Awaits (s : Session) (k : Nat) (t : Session) : Prop where
  world : t.world = { s.world with clock := s.look k }
  nodes : t.nodes = s.nodes
  launcher : t.launcher.isSome

/-- A timeout is a number of seconds that stands for `d` milliseconds, and the clock is exact: at
every look, up to the first one behind the limit, comparing it with the limit says what is true, and
no time has passed between the look and itself. -/
structure Session.Exact (s : Session) (timeout : Value) (x : Float) (d : ℚ) : Prop where
  number : timeout.number?.map Number.toFloat = some (.ok x)
  nonneg : 0 ≤ d
  whole : d < 1000 * (Calendar.wholeInt x + 1)
  behind : ∀ k : ℕ, 100 * k ≤ d + 100 →
    (timeOf s.world.clock + x < timeOf (s.look k) ↔ d < 100 * k)
  reached : ∀ k : ℕ, 100 * k ≤ d + 100 →
    (timeOf s.world.clock + x ≤ timeOf (s.look k) ↔ d ≤ 100 * k)
  instant : ∀ k : ℕ, 100 * k ≤ d + 100 → timeOf (s.look k) + 0.0 ≤ timeOf (s.look k)

/-- The answer `b` of a wait from `s` to `u`: whether something is seen at one of its looks. It is
given at the latest at the first look behind the limit, and it is no only when the limit is reached
and nothing was to be seen up to the limit. -/
structure Session.Answers (s : Session) (seen : Int → Bool) (d : ℚ) (b : Bool) (u : Session) :
    Prop where
  looks : ∃ k, u.world.clock = s.look k ∧ (b = true ↔ ∃ j ≤ k, seen (s.look j))
  prompt : u.world.clock ≤ s.world.clock + d + 100
  patient : b = false → s.world.clock + d ≤ u.world.clock
  alert : b = false → ∀ c : Int, c ≤ s.world.clock + d → seen c = false

/-- Has the time run out at a look? -/
def late (s : Session) (x : Float) (reached : Bool) (k : Nat) : Bool :=
  if reached then timeOf (s.look k) ≥ timeOf s.world.clock + x
  else timeOf (s.look k) > timeOf s.world.clock + x

/-- The looks of a wait, up to the last one, tell what is seen at their time. -/
def Looks (s : Session) (found : Launch Bool) (seen : Int → Bool) (last : Nat) : Prop :=
  ∀ k ≤ last, ∀ t, s.Awaits k t →
    Succeeds found t fun b u => b = seen (s.look k) ∧ s.Awaits k u

/-- A wait ends at the first look that sees something or finds the time run out, and tells whether
something is seen then. -/
def Ended (s : Session) (x : Float) (reached : Bool) (seen : Int → Bool) (last : Nat) (b : Bool)
    (u : Session) : Prop :=
  ∃ k ≤ last, s.Awaits k u ∧ b = seen (s.look k) ∧ (∀ j < k, seen (s.look j) = false) ∧
    (b = false → late s x reached k)

variable {s t : Session} {k last : Nat} {timeout : Value} {x : Float} {reached : Bool}
  {found : Launch Bool} {seen : Int → Bool}

lemma awaits_zero (hs : s.launcher.isSome) : s.Awaits 0 s :=
  ⟨by simp [Session.look], rfl, hs⟩

lemma run_sleep (t : Session) : (sleep 0.1).run t =
    .ok () { t with world := { t.world with clock := t.world.clock + 100 } } := by
  have hms : (0.1 * 1000.0 : Float).isNaN = false ∧ (0.1 * 1000.0 : Float).isInf = false ∧
      Calendar.roundEven (0.1 * 1000.0) = 100 := by decide +kernel
  simp only [sleep, millis, hms]
  rfl

section Rounds

variable (hx : timeout.number?.map Number.toFloat = some (.ok x))

include hx

lemma run_timedOut (h : s.Awaits k t) :
    (timedOut (timeOf s.world.clock) timeout reached).run t = .ok (late s x reached k) t := by
  obtain ⟨a, ha, hax⟩ := Option.map_eq_some_iff.1 hx
  have hclock : t.world.clock = s.look k := by rw [h.world]
  unfold timedOut
  split
  · cases ha
  · simp only [seconds, ha, hax, lift, now, late]
    show EStateM.Result.ok _ t = _
    rw [hclock]

lemma yields_waitUntil {n : Nat} (hlook : Looks s found seen last)
    (hlast : late s x reached last) (hk : k ≤ last) (hn : last < k + n) (h : s.Awaits k t)
    (hbefore : ∀ j < k, seen (s.look j) = false) :
    Succeeds (waitUntil found timeout reached (timeOf s.world.clock) n) t
      (Ended s x reached seen last) := by
  induction n generalizing k t with
  | zero => omega
  | succ n ih =>
    refine (hlook k hk t h).bind ?_
    rintro b u ⟨rfl, hu⟩
    refine .ite_of (fun hseen => ?_) fun hseen => ?_
    · exact .pure ⟨k, hk, hu, hseen.symm, hbefore, by simp⟩
    · rw [Bool.not_eq_true] at hseen
      refine .of_bind (yields_of_run_ok (run_timedOut hx hu) ?_)
      refine .ite_of (fun hlate => ?_) fun hin => ?_
      · exact .pure ⟨k, hk, hu, hseen.symm, hbefore, fun _ => hlate⟩
      · have hlt : k < last := lt_of_le_of_ne hk (by rintro rfl; exact hin hlast)
        refine .of_bind (yields_of_run_ok (run_sleep u) ?_)
        refine ih hlt (by omega) ⟨?_, hu.nodes, hu.launcher⟩ ?_
        · simp only [hu.world, Session.look, Nat.cast_succ, mul_add, mul_one, add_assoc]
        · intro j hj
          rcases Nat.lt_succ_iff_lt_or_eq.1 hj with hj | rfl
          · exact hbefore j hj
          · exact hseen

lemma yields_wait (hs : s.launcher.isSome) (hlook : Looks s found seen last)
    (hlast : late s x reached last) (hrounds : last < 10 * (Calendar.wholeInt x).toNat + 15) :
    Succeeds (wait found timeout reached) s (Ended s x reached seen last) := by
  obtain ⟨n, hn, hle⟩ : ∃ n, (waitRounds timeout).run s = .ok n s ∧
      10 * (Calendar.wholeInt x).toNat + 15 ≤ n := by
    refine ⟨_, rfl, ?_⟩
    simp only [hx]
    omega
  refine .of_bind (yields_of_run_ok hn (.of_bind (.of_bind (.get (.pure ?_)))))
  exact yields_waitUntil hx hlook hlast (Nat.zero_le _) (by omega) (awaits_zero hs) (by simp)

end Rounds

/-! ## What a look sees -/

section Seeing

variable (h : s.Awaits k t)

include h

lemma Session.Awaits.useAdapter : Succeeds useAdapter t fun _ => s.Awaits k := by
  obtain ⟨l, hl⟩ := Option.isSome_iff_exists.1 h.launcher
  simp only [Launch.useAdapter, getLauncher, yields_bind, yields_get, hl, yields_pure]
  refine .ite (.pure h) (.of_bind (.modify (.modify ⟨h.world, h.nodes, ?_⟩)))
  simp [hl]

lemma Session.Awaits.read {α : Type} (f : World → α) :
    Succeeds (do Launch.useAdapter; let w := (← get).world; return f w) t fun a u =>
      a = f { s.world with clock := s.look k } ∧ s.Awaits k u :=
  h.useAdapter.bind fun _ _ hu => .of_bind (.get (.pure ⟨by rw [hu.world], hu⟩))

end Seeing

/-- Is there an entry of that name at some time? -/
def listed (es : List GraphEntry) (name : String) (c : Int) : Bool :=
  (visible c es).any fun e => e.name == name

/-- Is a node of that full name registered at some time? -/
def registered (es : List GraphEntry) (fullname : String) (c : Int) : Bool :=
  (visible c es).any fun e =>
    fullname == e.ns ++ (if Text.endsWith e.ns "/" then "" else "/") ++ e.name

/-- Is a service of that name and type offered at some time? -/
def offered (es : List GraphEntry) (name type : String) (c : Int) : Bool :=
  (visible c es).any fun e => e.name == name && e.types.contains type

lemma visible_mono {es : List GraphEntry} {p : GraphEntry → Bool} {c d : Int} (hle : c ≤ d)
    (h : (visible c es).any p) : (visible d es).any p := by
  simp only [visible, List.any_filter, List.any_eq_true, Bool.and_eq_true,
    decide_eq_true_eq] at h ⊢
  obtain ⟨e, he, hsince, hp⟩ := h
  exact ⟨e, he, hsince.trans hle, hp⟩

lemma looks_listed {entries : Launch (List GraphEntry)} {es : List GraphEntry} (name : String)
    (h : ∀ k t, s.Awaits k t →
      Succeeds entries t fun a u => a = visible (s.look k) es ∧ s.Awaits k u) :
    Looks s (do return (← entries).any fun e => Value.str e.name == .str name) (listed es name)
      last :=
  fun k _ t ht => (h k t ht).bind fun _ _ ha =>
    .pure ⟨by rw [ha.1]; exact congrArg _ (funext fun _ => Value.same_str _ _), ha.2⟩

variable {i : Nat} {n : Node} (hn : s.nodes[i]? = some n) (hgraph : s.world.graph.failing = false)

include hn hgraph

lemma looks_registered :
    Looks s (do
      let names ← graphNodeNames
      return names.contains (← getNode i).fullname)
      (registered s.world.graph.nodes n.fullname) last := by
  intro k _ t h
  refine .of_bind (h.useAdapter.bind fun _ u hu => .of_bind (.get ?_))
  rw [hu.world]
  simp only [hgraph]
  refine .pure ((yields_getNode (hu.nodes ▸ hn)).exactly (.pure ⟨?_, hu⟩))
  rw [List.contains_eq_any_beq, List.any_map]
  rfl

variable (hkind : ∀ v, n.kind ≠ .service v)

include hkind

lemma yields_isConnected (hs : s.launcher.isSome)
    (hx : timeout.number?.map Number.toFloat = some (.ok x))
    (hlast : late s x true last) (hrounds : last < 10 * (Calendar.wholeInt x).toNat + 15) :
    Succeeds (isConnected i timeout) s fun v u => ∃ b, v = .bool b ∧
      Ended s x true (registered s.world.graph.nodes n.fullname) last b u := by
  have hwait := yields_wait hx hs (looks_registered hn hgraph) hlast hrounds
  refine (yields_getNode hn).exactly ?_
  split
  · next v hv => exact absurd hv (hkind v)
  · refine .of_bind (.get ?_)
    rw [if_neg (by simpa [← Option.isSome_iff_ne_none] using hs)]
    refine (hwait.bind fun b _ hb => ?_).catchFault (fun _ _ h => h.elim) fun _ _ h => h
    exact .pure ⟨b, rfl, hb⟩

omit hn hgraph hkind in
lemma offered_eq {es : List GraphEntry} (h : (es.map (·.name)).Nodup) (n suffix type : String) :
    ((es.filter fun e => Text.startsWith e.name n).foldl (fun acc e =>
      Entries.insert acc (.str e.name) (.list (e.types.map .str))) []).any (fun (k, ts) =>
        k == .str (n ++ suffix) && match ts with
          | .list ts => ts.contains (.str type)
          | _ => false) = es.any fun e => e.name == n ++ suffix && e.types.contains type := by
  set fs := es.filter fun e => Text.startsWith e.name n
  let entry (e : GraphEntry) : Value × Value := (.str e.name, .list (e.types.map .str))
  have hdistinct : Entries.Distinct (fs.map entry) := by
    refine List.pairwise_map.2 ((List.pairwise_map.1 h).filter _ |>.imp fun hne => ?_)
    simpa [entry, Value.alike, Value.same_str, Value.bothNaN] using hne
  have hfold : fs.foldl (fun acc e => Entries.insert acc (entry e).1 (entry e).2) [] =
      fs.map entry := by
    have hupdate := @Entries.update_of_distinct [] _ hdistinct
    rwa [Entries.update, List.foldl_map] at hupdate
  have htype (ts : List String) : (ts.map Value.str).contains (.str type) = ts.contains type := by
    rw [List.contains_eq_any_beq, List.any_map, List.contains_eq_any_beq]
    exact congrArg _ (funext fun _ => Value.same_str _ _)
  rw [hfold, List.any_map, List.any_filter]
  refine congrArg _ (funext fun e => ?_)
  simp only [Function.comp, entry, htype]
  have hsame : (Value.str e.name == .str (n ++ suffix)) = (e.name == n ++ suffix) :=
    Value.same_str _ _
  rw [hsame]
  by_cases hname : e.name = n ++ suffix
  · simp [hname, Text.startsWith]
  · simp [hname]

lemma looks_offered (hnames : (s.world.graph.services.map (·.name)).Nodup)
    (hnow : ∀ k ≤ last, timeOf (s.look k) + 0.0 ≤ timeOf (s.look k)) (suffix type : String) :
    Looks s (do
      let services ← publishedServices i
      let name := (← getNode i).fullname ++ suffix
      return services.any fun (k, ts) => k == .str name && match ts with
        | .list ts => ts.contains (.str type)
        | _ => false)
      (fun c => registered s.world.graph.nodes n.fullname c &&
        offered s.world.graph.services (n.fullname ++ suffix) type c) last := by
  intro k hk t h
  have hclock : t.look 0 = s.look k := by simp [Session.look, h.world]
  have hlate : late t 0.0 true 0 := by simpa [late, hclock, h.world] using hnow k hk
  have hconnected : Succeeds (isConnected i (.float 0.0)) t fun v u => ∃ b, v = .bool b ∧
      Ended t 0.0 true (registered t.world.graph.nodes n.fullname) 0 b u :=
    yields_isConnected (h.nodes ▸ hn) (by simpa [h.world]) hkind h.launcher rfl hlate (by omega)
  refine .of_bind (.of_bind (hconnected.map ?_))
  rintro _ u ⟨b, rfl, _, hj, hu, hb, -⟩
  obtain rfl := Nat.le_zero.1 hj
  have hu : s.Awaits k u :=
    ⟨by rw [hu.world, hclock, h.world], hu.nodes.trans h.nodes, hu.launcher⟩
  rw [hclock, h.world] at hb
  dsimp only
  rw [← hb]
  refine .ite_of (fun hnot => .pure ?_) fun hconn => ?_
  · obtain rfl : b = false := by simpa [Value.truthy] using hnot
    exact (yields_getNode (hu.nodes ▸ hn)).exactly (.pure ⟨by simp, hu⟩)
  · obtain rfl : b = true := by simpa [Value.truthy] using hconn
    refine (yields_getNode (hu.nodes ▸ hn)).exactly ?_
    refine (hu.read fun w => visible w.clock w.graph.services).bind ?_
    rintro _ v ⟨rfl, hv⟩
    refine .pure ((yields_getNode (hv.nodes ▸ hn)).exactly (.pure ⟨?_, hv⟩))
    rw [offered_eq]
    · simp [offered]
    · exact hnames.sublist (List.filter_sublist.map _)

omit hn hgraph hkind

lemma Session.Exact.exists_last {d : ℚ} (h : s.Exact timeout x d) :
    ∃ last : ℕ, 100 * last ≤ d + 100 ∧ last < 10 * (Calendar.wholeInt x).toNat + 15 ∧
      ∀ reached, late s x reached last := by
  have hfloor := Nat.floor_le (div_nonneg h.nonneg (by norm_num : (0 : ℚ) ≤ 100))
  have hnext := Nat.lt_floor_add_one (d / 100)
  have hlt : d < 100 * (⌊d / 100⌋₊ + 1 : ℕ) := by push_cast; linarith
  have hle : 100 * (⌊d / 100⌋₊ + 1 : ℕ) ≤ d + 100 := by push_cast; linarith
  refine ⟨_, hle, ?_, fun reached => ?_⟩
  · have hwhole : (⌊d / 100⌋₊ : ℚ) < 10 * ((Calendar.wholeInt x).toNat + 1 : ℕ) := by
      have hint : (Calendar.wholeInt x : ℚ) ≤ (Calendar.wholeInt x).toNat := by
        exact_mod_cast Int.self_le_toNat _
      push_cast
      linarith [h.whole]
    have : ⌊d / 100⌋₊ < 10 * ((Calendar.wholeInt x).toNat + 1) := by exact_mod_cast hwhole
    omega
  · cases reached
    · simpa [late] using (h.behind _ hle).2 hlt
    · simpa [late] using (h.reached _ hle).2 hlt.le

/-- A wait whose looks see what stays visible answers as it should. -/
lemma Ended.answers {d : ℚ} {b : Bool} {u : Session} (h : Ended s x reached seen last b u)
    (hexact : s.Exact timeout x d) (hlast : 100 * last ≤ d + 100)
    (hstay : ∀ c c', c ≤ c' → seen c → seen c') : s.Answers seen d b u := by
  obtain ⟨k, hk, hu, rfl, hbefore, hlate⟩ := h
  have hcast : (k : ℚ) ≤ last := by exact_mod_cast hk
  have hclock : u.world.clock = s.look k := by rw [hu.world]
  have hlook : (s.look k : ℚ) = s.world.clock + 100 * k := by simp [Session.look]
  have hpatient (hb : seen (s.look k) = false) : d ≤ 100 * k := by
    have hend := hlate hb
    cases reached
    · exact ((hexact.behind k (by linarith)).1 (by simpa [late] using hend)).le
    · exact (hexact.reached k (by linarith)).1 (by simpa [late] using hend)
  refine ⟨⟨k, hclock, fun hb => ⟨k, le_rfl, hb⟩, ?_⟩, ?_, ?_, ?_⟩
  · rintro ⟨j, hj, hseen⟩
    rcases hj.lt_or_eq with hj | rfl
    · simp [hbefore j hj] at hseen
    · exact hseen
  · rw [hclock]
    linarith
  · intro hb
    rw [hclock]
    linarith [hpatient hb]
  · intro hb c hc
    by_contra hseen
    have hle : (c : ℚ) ≤ s.look k := by linarith [hpatient hb]
    simp [hstay c _ (by exact_mod_cast hle) (by simpa using hseen)] at hb

/-- Waits for a topic, a service, a node and a managed node answer as they should, if the clock is
exact. -/
theorem waits_in_time {d : ℚ} (hs : s.launcher.isSome) (hgraph : s.world.graph.failing = false)
    (hexact : s.Exact timeout x d) :
    (∀ name, Succeeds (waitForTopic (.str name) timeout) s
      (s.Answers (listed s.world.graph.topics name) d)) ∧
    (∀ name, Succeeds (waitForService (.str name) timeout) s
      (s.Answers (listed s.world.graph.services name) d)) ∧
    ∀ i n, s.nodes[i]? = some n → (∀ v, n.kind ≠ .service v) →
      (Succeeds (isConnected i timeout) s fun v u => ∃ b, v = .bool b ∧
        s.Answers (registered s.world.graph.nodes n.fullname) d b u) ∧
      ((s.world.graph.services.map (·.name)).Nodup →
        Succeeds (isManaged i timeout) s (s.Answers (fun c =>
          registered s.world.graph.nodes n.fullname c && offered s.world.graph.services
            (n.fullname ++ "/get_state") "lifecycle_msgs/srv/GetState" c) d)) := by
  obtain ⟨last, hle, hrounds, hlate⟩ := hexact.exists_last
  have answers {found : Launch Bool} {seen : Int → Bool} (hlook : Looks s found seen last)
      (hstay : ∀ c c', c ≤ c' → seen c → seen c') :
      Succeeds (wait found timeout false) s (s.Answers seen d) :=
    (yields_wait hexact.number hs hlook (hlate false) hrounds).map fun _ _ h =>
      h.answers hexact hle hstay
  refine ⟨fun name => ?_, fun name => ?_, fun i n hn hkind => ⟨?_, fun hnames => ?_⟩⟩
  · refine answers (looks_listed name fun k t ht => ?_) fun _ _ => visible_mono
    exact ht.read fun w => visible w.clock w.graph.topics
  · refine answers (looks_listed name fun k t ht => ?_) fun _ _ => visible_mono
    exact ht.read fun w => visible w.clock w.graph.services
  · refine (yields_isConnected hn hgraph hkind hs hexact.number (hlate true) hrounds).map ?_
    rintro _ u ⟨b, rfl, h⟩
    exact ⟨b, rfl, h.answers hexact hle fun _ _ => visible_mono⟩
  · refine answers (looks_offered hn hgraph hkind hnames (fun k hk => ?_) _ _) fun c c' hc h => ?_
    · have hk : (k : ℚ) ≤ last := by exact_mod_cast hk
      exact hexact.instant k (by linarith)
    · rw [Bool.and_eq_true] at h ⊢
      exact ⟨visible_mono hc h.1, visible_mono hc h.2⟩

/-- A topic that appears at the very end of the time is still seen. -/
theorem waits_in_time_last_moment :
    let s : Session := {
      world := { graph := { topics := [{ name := "/a", since := 100 }] } }
      launcher := some { logger := "", rootGroup := 0, groupStack := [], ending := 0 } }
    s.Exact (.float 0.1) 0.1 100 ∧
      Succeeds (waitForTopic (.str "/a") (.float 0.1)) s fun b _ => b = true := by
  intro s
  have looks (k : ℕ) (hk : 100 * k ≤ (100 : ℚ) + 100) : k = 0 ∨ k = 1 ∨ k = 2 := by
    have hle : k ≤ 2 := by exact_mod_cast (by linarith : (k : ℚ) ≤ 2)
    omega
  have hexact : s.Exact (.float 0.1) 0.1 100 := by
    refine ⟨rfl, by norm_num, by decide +kernel, fun k hk => ?_, fun k hk => ?_, fun k hk => ?_⟩
    all_goals
      obtain rfl | rfl | rfl := looks k hk
      all_goals decide +kernel
  refine ⟨hexact, ((waits_in_time rfl rfl hexact).1 "/a").map fun b u h => ?_⟩
  by_contra hb
  have hmissed := h.alert (by simpa using hb) 100 (by norm_num [s])
  exact absurd hmissed (by decide)

end Launchpad
