import Launchpad.Proofs.Output.Lines
import Launchpad.Proofs.Output.Sinks

/-!
What a child writes is shown. A watcher reads the chunks that its child writes one after the other,
until it finds that the child has ended. Every complete line that it has read is shown in one message
of the node; what stands behind the last line end of a stream is not, nor what is still unread.
-/

namespace Launchpad

open List

variable {s t : Session} {logger : String} {c : Nat} {chunks : List Launch.Chunk}

/-- The chunks that a child writes as long as it runs; the others are lost. -/
def Child.Speaks (child : Child) (chunks : List Launch.Chunk) : Prop :=
  ∃ lost, child.pending = chunks ++ lost ∧ lost.length = child.script.unread

lemma Child.Speaks.length_le {child : Child} (h : child.Speaks chunks) :
    chunks.length ≤ child.pending.length := by
  obtain ⟨lost, hlost, -⟩ := h
  rw [hlost, length_append]
  exact Nat.le_add_right _ _

/-- A watcher that listens to a child which has been heard so far and is still to be heard with these
chunks. What it writes behind them is there only when it is found to have ended. -/
structure Listening (s : Session) (logger : String) (c : Nat) (chunks : List Launch.Chunk) :
    Prop where
  equipped : s.log.Equipped s.world.cwd
  reaches : ∃ files, s.log.Reaches logger (.screen :: files) ∧ .screen ∉ files
  level : Log.reaches (.int Log.info) s.log.leastLevel = .ok true
  watching : s.watching = true
  child : ∃ child, s.world.children[c]? = some child ∧ child.Speaks chunks ∧
    child.code = none ∧ child.stdout = {} ∧ child.stderr = {} ∧ child.ready.length ≤ 1

lemma Listening.of_filed (h : Listening s logger c chunks) {r : Log.Registry}
    (hr : s.log.Redressed r) {out : String} (ht : Filed { s with log := r, out } t) :
    Listening t logger c chunks := by
  obtain ⟨files, hreaches, hfiles⟩ := h.reaches
  have hlevel : r.leastLevel = s.log.leastLevel := by
    obtain ⟨_, _, rfl⟩ := hr.eq
    rfl
  obtain ⟨_, rfl⟩ := ht
  exact ⟨h.equipped.redressed hr, ⟨files, hreaches.redressed hr, hfiles⟩, hlevel ▸ h.level,
    h.watching, h.child⟩

namespace Launch

variable {text : String} {child : Child} {E : Post Stop} {err : Bool}
    {rest : List Chunk}

/-! ## Messages -/

lemma filed_writeLines (lines : Log.Lines) (h : .screen ∉ lines.map Prod.fst) (s : Session) :
    Succeeds (lines.forM writeTo) s (fun _ t => Filed s t) := by
  induction lines generalizing s with
  | nil => exact .pure (refl_of Filed s)
  | cons line lines ih =>
    obtain ⟨target, text⟩ := line
    rw [map_cons, mem_cons, not_or] at h
    refine .of_bind ?_
    cases target with
    | screen => exact absurd rfl h.1
    | file path =>
      refine .modify ((ih h.2 _).map ?_)
      rintro _ _ ⟨files, rfl⟩
      exact ⟨files, rfl⟩

lemma yields_message (line : String) {lines : Log.Lines}
    (h : .screen ∉ lines.map Prod.fst) (s : Session) :
    Succeeds (((.screen, line) :: lines).forM writeTo) s
      (fun _ t => Filed { s with out := s.out ++ line } t) :=
  .of_bind (.modify (filed_writeLines lines h _))

lemma yields_info_shown (h : Listening s logger c chunks) (htext : Legible text) :
    Succeeds (info logger text) s
      (fun _ t => Listening t logger c chunks ∧
        ∃ head, t.out = s.out ++ (head ++ messagePart text ++ "\n")) := by
  obtain ⟨files, hreaches, hfiles⟩ := h.reaches
  obtain ⟨places, hplaces, hserves⟩ := hreaches.exists_places h.equipped
  obtain ⟨⟨level, hshown⟩, hunread⟩ := htext.exists_shownOf
  obtain ⟨lines, r, hlog, hlines, hr⟩ := Log.Registry.exists_log hserves (by decide) h.level hshown
    hunread (timeOf s.world.clock)
  -- The first line is that of the screen.
  obtain ⟨place, places, rfl⟩ : ∃ place rest, places = place :: rest := by
    cases places with
    | nil => cases hplaces
    | cons place rest => exact ⟨place, rest, rfl⟩
  obtain ⟨hscreen, hrest⟩ := List.cons.inj hplaces
  obtain ⟨⟨target, line⟩, lines, ⟨htarget, head, hhead⟩, hothers, rfl⟩ :=
    forall₂_cons_right_iff.1 hlines
  obtain rfl : target = .screen := htarget.trans hscreen
  have hnone : .screen ∉ lines.map Prod.fst := by
    rw [Log.Registry.targets_of_shows hothers, hrest]
    exact hfiles
  refine yields_log_lines hlog ((yields_message line hnone _).map fun _ t ht => ?_)
  refine ⟨h.of_filed hr ht, head ++ place.2.joint, ?_⟩
  obtain ⟨_, rfl⟩ := ht
  exact congrArg (s.out ++ ·) hhead

/-! ## The child -/

def Handled (c : Nat) (child : Child) (s t : Session) : Prop :=
  (∃ children, t = { s with world := { s.world with children } }) ∧
    t.world.children[c]? = some child

section

variable (h : s.world.children[c]? = some child)
include h

lemma yields_getChild_of : Yields (getChild c) s (fun d t => d = child ∧ t = s) E := by
  simp only [getChild, yields_bind, yields_get, h, yields_pure, and_self]

lemma yields_modifyChild_of (f : Child → Child) :
    Yields (modifyChild c f) s (fun _ t => Handled c (f child) s t) E := by
  refine .modify ⟨⟨_, rfl⟩, ?_⟩
  simp only [Array.getElem?_modify, if_true, h, Option.map_some]

lemma yields_pollChild_of (hwatching : s.watching = true) :
    Yields (pollChild c) s
      (fun r t => r = (Child.poll true child).code ∧ Handled c (Child.poll true child) s t) E := by
  unfold pollChild
  simp only [yields_bind, yields_get, hwatching]
  refine (yields_modifyChild_of h _).map fun _ t ht => ?_
  refine (yields_getChild_of ht.2).map ?_
  rintro _ _ ⟨rfl, rfl⟩
  exact .pure ⟨rfl, ht⟩

end

lemma unifyLineEnds_ne_empty {t : String} (h : t ≠ "") : Text.unifyLineEnds t ≠ "" := by
  have hgo {cs : Chars} (hcs : cs ≠ []) : Text.unifyLineEnds.go cs ≠ [] := by
    fun_cases Text.unifyLineEnds.go cs <;> simp_all
  intro hempty
  have hchars : Text.unifyLineEnds.go t.toList = [] := by
    rw [Text.unifyLineEnds] at hempty
    simpa using hempty
  exact hgo (by simpa using h) hchars

def pipeOf (err : Bool) (child : Child) : Pipe :=
  if err then child.stderr else child.stdout

/-! ## Reading -/

lemma Handled.trans {d e : Child} {m : Session} (h : Handled c d s m) (h' : Handled c e m t) :
    Handled c e s t := by
  obtain ⟨⟨_, rfl⟩, -⟩ := h
  obtain ⟨⟨children, rfl⟩, he⟩ := h'
  exact ⟨⟨children, rfl⟩, he⟩

def emptied (err : Bool) (child : Child) : Child :=
  if err then { child with stderr := {} } else { child with stdout := {} }

lemma yields_readPipe_of (h : s.world.children[c]? = some child)
    (hok : (pipeOf err child).failing = false) :
    Yields (readPipe c err) s
      (fun r t => r = some (pipeOf err child).text ∧ Handled c (emptied err child) s t) E := by
  refine (yields_getChild_of h).exactly ?_
  dsimp only
  rw [← pipeOf, hok]
  refine (yields_modifyChild_of h _).bind fun _ t ht => ?_
  exact .pure ⟨rfl, ht⟩

lemma Handled.listening (hs : Listening s logger c chunks) (h : Handled c child s t)
    (hpending : child.Speaks rest) (hcode : child.code = none) (hout : child.stdout = {})
    (herr : child.stderr = {}) (hready : child.ready.length ≤ 1) : Listening t logger c rest := by
  obtain ⟨⟨_, rfl⟩, hchild⟩ := h
  exact ⟨hs.equipped, hs.reaches, hs.level, hs.watching,
    ⟨child, hchild, hpending, hcode, hout, herr, hready⟩⟩

/-- A text on the screen that shows a bundle of lines. -/
def Shows (bundle text : String) : Prop :=
  ∃ head, text = head ++ messagePart bundle ++ "\n"

lemma yields_collectBundled (h : Listening s logger c chunks) (buffer chunk : String)
    (hlegible : bundleOf (buffer ++ chunk) ≠ "" → Legible (bundleOf (buffer ++ chunk))) :
    Succeeds (collectBundled logger buffer chunk) s
      (fun rest t => rest = lastLine (buffer ++ chunk) ∧ Listening t logger c chunks ∧
        ∃ texts, t.out = s.out ++ String.join texts ∧
          List.Forall₂ Shows (if bundleOf (buffer ++ chunk) = "" then []
            else [bundleOf (buffer ++ chunk)]) texts) := by
  rw [collectBundled_eq]
  by_cases hempty : bundleOf (buffer ++ chunk) = ""
  · rw [if_neg (not_not.2 hempty), if_pos hempty]
    exact .pure ⟨rfl, h, [], by simp, .nil⟩
  · rw [if_pos hempty, if_neg hempty]
    refine (yields_info_shown h (hlegible hempty)).bind ?_
    rintro _ t ⟨ht, head, hout⟩
    refine .pure ⟨rfl, ht, [head ++ messagePart (bundleOf (buffer ++ chunk)) ++ "\n"], ?_,
      .cons ⟨head, rfl⟩ .nil⟩
    rw [hout]
    simp

def bundle? (bufs : String × String) (err : Bool) (text : String) : List String :=
  if bundleOf (waiting err bufs ++ Text.unifyLineEnds text) = "" then []
  else [bundleOf (waiting err bufs ++ Text.unifyLineEnds text)]

def waitingAfter (bufs : String × String) (err : Bool) (text : String) : String × String :=
  setWaiting err bufs (lastLine (waiting err bufs ++ Text.unifyLineEnds text))

lemma bundles_cons (bufs : String × String) (err fails : Bool) (text : String) :
    bundles bufs ((err, fails, text) :: chunks) =
      bundle? bufs err text ++ bundles (waitingAfter bufs err text) chunks := by
  rw [bundles, bundle?, waitingAfter]
  split <;> rfl

structure Wrote (child : Child) (err : Bool) (text : String) (chunks : List Chunk) : Prop where
  code : child.code = none
  pending : child.Speaks chunks
  pipe : pipeOf err child = { text := Text.unifyLineEnds text }
  other : pipeOf (!err) child = {}

def readable (child : Child) : List Bool :=
  child.ready.filter fun err => (pipeOf err child).text != ""

lemma poll_chunk (hcode : child.code = none)
    (hpending : child.Speaks ((err, false, text) :: chunks)) (hout : child.stdout = {})
    (herr : child.stderr = {}) (hready : child.ready.length ≤ 1) (htext : text ≠ "") :
    Wrote (Child.poll true child) err text chunks ∧ readable (Child.poll true child) = [err] := by
  have hunified := unifyLineEnds_ne_empty htext
  obtain ⟨pid, script, code, polled, pending, stdout, stderr, ready⟩ := child
  obtain ⟨lost, rfl, hlost⟩ := hpending
  subst hcode hout herr
  have hunread : ¬ chunks.length + script.unread + 1 ≤ script.unread := by omega
  rcases ready with - | ⟨b, - | ⟨b', ready⟩⟩
  · cases err <;> refine ⟨⟨?_, ⟨lost, ?_, ?_⟩, ?_, ?_⟩, ?_⟩ <;>
      simp [Child.poll, readable, pipeOf, Pipe.write, htext, hunified, hunread, hlost]
  · cases err <;> cases b <;> refine ⟨⟨?_, ⟨lost, ?_, ?_⟩, ?_, ?_⟩, ?_⟩ <;>
      simp [Child.poll, readable, pipeOf, Pipe.write, htext, hunified, hunread, hlost]
  · simp at hready

lemma poll_empty (hcode : child.code = none)
    (hpending : child.Speaks ((err, false, "") :: chunks)) (hout : child.stdout = {})
    (herr : child.stderr = {}) :
    (Child.poll true child).code = none ∧ readable (Child.poll true child) = [] := by
  obtain ⟨pid, script, code, polled, pending, stdout, stderr, ready⟩ := child
  obtain ⟨lost, rfl, hlost⟩ := hpending
  subst hcode hout herr
  have hunread : ¬ chunks.length + script.unread + 1 ≤ script.unread := by omega
  have hunified : Text.unifyLineEnds "" = "" := rfl
  cases err <;> simp [Child.poll, readable, pipeOf, Pipe.write, hunified, hunread, hlost]

lemma emptied_pipes (h : pipeOf (!err) child = {}) :
    (emptied err child).stdout = {} ∧ (emptied err child).stderr = {} := by
  cases err
  · exact ⟨rfl, h⟩
  · exact ⟨h, rfl⟩

lemma yields_readEach (bufs : String × String) (hs : Listening s logger c chunks)
    (ht : Handled c child s t) (h : Wrote child err text rest) (hready : child.ready.length ≤ 1)
    (hlegible : ∀ b ∈ bundle? bufs err text, Legible b) :
    Succeeds (readEach true logger c [err] bufs) t
      (fun r u => r = waitingAfter bufs err text ∧ Listening u logger c rest ∧
        ∃ texts, u.out = s.out ++ String.join texts ∧
          List.Forall₂ Shows (bundle? bufs err text) texts) := by
  have hok : (pipeOf err child).failing = false := by rw [h.pipe]
  have hshown (hne : bundleOf (waiting err bufs ++ Text.unifyLineEnds text) ≠ "") :
      Legible (bundleOf (waiting err bufs ++ Text.unifyLineEnds text)) :=
    hlegible _ (by simp [bundle?, hne])
  refine (yields_readPipe_of ht.2 hok).bind ?_
  rintro _ m ⟨rfl, hm⟩
  rw [h.pipe]
  have hm := ht.trans hm
  have hlisten : Listening m logger c rest := by
    obtain ⟨hout, herr⟩ := emptied_pipes h.other
    have hsame : (emptied err child).Speaks rest ∧ (emptied err child).code = none ∧
        (emptied err child).ready.length ≤ 1 := by
      cases err <;> exact ⟨h.pending, h.code, hready⟩
    exact hm.listening hs hsame.1 hsame.2.1 hout herr hsame.2.2
  have hsaid := yields_collectBundled hlisten (waiting err bufs) (Text.unifyLineEnds text) hshown
  have hout : m.out = s.out := by
    obtain ⟨⟨_, rfl⟩, -⟩ := hm
    rfl
  rw [hout] at hsaid
  cases err with
  | false =>
    refine hsaid.bind fun r u hu => ?_
    exact .of_bind (.pure (.pure ⟨by rw [hu.1]; rfl, hu.2⟩))
  | true =>
    refine hsaid.bind fun r u hu => ?_
    exact .of_bind (.pure (.pure ⟨by rw [hu.1]; rfl, hu.2⟩))

lemma yields_readPipes_of {bufs : String × String} {Q : Option (String × String) → Session → Prop}
    (h : s.world.children[c]? = some child)
    (hnext : ∀ t, Handled c { child with ready := readable child } s t → Succeeds (if (readable
      child).isEmpty then pure none else do return some (← readEach true logger c (readable child)
      bufs)) t Q) :
    Succeeds (readPipes true logger c bufs) s Q := by
  refine (yields_getChild_of h).bind ?_
  intro d u hd
  obtain ⟨hd, hu⟩ := hd
  rw [hd, hu]
  exact (yields_modifyChild_of h _).bind fun _ t ht => hnext t ht

lemma yields_readPipes (bufs : String × String) (hs : Listening s logger c chunks)
    (ht : Handled c child s t) (h : Wrote child err text rest) (hready : readable child = [err])
    (hlegible : ∀ b ∈ bundle? bufs err text, Legible b) :
    Succeeds (readPipes true logger c bufs) t
      (fun r u => r = some (waitingAfter bufs err text) ∧ Listening u logger c rest ∧
        ∃ texts, u.out = s.out ++ String.join texts ∧
          List.Forall₂ Shows (bundle? bufs err text) texts) := by
  refine yields_readPipes_of ht.2 fun m hm => ?_
  rw [hready] at hm ⊢
  have hwrote : Wrote { child with ready := [err] } err text rest :=
    ⟨h.code, h.pending, h.pipe, h.other⟩
  refine (yields_readEach bufs hs (ht.trans hm) hwrote le_rfl hlegible).bind fun r u hu => ?_
  exact .pure ⟨congrArg some hu.1, hu.2⟩

lemma yields_round (bufs : String × String)
    (h : Listening s logger c ((err, false, text) :: chunks)) (htext : text ≠ "")
    (hlegible : ∀ b ∈ bundle? bufs err text, Legible b) {Q : Post Unit} {fuel : Nat}
    (hnext : ∀ t texts, Listening t logger c chunks → t.out = s.out ++ String.join texts →
      List.Forall₂ Shows (bundle? bufs err text) texts → Succeeds (followChild true logger c fuel
      (waitingAfter bufs err text)) t Q) :
    Succeeds (followChild true logger c (fuel + 1) bufs) s Q := by
  obtain ⟨child, hchild, hpending, hcode, hout, herr, hready⟩ := h.child
  obtain ⟨hwrote, hreadable⟩ := poll_chunk hcode hpending hout herr hready htext
  refine (yields_pollChild_of hchild h.watching).bind ?_
  rintro _ m ⟨rfl, hm⟩
  rw [hwrote.code, Option.isSome_none, if_neg Bool.false_ne_true]
  refine (yields_readPipes bufs h hm hwrote hreadable hlegible).bind ?_
  rintro _ t ⟨rfl, ht, texts, hout, htexts⟩
  exact hnext t texts ht hout htexts

lemma yields_round_nil (h : Listening s logger c []) (fuel : Nat) (bufs : String × String) :
    Succeeds (followChild true logger c (fuel + 1) bufs) s (fun _ t => t.out = s.out) := by
  obtain ⟨child, hchild, hpending, hcode, -, -, -⟩ := h.child
  have hended : (Child.poll true child).code = some child.script.exit := by
    obtain ⟨lost, hlost, hunread⟩ := hpending
    simp [Child.poll, hcode, hlost, hunread]
  refine (yields_pollChild_of hchild h.watching).bind ?_
  rintro _ m ⟨rfl, hm⟩
  rw [hended, Option.isSome_some, if_pos rfl]
  obtain ⟨⟨_, rfl⟩, -⟩ := hm
  exact .pure rfl

lemma yields_round_empty (h : Listening s logger c ((err, false, "") :: chunks)) (fuel : Nat)
    (bufs : String × String) :
    Succeeds (followChild true logger c (fuel + 1) bufs) s (fun _ t => t.out = s.out) := by
  obtain ⟨child, hchild, hpending, hcode, hout, herr, -⟩ := h.child
  obtain ⟨hcode', hnone⟩ := poll_empty hcode hpending hout herr
  refine (yields_pollChild_of hchild h.watching).bind ?_
  rintro _ m ⟨rfl, hm⟩
  rw [hcode', Option.isSome_none, if_neg Bool.false_ne_true]
  refine .of_bind (yields_readPipes_of hm.2 fun t ht => ?_)
  rw [hnone, isEmpty_nil, if_pos rfl]
  obtain ⟨⟨_, rfl⟩, -⟩ := hm.trans ht
  exact .pure (.pure rfl)

/-- The chunks that a watcher hears: it stops at a wait that brings nothing. -/
def heard (chunks : List Chunk) : List Chunk :=
  chunks.takeWhile (·.2.2 ≠ "")

lemma yields_followChild {bufs : String × String} (h : Listening s logger c chunks)
    (hchunks : ∀ e ∈ chunks, e.2.1 = false)
    (hlegible : ∀ b ∈ bundles bufs (heard chunks), Legible b) {fuel : Nat}
    (hfuel : chunks.length < fuel) :
    Succeeds (followChild true logger c fuel bufs) s
      (fun _ t => ∃ texts, t.out = s.out ++ String.join texts ∧
        List.Forall₂ Shows (bundles bufs (heard chunks)) texts) := by
  obtain ⟨fuel, rfl⟩ : ∃ k, fuel = k + 1 := ⟨fuel - 1, by omega⟩
  induction chunks generalizing s bufs fuel with
  | nil =>
    refine (yields_round_nil h fuel bufs).map fun _ t ht => ?_
    exact ⟨[], by simp [ht], .nil⟩
  | cons e chunks ih =>
    obtain ⟨err, fails, text⟩ := e
    obtain ⟨hfails, hrest⟩ := forall_mem_cons.1 hchunks
    obtain rfl : fails = false := hfails
    by_cases htext : text = ""
    · subst htext
      refine (yields_round_empty h fuel bufs).map fun _ t ht => ?_
      exact ⟨[], by simp [ht], .nil⟩
    · have hheard : heard ((err, false, text) :: chunks) = (err, false, text) :: heard chunks :=
        takeWhile_cons_of_pos (by simpa using htext)
      rw [hheard, bundles_cons] at hlegible ⊢
      obtain ⟨hnow, hlater⟩ := forall_mem_append.1 hlegible
      refine yields_round bufs h htext hnow fun t texts ht hout htexts => ?_
      rw [length_cons] at hfuel
      obtain ⟨fuel, rfl⟩ : ∃ k, fuel = k + 1 := ⟨fuel - 1, by omega⟩
      refine (ih ht hrest hlater fuel (by omega)).map ?_
      rintro _ u ⟨others, hothers, hshown⟩
      refine ⟨texts ++ others, ?_, rel_append htexts hshown⟩
      rw [hothers, hout, String.join_append, String.append_assoc]

/-! ## Watching -/

lemma run_always_bind {α β : Type} {x : Launch α} {f : α → Launch β} {y : Launch Unit} {a : α}
    (h : x.run s = .ok a t) : (always (x >>= f) y).run s = (always (f a) y).run t := by
  simp only [always, EStateM.run, bind, EStateM.bind, tryCatch, tryCatchThe, MonadExceptOf.tryCatch,
    EStateM.tryCatch] at h ⊢
  rw [h]

lemma exists_run_watchChild {i : Nat} {n : Node} (hnode : s.nodes[i]? = some n)
    (h : Listening s n.logger c chunks) (hchunks : ∀ e ∈ chunks, e.2.1 = false)
    (hlegible : ∀ b ∈ bundles ("", "") (heard chunks), Legible b) :
    ∃ t texts, (watchChild i c true).run s =
        (always (reportEnd n.logger c) (afterExit i)).run t ∧
      t.out = s.out ++ String.join texts ∧
      List.Forall₂ Shows (bundles ("", "") (heard chunks)) texts := by
  obtain ⟨child, hchild, hpending, -⟩ := h.child
  have hfuel : chunks.length < 2 * child.pending.length + 8 := by
    have hle := hpending.length_le
    omega
  obtain ⟨_, t, hfollow, texts, hout, htexts⟩ :=
    (yields_followChild h hchunks hlegible hfuel).exists_ok
  refine ⟨t, texts, ?_, hout, htexts⟩
  have hget : (getChild c).run s = .ok child s := by
    rw [getChild, run_bind_of_ok (x := get) (s := s) rfl, hchild]
    rfl
  have hnodeRun : (getNode i).run s = .ok n s := by
    rw [getNode, run_bind_of_ok (x := get) (s := s) rfl, hnode]
    rfl
  unfold watchChild
  rw [run_bind_of_ok hnodeRun]
  rw [run_always_bind hget, run_always_bind hfollow]

/-- What a child has written and its watcher has read is shown before its end is told: the complete
lines of what comes at once are shown together. Every line with an end is in one of these texts as
often as it was read; as its message, if lines with a header come alone. Nothing else is shown. -/
theorem child_lines_shown {i : Nat} {n : Node} (hnode : s.nodes[i]? = some n)
    (h : Listening s n.logger c chunks) (hchunks : ∀ e ∈ chunks, e.2.1 = false)
    (hlegible : ∀ b ∈ bundles ("", "") (heard chunks), Legible b) :
    (∃ t texts, (watchChild i c true).run s =
        (always (reportEnd n.logger c) (afterExit i)).run t ∧
      t.out = s.out ++ String.join texts ∧
      List.Forall₂ Shows (bundles ("", "") (heard chunks)) texts) ∧
    List.Perm ((bundles ("", "") (heard chunks)).flatMap linesOf)
      (writtenLines false (heard chunks) ++ writtenLines true (heard chunks)) ∧
    ((∀ b ∈ bundles ("", "") (heard chunks), Whole b) →
      List.Perm ((bundles ("", "") (heard chunks)).flatMap fun b => linesOf (messagePart b))
        (writtenMessages (heard chunks))) :=
  ⟨exists_run_watchChild hnode h hchunks hlegible, perm_writtenLines _, perm_messages⟩

/-- A session whose only child has something to write, and is watched; some of it is lost. -/
def withChild (chunks lost : List Chunk) (s : Session) : Session :=
  { s with
    watching := true
    world := { s.world with
      children := #[{ pid := 1, script := { unread := lost.length }, pending := chunks ++ lost }] } }

lemma withChild_eq (chunks lost : List Chunk) (s : Session) :
    (withChild chunks lost s).nodes = s.nodes ∧ (withChild chunks lost s).out = s.out :=
  ⟨rfl, rfl⟩

lemma Routed.listening {own : Bool} (h : s.log.Routed logger own)
    (hequipped : s.log.Equipped s.world.cwd)
    (hlevel : Log.reaches (.int Log.info) s.log.leastLevel = .ok true) (chunks lost : List Chunk) :
    Listening (withChild chunks lost s) logger 0 chunks := by
  obtain ⟨dir, -, hreaches⟩ := h.exists_reaches hequipped
  refine ⟨hequipped, ⟨_, hreaches, ?_⟩, hlevel, rfl,
    ⟨_, rfl, ⟨lost, rfl, rfl⟩, rfl, rfl, rfl, Nat.zero_le 1⟩⟩
  cases own <;> simp

def oneTalker : Session :=
  madeAll [plainOrder "talker" (.str "screen")] openedLaunch

lemma routed_oneTalker : (∃ n, oneTalker.nodes[0]? = some n ∧ n.logger = "/talker") ∧
    oneTalker.log.Routed "/talker" false ∧ oneTalker.log.Equipped oneTalker.world.cwd ∧
    Log.reaches (.int Log.info) oneTalker.log.leastLevel = .ok true := by
  have hmade : (plainOrder "talker" (.str "screen")).make.result? (madeAll [] openedLaunch) =
      some 0 := by decide +kernel
  have hleast : (Log.reaches (.int Log.info) oneTalker.log.leastLevel).toOption = some true := by
    decide +kernel
  have hnames : ((([] : List Order) ++ plainOrder "talker" (.str "screen") :: []).map
      Order.fullname).Nodup := nodup_singleton _
  have hfull : (plainOrder "talker" (.str "screen")).fullname = "/talker" := by decide +kernel
  obtain ⟨⟨n, hn, -, hlogger⟩, hrouted⟩ := routed_madeAll equipped_openedLaunch hnames
    (by decide +kernel) rfl (run_of_result? hmade)
  have hequipped := (tuned_madeAll [plainOrder "talker" (.str "screen")] openedLaunch).equipped
    equipped_openedLaunch
  rw [nil_append, ← oneTalker] at hn hrouted
  rw [← oneTalker] at hequipped
  rw [hfull] at hlogger hrouted
  exact ⟨⟨n, hn, hlogger⟩, hrouted, hequipped, reaches_of_toOption hleast⟩

lemma listening_oneTalker (chunks lost : List Chunk) :
    (∃ n, (withChild chunks lost oneTalker).nodes[0]? = some n ∧ n.logger = "/talker") ∧
      Listening (withChild chunks lost oneTalker) "/talker" 0 chunks := by
  obtain ⟨hnode, hrouted, hequipped, hleast⟩ := routed_oneTalker
  rw [(withChild_eq chunks lost _).1]
  exact ⟨hnode, Routed.listening hrouted hequipped hleast chunks lost⟩

def talk : List Chunk :=
  [(false, false, "one\ntw"), (true, false, "%%WARN%%1.5%%hot\n"), (false, false, "o\n\nthree\n"),
    (false, false, "rest")]

theorem child_lines_shown_talk : ∃ t texts,
    (watchChild 0 0 true).run (withChild talk [(true, false, "late\n")] oneTalker) =
      (always (reportEnd "/talker" 0) (afterExit 0)).run t ∧
    t.out = oneTalker.out ++ String.join texts ∧
    List.Forall₂ Shows ["one", "%%WARN%%1.5%%hot", "two\n\nthree"] texts ∧
    ["one", "hot", "two", "three"].Perm ["one", "two", "three", "hot"] := by
  obtain ⟨⟨n, hn, hlogger⟩, hlisten⟩ := listening_oneTalker talk [(true, false, "late\n")]
  rw [← hlogger] at hlisten ⊢
  have hbundles : bundles ("", "") (heard talk) = ["one", "%%WARN%%1.5%%hot", "two\n\nthree"] := by
    decide +kernel
  have hlegible : ∀ b ∈ bundles ("", "") (heard talk), Legible b := by decide +kernel
  have hwhole : ∀ b ∈ bundles ("", "") (heard talk), Whole b := by decide +kernel
  have hlines : (bundles ("", "") (heard talk)).flatMap (fun b => linesOf (messagePart b)) =
      ["one", "hot", "two", "three"] := by decide +kernel
  have hwritten : writtenMessages (heard talk) = ["one", "two", "three", "hot"] := by
    decide +kernel
  obtain ⟨⟨t, texts, hrun, hout, htexts⟩, -, hperm⟩ :=
    child_lines_shown hn hlisten (by decide +kernel) hlegible
  rw [(withChild_eq _ _ _).2] at hout
  refine ⟨t, texts, hrun, hout, hbundles ▸ htexts, ?_⟩
  rw [← hlines, ← hwritten]
  exact hperm hwhole

/-- A last line without an end is never shown. -/
theorem last_line_lost : ∃ t, (watchChild 0 0 true).run
      (withChild [(false, false, "hello")] [] oneTalker) =
      (always (reportEnd "/talker" 0) (afterExit 0)).run t ∧
    t.out = oneTalker.out := by
  obtain ⟨⟨n, hn, hlogger⟩, hlisten⟩ := listening_oneTalker [(false, false, "hello")] []
  rw [← hlogger] at hlisten ⊢
  have hnone : bundles ("", "") (heard [(false, false, "hello")]) = [] := by decide +kernel
  obtain ⟨t, texts, hrun, hout, htexts⟩ := exists_run_watchChild hn hlisten (by decide +kernel)
    (by decide +kernel)
  rw [hnone] at htexts
  cases htexts
  rw [(withChild_eq _ _ _).2] at hout
  exact ⟨t, hrun, hout.trans (by simp)⟩

end Launch

end Launchpad
