import Launchpad.Proofs.Groups.Namespace
import Launchpad.Proofs.Log.Showing

/-!
The lines of what a child writes. The texts of a stream come in chunks; whenever lines are
complete, those that were not logged yet are put together to one text, and what stands behind the
last line end waits for more. However the chunks are cut, each complete line gets into one text.
-/

namespace Launchpad

open Option

open Log.Header Text

namespace Text

lemma splitChars_append_last (sep : Char) (a b : Chars) :
    splitChars sep (a ++ b) = (splitChars sep a).dropLast ++
      splitChars sep ((splitChars sep a).getLastD [] ++ b) := by
  induction a with
  | nil => rfl
  | cons c a ih =>
    obtain ⟨w, ws, hsplit⟩ := List.exists_cons_of_ne_nil (splitChars_ne_nil sep a)
    rw [hsplit] at ih
    by_cases hc : c = sep
    · rw [List.cons_append, splitChars, if_pos hc, ih, splitChars, if_pos hc, hsplit]
      rfl
    · cases ws with
      | nil =>
        have hfirst : splitChars sep (a ++ b) = splitChars sep (w ++ b) := ih
        have hlast : splitChars sep (c :: a) = [c :: w] := by rw [splitChars, if_neg hc, hsplit]
        rw [hlast]
        show splitChars sep (c :: (a ++ b)) = splitChars sep (c :: (w ++ b))
        rw [splitChars, splitChars, hfirst]
      | cons v ws =>
        have hmore : splitChars sep (c :: a) = (c :: w) :: v :: ws := by
          rw [splitChars, if_neg hc, hsplit]
        rw [hmore, List.cons_append, splitChars, if_neg hc, ih]
        rfl

lemma trimBy_append_singleton {s : String} {c : Char} (h : c ∉ s.toList) :
    trimBy (· == c) (s ++ String.singleton c) = s := by
  have hne {d : Char} (hd : d ∈ s.toList) : (d == c) = false :=
    beq_false_of_ne fun heq => h (heq ▸ hd)
  have htrim := trimBy_surrounded (p := (· == c)) (a := []) (b := [c]) (m := s.toList)
    (s := s ++ String.singleton c) (by simp) (by simp) (by simp)
    (fun d hd => hne (List.mem_of_head? hd)) fun d hd => hne (List.mem_of_getLast? hd)
  rw [htrim, String.ofList_toList]

end Text

namespace Log

lemma markedRun_newline {p : Char → Bool} (hp : p '\n' = false) (a b : Chars) :
    Pattern.markedRun p (a ++ '\n' :: b) =
      (Pattern.markedRun p a).map fun r => (r.1, r.2 ++ '\n' :: b) := by
  have hruns : (a ++ '\n' :: b).takeWhile p = a.takeWhile p ∧
      (a ++ '\n' :: b).dropWhile p = a.dropWhile p ++ '\n' :: b := by
    induction a with
    | nil => simp [hp]
    | cons x a ih => by_cases hx : p x <;> simp [hx, ih]
  unfold Pattern.markedRun
  rw [hruns.1, hruns.2]
  cases a.takeWhile p with
  | nil => rfl
  | cons w ws =>
    rcases a.dropWhile p with - | ⟨x, - | ⟨y, rest⟩⟩
    · rfl
    · by_cases hx : x = '%' <;> simp [hx]
    · by_cases hx : x = '%' <;> by_cases hy : y = '%' <;> simp [hx, hy]

lemma Header.read?_newline (a b : String) : Header.read? (a ++ "\n" ++ b) = Header.read? a := by
  have hchars : (a ++ "\n" ++ b).toList = a.toList ++ '\n' :: b.toList := by simp
  have hword : isWord '\n' = false := by decide +kernel
  have htime : isTimeChar '\n' = false := by decide +kernel
  have hline (cs : Chars) : (cs ++ '\n' :: b.toList).takeWhile (· != '\n') =
      cs.takeWhile (· != '\n') := by
    induction cs with
    | nil => rfl
    | cons x cs ih => by_cases hx : x = '\n' <;> simp [hx, ih]
  unfold Header.read?
  rw [hchars]
  rcases a.toList with - | ⟨x, - | ⟨y, cs⟩⟩
  · rfl
  · by_cases hx : x = '%' <;> simp [hx]
  · by_cases hx : x = '%'
    · by_cases hy : y = '%'
      · subst hx hy
        simp only [List.cons_append, markedRun_newline hword]
        cases Pattern.markedRun isWord cs with
        | none => rfl
        | some r =>
          simp only [map_some, bind, bind_some, markedRun_newline htime]
          cases Pattern.markedRun isTimeChar r.2 with
          | none => rfl
          | some q => simp only [map_some, bind_some, hline]
      · simp [hx, hy]
    · simp [hx]

variable {t : String}

lemma Header.newline_not_mem_text {h : Header} (hread : Header.read? t = some h) :
    '\n' ∉ h.text.toList := by
  unfold Header.read? at hread
  split at hread
  · simp only [bind, bind_eq_some_iff, pure, some.injEq] at hread
    obtain ⟨r, -, q, -, rfl⟩ := hread
    rw [String.toList_ofList]
    intro hmem
    simpa using List.mem_takeWhile_imp hmem
  · cases hread

end Log

namespace Launch

/-! ## Complete lines -/

/-- The lines of a text that have an end, without their ends. -/
def fullLines (t : String) : List String :=
  (Text.splitAt t '\n').dropLast

/-- What stands behind the last line end. -/
def lastLine (t : String) : String :=
  (Text.splitAt t '\n').getLastD ""

lemma splitAt_eq (t : String) : splitAt t '\n' = fullLines t ++ [lastLine t] := by
  have hne : splitAt t '\n' ≠ [] := by
    simp [splitAt, splitChars_ne_nil]
  rw [fullLines, lastLine, List.getLastD_eq_getLast?, List.getLast?_eq_getLast_of_ne_nil hne,
    getD_some, List.dropLast_append_getLast hne]

lemma splitAt_append (a b : String) :
    splitAt (a ++ b) '\n' = fullLines a ++ splitAt (lastLine a ++ b) '\n' := by
  have hlast : (lastLine a).toList = (splitChars '\n' a.toList).getLastD [] := by
    have hne := splitChars_ne_nil '\n' a.toList
    rw [lastLine, splitAt, List.getLastD_eq_getLast?, List.getLast?_map,
      List.getLastD_eq_getLast?, List.getLast?_eq_getLast_of_ne_nil hne, map_some,
      getD_some, getD_some, String.toList_ofList]
  rw [splitAt, String.toList_append, splitChars_append_last, List.map_append,
    List.map_dropLast, ← hlast, ← String.toList_append]
  rfl

lemma lines_append (a b : String) :
    fullLines (a ++ b) = fullLines a ++ fullLines (lastLine a ++ b) ∧
      lastLine (a ++ b) = lastLine (lastLine a ++ b) := by
  have hsplit := splitAt_append a b
  rw [splitAt_eq, splitAt_eq (lastLine a ++ b), ← List.append_assoc] at hsplit
  obtain ⟨hfull, hlast⟩ := List.append_inj' hsplit rfl
  exact ⟨hfull, List.singleton_inj.1 hlast⟩

lemma fullLines_lastLine (t : String) : fullLines (lastLine t) = [] := by
  have hmem : lastLine t ∈ splitAt t '\n' := by simp [splitAt_eq]
  rw [fullLines, splitAt_of_not_mem (not_mem_of_mem_splitAt hmem)]
  rfl

lemma completeLines_eq (t : String) :
    completeLines t = ((fullLines t).map (· ++ "\n"), lastLine t) := by
  simp only [completeLines, splitAt_eq, List.reverse_append, List.reverse_singleton,
    List.singleton_append, List.reverse_reverse]

lemma trim_fullLines (t : String) :
    ((fullLines t).map (· ++ "\n")).map (trimBy (· == '\n')) = fullLines t := by
  rw [List.map_map]
  refine (List.map_congr_left fun l hl => ?_).trans (List.map_id _)
  have hmem : l ∈ splitAt t '\n' := by
    rw [splitAt_eq]
    exact List.mem_append_left _ hl
  exact trimBy_append_singleton (not_mem_of_mem_splitAt hmem)

/-! ## Lines of texts -/

/-- The lines of a text that are not empty. -/
def linesOf (t : String) : List String :=
  (Text.splitAt t '\n').filter (· ≠ "")

lemma splitAt_newline (a b : String) :
    splitAt (a ++ "\n" ++ b) '\n' = splitAt a '\n' ++ splitAt b '\n' :=
  Text.splitAt_append a b '\n'

lemma linesOf_intercalate {ls : List String} (h : ∀ l ∈ ls, '\n' ∉ l.toList) :
    linesOf ("\n".intercalate ls) = ls.filter (· ≠ "") := by
  by_cases hnil : ls = []
  · rw [hnil]
    rfl
  · rw [linesOf]
    exact congrArg _ (splitAt_intercalate hnil h)

/-- The text that is made of the complete lines of another one. -/
def bundleOf (t : String) : String :=
  "\n".intercalate (fullLines t)

lemma linesOf_bundleOf (t : String) : linesOf (bundleOf t) = (fullLines t).filter (· ≠ "") := by
  refine linesOf_intercalate fun l hl => ?_
  have hmem : l ∈ splitAt t '\n' := List.mem_of_mem_dropLast hl
  exact not_mem_of_mem_splitAt hmem

/-! ## Chunks -/

/-- What a child writes at once: whether it is an error message, whether it cannot be read at first,
and the text. -/
abbrev Chunk := Bool × Bool × String

/-- What waits for more to come on a stream. -/
def waiting (err : Bool) (bufs : String × String) : String :=
  if err then bufs.2 else bufs.1

def setWaiting (err : Bool) (bufs : String × String) (t : String) : String × String :=
  if err then (bufs.1, t) else (t, bufs.2)

/-- The texts that are logged while chunks come in. -/
def bundles : String × String → List Chunk → List String
  | _, [] => []
  | bufs, (err, _, t) :: rest =>
    let come := waiting err bufs ++ Text.unifyLineEnds t
    let others := bundles (setWaiting err bufs (lastLine come)) rest
    if bundleOf come = "" then others else bundleOf come :: others

def writtenTo (err : Bool) : List Chunk → String
  | [] => ""
  | (e, _, t) :: rest => if e = err then Text.unifyLineEnds t ++ writtenTo err rest
      else writtenTo err rest

/-- The lines with an end that are written to a stream and are not empty. -/
def writtenLines (err : Bool) (chunks : List Chunk) : List String :=
  (fullLines (writtenTo err chunks)).filter (· ≠ "")

/-! ## Reads -/

section Reads

/-- Reads that come one after another: each brings a text from one of the streams, and the lines
that are complete then are logged. -/
def collectEach (logger : String) :
    List (Bool × String) → String × String → Launch (String × String)
  | [], bufs => return bufs
  | (err, t) :: reads, bufs => do
    let rest ← collectBundled logger (waiting err bufs) t
    collectEach logger reads (setWaiting err bufs rest)

/-- The messages that reads log, each with the stream it belongs to. -/
def logged : List (Bool × String) → String × String → List (Bool × String)
  | [], _ => []
  | (err, t) :: reads, bufs =>
    let come := waiting err bufs ++ t
    let others := logged reads (setWaiting err bufs (lastLine come))
    if bundleOf come = "" then others else (err, bundleOf come) :: others

def readFrom (err : Bool) (reads : List (Bool × String)) : String :=
  String.join ((reads.filter (·.1 = err)).map Prod.snd)

def buffersOf (come : Bool → String) : String × String :=
  (lastLine (come false), lastLine (come true))

variable (logger t : String) (reads : List (Bool × String)) (come : Bool → String) (err : Bool)

lemma waiting_buffersOf : waiting err (buffersOf come) = lastLine (come err) := by
  cases err <;> rfl

lemma setWaiting_buffersOf :
    setWaiting err (buffersOf come) (lastLine (waiting err (buffersOf come) ++ t)) =
      buffersOf fun e => come e ++ if e = err then t else "" := by
  rw [waiting_buffersOf, ← (lines_append (come err) t).2]
  cases err <;> simp [setWaiting, buffersOf]

lemma readFrom_cons (e : Bool) :
    readFrom e ((err, t) :: reads) = (if e = err then t else "") ++ readFrom e reads := by
  by_cases h : e = err
  · simp [readFrom, h]
  · simp [readFrom, h, Ne.symm h]

lemma collectBundled_eq (buffer : String) :
    collectBundled logger buffer t = do
      if bundleOf (buffer ++ t) ≠ "" then info logger (bundleOf (buffer ++ t))
      return lastLine (buffer ++ t) := by
  unfold collectBundled
  rw [completeLines_eq]
  dsimp only
  rw [trim_fullLines, ← bundleOf]
  by_cases hempty : bundleOf (buffer ++ t) = "" <;> simp [hempty]

lemma collectEach_eq :
    collectEach logger reads (buffersOf come) = do
      (logged reads (buffersOf come)).forM fun m => info logger m.2
      return buffersOf fun err => come err ++ readFrom err reads := by
  induction reads generalizing come with
  | nil => simp [collectEach, logged, readFrom]
  | cons r reads ih =>
    obtain ⟨err, t⟩ := r
    have hrest := ih fun e => come e ++ if e = err then t else ""
    rw [← setWaiting_buffersOf] at hrest
    rw [collectEach, collectBundled_eq, logged]
    simp only [readFrom_cons, ← String.append_assoc]
    by_cases hempty : bundleOf (waiting err (buffersOf come) ++ t) = "" <;> simp [hempty, hrest]

lemma lines_logged :
    ((logged reads (buffersOf come)).filter (·.1 = err)).flatMap (fun m => linesOf m.2) =
      (fullLines (lastLine (come err) ++ readFrom err reads)).filter (· ≠ "") := by
  induction reads generalizing come with
  | nil => simp [logged, readFrom, fullLines_lastLine]
  | cons r reads ih =>
    obtain ⟨e, t⟩ := r
    have hrest := ih fun e' => come e' ++ if e' = e then t else ""
    rw [logged, setWaiting_buffersOf, waiting_buffersOf, readFrom_cons]
    by_cases he : err = e
    · -- The lines that the text completes come before those that wait.
      subst he
      rw [if_pos rfl, (lines_append (come err) t).2] at hrest
      rw [if_pos rfl, ← String.append_assoc, (lines_append (lastLine (come err) ++ t) _).1,
        List.filter_append, ← linesOf_bundleOf, ← hrest]
      split
      · next hempty =>
        rw [hempty]
        rfl
      · simp
    · rw [if_neg he, String.append_empty] at hrest
      rw [if_neg he, String.empty_append, ← hrest]
      split <;> simp [Ne.symm he]

lemma lines_read :
    ((logged reads ("", "")).filter (·.1 = err)).flatMap (fun m => linesOf m.2) =
      (fullLines (readFrom err reads)).filter (· ≠ "") :=
  lines_logged reads (fun _ => "") err

/-- However the texts of the streams are cut and whatever the order of the reads, the reads do
nothing but log messages: those of a stream hold its complete lines that are not empty, each once
and in order, and what follows its last line end waits. The watcher of a child makes such reads. -/
theorem lines_collected_however_cut :
    (collectEach logger reads ("", "") = do
      (logged reads ("", "")).forM fun m => info logger m.2
      return (lastLine (readFrom false reads), lastLine (readFrom true reads))) ∧
    (∀ err, ((logged reads ("", "")).filter (·.1 = err)).flatMap (fun m => linesOf m.2) =
      (fullLines (readFrom err reads)).filter (· ≠ "")) ∧
    ∀ (child : Nat) (streams : List Bool) (err : Bool) (bufs : String × String),
      readEach true logger child (err :: streams) bufs = readPipe child err >>= fun r =>
        r.elim (error logger "Failed to read process pipe, this should not happen" *> pure bufs)
          fun t => collectEach logger [(err, t)] bufs >>= readEach true logger child streams := by
  refine ⟨?_, lines_read reads, fun child streams err bufs => ?_⟩
  · have hnone : ("", "") = buffersOf fun _ => "" := rfl
    rw [hnone, collectEach_eq]
    simp [buffersOf]
  · rw [readEach]
    refine bind_congr fun r => ?_
    cases r with
    | none => rfl
    | some t => cases err <;> simp [collectEach, waiting, setWaiting, collect]

end Reads

def readsOf (chunks : List Chunk) : List (Bool × String) :=
  chunks.map fun c => (c.1, Text.unifyLineEnds c.2.2)

lemma bundles_eq (chunks : List Chunk) (bufs : String × String) :
    bundles bufs chunks = (logged (readsOf chunks) bufs).map Prod.snd := by
  induction chunks generalizing bufs with
  | nil => rfl
  | cons c chunks ih =>
    have hreads : readsOf (c :: chunks) = (c.1, unifyLineEnds c.2.2) :: readsOf chunks := rfl
    rw [hreads, logged, bundles, ih]
    split <;> rfl

lemma writtenTo_eq (err : Bool) (chunks : List Chunk) :
    writtenTo err chunks = readFrom err (readsOf chunks) := by
  induction chunks with
  | nil => rfl
  | cons c chunks ih =>
    have hreads : readsOf (c :: chunks) = (c.1, unifyLineEnds c.2.2) :: readsOf chunks := rfl
    rw [hreads, readFrom_cons, writtenTo, ih]
    by_cases h : c.1 = err
    · rw [if_pos h, if_pos h.symm]
    · rw [if_neg h, if_neg (Ne.symm h), String.empty_append]

lemma perm_writtenLines (chunks : List Chunk) :
    List.Perm ((bundles ("", "") chunks).flatMap linesOf)
      (writtenLines false chunks ++ writtenLines true chunks) := by
  have hperm := List.filter_append_perm (fun m => m.1 = false) (logged (readsOf chunks) ("", ""))
  simp only [← decide_not, Bool.not_eq_false] at hperm
  rw [bundles_eq, List.flatMap_map, writtenLines, writtenLines, writtenTo_eq, writtenTo_eq,
    ← lines_read, ← lines_read, ← List.flatMap_append]
  exact (hperm.flatMap_right _).symm

/-! ## Headers -/

/-- A line without its header, if it has one. -/
def messagePart (t : String) : String :=
  ((Log.Header.read? t).map Log.Header.text).getD t

/-- A header tells a severity and a time that can be read, and no other one follows it. -/
def Legible (t : String) : Prop :=
  ∀ h, Log.Header.read? t = some h → (Log.levelNumbers.lookup h.severity).isSome ∧
    (Text.readFloat? h.time).isSome ∧ Log.Header.read? h.text = none

lemma legible_iff : Legible t ↔ (read? t).all fun h =>
    (Log.levelNumbers.lookup h.severity).isSome && (readFloat? h.time).isSome &&
      (read? h.text).isNone := by
  unfold Legible
  cases read? t <;> simp [and_assoc]

instance (t : String) : Decidable (Legible t) :=
  decidable_of_iff _ legible_iff.symm

lemma Legible.exists_shownOf (h : Legible t) :
    (∃ level, Log.shownOf Log.info t = some (level, messagePart t)) ∧
      read? (messagePart t) = none := by
  unfold messagePart Log.shownOf
  cases hread : read? t with
  | none => exact ⟨⟨_, rfl⟩, hread⟩
  | some header =>
    obtain ⟨hseverity, htime, hunread⟩ := h header hread
    obtain ⟨n, hn⟩ := isSome_iff_exists.1 hseverity
    obtain ⟨x, hx⟩ := isSome_iff_exists.1 htime
    exact ⟨⟨n, by simp [hn, hx]⟩, hunread⟩

def Whole (t : String) : Prop :=
  (∀ l ∈ linesOf t, Log.Header.read? l = none) ∨ '\n' ∉ t.toList

instance (t : String) : Decidable (Whole t) :=
  inferInstanceAs (Decidable (_ ∨ _))

lemma read?_eq_none_of_lines (h : ∀ l ∈ linesOf t, read? l = none) : read? t = none := by
  have hline {l : String} (hl : l ∈ splitAt t '\n') : read? l = none := by
    by_cases hempty : l = ""
    · rw [hempty]
      rfl
    · exact h l (List.mem_filter.2 ⟨hl, by simpa using hempty⟩)
  by_cases hmem : '\n' ∈ t.toList
  · obtain ⟨a, b, hcut, ha⟩ := List.eq_append_cons_of_mem hmem
    have ht : t = String.ofList a ++ "\n" ++ String.ofList b := by
      rw [← String.toList_inj, hcut]
      simp
    have hfirst : String.ofList a ∈ splitAt t '\n' := by
      rw [ht, splitAt_newline, splitAt_of_not_mem (by rwa [String.toList_ofList])]
      exact List.mem_append_left _ (List.mem_singleton_self _)
    rw [ht, read?_newline]
    exact hline hfirst
  · exact hline (by rw [splitAt_of_not_mem hmem]; exact List.mem_singleton_self t)

lemma linesOf_messagePart (h : Whole t) :
    linesOf (messagePart t) = ((linesOf t).map messagePart).filter (· ≠ "") := by
  have hplain {l : String} (hl : read? l = none) : messagePart l = l := by
    rw [messagePart, hl]
    rfl
  rcases h with hlines | halone
  · have hsame : (linesOf t).map messagePart = linesOf t :=
      (List.map_congr_left fun l hl => hplain (hlines l hl)).trans (List.map_id _)
    rw [hplain (read?_eq_none_of_lines hlines), hsame, linesOf, List.filter_filter]
    simp
  · have hmessage : '\n' ∉ (messagePart t).toList := by
      unfold messagePart
      cases hread : read? t with
      | none => exact halone
      | some header => exact newline_not_mem_text hread
    rw [linesOf, linesOf, splitAt_of_not_mem hmessage, splitAt_of_not_mem halone]
    by_cases hempty : t = ""
    · rw [hempty]
      rfl
    · simp [hempty]

/-- The messages of all lines with an end that a child writes. -/
def writtenMessages (chunks : List Chunk) : List String :=
  ((writtenLines false chunks ++ writtenLines true chunks).map messagePart).filter (· ≠ "")

lemma perm_messages {chunks : List Chunk} (h : ∀ t ∈ bundles ("", "") chunks, Whole t) :
    List.Perm ((bundles ("", "") chunks).flatMap fun t => linesOf (messagePart t))
      (writtenMessages chunks) := by
  have heach : ((bundles ("", "") chunks).flatMap fun t => linesOf (messagePart t)) =
      (((bundles ("", "") chunks).flatMap linesOf).map messagePart).filter (· ≠ "") := by
    rw [List.map_flatMap, List.filter_flatMap]
    exact List.flatMap_congr fun t ht => linesOf_messagePart (h t ht)
  rw [heach]
  exact ((perm_writtenLines chunks).map messagePart).filter _

end Launch

end Launchpad
