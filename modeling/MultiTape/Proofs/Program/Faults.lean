import MultiTape.Proofs.Program.Assembly

/-!
# Faults point at their lines

A text is read line by line, and a reader that is given one line can blame no other. So the first
line that is at fault is the one reported: what comes before it can be read, and what comes after it
is not looked at. The end of the text is the one fault that is in no line. It is reported with the
number after that of the last line that is no comment.

Line numbers are threaded through the readers of the header one by one. `Program.readLine` is one
link of that chain, and the header is a chain of five.

## Main definitions

* `Program.Blames`: a reader of a single line blames that line
* `Program.readLine`: reads a line and then the lines after it
* `Program.Locates`: a reader of lines blames one of the first few, whatever comes after it
* `Program.PassesChecks`: lines that each pass the check of their place in the header
* `Program.loadLines`: loading from the lines that are no comments

## Main results

* `Program.locates_header`, `Program.exists_of_transitions_eq_error`: faults of the header and of
  the transitions
* `Program.header_eq_endOfText_iff`: when the text ends too early
* `Program.load_blames`: a text that cannot be loaded is at fault in the line that is reported
-/

namespace MultiTape

namespace Program

variable {α β : Type} {a : Alphabet} {width : Nat} {numStates : Int} {e : FormatError}
  {text : Text} {lines : List NumberedLine}

/-! ### Readers of a single line -/

/-- A reader of the line with this number reports faults of that line only, and never the end of the
text. -/
def Blames (line : Int) (x : Except FormatError α) : Prop :=
  ∀ e, x = .error e → e.line = line ∧ e.reason ≠ .endOfText

section Blames

variable {line : Int} {x : Except FormatError α} {f : α → Except FormatError β}

theorem blames_ok (x : α) : Blames line (.ok x) := fun _ h => nomatch h

theorem blames_error {reason : Reason} (h : reason ≠ .endOfText) :
    Blames line (.error ⟨line, reason⟩ : Except FormatError α) := by
  rintro e he
  obtain rfl := Except.error.inj he
  exact ⟨rfl, h⟩

theorem Blames.bind (hx : Blames line x) (hf : ∀ a, Blames line (f a)) :
    Blames line (x >>= f) := by
  intro e he
  rcases bind_eq_error_iff.mp he with he | ⟨a, -, he⟩
  · exact hx e he
  · exact hf a e he

theorem blames_mapError {ε : Type} {x : Except ε α} {reason : Reason} (h : reason ≠ .endOfText) :
    Blames line (x.mapError fun _ => (⟨line, reason⟩ : FormatError)) := by
  cases x with
  | error e => exact blames_error h
  | ok x => exact blames_ok x

theorem blames_mapM {f : α → Except FormatError β} (hf : ∀ x, Blames line (f x)) (xs : List α) :
    Blames line (xs.mapM f) := by
  induction xs with
  | nil => exact blames_ok []
  | cons x xs ih =>
    rw [List.mapM_cons]
    exact (hf x).bind fun y => ih.bind fun ys => blames_ok (y :: ys)

theorem blames_integer (token : Text) : Blames line (integer line token) :=
  blames_mapError (by simp)

theorem blames_count (t : Text) : Blames line (count line t) := by
  refine (blames_integer _).bind fun n => ?_
  split
  · exact blames_error (by simp)
  · exact blames_ok _

theorem blames_stateId (token : Text) : Blames line (stateId numStates line token) := by
  refine (blames_integer _).bind fun n => ?_
  split
  · exact blames_ok _
  · exact blames_error (by simp)

theorem blames_stateIds (t : Text) : Blames line (stateIds numStates line t) :=
  blames_mapM blames_stateId _

theorem blames_symbol (token : Text) : Blames line (symbol a line token) := by
  rw [symbol]
  split
  · exact blames_ok _
  · exact blames_error (by simp)

theorem blames_move (token : Text) : Blames line (move line token) := blames_mapError (by simp)

theorem blames_effect (tokens : Text × Text) : Blames line (effect a line tokens) :=
  (blames_symbol _).bind fun _ => (blames_move _).bind fun _ => blames_ok _

theorem blames_transition (t : Text) : Blames line (transition a width numStates line t) := by
  by_cases hlength : (Text.words t).length = 3 * width + 4
  · obtain ⟨source, input, reads, target, inputMove, effects, hreads, heffects, hwords⟩ :=
      exists_fields_eq hlength
    rw [transition_eq_of_words hreads heffects hwords]
    exact (blames_stateId _).bind fun _ => (blames_symbol _).bind fun _ =>
      (blames_mapM blames_symbol _).bind fun _ => (blames_stateId _).bind fun _ =>
      (blames_move _).bind fun _ => (blames_mapM blames_effect _).bind fun _ => blames_ok _
  · rw [transition, if_pos hlength]
    exact blames_error (by simp)

/-- Reads the accepting states, which have to be among the halting ones. -/
def acceptingIds (numStates : Int) (halting : List Int) (line : Int) (t : Text) :
    Except FormatError (List Int) := do
  let accepting ← stateIds numStates line t
  if accepting.all halting.contains then pure accepting else .error ⟨line, .acceptingNotHalting⟩

theorem blames_acceptingIds (halting : List Int) (t : Text) :
    Blames line (acceptingIds numStates halting line t) := by
  refine (blames_stateIds t).bind fun accepting => ?_
  split
  · exact blames_ok _
  · exact blames_error (by simp)

/-- Reads a transition whose guard is none of those seen. -/
def freshTransition (a : Alphabet) (width : Nat) (numStates : Int) (seen : List Guard) (line : Int)
    (t : Text) : Except FormatError Transition := do
  let t ← transition a width numStates line t
  if seen.contains t.guard then .error ⟨line, .nondeterministic⟩ else pure t

theorem blames_freshTransition {seen : List Guard} (t : Text) :
    Blames line (freshTransition a width numStates seen line t) := by
  refine (blames_transition t).bind fun t => ?_
  split
  · exact blames_error (by simp)
  · exact blames_ok _

end Blames

/-! ### Readers of lines -/

/-- Reads the next line, and then, knowing what it says and its number, the lines after it. -/
def readLine (last : Nat) (read : Int → Text → Except FormatError α)
    (next : α → Nat → List NumberedLine → Except FormatError β) (lines : List NumberedLine) :
    Except FormatError β := do
  let ((number, line), rest) ← nextLine last lines
  let x ← read number line
  next x number rest

theorem acceptingIds_bind {halting : List Int} {line : Int} {t : Text} (f : List Int → β) :
    (acceptingIds numStates halting line t >>= fun accepting => .ok (f accepting)) =
      stateIds numStates line t >>= fun accepting =>
        if accepting.all halting.contains then .ok (f accepting)
        else .error ⟨line, .acceptingNotHalting⟩ := by
  rw [acceptingIds, bind_assoc]
  refine bind_congr fun accepting => ?_
  split <;> rfl

/-- The header is read by five readers of a single line. -/
theorem header_eq (lines : List NumberedLine) :
    header lines =
      (readLine 0 count fun numStates n₁ => readLine n₁ count fun numTapes n₂ =>
        readLine n₂ (fun n l => stateId numStates n (Text.trim l)) fun start n₃ =>
        readLine n₃ (stateIds numStates) fun halting n₄ =>
        readLine n₄ (acceptingIds numStates halting) fun accepting _ rest =>
        .ok (⟨numStates, numTapes, start, halting, accepting⟩, rest)) lines := by
  simp only [readLine, acceptingIds_bind]
  rfl

/-- A reader of lines that blames one of the first `d`, unless the text ends: what it reports does
not depend on the lines after that one. -/
def Locates (d : Nat) (f : List NumberedLine → Except FormatError β) : Prop :=
  ∀ lines e, f lines = .error e → e.reason ≠ .endOfText →
    ∃ pre l post, lines = pre ++ l :: post ∧ pre.length < d ∧ (l.1 : Int) = e.line ∧
      ∀ post', f (pre ++ l :: post') = .error e

section ReadLine

variable {d last : Nat} {read : Int → Text → Except FormatError α}
  {next : α → Nat → List NumberedLine → Except FormatError β}

theorem readLine_nil :
    readLine last read next [] = .error ⟨last + 1, .endOfText⟩ := rfl

theorem readLine_cons (n : Nat) (l : Text) (rest : List NumberedLine) :
    readLine last read next ((n, l) :: rest) = read n l >>= fun x => next x n rest := rfl

theorem locates_ok (f : List NumberedLine → β) : Locates 0 fun lines => .ok (f lines) :=
  fun _ _ h => nomatch h

/-- Reading one line more, one more of the lines may be at fault. -/
theorem locates_readLine (hread : ∀ n l, Blames n (read n l))
    (hnext : ∀ x n, Locates d (next x n)) :
    Locates (d + 1) (readLine last read next) := by
  intro lines e h he
  cases lines with
  | nil =>
    obtain rfl := Except.error.inj h
    exact absurd rfl he
  | cons l rest =>
    obtain ⟨n, l⟩ := l
    rw [readLine_cons] at h
    rcases bind_eq_error_iff.mp h with h | ⟨x, hx, h⟩
    · refine ⟨[], (n, l), rest, rfl, d.succ_pos, (hread n l e h).1.symm, fun post' => ?_⟩
      rw [List.nil_append, readLine_cons]
      exact bind_eq_error_iff.mpr (.inl h)
    · obtain ⟨pre, l', post, rfl, hlength, hline, hlocal⟩ := hnext x n rest e h he
      refine ⟨(n, l) :: pre, l', post, rfl, Nat.succ_lt_succ hlength, hline, fun post' => ?_⟩
      rw [List.cons_append, readLine_cons]
      exact bind_eq_error_iff.mpr (.inr ⟨x, hx, hlocal post'⟩)

end ReadLine

/-- **A fault of the header is in one of its five lines.** -/
theorem locates_header : Locates 5 header := by
  rw [funext header_eq]
  refine locates_readLine (fun _ => blames_count) fun numStates _ => ?_
  refine locates_readLine (fun _ => blames_count) fun numTapes _ => ?_
  refine locates_readLine (fun _ l => blames_stateId (Text.trim l)) fun start _ => ?_
  refine locates_readLine (fun _ => blames_stateIds) fun halting _ => ?_
  exact locates_readLine (fun _ => blames_acceptingIds halting) fun _ _ => locates_ok _

theorem transitions_blank {seen : List Guard} {n : Nat} {l : Text}
    (hl : (Text.trim l).isEmpty = true) (rest : List NumberedLine) :
    transitions a width numStates seen ((n, l) :: rest) =
      transitions a width numStates seen rest := by
  rw [transitions, if_pos hl]

theorem transitions_cons {seen : List Guard} {n : Nat} {l : Text}
    (hl : (Text.trim l).isEmpty = false) (rest : List NumberedLine) :
    transitions a width numStates seen ((n, l) :: rest) =
      freshTransition a width numStates seen n l >>= fun t =>
        (transitions a width numStates (t.guard :: seen) rest).map (t :: ·) := by
  rw [transitions, if_neg (by simp [hl]), freshTransition, bind_assoc]
  refine bind_congr fun t => ?_
  split
  · rfl
  · rw [pure_bind]
    cases transitions a width numStates (t.guard :: seen) rest <;> rfl

/-- **A fault of the transitions is in one of their lines**, and the transitions before it can be
read. -/
theorem exists_of_transitions_eq_error {seen : List Guard}
    (h : transitions a width numStates seen lines = .error e) :
    e.reason ≠ .endOfText ∧ ∃ pre l post, lines = pre ++ l :: post ∧ (l.1 : Int) = e.line ∧
      (∀ post', transitions a width numStates seen (pre ++ l :: post') = .error e) ∧
      ∃ ts, transitions a width numStates seen pre = .ok ts := by
  induction lines generalizing seen with
  | nil => exact nomatch h
  | cons l lines ih =>
    obtain ⟨n, l⟩ := l
    cases hl : (Text.trim l).isEmpty with
    | true =>
      rw [transitions_blank hl] at h
      obtain ⟨hreason, pre, l', post, rfl, hline, hlocal, ts, hts⟩ := ih h
      refine ⟨hreason, (n, l) :: pre, l', post, rfl, hline, fun post' => ?_, ts, ?_⟩
      · rw [List.cons_append, transitions_blank hl, hlocal]
      · rw [transitions_blank hl, hts]
    | false =>
      rw [transitions_cons hl] at h
      rcases bind_eq_error_iff.mp h with h | ⟨t, ht, h⟩
      · obtain ⟨hline, hreason⟩ := blames_freshTransition l e h
        refine ⟨hreason, [], (n, l), lines, rfl, hline.symm, fun post' => ?_, [], rfl⟩
        rw [List.nil_append, transitions_cons hl]
        exact bind_eq_error_iff.mpr (.inl h)
      · obtain ⟨hreason, pre, l', post, rfl, hline, hlocal, ts, hts⟩ := ih (map_eq_error_iff.mp h)
        refine ⟨hreason, (n, l) :: pre, l', post, rfl, hline, fun post' => ?_, t :: ts, ?_⟩
        · rw [List.cons_append, transitions_cons hl]
          exact bind_eq_error_iff.mpr (.inr ⟨t, ht, map_eq_error_iff.mpr (hlocal post')⟩)
        · rw [transitions_cons hl, ht]
          exact congrArg (Except.map (t :: ·)) hts

/-! ### Numbered lines -/

/-- The lines before a line that is no comment are numbered and sorted out on their own. -/
theorem codeLines_of_lines_eq {before after : List Text} {l : Text}
    (ht : Text.lines text = before ++ l :: after) (hl : isComment l = false) :
    ∃ post, codeLines text = codeLines (Text.unlines before) ++ (before.length + 1, l) :: post := by
  rw [codeLines, codeLines, numberedLines, numberedLines, Text.lines_unlines_of_append ht, ht,
    List.zipIdx_append, List.zipIdx_cons, List.map_append, List.filter_append, List.map_cons,
    List.filter_cons_of_pos (by simp [hl]), Nat.zero_add]
  exact ⟨_, rfl⟩

/-- A line that is no comment stands in the text under its number, and the lines before it that are
no comments are those of the text up to there. -/
theorem exists_of_codeLines_eq {pre post : List NumberedLine} {n : Nat} {l : Text}
    (h : codeLines text = pre ++ (n, l) :: post) :
    ∃ before after, Text.lines text = before ++ l :: after ∧ n = before.length + 1 ∧
      isComment l = false ∧ pre = codeLines (Text.unlines before) := by
  obtain ⟨_, _, hnumbered, hpre, hrest⟩ := List.filter_eq_append_iff.mp h
  obtain ⟨_, _, rfl, hskipped, hl, -⟩ := List.filter_eq_cons_iff.mp hrest
  rw [← List.append_assoc] at hnumbered
  obtain ⟨_, _, hzip, hmap, hmap'⟩ := List.map_eq_append_iff.mp hnumbered
  obtain ⟨before, _, hlines, rfl, rfl⟩ := List.zipIdx_eq_append_iff.mp hzip
  obtain ⟨_, _, hcons, hline, -⟩ := List.map_eq_cons_iff.mp hmap'
  obtain ⟨l', after, rfl, rfl, -⟩ := List.zipIdx_eq_cons_iff.mp hcons
  obtain ⟨rfl, rfl⟩ : before.length + 1 = n ∧ l' = l := by simpa using hline
  refine ⟨before, after, hlines, rfl, by simpa using hl, ?_⟩
  rw [codeLines, numberedLines, Text.lines_unlines_of_append hlines, hmap, List.filter_append, hpre,
    List.filter_eq_nil_iff.mpr hskipped, List.append_nil]

/-! ### The end of the text -/

/-- Each of the lines, as tokens, passes the check of its place in the header: first the number of
states, then a number of tapes, then one of the states, then any of the states. -/
@[mk_iff]
structure PassesChecks (numStates : Nat) (lines : List (List Text)) : Prop where
  /-- The first line is the number of states. -/
  states : ∀ tokens ∈ lines[0]?, ∃ w, tokens = [w] ∧ Numeral.read w = .ok (numStates : Int)
  /-- The second line is a number. -/
  tapes : ∀ tokens ∈ lines[1]?, ∃ n : Nat, ∃ w, tokens = [w] ∧ Numeral.read w = .ok (n : Int)
  /-- The third line is one of the states. -/
  start : ∀ tokens ∈ lines[2]?, ∃ id w, tokens = [w] ∧ SpellsState numStates w id
  /-- The fourth line lists states. -/
  halting : ∀ tokens ∈ lines[3]?, ∀ w ∈ tokens, ∃ id, SpellsState numStates w id

/-- The number of the last of the lines, or zero. -/
def lastNumber (lines : List NumberedLine) : Nat := (lines.getLast?.map Prod.fst).getD 0

theorem Blames.bind_eq_endOfText_iff {line n : Int} {x : Except FormatError α}
    {f : α → Except FormatError β} (hx : Blames line x) :
    x >>= f = .error ⟨n, .endOfText⟩ ↔ ∃ a, x = .ok a ∧ f a = .error ⟨n, .endOfText⟩ := by
  rw [bind_eq_error_iff]
  exact or_iff_right fun h => (hx _ h).2 rfl

theorem exists_stateIds_eq_ok_iff {line : Int} {t : Text} :
    (∃ ids, stateIds numStates line t = .ok ids) ↔
      ∀ w ∈ Text.words t, ∃ id, SpellsState numStates w id := by
  simp only [stateIds, mapM_eq_ok_iff, stateId_eq_ok_iff]
  constructor
  · rintro ⟨ids, hids⟩ w hw
    obtain ⟨id, -, hid⟩ := exists_of_forall₂ hids.flip hw
    exact ⟨id, hid⟩
  · exact exists_forall₂

/-- **The text ends too early** when the header has fewer than five lines and nothing is wrong with
those it has. -/
theorem header_eq_endOfText_iff {n : Int} :
    header lines = .error ⟨n, .endOfText⟩ ↔
      lines.length < 5 ∧ (∃ numStates, PassesChecks numStates (lines.map fun l => Text.words l.2)) ∧
        (lastNumber lines + 1 : Int) = n := by
  rw [header_eq]
  -- the number of lines decides how far the readers get
  match lines with
  | [] => simp [readLine_nil, passesChecks_iff, lastNumber]
  | [(n₁, l₁)] =>
    simp [readLine_cons, readLine_nil, (blames_count _).bind_eq_endOfText_iff, count_eq_ok_iff,
      passesChecks_iff, lastNumber]
  | [(n₁, l₁), (n₂, l₂)] =>
    simp [readLine_cons, readLine_nil, (blames_count _).bind_eq_endOfText_iff, count_eq_ok_iff,
      passesChecks_iff, lastNumber, and_assoc]
  | [(n₁, l₁), (n₂, l₂), (n₃, l₃)] =>
    simp [readLine_cons, readLine_nil, (blames_count _).bind_eq_endOfText_iff, count_eq_ok_iff,
      (blames_stateId _).bind_eq_endOfText_iff, stateId_eq_ok_iff, spellsState_trim_iff,
      passesChecks_iff, lastNumber, ← and_assoc]
  | [(n₁, l₁), (n₂, l₂), (n₃, l₃), (n₄, l₄)] =>
    simp [readLine_cons, readLine_nil, (blames_count _).bind_eq_endOfText_iff, count_eq_ok_iff,
      (blames_stateId _).bind_eq_endOfText_iff, stateId_eq_ok_iff, spellsState_trim_iff,
      (blames_stateIds _).bind_eq_endOfText_iff, exists_stateIds_eq_ok_iff, passesChecks_iff,
      lastNumber, ← and_assoc]
  | (n₁, l₁) :: (n₂, l₂) :: (n₃, l₃) :: (n₄, l₄) :: (n₅, l₅) :: rest =>
    -- all five lines are there, so whatever is wrong is in one of them
    refine iff_of_false (fun h => ?_) fun h => absurd h.1 (by simp)
    simp [readLine_cons, (blames_count _).bind_eq_endOfText_iff,
      (blames_stateId _).bind_eq_endOfText_iff, (blames_stateIds _).bind_eq_endOfText_iff,
      (blames_acceptingIds _ _).bind_eq_endOfText_iff] at h

/-! ### Texts -/

/-- Loads a machine from the lines that are no comments. -/
def loadLines (a : Alphabet) (lines : List NumberedLine) : Except FormatError Machine := do
  let (h, lines) ← header lines
  let ts ← transitions a (h.numTapes + 1) h.numStates [] lines
  pure (addAll (h.machine a) ts)

theorem load_eq_loadLines (a : Alphabet) (text : Text) :
    load a text = loadLines a (codeLines text) := rfl

theorem loadLines_eq_error_iff :
    loadLines a lines = .error e ↔
      header lines = .error e ∨ ∃ h rest, header lines = .ok (h, rest) ∧
        transitions a (h.numTapes + 1) h.numStates [] rest = .error e := by
  rw [loadLines, bind_eq_error_iff, Prod.exists]
  refine or_congr_right (exists₂_congr fun h rest => and_congr_right fun _ => ?_)
  exact map_eq_error_iff

/-- A fault is in one of the lines. What is reported does not depend on the lines after it, and when
it is after the header, the lines before it can be loaded. -/
theorem exists_of_loadLines_eq_error (h : loadLines a lines = .error e)
    (he : e.reason ≠ .endOfText) :
    ∃ pre l post, lines = pre ++ l :: post ∧ (l.1 : Int) = e.line ∧
      (∀ post', loadLines a (pre ++ l :: post') = .error e) ∧
      (5 ≤ pre.length → ∃ m, loadLines a pre = .ok m) := by
  rcases loadLines_eq_error_iff.mp h with h | ⟨r, rest, hheader, htransitions⟩
  · obtain ⟨pre, l, post, rfl, hlength, hline, hlocal⟩ := locates_header lines e h he
    exact ⟨pre, l, post, rfl, hline, fun post' => loadLines_eq_error_iff.mpr (.inl (hlocal post')),
      fun hpre => absurd hlength (Nat.not_lt.mpr hpre)⟩
  · obtain ⟨first, rfl, hspells⟩ := header_eq_ok_iff.mp hheader
    have hfirst (rest : List NumberedLine) : header (first ++ rest) = .ok (r, rest) :=
      header_eq_ok_iff.mpr ⟨first, rfl, hspells⟩
    obtain ⟨-, pre, l, post, rfl, hline, hlocal, ts, hts⟩ :=
      exists_of_transitions_eq_error htransitions
    refine ⟨first ++ pre, l, post, (List.append_assoc ..).symm, hline, fun post' => ?_, fun _ => ?_⟩
    · rw [List.append_assoc]
      exact loadLines_eq_error_iff.mpr (.inr ⟨r, _, hfirst _, hlocal post'⟩)
    · refine ⟨addAll (r.machine a) ts, ?_⟩
      rw [loadLines, hfirst]
      exact congrArg (Except.map (addAll (r.machine a))) hts

theorem length_codeLines (t : Text) :
    (codeLines t).length = (tokenLines (Text.lines t)).length := by
  rw [← map_words_codeLines, List.length_map]

theorem load_eq_endOfText_iff {n : Int} :
    load a text = .error ⟨n, .endOfText⟩ ↔
      (tokenLines (Text.lines text)).length < 5 ∧
        (∃ numStates, PassesChecks numStates (tokenLines (Text.lines text))) ∧
        (lastNumber (codeLines text) + 1 : Int) = n := by
  rw [load_eq_loadLines, loadLines_eq_error_iff, or_iff_left, header_eq_endOfText_iff,
    map_words_codeLines, length_codeLines]
  rintro ⟨h, rest, -, htransitions⟩
  exact (exists_of_transitions_eq_error htransitions).1 rfl

/-- **A text that cannot be loaded is at fault in the line that is reported.** Loading has no other
way to fail. The reported line is in the text and is no comment; what is reported depends on that
line and those before it only, and when the header is before it, the lines before it can be loaded.
The end of the text is reported when it comes within the header and nothing before it is at fault,
with the number after that of the last line that is no comment. -/
theorem load_blames (a : Alphabet) (text : Text) :
    (FieldCountShown text → assemble a text = (load a text).mapError .ofFormat) ∧
    (∀ e, load a text = .error e → e.reason ≠ .endOfText →
      ∃ before l after, Text.lines text = before ++ l :: after ∧ e.line = before.length + 1 ∧
        isComment l = false ∧
        (∀ text', before ++ [l] <+: Text.lines text' → load a text' = .error e) ∧
        (5 ≤ (tokenLines before).length → ∃ m, load a (Text.unlines before) = .ok m)) ∧
    ∀ n, load a text = .error ⟨n, .endOfText⟩ ↔
      (tokenLines (Text.lines text)).length < 5 ∧
        (∃ numStates, PassesChecks numStates (tokenLines (Text.lines text))) ∧
        (lastNumber (codeLines text) + 1 : Int) = n := by
  refine ⟨assemble_eq, fun e h he => ?_, fun _ => load_eq_endOfText_iff⟩
  obtain ⟨pre, ⟨n, l⟩, post, hpre, hline, hlocal, hload⟩ := exists_of_loadLines_eq_error h he
  obtain ⟨before, after, hlines, rfl, hl, rfl⟩ := exists_of_codeLines_eq hpre
  refine ⟨before, l, after, hlines, hline.symm, hl, fun text' htext' => ?_, fun hfive => hload ?_⟩
  · obtain ⟨after', hlines'⟩ := htext'
    obtain ⟨post', hpost'⟩ := codeLines_of_lines_eq (by simpa using hlines'.symm) hl
    rw [load_eq_loadLines, hpost', hlocal]
  · rwa [length_codeLines, Text.lines_unlines_of_append hlines]

/-- The program that reverses words, with a target in line 9 that is no state, and another fault
after it. -/
def faultyReversal : Text :=
  Text.unlines <| ["3", "1", "0", "2", "2", "# collect",
    "0 a ~ ~ 0 1 ~ 0 a 1",
    "0 b ~ ~ 0 1 ~ 0 b 1",
    "0 ~ ~ ~ 9 0 ~ 0 ~ -1",
    "# write",
    "1 ~ ~"].map String.toText

theorem fieldCountShown_faultyReversal : FieldCountShown faultyReversal := by
  rintro numTapes ⟨token, htokens, hread⟩
  have hline : (tokenLines (Text.lines faultyReversal))[1]? = some [[.char '1']] := by
    decide +kernel
  obtain rfl : token = [.char '1'] := by simpa using Option.some.inj (htokens.symm.trans hline)
  have hone : Numeral.read ['1'] = .ok ((1 : Nat) : Int) := by decide
  obtain rfl : numTapes = 1 := Int.ofNat_inj.mp (Except.ok.inj (hread.symm.trans hone))
  decide +kernel

/-- Of the two faults the first is reported, whatever follows it, and the lines before it can be
loaded. -/
theorem faultyReversal_blames :
    load .standard faultyReversal = .error ⟨9, .stateOutOfRange 9⟩ ∧
      assemble .standard faultyReversal = .error (.record (.format ⟨9, .stateOutOfRange 9⟩)) ∧
      (∀ text', (Text.lines faultyReversal).take 9 <+: Text.lines text' →
        load .standard text' = .error ⟨9, .stateOutOfRange 9⟩) ∧
      ∃ m, load .standard (Text.unlines ((Text.lines faultyReversal).take 8)) = .ok m := by
  have hload : load .standard faultyReversal = .error ⟨9, .stateOutOfRange 9⟩ := by
    decide +kernel
  obtain ⟨hassemble, hfault, -⟩ := load_blames .standard faultyReversal
  obtain ⟨before, l, after, hlines, hline, -, hlocal, hbefore⟩ := hfault _ hload (by decide)
  have hlength : before.length = 8 := by
    change (9 : Int) = before.length + 1 at hline
    omega
  have htake : (Text.lines faultyReversal).take 8 = before := by
    rw [hlines, ← hlength, List.take_left]
  have htake' : (Text.lines faultyReversal).take 9 = before ++ [l] := by
    rw [hlines, List.append_cons, List.take_left' (by simp [hlength])]
  refine ⟨hload, ?_, fun text' h => hlocal text' (htake' ▸ h), ?_⟩
  · rw [hassemble fieldCountShown_faultyReversal, hload]
    rfl
  · rw [htake]
    exact hbefore (by rw [← htake]; decide +kernel)

end Program

end MultiTape
