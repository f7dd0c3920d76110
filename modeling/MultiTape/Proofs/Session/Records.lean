import MultiTape.Proofs.RunLog
import MultiTape.Proofs.Session.History
import MultiTape.Proofs.Terminal

/-!
# The log is a faithful record of the session

A session with a log records one entry for each query that it answers, at the moment of the query,
and nothing else: no other command writes to the log, nor does a query without a machine or about a
word of another alphabet. The entry tells what was asked, the word, the answer that is handed to the
console and the path of the program, which is the one inserted last. What a turn adds to the log can
be told from the log files alone, so the lines of a session are those that its history calls for.

The answer that is recorded is the text that the console is given to print. What the console makes
of it is another matter: it may leave characters out, put others in their place or fold the line.

## Main definitions

* `Answer`, `Question`: what a session can be asked, and what it answers
* `Turn.question?`: the question that a line asks after a history
* `Turn.Writes`: the lines that a turn adds to the log, as the log and the files show
* `Session.Logs`: the histories of sessions with a log, with what was recorded and printed
* `Session.Faithful`: what was recorded and printed in a turn is what the history calls for

## Main results

* `Session.Ready.answer_recorded`: what comes of a query whose answer is recorded
* `Session.Stands.exists_faithful`, `Session.Stands.turn`: what a turn records and preserves
* `Session.logs_faithful`: the log is a faithful record
-/

namespace MultiTape

open Session (Mode)

/-! ### Answers -/

namespace Machine

variable {m : Machine} {σ σ' : Type} {fuel : Nat} {w r : Text}

/-- Observers that end no run have no say in the answer. -/
theorem transform_answer_congr {observe : Observer σ Empty} {noted : σ}
    (h : (m.transform observe fuel noted w).answer = .ok r) (observe' : Observer σ' Empty)
    (noted' : σ') : (m.transform observe' fuel noted' w).answer = .ok r := by
  rw [transform_eq_silent] at h ⊢
  exact h

end Machine

/-- What a query is answered with. -/
inductive Answer where
  /-- What a word becomes. -/
  | text (t : Text)
  /-- Whether a word is accepted. -/
  | verdict (accepted : Bool)

namespace Answer

/-- The answer as it is recorded. -/
def json : Answer → Json
  | .text t => .str t
  | .verdict accepted => .bool accepted

/-- The answer as it is printed. -/
def shown : Answer → Text
  | .text t => t
  | .verdict accepted => (if accepted then "accept" else "reject").toText

end Answer

/-- What the machine answers about a word. -/
def Session.Mode.answer? (mode : Mode) (m : Machine) (fuel : Nat) (w : Text) : Option Answer :=
  match mode with
  | .transform => (m.transform Observer.silent fuel () w).answer.toOption.map .text
  | .decide => (m.accepts Observer.silent fuel () w).answer.toOption.map .verdict

/-- What a session is asked: about the machine inserted last and a word of the alphabet. -/
structure Question where
  /-- What is asked for. -/
  mode : Mode
  /-- What was inserted last. -/
  insertion : Insertion
  /-- The word. -/
  word : Text

/-- The entry that records a question with its answer. -/
def Question.entry (q : Question) (x : Answer) : RunEntry :=
  ⟨q.mode.name, q.word, x.json, some q.insertion.path⟩

/-! ### Turns -/

namespace Turn

variable {t : Turn} {s : Session} {a : Alphabet} {ls ls' : List Text}

/-- The query that a line asks for, and its word: the empty one if none is given. -/
def query? (t : Turn) : Option (Mode × Text) :=
  match t.command with
  | .run word | .trace word => some (.transform, word.getD [])
  | .check word => some (.decide, word.getD [])
  | _ => none

/-- The question that a line asks after a history: there is one if a program was inserted and the
word is one of the alphabet. -/
def question? (settings : Settings) (turns : List Turn) (t : Turn) : Option Question := do
  let a ← settings.alphabet.toOption
  let i ← lastInsertion? a turns
  let (mode, word) ← t.query?
  if a.isWord word then some ⟨mode, i, word⟩ else none

theorem question?_eq {settings : Settings} {turns : List Turn} {mode : Mode} {word : Text}
    (ha : settings.alphabet = .ok a) (hquery : t.query? = some (mode, word)) :
    t.question? settings turns = (lastInsertion? a turns).bind fun i =>
      if a.isWord word then some ⟨mode, i, word⟩ else none := by
  rw [question?, ha, hquery]
  rfl

/-- The lines are what a session with a log adds to it in a turn: all that happens to the log and to
the files is that some entries are recorded at the moment of the turn, and these are their lines. -/
def Writes (t : Turn) (s : Session) (ls : List Text) : Prop :=
  ∃ (es : List RunEntry) (log log' : RunLog), es.map (RunEntry.line t.now) = ls ∧
    s.log = some log ∧ (t.reply s).session.log = some log' ∧
    log.performAll t.files (es.map (RunLog.Call.record t.now)) = .ok (log', (t.reply s).files)

/-- What a turn adds to the log can be told from the log and the files. -/
theorem Writes.eq {log : RunLog} (h : t.Writes s ls) (h' : t.Writes s ls') (hlog : s.log = some log)
    (hcurrent : log.IsCurrent) : ls = ls' := by
  obtain ⟨es, log₁, log', rfl, hlog₁, -, hperform⟩ := h
  obtain ⟨es', log₂, log'', rfl, hlog₂, -, hperform'⟩ := h'
  obtain rfl := Option.some.inj (hlog.symm.trans hlog₁)
  obtain rfl := Option.some.inj (hlog.symm.trans hlog₂)
  exact RunLog.map_line_eq_of_performAll hcurrent hperform hperform'

theorem writes_nil {log : RunLog} (hlog : s.log = some log)
    (hsession : (t.reply s).session.log = s.log) (hfiles : (t.reply s).files = t.files) :
    t.Writes s [] :=
  ⟨[], log, log, rfl, hlog, hsession.trans hlog, by rw [hfiles]; rfl⟩

end Turn

namespace Session

variable {console : Console} {s : Session} {a : Alphabet} {files : FileTree} {now : Clock}
  {l : Loaded} {settings : Settings} {turns : List Turn} {t : Turn}

/-! ### What a command records -/

theorem finish_recorded {log : RunLog} (hlog : s.log = some log) {entry : RunEntry}
    {before answer : Text}
    (hfile : ∀ e, (s.finish console files now l entry before answer).outcome ≠ .error (.file e)) :
    ∃ log' files', log.record files now entry = (log', .ok files') ∧
      s.finish console files now l entry before answer =
        ⟨.ok true, before ++ console.print answer, { s with loaded := some l, log := some log' },
          files'⟩ := by
  rcases hrecord : log.record files now entry with ⟨log', e | files'⟩
  · exact absurd (by simp only [finish, hlog, hrecord]) (hfile e)
  · exact ⟨log', files', rfl, by simp only [finish, hlog, hrecord]⟩

section Answer

variable {σ α : Type} {mode : Mode} {word : Option Text}
  {ask : Machine → Text → Machine.Query σ Empty α} {printed : σ → Text} {result : α → Json}
  {shown : α → Text}

/-- **A query that is answered records its answer**, prints it, and does nothing else to the
files. -/
theorem Ready.answer_recorded (hs : s.Ready a)
    (hask : ∀ (m : Machine) w, m.WellFormed → m.Settles (ask m w)) (hl : s.loaded = some l)
    (hword : a.isWord (word.getD []) = true) {log : RunLog} (hlog : s.log = some log)
    (hends : (s.answer console files now mode word ask printed result shown).outcome ≠
      .error .outOfFuel)
    (hfile : ∀ e, (s.answer console files now mode word ask printed result shown).outcome ≠
      .error (.file e)) :
    ∃ x log' files', (ask l.machine (word.getD [])).answer = .ok x ∧
      log.record files now ⟨mode.name, word.getD [], result x, some l.path⟩ =
        (log', .ok files') ∧
      s.answer console files now mode word ask printed result shown =
        ⟨.ok true,
          printed (ask l.machine (word.getD [])).noted ++ console.print (shown x),
          { s with log := some log' }, files'⟩ := by
  rcases hs.answer_cases hask with ⟨hnone, -⟩ | ⟨l', hl', hno, -⟩ | ⟨l', hl', -, h⟩
  · exact nomatch hl.symm.trans hnone
  · exact nomatch hword.symm.trans hno
  · obtain rfl := Option.some.inj (hl.symm.trans hl')
    rcases h with ⟨-, hout⟩ | ⟨x, hx, heq⟩
    · exact absurd hout hends
    · rw [heq] at hfile ⊢
      obtain ⟨log', files', hrecord, hreply⟩ := finish_recorded hlog hfile
      refine ⟨x, log', files', hx, hrecord, ?_⟩
      rw [hreply, ← hl]

/-- A query that cannot be asked leaves everything as it is. -/
theorem Ready.answer_unrecorded (hs : s.Ready a)
    (hask : ∀ (m : Machine) w, m.WellFormed → m.Settles (ask m w))
    (hno : ∀ l, s.loaded = some l → a.isWord (word.getD []) = false) :
    (s.answer console files now mode word ask printed result shown).session = s ∧
      (s.answer console files now mode word ask printed result shown).files = files := by
  rcases hs.answer_cases hask with ⟨-, h⟩ | ⟨l', -, -, h⟩ | ⟨l', hl', hword, -⟩
  · rw [h]
    exact ⟨rfl, rfl⟩
  · rw [h]
    exact ⟨rfl, rfl⟩
  · exact nomatch (hno l' hl').symm.trans hword

end Answer

/-- A command that asks nothing records nothing. -/
theorem Ready.log_perform (hs : s.Ready a) {fuel : Nat} {c : Command}
    (hc : ∀ word, c ≠ .run word ∧ c ≠ .trace word ∧ c ≠ .check word) :
    (s.perform console files now fuel c).session.log = s.log ∧
      (s.perform console files now fuel c).files = files := by
  cases c with
  | nothing | quit | help | unknown => exact ⟨rfl, rfl⟩
  | run word => exact absurd rfl (hc word).1
  | trace word => exact absurd rfl (hc word).2.1
  | check word => exact absurd rfl (hc word).2.2
  | insert path =>
    change (s.insert console files path).session.log = _ ∧ (s.insert console files path).files = _
    cases path with
    | none => exact ⟨rfl, rfl⟩
    | some path =>
      rcases insert_cases hs.alphabet console files path with
        ⟨text, m, -, -, h⟩ | ⟨-, -, message, -, h⟩ | ⟨e, -, -, h⟩ <;> rw [h] <;> exact ⟨rfl, rfl⟩
  | print =>
    change (s.print console files).session.log = _ ∧ (s.print console files).files = _
    rw [print]
    split <;> exact ⟨rfl, rfl⟩
  | table =>
    change (s.table console files).session.log = _ ∧ (s.table console files).files = _
    rw [table]
    split <;> exact ⟨rfl, rfl⟩

/-! ### Histories -/

/-- A turn of a session with a log: what it recorded and what it printed. -/
structure LoggedTurn where
  /-- The turn. -/
  turn : Turn
  /-- The lines that it added to the log. -/
  lines : List Text
  /-- What was printed. -/
  out : Text

/-- The histories of sessions, with what each turn recorded and printed, if all runs end and the log
can be written. -/
inductive Logs (settings : Settings) : List LoggedTurn → Session → Prop where
  /-- The session was just started. -/
  | start {files files' : FileTree} {now : Clock} {s : Session}
    (h : Session.start settings files now = (.ok s, files')) : Logs settings [] s
  /-- A line was entered. -/
  | turn {turns : List LoggedTurn} {s : Session} (h : Logs settings turns s) (t : Turn)
    (hends : t.Ends s) (hfile : ∀ e, (t.reply s).outcome ≠ .error (.file e))
    {ls : List Text} (hls : t.Writes s ls) :
    Logs settings (turns ++ [⟨t, ls, (t.reply s).out⟩]) (t.reply s).session

/-- What a turn recorded and printed is what the history calls for. -/
structure Faithful (settings : Settings) (turns : List Turn) (step : LoggedTurn) : Prop where
  /-- If no question was asked, nothing was recorded. -/
  lines_eq_nil : step.turn.question? settings turns = none → step.lines = []
  /-- If a question was asked, one entry was recorded: the question with the answer that the machine
  gives. This is also what the console was given to print, behind nothing else unless the steps were
  to be shown, and so it is what was shown if the console shows it as it is. -/
  exists_answer : ∀ q, step.turn.question? settings turns = some q →
    ∃ x, q.mode.answer? q.insertion.machine step.turn.fuel q.word = some x ∧
      step.lines = [(q.entry x).line step.turn.now] ∧
      ∃ before, step.out = before ++ step.turn.console.print x.shown ∧
        ((∀ word, step.turn.command ≠ .trace word) → before = []) ∧
        ∀ plain, step.turn.console.Shows plain → plain x.shown →
          step.out = before ++ x.shown ++ "\n".toText

/-- A session with a log stands where its history has led it. -/
structure Stands (settings : Settings) (turns : List Turn) (s : Session) : Prop where
  /-- The settings never change. -/
  settings_eq : s.settings = settings
  /-- There is a log, and it writes the file of the date it was turned to last. -/
  exists_log : ∃ log, s.log = some log ∧ log.IsCurrent
  /-- With an alphabet, the session holds the last insertion. -/
  holds : ∀ a, settings.alphabet = .ok a → Holds a settings (lastInsertion? a turns) s
  /-- Without an alphabet, it holds nothing. -/
  loaded_eq : ∀ e, settings.alphabet = .error e → s.loaded = none

namespace Stands

variable (h : Stands settings turns s)
include h

theorem faithful_of_unrecorded (hquestion : t.question? settings turns = none)
    (hsession : (t.reply s).session.log = s.log) (hfiles : (t.reply s).files = t.files) :
    ∃ ls, t.Writes s ls ∧ Faithful settings turns ⟨t, ls, (t.reply s).out⟩ := by
  obtain ⟨log, hlog, -⟩ := h.exists_log
  exact ⟨[], Turn.writes_nil hlog hsession hfiles, fun _ => rfl,
    fun q hq => nomatch hquestion.symm.trans hq⟩

/-- **A query is recorded as the history calls for**, if the session asks for what is recorded. -/
theorem exists_faithful_answer (ha : settings.alphabet = .ok a) {σ α : Type} {mode : Mode}
    {word : Option Text} {ask : Machine → Text → Machine.Query σ Empty α} {printed : σ → Text}
    {result : α → Json} {shown : α → Text} (hquery : t.query? = some (mode, word.getD []))
    (hreply : t.reply s = s.answer t.console t.files t.now mode word ask printed result shown)
    (hask : ∀ (m : Machine) w, m.WellFormed → m.Settles (ask m w))
    (hanswer : ∀ m x, (ask m (word.getD [])).answer = .ok x →
      ∃ y : Answer, mode.answer? m t.fuel (word.getD []) = some y ∧ y.json = result x ∧
        y.shown = shown x)
    (hprinted : (∀ word, t.command ≠ .trace word) → ∀ noted, printed noted = [])
    (hends : t.Ends s) (hfile : ∀ e, (t.reply s).outcome ≠ .error (.file e)) :
    ∃ ls, t.Writes s ls ∧ Faithful settings turns ⟨t, ls, (t.reply s).out⟩ := by
  obtain ⟨log, hlog, -⟩ := h.exists_log
  have hholds := h.holds a ha
  have hs := hholds.ready ha
  have hquestion : t.question? settings turns = _ := Turn.question?_eq ha hquery
  by_cases hno : ∀ l, s.loaded = some l → a.isWord (word.getD []) = false
  · obtain ⟨hsession, hfiles⟩ := hs.answer_unrecorded hask hno
    rw [← hreply] at hsession hfiles
    refine h.faithful_of_unrecorded ?_ (by rw [hsession]) hfiles
    rw [hquestion]
    cases hlast : lastInsertion? a turns with
    | none => rfl
    | some i =>
      have hword := hno i.loaded (by rw [hholds.loaded_eq, hlast]; rfl)
      rw [Option.bind_some, hword]
      rfl
  · simp only [not_forall, Bool.not_eq_false] at hno
    obtain ⟨l, hl, hword⟩ := hno
    obtain ⟨i, hi, rfl⟩ := Option.map_eq_some_iff.mp (hholds.loaded_eq.symm.trans hl)
    rw [Turn.Ends, hreply] at hends
    rw [hreply] at hfile
    obtain ⟨x, log', files', hx, hrecord, heq⟩ :=
      hs.answer_recorded hask hl hword hlog hends hfile
    obtain ⟨y, hy, hjson, hshown⟩ := hanswer i.machine x hx
    rw [hi, Option.bind_some, if_pos hword] at hquestion
    have hentry : Question.entry ⟨mode, i, word.getD []⟩ y =
        ⟨mode.name, word.getD [], result x, some i.path⟩ := by rw [Question.entry, hjson]
    have hperform : log.performAll t.files
        ([⟨mode.name, word.getD [], result x, some i.path⟩].map (RunLog.Call.record t.now)) =
          .ok (log', files') := by
      have hcall : log.perform t.files (.record t.now
          ⟨mode.name, word.getD [], result x, some i.path⟩) = (log', .ok files') := hrecord
      simp only [List.map_cons, List.map_nil, RunLog.performAll, hcall]
    refine ⟨[(Question.entry ⟨mode, i, word.getD []⟩ y).line t.now],
      ⟨[Question.entry ⟨mode, i, word.getD []⟩ y], log, log', rfl, hlog, ?_, ?_⟩,
      fun hnone => absurd (hquestion.symm.trans hnone) (Option.some_ne_none _), fun q hq => ?_⟩
    · rw [hreply, heq]
    · rw [hreply, heq, hentry]
      exact hperform
    · obtain rfl := Option.some.inj (hquestion.symm.trans hq)
      have hout : (t.reply s).out =
          printed (ask i.machine (word.getD [])).noted ++ t.console.print y.shown := by
        rw [hreply, heq, hshown]
        rfl
      refine ⟨y, hy, rfl, _, hout, fun htrace => hprinted htrace _, fun plain hshows hplain => ?_⟩
      exact hout.trans (by rw [hshows.print_eq hplain, List.append_assoc])

/-- **What a turn records** is what the history calls for. -/
theorem exists_faithful (t : Turn) (hends : t.Ends s)
    (hfile : ∀ e, (t.reply s).outcome ≠ .error (.file e)) :
    ∃ ls, t.Writes s ls ∧ Faithful settings turns ⟨t, ls, (t.reply s).out⟩ := by
  have hreply : t.reply s = s.perform t.console t.files t.now t.fuel t.command := rfl
  cases ha : settings.alphabet with
  | error e =>
    have hs : s.alphabet = .error e := by rw [Session.alphabet, h.settings_eq, ha]
    obtain ⟨hsession, hfiles⟩ := perform_of_alphabet_error hs (h.loaded_eq e ha) t.command
    refine h.faithful_of_unrecorded ?_ (by rw [hreply, hsession]) (by rw [hreply, hfiles])
    rw [Turn.question?, ha]
    rfl
  | ok a =>
    cases hcommand : t.command with
    | run word =>
      have hanswer : t.reply s = s.answer t.console t.files t.now .transform word
          (fun m => m.transform Observer.silent t.fuel ()) (fun _ => []) .str id := by
        rw [hreply, hcommand]
        rfl
      refine h.exists_faithful_answer ha (by rw [Turn.query?, hcommand]) hanswer
        (fun m w hm => hm.settles_transform _ _ _ _) (fun m x hx => ⟨.text x, ?_, rfl, rfl⟩)
        (fun _ _ => rfl) hends hfile
      rw [Mode.answer?, hx]
      rfl
    | trace word =>
      have hanswer : t.reply s = s.answer t.console t.files t.now .transform word
          (fun m => m.transform (tracer t.console m) t.fuel [])
          (fun printed => printed.reverse.flatten) .str id := by
        rw [hreply, hcommand]
        rfl
      refine h.exists_faithful_answer ha (by rw [Turn.query?, hcommand]) hanswer
        (fun m w hm => hm.settles_transform _ _ _ _) (fun m x hx => ⟨.text x, ?_, rfl, rfl⟩)
        (fun htrace _ => absurd hcommand (htrace word)) hends hfile
      rw [Mode.answer?, Machine.transform_answer_congr hx]
      rfl
    | check word =>
      have hanswer : t.reply s = s.answer t.console t.files t.now .decide word
          (fun m => m.accepts Observer.silent t.fuel ()) (fun _ => []) .bool
          fun accepted => (if accepted then "accept" else "reject").toText := by
        rw [hreply, hcommand]
        rfl
      refine h.exists_faithful_answer ha (by rw [Turn.query?, hcommand]) hanswer
        (fun m w hm => hm.settles_accepts _ _ _ _) (fun m x hx => ⟨.verdict x, ?_, rfl, rfl⟩)
        (fun _ _ => rfl) hends hfile
      rw [Mode.answer?, hx]
      rfl
    | _ =>
      have hquery : t.query? = none := by rw [Turn.query?, hcommand]
      have hquestion : t.question? settings turns = none := by
        simp [Turn.question?, hquery]
      have hother (word : Option Text) :
          t.command ≠ .run word ∧ t.command ≠ .trace word ∧ t.command ≠ .check word := by
        rw [hcommand]
        simp
      obtain ⟨hlog, hfiles⟩ := ((h.holds a ha).ready ha).log_perform hother
      exact h.faithful_of_unrecorded hquestion (by rw [hreply, hlog]) (by rw [hreply, hfiles])

/-- **What a turn preserves.** -/
theorem turn (hends : t.Ends s) {ls : List Text} (hls : t.Writes s ls) :
    Stands settings (turns ++ [t]) (t.reply s).session := by
  obtain ⟨log, hlog, hcurrent⟩ := h.exists_log
  obtain ⟨es, log₁, log', -, hlog₁, hlog', hperform⟩ := hls
  obtain rfl := Option.some.inj (hlog.symm.trans hlog₁)
  have hcurrent' := (RunLog.grows_performAll hcurrent hperform).2.2.1
  cases ha : settings.alphabet with
  | error e =>
    have hs : s.alphabet = .error e := by rw [Session.alphabet, h.settings_eq, ha]
    have hsession : (t.reply s).session = s :=
      (perform_of_alphabet_error hs (h.loaded_eq e ha) t.command).1
    refine ⟨?_, ⟨log', hlog', hcurrent'⟩, ?_, fun e' he' => ?_⟩
    · rw [hsession, h.settings_eq]
    · intro a ha'
      cases ha.symm.trans ha'
    · rw [hsession, h.loaded_eq e' he']
  | ok a =>
    have hholds := (h.holds a ha).turn ha hends
    refine ⟨hholds.settings_eq, ⟨log', hlog', hcurrent'⟩, fun a' ha' => ?_, fun e he => ?_⟩
    · obtain rfl := Except.ok.inj (ha.symm.trans ha')
      rw [lastInsertion?_concat]
      exact hholds
    · cases ha.symm.trans he

end Stands

/-- A session that is to log its queries stands at its beginning. -/
theorem stands_start (hlogs : (settings.get .logRuns).truthy = true) {files' : FileTree}
    (h : Session.start settings files now = (.ok s, files')) : Stands settings [] s := by
  obtain ⟨hsettings, hloaded, -⟩ := start_eq_ok h
  refine ⟨hsettings, ?_, fun a _ => ⟨hsettings, hloaded, nofun, fun hfalse => ?_⟩,
    fun _ _ => hloaded⟩
  · rw [Session.start, if_pos hlogs] at h
    split at h
    · split at h
      · next log _ hstart =>
        obtain rfl := Except.ok.inj (Prod.mk.inj h).1
        exact ⟨log, rfl, RunLog.isCurrent_of_start (congrArg Prod.fst hstart)⟩
      · cases (Prod.mk.inj h).1
    · cases (Prod.mk.inj h).1
  · cases hlogs.symm.trans hfalse

/-- **What a history preserves.** -/
theorem Logs.stands (hlogs : (settings.get .logRuns).truthy = true) {steps : List LoggedTurn}
    (h : Logs settings steps s) : Stands settings (steps.map LoggedTurn.turn) s := by
  induction h with
  | start h => exact stands_start hlogs h
  | turn h t hends hfile hls ih =>
    rw [List.map_append, List.map_singleton]
    exact ih.turn hends hls

/-- **The log is a faithful record of the session.** Whatever lines are entered at whatever moments,
each turn records what its history calls for: one entry if it asks a question, about the program
inserted last, with the answer that the console is given to print; and nothing if it asks none. And
whatever line is entered next, what it records can be told from the log and the files. -/
theorem logs_faithful (hlogs : (settings.get .logRuns).truthy = true) {steps : List LoggedTurn}
    (h : Logs settings steps s) :
    (∀ before step after, steps = before ++ step :: after →
      Faithful settings (before.map LoggedTurn.turn) step) ∧
    ∀ t : Turn, t.Ends s → (∀ e, (t.reply s).outcome ≠ .error (.file e)) →
      ∃! ls, t.Writes s ls := by
  constructor
  · induction h with
    | start h => exact fun before step after hsteps => absurd hsteps (by simp)
    | @turn steps s h t hends hfile ls hls ih =>
      intro before step after hsteps
      have hstands := h.stands hlogs
      rcases List.eq_nil_or_concat after with rfl | ⟨after, last, rfl⟩
      · obtain ⟨rfl, hstep⟩ := List.append_inj' hsteps rfl
        obtain rfl := (List.cons.inj hstep).1
        obtain ⟨ls', hls', hfaithful⟩ := hstands.exists_faithful t hends hfile
        obtain ⟨log, hlog, hcurrent⟩ := hstands.exists_log
        rwa [hls.eq hls' hlog hcurrent]
      · rw [List.concat_eq_append, ← List.cons_append, ← List.append_assoc] at hsteps
        exact ih before step after (List.append_inj' hsteps rfl).1
  · intro t hends hfile
    have hstands := h.stands hlogs
    obtain ⟨ls, hls, -⟩ := hstands.exists_faithful t hends hfile
    obtain ⟨log, hlog, hcurrent⟩ := hstands.exists_log
    exact ⟨ls, hls, fun ls' hls' => hls'.eq hls hlog hcurrent⟩

/-! ### A session with a log -/

/-- The settings that hold unless others are given, but with a log. -/
def loggingSettings : Settings :=
  Settings.default.insert (.str Settings.Key.logRuns.name) (.bool true)

/-- The files of the workshop, and a directory for log files. -/
def loggingFiles : FileTree :=
  ⟨(⟨.above 0, [FileName.ofText "logs".toText]⟩, .directory) :: workshop.entries⟩

/-- The log of that day. -/
def workshopLog : RunLog :=
  ⟨"logs/".toText, "dtm_".toText, "2024-01-02".toText, "logs/dtm_2024-01-02.jsonl".toText⟩

/-- A line that is entered there. -/
def loggingTurn (line : String) : Turn := { workshopTurn line with files := loggingFiles }

/-- A session that has the machine loaded that reverses words. -/
def loggingSession : Session :=
  { workshopSession "reversal.tm" with settings := loggingSettings, log := some workshopLog }

/-- The program that is inserted there. -/
def loggingInsertion : Insertion :=
  ⟨"reversal.tm".toText, Program.reversal, Program.reversalMachine⟩

theorem insertion?_loggingTurn :
    (loggingTurn "insert reversal.tm").insertion? .standard = some loggingInsertion :=
  Turn.insertion?_eq_some_iff.mpr ⟨by decide +kernel, by decide +kernel, Program.load_reversal⟩

/-- Once the program is inserted, words of letters are asked about until another one is. -/
theorem question?_loggingTurn {mode : Mode} {word : Text} (hquery : t.query? = some (mode, word))
    (hothers : ∀ t ∈ turns, t.insertion? .standard = none) :
    t.question? loggingSettings (loggingTurn "insert reversal.tm" :: turns) =
      if Alphabet.standard.isWord word then some ⟨mode, loggingInsertion, word⟩ else none := by
  have hnone : turns.reverse.findSome? (Turn.insertion? .standard) = none :=
    List.findSome?_eq_none_iff.mpr fun t ht => hothers t (List.mem_reverse.mp ht)
  have hlast : lastInsertion? .standard (loggingTurn "insert reversal.tm" :: turns) =
      some loggingInsertion := by
    rw [lastInsertion?, List.reverse_cons, List.findSome?_append, hnone, Option.none_or,
      List.findSome?_singleton, insertion?_loggingTurn]
  have halphabet : loggingSettings.alphabet = .ok .standard := rfl
  rw [Turn.question?_eq halphabet hquery, hlast]
  rfl

/-- With a log, a run is recorded with its answer, and a check of a word with a digit is not. -/
theorem logs_workshop :
    (loggingSettings.get .logRuns).truthy = true ∧
      ∃ s, Logs loggingSettings
        [⟨loggingTurn "insert reversal.tm", [], []⟩,
          ⟨loggingTurn "run ab", [RunEntry.line ⟨2024, 1, 2, 3, 4, 5, 0⟩
            ⟨"transform".toText, "ab".toText, .str "ba".toText, some "reversal.tm".toText⟩],
            "ba\n".toText⟩,
          ⟨loggingTurn "check a1", [], "Error! Not matching the alphabet!\n".toText⟩] s := by
  have hlogs : (loggingSettings.get .logRuns).truthy = true := rfl
  have hstart : Session.start loggingSettings loggingFiles ⟨2024, 1, 2, 3, 4, 5, 0⟩ =
      (.ok ⟨loggingSettings, none, some workshopLog⟩, loggingFiles) := rfl
  have hinserted := Turn.reply_of_insertion? (s := ⟨loggingSettings, none, some workshopLog⟩) rfl
    insertion?_loggingTurn
  -- a turn records something, and the history so far says what
  have next {steps : List LoggedTurn} {s : Session} (h : Logs loggingSettings steps s) (t : Turn)
      (hok : (t.reply s).outcome = .ok true) : ∃ ls,
        Logs loggingSettings (steps ++ [⟨t, ls, (t.reply s).out⟩]) (t.reply s).session ∧
        Faithful loggingSettings (steps.map LoggedTurn.turn) ⟨t, ls, (t.reply s).out⟩ := by
    have hends : t.Ends s := by
      rw [Turn.Ends, hok]
      simp
    have hfile : ∀ e, (t.reply s).outcome ≠ .error (.file e) := by
      rw [hok]
      simp
    obtain ⟨ls, hls, -⟩ := (logs_faithful hlogs h).2 t hends hfile
    have hnext := h.turn t hends hfile hls
    exact ⟨ls, hnext, (logs_faithful hlogs hnext).1 steps _ [] rfl⟩
  -- the insert
  obtain ⟨ls, hfirst, hnothing⟩ := next (Logs.start hstart) (loggingTurn "insert reversal.tm")
    (by rw [hinserted])
  obtain rfl : ls = [] := hnothing.lines_eq_nil rfl
  rw [hinserted] at hfirst
  have hfirst' : Logs loggingSettings [⟨loggingTurn "insert reversal.tm", [], []⟩]
      loggingSession := hfirst
  -- the run
  obtain ⟨ls, hsecond, hrun⟩ := next hfirst' (loggingTurn "run ab") rfl
  have hquery : (loggingTurn "run ab").query? = some (.transform, "ab".toText) := rfl
  have hquestion := question?_loggingTurn hquery (List.forall_mem_nil _)
  rw [if_pos (by decide +kernel)] at hquestion
  obtain ⟨x, hx, hlines, before, -, hbefore, hshown⟩ := hrun.exists_answer _ hquestion
  have hanswer : (Program.reversalMachine.transform Observer.silent 20 ()
      "ab".toText).answer.toOption = some "ba".toText := by decide +kernel
  have hx' : Mode.transform.answer? Program.reversalMachine 20 "ab".toText = some x := hx
  rw [Mode.answer?, hanswer] at hx'
  obtain rfl : .text "ba".toText = x := Option.some.inj hx'
  have hcommand : (loggingTurn "run ab").command = .run (some "ab".toText) := rfl
  obtain rfl : before = [] := hbefore fun word => by simp [hcommand]
  have hout : ((loggingTurn "run ab").reply loggingSession).out = "ba\n".toText :=
    hshown Terminal.Plain Terminal.console_shows (by decide)
  have hsession : ((loggingTurn "run ab").reply loggingSession).session = loggingSession := rfl
  have hline : ls = [RunEntry.line ⟨2024, 1, 2, 3, 4, 5, 0⟩
      ⟨"transform".toText, "ab".toText, .str "ba".toText, some "reversal.tm".toText⟩] := hlines
  rw [hsession, hout, hline] at hsecond
  -- the check
  obtain ⟨ls, hthird, hrejected⟩ := next hsecond (loggingTurn "check a1") rfl
  have hinsertion : (loggingTurn "run ab").insertion? .standard = none := rfl
  have hquery' : (loggingTurn "check a1").query? = some (.decide, "a1".toText) := rfl
  have hnone := question?_loggingTurn hquery' (List.forall_mem_singleton.mpr hinsertion)
  rw [if_neg (by decide +kernel)] at hnone
  obtain rfl : ls = [] := hrejected.lines_eq_nil hnone
  have hout' : ((loggingTurn "check a1").reply loggingSession).out =
      "Error! Not matching the alphabet!\n".toText := by decide +kernel
  rw [hout'] at hthird
  exact ⟨hlogs, _, hthird⟩

end Session

end MultiTape
