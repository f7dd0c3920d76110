import MultiTape.Proofs.Session.History
import MultiTape.Proofs.Terminal

/-!
# What breaks a session off

Bad input is meant to be answered by one line that names the error, and the session is to go on.
That is what happens, whatever the line and whatever the files are: paths that lead nowhere or to a
directory, files that hold no program, words of another alphabet. The one exception are bytes that
are no text. An insert of such a file breaks the session off without a word.

What is printed is one message without line breaks. It takes up one line of any console that shows
it as it is; a console that is too narrow for the message may fold it.

## Main definitions

* `Turn.quits`: the line asks to quit
* `Turn.run?`: the run that a line starts

## Main results

* `Turn.ends_of_stopsAfter`: if the run that a line starts ends, so does the turn
* `Session.reached_outcome`: how turns end, and what an insert prints that does not go through
-/

namespace MultiTape

/-! ### Runs that end -/

namespace Machine

variable {m : Machine} {c : Config} {n fuel : Nat} {σ : Type} {observe : Observer σ Empty}
  {w : Text}

/-- An observer that has no reason to end a run does not. -/
theorem StopsAfter.run_ending (h : m.StopsAfter n c) (hfuel : n < fuel) (noted : σ) :
    (m.run observe fuel noted c).ending = .halted := by
  rcases observe.hears_or_breaksOff noted (m.firings n c) with ⟨noted', hears⟩ | ⟨-, -, e, -⟩
  · rw [run, runFrom_of_hears h hears hfuel]
  · exact e.elim

theorem StopsAfter.transform_ne_outOfFuel (h : m.StopsAfter n (m.initial w)) (hfuel : n < fuel)
    (noted : σ) : (m.transform observe fuel noted w).answer ≠ .error .outOfFuel := by
  rw [transform, Ne, conclude_answer_eq_outOfFuel_iff, h.run_ending hfuel]
  simp

theorem StopsAfter.accepts_ne_outOfFuel (h : m.StopsAfter n (m.initial w)) (hfuel : n < fuel)
    (noted : σ) : (m.accepts observe fuel noted w).answer ≠ .error .outOfFuel := by
  rw [accepts]
  split
  · simp
  · rw [Ne, conclude_answer_eq_outOfFuel_iff, h.run_ending hfuel]
    simp

end Machine

/-! ### Turns -/

namespace Turn

variable {t : Turn} {a : Alphabet} {s : Session}

/-- The first word of the line starts with the letter that stands for quitting. -/
def quits (t : Turn) : Bool :=
  ((Text.words t.line).head?.bind fun word => (word.map Command.smallLetter).head?) ==
    some (.char 'q')

theorem command_eq_quit_iff : t.command = .quit ↔ t.quits = true := by
  rw [command, Command.ofLine, quits, beq_iff_eq]
  cases Text.words t.line with
  | nil => simp [Command.ofWords]
  | cons name arguments =>
    rw [List.head?_cons, Option.bind_some, Command.ofWords]
    generalize name.map Command.smallLetter = letters
    cases letters with
    | nil => simp
    | cons c letters =>
      rw [List.head?_cons, Option.some.injEq]
      split <;> simp_all

/-- The run that the line starts: that of the loaded machine on the word, if there are both. -/
def run? (a : Alphabet) (s : Session) (t : Turn) : Option (Machine × Text) :=
  match t.command with
  | .run word | .trace word | .check word =>
    match s.loaded with
    | some l => if a.isWord (word.getD []) then some (l.machine, word.getD []) else none
    | none => none
  | _ => none

/-- **If the run that a line starts ends, so does the turn.** -/
theorem ends_of_stopsAfter (hs : s.Ready a)
    (hrun : ∀ m w, t.run? a s = some (m, w) → ∃ n < t.fuel, m.StopsAfter n (m.initial w)) :
    t.Ends s := by
  have hreply : t.reply s = s.perform t.console t.files t.now t.fuel t.command := rfl
  rw [Ends, hreply]
  cases hcommand : t.command with
  | insert path =>
    rw [← hcommand, ← hreply]
    rcases reply_insert_cases hs.alphabet hcommand with
      ⟨i, -, h⟩ | ⟨-, -, message, -, h⟩ | ⟨e, -, -, h⟩ <;> rw [h] <;> simp [Session.say]
  | run word | trace word =>
    refine hs.answer_ends (fun m w hm => hm.settles_transform _ _ _ _) fun l hl hw => ?_
    obtain ⟨n, hn, hstops⟩ := hrun l.machine (word.getD []) (by simp [run?, hcommand, hl, hw])
    exact hstops.transform_ne_outOfFuel hn _
  | check word =>
    refine hs.answer_ends (fun m w hm => hm.settles_accepts _ _ _ _) fun l hl hw => ?_
    obtain ⟨n, hn, hstops⟩ := hrun l.machine (word.getD []) (by simp [run?, hcommand, hl, hw])
    exact hstops.accepts_ne_outOfFuel hn _
  | print =>
    change (s.print t.console t.files).outcome ≠ _
    rw [Session.print]
    split <;> simp [Session.say]
  | table =>
    change (s.table t.console t.files).outcome ≠ _
    rw [Session.table]
    split <;> simp [Session.say, Session.sayError]
  | nothing | quit | help | unknown =>
    simp [Session.perform, Session.say, Session.sayError]

/-- Bytes that are no text break a turn off before anything happens. -/
theorem reply_of_fault? (ha : s.alphabet = .ok a) {e : Utf8.Fault} (hfault : t.fault? = some e) :
    t.reply s = ⟨.error (.undecodable e), [], s, t.files⟩ := by
  obtain ⟨path, hcommand⟩ : ∃ path, t.command = .insert path := by
    rw [fault?] at hfault
    split at hfault
    · exact ⟨_, ‹_›⟩
    · cases hfault
  rcases reply_insert_cases ha hcommand with
    ⟨i, hi, -⟩ | ⟨-, hnone, -⟩ | ⟨e', -, hfault', h⟩
  · obtain ⟨hpath, htext, -⟩ := insertion?_eq_some_iff.mp hi
    rw [fault?, hpath] at hfault
    cases hfault.symm.trans (Program.storedFault?_eq_none_of_storedText? htext)
  · cases hfault.symm.trans hnone
  · obtain rfl : e = e' := Option.some.inj (hfault.symm.trans hfault')
    exact h

/-- Whatever else keeps an insert from going through is named by a message that is a line. -/
theorem exists_message_of_insertion?_eq_none (ha : s.alphabet = .ok a) {path : Option Text}
    (hcommand : t.command = .insert path) (hfault : t.fault? = none)
    (hnone : t.insertion? a = none) :
    ∃ message, Text.IsLine message ∧ (t.reply s).out = t.console.printError message := by
  rcases reply_insert_cases ha hcommand with
    ⟨i, hi, -⟩ | ⟨-, -, message, hline, h⟩ | ⟨e, -, hfault', -⟩
  · exact nomatch hi.symm.trans hnone
  · exact ⟨message, hline, by rw [h]; rfl⟩
  · exact nomatch hfault.symm.trans hfault'

end Turn

/-! ### Sessions -/

namespace Session

variable {settings : Settings} {turns : List Turn} {s : Session}

/-- A turn without such bytes ends as its line says. -/
theorem Holds.outcome_reply {a : Alphabet} {last : Option Insertion} {t : Turn}
    (h : Holds a settings last s) (ha : settings.alphabet = .ok a)
    (hlog : settings.get .logRuns = .bool false) (hends : t.Ends s) (hfault : t.fault? = none) :
    (t.reply s).outcome = .ok !t.quits := by
  by_cases hinsert : ∃ path, t.command = .insert path
  · obtain ⟨path, hcommand⟩ := hinsert
    have hquits : t.quits = false := by
      rw [← Bool.not_eq_true, ← Turn.command_eq_quit_iff, hcommand]
      nofun
    rcases Turn.reply_insert_cases (h.alphabet ha) hcommand with
      ⟨i, -, hreply⟩ | ⟨-, -, message, -, hreply⟩ | ⟨e, -, hfault', -⟩
    · rw [hreply, hquits, Bool.not_false]
    · rw [hreply, hquits, Bool.not_false]
      rfl
    · exact nomatch hfault.symm.trans hfault'
  · have hkeeps := (h.ready ha).keeps_perform (fun path hc => hinsert ⟨path, hc⟩) hends
    have hquits : (t.command != .quit) = !t.quits := by
      rw [Bool.eq_iff_iff, bne_iff_ne, Bool.not_eq_true', ← Bool.not_eq_true,
        ← Turn.command_eq_quit_iff]
    rw [← hquits]
    exact (hkeeps.of_log (h.log_eq (by rw [hlog]; rfl))).2

/-- **Bad input is answered by one error message, and the session goes on until it is asked to
quit**, unless a file is to be inserted that is no text: then the turn is broken off, though nothing
has changed and nothing was printed. The message is a line, and it is printed on one line wherever
it is shown as it is. -/
theorem reached_outcome {files : FileTree} {path : Text}
    (hsettings : (Settings.loadFile files path).1 = .ok settings)
    (hlog : settings.get .logRuns = .bool false) (h : Reached settings turns s) :
    ∃ a, settings.alphabet = .ok a ∧ ∀ t : Turn,
      (∀ m w, t.run? a s = some (m, w) → ∃ n < t.fuel, m.StopsAfter n (m.initial w)) →
        (t.fault? = none → (t.reply s).outcome = .ok !t.quits) ∧
        (∀ e, t.fault? = some e → (t.reply s).outcome = .error (.undecodable e) ∧
          (t.reply s).out = [] ∧ (t.reply s).session = s) ∧
        ∀ p, t.command = .insert p → t.fault? = none → t.insertion? a = none →
          ∃ message, Text.IsLine message ∧ (t.reply s).out = t.console.printError message ∧
            ∀ plain, t.console.Shows plain → plain ("Error! ".toText ++ message) →
              (t.reply s).out = "Error! ".toText ++ message ++ "\n".toText := by
  obtain ⟨a, ha⟩ := Settings.exists_alphabet_of_loadFile hsettings
  have hholds := h.holds ha
  refine ⟨a, ha, fun t hrun => ⟨?_, fun e hfault => ?_, fun p hcommand hfault hnone => ?_⟩⟩
  · exact hholds.outcome_reply ha hlog (Turn.ends_of_stopsAfter (hholds.ready ha) hrun)
  · rw [Turn.reply_of_fault? (hholds.alphabet ha) hfault]
    exact ⟨rfl, rfl, rfl⟩
  · obtain ⟨message, hline, hout⟩ :=
      Turn.exists_message_of_insertion?_eq_none (hholds.alphabet ha) hcommand hfault hnone
    exact ⟨message, hline, hout,
      fun plain hshows hplain => hout.trans (hshows.printError_eq hplain)⟩

/-- With the machine loaded that reverses words, the session goes on after a run of it and after a
path that leads nowhere. It ends when it is asked to, and a byte that is no text breaks it off. -/
theorem workshop_outcome :
    (Settings.loadFile workshop "settings.json".toText).1 = .ok .default ∧
      Settings.default.get .logRuns = .bool false ∧
      Reached .default [workshopTurn "insert reversal.tm"] (workshopSession "reversal.tm") ∧
      (∃ n < 20, Program.reversalMachine.StopsAfter n
        (Program.reversalMachine.initial ['a', 'b'])) ∧
      ((workshopTurn "run ab").reply (workshopSession "reversal.tm")).outcome = .ok true ∧
      ((workshopTurn "quit").reply (workshopSession "reversal.tm")).outcome = .ok false ∧
      Terminal.console.Shows Terminal.Plain ∧
      (∃ message, Text.IsLine message ∧
        ((workshopTurn "insert nothing.tm").reply (workshopSession "reversal.tm")).out =
          Terminal.console.printError message ∧
        (Terminal.Plain ("Error! ".toText ++ message) →
          ((workshopTurn "insert nothing.tm").reply (workshopSession "reversal.tm")).out =
            "Error! ".toText ++ message ++ "\n".toText)) ∧
      ((workshopTurn "insert nothing.tm").reply (workshopSession "reversal.tm")).out =
        "Error! No file found!\n".toText ∧
      ((workshopTurn "insert noise.tm").reply (workshopSession "reversal.tm")).outcome =
        .error (.undecodable ⟨.badStart, 0xff, 0, 1⟩) ∧
      ((workshopTurn "insert noise.tm").reply (workshopSession "reversal.tm")).out = [] := by
  have hsettings : (Settings.loadFile workshop "settings.json".toText).1 = .ok .default := rfl
  have hlog : Settings.default.get .logRuns = .bool false := rfl
  have hreached := reached_workshopSession insertion?_workshopTurn
  have hending : (Program.reversalMachine.run Observer.silent 20 ()
      (Program.reversalMachine.initial ['a', 'b'])).ending = .halted := by decide +kernel
  obtain ⟨n, hn, hstops, -⟩ := Machine.exists_stopsAfter_of_runFrom hending
  obtain ⟨a, ha, hturns⟩ := reached_outcome hsettings hlog hreached
  obtain rfl : .standard = a := Except.ok.inj ha
  obtain ⟨hrun, -⟩ := hturns (workshopTurn "run ab") fun m w h => by
    obtain ⟨rfl, rfl⟩ := Prod.mk.inj (Option.some.inj h)
    exact ⟨n, hn, hstops⟩
  obtain ⟨hquit, -⟩ := hturns (workshopTurn "quit") nofun
  obtain ⟨-, -, hnothing⟩ := hturns (workshopTurn "insert nothing.tm") nofun
  obtain ⟨-, hnoise, -⟩ := hturns (workshopTurn "insert noise.tm") nofun
  obtain ⟨houtcome, hout, -⟩ := hnoise ⟨.badStart, 0xff, 0, 1⟩ rfl
  obtain ⟨message, hline, hprinted, hshown⟩ := hnothing (some "nothing.tm".toText) rfl rfl rfl
  exact ⟨hsettings, hlog, hreached, ⟨n, hn, hstops⟩, hrun rfl, hquit rfl, Terminal.console_shows,
    ⟨message, hline, hprinted, hshown _ Terminal.console_shows⟩, by decide +kernel, houtcome, hout⟩

end Session

end MultiTape
