import MultiTape.Proofs.Machine.History
import MultiTape.Proofs.Session.Commands
import MultiTape.Terminal.Basic

/-!
# What a session has loaded

Between the commands of a session anything may happen to the files, and commands may fail in any
way. What the session has loaded then is still determined by its history: it is the machine of the
last insert that succeeded, made from the text that the file held at that moment, under the path as
it was entered. The runs made since have left no trace in it, and what is printed from now on
depends on that text and on nothing else that was done before.

## Main definitions

* `Turn`: a line entered, with the console, the files and the moment; `Turn.reply` to it
* `Insertion`, `Turn.insertion?`: what an insert takes from a file if it succeeds
* `lastInsertion?`: the last such insertion of a history
* `Session.Reached`: the sessions that a history leads to

## Main results

* `Turn.reply_insert_cases`: what comes of a turn that is an insert
* `Session.Holds.turn`, `Session.Reached.holds`: what a turn and a history preserve
* `Session.reached_lastInsertion`: what a session has loaded, and what it prints
-/

namespace MultiTape

open Session (Reply)

/-! ### Turns -/

/-- A line that is entered in a session, with the console on which the reply is printed, the files
as they are then, the moment, and the fuel for the run that it may start. -/
structure Turn where
  /-- The console. -/
  console : Console
  /-- The files. -/
  files : FileTree
  /-- The moment. -/
  now : Clock
  /-- The fuel. -/
  fuel : Nat
  /-- The line. -/
  line : Text

/-- What an insert takes from a file. -/
structure Insertion where
  /-- The path as it was entered. -/
  path : Text
  /-- The text of the file. -/
  text : Text
  /-- The machine of the text. -/
  machine : Machine

/-- The machine at its start, under the path. -/
def Insertion.loaded (i : Insertion) : Loaded := ⟨i.machine, i.machine.initial [], i.path⟩

namespace Turn

variable {t : Turn} {a : Alphabet} {s : Session} {i : Insertion}

/-- The command of the line. -/
def command (t : Turn) : Command := Command.ofLine t.line

/-- The reply of a session. -/
def reply (t : Turn) (s : Session) : Reply := s.execute t.console t.files t.now t.fuel t.line

/-- The run that the line starts in a session, if it starts one, ends. -/
def Ends (t : Turn) (s : Session) : Prop := (t.reply s).outcome ≠ .error .outOfFuel

/-- What an insert takes from the file that it names, if that holds a program. -/
def insertion? (a : Alphabet) (t : Turn) : Option Insertion :=
  match t.command with
  | .insert (some path) =>
    match Program.storedText? t.files path with
    | some text =>
      match Program.load a text with
      | .ok m => some ⟨path, text, m⟩
      | .error _ => none
    | none => none
  | _ => none

/-- What keeps the bytes of the file that an insert names from being text. -/
def fault? (t : Turn) : Option Utf8.Fault :=
  match t.command with
  | .insert (some path) => Program.storedFault? t.files path
  | _ => none

theorem insertion?_eq_some_iff :
    t.insertion? a = some i ↔
      t.command = .insert (some i.path) ∧ Program.storedText? t.files i.path = some i.text ∧
        Program.load a i.text = .ok i.machine := by
  rw [insertion?]
  constructor
  · intro h
    split at h
    · next path hcommand =>
      split at h
      · next text htext =>
        split at h
        · next m hm =>
          obtain rfl := Option.some.inj h
          exact ⟨hcommand, htext, hm⟩
        · exact nomatch h
      · exact nomatch h
    · exact nomatch h
  · rintro ⟨hcommand, htext, hm⟩
    simp only [hcommand, htext, hm]

/-- **What comes of an insert**: the insertion becomes what is loaded, or one line is printed and
nothing else happens, or bytes that are no text break it off before anything happens. -/
theorem reply_insert_cases (ha : s.alphabet = .ok a) {path : Option Text}
    (hcommand : t.command = .insert path) :
    (∃ i, t.insertion? a = some i ∧
        t.reply s = ⟨.ok true, [], { s with loaded := some i.loaded }, t.files⟩) ∨
      (t.insertion? a = none ∧ t.fault? = none ∧
        ∃ message, Text.IsLine message ∧
          t.reply s = s.say t.files (t.console.printError message)) ∨
      ∃ e, t.insertion? a = none ∧ t.fault? = some e ∧
        t.reply s = ⟨.error (.undecodable e), [], s, t.files⟩ := by
  have hreply : t.reply s = s.insert t.console t.files path := by
    rw [reply, Session.execute, ← command, hcommand, Session.perform]
  rw [hreply, fault?, hcommand]
  cases path with
  | none =>
    refine .inr (.inl ⟨?_, rfl, "Wrong amount of input!".toText, by decide +kernel, rfl⟩)
    rw [insertion?, hcommand]
  | some path =>
    have hnone (h : ∀ m, Program.loadFile t.files a path ≠ .ok m) : t.insertion? a = none := by
      rw [Option.eq_none_iff_forall_ne_some]
      intro i hi
      obtain ⟨hpath, htext, hm⟩ := insertion?_eq_some_iff.mp hi
      obtain rfl : path = i.path := by simpa using hcommand.symm.trans hpath
      exact h i.machine (Program.loadFile_eq_ok_iff.mpr ⟨i.text, htext, hm⟩)
    rcases Session.insert_cases ha t.console t.files path with
      ⟨text, m, htext, hm, h⟩ | ⟨hfault, hne, hsaid⟩ | ⟨e, hfault, hne, h⟩
    · exact .inl ⟨⟨path, text, m⟩, insertion?_eq_some_iff.mpr ⟨hcommand, htext, hm⟩, h⟩
    · exact .inr (.inl ⟨hnone hne, hfault, hsaid⟩)
    · exact .inr (.inr ⟨e, hnone hne, hfault, h⟩)

theorem reply_of_insertion? (ha : s.alphabet = .ok a) (hi : t.insertion? a = some i) :
    t.reply s = ⟨.ok true, [], { s with loaded := some i.loaded }, t.files⟩ := by
  rcases reply_insert_cases ha (insertion?_eq_some_iff.mp hi).1 with
    ⟨i', hi', h⟩ | ⟨hnone, -⟩ | ⟨e, hnone, -⟩
  · obtain rfl : i = i' := Option.some.inj (hi.symm.trans hi')
    exact h
  · exact nomatch hi.symm.trans hnone
  · exact nomatch hi.symm.trans hnone

/-- An insert goes through silently, and only then it does. -/
theorem reply_silent_iff (ha : s.alphabet = .ok a) {path : Option Text}
    (hcommand : t.command = .insert path) :
    (t.reply s).outcome = .ok true ∧ (t.reply s).out = [] ↔ ∃ i, t.insertion? a = some i := by
  rcases reply_insert_cases ha hcommand with
    ⟨i, hi, h⟩ | ⟨hnone, -, message, -, h⟩ | ⟨e, hnone, -, h⟩
  · rw [h, hi]
    exact ⟨fun _ => ⟨i, rfl⟩, fun _ => ⟨rfl, rfl⟩⟩
  · rw [h, hnone]
    refine ⟨fun hsilent => absurd hsilent.2 ?_, fun ⟨i, hi⟩ => nomatch hi⟩
    exact t.console.printError_ne_nil message
  · rw [h, hnone]
    exact ⟨fun hok => absurd hok.1 nofun, fun ⟨i, hi⟩ => nomatch hi⟩

theorem session_reply_of_insertion?_eq_none (ha : s.alphabet = .ok a) {path : Option Text}
    (hcommand : t.command = .insert path) (hnone : t.insertion? a = none) :
    (t.reply s).session = s := by
  rcases reply_insert_cases ha hcommand with
    ⟨i, hi, -⟩ | ⟨-, -, message, -, h⟩ | ⟨e, -, -, h⟩
  · exact nomatch hnone.symm.trans hi
  · rw [h]
    rfl
  · rw [h]

end Turn

/-! ### Histories -/

/-- The last of the insertions in a history. -/
def lastInsertion? (a : Alphabet) (turns : List Turn) : Option Insertion :=
  turns.reverse.findSome? (Turn.insertion? a)

theorem lastInsertion?_concat (a : Alphabet) (turns : List Turn) (t : Turn) :
    lastInsertion? a (turns ++ [t]) = (t.insertion? a).or (lastInsertion? a turns) := by
  rw [lastInsertion?, List.reverse_append, List.findSome?_append]
  cases h : t.insertion? a <;> simp [h, lastInsertion?]

namespace Session

variable {settings : Settings} {turns : List Turn} {s : Session} {a : Alphabet}
  {last : Option Insertion} {t : Turn}

/-- The sessions that histories lead to from the start, if all runs end. -/
inductive Reached (settings : Settings) : List Turn → Session → Prop where
  /-- The session was just started. -/
  | start {files files' : FileTree} {now : Clock} {s : Session}
    (h : Session.start settings files now = (.ok s, files')) : Reached settings [] s
  /-- A line was entered. -/
  | turn {turns : List Turn} {s : Session} (h : Reached settings turns s) (t : Turn)
    (hends : t.Ends s) : Reached settings (turns ++ [t]) (t.reply s).session

/-- The session has the settings, and of its history it holds the last insertion. -/
structure Holds (a : Alphabet) (settings : Settings) (last : Option Insertion) (s : Session) :
    Prop where
  /-- The settings never change. -/
  settings_eq : s.settings = settings
  /-- The machine and the path are those of the last insertion, and the machine is at its start. -/
  loaded_eq : s.loaded = last.map Insertion.loaded
  /-- The machine is that of the text. -/
  load_eq : ∀ i, last = some i → Program.load a i.text = .ok i.machine
  /-- There is a log only if the settings ask for one. -/
  log_eq : (settings.get .logRuns).truthy = false → s.log = none

theorem Holds.alphabet (h : Holds a settings last s) (ha : settings.alphabet = .ok a) :
    s.alphabet = .ok a := by
  rw [Session.alphabet, h.settings_eq, ha]

theorem Holds.ready (h : Holds a settings last s) (ha : settings.alphabet = .ok a) :
    s.Ready a := by
  have hlast : ∀ l, s.loaded = some l → ∃ i, last = some i ∧ i.loaded = l := fun l hl =>
    Option.map_eq_some_iff.mp (h.loaded_eq.symm.trans hl)
  refine ⟨h.alphabet ha, fun l hl => ?_, fun l hl => ?_⟩
  · obtain ⟨i, hi, rfl⟩ := hlast l hl
    exact Program.wellFormed_of_load (h.load_eq i hi)
  · obtain ⟨i, -, rfl⟩ := hlast l hl
    rfl

/-- **What a turn preserves**: if it inserts nothing, what was loaded before is loaded after. -/
theorem Holds.turn (h : Holds a settings last s) (ha : settings.alphabet = .ok a) {t : Turn}
    (hends : t.Ends s) : Holds a settings ((t.insertion? a).or last) (t.reply s).session := by
  by_cases hinsert : ∃ path, t.command = .insert path
  · obtain ⟨path, hcommand⟩ := hinsert
    rcases Turn.reply_insert_cases (h.alphabet ha) hcommand with
      ⟨i, hi, hreply⟩ | ⟨hnone, -, message, -, hreply⟩ | ⟨e, hnone, -, hreply⟩
    · rw [hreply, hi]
      refine ⟨h.settings_eq, rfl, fun i' hi' => ?_, h.log_eq⟩
      obtain rfl : i = i' := Option.some.inj hi'
      exact (Turn.insertion?_eq_some_iff.mp hi).2.2
    · rw [hreply, hnone]
      exact h
    · rw [hreply, hnone]
      exact h
  · have hnone : t.insertion? a = none := by
      rw [Option.eq_none_iff_forall_ne_some]
      exact fun i hi => hinsert ⟨_, (Turn.insertion?_eq_some_iff.mp hi).1⟩
    have hkeeps := (h.ready ha).keeps_perform (fun path hc => hinsert ⟨path, hc⟩) hends
    rw [hnone]
    exact ⟨hkeeps.settings_eq.trans h.settings_eq, hkeeps.loaded_eq.trans h.loaded_eq, h.load_eq,
      fun hfalse => (hkeeps.of_log (h.log_eq hfalse)).1⟩

/-- A session starts with the settings and without a machine, and with a log only if the settings
ask for one. -/
theorem start_eq_ok {files files' : FileTree} {now : Clock}
    (h : Session.start settings files now = (.ok s, files')) :
    s.settings = settings ∧ s.loaded = none ∧
      ((settings.get .logRuns).truthy = false → s.log = none) := by
  rw [Session.start] at h
  split at h
  · next htruthy =>
    split at h
    · split at h
      · obtain rfl := Except.ok.inj (Prod.mk.inj h).1
        exact ⟨rfl, rfl, fun hfalse => nomatch htruthy.symm.trans hfalse⟩
      · exact nomatch (Prod.mk.inj h).1
    · exact nomatch (Prod.mk.inj h).1
  · obtain rfl := Except.ok.inj (Prod.mk.inj h).1
    exact ⟨rfl, rfl, fun _ => rfl⟩

/-- **What a history preserves.** -/
theorem Reached.holds (ha : settings.alphabet = .ok a) (h : Reached settings turns s) :
    Holds a settings (lastInsertion? a turns) s := by
  induction h with
  | start h =>
    obtain ⟨hsettings, hloaded, hlog⟩ := start_eq_ok h
    exact ⟨hsettings, hloaded, nofun, hlog⟩
  | turn h t hends ih =>
    rw [lastInsertion?_concat]
    exact ih.turn ha hends

/-! ### What is loaded, and what is printed -/

theorem Holds.atStart (h : Holds a settings last s) {l : Loaded} (hl : s.loaded = some l) :
    l.machine.alphabet = a ∧ Device.AtStart l.machine l.config := by
  obtain ⟨i, hi, rfl⟩ := Option.map_eq_some_iff.mp (h.loaded_eq.symm.trans hl)
  exact ⟨Program.alphabet_of_load (h.load_eq i hi),
    Device.atStart_initial (Program.wellFormed_of_load (h.load_eq i hi)).index?_start⟩

/-- The text decides which machine it is. -/
theorem Holds.machine_eq (h : Holds a settings last s) :
    s.loaded.map Loaded.machine =
      (last.map Insertion.text).bind fun text => (Program.load a text).toOption := by
  rw [h.loaded_eq]
  cases last with
  | none => rfl
  | some i =>
    rw [Option.map_some, Option.map_some, Option.map_some, Option.bind_some, h.load_eq i rfl]
    rfl

theorem lastInsertion?_mem {i : Insertion} (h : lastInsertion? a turns = some i) :
    ∃ t ∈ turns, t.insertion? a = some i := by
  obtain ⟨before, t, after, hturns, ht, -⟩ := List.findSome?_eq_some_iff.mp h
  exact ⟨t, List.mem_reverse.mp (hturns ▸ by simp), ht⟩

/-- **A session holds the last program that was inserted into it, and nothing else of its history.**
The settings never change, nor does the alphabet they give. Nothing is loaded, or the last insertion
is: the machine of the text that the file held then, with that alphabet and at its start, under the
path as it was entered. An insert that does not go through changes nothing. What any other command
prints on a console depends on that text and on the command, not on what else was done before. -/
theorem reached_lastInsertion {files : FileTree} {path : Text}
    (hsettings : (Settings.loadFile files path).1 = .ok settings)
    (h : Reached settings turns s) :
    ∃ a, settings.alphabet = .ok a ∧ s.settings = settings ∧ s.alphabet = .ok a ∧
      s.loaded = (lastInsertion? a turns).map Insertion.loaded ∧
      (∀ i, lastInsertion? a turns = some i → ∃ t ∈ turns, t.command = .insert (some i.path) ∧
        Program.storedText? t.files i.path = some i.text ∧
        Program.load a i.text = .ok i.machine) ∧
      (∀ l, s.loaded = some l → l.machine.alphabet = a ∧ Device.AtStart l.machine l.config) ∧
      (∀ (t : Turn) p, t.command = .insert p →
        ((t.reply s).outcome = .ok true ∧ (t.reply s).out = [] ↔
            ∃ i, t.insertion? a = some i) ∧
          (t.insertion? a = none → (t.reply s).session = s)) ∧
      ∀ turns' s', Reached settings turns' s' →
        (lastInsertion? a turns').map Insertion.text =
          (lastInsertion? a turns).map Insertion.text →
        ∀ (t t' : Turn) (goesOn goesOn' : Bool), t.console = t'.console →
          t.command = t'.command → (∀ p, t.command ≠ .insert p) → (t.reply s).outcome = .ok goesOn →
          (t'.reply s').outcome = .ok goesOn' → (t.reply s).out = (t'.reply s').out := by
  obtain ⟨a, ha⟩ := Settings.exists_alphabet_of_loadFile hsettings
  have hholds := h.holds ha
  refine ⟨a, ha, hholds.settings_eq, hholds.alphabet ha, hholds.loaded_eq, fun i hi => ?_,
    fun l hl => hholds.atStart hl, fun t p hcommand => ?_, ?_⟩
  · obtain ⟨t, ht, hinsertion⟩ := lastInsertion?_mem hi
    exact ⟨t, ht, Turn.insertion?_eq_some_iff.mp hinsertion⟩
  · exact ⟨Turn.reply_silent_iff (hholds.alphabet ha) hcommand,
      Turn.session_reply_of_insertion?_eq_none (hholds.alphabet ha) hcommand⟩
  · intro turns' s' h' htext t t' goesOn goesOn' hconsole hcommand hinsert hok hok'
    have hholds' := h'.holds ha
    have hmachine : s.loaded.map Loaded.machine = s'.loaded.map Loaded.machine := by
      rw [hholds.machine_eq, hholds'.machine_eq, htext]
    have hreply : t'.reply s' = s'.perform t.console t'.files t'.now t'.fuel t.command := by
      rw [hconsole, hcommand]
      rfl
    rw [hreply] at hok' ⊢
    exact (hholds.ready ha).out_perform_congr (hholds'.ready ha) hmachine hinsert hok hok'

/-! ### A session -/

/-- Settings of which none is given, the program that reverses words, and a byte that is no text. -/
def workshop : FileTree :=
  ⟨[(⟨.above 0, [FileName.ofText "settings.json".toText]⟩, .file (Utf8.encode "{}".toText)),
    (⟨.above 0, [FileName.ofText "reversal.tm".toText]⟩, .file (Utf8.encode Program.reversal)),
    (⟨.above 0, [FileName.ofText "noise.tm".toText]⟩, .file [0xff])]⟩

/-- A line that is entered there. -/
def workshopTurn (line : String) : Turn :=
  ⟨Terminal.console, workshop, ⟨2024, 1, 2, 3, 4, 5, 0⟩, 20, line.toText⟩

/-- A session without a log that has the machine of the program loaded. -/
def workshopSession (path : String) : Session :=
  ⟨.default, some ⟨Program.reversalMachine, Program.reversalMachine.initial [], path.toText⟩, none⟩

theorem insertion?_workshopTurn : (workshopTurn "insert reversal.tm").insertion? .standard =
    some ⟨"reversal.tm".toText, Program.reversal, Program.reversalMachine⟩ :=
  Turn.insertion?_eq_some_iff.mpr ⟨by decide +kernel, by decide +kernel, Program.load_reversal⟩

theorem reached_workshopSession {line path : String}
    (hinsertion : (workshopTurn line).insertion? .standard =
      some ⟨path.toText, Program.reversal, Program.reversalMachine⟩) :
    Reached .default [workshopTurn line] (workshopSession path) := by
  have hstarted : Session.start .default workshop ⟨2024, 1, 2, 3, 4, 5, 0⟩ =
      (.ok ⟨.default, none, none⟩, workshop) := rfl
  have hreply : (workshopTurn line).reply ⟨.default, none, none⟩ =
      ⟨.ok true, [], workshopSession path, workshop⟩ :=
    Turn.reply_of_insertion? rfl hinsertion
  have hturn := (Reached.start hstarted).turn (workshopTurn line) (by
    rw [Turn.Ends, hreply]
    nofun)
  rwa [hreply] at hturn

/-- A run and an insert that is broken off leave the machine that was loaded before, and what is
printed for a word then is what is printed for it when the file has just been inserted under another
path. -/
theorem workshop_lastInsertion :
    (Settings.loadFile workshop "settings.json".toText).1 = .ok .default ∧
      Reached .default (["insert reversal.tm", "run ab", "insert noise.tm"].map workshopTurn)
        (workshopSession "reversal.tm") ∧
      Reached .default [workshopTurn "insert ./reversal.tm"] (workshopSession "./reversal.tm") ∧
      ((workshopTurn "insert noise.tm").reply (workshopSession "reversal.tm")).session =
        workshopSession "reversal.tm" ∧
      ((workshopTurn "run ab").reply (workshopSession "reversal.tm")).out =
        ((workshopTurn "run ab").reply (workshopSession "./reversal.tm")).out ∧
      ((workshopTurn "run ab").reply (workshopSession "./reversal.tm")).out = "ba\n".toText := by
  have hsettings : (Settings.loadFile workshop "settings.json".toText).1 = .ok .default := rfl
  have hinsertion : (workshopTurn "insert ./reversal.tm").insertion? .standard =
      some ⟨"./reversal.tm".toText, Program.reversal, Program.reversalMachine⟩ :=
    Turn.insertion?_eq_some_iff.mpr ⟨by decide +kernel, by decide +kernel, Program.load_reversal⟩
  have hnoise : (workshopTurn "insert noise.tm").insertion? .standard = none := rfl
  have hrun : (workshopTurn "run ab").insertion? .standard = none := rfl
  have hrunReply : ((workshopTurn "run ab").reply (workshopSession "reversal.tm")).outcome =
      .ok true := rfl
  have hrunAgain : ((workshopTurn "run ab").reply (workshopSession "./reversal.tm")).outcome =
      .ok true := rfl
  have hnoiseReply : (workshopTurn "insert noise.tm").reply (workshopSession "reversal.tm") =
      ⟨.error (.undecodable ⟨.badStart, 0xff, 0, 1⟩), [], workshopSession "reversal.tm",
        workshop⟩ :=
    rfl
  have hreached : Reached .default
      (["insert reversal.tm", "run ab", "insert noise.tm"].map workshopTurn)
      (workshopSession "reversal.tm") := by
    have hran := (reached_workshopSession insertion?_workshopTurn).turn (workshopTurn "run ab") (by
      rw [Turn.Ends, hrunReply]
      nofun)
    have hsession : ((workshopTurn "run ab").reply (workshopSession "reversal.tm")).session =
        workshopSession "reversal.tm" := rfl
    rw [hsession] at hran
    have hnoised := hran.turn (workshopTurn "insert noise.tm") (by
      rw [Turn.Ends, hnoiseReply]
      nofun)
    rwa [hnoiseReply] at hnoised
  have hinserted := reached_workshopSession hinsertion
  obtain ⟨a, ha, -, -, -, -, -, hinsert, hprint⟩ := reached_lastInsertion hsettings hreached
  obtain rfl : .standard = a := Except.ok.inj ha
  refine ⟨hsettings, hreached, hinserted, ?_, ?_, by decide +kernel⟩
  · exact (hinsert (workshopTurn "insert noise.tm") (some "noise.tm".toText) rfl).2 hnoise
  · refine hprint _ _ hinserted ?_ _ _ true true rfl rfl (fun p => ?_) hrunReply hrunAgain
    · simp [lastInsertion?, insertion?_workshopTurn, hinsertion, hnoise, hrun]
    · exact nofun

end Session

end MultiTape
