import MultiTape.Proofs.Messages
import MultiTape.Proofs.Machine.Iteration
import MultiTape.Proofs.Program.File
import MultiTape.Proofs.Program.Loaded
import MultiTape.Proofs.Settings
import MultiTape.Session.Basic

/-!
# What a command replies and leaves

A session whose settings give an alphabet, and whose machine is well-formed and waits at its start,
is ready for the next command. An insert then puts another machine in its place or leaves everything
as it was. A query makes the machine run, but an answer puts it back to its start, so that nothing
is left of the run; if the run ends, there is an answer. Every other command only prints.

## Main definitions

* `Machine.Settles`: a query has an answer and has left the machine at its start, or is out of fuel
* `Session.Ready`: a session is ready for the next command
* `Session.Keeps`: a reply leaves the settings and the loaded machine as they were

## Main results

* `Session.insert_cases`, `Session.Ready.answer_cases`: what comes of inserts and queries
* `Session.Ready.keeps_perform`: all commands but inserts keep what is loaded
* `Session.Ready.out_perform_congr`: what they print depends on the machine and the command alone
-/

namespace MultiTape

/-! ### Queries -/

namespace Machine

variable {m : Machine} {σ α : Type}

/-- A query has run out of fuel, or it has an answer and has put the machine back to its start. -/
def Settles (m : Machine) (q : Query σ Empty α) : Prop :=
  q.answer = .error .outOfFuel ∨ ∃ x, q.answer = .ok x ∧ q.config = m.initial []

theorem WellFormed.settles_transform (hm : m.WellFormed) (observe : Observer σ Empty) (fuel : Nat)
    (noted : σ) (w : Text) : m.Settles (m.transform observe fuel noted w) := by
  rcases hanswer : (m.transform observe fuel noted w).answer with (e | e | _) | r
  · exact absurd hanswer (hm.transform_ne_failed observe fuel noted w e)
  · exact e.elim
  · exact .inl hanswer
  · exact .inr ⟨r, hanswer, config_transform_of_ok hanswer⟩

theorem WellFormed.settles_accepts (hm : m.WellFormed) (observe : Observer σ Empty) (fuel : Nat)
    (noted : σ) (w : Text) : m.Settles (m.accepts observe fuel noted w) := by
  rcases hanswer : (m.accepts observe fuel noted w).answer with (e | e | _) | b
  · exact absurd hanswer (hm.accepts_ne_failed observe fuel noted w e)
  · exact e.elim
  · exact .inl hanswer
  · exact .inr ⟨b, hanswer, config_accepts_of_ok hanswer⟩

end Machine

namespace Session

variable {console : Console} {s : Session} {a : Alphabet} {files : FileTree} {now : Clock}
  {fuel : Nat} {path : Text} {l : Loaded}

/-- The settings give the alphabet, and the machine loaded last is well-formed and waits at its
start. -/
structure Ready (a : Alphabet) (s : Session) : Prop where
  /-- The settings give the alphabet. -/
  alphabet : s.alphabet = .ok a
  /-- The machine is well-formed. -/
  wellFormed : ∀ l, s.loaded = some l → l.machine.WellFormed
  /-- The machine waits at its start. -/
  config_eq : ∀ l, s.loaded = some l → l.config = l.machine.initial []

/-- The reply leaves the settings and the machine loaded last as they were. Unless the log cannot be
written it says whether the session goes on, and a session without a log remains without one. -/
structure Keeps (s : Session) (goesOn : Bool) (r : Reply) : Prop where
  /-- The settings are the same. -/
  settings_eq : r.session.settings = s.settings
  /-- The same machine is loaded, and it stands where it stood. -/
  loaded_eq : r.session.loaded = s.loaded
  /-- Without a log there is none afterwards, and nothing goes wrong. -/
  of_log : s.log = none → r.session.log = none ∧ r.outcome = .ok goesOn

theorem keeps_say (out : Text) : s.Keeps true (s.say files out) := ⟨rfl, rfl, fun h => ⟨h, rfl⟩⟩

/-! ### Inserts -/

/-- **What comes of an insert.** The machine of the stored text is loaded, or one line is printed
and nothing else happens, or bytes that are no text break it off before anything happens. -/
theorem insert_cases (ha : s.alphabet = .ok a) (console : Console) (files : FileTree)
    (path : Text) :
    (∃ text m, Program.storedText? files path = some text ∧ Program.load a text = .ok m ∧
        s.insert console files (some path) =
          ⟨.ok true, [], { s with loaded := some ⟨m, m.initial [], path⟩ }, files⟩) ∨
      (Program.storedFault? files path = none ∧
        (∀ m, Program.loadFile files a path ≠ .ok m) ∧
        ∃ message, Text.IsLine message ∧
          s.insert console files (some path) = s.say files (console.printError message)) ∨
      ∃ e, Program.storedFault? files path = some e ∧
        (∀ m, Program.loadFile files a path ≠ .ok m) ∧
        s.insert console files (some path) = ⟨.error (.undecodable e), [], s, files⟩ := by
  simp only [insert, ha]
  cases hload : Program.loadFile files a path with
  | ok m =>
    obtain ⟨text, hstored, htext⟩ := Program.loadFile_eq_ok_iff.mp hload
    exact .inl ⟨text, m, hstored, htext, rfl⟩
  | error e =>
    have hne : ∀ m, (.error e : Except Program.LoadError Machine) ≠ .ok m := fun m => nofun
    have hfault (h : ∀ e', e ≠ .undecodable e') : Program.storedFault? files path = none := by
      rw [Option.eq_none_iff_forall_ne_some]
      intro e' he'
      rw [← Program.loadFile_eq_undecodable_iff (a := a), hload] at he'
      exact h e' (Except.error.inj he')
    refine .inr ?_
    cases e with
    | missing p =>
      exact .inl ⟨hfault nofun, hne, "No file found!".toText, by decide +kernel, rfl⟩
    | file e => exact .inl ⟨hfault nofun, hne, "Fault at IO!".toText, by decide +kernel, rfl⟩
    | format e =>
      exact .inl ⟨hfault nofun, hne, "Parsing not possible! ".toText ++ e.message,
        Text.isLine_append.mpr ⟨by decide +kernel, e.isLine_message⟩, rfl⟩
    | undecodable e => exact .inr ⟨e, Program.loadFile_eq_undecodable_iff.mp hload, hne, rfl⟩

/-! ### Queries of sessions -/

section Answer

variable {σ α : Type} {mode : Mode} {word : Option Text}
  {ask : Machine → Text → Machine.Query σ Empty α} {printed : σ → Text} {result : α → Json}
  {shown : α → Text}

theorem queryWord_eq (ha : s.alphabet = .ok a) (word : Option Text) :
    s.queryWord word =
      .ok (if a.isWord (word.getD []) then some (word.getD []) else none) := by
  cases word with
  | none => rfl
  | some w => rw [queryWord, ha]; rfl

theorem keeps_finish (hl : s.loaded = some l) (entry : RunEntry) (before answer : Text) :
    s.Keeps true (s.finish console files now l entry before answer) := by
  rw [finish, ← hl]
  split
  · next hlog => exact ⟨rfl, rfl, fun _ => ⟨hlog, rfl⟩⟩
  · next log hlog =>
    split <;> exact ⟨rfl, rfl, fun h => nomatch hlog.symm.trans h⟩

theorem finish_ends (entry : RunEntry) (before answer : Text) :
    (s.finish console files now l entry before answer).outcome ≠ .error .outOfFuel := by
  rw [finish]
  split
  · nofun
  · split <;> nofun

theorem out_finish_of_ok {entry : RunEntry} {before answer : Text} {goesOn : Bool}
    (h : (s.finish console files now l entry before answer).outcome = .ok goesOn) :
    (s.finish console files now l entry before answer).out = before ++ console.print answer := by
  rw [finish] at h ⊢
  split at h
  · rfl
  · split at h
    · rfl
    · exact nomatch h

/-- What a query about a machine prints, if it has an answer. -/
def answerText (console : Console) (a : Alphabet) (machine : Option Machine) (word : Option Text)
    (ask : Machine → Text → Machine.Query σ Empty α) (printed : σ → Text) (shown : α → Text) :
    Text :=
  match machine with
  | none => console.printError "No machine loaded!".toText
  | some m =>
    if a.isWord (word.getD []) then
      match (ask m (word.getD [])).answer with
      | .ok x => printed (ask m (word.getD [])).noted ++ console.print (shown x)
      | .error _ => []
    else console.printError "Not matching the alphabet!".toText

/-- What is asked with more fuel is answered alike. -/
theorem answer_congr {ask' : Machine → Text → Machine.Query σ Empty α}
    (hask : ∀ m w, (ask m w).answer ≠ .error .outOfFuel → ask' m w = ask m w)
    (hends : (s.answer console files now mode word ask printed result shown).outcome ≠
      .error .outOfFuel) :
    s.answer console files now mode word ask' printed result shown =
      s.answer console files now mode word ask printed result shown := by
  rw [answer] at hends
  rw [answer, answer]
  cases hl : s.loaded with
  | none => rfl
  | some l =>
    rcases hword : s.queryWord word with e | (_ | w)
    · rfl
    · rfl
    · have hanswer : (ask l.machine w).answer ≠ .error .outOfFuel := fun hout =>
        hends (by simp only [hl, hword, hout])
      simp only [hask l.machine w hanswer]

namespace Ready

variable (hs : s.Ready a) (hask : ∀ (m : Machine) w, m.WellFormed → m.Settles (ask m w))
include hs hask

/-- **What comes of a query.** Without a machine, or with a word that is none of the alphabet, one
line is printed and nothing else happens; else the machine is asked, and the answer is recorded and
printed unless the fuel does not suffice. -/
theorem answer_cases :
    (s.loaded = none ∧ s.answer console files now mode word ask printed result shown =
        s.sayError console files "No machine loaded!") ∨
      (∃ l, s.loaded = some l ∧ a.isWord (word.getD []) = false ∧
        s.answer console files now mode word ask printed result shown =
          s.sayError console files "Not matching the alphabet!") ∨
      ∃ l, s.loaded = some l ∧ a.isWord (word.getD []) = true ∧
        ((ask l.machine (word.getD [])).answer = .error .outOfFuel ∧
            (s.answer console files now mode word ask printed result shown).outcome =
              .error .outOfFuel ∨
          ∃ x, (ask l.machine (word.getD [])).answer = .ok x ∧
            s.answer console files now mode word ask printed result shown =
              s.finish console files now l ⟨mode.name, word.getD [], result x, some l.path⟩
                (printed (ask l.machine (word.getD [])).noted) (shown x)) := by
  rw [answer, queryWord_eq hs.alphabet]
  cases hloaded : s.loaded with
  | none => exact .inl ⟨rfl, rfl⟩
  | some l =>
    refine .inr ?_
    cases hword : a.isWord (word.getD []) with
    | false => exact .inl ⟨l, rfl, rfl, rfl⟩
    | true =>
      refine .inr ⟨l, rfl, rfl, ?_⟩
      simp only [if_true]
      rcases hask l.machine (word.getD []) (hs.wellFormed l hloaded) with hout | ⟨x, hx, hconfig⟩
      · exact .inl ⟨hout, by rw [hout]⟩
      · refine .inr ⟨x, hx, ?_⟩
        -- the machine stands where it stood before the query
        rw [hx, hconfig, ← hs.config_eq l hloaded]

/-- A query ends if there is fuel enough for what is asked. -/
theorem answer_ends
    (hfuel : ∀ l, s.loaded = some l → a.isWord (word.getD []) = true →
      (ask l.machine (word.getD [])).answer ≠ .error .outOfFuel) :
    (s.answer console files now mode word ask printed result shown).outcome ≠
      .error .outOfFuel := by
  rcases hs.answer_cases hask with ⟨-, h⟩ | ⟨l, -, -, h⟩ | ⟨l, hl, hw, ⟨hout, -⟩ | ⟨x, -, h⟩⟩
  · rw [h]
    nofun
  · rw [h]
    nofun
  · exact absurd hout (hfuel l hl hw)
  · rw [h]
    exact finish_ends _ _ _

theorem keeps_answer
    (hends : (s.answer console files now mode word ask printed result shown).outcome ≠
      .error .outOfFuel) :
    s.Keeps true (s.answer console files now mode word ask printed result shown) := by
  rcases hs.answer_cases hask with ⟨-, h⟩ | ⟨l, -, -, h⟩ | ⟨l, hl, -, ⟨-, h⟩ | ⟨x, -, h⟩⟩
  · rw [h]
    exact keeps_say _
  · rw [h]
    exact keeps_say _
  · exact absurd h hends
  · rw [h]
    exact keeps_finish hl _ _ _

/-- A query prints what the machine and the word call for. -/
theorem out_answer_of_ok {goesOn : Bool}
    (h : (s.answer console files now mode word ask printed result shown).outcome = .ok goesOn) :
    (s.answer console files now mode word ask printed result shown).out =
      answerText console a (s.loaded.map Loaded.machine) word ask printed shown := by
  rcases hs.answer_cases hask with
    ⟨hl, heq⟩ | ⟨l, hl, hw, heq⟩ | ⟨l, hl, hw, ⟨-, heq⟩ | ⟨x, hx, heq⟩⟩
  · rw [heq, hl]
    rfl
  · rw [heq, hl, Option.map_some, answerText, hw]
    rfl
  · exact nomatch heq.symm.trans h
  · rw [heq] at h ⊢
    rw [out_finish_of_ok h, hl, Option.map_some, answerText, hw, hx]
    rfl

end Ready

end Answer

/-! ### All other commands -/

/-- **All commands but inserts keep what is loaded.** -/
theorem Ready.keeps_perform (hs : s.Ready a) {c : Command} (hc : ∀ path, c ≠ .insert path)
    (hends : (s.perform console files now fuel c).outcome ≠ .error .outOfFuel) :
    s.Keeps (c != .quit) (s.perform console files now fuel c) := by
  cases c with
  | nothing | help | unknown => exact keeps_say _
  | quit => exact ⟨rfl, rfl, fun h => ⟨h, rfl⟩⟩
  | insert path => exact absurd rfl (hc path)
  | run word | trace word =>
    exact hs.keeps_answer (fun m w hm => hm.settles_transform _ _ _ _) hends
  | check word => exact hs.keeps_answer (fun m w hm => hm.settles_accepts _ _ _ _) hends
  | print =>
    change s.Keeps true (s.print console files)
    rw [print]
    split <;> exact keeps_say _
  | table =>
    change s.Keeps true (s.table console files)
    rw [table]
    split <;> exact keeps_say _

/-- Where the settings give no alphabet nothing can be loaded, and so nothing changes. -/
theorem perform_of_alphabet_error {e : Alphabet.Error} (ha : s.alphabet = .error e)
    (hl : s.loaded = none) (c : Command) :
    (s.perform console files now fuel c).session = s ∧
      (s.perform console files now fuel c).files = files := by
  cases c with
  | insert path => cases path <;> simp [perform, insert, ha, sayError, say]
  | _ => simp [perform, run, trace, check, answer, print, table, hl, sayError, say]

theorem out_print (console : Console) (files : FileTree) :
    (s.print console files).out = (s.loaded.map Loaded.machine).elim (console.print []) fun m =>
      if m.describe.isEmpty then [] else console.print m.describe := by
  rw [print]
  cases s.loaded <;> rfl

theorem out_table (console : Console) (files : FileTree) :
    (s.table console files).out =
      (s.loaded.map Loaded.machine).elim (console.printError "No machine loaded!".toText) fun m =>
        console.printTable (m.table Machine.tableTitle) := by
  rw [table]
  cases s.loaded <;> rfl

/-- More fuel changes nothing about a command that ended. -/
theorem perform_of_le {fuel' : Nat} {c : Command}
    (hends : (s.perform console files now fuel c).outcome ≠ .error .outOfFuel)
    (hle : fuel ≤ fuel') :
    s.perform console files now fuel' c = s.perform console files now fuel c := by
  cases c with
  | run word | trace word =>
    exact answer_congr (fun m w h => Machine.transform_of_le h hle) hends
  | check word => exact answer_congr (fun m w h => Machine.accepts_of_le h hle) hends
  | _ => rfl

/-- **What a command prints depends on the machine and the command alone**, if it is no insert. -/
theorem Ready.out_perform_congr {s' : Session} (hs : s.Ready a) (hs' : s'.Ready a)
    (hmachine : s.loaded.map Loaded.machine = s'.loaded.map Loaded.machine) {c : Command}
    (hc : ∀ path, c ≠ .insert path) {files' : FileTree} {now' : Clock} {fuel' : Nat}
    {goesOn goesOn' : Bool} (h : (s.perform console files now fuel c).outcome = .ok goesOn)
    (h' : (s'.perform console files' now' fuel' c).outcome = .ok goesOn') :
    (s.perform console files now fuel c).out = (s'.perform console files' now' fuel' c).out := by
  -- with fuel enough for both, both ask the same
  have hmax := perform_of_le (fun hout => nomatch h.symm.trans hout) (Nat.le_max_left fuel fuel')
  have hmax' := perform_of_le (fun hout => nomatch h'.symm.trans hout) (Nat.le_max_right fuel fuel')
  rw [← hmax] at h ⊢
  rw [← hmax'] at h' ⊢
  generalize max fuel fuel' = fuel at h h' ⊢
  cases c with
  | nothing | quit | help | unknown => rfl
  | insert path => exact absurd rfl (hc path)
  | run word | trace word =>
    have hask : ∀ {σ : Type} (observe : Machine → Observer σ Empty) (noted : σ) (m : Machine) w,
        m.WellFormed → m.Settles (m.transform (observe m) fuel noted w) :=
      fun observe noted m w hm => hm.settles_transform _ _ _ _
    exact ((hs.out_answer_of_ok (hask _ _) h).trans (by rw [hmachine])).trans
      (hs'.out_answer_of_ok (hask _ _) h').symm
  | check word =>
    have hask : ∀ (m : Machine) w, m.WellFormed →
        m.Settles (m.accepts Observer.silent fuel () w) := fun m w hm => hm.settles_accepts _ _ _ _
    exact ((hs.out_answer_of_ok hask h).trans (by rw [hmachine])).trans
      (hs'.out_answer_of_ok hask h').symm
  | print =>
    refine (out_print console files).trans ?_
    rw [hmachine]
    exact (out_print console files').symm
  | table =>
    refine (out_table console files).trans ?_
    rw [hmachine]
    exact (out_table console files').symm

end Session

end MultiTape
