import MultiTape.Proofs.Machine.Listing
import MultiTape.Proofs.Machine.View
import MultiTape.Proofs.Session.Errors

/-!
# A trace is a run with a listing of its steps

A session can be asked for what becomes of a word, and it can be asked to show the steps as well.
The two are answered alike: the same checks are made, the same is recorded at the same moment, and
the same session is left, whether there is an answer or not. What a trace prints is what a run
prints, and before it, for each transition that fires, the line of the transition and the lines of
the view of the machine right after it.

Each of these lines is handed to the console on its own, that of the transition in a colour. They
can be read off what is printed if the console shows them as they are.

## Main definitions

* `Session.Reply.behind`: a reply before which something else is printed
* `Session.asked?`: the machine and the word that a query is about
* `Session.stepsShown`: what a trace prints for the steps

## Main results

* `Session.trace_eq_behind`: a trace is a run behind what is printed for the steps
* `Session.stepsShown_of_stopsAfter`: if the run stops, all steps that fire are printed
* `Session.stepListing_of_shows`: what is printed for a step, if it is shown as it is
* `Session.trace_refines_run`: traces and runs, in one statement
-/

namespace MultiTape

namespace Session

variable {console : Console} {s : Session} {files : FileTree} {now : Clock} {fuel : Nat}
  {word : Option Text} {m : Machine} {w : Text}

/-! ### Replies behind something else -/

/-- The reply, with something else printed before. -/
def Reply.behind (before : Text) (r : Reply) : Reply := { r with out := before ++ r.out }

/-- The machine and the word that a query is about, if the machine is asked: there has to be one,
and the word has to be one of the alphabet. -/
def asked? (s : Session) (word : Option Text) : Option (Machine × Text) :=
  match s.loaded, s.queryWord word with
  | some l, .ok (some w) => some (l.machine, w)
  | _, _ => none

theorem asked?_eq_some_iff :
    s.asked? word = some (m, w) ↔
      ∃ l, s.loaded = some l ∧ l.machine = m ∧ s.queryWord word = .ok (some w) := by
  rw [asked?]
  constructor
  · intro h
    split at h
    · next l w' hl hword =>
      obtain ⟨rfl, rfl⟩ := Prod.mk.inj (Option.some.inj h)
      exact ⟨l, hl, rfl, hword⟩
    · exact nomatch h
  · rintro ⟨l, hl, rfl, hword⟩
    simp only [hl, hword]

theorem queryWord_eq_none {a : Alphabet} (ha : s.alphabet = .ok a) (hno : a.isWord w = false) :
    s.queryWord (some w) = .ok none := by
  rw [queryWord_eq ha, Option.getD_some, hno]
  rfl

section Answer

variable {σ α : Type} {mode : Mode} {result : α → Json} {shown : α → Text}

theorem finish_behind (l : Loaded) (entry : RunEntry) (before answer : Text) :
    s.finish console files now l entry before answer =
      (s.finish console files now l entry [] answer).behind before := by
  rw [finish, finish]
  split
  · rfl
  · split
    · rfl
    · rw [Reply.behind, List.append_nil]

/-- A query that is answered as another one, which prints nothing before its answer, is replied to
as that one, behind what it prints before. -/
theorem answer_behind {ask : Machine → Text → Machine.Query σ Empty α}
    {ask' : Machine → Text → Machine.Query Unit Empty α}
    (hanswer : ∀ m w, (ask m w).answer = (ask' m w).answer)
    (hconfig : ∀ m w, (ask m w).config = (ask' m w).config) (printed : σ → Text) :
    s.answer console files now mode word ask printed result shown =
      (s.answer console files now mode word ask' (fun _ => []) result shown).behind
        ((s.asked? word).elim [] fun (m, w) => printed (ask m w).noted) := by
  rw [answer, answer, asked?]
  cases s.loaded with
  | none => rfl
  | some l =>
    rcases s.queryWord word with e | (_ | w)
    · rfl
    · rfl
    · dsimp only
      rw [hanswer, hconfig]
      rcases (ask' l.machine w).answer with (e | e | _) | a
      · simp [Reply.behind]
      · exact e.elim
      · simp [Reply.behind]
      · exact finish_behind _ _ _ _

/-- A query that the machine is asked ends if there is fuel enough for it. -/
theorem outcome_answer_of_asked? {ask : Machine → Text → Machine.Query σ Empty α}
    {printed : σ → Text} (hasked : s.asked? word = some (m, w))
    (hends : (ask m w).answer ≠ .error .outOfFuel) :
    (s.answer console files now mode word ask printed result shown).outcome ≠
      .error .outOfFuel := by
  obtain ⟨l, hl, rfl, hword⟩ := asked?_eq_some_iff.mp hasked
  rw [answer, hl, hword]
  dsimp only
  rcases hanswer : (ask l.machine w).answer with (e | e | _) | a
  · simp
  · exact e.elim
  · exact absurd hanswer hends
  · exact finish_ends _ _ _

end Answer

/-! ### Traces -/

theorem reverse_flatten_noteAll_tracer (console : Console) (m : Machine) (printed : List Text)
    (calls : List Firing) :
    ((tracer console m).noteAll printed calls).reverse.flatten =
      printed.reverse.flatten ++ calls.flatMap fun call => stepListing console m call.1 call.2 := by
  induction calls generalizing printed with
  | nil => exact (List.append_nil _).symm
  | cons call calls ih =>
    refine (ih (stepListing console m call.1 call.2 :: printed)).trans ?_
    rw [List.reverse_cons, List.flatten_append, List.flatten_singleton, List.append_assoc,
      List.flatMap_cons]

/-- What a trace prints for the steps, with so much fuel. -/
def stepsShown (s : Session) (console : Console) (fuel : Nat) (word : Option Text) : Text :=
  (s.asked? word).elim [] fun (m, w) =>
    (m.firings fuel (m.initial w)).flatMap fun call => stepListing console m call.1 call.2

/-- **A trace is a run**, behind what is printed for the steps. -/
theorem trace_eq_behind (s : Session) (console : Console) (files : FileTree) (now : Clock)
    (fuel : Nat) (word : Option Text) :
    s.trace console files now fuel word =
      (s.run console files now fuel word).behind (s.stepsShown console fuel word) := by
  have hsilent (m : Machine) (w : Text) := m.transform_eq_silent (tracer console m) fuel [] w
  rw [trace, run, answer_behind (fun m w => by rw [hsilent m w]) (fun m w => by rw [hsilent m w]),
    stepsShown]
  simp only [hsilent, reverse_flatten_noteAll_tracer]
  rfl

/-- Where the machine is not asked, there are no steps to print. -/
theorem trace_eq_run (h : s.asked? word = none) :
    s.trace console files now fuel word = s.run console files now fuel word := by
  rw [trace_eq_behind, stepsShown, h]
  rfl

/-- If the run stops, the steps printed are all that fire. -/
theorem stepsShown_of_stopsAfter (console : Console) {n : Nat} (h : s.asked? word = some (m, w))
    (hstops : m.StopsAfter n (m.initial w)) (hfuel : n < fuel) :
    s.stepsShown console fuel word =
      (m.firings n (m.initial w)).flatMap fun call => stepListing console m call.1 call.2 := by
  rw [stepsShown, h, ← hstops.firings_of_le hfuel.le]
  rfl

/-- **What is printed for a step** is the line of the transition and then the view, if the console
shows them as they are. -/
theorem stepListing_of_shows {plain : Text → Prop} (hshows : console.Shows plain) {t : Transition}
    {c : Config} (hplain : ∀ line ∈ t.render :: m.view c, plain line) :
    stepListing console m t c =
      (t.render :: m.view c).flatMap fun line => line ++ "\n".toText := by
  obtain ⟨htransition, hview⟩ := List.forall_mem_cons.mp hplain
  rw [stepListing, hshows.styled_eq .cyan htransition, List.flatMap_cons]
  exact congrArg _ (List.flatMap_congr fun line hline => hshows.print_eq (hview line hline))

/-- **A trace is a run with a listing of its steps.** In any session, on any console, and for any
word or none, the reply to a trace is the reply to a run, with the steps printed before: the same
outcome, the same session, the same log and the same log files. Without a machine, or if the word is
none of the alphabet, both print one error message and change nothing. If the run stops, the steps
printed are those that fire, in order: the line of each transition is printed in colour, and then
each line of the view right after it. So these lines are what is shown, if the console shows them as
they are. -/
theorem trace_refines_run (s : Session) (console : Console) (files : FileTree) (now : Clock)
    (fuel : Nat) (word : Option Text) :
    s.trace console files now fuel word =
        (s.run console files now fuel word).behind (s.stepsShown console fuel word) ∧
      (s.loaded = none →
        s.run console files now fuel word =
            s.say files (console.printError "No machine loaded!".toText) ∧
          s.trace console files now fuel word = s.run console files now fuel word) ∧
      (∀ l a w, s.loaded = some l → s.alphabet = .ok a → word = some w → a.isWord w = false →
        s.run console files now fuel word =
            s.say files (console.printError "Not matching the alphabet!".toText) ∧
          s.trace console files now fuel word = s.run console files now fuel word) ∧
      ∀ m w n, s.asked? word = some (m, w) → m.StopsAfter n (m.initial w) → n < fuel →
        (s.run console files now fuel word).outcome ≠ .error .outOfFuel ∧
          ∃ calls : List Firing, calls.length = n ∧
            (∀ k < n, ∃ t, (m.step (m.steps k (m.initial w))).1 = .fired t ∧
              calls[k]? = some (t, m.steps (k + 1) (m.initial w))) ∧
            (∀ call ∈ calls, (m.view call.2).length = 1 + 2 * (m.width + 1)) ∧
            s.stepsShown console fuel word =
              calls.flatMap (fun call => console.styled .cyan [] call.1.render ++
                (m.view call.2).flatMap console.print) ∧
            ∀ plain, console.Shows plain →
              (∀ call ∈ calls, ∀ line ∈ call.1.render :: m.view call.2, plain line) →
              s.stepsShown console fuel word = calls.flatMap fun call =>
                (call.1.render :: m.view call.2).flatMap fun line => line ++ "\n".toText := by
  refine ⟨trace_eq_behind s console files now fuel word, fun hl => ⟨?_, trace_eq_run ?_⟩,
    fun l a w hl ha hword hno => ⟨?_, trace_eq_run ?_⟩, fun m w n h hstops hfuel => ⟨?_, ?_⟩⟩
  · rw [run, answer, hl]
    rfl
  · rw [asked?, hl]
  · rw [run, answer, hl, hword, queryWord_eq_none ha hno]
    rfl
  · rw [asked?, hl, hword, queryWord_eq_none ha hno]
  · exact outcome_answer_of_asked? h (hstops.transform_ne_outOfFuel hfuel _)
  · have hshown := stepsShown_of_stopsAfter console h hstops hfuel
    refine ⟨m.firings n (m.initial w), hstops.length_firings, fun k hk => ?_, fun call hcall => ?_,
      hshown, fun plain hshows hplain => ?_⟩
    · obtain ⟨t, ht, hcall, -⟩ := hstops.getElem?_firings hk
      exact ⟨t, ht, hcall⟩
    · obtain ⟨k, -, hstep⟩ := Machine.exists_step_of_mem_firings hcall
      have hconfig : call.2 = m.steps (k + 1) (m.initial w) := by
        rw [Machine.steps_succ, hstep]
      have hwork : (m.initial w).work.length = m.width := List.length_replicate
      rw [Machine.length_view, hconfig, Machine.length_work_steps, hwork]
    · rw [hshown]
      exact List.flatMap_congr fun call hcall => stepListing_of_shows hshows (hplain call hcall)

/-- The empty word is reversed in two steps. Each takes up as many lines as there are tapes to be
seen, two for each, with one more for the state and one for the transition. -/
theorem trace_workshop :
    ((workshopSession "reversal.tm").trace Terminal.console workshop ⟨2024, 1, 2, 3, 4, 5, 0⟩ 20
        none).out =
      (workshopSession "reversal.tm").stepsShown Terminal.console 20 none ++ "\n".toText ∧
      (∃ calls : List Firing, calls.length = 2 ∧
        (∀ call ∈ calls, (Program.reversalMachine.view call.2).length = 7) ∧
        (workshopSession "reversal.tm").stepsShown Terminal.console 20 none =
          calls.flatMap fun call => (call.1.render :: Program.reversalMachine.view call.2).flatMap
            fun line => line ++ "\n".toText) ∧
      ("(0, ~, ~, ~) -> (1, 0, ~, 0, ~, -1)\nState: 1 (RUNNING), Halted: False\n" ++
        " in ~\n    ^\n  0 ~\n    ^\n").toText <+:
          (workshopSession "reversal.tm").stepsShown Terminal.console 20 none ∧
      (workshopSession "reversal.tm").trace Terminal.console workshop ⟨2024, 1, 2, 3, 4, 5, 0⟩ 20
          (some [.char '?']) =
        (workshopSession "reversal.tm").run Terminal.console workshop ⟨2024, 1, 2, 3, 4, 5, 0⟩ 20
          (some [.char '?']) := by
  have hstops : Program.reversalMachine.StopsAfter 2 (Program.reversalMachine.initial []) :=
    Machine.stopsAfter_succ_iff.mpr ⟨_, _, rfl, Machine.stopsAfter_succ_iff.mpr
      ⟨_, _, rfl, Machine.stopsAfter_zero_iff.mpr rfl⟩⟩
  obtain ⟨htrace, -, -, hsteps⟩ := trace_refines_run (workshopSession "reversal.tm")
    Terminal.console workshop ⟨2024, 1, 2, 3, 4, 5, 0⟩ 20 none
  obtain ⟨-, -, hrefused, -⟩ := trace_refines_run (workshopSession "reversal.tm")
    Terminal.console workshop ⟨2024, 1, 2, 3, 4, 5, 0⟩ 20 (some [.char '?'])
  obtain ⟨-, calls, hlength, hcalls, hview, -, hshown⟩ := hsteps _ _ 2 rfl hstops (by decide)
  have hplain : ∀ call ∈ calls,
      ∀ line ∈ call.1.render :: Program.reversalMachine.view call.2, Terminal.Plain line := by
    have hrender : ∀ t ∈ Program.reversalMachine.transitions, Terminal.Plain t.render := by
      decide +kernel
    have hviews : ∀ k < 2, ∀ line ∈ Program.reversalMachine.view
        (Program.reversalMachine.steps (k + 1) (Program.reversalMachine.initial [])),
        Terminal.Plain line := by decide +kernel
    intro call hcall
    obtain ⟨k, hk, hget⟩ := List.getElem_of_mem hcall
    obtain ⟨t, ht, hcall'⟩ := hcalls k (hlength ▸ hk)
    obtain rfl : call = _ := hget.symm.trans (List.getElem_eq_iff hk |>.mpr hcall')
    have hnext := (Machine.next?_of_step_eq_fired (Prod.ext ht rfl)).1
    exact List.forall_mem_cons.mpr
      ⟨hrender t (Machine.mem_transitions_of_next? hnext), hviews k (hlength ▸ hk)⟩
  refine ⟨?_, ⟨calls, hlength, hview, hshown _ Terminal.console_shows hplain⟩, by decide +kernel,
    ?_⟩
  · have hrun : ((workshopSession "reversal.tm").run Terminal.console workshop
        ⟨2024, 1, 2, 3, 4, 5, 0⟩ 20 none).out = "\n".toText := by decide +kernel
    rw [htrace, Reply.behind, hrun]
  · exact (hrefused _ .standard ['?'] rfl rfl rfl (by decide +kernel)).2

end Session

end MultiTape
