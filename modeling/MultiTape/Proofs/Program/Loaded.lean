import MultiTape.Proofs.Machine.Built
import MultiTape.Proofs.Machine.Steps
import MultiTape.Proofs.Program.Grammar

/-!
# Loaded machines

Loading adds the transitions of a text one by one to the machine of its header. Together they are
what the text spells, each with its source state and in the order of the text, and that is why every
loaded machine is well-formed and deterministic: the readers have checked all the numbers and
symbols, and no guard occurs twice.

## Main definitions

* `Program.Says`, `Program.Lists`: the numbers in a line of a text
* `Program.Announces`: a machine has the numbers and kinds of states that the text gives

## Main results

* `Program.getElem?_states_addAll_machine`: the states of a loaded machine
* `Program.Spells.transitions_perm`: its transitions are those of the text
* `Program.wellFormed_of_load`, `Program.deterministic_of_load`: it is well-formed and deterministic
* `Program.load_sound`: and it is the machine that its text announces
-/

namespace MultiTape

namespace Program

variable {a : Alphabet} {m : Machine} {h : Header} {t : Transition} {ts : List Transition}
  {ls : List Text} {text : Text}

/-! ### Adding transitions -/

theorem addAll_cons (m : Machine) (t : Transition) (ts : List Transition) :
    addAll m (t :: ts) = addAll (m.addAt t.source.toNat t) ts := rfl

/-- Adding transitions changes nothing but the states. -/
theorem addAll_eq (m : Machine) (ts : List Transition) :
    addAll m ts = { m with states := (addAll m ts).states } := by
  induction ts generalizing m with
  | nil => rfl
  | cons t ts ih =>
    rw [addAll_cons, ih]
    rfl

/-- Each state gets the transitions it is the source of, in order, behind those it has. -/
theorem getElem?_states_addAll (m : Machine) (ts : List Transition) (i : Nat) :
    (addAll m ts).states[i]? = m.states[i]?.map fun s =>
      { s with transitions := s.transitions ++ ts.filter fun t => t.source.toNat == i } := by
  induction ts generalizing m with
  | nil => simp [addAll]
  | cons t ts ih =>
    rw [addAll_cons, ih, Machine.addAt, List.getElem?_modify]
    cases m.states[i]? with
    | none => rfl
    | some s =>
      by_cases hi : t.source.toNat = i
      · simp [hi, State.add]
      · simp [hi]

@[simp] theorem numTapes_addAll (m : Machine) (ts : List Transition) :
    (addAll m ts).numTapes = m.numTapes := by
  rw [addAll_eq]

@[simp] theorem start_addAll (m : Machine) (ts : List Transition) :
    (addAll m ts).start = m.start := by
  rw [addAll_eq]

@[simp] theorem startIndex_addAll (m : Machine) (ts : List Transition) :
    (addAll m ts).startIndex = m.startIndex := by
  rw [addAll_eq]

@[simp] theorem alphabet_addAll (m : Machine) (ts : List Transition) :
    (addAll m ts).alphabet = m.alphabet := by
  rw [addAll_eq]

@[simp] theorem numStates_addAll (m : Machine) (ts : List Transition) :
    (addAll m ts).numStates = m.numStates := by
  induction ts generalizing m with
  | nil => rfl
  | cons t ts ih =>
    rw [addAll_cons, ih]
    exact List.length_modify _ _ _

/-- No transition gets lost, and none comes in that was not added. -/
theorem transitions_addAll_perm {m : Machine} {ts : List Transition}
    (hts : ∀ t ∈ ts, t.source.toNat < m.numStates) :
    (addAll m ts).transitions.Perm (m.transitions ++ ts) := by
  induction ts generalizing m with
  | nil => simp [addAll]
  | cons t ts ih =>
    rw [List.forall_mem_cons] at hts
    have hlength : (m.addAt t.source.toNat t).numStates = m.numStates := List.length_modify _ _ _
    have hadd : (m.addAt t.source.toNat t).transitions.Perm (m.transitions ++ [t]) :=
      Machine.flatMap_modify_add_perm t hts.1
    rw [addAll_cons]
    refine (ih fun t' ht' => hlength ▸ hts.2 t' ht').trans ?_
    simpa using hadd.append_right ts

/-! ### What loading makes of a text -/

@[simp] theorem numStates_machine (h : Header) (a : Alphabet) :
    (h.machine a).numStates = h.numStates := by
  simp [Header.machine, Machine.numStates, Machine.emptyStates]

theorem transitions_machine (h : Header) (a : Alphabet) : (h.machine a).transitions = [] := by
  simp [Header.machine, Machine.transitions, Machine.emptyStates, List.flatMap_map]

/-- The states of a loaded machine: as many as the header says, of the kinds that its lists say,
each with the transitions it is the source of, in the order of the text. -/
theorem getElem?_states_addAll_machine (i : Nat) :
    (addAll (h.machine a) ts).states[i]? =
      if i < h.numStates then
        some ⟨i, StateKind.classify i h.halting h.accepting,
          ts.filter fun t => t.source.toNat == i⟩
      else none := by
  rw [getElem?_states_addAll, Header.machine, Machine.getElem?_emptyStates]
  split <;> simp

/-- So a state of a loaded machine has a number, a kind by that number, and the transitions it is
the source of. -/
theorem eq_of_getElem?_states {i : Nat} {s : State}
    (hi : (addAll (h.machine a) ts).states[i]? = some s) :
    s = ⟨i, StateKind.classify i h.halting h.accepting,
      ts.filter fun t => t.source.toNat == i⟩ := by
  rw [getElem?_states_addAll_machine] at hi
  split at hi
  · exact (Option.some.inj hi).symm
  · simp at hi

/-! ### What the grammar promises -/

theorem isWord_of_mem_tokenLines {tokens : List Text} {token : Text}
    (hline : tokens ∈ tokenLines ls) (htoken : token ∈ tokens) : Text.IsWord token := by
  obtain ⟨l, -, rfl⟩ := List.mem_map.mp hline
  exact Text.isWord_of_mem_words htoken

theorem exists_eq_singleton_of_isSymbol {s : Symbol} (hs : a.isSymbol s = true) : ∃ c, s = [c] := by
  match s with
  | [] => simp [Alphabet.isSymbol, Alphabet.hasLetter] at hs
  | [c] => exact ⟨c, rfl⟩
  | _ :: _ :: _ => simp [Alphabet.isSymbol, Alphabet.hasLetter] at hs

theorem SpellsTransition.source_mem {width : Nat} {numStates : Int} {tokens : List Text}
    (ht : SpellsTransition a width numStates tokens t) : 0 ≤ t.source ∧ t.source < numStates := by
  obtain ⟨hsource, -⟩ := ht
  exact hsource.2

theorem SpellsTransition.isSymbol {width : Nat} {numStates : Int} {tokens : List Text}
    (ht : SpellsTransition a width numStates tokens t)
    (hwords : ∀ token ∈ tokens, Text.IsWord token) :
    ∀ s ∈ t.input :: t.reads ++ t.writes,
      ∃ c, s = [c] ∧ Text.isBlank c = false ∧ a.isSymbol [c] = true := by
  have key : ∀ s : Symbol, a.isSymbol s = true → Text.IsWord s →
      ∃ c, s = [c] ∧ Text.isBlank c = false ∧ a.isSymbol [c] = true := by
    intro s hs hword
    obtain ⟨c, rfl⟩ := exists_eq_singleton_of_isSymbol hs
    exact ⟨c, rfl, hword.2 c (by simp), hs⟩
  obtain ⟨-, hinput, hreads, -, -, -, -, hwrites, hsymbols, -⟩ := ht
  intro s hs
  rcases List.mem_append.mp hs with hs | hs
  · rcases List.mem_cons.mp hs with rfl | hs
    · exact key _ hinput (hwords _ (by simp))
    · exact key s (hreads s hs) (hwords s (by simp [hs]))
  · refine key s (hsymbols s hs) (hwords s ?_)
    obtain ⟨e, he, rfl⟩ := List.mem_map.mp (hwrites ▸ hs)
    refine List.mem_append_right _ (List.mem_cons_of_mem _ (List.mem_cons_of_mem _ ?_))
    exact List.mem_flatMap.mpr ⟨e, he, by simp⟩

theorem width_addAll_machine (h : Header) (a : Alphabet) (ts : List Transition) :
    (addAll (h.machine a) ts).width = h.numTapes + 1 := by
  have hnumTapes : (addAll (h.machine a) ts).numTapes = h.numTapes := numTapes_addAll _ _
  rw [Machine.width, hnumTapes]
  omega

theorem SpellsTransition.fits {tokens : List Text}
    (ht : SpellsTransition a (h.numTapes + 1) h.numStates tokens t)
    (hwords : ∀ token ∈ tokens, Text.IsWord token) : (addAll (h.machine a) ts).Fits t := by
  have hsymbol := ht.isSymbol hwords
  obtain ⟨-, -, -, hreads, htarget, -, heffects, hwrites, -, hmoves⟩ := ht
  have hwidth := width_addAll_machine h a ts
  refine ⟨htarget.2.1, ?_, ?_, ?_, ?_, ?_⟩
  · simpa using htarget.2.2
  · rw [hreads, hwidth]
  · rw [← hwrites, List.length_map, heffects, hwidth]
  · rw [← hmoves.length_eq, List.length_map, heffects, hwidth]
  · simpa [Header.machine] using hsymbol

variable (hs : Spells a (tokenLines ls) h ts)
include hs

theorem Spells.exists_tokens (ht : t ∈ ts) :
    ∃ tokens, SpellsTransition a (h.numTapes + 1) h.numStates tokens t ∧
      ∀ token ∈ tokens, Text.IsWord token := by
  obtain ⟨first, rest, hlines, -, htransitions, -⟩ := spells_iff.mp hs
  obtain ⟨tokens, htokens, hspells⟩ := exists_of_forall₂ htransitions ht
  have hline : tokens ∈ tokenLines ls := by
    rw [hlines]
    exact List.mem_append_right _ (List.mem_of_mem_filter htokens)
  exact ⟨tokens, hspells, fun token => isWord_of_mem_tokenLines hline⟩

theorem Spells.source_mem (ht : t ∈ ts) : 0 ≤ t.source ∧ t.source < h.numStates := by
  obtain ⟨tokens, hspells, -⟩ := hs.exists_tokens ht
  exact hspells.source_mem

theorem Spells.transitions_perm : (addAll (h.machine a) ts).transitions.Perm ts := by
  have hsource : ∀ t ∈ ts, t.source.toNat < (h.machine a).numStates := by
    intro t ht
    have := hs.source_mem ht
    rw [numStates_machine]
    omega
  have hperm := transitions_addAll_perm hsource
  rwa [transitions_machine, List.nil_append] at hperm

/-- **The guards of a loaded machine are distinct.** -/
theorem Spells.deterministic : (addAll (h.machine a) ts).Deterministic := by
  have hperm := hs.transitions_perm
  rw [Machine.Deterministic, (hperm.map Rule.guard).nodup_iff]
  obtain ⟨_, _, -, -, -, hguards⟩ := spells_iff.mp hs
  exact hguards

/-- **A loaded machine is well-formed.** -/
theorem Spells.wellFormed : (addAll (h.machine a) ts).WellFormed := by
  have hstart : 0 ≤ h.start ∧ h.start < h.numStates := by
    obtain ⟨_, _, -, hheader, -, -⟩ := spells_iff.mp hs
    obtain ⟨-, -, hstart, -, -, -⟩ := hheader
    exact hstart.2
  refine ⟨?_, ?_, ?_, ?_, fun i s hi => ?_, fun s hmem t ht => ?_, fun s hmem t ht => ?_⟩
  · rw [numTapes_addAll]
    exact Int.natCast_nonneg _
  · rw [start_addAll]
    exact hstart.1
  · rw [start_addAll, numStates_addAll, numStates_machine]
    exact hstart.2
  · rw [startIndex_addAll, start_addAll]
    rfl
  · rw [eq_of_getElem?_states hi]
  · obtain ⟨i, hi⟩ := List.mem_iff_getElem?.mp hmem
    obtain rfl := eq_of_getElem?_states hi
    rw [List.mem_filter, beq_iff_eq] at ht
    have := hs.source_mem ht.1
    show t.source = i
    omega
  · obtain ⟨i, hi⟩ := List.mem_iff_getElem?.mp hmem
    obtain rfl := eq_of_getElem?_states hi
    obtain ⟨tokens, hspells, hwords⟩ := hs.exists_tokens (List.mem_of_mem_filter ht)
    exact hspells.fits hwords

omit hs

theorem wellFormed_of_load (hload : load a text = .ok m) : m.WellFormed := by
  obtain ⟨h, ts, hs, rfl⟩ := load_eq_ok_iff.mp hload
  exact hs.wellFormed

theorem deterministic_of_load (hload : load a text = .ok m) : m.Deterministic := by
  obtain ⟨h, ts, hs, rfl⟩ := load_eq_ok_iff.mp hload
  exact hs.deterministic

theorem alphabet_of_load (hload : load a text = .ok m) : m.alphabet = a := by
  obtain ⟨h, ts, -, rfl⟩ := load_eq_ok_iff.mp hload
  rw [alphabet_addAll]
  rfl

/-! ### What the text says about the machine -/

/-- Line `k` of those that are no comments, counted from zero, is a numeral for `n`. -/
def Says (text : Text) (k : Nat) (n : Int) : Prop :=
  ∃ token, (tokenLines (Text.lines text))[k]? = some [token] ∧ Numeral.read token = .ok n

/-- A numeral for `id` stands in line `k` of those that are no comments, counted from zero. -/
def Lists (text : Text) (k : Nat) (id : Int) : Prop :=
  ∃ tokens, (tokenLines (Text.lines text))[k]? = some tokens ∧
    ∃ token ∈ tokens, Numeral.read token = .ok id

/-- The machine has the numbers that the first lines of the text say, and its states are of the
kinds that the lines of the halting and of the accepting states say. -/
structure Announces (text : Text) (m : Machine) : Prop where
  /-- The first line is the number of states. -/
  numStates : Says text 0 m.numStates
  /-- The second line is the number of tapes. -/
  numTapes : Says text 1 m.numTapes
  /-- The third line is the start state. -/
  start : Says text 2 m.start
  /-- An accepting state is listed twice. -/
  accepting_iff : ∀ s ∈ m.states, s.kind = .accepting ↔ Lists text 3 s.id ∧ Lists text 4 s.id
  /-- A running state is not listed at all. -/
  running_iff : ∀ s ∈ m.states, s.kind = .running ↔ ¬Lists text 3 s.id ∧ ¬Lists text 4 s.id

/-- The numbers that tokens spell. -/
theorem mem_ids_iff {n : Int} {tokens : List Text} {ids : List Int} {id : Int}
    (hids : List.Forall₂ (SpellsState n) tokens ids) :
    id ∈ ids ↔ ∃ token ∈ tokens, SpellsState n token id := by
  constructor
  · exact exists_of_forall₂ hids
  · rintro ⟨token, htoken, hspells⟩
    obtain ⟨id', hid, hspells'⟩ := exists_of_forall₂ hids.flip htoken
    obtain rfl : id' = id := Except.ok.inj (hspells'.1.symm.trans hspells.1)
    exact hid

/-- The numbers that a line of state numbers lists are those read from it. -/
theorem lists_iff_mem {k : Nat} {n : Int} {tokens : List Text} {ids : List Int} {id : Int}
    (hline : (tokenLines (Text.lines text))[k]? = some tokens)
    (hids : List.Forall₂ (SpellsState n) tokens ids) : Lists text k id ↔ id ∈ ids := by
  rw [mem_ids_iff hids]
  constructor
  · rintro ⟨tokens', htokens, token, htoken, hread⟩
    obtain rfl := Option.some.inj (hline.symm.trans htokens)
    obtain ⟨id', -, hspells⟩ := exists_of_forall₂ hids.flip htoken
    obtain rfl := Except.ok.inj (hread.symm.trans hspells.1)
    exact ⟨token, htoken, hspells⟩
  · rintro ⟨token, htoken, hspells⟩
    exact ⟨tokens, hline, token, htoken, hspells.1⟩

theorem classify_eq_accepting_iff {id : Int} {halting accepting : List Int} :
    StateKind.classify id halting accepting = .accepting ↔ id ∈ accepting := by
  rw [StateKind.classify]
  split
  · next h => simpa using h
  · next h =>
    split <;> simpa using h

theorem classify_eq_halting_iff {id : Int} {halting accepting : List Int} :
    StateKind.classify id halting accepting = .halting ↔ id ∈ halting ∧ id ∉ accepting := by
  rw [StateKind.classify]
  split
  · next h => simpa using fun _ => h
  · next h =>
    split
    · next h' => simpa using ⟨by simpa using h', by simpa using h⟩
    · next h' => simpa using fun hmem => absurd hmem (by simpa using h')

theorem classify_eq_running_iff {id : Int} {halting accepting : List Int} :
    StateKind.classify id halting accepting = .running ↔ id ∉ halting ∧ id ∉ accepting := by
  rw [StateKind.classify]
  split
  · next h => simpa using fun _ => h
  · next h =>
    split
    · next h' => simpa using fun hmem => absurd (by simpa using h') hmem
    · next h' => simpa using ⟨by simpa using h', by simpa using h⟩

theorem Spells.announces (hs : Spells a (tokenLines (Text.lines text)) h ts) :
    Announces text (addAll (h.machine a) ts) := by
  obtain ⟨first, rest, hlines, hheader, -, -⟩ := spells_iff.mp hs
  obtain ⟨hstates, htapes, hstart, hhalting, haccepting, hsubset⟩ := hheader
  have hkind : ∀ s ∈ (addAll (h.machine a) ts).states,
      s.kind = StateKind.classify s.id h.halting h.accepting := by
    intro s hmem
    obtain ⟨i, hi⟩ := List.mem_iff_getElem?.mp hmem
    rw [eq_of_getElem?_states hi]
  have hlists₃ : ∀ {id}, Lists text 3 id ↔ id ∈ h.halting :=
    lists_iff_mem (by rw [hlines]; rfl) hhalting
  have hlists₄ : ∀ {id}, Lists text 4 id ↔ id ∈ h.accepting :=
    lists_iff_mem (by rw [hlines]; rfl) haccepting
  refine ⟨⟨_, by rw [hlines]; rfl, ?_⟩, ⟨_, by rw [hlines]; rfl, ?_⟩, ⟨_, by rw [hlines]; rfl, ?_⟩,
    fun s hmem => ?_, fun s hmem => ?_⟩
  · rw [numStates_addAll, numStates_machine]
    exact hstates
  · rw [numTapes_addAll]
    exact htapes
  · rw [start_addAll]
    exact hstart.1
  · rw [hkind s hmem, classify_eq_accepting_iff, hlists₃, hlists₄]
    exact ⟨fun h => ⟨hsubset h, h⟩, fun h => h.2⟩
  · rw [hkind s hmem, classify_eq_running_iff, hlists₃, hlists₄]

/-- **Loading is sound.** A loaded machine is the one its text announces; its states are numbered in
order, its transitions fit and no two of them have one guard, so that in every configuration one
transition fires at most, the same in whatever order they are looked through. -/
theorem load_sound (hload : load a text = .ok m) :
    m.alphabet = a ∧ 1 ≤ m.numStates ∧ Announces text m ∧ m.WellFormed ∧ m.Deterministic ∧
      ∀ (c : Config) (t : Transition) (order : List Transition),
        order.Perm (m.active c).transitions →
        (order.find? (fun t => t.fires (m.active c).id c.input.read c.symbols) = some t ↔
          t ∈ (m.active c).transitions ∧
            t.fires (m.active c).id c.input.read c.symbols = true) := by
  have hwf := wellFormed_of_load hload
  have hdet := deterministic_of_load hload
  have hannounces : Announces text m := by
    obtain ⟨h, ts, hs, rfl⟩ := load_eq_ok_iff.mp hload
    exact hs.announces
  have hpos : 1 ≤ m.numStates := by
    have := hwf.start_nonneg
    have := hwf.start_lt
    omega
  exact ⟨alphabet_of_load hload, hpos, hannounces, hwf, hdet,
    fun c t order hperm => hdet.find?_eq_some_iff hperm⟩

theorem reversalMachine_sound :
    load .standard reversal = .ok reversalMachine ∧ Announces reversal reversalMachine ∧
      reversalMachine.WellFormed ∧ reversalMachine.Deterministic := by
  obtain ⟨-, -, hannounces, hwf, hdet, -⟩ := load_sound load_reversal
  exact ⟨load_reversal, hannounces, hwf, hdet⟩

end Program

end MultiTape
