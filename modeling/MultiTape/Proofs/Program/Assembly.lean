import MultiTape.Proofs.Program.Loaded

/-!
# Loading looks nothing up in vain

Machines can be built and extended by hand, with numbers of states and tapes, start states and
transitions that make no sense, and the operations that do so can fail. Loading uses forms of them
that cannot, because by then the readers have checked everything.

To say that nothing is hidden by that, the loader is put together once more from the operations that
can fail. It adds each transition as soon as its line is read, and it shows the number of fields
that it expects, which a numeral may be too short for. It comes to the same: apart from numbers of
tapes that long, a text that cannot be loaded has a faulty line, and there is no other way to fail.

## Main definitions

* `Program.assemble`: loading by the operations that can fail
* `Program.FieldCountShown`: the number of fields of a transition line is not too long to be shown

## Main results

* `Program.assemble_eq`: both ways of loading agree
-/

namespace MultiTape

theorem Transition.check_toRecord (t : Transition) : t.toRecord.check = .ok t := by
  have hmoves : (t.moves.map Move.offset).mapM Move.ofInt = .ok t.moves := by
    rw [mapM_eq_ok_iff, List.forall₂_map_left_iff, List.forall₂_same]
    exact fun m _ => m.ofInt_offset
  simp only [Record.check, toRecord, Move.ofInt_offset, hmoves]
  rfl

namespace Program

variable {a : Alphabet} {m : Machine} {h : Header} {text : Text}

/-! ### Loading by operations that can fail -/

/-- Why a machine cannot be put together from a text. -/
inductive AssemblyError where
  /-- A line is at fault, or a transition cannot be read from it. -/
  | record (e : RecordError)
  /-- There is no start state. -/
  | start (e : Machine.Fault)
  /-- A transition cannot be added. -/
  | add (e : Machine.AddError)
  deriving DecidableEq

/-- A fault of a line as a reason why there is no machine. -/
def AssemblyError.ofFormat (e : FormatError) : AssemblyError := .record (.format e)

/-- Reads the transitions of the lines and adds each of them to the machine as it is read. -/
def addLines (a : Alphabet) (h : Header) :
    List Guard → List NumberedLine → Machine → Except AssemblyError Machine
  | _, [], m => .ok m
  | seen, (number, line) :: rest, m =>
    if (Text.trim line).isEmpty then addLines a h seen rest m
    else do
      let t ← (transitionFor a h.numTapes h.numStates number line).mapError .record
      if seen.contains t.guard then .error (.ofFormat ⟨number, .nondeterministic⟩)
      else
        let (_, m) ← (m.addRecord? t.toRecord).mapError .add
        addLines a h (t.guard :: seen) rest m

/-- The machine of a program text, built and extended by the operations that can fail. -/
def assemble (a : Alphabet) (t : Text) : Except AssemblyError Machine := do
  let (h, lines) ← (header (codeLines t)).mapError .ofFormat
  let m ← (Machine.build? h.numStates h.numTapes h.start h.halting h.accepting a).mapError .start
  addLines a h [] lines m

/-- The number of fields of a transition line has no more digits than can be shown. That is so for
every number of tapes that anybody could have. -/
def FieldCountShown (text : Text) : Prop :=
  ∀ numTapes : Nat, Says text 1 numTapes → 3 * numTapes + 7 < 10 ^ Numeral.maxDigits

/-! ### Nothing else fails -/

theorem isTooLong_natCast {n : Nat} (hn : n < 10 ^ Numeral.maxDigits) :
    Numeral.isTooLong n = false := by
  have hlength : (Text.decimal (n : Int)).length ≤ Numeral.maxDigits :=
    (Numeral.length_decimal_le_iff (by decide)).mpr hn
  rw [Numeral.isTooLong, decide_eq_false_iff_not]
  exact Nat.not_lt.mpr hlength

/-- With an output tape, a transition is read or its line is at fault. -/
theorem transitionFor_eq {numTapes : Nat} {numStates line : Int} {t : Text}
    (hshown : 3 * numTapes + 7 < 10 ^ Numeral.maxDigits) :
    transitionFor a numTapes numStates line t =
      (transition a (numTapes + 1) numStates line t).mapError .format := by
  have hlong : Numeral.isTooLong (3 * (numTapes : Int) + 7) = false := isTooLong_natCast hshown
  have hwidth : ((numTapes : Int) + 1).toNat = numTapes + 1 := by omega
  rw [transitionFor, hlong, hwidth]
  by_cases hlength : ((Text.words t).length : Int) = 3 * (numTapes : Int) + 7
  · rw [if_neg (not_not.mpr hlength), if_pos (by omega)]
  · have hne : (Text.words t).length ≠ 3 * (numTapes + 1) + 4 := by omega
    rw [if_pos hlength, transition, if_pos hne]
    rfl

/-- A start state that is one of the states is found. -/
theorem build?_eq (hstart : 0 ≤ h.start ∧ h.start < h.numStates) :
    Machine.build? h.numStates h.numTapes h.start h.halting h.accepting a = .ok (h.machine a) := by
  have hindex : Machine.index? (h.numStates : Int).toNat h.start = some h.start.toNat := by
    rw [Machine.index?, if_pos hstart.1, if_pos (by simpa using hstart.2)]
  rw [Machine.build?, hindex]
  rfl

/-- A transition whose source is one of the states can be added. -/
theorem addRecord?_toRecord {t : Transition} (ht : 0 ≤ t.source ∧ t.source < m.numStates) :
    m.addRecord? t.toRecord = .ok (t, m.addAt t.source.toNat t) := by
  have hadd : m.add? t = .ok (m.addAt t.source.toNat t) := by
    rw [Machine.add?, Machine.index?, if_pos ht.1, if_pos ht.2]
  rw [Machine.addRecord?, t.check_toRecord]
  simp only [Except.mapError, bind, Except.bind, hadd]
  rfl

/-- Adding the transitions as they are read is adding all of them in the end. -/
theorem addLines_eq {seen : List Guard} {lines : List NumberedLine}
    (hshown : 3 * h.numTapes + 7 < 10 ^ Numeral.maxDigits) (hm : m.numStates = h.numStates) :
    addLines a h seen lines m =
      ((transitions a (h.numTapes + 1) h.numStates seen lines).map (addAll m)).mapError
        .ofFormat := by
  induction lines generalizing seen m with
  | nil => rfl
  | cons l lines ih =>
    obtain ⟨number, line⟩ := l
    rw [addLines, transitions, transitionFor_eq hshown]
    split
    · exact ih hm
    · cases ht : transition a (h.numTapes + 1) h.numStates number line with
      | error e => rfl
      | ok t =>
        have hsource : 0 ≤ t.source ∧ t.source < m.numStates := by
          rw [hm]
          exact (transition_eq_ok_iff.mp ht).source_mem
        have hlength : (m.addAt t.source.toNat t).numStates = h.numStates :=
          (List.length_modify _ _ _).trans hm
        simp only [Except.mapError, bind, Except.bind, addRecord?_toRecord hsource, ih hlength]
        split
        · rfl
        · cases transitions a (h.numTapes + 1) h.numStates (t.guard :: seen) lines <;> rfl

/-- **There is no other way to fail than a faulty line.** -/
theorem assemble_eq (hshown : FieldCountShown text) :
    assemble a text = (load a text).mapError .ofFormat := by
  rw [assemble, load]
  cases hheader : header (codeLines text) with
  | error e => rfl
  | ok r =>
    obtain ⟨h, rest⟩ := r
    obtain ⟨first, hlines, hspells⟩ := header_eq_ok_iff.mp hheader
    have htokens : tokenLines (Text.lines text) =
        first.map (fun l => Text.words l.2) ++ rest.map fun l => Text.words l.2 := by
      rw [← map_words_codeLines, hlines, List.map_append]
    generalize first.map (fun l => Text.words l.2) = tokens at htokens hspells
    obtain ⟨-, htapes, hstart, -, -, -⟩ := hspells
    have hfit : 3 * h.numTapes + 7 < 10 ^ Numeral.maxDigits :=
      hshown h.numTapes ⟨_, by rw [htokens]; rfl, htapes⟩
    simp only [Except.mapError, bind, Except.bind, build?_eq hstart.2]
    rw [addLines_eq hfit (numStates_machine h a)]
    cases transitions a (h.numTapes + 1) h.numStates [] rest <;> rfl

end Program

end MultiTape
