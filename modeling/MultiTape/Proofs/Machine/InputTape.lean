import MultiTape.Proofs.Machine.History
import MultiTape.Proofs.Program.Safety
import MultiTape.Proofs.Tape.Window

/-!
# The input tape

No transition writes the input tape, so all that ever happens to it is that it grows where its head
runs off an end. It holds the word, then, between as many blanks on the left as the head has been
left of the first cell, and as many on the right as it has been right of the last one. It does not
matter whether the transitions fit the machine, nor whether a step fails: a step that fails has
moved the tapes by then.

Where the head is, is counted from the cell on which it began. The cells that are added on the left
give the head another index, but do not move it.

## Main definitions

* `Machine.inputPosition`: where the head of the input tape is after a number of steps
* `Machine.leftReach`, `Machine.rightReach`: how far it has been left and right of the word
* `Machine.KeepsInput`: the input tape holds the word, and as many blanks as that
* `Operation.Drives`, `Device.stepCount`: steps and runs, and how many steps they take

## Main results

* `Machine.isWindow_input`: the input tape is a window on the tape that holds the word
* `Machine.keepsInput`: so the input tape holds the word after any number of steps
* `Device.input_unaltered`: and at every moment of any steps and runs
-/

namespace MultiTape

/-- A move is as far as its sign says. -/
theorem Move.sign_offset (d : Move) : d.offset.sign = d.offset := by
  cases d <;> rfl

namespace Machine

variable {m : Machine} {c : Config} {w : Text}

/-! ### The head of the input tape -/

/-- How far the next step moves the head of the input tape, to the right if positive, and whether or
not the step fails then. -/
def inputOffset (m : Machine) (c : Config) : Int :=
  ((m.next? c).map fun t => t.inputMove.offset).getD 0

/-- Where the head of the input tape is after `n` steps, counted from where it is at first. -/
def inputPosition (m : Machine) : Nat → Config → Int
  | 0, _ => 0
  | n + 1, c => m.inputPosition n c + m.inputOffset (m.steps n c)

/-- The greatest distance that the head of the input tape has been left of where it was at first,
in the course of `n` steps. -/
def leftReach (m : Machine) (n : Nat) (c : Config) : Nat :=
  ((List.range (n + 1)).map fun k => (-m.inputPosition k c).toNat).foldl max 0

/-- The greatest distance that it has been right of the cell at position `last`; none if it has
never been there. -/
def rightReach (m : Machine) (last : Int) (n : Nat) (c : Config) : Nat :=
  ((List.range (n + 1)).map fun k => (m.inputPosition k c - last).toNat).foldl max 0

theorem leftReach_succ (m : Machine) (n : Nat) (c : Config) :
    m.leftReach (n + 1) c = max (m.leftReach n c) (-m.inputPosition (n + 1) c).toNat := by
  rw [leftReach, List.range_succ, List.map_append, List.foldl_append]
  rfl

theorem rightReach_succ (m : Machine) (last : Int) (n : Nat) (c : Config) :
    m.rightReach last (n + 1) c =
      max (m.rightReach last n c) (m.inputPosition (n + 1) c - last).toNat := by
  rw [rightReach, List.range_succ, List.map_append, List.foldl_append]
  rfl

/-! ### The tape under the head -/

/-- A step moves the input tape and does nothing else to it. -/
theorem input_step_eq (m : Machine) (c : Config) :
    (m.step c).2.input = c.input.shift (m.inputOffset c) := by
  rw [inputOffset]
  rcases step_cases m c with ⟨hnext, hstep⟩ | ⟨t, i, hnext, -, hstep⟩ | ⟨t, hnext, -, hstep⟩ <;>
    rw [hnext, hstep] <;> rfl

theorem sign_inputOffset (m : Machine) (c : Config) :
    (m.inputOffset c).sign = m.inputOffset c := by
  rw [inputOffset]
  cases m.next? c with
  | none => rfl
  | some t => exact t.inputMove.sign_offset

/-- The position of the last cell that the input tape begins with. -/
def lastCell (m : Machine) (w : Text) : Int :=
  (Tape.base m.blank (w.map fun c => [c])).length - 1

/-- **The input tape is a window** on the tape that holds the word and is never written. The window
reaches as far as the head has been. -/
theorem isWindow_input (m : Machine) (w : Text) (n : Nat) :
    Tape.IsWindow m.blank (m.steps n (m.initial w)).input
      ⟨(InfiniteTape.ofCells m.blank (w.map fun c => [c])).cell, m.inputPosition n (m.initial w)⟩
      (-m.leftReach n (m.initial w))
      (m.lastCell w + m.rightReach (m.lastCell w) n (m.initial w)) := by
  have hlast : 0 ≤ m.lastCell w := by
    have := Tape.length_base_pos m.blank (w.map fun c => [c])
    rw [lastCell]
    omega
  induction n with
  | zero =>
    have hleft : m.leftReach 0 (m.initial w) = 0 := by
      simp [leftReach, inputPosition]
    have hright : m.rightReach (m.lastCell w) 0 (m.initial w) = 0 := by
      simp [rightReach, inputPosition, hlast]
    rw [hleft, hright, Int.natCast_zero, Int.neg_zero, Int.add_zero]
    exact Tape.isWindow_ofCells m.blank _
  | succ n ih =>
    have hwindow := ih.shift (m.inputOffset (m.steps n (m.initial w)))
    rw [sign_inputOffset, ← input_step_eq, ← steps_succ, ← inputPosition] at hwindow
    have hlo : min (-(m.leftReach n (m.initial w) : Int)) (m.inputPosition (n + 1) (m.initial w)) =
        -(m.leftReach (n + 1) (m.initial w) : Int) := by
      rw [leftReach_succ]
      omega
    have hhi : max (m.lastCell w + m.rightReach (m.lastCell w) n (m.initial w))
        (m.inputPosition (n + 1) (m.initial w)) =
        m.lastCell w + m.rightReach (m.lastCell w) (n + 1) (m.initial w) := by
      rw [rightReach_succ]
      omega
    rw [hlo, hhi] at hwindow
    exact hwindow

/-! ### What the input tape holds -/

/-- After `n` steps from a word, a tape holds what the input tape began with, the word or one blank
cell, between as many blanks as the head has been left and right of it. -/
structure KeepsInput (m : Machine) (w : Text) (n : Nat) (input : Tape) : Prop where
  /-- Nothing but blanks was added. -/
  cells_eq : input.cells =
    List.replicate (m.leftReach n (m.initial w)) m.blank ++
      Tape.base m.blank (w.map fun c => [c]) ++
      List.replicate (m.rightReach (m.lastCell w) n (m.initial w)) m.blank
  /-- The head is where its moves have led it. -/
  head_eq : (input.head : Int) =
    m.leftReach n (m.initial w) + m.inputPosition n (m.initial w)
  /-- A word of the alphabet is what trimming leaves of the tape. -/
  trim_eq : m.alphabet.isWord w = true → m.alphabet.trim input.text = w

/-- What stands on a tape between blanks is the word, with perhaps one blank more. -/
theorem exists_flatten_eq (b : CodePoint) (w : Text) (i j : Nat) :
    ∃ j', (List.replicate i [b] ++ Tape.base [b] (w.map fun c => [c]) ++
      List.replicate j [b]).flatten = List.replicate i b ++ w ++ List.replicate j' b := by
  rw [List.flatten_append, List.flatten_append, List.flatten_replicate_singleton,
    List.flatten_replicate_singleton]
  cases w with
  | nil => exact ⟨j + 1, by simp [Tape.base, List.replicate_succ]⟩
  | cons x w =>
    have hword : (Tape.base [b] ((x :: w).map fun c => [c])).flatten = x :: w := by
      rw [Tape.base, if_neg (by simp), ← List.flatMap_def, List.flatMap_singleton']
    exact ⟨j, by rw [hword]⟩

/-- **The input tape holds the word** after any number of steps. -/
theorem keepsInput (m : Machine) (w : Text) (n : Nat) :
    m.KeepsInput w n (m.steps n (m.initial w)).input := by
  have hwindow := isWindow_input m w n
  have hcells := hwindow.cells_eq rfl
  refine ⟨hcells, ?_, fun hw => ?_⟩
  · rw [hwindow.represents.head_eq, Int.neg_neg, Int.add_comm]
  · obtain ⟨j, htext⟩ := exists_flatten_eq m.alphabet.blank w
      (m.leftReach n (m.initial w)) (m.rightReach (m.lastCell w) n (m.initial w))
    rw [Tape.text, hcells, blank, htext]
    exact Alphabet.trim_replicate_append hw _ _

end Machine

/-! ### Steps and runs -/

/-- The operation makes the machine go on from where it stands. -/
def Operation.Drives : Operation → Prop
  | .step => True
  | .run _ _ _ => True
  | _ => False

namespace Device

variable {ops : List Operation}

/-- The number of steps that an operation takes, if it makes the machine go on. -/
def stepsOf (d : Device) : Operation → Nat
  | .step => 1
  | .run observe fuel noted => (d.run observe fuel noted).taken
  | _ => 0

/-- The number of steps that some operations take. -/
def stepCount : Device → List Operation → Nat
  | _, [] => 0
  | d, op :: ops => d.stepsOf op + (d.perform op).stepCount ops

/-- A step or a run is as many steps as it takes. -/
theorem perform_eq_of_drives {op : Operation} (hop : op.Drives) (d : Device) :
    d.perform op = { d with config := d.machine.steps (d.stepsOf op) d.config } := by
  cases op with
  | step => rfl
  | run observe fuel noted =>
    have hconfig := Machine.config_run d.machine observe fuel noted d.config
    rw [perform, stepsOf, run, hconfig]
  | _ => exact hop.elim

/-- So are several of them, one after the other. -/
theorem after_eq_of_drives (hops : ∀ op ∈ ops, op.Drives) (d : Device) :
    d.after ops = { d with config := d.machine.steps (d.stepCount ops) d.config } := by
  induction ops generalizing d with
  | nil => rfl
  | cons op ops ih =>
    rw [List.forall_mem_cons] at hops
    have hrest := ih hops.2 (d.perform op)
    rw [perform_eq_of_drives hops.1] at hrest
    rw [stepCount, Machine.steps_add, perform_eq_of_drives hops.1]
    exact (congrArg (fun d : Device => d.after ops) (perform_eq_of_drives hops.1 d)).trans hrest

/-- **The input is never altered.** Any machine, wherever it stands, is reset with a word, and then
steps and runs are done in any order, some of which may fail or be broken off. The input tape then
holds the word, or one blank cell, between as many blanks as its head has been left and right of it;
and it did so after each of the steps that were taken. So a word of the alphabet can always be read
off it. -/
theorem input_unaltered (d : Device) (w : Text) (hops : ∀ op ∈ ops, op.Drives) :
    let count := (d.reset w).stepCount ops
    ((d.reset w).after ops).config = d.machine.steps count (d.machine.initial w) ∧
      d.machine.KeepsInput w count ((d.reset w).after ops).config.input ∧
      ∀ n ≤ count, d.machine.KeepsInput w n (d.machine.steps n (d.machine.initial w)).input := by
  intro count
  have hconfig : ((d.reset w).after ops).config =
      d.machine.steps count (d.machine.initial w) := by
    rw [after_eq_of_drives hops]
    rfl
  refine ⟨hconfig, ?_, fun n _ => Machine.keepsInput d.machine w n⟩
  rw [hconfig]
  exact Machine.keepsInput d.machine w count

/-- A machine without work tapes that goes two cells to the left of its word and then over it to the
right, where its last transition leads to no state. -/
def rover : Machine where
  numTapes := -1
  start := 0
  startIndex := 0
  alphabet := .standard
  states :=
    [⟨0, .running, [⟨0, ['a'], [], 1, .left, [], []⟩]⟩,
    ⟨1, .running, [⟨1, ['~'], [], 2, .left, [], []⟩]⟩,
    ⟨2, .running, [⟨2, ['~'], [], 3, .right, [], []⟩]⟩,
    ⟨3, .running, [⟨3, ['~'], [], 4, .right, [], []⟩]⟩,
    ⟨4, .running, [⟨4, ['a'], [], 4, .right, [], []⟩, ⟨4, ['b'], [], 4, .right, [], []⟩,
      ⟨4, ['~'], [], 9, .right, [], []⟩]⟩]

/-- A step, a run that is broken off after two firings, another step, a run that fails behind the
word, and a step that fails again. -/
def roaming : List Operation :=
  [.step, .run (Observer.stopAfter (some 2)) 10 0, .step, .run Observer.silent 10 (), .step]

/-- On the word `ab` that makes eight steps. The head has then been two cells left of the word and
three cells right of it, and the word can be read off the tape as it could before. -/
theorem input_unaltered_roaming :
    ((fresh rover).reset ['a', 'b']).stepCount roaming = 8 ∧
      (rover.step (rover.steps 7 (rover.initial ['a', 'b']))).1 = .failed .noSuchState ∧
      (((fresh rover).reset ['a', 'b']).after roaming).config.input.cells =
        List.replicate 2 [.char '~'] ++ ["a".toText, "b".toText] ++
          List.replicate 3 [.char '~'] ∧
      ((((fresh rover).reset ['a', 'b']).after roaming).config.input.head : Int) = 6 ∧
      rover.alphabet.trim (((fresh rover).reset ['a', 'b']).after roaming).config.input.text =
        "ab".toText ∧
      rover.alphabet.trim (rover.steps 3 (rover.initial ['a', 'b'])).input.text =
        "ab".toText := by
  have hops : ∀ op ∈ roaming, op.Drives := by
    simp [roaming, Operation.Drives]
  have hcount : ((fresh rover).reset ['a', 'b']).stepCount roaming = 8 := by decide +kernel
  have hleft : rover.leftReach 8 (rover.initial ['a', 'b']) = 2 := by decide +kernel
  have hright : rover.rightReach (rover.lastCell ['a', 'b']) 8 (rover.initial ['a', 'b']) = 3 := by
    decide +kernel
  have hposition : rover.inputPosition 8 (rover.initial ['a', 'b']) = 4 := by decide +kernel
  have hword : rover.alphabet.isWord ['a', 'b'] = true := by decide
  have hmachine : (fresh rover).machine = rover := rfl
  obtain ⟨-, hlast, hbefore⟩ := input_unaltered (fresh rover) ['a', 'b'] hops
  rw [hcount, hmachine] at hlast hbefore
  have hcells := hlast.cells_eq
  have hhead := hlast.head_eq
  rw [hleft, hright] at hcells
  rw [hleft, hposition] at hhead
  exact ⟨hcount, by decide +kernel, hcells, hhead, hlast.trim_eq hword,
    (hbefore 3 (by decide)).trim_eq hword⟩

end Device

end MultiTape
