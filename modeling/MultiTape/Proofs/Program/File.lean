import MultiTape.Program.File
import MultiTape.Proofs.Lists

/-!
# Programs in files

A machine is loaded from a file when the file can be read, its bytes are text, and the text is a
program; which file is meant does not depend on how its path is spelled. Everything else is an
error, and only one kind of error comes from the bytes themselves.

## Main definitions

* `Program.storedText?`: the text that a file holds
* `Program.storedFault?`: why the bytes that a file holds are no text

## Main results

* `Program.loadFile_eq_ok_iff`: what is loaded is the machine of the stored text
* `Program.loadFile_eq_undecodable_iff`: the one error that the bytes are at fault for
-/

namespace MultiTape

namespace Program

variable {files : FileTree} {a : Alphabet} {path text : Text} {bytes : List UInt8} {m : Machine}

/-- The text that the file of a path holds: nothing if there is no file or its bytes are no text. -/
def storedText? (files : FileTree) (path : Text) : Option Text :=
  match files.read (Path.normalize path) with
  | .ok bytes =>
    match Utf8.decode bytes with
    | .ok t => some (Text.unifyNewlines t)
    | .error _ => none
  | .error _ => none

/-- What keeps the bytes that the file of a path holds from being text: nothing if there is no file
or its bytes are text. -/
def storedFault? (files : FileTree) (path : Text) : Option Utf8.Fault :=
  match files.read (Path.normalize path) with
  | .ok bytes =>
    match Utf8.decode bytes with
    | .ok _ => none
    | .error e => some e
  | .error _ => none

theorem loadFile_of_read_eq_ok (h : files.read (Path.normalize path) = .ok bytes) :
    loadFile files a path = ofBytes a bytes := by
  rw [loadFile]
  cases hstatus : files.status (Path.normalize path) with
  | error e =>
    rw [FileTree.read, hstatus] at h
    exact nomatch h
  | ok node => simp only [h, Except.mapError, bind, Except.bind]

/-- What cannot be read is missing or faulty, whatever the alphabet. -/
theorem loadFile_of_read_eq_error {e : FileTree.Error}
    (h : files.read (Path.normalize path) = .error e) :
    (∃ p, loadFile files a path = .error (.missing p)) ∨
      ∃ e', loadFile files a path = .error (.file e') := by
  rw [loadFile]
  cases hstatus : files.status (Path.normalize path) with
  | error reason =>
    cases reason with
    | nameTooLong => exact .inr ⟨_, rfl⟩
    | _ => exact .inl ⟨_, rfl⟩
  | ok node =>
    refine .inr ⟨e, ?_⟩
    simp only [h, Except.mapError, bind, Except.bind]

/-- **What is loaded from a file is the machine of the text it holds.** -/
theorem loadFile_eq_ok_iff :
    loadFile files a path = .ok m ↔
      ∃ text, storedText? files path = some text ∧ load a text = .ok m := by
  rw [storedText?]
  cases hread : files.read (Path.normalize path) with
  | error e =>
    rcases loadFile_of_read_eq_error (a := a) hread with ⟨p, h⟩ | ⟨e', h⟩ <;> simp [h]
  | ok bytes =>
    rw [loadFile_of_read_eq_ok hread, ofBytes]
    cases hdecode : Utf8.decode bytes with
    | error e => simp [hdecode, Except.mapError, bind, Except.bind]
    | ok t => simp [hdecode, bind_eq_ok_iff, mapError_eq_ok_iff]

/-- **Only bytes that are no text are undecodable**, whatever the alphabet. -/
theorem loadFile_eq_undecodable_iff {e : Utf8.Fault} :
    loadFile files a path = .error (.undecodable e) ↔ storedFault? files path = some e := by
  rw [storedFault?]
  cases hread : files.read (Path.normalize path) with
  | error e =>
    rcases loadFile_of_read_eq_error (a := a) hread with ⟨p, h⟩ | ⟨e', h⟩ <;> simp [h]
  | ok bytes =>
    rw [loadFile_of_read_eq_ok hread, ofBytes]
    cases hdecode : Utf8.decode bytes with
    | error e => simp [hdecode, Except.mapError, bind, Except.bind]
    | ok t =>
      -- text that is no program is an error of another kind
      cases hload : load a (Text.unifyNewlines t) <;>
        simp [hdecode, hload, Except.mapError, bind, Except.bind]

/-- A file holds text or has a fault, not both. -/
theorem storedFault?_eq_none_of_storedText? (h : storedText? files path = some text) :
    storedFault? files path = none := by
  rw [storedText?] at h
  rw [storedFault?]
  cases hread : files.read (Path.normalize path) with
  | error e => rfl
  | ok bytes =>
    rw [hread] at h
    cases hdecode : Utf8.decode bytes with
    | error e => simp [hdecode] at h
    | ok t => simp [hdecode]

end Program

end MultiTape
