import MultiTape.Proofs.Files.Tree
import MultiTape.Proofs.Json.RoundTrip
import MultiTape.Proofs.Text.Lines
import MultiTape.RunLog

/-!
# A file for each date

However a log is turned to other dates between the queries, each query is recorded in the file of
the date of its moment: before anything is written, the log turns to that date. So after any calls
the file of a date holds what it held before and then the entries of that date in the order of the
calls, and no other file has changed. Each entry is on a line of its own and can be read back. Only
a first half of a surrogate pair that stands right before a second half is not told from the
character of the pair: the escapes of both are the same.

## Main definitions

* `RunLog.Call`: what can be asked of a log; `RunLog.performAll` performs calls one after the other
* `RunLog.entriesOn`: the entries that calls record on a date
* `RunLog.IsCurrent`: the log writes the file of the date it was turned to last
* `RunEntry.joinHalves`: an entry with the halves in its texts put together

## Main results

* `RunLog.grows_performAll`: what calls add to the files
* `RunLog.read_line`: an entry is read back from its line
* `RunLog.performAll_partitions`: the entries are parted by date, and none is lost
-/

namespace MultiTape

/-! ### Dates -/

namespace Clock

theorem isDigit_of_mem_padded {c : CodePoint} {width n : Nat} (h : c ∈ padded width n) :
    Numeral.IsDigit c := by
  rcases List.mem_append.mp h with h | h
  · rw [List.eq_of_mem_replicate h]
    decide
  · exact Numeral.isDigit_of_mem_decimal h

theorem mem_date {c : CodePoint} {now : Clock} (h : c ∈ now.date) :
    Numeral.IsDigit c ∨ c = .char '-' := by
  simp only [date, List.mem_append, List.mem_cons] at h
  rcases h with (h | rfl | h) | rfl | h
  · exact .inl (isDigit_of_mem_padded h)
  · exact .inr rfl
  · exact .inl (isDigit_of_mem_padded h)
  · exact .inr rfl
  · exact .inl (isDigit_of_mem_padded h)

theorem lt_of_mem_date (now : Clock) : ∀ c ∈ now.date, c.toNat < 0x80 := by
  intro c hc
  rcases mem_date hc with hdigit | rfl
  · exact Nat.lt_of_le_of_lt hdigit.2 (by decide)
  · decide

theorem slash_notMem_date (now : Clock) : .char '/' ∉ now.date := fun h => by
  rcases mem_date h with hdigit | heq
  · exact absurd hdigit (by decide)
  · exact absurd heq (by decide)

theorem isAscii_timestamp (now : Clock) : Text.IsAscii now.timestamp := by
  have hpadded (width n : Nat) : Text.IsAscii (padded width n) :=
    Text.isAscii_padLeft (by decide) (Text.isAscii_digits (by decide) (by decide) n) width
  have hfraction : Text.IsAscii
      (if now.microsecond = 0 then [] else .char '.' :: padded 6 now.microsecond) := by
    split
    · exact Text.isAscii_nil
    · exact Text.isAscii_cons.mpr ⟨by decide, hpadded _ _⟩
  simp only [timestamp, stamp, Text.isAscii_append, Text.isAscii_cons, hpadded, hfraction]
  decide

theorem date_ne_nil (now : Clock) : now.date ≠ [] := by simp [date]

end Clock

/-! ### Entries -/

namespace RunEntry

variable {e : RunEntry}

/-- The text of an entry that is recorded at a moment. -/
def line (now : Clock) (e : RunEntry) : Text := (e.toJson now).write

/-- An entry with the halves in its texts put together. -/
def joinHalves (e : RunEntry) : RunEntry :=
  ⟨e.mode.joinHalves, e.word.joinHalves, e.result.joinHalves, e.program.map Text.joinHalves⟩

/-- No halves in the texts of an entry form a pair. -/
structure Unpaired (e : RunEntry) : Prop where
  /-- None in the mode. -/
  mode : e.mode.Unpaired
  /-- None in the word. -/
  word : e.word.Unpaired
  /-- None in the answer. -/
  result : e.result.joinHalves = e.result
  /-- None in the path. -/
  program : ∀ path ∈ e.program, path.Unpaired

theorem Unpaired.joinHalves_eq (h : e.Unpaired) : e.joinHalves = e := by
  obtain ⟨mode, word, result, program⟩ := e
  have hprogram : program.map Text.joinHalves = program := by
    cases program with
    | none => rfl
    | some path => exact congrArg some (h.program path rfl).joinHalves_eq
  rw [joinHalves, h.mode.joinHalves_eq, h.word.joinHalves_eq, h.result, hprogram]

theorem toJson_injective (now : Clock) : Function.Injective fun e : RunEntry => e.toJson now := by
  intro e e' h
  obtain ⟨mode, word, result, program⟩ := e
  obtain ⟨mode', word', result', program'⟩ := e'
  simp only [toJson, Json.obj.injEq, List.cons.injEq, Prod.mk.injEq, true_and, Json.str.injEq,
    and_true] at h
  obtain ⟨rfl, rfl, rfl, hprogram⟩ := h
  obtain rfl : program = program' := by
    cases program <;> cases program' <;> simp_all
  rfl

end RunEntry

namespace RunLog

variable {log log' : RunLog} {files files' files'' : FileTree} {now moment : Clock} {e : RunEntry}
  {directory stem : Text} {l : Location}

/-! ### Paths of log files -/

/-- The log writes the file of the date it was turned to last. -/
def IsCurrent (log : RunLog) : Prop := log.file = path log.directory log.stem log.today

/-- The log files of different dates lie at different locations. -/
theorem date_eq_of_locate (h : files.locate (path directory stem now.date) = .ok l)
    (h' : files.locate (path directory stem moment.date) = .ok l) : now.date = moment.date := by
  obtain ⟨p, hp⟩ := Path.exists_join_eq directory stem
  obtain ⟨last, hlast⟩ := FileTree.exists_names_eq_of_locate p
  -- the names of both files end in the same way
  have key (now : Clock) (h : files.locate (path directory stem now.date) = .ok l) :
      ∃ names, l.names = names ++ [FileName.ofText (last ++ (now.date ++ ".jsonl".toText))] := by
    have hslash : .char '/' ∉ now.date ++ ".jsonl".toText := by
      rw [List.mem_append, not_or]
      exact ⟨now.slash_notMem_date, by decide⟩
    have hlength : 2 < (now.date ++ ".jsonl".toText).length := by
      rw [List.length_append]
      exact Nat.lt_of_lt_of_le (by decide : 2 < ".jsonl".toText.length) (Nat.le_add_left _ _)
    have hhead : (now.date ++ ".jsonl".toText).head? ≠ some (.char '/') := fun hhead =>
      hslash (List.mem_of_mem_head? hhead)
    rw [path, List.append_assoc, hp _ hhead] at h
    exact hlast files _ l hslash hlength h
  obtain ⟨names, hnames⟩ := key now h
  obtain ⟨names', hnames'⟩ := key moment h'
  have heq := (List.cons.inj (List.append_inj' (hnames.symm.trans hnames') rfl).2).1
  simp only [FileName.ofText_append] at heq
  exact FileName.eq_of_ofText_eq now.lt_of_mem_date moment.lt_of_mem_date
    (List.append_cancel_right (List.append_cancel_left heq))

/-! ### Calls -/

/-- What can be asked of a log. -/
inductive Call where
  /-- To record a query at a moment. -/
  | record (now : Clock) (e : RunEntry)
  /-- To turn to the file of a date, or else of the moment. -/
  | rotate (date : Option Text) (now : Clock)

/-- Performs a call. -/
def perform (log : RunLog) (files : FileTree) : Call → RunLog × Except FileTree.Error FileTree
  | .record now e => log.record files now e
  | .rotate date now => (log.rotate date now, .ok files)

/-- Performs calls one after the other, as long as the files can be written. -/
def performAll (log : RunLog) (files : FileTree) :
    List Call → Except FileTree.Error (RunLog × FileTree)
  | [] => .ok (log, files)
  | call :: calls =>
    match log.perform files call with
    | (log, .ok files) => performAll log files calls
    | (_, .error e) => .error e

/-- The entry that a call records on a date, as it is written. -/
def entryOn (date : Text) : Call → Option Json
  | .record now e => if now.date = date then some (e.toJson now) else none
  | .rotate _ _ => none

/-- The entries that calls record on a date, in the order of the calls. -/
def entriesOn (date : Text) (calls : List Call) : List Json := calls.filterMap (entryOn date)

theorem entriesOn_append (date : Text) (calls calls' : List Call) :
    entriesOn date (calls ++ calls') = entriesOn date calls ++ entriesOn date calls' :=
  List.filterMap_append

theorem exists_of_mem_entriesOn {date : Text} {v : Json} {calls : List Call}
    (h : v ∈ entriesOn date calls) :
    ∃ now e, Call.record now e ∈ calls ∧ now.date = date ∧ v = e.toJson now := by
  obtain ⟨call, hcall, heq⟩ := List.mem_filterMap.mp h
  cases call with
  | record now e =>
    rw [entryOn, Option.ite_none_right_eq_some] at heq
    exact ⟨now, e, hcall, heq.1, (Option.some.inj heq.2).symm⟩
  | rotate date now => exact nomatch heq

theorem performAll_append (log : RunLog) (files : FileTree) (calls calls' : List Call) :
    log.performAll files (calls ++ calls') =
      (log.performAll files calls).bind fun (log, files) => log.performAll files calls' := by
  induction calls generalizing log files with
  | nil => rfl
  | cons call calls ih =>
    rw [List.cons_append, performAll, performAll]
    split
    · exact ih _ _
    · rfl

theorem exists_performAll_eq_ok {calls : List Call}
    (hok : (log.performAll files calls).isOk = true) :
    ∃ log' files', log.performAll files calls = .ok (log', files') := by
  cases h : log.performAll files calls with
  | error e => rw [h] at hok; exact nomatch hok
  | ok r => exact ⟨r.1, r.2, rfl⟩

/-! ### What calls add -/

/-- The lines of some entries. -/
def lines (entries : List Json) : Text := Text.unlines (entries.map Json.write)

theorem lines_singleton (v : Json) : lines [v] = v.write ++ [.char '\n'] := by
  simp [lines, Text.unlines]

theorem lines_append (entries entries' : List Json) :
    lines (entries ++ entries') = lines entries ++ lines entries' := by
  simp [lines, Text.unlines]

/-- Between two states of the files, the entries of each date were added to the file of the date,
and nothing else happened. -/
structure Grows (directory stem : Text) (files : FileTree) (added : Text → List Json)
    (files' : FileTree) : Prop where
  /-- There are the same directories. -/
  directory_iff : ∀ l, files'.find? l = some .directory ↔ files.find? l = some .directory
  /-- The file of a date holds its entries behind what it held before. -/
  find?_of_locate : ∀ (moment : Clock) l, files.locate (path directory stem moment.date) = .ok l →
    files'.find? l = FileTree.grown (files.find? l) (lines (added moment.date))
  /-- No other file has changed. -/
  find?_of_ne : ∀ l, (∀ moment : Clock, added moment.date ≠ [] →
    files.locate (path directory stem moment.date) ≠ .ok l) → files'.find? l = files.find? l
  /-- The file of a date that has entries can be there. -/
  exists_location : ∀ moment : Clock, added moment.date ≠ [] →
    ∃ l, files.locate (path directory stem moment.date) = .ok l ∧
      files.find? l ≠ some .directory

namespace Grows

variable {added added' : Text → List Json}

theorem refl (directory stem : Text) (files : FileTree) :
    Grows directory stem files (fun _ => []) files where
  directory_iff _ := Iff.rfl
  find?_of_locate _ _ _ := rfl
  find?_of_ne _ _ := rfl
  exists_location _ h := absurd rfl h

theorem locate_iff (h : Grows directory stem files added files') {p : Text} :
    files'.locate p = .ok l ↔ files.locate p = .ok l :=
  ⟨FileTree.locate_of_directories fun l => (h.directory_iff l).mp,
    FileTree.locate_of_directories fun l => (h.directory_iff l).mpr⟩

theorem trans (h : Grows directory stem files added files')
    (h' : Grows directory stem files' added' files'') :
    Grows directory stem files (fun date => added date ++ added' date) files'' where
  directory_iff l := (h'.directory_iff l).trans (h.directory_iff l)
  find?_of_locate moment l hl := by
    rw [h'.find?_of_locate moment l (h.locate_iff.mpr hl), h.find?_of_locate moment l hl,
      FileTree.grown_grown, lines_append]
  find?_of_ne l hl := by
    have hfirst := h.find?_of_ne l fun moment hadded => hl moment (by simp [hadded])
    have hsecond := h'.find?_of_ne l fun moment hadded hlocate =>
      hl moment (by simp [hadded]) (h.locate_iff.mp hlocate)
    rw [hsecond, hfirst]
  exists_location moment hadded := by
    rcases Classical.em (added moment.date = []) with hnil | hne
    · rw [hnil, List.nil_append] at hadded
      obtain ⟨l, hl, hdirectory⟩ := h'.exists_location moment hadded
      exact ⟨l, h.locate_iff.mp hl, fun hfile => hdirectory ((h.directory_iff l).mpr hfile)⟩
    · exact h.exists_location moment hne

end Grows

theorem isCurrent_rotate (log : RunLog) (date : Option Text) (now : Clock) :
    (log.rotate date now).IsCurrent := rfl

theorem rotate_date (log : RunLog) (now : Clock) :
    log.rotate (some now.date) now =
      ⟨log.directory, log.stem, now.date, path log.directory log.stem now.date⟩ := by
  obtain ⟨c, t, ht⟩ := List.exists_cons_of_ne_nil now.date_ne_nil
  simp only [rotate, ht]

/-- A log that has turned to a moment writes the file of the moment's date. -/
theorem turnTo_eq (hlog : log.IsCurrent) (now : Clock) :
    log.turnTo now =
      ⟨log.directory, log.stem, now.date, path log.directory log.stem now.date⟩ := by
  rw [turnTo]
  split
  · next h =>
    have hfile : log.file = path log.directory log.stem log.today := hlog
    rw [h, ← hfile]
  · exact rotate_date log now

/-- **One record adds one entry**, to the file of the date of its moment. -/
theorem grows_record (hlog : log.IsCurrent) (h : log.record files now e = (log', .ok files')) :
    Grows log.directory log.stem files (fun date => entriesOn date [.record now e]) files' := by
  rw [record, turnTo_eq hlog, Prod.mk.injEq] at h
  have hentries (date : Text) :
      entriesOn date [.record now e] = if now.date = date then [e.toJson now] else [] := by
    rw [entriesOn, List.filterMap_cons, entryOn]
    split <;> simp_all
  obtain ⟨l, hlocate, hfile, hfind⟩ := FileTree.exists_of_append_eq_ok (by simp) h.2
  rw [← lines_singleton] at hfind
  refine ⟨fun l' => ?_, fun moment l' hl' => ?_, fun l' hl' => ?_, fun moment hadded => ?_⟩
  · rw [hfind]
    split
    · next heq => rw [FileTree.grown_eq_directory_iff, heq]
    · rfl
  · rw [hfind, hentries]
    by_cases hdate : now.date = moment.date
    · rw [← hdate] at hl'
      obtain rfl : l = l' := Except.ok.inj (hlocate.symm.trans hl')
      rw [if_pos rfl, if_pos hdate]
    · have hne : l ≠ l' := fun heq => hdate (date_eq_of_locate hlocate (heq ▸ hl'))
      rw [if_neg hne, if_neg hdate]
      rfl
  · rw [hfind, if_neg]
    rintro rfl
    exact hl' now (by simp [hentries]) hlocate
  · obtain hdate : now.date = moment.date := by
      by_contra hdate
      exact hadded (by rw [hentries, if_neg hdate])
    exact ⟨l, hdate ▸ hlocate, hfile⟩

/-- What one call does: the log stays the same but for the date it is turned to, and the files grow
by what the call records. -/
theorem grows_perform (hlog : log.IsCurrent) {call : Call}
    (h : log.perform files call = (log', .ok files')) :
    log'.directory = log.directory ∧ log'.stem = log.stem ∧ log'.IsCurrent ∧
      Grows log.directory log.stem files (fun date => entriesOn date [call]) files' := by
  cases call with
  | record now e =>
    have hgrows := grows_record hlog h
    rw [perform, record, turnTo_eq hlog, Prod.mk.injEq] at h
    obtain rfl := h.1
    exact ⟨rfl, rfl, rfl, hgrows⟩
  | rotate date now =>
    obtain ⟨rfl, hfiles⟩ := Prod.mk.inj h
    obtain rfl := Except.ok.inj hfiles
    exact ⟨rfl, rfl, isCurrent_rotate log date now, Grows.refl _ _ _⟩

/-- **What calls add to the files**: to the file of each date the entries that they record on it. -/
theorem grows_performAll (hlog : log.IsCurrent) {calls : List Call}
    (h : log.performAll files calls = .ok (log', files')) :
    log'.directory = log.directory ∧ log'.stem = log.stem ∧ log'.IsCurrent ∧
      Grows log.directory log.stem files (fun date => entriesOn date calls) files' := by
  induction calls generalizing log files with
  | nil =>
    obtain ⟨rfl, rfl⟩ := Prod.mk.inj (Except.ok.inj h)
    exact ⟨rfl, rfl, hlog, Grows.refl _ _ _⟩
  | cons call calls ih =>
    rw [performAll] at h
    split at h
    · next log₁ files₁ hcall =>
      obtain ⟨hdirectory, hstem, hlog₁, hfirst⟩ := grows_perform hlog hcall
      obtain ⟨hdirectory', hstem', hlog', hrest⟩ := ih hlog₁ h
      rw [hdirectory, hstem] at hrest
      refine ⟨hdirectory'.trans hdirectory, hstem'.trans hstem, hlog', ?_⟩
      simpa only [← entriesOn_append, List.singleton_append] using hfirst.trans hrest
    · exact nomatch h

/-! ### Reading back -/

theorem survives_toJson {room : Nat} (he : Json.Survives room e.result) (now : Clock) :
    Json.Survives (room + 1) (e.toJson now) := by
  have hnames : ["timestamp".toText.joinHalves, "mode".toText.joinHalves, "word".toText.joinHalves,
      "result".toText.joinHalves, "program".toText.joinHalves].Nodup := by decide +kernel
  refine .obj ?_ fun m hm => ?_
  · simpa only [List.map_cons, List.map_nil] using hnames
  simp only [List.mem_cons, List.not_mem_nil, or_false] at hm
  rcases hm with rfl | rfl | rfl | rfl | rfl
  · exact .str _
  · exact .str _
  · exact .str _
  · exact he
  · cases e.program with
    | none => exact .null
    | some program => exact .str program

theorem joinHalves_toJson (e : RunEntry) (now : Clock) :
    (e.toJson now).joinHalves = e.joinHalves.toJson now := by
  have htimestamp : now.timestamp.joinHalves = now.timestamp :=
    (Text.unpaired_of_lt fun c hc =>
      Nat.lt_trans (now.isAscii_timestamp c hc).2 (by decide)).joinHalves_eq
  have hname (name : String) (h : Text.Unpaired name.toText) :
      name.toText.joinHalves = name.toText := h.joinHalves_eq
  simp only [RunEntry.toJson, RunEntry.joinHalves, Json.joinHalves, Json.joinHalvesMembers,
    htimestamp]
  rw [hname "timestamp" (by decide), hname "mode" (by decide), hname "word" (by decide),
    hname "result" (by decide), hname "program" (by decide)]
  cases e.program <;> rfl

/-- **An entry is read back from its line** with its halves put together, whatever the words and
paths in it. -/
theorem read_line (he : Json.Survives (Json.maxDepth - 1) e.result) (now : Clock) :
    Json.read ((e.toJson now).write ++ [.char '\n']) = .ok (e.joinHalves.toJson now) := by
  rw [← joinHalves_toJson]
  refine Json.read_write (survives_toJson he now) fun c hc => ?_
  rw [List.mem_singleton.mp hc]
  rfl

theorem lt_of_mem_lines {entries : List Json} {c : CodePoint} (hc : c ∈ lines entries) :
    c.toNat < 0x80 := by
  obtain ⟨t, ht, hc⟩ := List.mem_flatMap.mp hc
  obtain ⟨v, -, rfl⟩ := List.mem_map.mp ht
  rcases List.mem_append.mp hc with hc | hc
  · exact Nat.lt_of_lt_of_le (Json.isAscii_write v c hc).2 (by decide)
  · rw [List.mem_singleton.mp hc]
    decide

/-- **The texts of the entries are known from the bytes of their lines.** -/
theorem map_write_eq_of_encode_lines_eq {entries entries' : List Json}
    (h : Utf8.encode (lines entries) = Utf8.encode (lines entries')) :
    entries.map Json.write = entries'.map Json.write := by
  have hdecoded (entries : List Json) :
      Utf8.decode (Utf8.encode (lines entries)) = .ok (lines entries) :=
    Utf8.decode_encode_of_lt fun c => lt_of_mem_lines
  have htexts : lines entries = lines entries' :=
    Except.ok.inj ((hdecoded entries).symm.trans (h ▸ hdecoded entries'))
  have hlines (entries : List Json) : Text.lines (lines entries) = entries.map Json.write := by
    refine Text.lines_unlines fun t ht => ?_
    obtain ⟨v, -, rfl⟩ := List.mem_map.mp ht
    exact (Json.isAscii_write v).isLine
  rw [← hlines, ← hlines, htexts]

theorem entriesOn_map_record (now : Clock) (es : List RunEntry) :
    entriesOn now.date (es.map (Call.record now)) = es.map fun e => e.toJson now := by
  rw [entriesOn, List.filterMap_map, ← List.filterMap_eq_map]
  refine List.filterMap_congr fun e _ => ?_
  rw [Function.comp_apply, entryOn, if_pos rfl]
  rfl

/-- **What was written at a moment is known from the files before and after.** -/
theorem map_line_eq_of_performAll (hlog : log.IsCurrent) {es es' : List RunEntry}
    {log₁ log₂ : RunLog} (h : log.performAll files (es.map (Call.record now)) = .ok (log₁, files'))
    (h' : log.performAll files (es'.map (Call.record now)) = .ok (log₂, files')) :
    es.map (RunEntry.line now) = es'.map (RunEntry.line now) := by
  obtain ⟨-, -, -, hgrows⟩ := grows_performAll hlog h
  obtain ⟨-, -, -, hgrows'⟩ := grows_performAll hlog h'
  by_cases hnil : es = [] ∧ es' = []
  · rw [hnil.1, hnil.2]
  -- the file of the date is there to be compared, for something was added to it
  obtain ⟨l, hl, hfile⟩ : ∃ l, files.locate (path log.directory log.stem now.date) = .ok l ∧
      files.find? l ≠ some .directory := by
    by_cases hempty : es = []
    · refine hgrows'.exists_location now ?_
      rw [entriesOn_map_record]
      simpa [hempty] using hnil
    · refine hgrows.exists_location now ?_
      rw [entriesOn_map_record]
      simpa using hempty
  have hgrown := (hgrows.find?_of_locate now l hl).symm.trans (hgrows'.find?_of_locate now l hl)
  rw [entriesOn_map_record, entriesOn_map_record] at hgrown
  have hwritten := map_write_eq_of_encode_lines_eq (FileTree.encode_eq_of_grown_eq hfile hgrown)
  rwa [List.map_map, List.map_map] at hwritten

/-! ### The files of a log -/

/-- A log that was started writes the file of its date. -/
theorem isCurrent_of_start (h : (start files directory stem now).1 = .ok log) :
    log.IsCurrent := by
  rw [start] at h
  split at h
  · obtain rfl := Except.ok.inj h
    rfl
  · exact nomatch h

/-- **The log files part the entries by date, and none is lost.** After any calls, the file of each
date holds what it held before and then a line for each entry of that date, in the order of the
calls, and nothing else has changed. A line ends with its only line break, and the entry is read
back from it: with its halves put together, and so exactly as it was if none in it form a pair. All
the while, the log writes the file of the date it was turned to last. -/
theorem performAll_partitions (hlog : log.IsCurrent) {calls : List Call}
    (h : log.performAll files calls = .ok (log', files')) :
    (∀ (moment : Clock) (l : Location),
      files.locate (path log.directory log.stem moment.date) = .ok l →
        files'.locate (path log.directory log.stem moment.date) = .ok l ∧
        files'.find? l =
          FileTree.grown (files.find? l) (lines (entriesOn moment.date calls))) ∧
      (∀ l : Location, (∀ now e, Call.record now e ∈ calls →
        files.locate (path log.directory log.stem now.date) ≠ .ok l) →
          files'.find? l = files.find? l) ∧
      (∀ now e, Call.record now e ∈ calls →
        (∃ l, files.locate (path log.directory log.stem now.date) = .ok l ∧
          files.find? l ≠ some .directory) ∧
        Text.IsLine (e.toJson now).write ∧
        Utf8.decode (Utf8.encode ((e.toJson now).write ++ [.char '\n'])) =
          .ok ((e.toJson now).write ++ [.char '\n']) ∧
        (Json.Survives (Json.maxDepth - 1) e.result →
          Json.read ((e.toJson now).write ++ [.char '\n']) = .ok (e.joinHalves.toJson now)) ∧
        (e.Unpaired → e.joinHalves = e)) ∧
      ∀ before after, calls = before ++ after →
        ∃ log₁ files₁, log.performAll files before = .ok (log₁, files₁) ∧
          log₁.directory = log.directory ∧ log₁.stem = log.stem ∧
          log₁.file = path log.directory log.stem log₁.today := by
  obtain ⟨-, -, -, hgrows⟩ := grows_performAll hlog h
  refine ⟨fun moment l hl => ⟨hgrows.locate_iff.mpr hl, hgrows.find?_of_locate moment l hl⟩,
    fun l hl => hgrows.find?_of_ne l fun moment hadded => ?_, fun now e he =>
      ⟨?_, ?_, ?_, fun hresult => read_line hresult now, RunEntry.Unpaired.joinHalves_eq⟩,
    fun before after hcalls => ?_⟩
  · obtain ⟨v, hv⟩ := List.exists_mem_of_ne_nil _ hadded
    obtain ⟨now, e, hcall, hdate, -⟩ := exists_of_mem_entriesOn hv
    exact hdate ▸ hl now e hcall
  · refine hgrows.exists_location now (List.ne_nil_of_mem (a := e.toJson now) ?_)
    exact List.mem_filterMap.mpr ⟨_, he, by rw [entryOn, if_pos rfl]⟩
  · exact (Json.isAscii_write _).isLine
  · rw [← lines_singleton]
    exact Utf8.decode_encode_of_lt fun c => lt_of_mem_lines
  · rw [hcalls, performAll_append] at h
    cases hbefore : log.performAll files before with
    | error e => rw [hbefore] at h; exact nomatch h
    | ok r =>
      obtain ⟨log₁, files₁⟩ := r
      obtain ⟨hdirectory, hstem, hcurrent, -⟩ := grows_performAll hlog hbefore
      rw [IsCurrent, hdirectory, hstem] at hcurrent
      exact ⟨log₁, files₁, rfl, hdirectory, hstem, hcurrent⟩

/-- The location of a file in the directory of the log files. -/
def logLocation (name : String) : Location :=
  ⟨.above 0, [FileName.ofText "logs".toText, FileName.ofText name.toText]⟩

/-- A tree with a directory for log files and one log file in it. -/
def logTree : FileTree :=
  ⟨[(⟨.above 0, [FileName.ofText "logs".toText]⟩, .directory),
    (logLocation "dtm_2024-01-01.jsonl", .file [0x7b, 0x7d, 0x0a])]⟩

/-- A log in that directory, turned to some date. -/
def datedLog : RunLog :=
  ⟨"logs/".toText, "dtm_".toText, "2024-01-01".toText,
    path "logs/".toText "dtm_".toText "2024-01-01".toText⟩

/-- The last second of a day. -/
def beforeMidnight : Clock := ⟨2024, 1, 1, 23, 59, 59, 0⟩

/-- The first second of the next day. -/
def afterMidnight : Clock := ⟨2024, 1, 2, 0, 0, 0, 0⟩

/-- A query about a word that holds a quote, a line break, a character above U+FFFF and half of a
surrogate pair. -/
def oddEntry : RunEntry :=
  ⟨"transform".toText, ['"', '\n', .ofNat 0x1f600, .ofNat 0xd83d], .str "ba".toText,
    some "programs/reverse.tm".toText⟩

/-- A query about the empty word. -/
def plainEntry : RunEntry := ⟨"decide".toText, [], .bool true, none⟩

/-- Queries on both sides of midnight, with the clock turned back and the log turned elsewhere. -/
def midnightCalls : List Call :=
  [.record beforeMidnight oddEntry, .record afterMidnight plainEntry,
    .rotate (some "1999-12-31".toText) afterMidnight, .record beforeMidnight plainEntry]

theorem performAll_partitions_midnight :
    datedLog.IsCurrent ∧ ∃ log' files',
      datedLog.performAll logTree midnightCalls = .ok (log', files') ∧
      files'.find? (logLocation "dtm_2024-01-01.jsonl") =
        some (.file ([0x7b, 0x7d, 0x0a] ++ Utf8.encode
          (lines [oddEntry.toJson beforeMidnight, plainEntry.toJson beforeMidnight]))) ∧
      files'.find? (logLocation "dtm_2024-01-02.jsonl") =
        some (.file (Utf8.encode (lines [plainEntry.toJson afterMidnight]))) ∧
      files'.find? (logLocation "dtm_1999-12-31.jsonl") = none ∧
      Json.read ((oddEntry.toJson beforeMidnight).write ++ [.char '\n']) =
        .ok (oddEntry.toJson beforeMidnight) := by
  have hlog : datedLog.IsCurrent := rfl
  have hok : (datedLog.performAll logTree midnightCalls).isOk = true := by decide +kernel
  obtain ⟨log', files', h⟩ := exists_performAll_eq_ok hok
  obtain ⟨hfiles, hother, hlines, -⟩ := performAll_partitions hlog h
  refine ⟨hlog, log', files', h, ?_, ?_, ?_, ?_⟩
  · exact (hfiles beforeMidnight _ (by decide +kernel)).2
  · exact (hfiles afterMidnight _ (by decide +kernel)).2
  · refine hother _ fun now e hcall => ?_
    simp only [midnightCalls, List.mem_cons, Call.record.injEq, reduceCtorEq, false_or,
      List.not_mem_nil, or_false] at hcall
    rcases hcall with ⟨rfl, -⟩ | ⟨rfl, -⟩ | ⟨rfl, -⟩ <;> decide +kernel
  · obtain ⟨-, -, -, hread, hunpaired⟩ :=
      hlines beforeMidnight oddEntry (by simp [midnightCalls])
    have hodd : oddEntry.Unpaired :=
      ⟨by decide, by decide, rfl, fun path hpath => Option.some.inj hpath ▸ by decide⟩
    rw [hread (.str _), hunpaired hodd]

/-- A query about a word of two characters, both halves of one surrogate pair. -/
def pairEntry : RunEntry := ⟨"decide".toText, [.ofNat 0xd83d, .ofNat 0xde00], .bool true, none⟩

/-- The line of an entry may be read back as another entry: the two halves in the word are written
like the character of the pair, and are read as it. -/
theorem read_line_pairEntry :
    ∃ log' files', datedLog.performAll logTree [.record afterMidnight pairEntry] =
        .ok (log', files') ∧
      files'.find? (logLocation "dtm_2024-01-02.jsonl") =
        some (.file (Utf8.encode ((pairEntry.toJson afterMidnight).write ++ [.char '\n']))) ∧
      Json.read ((pairEntry.toJson afterMidnight).write ++ [.char '\n']) ≠
        .ok (pairEntry.toJson afterMidnight) := by
  have hok : (datedLog.performAll logTree [.record afterMidnight pairEntry]).isOk = true := by
    decide +kernel
  obtain ⟨log', files', h⟩ := exists_performAll_eq_ok hok
  refine ⟨log', files', h, ?_, ?_⟩
  · obtain ⟨-, -, -, hgrows⟩ := grows_performAll (rfl : datedLog.IsCurrent) h
    have hfile := hgrows.find?_of_locate afterMidnight (logLocation "dtm_2024-01-02.jsonl")
      (by decide +kernel)
    rwa [← lines_singleton]
  · rw [read_line (.bool true)]
    intro hread
    have hentry := RunEntry.toJson_injective afterMidnight (Except.ok.inj hread)
    exact absurd (congrArg RunEntry.word hentry) (by decide)

end RunLog

end MultiTape
