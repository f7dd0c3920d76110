import Mathlib.Data.List.Induction
import Mathlib.Data.List.Nodup
import MultiTape.Proofs.Json.RoundTrip
import MultiTape.Proofs.Lists
import MultiTape.Settings.File

/-!
# Settings files

The settings of a file are the default settings with those of the file laid over them. Whatever
members the file has, what comes of them can be said outright: the known settings in their order,
each with the value that the file gives last or else with its default, and then the other names of
the file in the order in which they come first.

What may be wrong with them is found in a fixed order. A known setting is never missing, since it
has a default. The first one of a wrong kind is named, and if there is none, what is wrong with the
alphabet. Nothing is done to the files before all of this is right.

## Main definitions

* `Settings.lastValue?`: the value that comes last under a name
* `Settings.given`, `Settings.overlay`: the values that the members of a file give, and the settings
* `Settings.Stores`: a file holds an object
* `Settings.Admissible`, `Settings.FormsAlphabet`: what settings have to be

## Main results

* `Settings.merge_default_eq_overlay`: the default settings with an object laid over them
* `Settings.exists_alphabet_of_loadFile`: loaded settings give an alphabet
* `Settings.loadFile_overlay`: what loading a settings file comes to
-/

namespace MultiTape

/-! ### Alphabets -/

namespace Alphabet

theorem character_eq_ok_iff {field : Field} {v : Json} {c : CodePoint} :
    character field v = .ok c ↔ v = .str [c] := by
  constructor
  · intro h
    rw [character.eq_def] at h
    split at h
    · rw [Except.ok.inj h]
    · exact nomatch h
  · rintro rfl
    rfl

/-- Three values form an alphabet if they are its characters. -/
theorem ofValues_eq_ok_iff {first last blank : Json} {a : Alphabet} :
    ofValues first last blank = .ok a ↔
      first = .str [a.first] ∧ last = .str [a.last] ∧ blank = .str [a.blank] := by
  simp only [ofValues, bind_eq_ok_iff, character_eq_ok_iff]
  constructor
  · rintro ⟨c, rfl, d, rfl, b, rfl, h⟩
    split at h
    · split at h
      · exact nomatch h
      · obtain rfl := Except.ok.inj h
        exact ⟨rfl, rfl, rfl⟩
    · exact nomatch h
  · rintro ⟨rfl, rfl, rfl⟩
    refine ⟨_, rfl, _, rfl, _, rfl, ?_⟩
    rw [dif_pos a.first_le_last, dif_neg a.blank_outside]

end Alphabet

/-! ### Names, each once -/

namespace Text

theorem eraseDups_concat (xs : List Text) (x : Text) :
    (xs ++ [x]).eraseDups = if x ∈ xs then xs.eraseDups else xs.eraseDups ++ [x] := by
  rw [List.eraseDups_append]
  by_cases h : x ∈ xs <;> simp [List.removeAll, List.eraseDups_cons, h]

theorem nodup_eraseDups (xs : List Text) : xs.eraseDups.Nodup := by
  induction xs using List.reverseRecOn with
  | nil => simp
  | append_singleton xs x ih =>
    rw [eraseDups_concat]
    split
    · exact ih
    · next h =>
      refine List.nodup_append.mpr ⟨ih, List.nodup_singleton x, fun y hy z hz => ?_⟩
      rw [List.mem_singleton.mp hz]
      exact fun heq => h (heq ▸ List.mem_eraseDups.mp hy)

end Text

/-! ### Line breaks -/

theorem Text.unifyNewlines_of_notMem {t : Text} (h : .char '\r' ∉ t) : unifyNewlines t = t := by
  fun_induction unifyNewlines t with
  | case1 => rfl
  | case2 rest ih => exact absurd List.mem_cons_self h
  | case3 rest _ ih => exact absurd List.mem_cons_self h
  | case4 c rest _ _ ih => rw [ih fun hrest => h (List.mem_cons_of_mem c hrest)]

namespace Settings

variable {u : List (Text × Json)} {x : Text} {v : Json} {files : FileTree} {path : Text}
  {s : Settings}

/-! ### Laying an object over settings -/

theorem sameName_str (x y : Text) : sameName (.str x) (.str y) = (x == y) := rfl

/-- Putting a value under a name among others changes the value of this name, or puts the name
behind the others. -/
theorem insertEntry_map {names : List Text} (h : names.Nodup) (f : Text → Json) (x : Text)
    (v : Json) :
    insertEntry (.str x) v (names.map fun y => (.str y, f y)) =
      (if x ∈ names then names else names ++ [x]).map fun y =>
        (.str y, if y = x then v else f y) := by
  induction names with
  | nil => simp [insertEntry]
  | cons y names ih =>
    obtain ⟨hy, hnames⟩ := List.nodup_cons.mp h
    rw [List.map_cons, insertEntry, sameName_str]
    by_cases hyx : y = x
    · subst hyx
      rw [beq_self_eq_true, if_pos rfl, if_pos List.mem_cons_self, List.map_cons, if_pos rfl]
      refine congrArg (List.cons _) (List.map_congr_left fun z hz => ?_)
      rw [if_neg fun heq : z = y => hy (heq ▸ hz)]
    · have hmem : x ∈ y :: names ↔ x ∈ names := by simp [Ne.symm hyx]
      rw [beq_eq_false_iff_ne.mpr hyx, if_neg Bool.false_ne_true, ih hnames, if_congr hmem rfl rfl]
      split <;> simp [hyx]

/-- The value that comes last under a name. -/
def lastValue? (u : List (Text × Json)) (x : Text) : Option Json := u.reverse.lookup x

theorem lastValue?_concat (u : List (Text × Json)) (x y : Text) (v : Json) :
    lastValue? (u ++ [(x, v)]) y = if y = x then some v else lastValue? u y := by
  rw [lastValue?, List.reverse_append, List.reverse_singleton, List.singleton_append,
    List.lookup_cons, lastValue?]
  by_cases h : y = x
  · rw [h, beq_self_eq_true, if_pos rfl]
  · rw [beq_eq_false_iff_ne.mpr h, if_neg h]

/-- The names of some members in the order in which they come first, each with its last value. -/
def ofMembers (u : List (Text × Json)) : Settings :=
  ⟨(u.map Prod.fst).eraseDups.map fun x => (.str x, (lastValue? u x).getD .null)⟩

theorem ofMembers_concat (u : List (Text × Json)) (x : Text) (v : Json) :
    ofMembers (u ++ [(x, v)]) = (ofMembers u).insert (.str x) v := by
  have hvalue (y : Text) : (lastValue? (u ++ [(x, v)]) y).getD .null =
      if y = x then v else (lastValue? u y).getD .null := by
    rw [lastValue?_concat]
    split <;> rfl
  rw [ofMembers, insert, ofMembers, insertEntry_map (Text.nodup_eraseDups _), List.map_append,
    List.map_singleton, Text.eraseDups_concat, if_congr List.mem_eraseDups rfl rfl]
  simp only [hvalue]

/-- The known settings with their defaults. -/
def defaultMembers : List (Text × Json) := Key.all.map fun key => (key.name, key.defaultValue)

theorem merge_default (u : List (Text × Json)) :
    default.merge (.obj u) = .ok (ofMembers (defaultMembers ++ u)) := by
  rw [merge]
  refine congrArg Except.ok ?_
  induction u using List.reverseRecOn with
  | nil => rfl
  | append_singleton u e ih =>
    rw [List.foldl_append, ih, ← List.append_assoc]
    exact (ofMembers_concat _ _ _).symm

/-! ### What the members of a file give -/

/-- The value of a known setting: the one given last, or else its default. -/
def given (u : List (Text × Json)) (key : Key) : Json :=
  (lastValue? u key.name).getD key.defaultValue

/-- The names that are given and not known, in the order in which they come first. -/
def newNames (u : List (Text × Json)) : List Text :=
  ((u.map Prod.fst).filter fun x => !(Key.all.map Key.name).contains x).eraseDups

/-- The known settings in their order, each with the value given, and then the other names, each
with the value that it is given last. -/
def overlay (u : List (Text × Json)) : Settings :=
  ⟨Key.all.map (fun key => (.str key.name, given u key)) ++
    (newNames u).map fun x => (.str x, (lastValue? u x).getD .null)⟩

theorem lastValue?_append (u u' : List (Text × Json)) (x : Text) :
    lastValue? (u ++ u') x = (lastValue? u' x).or (lastValue? u x) := by
  rw [lastValue?, List.reverse_append, List.lookup_append]
  rfl

theorem lastValue?_defaultMembers (key : Key) :
    lastValue? defaultMembers key.name = some key.defaultValue := by
  cases key <;> rfl

/-- Every new name has a value. -/
theorem exists_lastValue? (hx : x ∈ newNames u) : ∃ v, lastValue? u x = some v := by
  rw [newNames, List.mem_eraseDups, List.mem_filter] at hx
  obtain ⟨e, he, rfl⟩ := List.mem_map.mp hx.1
  refine Option.isSome_iff_exists.mp (List.lookup_isSome_iff.mpr ⟨e, ?_, beq_self_eq_true _⟩)
  exact List.mem_reverse.mpr he

/-- **The default settings with an object laid over them.** -/
theorem merge_default_eq_overlay (u : List (Text × Json)) :
    default.merge (.obj u) = .ok (overlay u) := by
  rw [merge_default]
  refine congrArg Except.ok ?_
  have hnames : ((defaultMembers ++ u).map Prod.fst).eraseDups =
      Key.all.map Key.name ++ newNames u := by
    rw [List.map_append, List.eraseDups_append]
    rfl
  rw [ofMembers, hnames, overlay, List.map_append, List.map_map]
  congr 2
  · refine List.map_congr_left fun key _ => ?_
    rw [Function.comp_apply, lastValue?_append, lastValue?_defaultMembers, given]
    cases lastValue? u key.name <;> rfl
  · refine List.map_congr_left fun x hx => ?_
    obtain ⟨v, hv⟩ := exists_lastValue? hx
    rw [lastValue?_append, hv]
    rfl

theorem get?_overlay (u : List (Text × Json)) (key : Key) :
    (overlay u).get? key = some (given u key) := by
  cases key <;> rfl

theorem get_overlay (u : List (Text × Json)) (key : Key) : (overlay u).get key = given u key := by
  rw [get, get?_overlay]
  rfl

/-! ### Checking -/

/-- All known settings are of the kinds they have to be of. -/
def Admissible (u : List (Text × Json)) : Prop := ∀ key : Key, key.kind.admits (given u key) = true

/-- The three symbols are those of the alphabet. -/
def FormsAlphabet (u : List (Text × Json)) (a : Alphabet) : Prop :=
  given u .firstSymbol = .str [a.first] ∧ given u .lastSymbol = .str [a.last] ∧
    given u .blankSymbol = .str [a.blank]

theorem alphabet_overlay_eq_ok_iff {a : Alphabet} :
    (overlay u).alphabet = .ok a ↔ FormsAlphabet u a := by
  rw [alphabet, get_overlay, get_overlay, get_overlay, Alphabet.ofValues_eq_ok_iff]
  rfl

theorem checkKey_overlay (u : List (Text × Json)) (key : Key) :
    (overlay u).checkKey key =
      if key.kind.admits (given u key) then .ok ()
      else .error (.wrongKind key (given u key).kindName) := by
  rw [checkKey, get?_overlay]

theorem check_overlay_of_admissible (h : Admissible u) :
    (overlay u).check = (overlay u).alphabet.mapError .alphabet := by
  have hkeys : Key.all.forM (overlay u).checkKey = .ok () :=
    forM_eq_ok fun key _ => by rw [checkKey_overlay, if_pos (h key)]
  rw [check, hkeys]
  rfl

theorem check_overlay_of_not_admits {before after : List Key} {key : Key}
    (hall : Key.all = before ++ key :: after)
    (hbefore : ∀ k ∈ before, k.kind.admits (given u k) = true)
    (hkey : key.kind.admits (given u key) = false) :
    (overlay u).check = .error (.wrongKind key (given u key).kindName) := by
  have hkeys : Key.all.forM (overlay u).checkKey =
      .error (.wrongKind key (given u key).kindName) := by
    rw [hall]
    refine forM_eq_error (fun k hk => ?_) ?_
    · rw [checkKey_overlay, if_pos (hbefore k hk)]
    · rw [checkKey_overlay, hkey, if_neg Bool.false_ne_true]
  rw [check, hkeys]
  rfl

/-- If not all known settings are of their kinds, there is a first one that is not. -/
theorem admissible_or_exists_first (u : List (Text × Json)) :
    Admissible u ∨ ∃ before key after, Key.all = before ++ key :: after ∧
      (∀ k ∈ before, k.kind.admits (given u k) = true) ∧ key.kind.admits (given u key) = false := by
  cases hfirst : Key.all.find? fun key => !key.kind.admits (given u key) with
  | none =>
    refine .inl fun key => ?_
    have hmem : key ∈ Key.all := by cases key <;> decide
    simpa using List.find?_eq_none.mp hfirst key hmem
  | some key =>
    obtain ⟨hkey, before, after, hall, hbefore⟩ := List.find?_eq_some_iff_append.mp hfirst
    exact .inr ⟨before, key, after, hall, by simpa using hbefore, by simpa using hkey⟩

/-- No known setting is missing. -/
theorem check_overlay_ne_missing (u : List (Text × Json)) (key : Key) :
    (overlay u).check ≠ .error (.missing key) := by
  rcases admissible_or_exists_first u with h | ⟨before, k, after, hall, hbefore, hk⟩
  · rw [check_overlay_of_admissible h]
    cases (overlay u).alphabet <;> simp [Except.mapError]
  · rw [check_overlay_of_not_admits hall hbefore hk]
    nofun

/-! ### Loading -/

theorem exists_ofBytes_of_loadFile (h : (loadFile files path).1 = .ok s) :
    ∃ bytes, ofBytes bytes = .ok s := by
  rw [loadFile] at h
  split at h
  · exact nomatch h
  · split at h
    · exact nomatch h
    · next bytes _ =>
      split at h
      · exact nomatch h
      · next s' hs' =>
        refine ⟨bytes, hs'.trans ?_⟩
        -- the directory of the log files may be made, but that does not change the settings
        split at h
        · split at h
          · exact h
          · exact nomatch h
        · exact h

/-- **Loaded settings give an alphabet.** -/
theorem exists_alphabet_of_loadFile (h : (loadFile files path).1 = .ok s) :
    ∃ a, s.alphabet = .ok a := by
  obtain ⟨bytes, hbytes⟩ := exists_ofBytes_of_loadFile h
  simp only [ofBytes, bind_eq_ok_iff, mapError_eq_ok_iff] at hbytes
  obtain ⟨t, -, v, -, s', -, a, hcheck, hs⟩ := hbytes
  obtain rfl := Except.ok.inj hs
  rw [check, bind_eq_ok_iff] at hcheck
  obtain ⟨-, -, ha⟩ := hcheck
  exact ⟨a, mapError_eq_ok_iff.mp ha⟩

/-- The file under the path holds an object with these members. -/
def Stores (files : FileTree) (path : Text) (u : List (Text × Json)) : Prop :=
  ∃ bytes t, files.read path = .ok bytes ∧ Utf8.decode bytes = .ok t ∧
    Json.read (Text.unifyNewlines t) = .ok (.obj u)

theorem pathExists_of_read {bytes : List UInt8} (h : files.read path = .ok bytes) :
    files.pathExists path = true := by
  rw [FileTree.read] at h
  rw [FileTree.pathExists]
  split at h
  · next hstatus => rw [hstatus]
  · exact nomatch h
  · exact nomatch h

/-- What loading comes to, if the file holds an object: the check decides. -/
theorem loadFile_eq (h : Stores files path u) :
    loadFile files path =
      match (overlay u).check with
      | .error e => (.error (.check e), files)
      | .ok _ =>
        if (given u .logRuns).truthy then
          match files.makeDirectories ((overlay u).text .outputDirectory) with
          | (.ok (), files) => (.ok (overlay u), files)
          | (.error e, files) => (.error (.file e), files)
        else (.ok (overlay u), files) := by
  obtain ⟨bytes, t, hread, hdecode, hjson⟩ := h
  have hbytes : ofBytes bytes = ((overlay u).check.mapError .check).map fun _ => overlay u := by
    simp only [ofBytes, hdecode, Except.mapError, bind, Except.bind, hjson,
      merge_default_eq_overlay]
    cases (overlay u).check <;> rfl
  rw [loadFile, pathExists_of_read hread, hread, ← get_overlay u .logRuns]
  simp only [hbytes]
  cases (overlay u).check <;> rfl

/-- **Loading a settings file gives exactly the overlays that are valid.** Let the file hold an
object. If the known settings laid over the defaults are of their kinds and their symbols form an
alphabet, the overlay passes its check, gives that alphabet, and is what loading gives, unless the
directory of the log files is wanted and cannot be made. Else the first known setting of a wrong
kind is named, or what is wrong with the alphabet if there is none, and the files stay as they are.
No known setting is ever missing. -/
theorem loadFile_overlay (h : Stores files path u) :
    (∀ a, Admissible u → FormsAlphabet u a →
      (overlay u).check = .ok a ∧ (overlay u).alphabet = .ok a ∧
        (given u .logRuns = .bool false → loadFile files path = (.ok (overlay u), files)) ∧
        ∀ directory, given u .logRuns = .bool true → given u .outputDirectory = .str directory →
          (∀ files', files.makeDirectories directory = (.ok (), files') →
            loadFile files path = (.ok (overlay u), files')) ∧
          ∀ e files', files.makeDirectories directory = (.error e, files') →
            loadFile files path = (.error (.file e), files')) ∧
      (Admissible u → (∀ a, ¬FormsAlphabet u a) →
        ∃ e, (overlay u).alphabet = .error e ∧
          loadFile files path = (.error (.check (.alphabet e)), files)) ∧
      (∀ before key after, Key.all = before ++ key :: after →
        (∀ k ∈ before, k.kind.admits (given u k) = true) → key.kind.admits (given u key) = false →
          loadFile files path =
            (.error (.check (.wrongKind key (given u key).kindName)), files)) ∧
      ∀ key, (loadFile files path).1 ≠ .error (.check (.missing key)) := by
  have hload := loadFile_eq h
  refine ⟨fun a hadmissible ha => ?_, fun hadmissible hno => ?_,
    fun before key after hall hbefore hkey => ?_, fun key hmissing => ?_⟩
  · have halphabet := alphabet_overlay_eq_ok_iff.mpr ha
    have hcheck : (overlay u).check = .ok a := by
      rw [check_overlay_of_admissible hadmissible, halphabet]
      rfl
    rw [hcheck] at hload
    refine ⟨hcheck, halphabet, fun hlog => ?_, fun directory hlog hdirectory => ?_⟩
    · rw [hload, hlog]
      rfl
    · have htext : (overlay u).text .outputDirectory = directory := by
        rw [text, get_overlay, hdirectory]
        rfl
      rw [hlog, htext] at hload
      refine ⟨fun files' hmade => ?_, fun e files' hfailed => ?_⟩
      · simp only [hload, hmade, Json.truthy, if_true]
      · simp only [hload, hfailed, Json.truthy, if_true]
  · rcases halphabet : (overlay u).alphabet with e | a
    · rw [check_overlay_of_admissible hadmissible, halphabet] at hload
      exact ⟨e, rfl, hload⟩
    · exact absurd (alphabet_overlay_eq_ok_iff.mp halphabet) (hno a)
  · rw [hload, check_overlay_of_not_admits hall hbefore hkey]
  · rw [hload] at hmissing
    split at hmissing
    · next e he =>
      obtain rfl := LoadError.check.inj (Except.error.inj hmissing)
      exact check_overlay_ne_missing u key he
    · split at hmissing
      · split at hmissing <;> exact nomatch hmissing
      · exact nomatch hmissing

/-! ### Files that hold settings -/

/-- Every object whose text can be read back can be put in a file. -/
theorem stores_of_write (hu : Json.Survives Json.maxDepth (.obj u))
    (hunpaired : (Json.obj u).joinHalves = .obj u)
    (hread : files.read path = .ok (Utf8.encode (Json.obj u).write)) : Stores files path u := by
  have hascii := Json.isAscii_write (.obj u)
  have hdecode : Utf8.decode (Utf8.encode (Json.obj u).write) = .ok (Json.obj u).write :=
    Utf8.decode_encode_of_lt fun c hc => by
      have := hascii c hc
      omega
  have hunify : Text.unifyNewlines (Json.obj u).write = (Json.obj u).write :=
    Text.unifyNewlines_of_notMem fun h => absurd (hascii _ h) (by decide)
  have hwrite : Json.read ((Json.obj u).write ++ []) = .ok (Json.obj u).joinHalves :=
    Json.read_write hu nofun
  rw [List.append_nil, hunpaired] at hwrite
  exact ⟨_, _, hread, hdecode, by rw [hunify, hwrite]⟩

/-- A directory with nothing but a settings file that holds an object. -/
def shelf (u : List (Text × Json)) : FileTree :=
  ⟨[(⟨.above 0, [FileName.ofText "settings.json".toText]⟩, .file (Utf8.encode (Json.obj u).write))]⟩

theorem read_shelf (u : List (Text × Json)) :
    (shelf u).read "settings.json".toText = .ok (Utf8.encode (Json.obj u).write) := rfl

/-- A range of symbols that starts with a second half of a surrogate pair and ends with a first
one. -/
def halves : List (Text × Json) :=
  [("first_symbol".toText, .str [.ofNat 0xdc00]), ("last_symbol".toText, .str [.ofNat 0xd800])]

/-- Values given for known settings replace the defaults at their places, others come behind. Of a
wrong kind and a wrong blank the kind is found first, and of two wrong kinds that of the setting
that comes first, wherever it is given. Halves of surrogate pairs are ordered like all characters.
The directory of the log files is made if they are wanted. -/
theorem loadFile_shelf :
    loadFile (shelf [("zone".toText, .int 1), ("prompt".toText, .str "> ".toText)])
        "settings.json".toText =
      (.ok ((default.insert (.str "prompt".toText) (.str "> ".toText)).insert
          (.str "zone".toText) (.int 1)),
        shelf [("zone".toText, .int 1), ("prompt".toText, .str "> ".toText)]) ∧
      loadFile (shelf [("log_runs".toText, .int 1), ("blank_symbol".toText, .str ['q']),
          ("last_symbol".toText, .null)]) "settings.json".toText =
        (.error (.check (.wrongKind .lastSymbol "NoneType".toText)),
          shelf [("log_runs".toText, .int 1), ("blank_symbol".toText, .str ['q']),
            ("last_symbol".toText, .null)]) ∧
      loadFile (shelf [("blank_symbol".toText, .str ['q'])]) "settings.json".toText =
        (.error (.check (.alphabet (.blankInside 'q' 'a' 'z'))),
          shelf [("blank_symbol".toText, .str ['q'])]) ∧
      loadFile (shelf halves) "settings.json".toText =
        (.error (.check (.alphabet (.emptyRange (.ofNat 0xdc00) (.ofNat 0xd800)))), shelf halves) ∧
      ∃ files', (shelf [("log_runs".toText, .bool true)]).makeDirectories "logs/".toText =
          (.ok (), files') ∧
        loadFile (shelf [("log_runs".toText, .bool true)]) "settings.json".toText =
          (.ok (default.insert (.str "log_runs".toText) (.bool true)), files') := by
  have hstores {u : List (Text × Json)} (hunpaired : (Json.obj u).joinHalves = .obj u)
      (hnames : (u.map fun m => m.1.joinHalves).Nodup)
      (hmembers : ∀ e ∈ u, Json.Survives (Json.maxDepth - 1) e.2) :
      Stores (shelf u) "settings.json".toText u :=
    stores_of_write (.obj hnames hmembers) hunpaired (read_shelf u)
  have hone : Json.Survives (Json.maxDepth - 1) (.int 1) := .int (by decide)
  obtain ⟨hprompt, -⟩ := loadFile_overlay (hstores (u := [("zone".toText, .int 1),
    ("prompt".toText, .str "> ".toText)]) rfl (by decide) (by simp [hone, Json.Survives.str]))
  obtain ⟨-, -, hkind, -⟩ := loadFile_overlay (hstores (u := [("log_runs".toText, .int 1),
    ("blank_symbol".toText, .str ['q']), ("last_symbol".toText, .null)]) rfl (by decide)
      (by simp [hone, Json.Survives.str, Json.Survives.null]))
  obtain ⟨-, hblank, -⟩ := loadFile_overlay (hstores (u := [("blank_symbol".toText, .str ['q'])])
    rfl (by decide) (by simp [Json.Survives.str]))
  obtain ⟨-, hrange, -⟩ := loadFile_overlay (hstores (u := halves) rfl (by decide)
    (by simp [halves, Json.Survives.str]))
  obtain ⟨hlog, -⟩ := loadFile_overlay (hstores (u := [("log_runs".toText, .bool true)])
    rfl (by decide) (by simp [Json.Survives.bool]))
  refine ⟨?_, ?_, ?_, ?_, ?_⟩
  · obtain ⟨-, -, hloaded, -⟩ := hprompt .standard (fun key => by cases key <;> rfl)
      ⟨rfl, rfl, rfl⟩
    exact hloaded rfl
  · refine hkind [.firstSymbol] .lastSymbol _ rfl (fun k hk => ?_) rfl
    rw [List.mem_singleton.mp hk]
    rfl
  · have hno (a : Alphabet) : ¬FormsAlphabet [("blank_symbol".toText, .str ['q'])] a := fun ha =>
      nomatch (alphabet_overlay_eq_ok_iff.mpr ha : Except.error _ = Except.ok a)
    obtain ⟨e, he, hloaded⟩ := hblank (fun key => by cases key <;> rfl) hno
    obtain rfl : .blankInside 'q' 'a' 'z' = e := Except.error.inj he
    exact hloaded
  · have hno (a : Alphabet) : ¬FormsAlphabet halves a := fun ha =>
      nomatch (alphabet_overlay_eq_ok_iff.mpr ha : Except.error _ = Except.ok a)
    obtain ⟨e, he, hloaded⟩ := hrange (fun key => by cases key <;> rfl) hno
    obtain rfl : .emptyRange (.ofNat 0xdc00) (.ofNat 0xd800) = e := Except.error.inj he
    exact hloaded
  · obtain ⟨-, -, -, hmade⟩ := hlog .standard (fun key => by cases key <;> rfl) ⟨rfl, rfl, rfl⟩
    exact ⟨_, rfl, (hmade "logs/".toText rfl rfl).1 _ rfl⟩

end Settings

end MultiTape
