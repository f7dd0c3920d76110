import MultiTape.Proofs.Json.Strings
import MultiTape.Proofs.Json.Writer
import Mathlib.Data.List.Nodup

/-!
# What is written can be read

Every value shows where it ends, provided that what comes behind a number could be no part of it. So
a value is read back from its text, with the halves in its strings put together, as long as it stays
within the limits of the reader on digits and depth. Floating-point numbers are left out: their
texts are the shortest that give them back, which is another matter.

## Main definitions

* `Json.Survives`: the values that hold no floating-point number and stay within the limits
* `Json.joinHalves`: a value with the halves in its strings put together

## Main results

* `Json.readValue_write`: a value is read from where its text starts up to where it ends
* `Json.read_write`: a text that holds a value, and perhaps space behind it, is read as the value
-/

namespace MultiTape

namespace Json

variable {c : CodePoint} {s t rest : Text} {n pos start fuel room : Nat}

/-! ### Numbers -/

/-- What may follow a number: nothing that could be a part of it. -/
def Closes (rest : Text) : Prop :=
  ∀ c ∈ rest.head?, isDigit c = false ∧ c ≠ '.' ∧ c ≠ 'e' ∧ c ≠ 'E'

theorem closes_cons (h : isDigit c = false ∧ c ≠ '.' ∧ c ≠ 'e' ∧ c ≠ 'E') :
    Closes (c :: rest) := by
  simpa [Closes] using h

theorem isDigit_of_mem_digits (hc : c ∈ Text.digits 10 n) : isDigit c = true := by
  have hdigits : ∀ d < 10, isDigit (.char d.digitChar) = true := by decide
  obtain ⟨d, hd, rfl⟩ := Text.exists_of_mem_digits (by decide) hc
  exact hdigits d hd

theorem exists_digits_eq_cons (n : Nat) :
    ∃ d ds, Text.digits 10 n = d :: ds ∧ isDigit d = true ∧ (d = '0' → ds = []) := by
  induction n using Nat.strong_induction_on with
  | _ n ih =>
    rw [Text.digits, Nat.toDigits_eq_if (by decide)]
    split
    · next h =>
      have hdigits : ∀ n < 10, isDigit (.char n.digitChar) = true := by decide
      exact ⟨_, [], rfl, hdigits n h, fun _ => rfl⟩
    · next h =>
      obtain ⟨d, ds, heq, hd, hzero⟩ := ih (n / 10) (by omega)
      refine ⟨d, ds ++ [.char (n % 10).digitChar], ?_, hd, ?_⟩
      · rw [List.map_append, ← Text.digits, heq]
        rfl
      rintro rfl
      -- a first digit zero would be the only one of `n / 10`, which is not zero
      rw [hzero rfl] at heq
      have : n / 10 = 0 := Text.digits_injective heq
      omega

theorem digitsValue_digits (n : Nat) : digitsValue (Text.digits 10 n) = n := by
  rw [Text.digits, digitsValue, List.foldl_map]
  exact Nat.ofDigitChars_ten_toDigits

theorem exists_decimal_eq_cons (n : Int) :
    ∃ c t, Text.decimal n = c :: t ∧ (isDigit c = true ∨ c = '-') := by
  cases n with
  | ofNat k =>
    obtain ⟨d, ds, heq, hd, -⟩ := exists_digits_eq_cons k
    exact ⟨d, ds, heq, .inl hd⟩
  | negSucc k => exact ⟨'-', _, rfl, .inr rfl⟩

theorem takeWhile_isDigit (hrest : Closes rest) (n : Nat) :
    (Text.digits 10 n ++ rest).takeWhile isDigit = Text.digits 10 n := by
  have hdigits : ∀ c ∈ Text.digits 10 n, isDigit c = true := fun c => isDigit_of_mem_digits
  rw [List.takeWhile_append_of_pos hdigits]
  cases rest with
  | nil => rw [List.takeWhile_nil, List.append_nil]
  | cons c rest =>
    have hc : isDigit c = false := (hrest c rfl).1
    rw [List.takeWhile_cons_of_neg (by simp [hc]), List.append_nil]

theorem wholeDigits_digits (hrest : Closes rest) (n : Nat) :
    wholeDigits (Text.digits 10 n ++ rest) = Text.digits 10 n := by
  obtain ⟨d, ds, heq, -, hzero⟩ := exists_digits_eq_cons n
  have htake := takeWhile_isDigit hrest n
  rw [heq, List.cons_append] at htake ⊢
  rcases eq_or_ne d '0' with rfl | hd
  · rw [hzero rfl, wholeDigits]
  · rwa [wholeDigits]
    simpa using hd

theorem Closes.fractionDigits_eq (h : Closes rest) : fractionDigits rest = [] := by
  rw [fractionDigits.eq_def]
  split
  · exact absurd rfl (h '.' rfl).2.1
  · rfl

theorem Closes.exponentPart_eq (h : Closes rest) : exponentPart rest = (0, 0) := by
  cases rest with
  | nil => rfl
  | cons c rest =>
    obtain ⟨-, -, he, hE⟩ := h c rfl
    simp [exponentPart, he, hE]

theorem readUnsigned_digits (hn : (Text.digits 10 n).length ≤ Numeral.maxDigits)
    (hrest : Closes rest) (negative : Bool) :
    readUnsigned negative (Text.digits 10 n ++ rest) =
      some (.ok (.int (if negative then -(n : Int) else n)), (Text.digits 10 n).length) := by
  have hne : (Text.digits 10 n).isEmpty = false := by
    obtain ⟨d, ds, heq, -⟩ := exists_digits_eq_cons n
    rw [heq, List.isEmpty_cons]
  simp [readUnsigned, wholeDigits_digits hrest, hne, hrest.fractionDigits_eq,
    hrest.exponentPart_eq, Nat.not_lt.mpr hn, digitsValue_digits]

theorem starts_eq_false {w d : CodePoint} (h : w ≠ d) (ws t : Text) :
    (w :: ws == (d :: t).take (w :: ws).length) = false := by
  simp [h]

theorem readScalar_decimal {n : Int} (hn : Numeral.isTooLong n = false) (hrest : Closes rest)
    (pos : Nat) :
    ∃ pos', readScalar ⟨Text.decimal n ++ rest, pos⟩ = .ok (.int n, ⟨rest, pos'⟩) := by
  have hne {w d : CodePoint} (hd : isDigit d = true) (hw : isDigit w = false) : w ≠ d := by
    rintro rfl
    exact absurd hd (by simp [hw])
  have hlength : (Text.digits 10 n.natAbs).length ≤ Numeral.maxDigits :=
    Nat.not_lt.mp (of_decide_eq_false hn)
  cases n with
  | ofNat k =>
    obtain ⟨d, ds, heq, hd, -⟩ := exists_digits_eq_cons k
    have hread := readUnsigned_digits (n := k) hlength hrest false
    rw [Text.decimal, readScalar]
    rw [heq, List.cons_append] at hread ⊢
    -- no word starts with a digit
    rw [if_neg, if_neg, if_neg, if_neg, if_neg, if_neg, if_neg]
    · simp only [List.drop_zero, hread]
      simp [Cursor.skip, Except.map]
    all_goals
      rw [Bool.not_eq_true]
      exact starts_eq_false (hne hd (by decide)) _ _
  | negSucc k =>
    obtain ⟨d, ds, heq, hd, -⟩ := exists_digits_eq_cons (k + 1)
    have hread := readUnsigned_digits (n := k + 1) hlength hrest true
    rw [Text.decimal, readScalar]
    rw [heq, List.cons_append] at hread ⊢
    rw [List.cons_append]
    rw [if_neg, if_neg, if_neg, if_neg, if_neg, if_neg, if_pos (by rfl)]
    · simp only [List.drop_succ_cons, List.drop_zero, hread]
      simp [Cursor.skip, Except.map, Int.negSucc_eq, Nat.add_comm 1]
    · -- behind the sign a word goes on with a letter
      have hI : CodePoint.char 'I' ≠ d := hne hd (by decide)
      simpa [String.toText] using fun h => absurd h hI
    all_goals
      rw [Bool.not_eq_true]
      exact starts_eq_false (by decide) _ _

/-! ### Values -/

/-- The values that survive being written and read, with `room` for containers in one another: they
hold no floating-point numbers, no integer of too many digits, and no name twice in an object, not
even when halves are put together. -/
inductive Survives : Nat → Json → Prop
  | null {room : Nat} : Survives room .null
  | bool {room : Nat} (b : Bool) : Survives room (.bool b)
  | int {room : Nat} {n : Int} (hn : Numeral.isTooLong n = false) : Survives room (.int n)
  | str {room : Nat} (t : Text) : Survives room (.str t)
  | arr {room : Nat} {items : List Json} (hitems : ∀ v ∈ items, Survives room v) :
    Survives (room + 1) (.arr items)
  | obj {room : Nat} {members : List (Text × Json)} 
    (hnames : (members.map fun m => m.1.joinHalves).Nodup)
    (hmembers : ∀ m ∈ members, Survives room m.2) : Survives (room + 1) (.obj members)

mutual

/-- A value with the halves in its strings put together. -/
def joinHalves : Json → Json
  | .null => .null
  | .bool b => .bool b
  | .int n => .int n
  | .float x => .float x
  | .str t => .str t.joinHalves
  | .arr items => .arr (joinHalvesItems items)
  | .obj members => .obj (joinHalvesMembers members)

/-- Items with the halves in their strings put together. -/
def joinHalvesItems : List Json → List Json
  | [] => []
  | item :: rest => joinHalves item :: joinHalvesItems rest

/-- Members with the halves in their names and strings put together. -/
def joinHalvesMembers : List (Text × Json) → List (Text × Json)
  | [] => []
  | (key, value) :: rest => (key.joinHalves, joinHalves value) :: joinHalvesMembers rest

end

/-- Where a value may start: neither space nor a closing bracket comes first. -/
def Opens (t : Text) : Prop := ∀ c ∈ t.head?, isSpace c = false ∧ c ≠ ']'

theorem opens_cons (h : isSpace c = false ∧ c ≠ ']') (t : Text) : Opens (c :: t) := by
  simpa [Opens] using h

theorem opens_of_isDigit (hc : isDigit c = true) (t : Text) : Opens (c :: t) := by
  have hother : ∀ d ∈ ([' ', '\t', '\n', '\r', ']'] : Text), isDigit d = false := by decide
  have hclass : ∀ d ∈ ([' ', '\t', '\n', '\r', ']'] : Text), c ≠ d := by
    rintro d hd rfl
    exact absurd hc (by simp [hother c hd])
  refine opens_cons ⟨?_, hclass ']' (by simp)⟩ t
  simp [isSpace, hclass]

theorem Opens.skipSpace_eq (h : Opens t) (pos : Nat) : Cursor.skipSpace ⟨t, pos⟩ = ⟨t, pos⟩ := by
  cases t with
  | nil => rfl
  | cons c t => simp [Cursor.skipSpace, (h c rfl).1]

theorem Opens.skipSpace_space (h : Opens t) (pos : Nat) :
    Cursor.skipSpace ⟨.char ' ' :: t, pos⟩ = ⟨t, pos + 1⟩ := by
  have hspace : isSpace ' ' = true := rfl
  cases t with
  | nil => rfl
  | cons c t => simp [Cursor.skipSpace, (h c rfl).1, hspace]

/-- What is written shows from its first character on that a value stands there. -/
theorem Survives.opens {v : Json} (hv : Survives room v) (t : Text) : Opens (v.write ++ t) := by
  cases hv with
  | null => exact opens_cons (by decide) _
  | bool b => cases b <;> exact opens_cons (by decide) _
  | @int _ n hn =>
    obtain ⟨c, u, heq, hc⟩ := exists_decimal_eq_cons n
    rw [write, heq]
    rcases hc with hc | rfl
    · exact opens_of_isDigit hc _
    · exact opens_cons (by decide) _
  | str t =>
    rw [write]
    exact opens_cons (by decide) _
  | arr hitems =>
    rw [write]
    exact opens_cons (by decide) _
  | obj hnames hmembers =>
    rw [write]
    exact opens_cons (by decide) _

theorem insertMember_of_notMem {key : Text} {value : Json} {members : List (Text × Json)}
    (h : key ∉ members.map Prod.fst) :
    insertMember key value members = members ++ [(key, value)] := by
  induction members with
  | nil => rfl
  | cons m members ih =>
    rw [List.map_cons, List.mem_cons, not_or] at h
    rw [insertMember, if_neg (Ne.symm h.1), ih h.2, List.cons_append]

/-- Among different names, none before a name is the same. -/
theorem notMem_of_nodup {key : Text} {keys keys' : List Text}
    (h : (keys ++ key :: keys').Nodup) : key ∉ keys := fun hkey =>
  (List.nodup_cons.mp (List.nodup_middle.mp h)).1 (List.mem_append_left _ hkey)

/-! One lemma for each way in which the reader goes on. -/

section Reader

variable {u : Text} {k : Nat} {cursor last : Cursor} {v : Json} {items : List Json}
  {members members' : List (Text × Json)}

theorem readValue_quote (fuel room pos : Nat) (t : Text) :
    readValue (fuel + 1) room ⟨.char '"' :: t, pos⟩ =
      (readString pos t).map fun (t, next) => (.str t, next) := rfl

theorem readValue_bracket (ht : Opens t) (fuel room pos : Nat) :
    readValue (fuel + 1) (room + 1) ⟨.char '[' :: t, pos⟩ =
      (readItems fuel room ⟨t, pos + 1⟩).map fun (items, next) => (.arr items, next) := by
  have hinner : (Cursor.skip ⟨.char '[' :: t, pos⟩ 1).skipSpace = ⟨t, pos + 1⟩ :=
    ht.skipSpace_eq (pos + 1)
  simp only [readValue, hinner, Nat.add_one_ne_zero, if_false, Nat.add_sub_cancel]
  split
  · exact absurd rfl (ht ']' rfl).2
  · rfl

theorem readValue_brace (fuel room pos : Nat) (t : Text) :
    readValue (fuel + 1) (room + 1) ⟨CodePoint.ofNat 0x7b :: .char '"' :: t, pos⟩ =
      (readMembers fuel room [] ⟨.char '"' :: t, pos + 1⟩).map fun (members, next) =>
        (.obj members, next) := rfl

theorem readValue_scalar (hc : isDigit c = true ∨ c = '-') (fuel room pos : Nat) (t : Text) :
    readValue (fuel + 1) room ⟨c :: t, pos⟩ = readScalar ⟨c :: t, pos⟩ := by
  have hne {d : CodePoint} (hd : isDigit d = false) (hd' : d ≠ '-') : c ≠ d := by
    rintro rfl
    rcases hc with hc | hc
    · exact absurd hc (by simp [hd])
    · exact hd' hc
  rw [readValue]
  split
  · next heq => exact absurd (List.cons.inj heq).1 (hne (by decide) (by decide))
  · next heq => exact absurd (List.cons.inj heq).1 (hne (by decide) (by decide))
  · next heq =>
    obtain ⟨rfl, -⟩ := List.cons.inj heq
    rw [if_neg (by simpa using hne (by decide) (by decide))]
  · next heq => exact nomatch heq

theorem readItems_last (h : readValue fuel room cursor = .ok (v, ⟨.char ']' :: rest, pos⟩)) :
    readItems (fuel + 1) room cursor = .ok ([v], ⟨rest, pos + 1⟩) := by
  rw [readItems, h]
  rfl

theorem readItems_more
    (h : readValue fuel room cursor = .ok (v, ⟨.char ',' :: .char ' ' :: t, pos⟩))
    (ht : Opens t) (hrest : readItems fuel room ⟨t, pos + 2⟩ = .ok (items, last)) :
    readItems (fuel + 1) room cursor = .ok (v :: items, last) := by
  have hnext : (Cursor.skip ⟨.char ',' :: .char ' ' :: t, pos⟩ 1).skipSpace = ⟨t, pos + 2⟩ :=
    ht.skipSpace_space (pos + 1)
  rw [readItems, h]
  change (readItems fuel room
    (Cursor.skip ⟨.char ',' :: .char ' ' :: t, pos⟩ 1).skipSpace >>= _) = _
  rw [hnext, hrest]
  rfl

variable (hname : readString start t = .ok (s, ⟨.char ':' :: .char ' ' :: u, pos⟩)) (hu : Opens u)
include hname hu

theorem readMembers_last
    (hvalue : readValue fuel room ⟨u, pos + 2⟩ = .ok (v, ⟨CodePoint.ofNat 0x7d :: rest, k⟩)) :
    readMembers (fuel + 1) room members ⟨.char '"' :: t, start⟩ =
      .ok (insertMember s v members, ⟨rest, k + 1⟩) := by
  have hnext : (Cursor.skip ⟨.char ':' :: .char ' ' :: u, pos⟩ 1).skipSpace = ⟨u, pos + 2⟩ :=
    hu.skipSpace_space (pos + 1)
  rw [readMembers]
  change (readString start t >>= _) = _
  rw [hname]
  change (readValue fuel room
    (Cursor.skip ⟨.char ':' :: .char ' ' :: u, pos⟩ 1).skipSpace >>= _) = _
  rw [hnext, hvalue]
  rfl

theorem readMembers_more
    (hvalue : readValue fuel room ⟨u, pos + 2⟩ =
      .ok (v, ⟨.char ',' :: .char ' ' :: .char '"' :: rest, k⟩))
    (hrest : readMembers fuel room (insertMember s v members) ⟨.char '"' :: rest, k + 2⟩ =
      .ok (members', last)) :
    readMembers (fuel + 1) room members ⟨.char '"' :: t, start⟩ = .ok (members', last) := by
  have hnext : (Cursor.skip ⟨.char ':' :: .char ' ' :: u, pos⟩ 1).skipSpace = ⟨u, pos + 2⟩ :=
    hu.skipSpace_space (pos + 1)
  rw [readMembers]
  change (readString start t >>= _) = _
  rw [hname]
  change (readValue fuel room
    (Cursor.skip ⟨.char ':' :: .char ' ' :: u, pos⟩ 1).skipSpace >>= _) = _
  rw [hnext, hvalue]
  exact hrest

end Reader

/-- The texts of parts, joined as inside brackets. -/
def joined (ts : List Text) : Text := List.intercalate ", ".toText ts

theorem joined_singleton (t : Text) : joined [t] = t := List.intercalate_singleton

theorem joined_cons_cons (t t' : Text) (ts : List Text) :
    joined (t :: t' :: ts) = t ++ .char ',' :: .char ' ' :: joined (t' :: ts) := by
  rw [joined, List.intercalate_cons_cons, List.append_assoc]
  rfl

theorem exists_joined_append_eq (t : Text) (ts : List Text) (rest : Text) :
    ∃ rest', joined (t :: ts) ++ rest = t ++ rest' := by
  cases ts with
  | nil => exact ⟨rest, by rw [joined_singleton]⟩
  | cons t' ts => exact ⟨_, by rw [joined_cons_cons, List.append_assoc]⟩

theorem opens_joined {item : Json} (hitem : Survives room item) (items : List Json)
    (rest : Text) : Opens (joined (writeItems (item :: items)) ++ rest) := by
  obtain ⟨rest', heq⟩ := exists_joined_append_eq item.write (writeItems items) rest
  rw [writeItems, heq]
  exact hitem.opens rest'

/-- A member of an object as it is written. -/
theorem writeMember_append (key : Text) (value : Json) (rest : Text) :
    writeString key ++ ": ".toText ++ value.write ++ rest =
      .char '"' :: (key.flatMap writeChar ++
        .char '"' :: .char ':' :: .char ' ' :: (value.write ++ rest)) := by
  simp only [writeString, List.append_assoc, List.cons_append, List.nil_append]
  rfl

theorem exists_joined_eq_quote (m : Text × Json) (members : List (Text × Json)) (rest : Text) :
    ∃ rest', joined (writeMembers (m :: members)) ++ rest = .char '"' :: rest' := by
  obtain ⟨rest', heq⟩ := exists_joined_append_eq (writeString m.1 ++ ": ".toText ++ m.2.write)
    (writeMembers members) rest
  exact ⟨_, by rw [writeMembers, heq, writeMember_append]⟩

mutual

/-- A value is read from where its text starts, and reading stops where it ends. -/
theorem readValue_write : ∀ (v : Json) {room fuel : Nat}, Survives room v → v.write.length < fuel →
    ∀ {rest : Text}, Closes rest → ∀ pos,
      ∃ pos', readValue fuel room ⟨v.write ++ rest, pos⟩ = .ok (v.joinHalves, ⟨rest, pos'⟩)
  | _, _, 0, _, hfuel, _, _, _ => absurd hfuel (Nat.not_lt_zero _)
  | .null, _, _ + 1, _, _, _, _, pos => ⟨pos + 4, rfl⟩
  | .bool true, _, _ + 1, _, _, _, _, pos => ⟨pos + 4, rfl⟩
  | .bool false, _, _ + 1, _, _, _, _, pos => ⟨pos + 5, rfl⟩
  | .int n, _, _ + 1, .int hn, _, _, hrest, pos => by
    obtain ⟨pos', hread⟩ := readScalar_decimal hn hrest pos
    obtain ⟨c, t, heq, hc⟩ := exists_decimal_eq_cons n
    refine ⟨pos', ?_⟩
    rw [heq, List.cons_append] at hread
    rw [write, heq, List.cons_append, readValue_scalar hc, hread, joinHalves]
  | .str t, _, _ + 1, _, _, rest, _, pos => by
    obtain ⟨pos', hread⟩ := readString_writeString t rest pos
    refine ⟨pos', ?_⟩
    rw [write, writeString, List.append_assoc, List.cons_append, List.singleton_append,
      readValue_quote, hread]
    rfl
  | .arr [], _, _ + 1, .arr _, _, _, _, pos => ⟨pos + 2, rfl⟩
  | .arr (item :: items), _, fuel + 1, .arr hitems, hfuel, rest, _, pos => by
    have hlength : (joined (writeItems (item :: items))).length + 1 < fuel := by
      rw [write, List.length_append, List.length_cons, List.length_singleton] at hfuel
      exact Nat.lt_of_succ_lt_succ hfuel
    obtain ⟨pos', hread⟩ := readItems_write item items hitems hlength rest (pos + 1)
    refine ⟨pos', ?_⟩
    have htext : (Json.arr (item :: items)).write ++ rest =
        .char '[' :: (joined (writeItems (item :: items)) ++ .char ']' :: rest) := by
      rw [write, List.append_assoc]
      rfl
    rw [htext, readValue_bracket (opens_joined (hitems item (by simp)) items _), hread]
    rfl
  | .obj [], _, _ + 1, .obj _ _, _, _, _, pos => ⟨pos + 2, rfl⟩
  | .obj ((key, value) :: members), _, fuel + 1, .obj hnames hmembers, hfuel, rest, _, pos => by
    have hlength : (joined (writeMembers ((key, value) :: members))).length + 1 < fuel := by
      rw [write, List.length_append, List.length_cons, List.length_singleton] at hfuel
      exact Nat.lt_of_succ_lt_succ hfuel
    obtain ⟨pos', hread⟩ :=
      readMembers_write key value members [] hmembers hnames hlength rest (pos + 1)
    refine ⟨pos', ?_⟩
    have htext : (Json.obj ((key, value) :: members)).write ++ rest = CodePoint.ofNat 0x7b ::
        (joined (writeMembers ((key, value) :: members)) ++ CodePoint.ofNat 0x7d :: rest) := by
      rw [write, List.append_assoc]
      rfl
    obtain ⟨rest', heq⟩ :=
      exists_joined_eq_quote (key, value) members (CodePoint.ofNat 0x7d :: rest)
    rw [heq] at hread
    rw [htext, heq, readValue_brace, hread]
    rfl
  termination_by structural _ _ fuel => fuel

/-- The items of a list are read up to its closing bracket. -/
theorem readItems_write : ∀ (item : Json) (items : List Json) {room fuel : Nat},
    (∀ v ∈ item :: items, Survives room v) →
    (joined (writeItems (item :: items))).length + 1 < fuel →
    ∀ (rest : Text) (pos : Nat), ∃ pos', readItems fuel room
      ⟨joined (writeItems (item :: items)) ++ .char ']' :: rest, pos⟩ =
        .ok (joinHalvesItems (item :: items), ⟨rest, pos'⟩)
  | _, _, _, 0, _, hfuel, _, _ => absurd hfuel (Nat.not_lt_zero _)
  | item, [], _, fuel + 1, hitems, hfuel, rest, pos => by
    simp only [writeItems, joined_singleton] at hfuel ⊢
    obtain ⟨pos', hitem⟩ := readValue_write item (hitems item (by simp))
      (Nat.lt_of_succ_lt_succ hfuel) (closes_cons (by decide) : Closes (.char ']' :: rest)) pos
    exact ⟨pos' + 1, readItems_last hitem⟩
  | item, next :: items, _, fuel + 1, hitems, hfuel, rest, pos => by
    rw [List.forall_mem_cons] at hitems
    rw [writeItems, writeItems, joined_cons_cons, List.length_append, List.length_cons,
      List.length_cons, ← writeItems] at hfuel
    have hitemLength : item.write.length < fuel := by omega
    have hnextLength : (joined (writeItems (next :: items))).length + 1 < fuel := by omega
    have hopens := opens_joined (hitems.2 next (by simp)) items (.char ']' :: rest)
    obtain ⟨pos₁, hitem⟩ := readValue_write item hitems.1 hitemLength
      (closes_cons (by decide) :
        Closes (.char ',' :: .char ' ' ::
          (joined (writeItems (next :: items)) ++ .char ']' :: rest))) pos
    obtain ⟨pos₂, hnext⟩ :=
      readItems_write next items hitems.2 hnextLength rest (pos₁ + 2)
    refine ⟨pos₂, ?_⟩
    rw [writeItems, writeItems, joined_cons_cons, ← writeItems, List.append_assoc]
    exact readItems_more hitem hopens hnext
  termination_by structural _ _ _ fuel => fuel

/-- The members of an object are read up to its closing brace, and put behind those before. In the
names of these, halves have been put together already. -/
theorem readMembers_write : ∀ (key : Text) (value : Json) (members before : List (Text × Json))
    {room fuel : Nat}, (∀ m ∈ (key, value) :: members, Survives room m.2) →
    (before.map Prod.fst ++ ((key, value) :: members).map fun m => m.1.joinHalves).Nodup →
    (joined (writeMembers ((key, value) :: members))).length + 1 < fuel →
    ∀ (rest : Text) (pos : Nat), ∃ pos', readMembers fuel room before
      ⟨joined (writeMembers ((key, value) :: members)) ++ CodePoint.ofNat 0x7d :: rest, pos⟩ =
        .ok (before ++ joinHalvesMembers ((key, value) :: members), ⟨rest, pos'⟩)
  | _, _, _, _, _, 0, _, _, hfuel, _, _ => absurd hfuel (Nat.not_lt_zero _)
  | key, value, [], before, _, fuel + 1, hmembers, hnames, hfuel, rest, pos => by
    simp only [writeMembers, joined_singleton, List.length_append] at hfuel ⊢
    have hvalue : Survives _ value := hmembers (key, value) (by simp)
    have hkey : key.joinHalves ∉ before.map Prod.fst := notMem_of_nodup hnames
    obtain ⟨pos₁, hname⟩ := readString_writeString key
      (.char ':' :: .char ' ' :: (value.write ++ CodePoint.ofNat 0x7d :: rest)) pos
    have hlength : value.write.length < fuel := by omega
    obtain ⟨pos₂, hread⟩ := readValue_write value hvalue hlength
      (closes_cons (by decide) : Closes (CodePoint.ofNat 0x7d :: rest)) (pos₁ + 2)
    refine ⟨pos₂ + 1, ?_⟩
    rw [writeMember_append, joinHalvesMembers, joinHalvesMembers, ← insertMember_of_notMem hkey]
    exact readMembers_last hname (hvalue.opens _) hread
  | key, value, (key', value') :: members, before, _, fuel + 1, hmembers, hnames, hfuel, rest,
      pos => by
    rw [List.forall_mem_cons] at hmembers
    obtain ⟨hvalue, hmembers⟩ := hmembers
    rw [writeMembers, writeMembers, joined_cons_cons, ← writeMembers] at hfuel ⊢
    simp only [List.length_append, List.length_cons] at hfuel
    have hvalueLength : value.write.length < fuel := by omega
    have hrestLength : (joined (writeMembers ((key', value') :: members))).length + 1 < fuel := by
      omega
    have hkey : key.joinHalves ∉ before.map Prod.fst := notMem_of_nodup hnames
    obtain ⟨t, ht⟩ := exists_joined_eq_quote (key', value') members (CodePoint.ofNat 0x7d :: rest)
    obtain ⟨pos₁, hname⟩ := readString_writeString key
      (.char ':' :: .char ' ' :: (value.write ++ .char ',' :: .char ' ' :: .char '"' :: t)) pos
    obtain ⟨pos₂, hread⟩ := readValue_write value hvalue hvalueLength
      (closes_cons (by decide) : Closes (.char ',' :: .char ' ' :: .char '"' :: t)) (pos₁ + 2)
    have hnames' : ((before ++ [(key.joinHalves, value.joinHalves)]).map Prod.fst ++
        ((key', value') :: members).map fun m => m.1.joinHalves).Nodup := by
      rwa [List.map_append, List.append_assoc]
    obtain ⟨pos₃, hrest⟩ := readMembers_write key' value' members
      (before ++ [(key.joinHalves, value.joinHalves)])
      hmembers hnames' hrestLength rest (pos₂ + 2)
    refine ⟨pos₃, ?_⟩
    rw [ht, List.append_assoc, List.singleton_append, ← insertMember_of_notMem hkey] at hrest
    rw [List.append_assoc, List.cons_append, List.cons_append, ht, writeMember_append]
    exact readMembers_more hname (hvalue.opens _) hread hrest
  termination_by structural _ _ _ _ _ fuel => fuel

end

/-! ### Whole texts -/

theorem closes_of_isSpace (hrest : ∀ c ∈ rest, isSpace c = true) : Closes rest := by
  intro c hc
  have hspace := hrest c (List.mem_of_mem_head? hc)
  simp only [isSpace, Bool.or_eq_true, beq_iff_eq] at hspace
  rcases hspace with ((rfl | rfl) | rfl) | rfl <;> decide

/-- **A value is read back from its text** with its halves put together, with or without space
behind it. -/
theorem read_write {v : Json} (hv : Survives maxDepth v) (hrest : ∀ c ∈ rest, isSpace c = true) :
    read (v.write ++ rest) = .ok v.joinHalves := by
  have hlength : v.write.length < 2 * (v.write ++ rest).length + 2 := by
    rw [List.length_append]
    omega
  obtain ⟨pos, hvalue⟩ := readValue_write v hv hlength (closes_of_isSpace hrest) 0
  have hend : (Cursor.skipSpace ⟨rest, pos⟩).rest = [] := List.dropWhile_eq_nil_iff.mpr hrest
  have hbody : readText.body (v.write ++ rest) = .ok v.joinHalves := by
    rw [readText.body, (hv.opens rest).skipSpace_eq, hvalue]
    change (if (Cursor.skipSpace ⟨rest, pos⟩).rest.isEmpty then Except.ok v.joinHalves else _) = _
    rw [hend]
    rfl
  have hmark : ∀ c ∈ v.write ++ rest, c.toNat ≠ 0xfeff := by
    intro c hc
    rcases List.mem_append.mp hc with hc | hc
    · have := (isAscii_write v c hc).2
      omega
    · rintro hmark
      have hspace := hrest c hc
      rw [← CodePoint.ofNat_toNat c, hmark] at hspace
      exact absurd hspace (by decide)
  rw [read, readText.eq_def]
  split
  · next c t heq =>
    rw [if_neg (hmark c (by simp [heq])), hbody]
    rfl
  · rw [hbody]
    rfl

end Json

end MultiTape
