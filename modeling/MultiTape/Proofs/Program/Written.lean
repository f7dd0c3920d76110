import MultiTape.Proofs.Program.Loaded

/-!
# Writing programs

The format of program text from its other side: a header and a list of rules are written down line
by line, and loading the text gives back the machine that they describe, state by state and with the
rules in the order in which they were written.

A rule is written with the numerals of its moves, since a move to the right may be spelled in two
ways. Everything else has one spelling. The positions of the tokens are not mentioned here: that the
tokens written for a rule are the ones that the reader takes for its fields is what the grammar of
program text says, whatever characters the symbols are.

## Main definitions

* `Program.MoveNumeral`: the spellings of a head move
* `Program.write`: the text of a header and rules
* `Program.Writable`: what is required of them
* `Program.Realizes`: a machine has the states and transitions described
* `Program.Commented`: lines with comments put in between

## Main results

* `Program.spells_tokens`: what is written spells the header and the transitions
* `Program.load_write`: what is written can be loaded, comments or not
-/

namespace MultiTape

namespace Rule

variable {μ ν : Type}

/-- The same rule with its moves put in another form. -/
def map (f : μ → ν) (r : Rule μ) : Rule ν :=
  ⟨r.source, r.input, r.reads, r.target, f r.inputMove, r.writes, r.moves.map f⟩

@[simp] theorem guard_map (f : μ → ν) (r : Rule μ) : (r.map f).guard = r.guard := rfl

end Rule

namespace Program

variable {a : Alphabet} {h : Header} {width : Nat} {numStates : Int} {lines : List (List Text)}
  {ls ls' : List Text}

/-! ### The written form -/

/-- The spellings of a head move. -/
inductive MoveNumeral where
  /-- A move to the left, `-1`. -/
  | minusOne
  /-- No move, `0`. -/
  | zero
  /-- A move to the right, `1`. -/
  | one
  /-- A move to the right, `+1`. -/
  | plusOne
  deriving DecidableEq, Repr

namespace MoveNumeral

/-- The spelling. -/
def text : MoveNumeral → Text
  | .minusOne => "-1".toText
  | .zero => "0".toText
  | .one => "1".toText
  | .plusOne => "+1".toText

/-- The move that is spelled. -/
def move : MoveNumeral → Move
  | .minusOne => .left
  | .zero => .stay
  | .one | .plusOne => .right

theorem read_text (m : MoveNumeral) : Move.read m.text = .ok m.move := by
  cases m <;> decide

theorem isWord_text (m : MoveNumeral) : Text.IsWord m.text := by
  cases m <;> decide

end MoveNumeral

/-- The tokens of a transition line: the source, the input symbol, the symbols read, the target, the
input move, and each symbol written with the move after it. -/
def ruleTokens (r : Rule MoveNumeral) : List Text :=
  Text.decimal r.source :: r.input :: r.reads ++ Text.decimal r.target :: r.inputMove.text ::
    (r.writes.zip (r.moves.map MoveNumeral.text)).flatMap fun e => [e.1, e.2]

/-- The tokens of the header, line by line. -/
def headerTokens (h : Header) : List (List Text) :=
  [[Text.decimal h.numStates], [Text.decimal h.numTapes], [Text.decimal h.start],
    h.halting.map Text.decimal, h.accepting.map Text.decimal]

/-- The text of a program: the five lines of the header and a line for each rule, with a space
between two tokens and every line ended. -/
def write (h : Header) (rules : List (Rule MoveNumeral)) : Text :=
  Text.unlines ((headerTokens h ++ rules.map ruleTokens).map Text.unwords)

/-! ### What can be written -/

/-- A header that makes sense: its numbers are not too long for numerals, its states are states, and
those that accept also halt. -/
structure Header.Valid (h : Header) : Prop where
  /-- The number of states has no more digits than a numeral may have. -/
  numStates_lt : h.numStates < 10 ^ Numeral.maxDigits
  /-- Nor has the number of tapes. -/
  numTapes_lt : h.numTapes < 10 ^ Numeral.maxDigits
  /-- The start state is one of the states. -/
  start : 0 ≤ h.start ∧ h.start < h.numStates
  /-- So are the halting states. -/
  halting : ∀ id ∈ h.halting, 0 ≤ id ∧ id < h.numStates
  /-- The accepting states are among them. -/
  accepting : h.accepting ⊆ h.halting

/-- A rule for `width` work tapes and `numStates` states whose symbols can be told apart from the
gaps around them. -/
structure RuleValid (a : Alphabet) (width : Nat) (numStates : Int) (r : Rule MoveNumeral) :
    Prop where
  /-- The source is one of the states. -/
  source : 0 ≤ r.source ∧ r.source < numStates
  /-- So is the target. -/
  target : 0 ≤ r.target ∧ r.target < numStates
  /-- A symbol is read from every work tape. -/
  length_reads : r.reads.length = width
  /-- A symbol is written on every work tape. -/
  length_writes : r.writes.length = width
  /-- Every work tape is moved. -/
  length_moves : r.moves.length = width
  /-- The symbols are of the alphabet and not blank characters. -/
  symbol : ∀ s ∈ r.input :: r.reads ++ r.writes, a.isSymbol s = true ∧ Text.IsWord s

/-- A header and rules that can be written: both make sense, and no two rules wait for the same. -/
structure Writable (a : Alphabet) (h : Header) (rules : List (Rule MoveNumeral)) : Prop where
  /-- The header makes sense. -/
  header : h.Valid
  /-- So do the rules. -/
  rule : ∀ r ∈ rules, RuleValid a (h.numTapes + 1) h.numStates r
  /-- The guards are distinct. -/
  nodup : (rules.map Rule.guard).Nodup

/-! ### Tokens in lines -/

/-- Tokens that make up a line of program text which is no comment. -/
structure IsCode (tokens : List Text) : Prop where
  /-- They are words. -/
  isWord : ∀ token ∈ tokens, Text.IsWord token
  /-- The line does not start as a comment does. -/
  head_ne : tokens.head?.bind List.head? ≠ some (.char '#')

theorem IsCode.isLine {tokens : List Text} (h : IsCode tokens) :
    Text.IsLine (Text.unwords tokens) :=
  Text.isLine_intercalate (by decide) fun token htoken =>
    Text.isLine_of_isBlank_eq_false (h.isWord token htoken).2

/-- **Lines that are written are cut into the same tokens again.** -/
theorem tokenLines_map_unwords (hlines : ∀ tokens ∈ lines, IsCode tokens) :
    tokenLines (lines.map Text.unwords) = lines := by
  induction lines with
  | nil => rfl
  | cons tokens lines ih =>
    rw [List.forall_mem_cons] at hlines
    have hwords : Text.words (Text.unwords tokens) = tokens := Text.words_unwords hlines.1.isWord
    have hcode : isComment (Text.unwords tokens) = false := by
      rw [isComment_eq, hwords, beq_eq_false_iff_ne]
      exact hlines.1.head_ne
    rw [List.map_cons, tokenLines_cons hcode, hwords, ih hlines.2]

theorem exists_natCast_eq {id : Int} (hid : 0 ≤ id ∧ id < numStates) :
    ∃ n : Nat, id = n ∧ (n : Int) < numStates := by
  obtain ⟨n, rfl⟩ := Int.eq_ofNat_of_zero_le hid.1
  exact ⟨n, rfl, hid.2⟩

theorem isWord_decimal (n : Nat) : Text.IsWord (Text.decimal (n : Int)) :=
  ⟨Numeral.decimal_ne_nil n, fun _ hc =>
    (Numeral.isDigit_of_mem_decimal hc).isDigitOrBar.isBlank⟩

theorem head?_decimal_ne (n : Nat) : (Text.decimal (n : Int)).head? ≠ some (.char '#') := fun h =>
  absurd (Numeral.isDigit_of_mem_decimal (List.mem_of_mem_head? h)) (by decide)

/-- A line that starts with a number is no comment. -/
theorem isCode_cons {n : Nat} {tokens : List Text}
    (htokens : ∀ token ∈ tokens, Text.IsWord token) :
    IsCode (Text.decimal (n : Int) :: tokens) where
  isWord := by
    rw [List.forall_mem_cons]
    exact ⟨isWord_decimal n, htokens⟩
  head_ne := head?_decimal_ne n

theorem isCode_map_decimal {ids : List Int} (hids : ∀ id ∈ ids, 0 ≤ id ∧ id < numStates) :
    IsCode (ids.map Text.decimal) := by
  have hword : ∀ token ∈ ids.map Text.decimal, Text.IsWord token := by
    intro token htoken
    obtain ⟨id, hid, rfl⟩ := List.mem_map.mp htoken
    obtain ⟨n, rfl, -⟩ := exists_natCast_eq (hids id hid)
    exact isWord_decimal n
  cases ids with
  | nil => exact ⟨hword, by simp⟩
  | cons id ids =>
    obtain ⟨n, rfl, -⟩ := exists_natCast_eq (hids id List.mem_cons_self)
    exact isCode_cons fun token htoken => hword token (List.mem_cons_of_mem _ htoken)

theorem RuleValid.isCode {r : Rule MoveNumeral} (hr : RuleValid a width numStates r) :
    IsCode (ruleTokens r) := by
  obtain ⟨source, hsource, -⟩ := exists_natCast_eq hr.source
  obtain ⟨target, htarget, -⟩ := exists_natCast_eq hr.target
  have hsymbol : ∀ s ∈ r.input :: r.reads ++ r.writes, Text.IsWord s := fun s hs =>
    (hr.symbol s hs).2
  rw [ruleTokens, hsource, htarget]
  refine isCode_cons fun token htoken => ?_
  rcases List.mem_append.mp htoken with hread | htoken
  · exact hsymbol token (List.mem_append_left _ hread)
  · rcases List.mem_cons.mp htoken with rfl | htoken
    · exact isWord_decimal target
    · rcases List.mem_cons.mp htoken with rfl | htoken
      · exact r.inputMove.isWord_text
      · exact forall_mem_flatMap_zip (fun s hs => hsymbol s (List.mem_append_right _ hs))
          (fun d _ => d.isWord_text) token htoken

theorem Writable.isCode {rules : List (Rule MoveNumeral)} (hw : Writable a h rules) :
    ∀ tokens ∈ headerTokens h ++ rules.map ruleTokens, IsCode tokens := by
  intro tokens htokens
  have hnumber : ∀ n : Nat, IsCode [Text.decimal (n : Int)] := fun n => isCode_cons (by simp)
  rcases List.mem_append.mp htokens with htokens | htokens
  · obtain ⟨start, hstart, -⟩ := exists_natCast_eq hw.header.start
    have hhalting := hw.header.halting
    have haccepting : ∀ id ∈ h.accepting, 0 ≤ id ∧ id < (h.numStates : Int) := fun id hid =>
      hhalting id (hw.header.accepting hid)
    rw [headerTokens, hstart] at htokens
    simp only [List.mem_cons, List.not_mem_nil, or_false] at htokens
    rcases htokens with rfl | rfl | rfl | rfl | rfl
    · exact hnumber _
    · exact hnumber _
    · exact hnumber _
    · exact isCode_map_decimal hhalting
    · exact isCode_map_decimal haccepting
  · obtain ⟨r, hr, rfl⟩ := List.mem_map.mp htokens
    exact (hw.rule r hr).isCode

/-! ### What the tokens spell -/

theorem spellsState_decimal {n : Nat} (hn : n < 10 ^ Numeral.maxDigits) {id : Int}
    (hid : 0 ≤ id ∧ id < (n : Int)) : SpellsState n (Text.decimal id) id := by
  obtain ⟨k, rfl, hk⟩ := exists_natCast_eq hid
  exact ⟨Numeral.read_decimal (Nat.lt_trans (Int.ofNat_lt.mp hk) hn), hid⟩

theorem Header.Valid.spellsHeader (hh : h.Valid) : SpellsHeader (headerTokens h) h := by
  have hids : ∀ ids : List Int, (∀ id ∈ ids, 0 ≤ id ∧ id < (h.numStates : Int)) →
      List.Forall₂ (SpellsState h.numStates) (ids.map Text.decimal) ids := by
    intro ids hids
    rw [List.forall₂_map_left_iff, List.forall₂_same]
    exact fun id hid => spellsState_decimal hh.numStates_lt (hids id hid)
  refine .intro (Numeral.read_decimal hh.numStates_lt) (Numeral.read_decimal hh.numTapes_lt)
    (spellsState_decimal hh.numStates_lt hh.start) (hids _ hh.halting) (hids _ fun id hid => ?_)
    hh.accepting
  exact hh.halting id (hh.accepting hid)

theorem RuleValid.spellsTransition {n : Nat} {r : Rule MoveNumeral} (hr : RuleValid a width n r)
    (hn : n < 10 ^ Numeral.maxDigits) :
    SpellsTransition a width n (ruleTokens r) (r.map MoveNumeral.move) := by
  have hlength : r.writes.length = (r.moves.map MoveNumeral.text).length := by
    rw [List.length_map, hr.length_writes, hr.length_moves]
  have hmoves : List.Forall₂ (fun token m => Move.read token = .ok m)
      (r.moves.map MoveNumeral.text) (r.moves.map MoveNumeral.move) := by
    rw [List.forall₂_map_left_iff, List.forall₂_map_right_iff, List.forall₂_same]
    exact fun m _ => m.read_text
  have hsymbol : ∀ s ∈ r.input :: r.reads ++ r.writes, a.isSymbol s = true := fun s hs =>
    (hr.symbol s hs).1
  refine .intro (t := r.map MoveNumeral.move) (spellsState_decimal hn hr.source)
    (hsymbol _ List.mem_cons_self) (fun s hs => hsymbol s ?_) hr.length_reads
    (spellsState_decimal hn hr.target) r.inputMove.read_text ?_ ?_
    (fun s hs => hsymbol s (List.mem_append_right _ hs)) ?_
  · exact List.mem_append_left _ (List.mem_cons_of_mem _ hs)
  · rw [List.length_zip, ← hlength, Nat.min_self, hr.length_writes]
  · exact List.map_fst_zip hlength.le
  · rw [List.map_snd_zip hlength.ge]
    exact hmoves

/-- **What is written spells the header and the transitions.** -/
theorem spells_tokens {rules : List (Rule MoveNumeral)} (hw : Writable a h rules) :
    Spells a (headerTokens h ++ rules.map ruleTokens) h
      (rules.map (Rule.map MoveNumeral.move)) := by
  have hfilter : (rules.map ruleTokens).filter (· != []) = rules.map ruleTokens := by
    refine List.filter_eq_self.mpr fun tokens htokens => ?_
    obtain ⟨r, -, rfl⟩ := List.mem_map.mp htokens
    simp [ruleTokens]
  refine .intro hw.header.spellsHeader ?_ ?_
  · rw [hfilter, List.forall₂_map_left_iff, List.forall₂_map_right_iff, List.forall₂_same]
    exact fun r hr => (hw.rule r hr).spellsTransition hw.header.numStates_lt
  · rw [List.map_map]
    exact hw.nodup

/-! ### Comments -/

/-- Lines with comments put in anywhere. -/
inductive Commented : List Text → List Text → Prop where
  /-- No lines, no comments. -/
  | nil : Commented [] []
  /-- A line is kept. -/
  | line {l : Text} {ls ls' : List Text} (h : Commented ls ls') : Commented (l :: ls) (l :: ls')
  /-- A comment is put in. -/
  | comment {gap remark : Text} {ls ls' : List Text} (hgap : Text.IsGap gap)
      (hl : Text.IsLine (gap ++ .char '#' :: remark)) (h : Commented ls ls') :
      Commented ls ((gap ++ .char '#' :: remark) :: ls')

theorem Commented.refl (ls : List Text) : Commented ls ls := by
  induction ls with
  | nil => exact .nil
  | cons l ls ih => exact .line ih

theorem Commented.isLine (h : Commented ls ls') (hls : ∀ l ∈ ls, Text.IsLine l) :
    ∀ l ∈ ls', Text.IsLine l := by
  induction h with
  | nil => exact hls
  | line _ ih =>
    rw [List.forall_mem_cons] at hls ⊢
    exact ⟨hls.1, ih hls.2⟩
  | comment _ hl _ ih =>
    rw [List.forall_mem_cons]
    exact ⟨hl, ih hls⟩

/-- Comments have no tokens. -/
theorem Commented.tokenLines_eq (h : Commented ls ls') : tokenLines ls' = tokenLines ls := by
  induction h with
  | nil => rfl
  | @line l _ _ _ ih =>
    cases hl : isComment l with
    | false => rw [tokenLines_cons hl, tokenLines_cons hl, ih]
    | true => rw [tokenLines_cons_of_isComment hl, tokenLines_cons_of_isComment hl, ih]
  | comment hgap _ _ ih =>
    rw [tokenLines_cons_of_isComment (isComment_gap_append hgap _), ih]

/-! ### Loading what is written -/

/-- The machine is the one that a header and transitions describe: it has their numbers, its states
are of the kinds that the header lists, and each of them holds the transitions that start there, in
the order in which they come. -/
structure Realizes (a : Alphabet) (h : Header) (ts : List Transition) (m : Machine) : Prop where
  /-- The symbols are those of the alphabet. -/
  alphabet : m.alphabet = a
  /-- There are as many states. -/
  numStates : m.numStates = h.numStates
  /-- There are as many tapes. -/
  numTapes : m.numTapes = h.numTapes
  /-- The start state is the same. -/
  start : m.start = h.start
  /-- The machine starts there. -/
  startIndex : (m.startIndex : Int) = h.start
  /-- The states have their indices as numbers. -/
  id_eq : ∀ (i : Nat) (s : State), m.states[i]? = some s → s.id = i
  /-- The accepting states are the ones listed as accepting. -/
  accepting_iff : ∀ s ∈ m.states, s.kind = .accepting ↔ s.id ∈ h.accepting
  /-- The halting states are the ones listed as halting only. -/
  halting_iff : ∀ s ∈ m.states, s.kind = .halting ↔ s.id ∈ h.halting ∧ s.id ∉ h.accepting
  /-- The running states are the ones not listed. -/
  running_iff : ∀ s ∈ m.states, s.kind = .running ↔ s.id ∉ h.halting ∧ s.id ∉ h.accepting
  /-- A state holds the transitions that start there. -/
  transitions : ∀ s ∈ m.states, s.transitions = ts.filter fun t => t.source = s.id

/-- The machine that lines spell is the one that the header and the transitions describe. -/
theorem Spells.realizes {ts : List Transition} (hs : Spells a (tokenLines ls) h ts) :
    Realizes a h ts (addAll (h.machine a) ts) := by
  have hstart : 0 ≤ h.start := by
    obtain ⟨_, _, -, hheader, -, -⟩ := spells_iff.mp hs
    obtain ⟨-, -, hstart, -, -, -⟩ := hheader
    exact hstart.2.1
  -- Every state is the one that the header and the transitions describe at its index.
  have hstate : ∀ s ∈ (addAll (h.machine a) ts).states,
      s.kind = StateKind.classify s.id h.halting h.accepting ∧
        s.transitions = ts.filter fun t => t.source = s.id := by
    intro s hmem
    obtain ⟨i, hi⟩ := List.mem_iff_getElem?.mp hmem
    obtain rfl := eq_of_getElem?_states hi
    refine ⟨rfl, List.filter_congr fun t ht => ?_⟩
    have := (hs.source_mem ht).1
    rw [Bool.eq_iff_iff, beq_iff_eq, decide_eq_true_iff]
    show t.source.toNat = i ↔ t.source = (i : Int)
    omega
  refine ⟨alphabet_addAll _ _, ?_, numTapes_addAll _ _, start_addAll _ _, ?_, fun i s hi => ?_,
    fun s hmem => ?_, fun s hmem => ?_, fun s hmem => ?_, fun s hmem => (hstate s hmem).2⟩
  · rw [numStates_addAll, numStates_machine]
  · rw [startIndex_addAll]
    exact Int.toNat_of_nonneg hstart
  · rw [eq_of_getElem?_states hi]
  · rw [(hstate s hmem).1, classify_eq_accepting_iff]
  · rw [(hstate s hmem).1, classify_eq_halting_iff]
  · rw [(hstate s hmem).1, classify_eq_running_iff]

/-- **Programs survive being written and loaded.** What is written can be loaded, the machine is the
one described, with the rules of each state in the order in which they were written, and comments
put in anywhere change nothing. -/
theorem load_write {rules : List (Rule MoveNumeral)} (hw : Writable a h rules) :
    ∃ m, load a (write h rules) = .ok m ∧
      Realizes a h (rules.map (Rule.map MoveNumeral.move)) m ∧
      ∀ ls, Commented (Text.lines (write h rules)) ls → load a (Text.unlines ls) = .ok m := by
  have hcode := hw.isCode
  have hisLine : ∀ l ∈ (headerTokens h ++ rules.map ruleTokens).map Text.unwords,
      Text.IsLine l := by
    intro l hl
    obtain ⟨tokens, htokens, rfl⟩ := List.mem_map.mp hl
    exact (hcode tokens htokens).isLine
  have hlines : Text.lines (write h rules) =
      (headerTokens h ++ rules.map ruleTokens).map Text.unwords := Text.lines_unlines hisLine
  have hspells : ∀ ls, Commented (Text.lines (write h rules)) ls →
      Spells a (tokenLines (Text.lines (Text.unlines ls))) h
        (rules.map (Rule.map MoveNumeral.move)) := by
    intro ls hls
    rw [hlines] at hls
    rw [Text.lines_unlines (hls.isLine hisLine), hls.tokenLines_eq, tokenLines_map_unwords hcode]
    exact spells_tokens hw
  have hrefl := hspells _ (.refl _)
  have hload : ∀ ls, Commented (Text.lines (write h rules)) ls → load a (Text.unlines ls) = .ok
      (addAll (h.machine a) (rules.map (Rule.map MoveNumeral.move))) := fun ls hls =>
    load_eq_ok_iff.mpr ⟨h, _, hspells ls hls, rfl⟩
  refine ⟨_, ?_, hrefl.realizes, hload⟩
  have hwrite := hload _ (.refl _)
  rwa [hlines] at hwrite

/-- Symbols that are signs, digits or marks: the rules below are written with all of them. -/
def signs : Alphabet := ⟨'#', '9', '~', by decide, by decide⟩

/-- A header without accepting states. -/
def signsHeader : Header := ⟨2, 1, 0, [1], []⟩

/-- Two rules with both spellings of a move to the right. -/
def signsRules : List (Rule MoveNumeral) :=
  [⟨0, ['#'], [['-'], ['~']], 1, .plusOne, [[','], ['0']], [.minusOne, .one]⟩,
    ⟨0, ['+'], [['#'], ['1']], 0, .zero, [['#'], ['~']], [.zero, .plusOne]⟩]

theorem writable_signs : Writable signs signsHeader signsRules where
  header := ⟨by decide +kernel, by decide +kernel, by decide, by decide, by decide⟩
  rule := by
    have hvalid : ∀ r ∈ signsRules, (0 ≤ r.source ∧ r.source < 2) ∧ (0 ≤ r.target ∧ r.target < 2) ∧
        r.reads.length = 2 ∧ r.writes.length = 2 ∧ r.moves.length = 2 ∧
        ∀ s ∈ r.input :: r.reads ++ r.writes, signs.isSymbol s = true ∧ Text.IsWord s := by
      decide
    intro r hr
    obtain ⟨hsource, htarget, hreads, hwrites, hmoves, hsymbol⟩ := hvalid r hr
    exact ⟨hsource, htarget, hreads, hwrites, hmoves, hsymbol⟩
  nodup := by decide

/-- Their text, and the machine of that text, also with a comment on top. -/
theorem load_write_signs :
    Writable signs signsHeader signsRules ∧
      Text.lines (write signsHeader signsRules) =
        ["2", "1", "0", "1", "", "0 # - ~ 1 +1 , -1 0 1", "0 + # 1 0 0 # 0 ~ +1"].map
          String.toText ∧
      ∃ m, load signs (write signsHeader signsRules) = .ok m ∧
        load signs (Text.unlines ("# signs".toText :: Text.lines (write signsHeader signsRules))) =
          .ok m ∧
        m.states =
          [⟨0, .running, signsRules.map (Rule.map MoveNumeral.move)⟩, ⟨1, .halting, []⟩] := by
  obtain ⟨m, hload, -, hcomments⟩ := load_write writable_signs
  have hlines : Text.lines (write signsHeader signsRules) =
      ["2", "1", "0", "1", "", "0 # - ~ 1 +1 , -1 0 1", "0 + # 1 0 0 # 0 ~ +1"].map
        String.toText := by
    decide +kernel
  have hremark : Commented (Text.lines (write signsHeader signsRules))
      (([] ++ .char '#' :: " signs".toText) :: Text.lines (write signsHeader signsRules)) :=
    .comment Text.isGap_nil (by decide) (.refl _)
  have hstates : (load signs (write signsHeader signsRules)).toOption.map Machine.states =
      some [⟨0, .running, signsRules.map (Rule.map MoveNumeral.move)⟩, ⟨1, .halting, []⟩] := by
    decide +kernel
  rw [hload] at hstates
  exact ⟨writable_signs, hlines, m, hload, hcomments _ hremark, Option.some.inj hstates⟩

end Program

end MultiTape
