import MultiTape.Program.Load
import MultiTape.Proofs.Lists
import MultiTape.Proofs.Text.Lines
import MultiTape.Proofs.Text.Numeral

/-!
# The grammar of program text

What a program text has to look like, said without reading it: which tokens stand in which line, and
what they spell. A text can be loaded exactly when it is of that form, and then the grammar also
says which machine comes out.

Line numbers do not occur here. The readers need them for the faults they report, but a reader that
succeeds never shows its line number, so two texts whose lines have the same tokens load alike.

## Main definitions

* `Program.SpellsState`, `Program.SpellsTransition`, `Program.SpellsHeader`: tokens and what they
  spell
* `Program.tokenLines`: the lines that are no comments, as tokens
* `Program.Spells`: lines of tokens that spell a header and transitions

## Main results

* `Program.transition_eq_ok_iff`, `Program.header_eq_ok_iff`, `Program.transitions_eq_ok_iff`: each
  reader accepts what the grammar describes
* `Program.load_eq_ok_iff`: so does loading
-/

namespace MultiTape

namespace Program

variable {α β ε : Type} {a : Alphabet} {width : Nat} {numStates line : Int} {token : Text}

/-! ### Readers that succeed -/

theorem integer_eq_ok_iff {n : Int} : integer line token = .ok n ↔ Numeral.read token = .ok n :=
  mapError_eq_ok_iff

theorem move_eq_ok_iff {m : Move} : move line token = .ok m ↔ Move.read token = .ok m :=
  mapError_eq_ok_iff

theorem count_eq_ok_iff {t : Text} {n : Nat} :
    count line t = .ok n ↔ ∃ w, Text.words t = [w] ∧ Numeral.read w = .ok (n : Int) := by
  rw [← Numeral.read_trim_eq_ok_iff, count, bind_eq_ok_iff]
  simp only [integer_eq_ok_iff]
  constructor
  · rintro ⟨v, hv, h⟩
    split at h
    · simp at h
    · have hn : v.toNat = n := Except.ok.inj h
      rw [hv]
      congr
      omega
  · intro h
    exact ⟨n, h, rfl⟩

/-- A token that spells the number of one of the states. -/
def SpellsState (numStates : Int) (token : Text) (id : Int) : Prop :=
  Numeral.read token = .ok id ∧ 0 ≤ id ∧ id < numStates

theorem stateId_eq_ok_iff {id : Int} :
    stateId numStates line token = .ok id ↔ SpellsState numStates token id := by
  rw [stateId, bind_eq_ok_iff]
  simp only [integer_eq_ok_iff]
  constructor
  · rintro ⟨v, hv, h⟩
    split at h
    · next hrange =>
      obtain rfl : v = id := Except.ok.inj h
      exact ⟨hv, hrange⟩
    · simp at h
  · rintro ⟨h, hrange⟩
    exact ⟨id, h, if_pos hrange⟩

theorem spellsState_trim_iff {t : Text} {id : Int} :
    SpellsState numStates (Text.trim t) id ↔
      ∃ w, Text.words t = [w] ∧ SpellsState numStates w id := by
  simp only [SpellsState, Numeral.read_trim_eq_ok_iff]
  constructor
  · rintro ⟨⟨w, hw, hread⟩, hrange⟩
    exact ⟨w, hw, hread, hrange⟩
  · rintro ⟨w, hw, hread, hrange⟩
    exact ⟨⟨w, hw, hread⟩, hrange⟩

theorem symbol_eq_ok_iff {s : Symbol} :
    symbol a line token = .ok s ↔ a.isSymbol token = true ∧ token = s := by
  rw [symbol]
  split <;> simp_all

theorem nextLine_eq_ok_iff {last : Nat} {lines rest : List NumberedLine} {l : NumberedLine} :
    nextLine last lines = .ok (l, rest) ↔ lines = l :: rest := by
  cases lines <;> simp [nextLine]

/-- Five lines of tokens that spell a header. -/
inductive SpellsHeader : List (List Text) → Header → Prop where
  /-- A count of states, a count of tapes, the start state, the halting states, and the accepting
  states, which are among the halting ones. -/
  | intro {numStates numTapes start : Text} {halting accepting : List Text} {h : Header}
      (hstates : Numeral.read numStates = .ok (h.numStates : Int))
      (htapes : Numeral.read numTapes = .ok (h.numTapes : Int))
      (hstart : SpellsState h.numStates start h.start)
      (hhalting : List.Forall₂ (SpellsState h.numStates) halting h.halting)
      (haccepting : List.Forall₂ (SpellsState h.numStates) accepting h.accepting)
      (hsubset : h.accepting ⊆ h.halting) :
      SpellsHeader [[numStates], [numTapes], [start], halting, accepting] h

theorem header_eq_ok_iff {lines rest : List NumberedLine} {h : Header} :
    header lines = .ok (h, rest) ↔
      ∃ first, lines = first ++ rest ∧ SpellsHeader (first.map fun l => Text.words l.2) h := by
  simp only [header, bind_eq_ok_iff, nextLine_eq_ok_iff, Prod.exists, count_eq_ok_iff, stateIds,
    mapM_eq_ok_iff, stateId_eq_ok_iff, spellsState_trim_iff]
  constructor
  · rintro ⟨n₁, l₁, _, rfl, numStates, ⟨w₁, hw₁, hstates⟩, n₂, l₂, _, rfl, numTapes,
      ⟨w₂, hw₂, htapes⟩, n₃, l₃, _, rfl, start, ⟨w₃, hw₃, hstart⟩, n₄, l₄, _, rfl, halting,
      hhalting, n₅, l₅, _, rfl, accepting, haccepting, h⟩
    split at h
    · next hall =>
      obtain ⟨rfl, rfl⟩ := Prod.mk.inj (Except.ok.inj h)
      refine ⟨[(n₁, l₁), (n₂, l₂), (n₃, l₃), (n₄, l₄), (n₅, l₅)], rfl, ?_⟩
      simp only [List.map_cons, List.map_nil, hw₁, hw₂, hw₃]
      refine .intro hstates htapes hstart hhalting haccepting fun id hid => ?_
      simpa using List.all_eq_true.mp hall id hid
    · simp at h
  · rintro ⟨first, rfl, hfirst⟩
    generalize htokens : first.map (fun l => Text.words l.2) = tokens at hfirst
    obtain ⟨hstates, htapes, hstart, hhalting, haccepting, hsubset⟩ := hfirst
    simp only [List.map_eq_cons_iff, List.map_eq_nil_iff, Prod.exists] at htokens
    obtain ⟨n₁, l₁, _, rfl, hw₁, n₂, l₂, _, rfl, hw₂, n₃, l₃, _, rfl, hw₃, n₄, l₄, _, rfl, rfl,
      n₅, l₅, _, rfl, rfl, rfl⟩ := htokens
    refine ⟨n₁, l₁, _, rfl, h.numStates, ⟨_, hw₁, hstates⟩, n₂, l₂, _, rfl, h.numTapes,
      ⟨_, hw₂, htapes⟩, n₃, l₃, _, rfl, h.start, ⟨_, hw₃, hstart⟩, n₄, l₄, _, rfl, h.halting,
      hhalting, n₅, l₅, _, rfl, h.accepting, haccepting, ?_⟩
    rw [if_pos (List.all_eq_true.mpr fun id hid => by simpa using hsubset hid)]
    rfl

/-! ### Transitions -/

theorem pairs_flatMap (es : List (α × α)) : pairs (es.flatMap fun e => [e.1, e.2]) = es := by
  induction es with
  | nil => rfl
  | cons e es ih => simp [pairs, ih]

/-- An even number of items is its pairs, taken apart again. -/
theorem exists_flatMap_eq {k : Nat} {items : List α} (h : items.length = 2 * k) :
    ∃ es : List (α × α), es.length = k ∧ items = es.flatMap fun e => [e.1, e.2] := by
  induction k generalizing items with
  | zero => exact ⟨[], rfl, List.length_eq_zero_iff.mp h⟩
  | succ k ih =>
    match items, h with
    | x :: y :: items, h =>
      have hlength : items.length = 2 * k := by
        simp only [List.length_cons] at h
        omega
      obtain ⟨es, hes, rfl⟩ := ih hlength
      exact ⟨(x, y) :: es, by simp [hes], rfl⟩

/-- Tokens that spell a transition for `width` work tapes. -/
inductive SpellsTransition (a : Alphabet) (width : Nat) (numStates : Int) :
    List Text → Transition → Prop where
  /-- The source, the input symbol, the symbols read, the target, the input move, and the symbols
  written with the moves after them. -/
  | intro {source target inputMove : Text} {effects : List (Text × Text)} {t : Transition}
      (hsource : SpellsState numStates source t.source)
      (hinput : a.isSymbol t.input = true)
      (hreads : ∀ s ∈ t.reads, a.isSymbol s = true)
      (hwidth : t.reads.length = width)
      (htarget : SpellsState numStates target t.target)
      (hinputMove : Move.read inputMove = .ok t.inputMove)
      (heffects : effects.length = width)
      (hwrites : effects.map Prod.fst = t.writes)
      (hsymbols : ∀ s ∈ t.writes, a.isSymbol s = true)
      (hmoves : List.Forall₂ (fun token m => Move.read token = .ok m) (effects.map Prod.snd)
        t.moves) :
      SpellsTransition a width numStates
        (source :: t.input :: t.reads ++ target :: inputMove ::
          effects.flatMap fun e => [e.1, e.2]) t

theorem mapM_symbol_eq_ok_iff {tokens : List Text} {ss : List Symbol} :
    tokens.mapM (symbol a line) = .ok ss ↔ (∀ s ∈ tokens, a.isSymbol s = true) ∧ tokens = ss := by
  rw [mapM_eq_ok_iff]
  simp only [symbol_eq_ok_iff]
  induction tokens generalizing ss with
  | nil =>
    rw [List.forall₂_nil_left_iff]
    exact ⟨fun h => ⟨by simp, h.symm⟩, fun h => h.2.symm⟩
  | cons token tokens ih =>
    simp only [List.forall₂_cons_left_iff, ih, List.forall_mem_cons]
    constructor
    · rintro ⟨s, ss, ⟨hs, rfl⟩, ⟨hss, rfl⟩, rfl⟩
      exact ⟨⟨hs, hss⟩, rfl⟩
    · rintro ⟨⟨hs, hss⟩, rfl⟩
      exact ⟨token, tokens, ⟨hs, rfl⟩, ⟨hss, rfl⟩, rfl⟩

theorem mapM_effect_eq_ok_iff {tokens : List (Text × Text)} {es : List (Symbol × Move)} :
    tokens.mapM (effect a line) = .ok es ↔
      (∀ s ∈ tokens.map Prod.fst, a.isSymbol s = true) ∧
        tokens.map Prod.fst = es.map Prod.fst ∧
        List.Forall₂ (fun token m => Move.read token = .ok m) (tokens.map Prod.snd)
          (es.map Prod.snd) := by
  have heffect : ∀ (e : Text × Text) (p : Symbol × Move), effect a line e = .ok p ↔
      a.isSymbol e.1 = true ∧ e.1 = p.1 ∧ Move.read e.2 = .ok p.2 := by
    intro e p
    simp only [effect, bind_eq_ok_iff, symbol_eq_ok_iff, move_eq_ok_iff]
    constructor
    · rintro ⟨s, ⟨hs, rfl⟩, m, hm, h⟩
      obtain rfl := Except.ok.inj h
      exact ⟨hs, rfl, hm⟩
    · rintro ⟨hs, he, hm⟩
      exact ⟨e.1, ⟨hs, rfl⟩, p.2, hm, by rw [he]; rfl⟩
  rw [mapM_eq_ok_iff]
  simp only [heffect]
  induction tokens generalizing es with
  | nil => cases es <;> simp
  | cons e tokens ih =>
    cases es with
    | nil => simp
    | cons p es =>
      simp only [List.forall₂_cons, ih, List.map_cons, List.forall_mem_cons, List.cons.injEq]
      tauto

/-- The right number of tokens falls into the fields of a transition. -/
theorem exists_fields_eq {tokens : List Text} (h : tokens.length = 3 * width + 4) :
    ∃ (source input : Text) (reads : List Text) (target inputMove : Text)
      (effects : List (Text × Text)), reads.length = width ∧ effects.length = width ∧
        tokens = source :: input :: reads ++ target :: inputMove ::
          effects.flatMap fun e => [e.1, e.2] := by
  match tokens, h with
  | source :: input :: rest, h =>
    have hrest : rest.length = 3 * width + 2 := by simpa using h
    have hback : (rest.drop width).length = 2 * width + 2 := by simp; omega
    match hdrop : rest.drop width, hback with
    | target :: inputMove :: tail, hback =>
      have htail : tail.length = 2 * width := by simpa using hback
      obtain ⟨effects, heffects, rfl⟩ := exists_flatMap_eq htail
      refine ⟨source, input, rest.take width, target, inputMove, effects, ?_, heffects, ?_⟩
      · rw [List.length_take]
        omega
      · rw [← hdrop, List.cons_append, List.cons_append, List.take_append_drop]

/-- With the right number of tokens the fields are read in order. -/
theorem transition_eq_of_words {l source input target inputMove : Text} {reads : List Text}
    {effects : List (Text × Text)} (hreads : reads.length = width)
    (heffects : effects.length = width)
    (hl : Text.words l = source :: input :: reads ++ target :: inputMove ::
      effects.flatMap fun e => [e.1, e.2]) :
    transition a width numStates line l = (do
      let source ← stateId numStates line source
      let input ← symbol a line input
      let reads ← reads.mapM (symbol a line)
      let target ← stateId numStates line target
      let inputMove ← move line inputMove
      let effects ← effects.mapM (effect a line)
      pure ⟨source, input, reads, target, inputMove, effects.map Prod.fst,
        effects.map Prod.snd⟩) := by
  subst hreads
  have hlength : (Text.words l).length = 3 * reads.length + 4 := by
    simp [hl, List.length_flatMap, heffects]
    omega
  rw [transition, if_neg (not_not.mpr hlength), hl]
  simp [pairs_flatMap, Nat.add_comm _ reads.length]

theorem transition_eq_ok_iff {l : Text} {t : Transition} :
    transition a width numStates line l = .ok t ↔
      SpellsTransition a width numStates (Text.words l) t := by
  constructor
  · intro h
    have hlength : (Text.words l).length = 3 * width + 4 := by
      by_contra hne
      rw [transition, if_pos hne] at h
      simp [bind, Except.bind] at h
    obtain ⟨source, input, reads, target, inputMove, effects, hreads, heffects, hl⟩ :=
      exists_fields_eq hlength
    rw [transition_eq_of_words hreads heffects hl] at h
    simp only [bind_eq_ok_iff, stateId_eq_ok_iff, symbol_eq_ok_iff, move_eq_ok_iff,
      mapM_symbol_eq_ok_iff, mapM_effect_eq_ok_iff] at h
    obtain ⟨_, hsource, _, ⟨hinput, rfl⟩, _, ⟨hsymbols, rfl⟩, _, htarget, _, hmove, written,
      ⟨hwritten, hwrites, hmoves⟩, h⟩ := h
    obtain rfl := Except.ok.inj h
    rw [hl]
    exact .intro (t := ⟨_, _, reads, _, _, written.map Prod.fst, written.map Prod.snd⟩) hsource
      hinput hsymbols hreads htarget hmove heffects hwrites
      (fun s hs => hwritten s (hwrites ▸ hs)) hmoves
  · intro h
    generalize hl : Text.words l = tokens at h
    obtain ⟨hsource, hinput, hreads, hwidth, htarget, hmove, heffects, hwrites, hsymbols,
      hmoves⟩ := h
    rw [transition_eq_of_words hwidth heffects hl]
    simp only [bind_eq_ok_iff, stateId_eq_ok_iff, symbol_eq_ok_iff, move_eq_ok_iff,
      mapM_symbol_eq_ok_iff, mapM_effect_eq_ok_iff]
    have hlength : t.writes.length = t.moves.length := by
      rw [← hmoves.length_eq, ← hwrites, List.length_map, List.length_map]
    refine ⟨_, hsource, _, ⟨hinput, rfl⟩, _, ⟨hreads, rfl⟩, _, htarget, _, hmove,
      t.writes.zip t.moves, ?_, ?_⟩
    · rw [List.map_fst_zip hlength.le, List.map_snd_zip hlength.ge, hwrites]
      exact ⟨hsymbols, rfl, hmoves⟩
    · rw [List.map_fst_zip hlength.le, List.map_snd_zip hlength.ge]
      rfl

/-! ### Lists of transitions -/

/-- A line without words is skipped, and no other. -/
theorem isEmpty_trim_eq {l : Text} : (Text.trim l).isEmpty = (Text.words l == []) := by
  rw [Bool.eq_iff_iff, List.isEmpty_iff, beq_iff_eq, Text.trim_eq_nil_iff]

theorem transitions_eq_ok_iff {seen : List Guard} {lines : List NumberedLine}
    {ts : List Transition} :
    transitions a width numStates seen lines = .ok ts ↔
      List.Forall₂ (SpellsTransition a width numStates)
        ((lines.map fun l => Text.words l.2).filter (· != [])) ts ∧
      (ts.map Rule.guard).Nodup ∧ ∀ t ∈ ts, t.guard ∉ seen := by
  induction lines generalizing seen ts with
  | nil =>
    rw [transitions, List.map_nil, List.filter_nil, List.forall₂_nil_left_iff]
    constructor
    · intro h
      obtain rfl := Except.ok.inj h
      simp
    · rintro ⟨rfl, -⟩
      rfl
  | cons l lines ih =>
    obtain ⟨number, l⟩ := l
    rw [transitions, isEmpty_trim_eq, List.map_cons]
    by_cases hl : Text.words l = []
    · rw [if_pos (by simpa using hl), List.filter_cons_of_neg (by simpa using hl)]
      exact ih
    · rw [if_neg (by simpa using hl), List.filter_cons_of_pos (by simpa using hl),
        bind_eq_ok_iff, List.forall₂_cons_left_iff]
      simp only [transition_eq_ok_iff]
      constructor
      · rintro ⟨t, ht, h⟩
        split at h
        · simp at h
        · next hseen =>
          obtain ⟨more, hmore, h⟩ := bind_eq_ok_iff.mp h
          obtain rfl := Except.ok.inj h
          obtain ⟨hspells, hnodup, hfresh⟩ := ih.mp hmore
          refine ⟨⟨t, more, ht, hspells, rfl⟩, ?_, ?_⟩
          · rw [List.map_cons, List.nodup_cons]
            refine ⟨fun hmem => ?_, hnodup⟩
            obtain ⟨t', ht', hguard⟩ := List.mem_map.mp hmem
            exact hfresh t' ht' (by simp [hguard])
          · intro t' ht'
            rcases List.mem_cons.mp ht' with rfl | ht'
            · simpa using hseen
            · exact fun hmem => hfresh t' ht' (List.mem_cons_of_mem _ hmem)
      · rintro ⟨⟨t, more, ht, hspells, rfl⟩, hnodup, hfresh⟩
        rw [List.map_cons, List.nodup_cons] at hnodup
        rw [List.forall_mem_cons] at hfresh
        refine ⟨t, ht, ?_⟩
        rw [if_neg (by simpa using hfresh.1), bind_eq_ok_iff]
        refine ⟨more, ih.mpr ⟨hspells, hnodup.2, fun t' ht' hmem => ?_⟩, rfl⟩
        rcases List.mem_cons.mp hmem with hguard | hmem
        · exact hnodup.1 (List.mem_map.mpr ⟨t', ht', hguard⟩)
        · exact hfresh.2 t' ht' hmem

/-! ### Whole texts -/

/-- The lines that are no comments, cut into tokens. -/
def tokenLines (ls : List Text) : List (List Text) :=
  (ls.filter fun l => !isComment l).map Text.words

theorem isComment_eq (l : Text) :
    isComment l = ((Text.words l).head?.bind List.head? == some (.char '#')) := by
  rw [isComment, Text.head?_trim]

@[simp] theorem tokenLines_append (ls ls' : List Text) :
    tokenLines (ls ++ ls') = tokenLines ls ++ tokenLines ls' := by
  rw [tokenLines, List.filter_append, List.map_append]
  rfl

theorem tokenLines_cons_of_isComment {l : Text} {ls : List Text} (hl : isComment l = true) :
    tokenLines (l :: ls) = tokenLines ls := by
  rw [tokenLines, List.filter_cons_of_neg (by simp [hl])]
  rfl

theorem tokenLines_cons {l : Text} {ls : List Text} (hl : isComment l = false) :
    tokenLines (l :: ls) = Text.words l :: tokenLines ls := by
  rw [tokenLines, List.filter_cons_of_pos (by simp [hl])]
  rfl

theorem isComment_gap_append {gap : Text} (hgap : Text.IsGap gap) (remark : Text) :
    isComment (gap ++ .char '#' :: remark) = true := by
  rw [isComment_eq, Text.words_gap_append hgap, Text.words_cons (by decide)]
  rfl

theorem map_words_codeLines (t : Text) :
    (codeLines t).map (fun l => Text.words l.2) = tokenLines (Text.lines t) := by
  have hlines : (numberedLines t).map Prod.snd = Text.lines t := by
    rw [numberedLines, List.map_map]
    exact List.zipIdx_map_fst 0 (Text.lines t)
  rw [tokenLines, ← hlines, List.filter_map, List.map_map]
  rfl

/-- Lines of tokens that spell a header and the transitions after it. Lines without tokens may stand
among the transitions, and no two of these have one guard. -/
inductive Spells (a : Alphabet) : List (List Text) → Header → List Transition → Prop where
  /-- The lines of the header and then those of the transitions. -/
  | intro {first rest : List (List Text)} {h : Header} {ts : List Transition}
      (hheader : SpellsHeader first h)
      (htransitions : List.Forall₂ (SpellsTransition a (h.numTapes + 1) h.numStates)
        (rest.filter (· != [])) ts)
      (hguards : (ts.map Rule.guard).Nodup) :
      Spells a (first ++ rest) h ts

theorem spells_iff {lines : List (List Text)} {h : Header} {ts : List Transition} :
    Spells a lines h ts ↔ ∃ first rest, lines = first ++ rest ∧ SpellsHeader first h ∧
      List.Forall₂ (SpellsTransition a (h.numTapes + 1) h.numStates) (rest.filter (· != [])) ts ∧
      (ts.map Rule.guard).Nodup := by
  constructor
  · rintro ⟨hheader, htransitions, hguards⟩
    exact ⟨_, _, rfl, hheader, htransitions, hguards⟩
  · rintro ⟨first, rest, rfl, hheader, htransitions, hguards⟩
    exact .intro hheader htransitions hguards

/-- **Loading accepts what the grammar describes**, and the machine is the header's with the
transitions added in order. -/
theorem load_eq_ok_iff {t : Text} {m : Machine} :
    load a t = .ok m ↔
      ∃ h ts, Spells a (tokenLines (Text.lines t)) h ts ∧ m = addAll (h.machine a) ts := by
  rw [load, bind_eq_ok_iff, ← map_words_codeLines]
  simp only [Prod.exists, header_eq_ok_iff, bind_eq_ok_iff, transitions_eq_ok_iff, spells_iff]
  constructor
  · rintro ⟨h, rest, ⟨first, hlines, hheader⟩, ts, ⟨htransitions, hguards, -⟩, hm⟩
    refine ⟨h, ts, ⟨_, _, ?_, hheader, htransitions, hguards⟩, (Except.ok.inj hm).symm⟩
    rw [hlines, List.map_append]
  · rintro ⟨h, ts, ⟨_, _, htokens, hheader, htransitions, hguards⟩, rfl⟩
    obtain ⟨first, rest, hlines, rfl, rfl⟩ := List.map_eq_append_iff.mp htokens
    exact ⟨h, rest, ⟨first, hlines, hheader⟩, ts, ⟨htransitions, hguards, by simp⟩, rfl⟩

/-! ### A program text

The machine below copies its word to a work tape and writes it from there to the output tape, back
to front. -/

/-- A program that reverses words over two letters. -/
def reversal : Text :=
  Text.unlines <| ["3", "1", "0", "2", "2", "# collect",
    "0 a ~ ~ 0 1 ~ 0 a 1",
    "0 b ~ ~ 0 1 ~ 0 b 1",
    "0 ~ ~ ~ 1 0 ~ 0 ~ -1",
    "# write",
    "1 ~ ~ a 1 0 a 1 ~ -1",
    "1 ~ ~ b 1 0 b 1 ~ -1",
    "1 ~ ~ ~ 2 0 ~ 0 ~ 0"].map String.toText

/-- The machine of that program. -/
def reversalMachine : Machine where
  numTapes := 1
  start := 0
  startIndex := 0
  alphabet := .standard
  states := [
    ⟨0, .running, [
      ⟨0, ['a'], [['~'], ['~']], 0, .right, [['~'], ['a']], [.stay, .right]⟩,
      ⟨0, ['b'], [['~'], ['~']], 0, .right, [['~'], ['b']], [.stay, .right]⟩,
      ⟨0, ['~'], [['~'], ['~']], 1, .stay, [['~'], ['~']], [.stay, .left]⟩]⟩,
    ⟨1, .running, [
      ⟨1, ['~'], [['~'], ['a']], 1, .stay, [['a'], ['~']], [.right, .left]⟩,
      ⟨1, ['~'], [['~'], ['b']], 1, .stay, [['b'], ['~']], [.right, .left]⟩,
      ⟨1, ['~'], [['~'], ['~']], 2, .stay, [['~'], ['~']], [.stay, .stay]⟩]⟩,
    ⟨2, .accepting, []⟩]

theorem load_reversal : load .standard reversal = .ok reversalMachine := by
  decide +kernel

end Program

end MultiTape
