import MultiTape.Proofs.Machine.Reorder
import MultiTape.Proofs.Program.Loaded
import Mathlib.Logic.Relation

/-!
# The layout of program text

Much of a program text says nothing: comments, blank lines behind the header, the gaps around
tokens, the order of the transitions, and the order and number of times in which the state numbers
of a list are given. A text in which any of that is changed, again and again, can be loaded if the
one before could, and the machine does the same.

The lists of transitions of the two machines do differ. That nothing comes of it is due to
determinism: a text in which two transitions have one guard cannot be loaded in any layout.

## Main definitions

* `Program.Relayout`: one change of the layout, from lines to lines
* `Program.Header.Agrees`: headers that differ only in how they list states

## Main results

* `Program.Relayout.spells`: after a change of the layout the lines spell the same transitions in
  some order, and an agreeing header
* `Program.load_relayout`: the layout of a text makes no difference
-/

namespace MultiTape

namespace Program

variable {a : Alphabet} {h h' : Header} {l l' text : Text} {ls ls' : List Text}
  {ts ts' : List Transition} {m : Machine}

/-! ### Changes of the layout -/

/-- One change of the layout. The fifth line that is no comment ends the header; its fourth and
fifth lines list states. -/
inductive Relayout : List Text → List Text → Prop where
  /-- A comment is put in. -/
  | addComment {gap remark : Text} {pre post : List Text} (hgap : Text.IsGap gap)
      (hl : Text.IsLine (gap ++ .char '#' :: remark)) :
      Relayout (pre ++ post) (pre ++ (gap ++ .char '#' :: remark) :: post)
  /-- A comment is taken out. -/
  | dropComment {gap remark : Text} {pre post : List Text} (hgap : Text.IsGap gap) :
      Relayout (pre ++ (gap ++ .char '#' :: remark) :: post) (pre ++ post)
  /-- A blank line is put in behind the header. -/
  | addBlank {l : Text} {pre post : List Text} (hpre : 5 ≤ (tokenLines pre).length)
      (hl : Text.IsLine l) (hgap : Text.IsGap l) : Relayout (pre ++ post) (pre ++ l :: post)
  /-- A blank line is taken out behind the header. -/
  | dropBlank {l : Text} {pre post : List Text} (hpre : 5 ≤ (tokenLines pre).length)
      (hgap : Text.IsGap l) : Relayout (pre ++ l :: post) (pre ++ post)
  /-- The lines behind the header come in another order. -/
  | reorder {pre post post' : List Text} (hpre : 5 ≤ (tokenLines pre).length)
      (hperm : post.Perm post') : Relayout (pre ++ post) (pre ++ post')
  /-- The same states are listed in another order or another number of times. -/
  | relist {l l' : Text} {pre post : List Text} {tokens tokens' : List Text}
      (hpre : (tokenLines pre).length = 3 ∨ (tokenLines pre).length = 4)
      (hcode : isComment l = false) (hl' : Text.IsLine l') (h : Text.Spaced tokens l)
      (h' : Text.Spaced tokens' l') (htokens : ∀ token, token ∈ tokens' ↔ token ∈ tokens) :
      Relayout (pre ++ l :: post) (pre ++ l' :: post)
  /-- The same tokens are spaced in another way. -/
  | respace {l l' : Text} {pre post : List Text} {tokens : List Text} (hl' : Text.IsLine l')
      (h : Text.Spaced tokens l) (h' : Text.Spaced tokens l') :
      Relayout (pre ++ l :: post) (pre ++ l' :: post)

/-- A change of the layout brings no line break into a line. -/
theorem Relayout.isLine (h : Relayout ls ls') (hls : ∀ l ∈ ls, Text.IsLine l) :
    ∀ l ∈ ls', Text.IsLine l := by
  intro l hmem
  cases h with
  | addComment _ hl | addBlank _ hl =>
    rcases List.mem_append.mp hmem with hmem | hmem
    · exact hls l (List.mem_append_left _ hmem)
    · rcases List.mem_cons.mp hmem with rfl | hmem
      · exact hl
      · exact hls l (List.mem_append_right _ hmem)
  | dropComment | dropBlank =>
    rcases List.mem_append.mp hmem with hmem | hmem
    · exact hls l (List.mem_append_left _ hmem)
    · exact hls l (List.mem_append_right _ (List.mem_cons_of_mem _ hmem))
  | reorder _ hperm => exact hls l ((hperm.append_left _).mem_iff.mpr hmem)
  | relist _ _ hl' | respace hl' =>
    rcases List.mem_append.mp hmem with hmem | hmem
    · exact hls l (List.mem_append_left _ hmem)
    · rcases List.mem_cons.mp hmem with rfl | hmem
      · exact hl'
      · exact hls l (List.mem_append_right _ (List.mem_cons_of_mem _ hmem))

/-! ### Tokens of changed lines -/

/-- Lines with the same tokens are alike. -/
theorem tokenLines_cons_congr (hwords : Text.words l' = Text.words l) :
    tokenLines (l' :: ls) = tokenLines (l :: ls) := by
  have hcomment : isComment l' = isComment l := by
    rw [isComment_eq, isComment_eq, hwords]
  cases hl : isComment l with
  | false => rw [tokenLines_cons hl, tokenLines_cons (hcomment.trans hl), hwords]
  | true =>
    rw [tokenLines_cons_of_isComment hl, tokenLines_cons_of_isComment (hcomment.trans hl)]

theorem tokenLines_cons_of_isGap (hl : Text.IsGap l) :
    tokenLines (l :: ls) = [] :: tokenLines ls := by
  have hwords : Text.words l = [] := Text.words_eq_iff.mpr (.gap hl)
  rw [tokenLines_cons (by rw [isComment_eq, hwords]; rfl), hwords]

theorem tokenLines_perm (h : ls.Perm ls') : (tokenLines ls).Perm (tokenLines ls') :=
  (h.filter _).map _

/-- A line of state numbers is no comment. -/
theorem isComment_eq_false {n : Int} (h : ∀ token ∈ Text.words l, ∃ id, SpellsState n token id) :
    isComment l = false := by
  rw [isComment_eq, beq_eq_false_iff_ne]
  cases hwords : Text.words l with
  | nil => simp
  | cons token tokens =>
    obtain ⟨id, hread, -⟩ := h token (by rw [hwords]; exact List.mem_cons_self)
    have hword : Text.IsWord token := Text.isWord_of_mem_words (t := l) (by simp [hwords])
    obtain ⟨w, hw, hhash⟩ := Numeral.words_of_read_eq_ok hread
    obtain rfl : token = w := List.singleton_inj.mp (hword.words_eq.symm.trans hw)
    exact hhash

/-! ### Headers that agree -/

/-- The same header, with the states of each list in another order or another number of times. -/
structure Header.Agrees (h h' : Header) : Prop where
  /-- There are as many states. -/
  numStates_eq : h'.numStates = h.numStates
  /-- There are as many tapes. -/
  numTapes_eq : h'.numTapes = h.numTapes
  /-- The start state is the same. -/
  start_eq : h'.start = h.start
  /-- The same states halt. -/
  mem_halting : ∀ id, id ∈ h'.halting ↔ id ∈ h.halting
  /-- The same states accept. -/
  mem_accepting : ∀ id, id ∈ h'.accepting ↔ id ∈ h.accepting

theorem Header.Agrees.refl (h : Header) : h.Agrees h :=
  ⟨rfl, rfl, rfl, fun _ => Iff.rfl, fun _ => Iff.rfl⟩

theorem Header.Agrees.trans {h'' : Header} (hh : h.Agrees h') (hh' : h'.Agrees h'') :
    h.Agrees h'' where
  numStates_eq := hh'.numStates_eq.trans hh.numStates_eq
  numTapes_eq := hh'.numTapes_eq.trans hh.numTapes_eq
  start_eq := hh'.start_eq.trans hh.start_eq
  mem_halting id := (hh'.mem_halting id).trans (hh.mem_halting id)
  mem_accepting id := (hh'.mem_accepting id).trans (hh.mem_accepting id)

/-- The kind of a state depends on which states are listed only. -/
theorem classify_congr {halting halting' accepting accepting' : List Int} (id : Int)
    (hhalting : id ∈ halting' ↔ id ∈ halting) (haccepting : id ∈ accepting' ↔ id ∈ accepting) :
    StateKind.classify id halting' accepting' = StateKind.classify id halting accepting := by
  have hcontains : ∀ {ids ids' : List Int}, (id ∈ ids' ↔ id ∈ ids) →
      ids'.contains id = ids.contains id := fun hmem => by
    rw [Bool.eq_iff_iff, List.contains_iff_mem, List.contains_iff_mem, hmem]
  rw [StateKind.classify, StateKind.classify, hcontains hhalting, hcontains haccepting]

theorem Header.Agrees.machine_eq (hh : h.Agrees h') (a : Alphabet) :
    h'.machine a = h.machine a := by
  rw [Header.machine, Header.machine, hh.numStates_eq, hh.numTapes_eq, hh.start_eq,
    Machine.emptyStates, Machine.emptyStates]
  congr 1
  refine List.map_congr_left fun i _ => ?_
  rw [classify_congr i (hh.mem_halting i) (hh.mem_accepting i)]

/-- The same tokens, in whatever order and number, spell the same numbers. -/
theorem exists_ids {n : Int} {tokens tokens' : List Text} {ids : List Int}
    (hids : List.Forall₂ (SpellsState n) tokens ids)
    (htokens : ∀ token, token ∈ tokens' ↔ token ∈ tokens) :
    ∃ ids', List.Forall₂ (SpellsState n) tokens' ids' ∧ ∀ id, id ∈ ids' ↔ id ∈ ids := by
  have hspells : ∀ token ∈ tokens', ∃ id, SpellsState n token id := by
    intro token htoken
    obtain ⟨id, -, hid⟩ := exists_of_forall₂ hids.flip ((htokens token).mp htoken)
    exact ⟨id, hid⟩
  obtain ⟨ids', hids'⟩ := exists_forall₂ hspells
  refine ⟨ids', hids', fun id => ?_⟩
  simp only [mem_ids_iff hids', mem_ids_iff hids, htokens]

/-! ### Changed lines spell the same -/

/-- The first five lines spell the header and the others the transitions. -/
theorem spells_append_iff {first lines : List (List Text)} (hfirst : 5 ≤ first.length) :
    Spells a (first ++ lines) h ts ↔ SpellsHeader (first.take 5) h ∧
      List.Forall₂ (SpellsTransition a (h.numTapes + 1) h.numStates)
        ((first.drop 5 ++ lines).filter (· != [])) ts ∧ (ts.map Rule.guard).Nodup := by
  rw [spells_iff]
  constructor
  · rintro ⟨five, rest, hlines, hheader, htransitions, hguards⟩
    have hlength : five.length = 5 := by
      cases hheader
      rfl
    have htake : first.take 5 = five := by
      rw [← List.take_append_of_le_length hfirst, hlines, ← hlength, List.take_left]
    have hdrop : first.drop 5 ++ lines = rest := by
      rw [← List.drop_append_of_le_length hfirst, hlines, ← hlength, List.drop_left]
    rw [htake, hdrop]
    exact ⟨hheader, htransitions, hguards⟩
  · rintro ⟨hheader, htransitions, hguards⟩
    refine ⟨_, _, ?_, hheader, htransitions, hguards⟩
    rw [← List.append_assoc, List.take_append_drop]

/-- A line without tokens behind the header makes no difference. -/
theorem spells_blank_iff {first lines : List (List Text)} (hfirst : 5 ≤ first.length) :
    Spells a (first ++ [] :: lines) h ts ↔ Spells a (first ++ lines) h ts := by
  have hfilter : (first.drop 5 ++ [] :: lines).filter (· != []) =
      (first.drop 5 ++ lines).filter (· != []) := by
    rw [List.filter_append, List.filter_append, List.filter_cons_of_neg (by simp)]
  rw [spells_append_iff hfirst, spells_append_iff hfirst, hfilter]

/-- The order of the lines behind the header is the order of the transitions. -/
theorem Spells.reorder {first lines lines' : List (List Text)} (hfirst : 5 ≤ first.length)
    (hperm : lines.Perm lines') (hs : Spells a (first ++ lines) h ts) :
    ∃ ts', ts.Perm ts' ∧ Spells a (first ++ lines') h ts' := by
  rw [spells_append_iff hfirst] at hs
  obtain ⟨hheader, htransitions, hguards⟩ := hs
  have hfilter : ((first.drop 5 ++ lines').filter (· != [])).Perm
      ((first.drop 5 ++ lines).filter (· != [])) :=
    (hperm.symm.append_left _).filter _
  obtain ⟨ts', htransitions', hts⟩ := List.perm_comp_forall₂ hfilter htransitions
  refine ⟨ts', hts.symm, (spells_append_iff hfirst).mpr ⟨hheader, htransitions', ?_⟩⟩
  exact ((hts.map Rule.guard).nodup_iff).mpr hguards

/-- The fourth and the fifth line may list their states in any order and any number of times. -/
theorem Spells.relist {first lines : List (List Text)} {tokens tokens' : List Text}
    (hfirst : first.length = 3 ∨ first.length = 4)
    (htokens : ∀ token, token ∈ tokens' ↔ token ∈ tokens)
    (hs : Spells a (first ++ tokens :: lines) h ts) :
    (∀ token ∈ tokens', ∃ id, SpellsState h.numStates token id) ∧
      ∃ h', h.Agrees h' ∧ Spells a (first ++ tokens' :: lines) h' ts := by
  obtain ⟨five, rest, hlines, hheader, htransitions, hguards⟩ := spells_iff.mp hs
  obtain ⟨hstates, htapes, hstart, hhalting, haccepting, hsubset⟩ := hheader
  have hspells : ∀ {ids}, List.Forall₂ (SpellsState h.numStates) tokens ids →
      ∀ token ∈ tokens', ∃ id, SpellsState h.numStates token id := by
    intro ids hids token htoken
    obtain ⟨id, -, hid⟩ := exists_of_forall₂ hids.flip ((htokens token).mp htoken)
    exact ⟨id, hid⟩
  rcases hfirst with hfirst | hfirst
  · obtain ⟨x, y, z, rfl⟩ := List.length_eq_three.mp hfirst
    obtain ⟨rfl, rfl, rfl, rfl, rfl⟩ : x = _ ∧ y = _ ∧ z = _ ∧ tokens = _ ∧ lines = _ := by
      simpa using hlines
    obtain ⟨ids, hids, hmem⟩ := exists_ids hhalting htokens
    refine ⟨hspells hhalting, { h with halting := ids },
      ⟨rfl, rfl, rfl, hmem, fun _ => Iff.rfl⟩, ?_⟩
    refine spells_iff.mpr ⟨[_, _, _, tokens', _], rest, rfl, ?_, htransitions, hguards⟩
    exact .intro hstates htapes hstart hids haccepting fun id hid => (hmem id).mpr (hsubset hid)
  · obtain ⟨x, y, z, u, rfl⟩ := List.length_eq_four.mp hfirst
    obtain ⟨rfl, rfl, rfl, rfl, rfl, rfl⟩ :
        x = _ ∧ y = _ ∧ z = _ ∧ u = _ ∧ tokens = _ ∧ lines = _ := by
      simpa using hlines
    obtain ⟨ids, hids, hmem⟩ := exists_ids haccepting htokens
    refine ⟨hspells haccepting, { h with accepting := ids },
      ⟨rfl, rfl, rfl, fun _ => Iff.rfl, hmem⟩, ?_⟩
    refine spells_iff.mpr ⟨[_, _, _, _, tokens'], lines, rfl, ?_, htransitions, hguards⟩
    exact .intro hstates htapes hstart hhalting hids fun id hid => hsubset ((hmem id).mp hid)

/-- **After a change of the layout** the lines spell the same transitions in some order, and a
header that agrees. -/
theorem Relayout.spells (hrel : Relayout ls ls') (hs : Spells a (tokenLines ls) h ts) :
    ∃ h' ts', h.Agrees h' ∧ ts.Perm ts' ∧ Spells a (tokenLines ls') h' ts' := by
  cases hrel with
  | addComment hgap =>
    refine ⟨h, ts, .refl h, .refl ts, ?_⟩
    rw [tokenLines_append] at hs ⊢
    rwa [tokenLines_cons_of_isComment (isComment_gap_append hgap _)]
  | dropComment hgap =>
    refine ⟨h, ts, .refl h, .refl ts, ?_⟩
    rw [tokenLines_append] at hs ⊢
    rwa [tokenLines_cons_of_isComment (isComment_gap_append hgap _)] at hs
  | addBlank hpre _ hgap =>
    refine ⟨h, ts, .refl h, .refl ts, ?_⟩
    rw [tokenLines_append] at hs ⊢
    rw [tokenLines_cons_of_isGap hgap]
    exact (spells_blank_iff hpre).mpr hs
  | dropBlank hpre hgap =>
    refine ⟨h, ts, .refl h, .refl ts, ?_⟩
    rw [tokenLines_append] at hs ⊢
    rw [tokenLines_cons_of_isGap hgap] at hs
    exact (spells_blank_iff hpre).mp hs
  | reorder hpre hperm =>
    rw [tokenLines_append] at hs ⊢
    obtain ⟨ts', hts, hs'⟩ := hs.reorder hpre (tokenLines_perm hperm)
    exact ⟨h, ts', .refl h, hts, hs'⟩
  | relist hpre hcode _ hspaced hspaced' htokens =>
    obtain rfl := hspaced.words_eq
    obtain rfl := hspaced'.words_eq
    rw [tokenLines_append, tokenLines_cons hcode] at hs
    obtain ⟨hspells, h', hagrees, hs'⟩ := hs.relist hpre htokens
    refine ⟨h', ts, hagrees, .refl ts, ?_⟩
    rw [tokenLines_append, tokenLines_cons (isComment_eq_false hspells)]
    exact hs'
  | respace _ hspaced hspaced' =>
    refine ⟨h, ts, .refl h, .refl ts, ?_⟩
    rw [tokenLines_append] at hs ⊢
    rwa [tokenLines_cons_congr (hspaced'.words_eq.trans hspaced.words_eq.symm)]

/-- So do the lines after any number of changes. -/
theorem spells_of_relayouts (hrel : Relation.ReflTransGen Relayout ls ls')
    (hs : Spells a (tokenLines ls) h ts) :
    ∃ h' ts', h.Agrees h' ∧ ts.Perm ts' ∧ Spells a (tokenLines ls') h' ts' := by
  induction hrel with
  | refl => exact ⟨h, ts, .refl h, .refl ts, hs⟩
  | tail _ hlast ih =>
    obtain ⟨h', ts', hagrees, hts, hs'⟩ := ih
    obtain ⟨h'', ts'', hagrees', hts', hs''⟩ := hlast.spells hs'
    exact ⟨h'', ts'', hagrees.trans hagrees', hts.trans hts', hs''⟩

theorem isLine_of_relayouts (hrel : Relation.ReflTransGen Relayout ls ls')
    (hls : ∀ l ∈ ls, Text.IsLine l) : ∀ l ∈ ls', Text.IsLine l := by
  induction hrel with
  | refl => exact hls
  | tail _ hlast ih => exact hlast.isLine ih

/-! ### Machines of changed texts -/

/-- Adding the same transitions in another order gives the states the same transitions in another
order. -/
theorem reorders_addAll (m : Machine) (hts : ts.Perm ts') :
    (addAll m ts).Reorders (addAll m ts') where
  numTapes_eq := by rw [numTapes_addAll, numTapes_addAll]
  start_eq := by rw [start_addAll, start_addAll]
  startIndex_eq := by rw [startIndex_addAll, startIndex_addAll]
  alphabet_eq := by rw [alphabet_addAll, alphabet_addAll]
  states := by
    have hlength : ∀ ts, (addAll m ts).states.length = m.states.length := numStates_addAll m
    refine List.forall₂_iff_get.mpr ⟨(hlength ts).trans (hlength ts').symm, fun i hi hi' => ?_⟩
    have hstate : ∀ ts (hi : i < (addAll m ts).states.length), ∃ s, m.states[i]? = some s ∧
        (addAll m ts).states.get ⟨i, hi⟩ =
          { s with transitions := s.transitions ++ ts.filter fun t => t.source.toNat == i } := by
      intro ts hi
      have hget := getElem?_states_addAll m ts i
      rw [List.getElem?_eq_getElem hi] at hget
      obtain ⟨s, hs, heq⟩ := Option.map_eq_some_iff.mp hget.symm
      exact ⟨s, hs, heq.symm⟩
    obtain ⟨s, hs, heq⟩ := hstate ts hi
    obtain ⟨s', hs', heq'⟩ := hstate ts' hi'
    obtain rfl : s = s' := Option.some.inj (hs.symm.trans hs')
    rw [heq, heq']
    exact ⟨rfl, rfl, (hts.filter _).append_left _⟩

/-- **The layout of a program text makes no difference.** A text whose layout is changed any number
of times can still be loaded, and the machine has the same states, listing, steps and answers. -/
theorem load_relayout (hload : load a text = .ok m)
    (hrel : Relation.ReflTransGen Relayout (Text.lines text) ls') :
    ∃ m', load a (Text.unlines ls') = .ok m' ∧
      m'.numStates = m.numStates ∧ m'.numTapes = m.numTapes ∧ m'.start = m.start ∧
      m'.states.map State.kind = m.states.map State.kind ∧ m'.describe = m.describe ∧
      ∀ w, (∀ n, m'.steps n (m'.initial w) = m.steps n (m.initial w)) ∧
        ∀ (σ ε : Type) (observe : Observer σ ε) (fuel : Nat) (noted : σ),
          m'.transform observe fuel noted w = m.transform observe fuel noted w ∧
          m'.accepts observe fuel noted w = m.accepts observe fuel noted w := by
  have hdet := deterministic_of_load hload
  obtain ⟨h, ts, hs, rfl⟩ := load_eq_ok_iff.mp hload
  obtain ⟨h', ts', hagrees, hts, hs'⟩ := spells_of_relayouts hrel hs
  have hlines : Text.lines (Text.unlines ls') = ls' :=
    Text.lines_unlines (isLine_of_relayouts hrel fun l => Text.isLine_of_mem_lines)
  have hreorders := reorders_addAll (h.machine a) hts
  refine ⟨addAll (h.machine a) ts', load_eq_ok_iff.mpr ⟨h', ts', ?_, ?_⟩, hreorders.numStates_eq,
    hreorders.numTapes_eq, hreorders.start_eq, hreorders.map_kind_eq, hreorders.describe_eq,
    fun w => ⟨fun n => ?_, fun σ ε observe fuel noted => ⟨?_, ?_⟩⟩⟩
  · rw [hlines]
    exact hs'
  · rw [hagrees.machine_eq]
  · rw [hreorders.initial_eq, hreorders.steps_eq hdet]
  · exact hreorders.transform_eq hdet observe fuel noted w
  · exact hreorders.accepts_eq hdet observe fuel noted w

/-- The program that reverses words in another layout: a remark comes first, the halting state is
listed twice, and what follows the header comes in reverse order. -/
def reversalRelaid : List Text :=
  "#".toText :: (Text.lines reversal).take 3 ++
    "2 2".toText :: "2".toText :: ((Text.lines reversal).drop 5).reverse

theorem reversal_relayouts :
    Relation.ReflTransGen Relayout (Text.lines reversal) reversalRelaid := by
  have hlines : Text.lines reversal = (Text.lines reversal).take 3 ++
      "2".toText :: "2".toText :: (Text.lines reversal).drop 5 := by
    decide +kernel
  have hthree : (tokenLines ("#".toText :: (Text.lines reversal).take 3)).length = 3 := by
    decide +kernel
  have htokens : ∀ token, token ∈ ["2".toText, "2".toText] ↔ token ∈ ["2".toText] := by
    intro token
    rw [List.mem_cons, or_iff_right_of_imp List.mem_singleton.mpr]
  rw [hlines, reversalRelaid]
  generalize (Text.lines reversal).take 3 = first at hthree
  generalize (Text.lines reversal).drop 5 = rest
  have hremark : Relayout ([] ++ (first ++ "2".toText :: "2".toText :: rest))
      ([] ++ "#".toText :: (first ++ "2".toText :: "2".toText :: rest)) :=
    .addComment Text.isGap_nil (by decide)
  have hrelist : Relayout ("#".toText :: first ++ "2".toText :: "2".toText :: rest)
      ("#".toText :: first ++ "2 2".toText :: "2".toText :: rest) :=
    .relist (.inl hthree) (by decide) (by decide)
      (Text.words_eq_iff.mp (by decide)) (Text.words_eq_iff.mp (by decide)) htokens
  have hfive : 5 ≤ (tokenLines ("#".toText :: first ++ ["2 2".toText, "2".toText])).length := by
    rw [tokenLines_append, List.length_append, hthree]
    decide
  have hreorder := Relayout.reorder hfive (List.reverse_perm rest).symm
  rw [List.append_assoc, List.append_assoc] at hreorder
  exact .tail (.tail (.single hremark) hrelist) hreorder

/-- The other layout gives another machine, but its listing and its steps are the same. -/
theorem load_reversalRelaid :
    load .standard reversal = .ok reversalMachine ∧
      ∃ m', load .standard (Text.unlines reversalRelaid) = .ok m' ∧ m' ≠ reversalMachine ∧
        m'.describe = reversalMachine.describe ∧
        ∀ w n, m'.steps n (m'.initial w) = reversalMachine.steps n (reversalMachine.initial w) := by
  obtain ⟨m', hload, -, -, -, -, hdescribe, hsteps⟩ :=
    load_relayout load_reversal reversal_relayouts
  refine ⟨load_reversal, m', hload, ?_, hdescribe, fun w n => (hsteps w).1 n⟩
  rintro rfl
  have hne : load .standard (Text.unlines reversalRelaid) ≠ .ok reversalMachine := by
    decide +kernel
  exact hne hload

end Program

end MultiTape
