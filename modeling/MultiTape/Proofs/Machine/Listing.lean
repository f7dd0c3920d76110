import MultiTape.Machine.Listing
import MultiTape.Proofs.Machine.Reorder
import MultiTape.Proofs.Text.Separate

/-!
# Listings

The listing of a machine has a line for each of its transitions, state by state and sorted within
each. Nothing is lost in it: the symbols of an alphabet may be commas, brackets or digits, but each
is a single character, so when the number of tapes is known, a line shows where its symbols, moves
and numbers end. Hence machines of one size have one listing exactly when they have the same
transitions, and machines with one listing that start alike do the same.

## Main definitions

* `Machine.Precedes`: the order in which transitions are listed
* `Machine.listing`: all transitions in that order

## Main results

* `Machine.Fits.render_inj`: a transition can be told from its line
* `Machine.WellFormed.lines_describe`, `Machine.WellFormed.pairwise_listing`: the lines of a listing
* `Machine.describe_eq_iff`: listings show which transitions there are, and nothing else
* `Machine.reorders_of_describe_eq`: machines with one listing
-/

namespace MultiTape

/-! ### The text of a transition -/

namespace Move

theorem separate_render (m m' : Move) : Text.Separate m.render m'.render := by
  intro u v h
  cases m <;> cases m' <;> simp_all [render, String.toText]

theorem render_injective : Function.Injective render := by
  intro m m' h
  cases m <;> cases m' <;> simp_all [render, String.toText]

theorem isLine_render (m : Move) : Text.IsLine m.render := by
  cases m <;> decide

end Move

/-- The fields of a rule's text. -/
theorem Rule.renderWith_eq {μ : Type} (r : Rule μ) (inputMove : Text)
    (effects : List (Symbol × Text)) :
    r.renderWith inputMove effects =
      .char '(' :: ((Text.decimal r.source ++ ", ".toText) ++
        (List.intercalate ", ".toText (r.input :: r.reads) ++ (") -> (".toText ++
          ((Text.decimal r.target ++ ", ".toText) ++ (List.intercalate ", ".toText
            (inputMove :: effects.flatMap fun (s, move) => [s, move]) ++ [.char ')']))))) := by
  simp [renderWith, renderGuard, List.intercalate_cons_cons, String.toText]

/-- The text of a transition is a line if its symbols are. -/
theorem Transition.isLine_render (t : Transition)
    (hsymbol : ∀ s ∈ t.input :: t.reads ++ t.writes, Text.IsLine s) : Text.IsLine t.render := by
  have heffects : ∀ w ∈ t.effects.flatMap fun (s, move) => [s, move], Text.IsLine w :=
    forall_mem_flatMap_zip (fun s hs => hsymbol s (List.mem_append_right _ hs))
      fun d _ => d.isLine_render
  have hsep : Text.IsLine ", ".toText := by decide
  rw [Transition.render, Rule.renderWith_eq]
  simp only [Text.isLine_cons, Text.isLine_append]
  refine ⟨by decide, ⟨Text.isLine_decimal _, hsep⟩, ?_, by decide,
    ⟨Text.isLine_decimal _, hsep⟩, ?_, by decide⟩
  · exact Text.isLine_intercalate hsep fun s hs => hsymbol s (List.mem_append_left _ hs)
  · exact Text.isLine_intercalate hsep
      (List.forall_mem_cons.mpr ⟨t.inputMove.isLine_render, heffects⟩)

theorem flatMap_pair_injective {α : Type} :
    Function.Injective fun es : List (α × α) => es.flatMap fun (a, b) => [a, b] := by
  intro es es' h
  induction es generalizing es' with
  | nil => cases es' <;> simp_all
  | cons e es ih =>
    cases es' with
    | nil => simp at h
    | cons e' es' =>
      obtain ⟨hfst, hsnd, hrest⟩ : e.1 = e'.1 ∧ e.2 = e'.2 ∧ _ = _ := by simpa using h
      rw [Prod.ext hfst hsnd, ih hrest]

namespace Machine

variable {m m' : Machine} {s : State} {t t' : Transition}

namespace Fits

theorem length_eq_one (ht : m.Fits t) {s : Symbol} (hs : s ∈ t.input :: t.reads ++ t.writes) :
    s.length = 1 := by
  obtain ⟨c, rfl, -⟩ := ht.symbol s hs
  rfl

theorem length_effects (ht : m.Fits t) : t.effects.length = m.width := by
  rw [Transition.effects, List.length_zip, List.length_map, ht.length_writes, ht.length_moves,
    Nat.min_self]

theorem separate_guard (ht : m.Fits t) (ht' : m'.Fits t') (hwidth : m'.width = m.width) :
    List.Forall₂ Text.Separate (t.input :: t.reads) (t'.input :: t'.reads) := by
  refine forall₂_of_length_eq ?_ fun s hs s' hs' => Text.separate_of_length_eq ?_
  · rw [List.length_cons, List.length_cons, ht.length_reads, ht'.length_reads, hwidth]
  · rw [ht.length_eq_one (List.mem_append_left _ hs),
      ht'.length_eq_one (List.mem_append_left _ hs')]

theorem separate_effects (ht : m.Fits t) (ht' : m'.Fits t') (hwidth : m'.width = m.width) :
    List.Forall₂ Text.Separate (t.effects.flatMap fun (s, move) => [s, move])
      (t'.effects.flatMap fun (s, move) => [s, move]) := by
  have heffects : List.Forall₂ (fun e e' => Text.Separate e.1 e'.1 ∧ Text.Separate e.2 e'.2)
      t.effects t'.effects := by
    refine forall₂_of_length_eq ?_ fun e he e' he' => ?_
    · rw [ht.length_effects, ht'.length_effects, hwidth]
    · obtain ⟨hsymbol, hmove⟩ := List.of_mem_zip he
      obtain ⟨hsymbol', hmove'⟩ := List.of_mem_zip he'
      obtain ⟨move, -, hmove⟩ := List.mem_map.mp hmove
      obtain ⟨move', -, hmove'⟩ := List.mem_map.mp hmove'
      refine ⟨Text.separate_of_length_eq ?_, ?_⟩
      · rw [ht.length_eq_one (List.mem_append_right _ hsymbol),
          ht'.length_eq_one (List.mem_append_right _ hsymbol')]
      · rw [← hmove, ← hmove']
        exact move.separate_render move'
  exact List.rel_flatMap heffects fun e e' h => .cons h.1 (.cons h.2 .nil)

/-- What is written can be told from the effects. -/
theorem effects_inj (ht : m.Fits t) (ht' : m'.Fits t') (h : t.effects = t'.effects) :
    t.writes = t'.writes ∧ t.moves = t'.moves := by
  have hunzip {m : Machine} {t : Transition} (ht : m.Fits t) :
      t.effects.unzip = (t.writes, t.moves.map Move.render) :=
    List.unzip_zip (by rw [List.length_map, ht.length_writes, ht.length_moves])
  obtain ⟨hwrites, hmoves⟩ := Prod.mk.inj ((hunzip ht).symm.trans (h ▸ hunzip ht'))
  exact ⟨hwrites, Move.render_injective.list_map hmoves⟩

/-- **A transition can be told from its line**, when the number of tapes is known. -/
theorem render_inj (ht : m.Fits t) (ht' : m'.Fits t') (hwidth : m'.width = m.width)
    (h : t.render = t'.render) : t = t' := by
  rw [Transition.render, Transition.render, Rule.renderWith_eq, Rule.renderWith_eq] at h
  -- the fields are split off from left to right
  obtain ⟨hsource, h⟩ := (Text.separate_decimal [' ']).append_inj (List.cons.inj h).2
  obtain ⟨hguard, h⟩ := Text.intercalate_append_inj (ht.separate_guard ht' hwidth) h
  obtain ⟨htarget, h⟩ := (Text.separate_decimal [' ']).append_inj (List.append_cancel_left h)
  obtain ⟨heffect, -⟩ := Text.intercalate_append_inj
    (.cons (t.inputMove.separate_render t'.inputMove) (ht.separate_effects ht' hwidth)) h
  obtain ⟨hinput, hreads⟩ := List.cons.inj hguard
  obtain ⟨hmove, heffects⟩ := List.cons.inj heffect
  obtain ⟨hwrites, hmoves⟩ := ht.effects_inj ht' (flatMap_pair_injective heffects)
  cases t
  cases t'
  rw [Rule.mk.injEq]
  exact ⟨Text.decimal_injective (List.append_cancel_right hsource), hinput, hreads,
    Text.decimal_injective (List.append_cancel_right htarget), Move.render_injective hmove,
    hwrites, hmoves⟩

theorem isLine_render (ht : m.Fits t) : Text.IsLine t.render := by
  refine t.isLine_render fun s hs => ?_
  obtain ⟨c, rfl, hc, -⟩ := ht.symbol s hs
  exact Text.isLine_of_isBlank_eq_false (by simpa using hc)

end Fits

theorem render_ne_nil (t : Transition) : t.render ≠ [] := by
  simp [Transition.render, Rule.renderWith_eq]

/-! ### The lines of a listing -/

theorem sortedTransitions_perm (s : State) : (sortedTransitions s).Perm s.transitions :=
  List.mergeSort_perm ..

/-- All transitions in the order in which they are listed. -/
def listing (m : Machine) : List Transition := m.states.flatMap sortedTransitions

theorem listing_perm (m : Machine) : m.listing.Perm m.transitions :=
  .flatMap_left _ fun s _ => sortedTransitions_perm s

theorem describe_eq_map (s : State) : s.describe = (sortedTransitions s).map Transition.render := by
  have hle : ∀ t ∈ s.transitions, ∀ t' ∈ s.transitions,
      Text.le t.render t'.render = Text.le t.render t'.render := fun _ _ _ _ => rfl
  exact (List.map_mergeSort hle).symm

theorem describeLines_eq_map (m : Machine) : m.describeLines = m.listing.map Transition.render := by
  rw [describeLines, listing, List.map_flatMap, funext describe_eq_map]

/-- One transition comes before another in listings: by their sources, and then by their texts. -/
def Precedes (t t' : Transition) : Prop :=
  t.source < t'.source ∨ t.source = t'.source ∧ Text.le t.render t'.render = true

theorem pairwise_sortedTransitions (s : State) :
    (sortedTransitions s).Pairwise fun t t' => Text.le t.render t'.render = true := by
  rw [← List.pairwise_map (R := fun s t => Text.le s t = true), ← describe_eq_map]
  exact Text.pairwise_sort _

namespace WellFormed

variable (hm : m.WellFormed)
include hm

theorem fits_of_mem (ht : t ∈ m.transitions) : m.Fits t := by
  obtain ⟨s, hs, ht⟩ := List.mem_flatMap.mp ht
  exact hm.fits s hs t ht

/-- **A listing has one line for each transition.** -/
theorem lines_describe : Text.lines m.describe = m.listing.map Transition.render := by
  rw [describe, describeLines_eq_map]
  refine Text.lines_intercalate fun l hl => ?_
  obtain ⟨t, ht, rfl⟩ := List.mem_map.mp hl
  have hfits : m.Fits t := hm.fits_of_mem (m.listing_perm.mem_iff.mp ht)
  exact ⟨hfits.isLine_render, render_ne_nil t⟩

/-- **The lines are sorted** by the sources of the transitions, and then by their texts. -/
theorem pairwise_listing : m.listing.Pairwise Precedes := by
  have hsource {s : State} (hs : s ∈ m.states) {t : Transition} (ht : t ∈ sortedTransitions s) :
      t.source = s.id :=
    hm.source_eq s hs t ((sortedTransitions_perm s).mem_iff.mp ht)
  have hids : m.states.Pairwise fun s s' => s.id < s'.id := by
    refine List.pairwise_iff_getElem.mpr fun i j hi hj hij => ?_
    rw [hm.id_eq i _ (List.getElem?_eq_getElem hi), hm.id_eq j _ (List.getElem?_eq_getElem hj)]
    exact Int.ofNat_lt.mpr hij
  refine List.pairwise_flatMap.mpr ⟨fun s hs => ?_, ?_⟩
  · refine (pairwise_sortedTransitions s).imp_of_mem fun ht ht' hle => .inr ⟨?_, hle⟩
    rw [hsource hs ht, hsource hs ht']
  · refine hids.imp_of_mem fun hs hs' hlt t ht t' ht' => .inl ?_
    rw [hsource hs ht, hsource hs' ht']
    exact hlt

/-- The transitions of a state are those that start there. -/
theorem mem_transitions_iff {i : Nat} (hs : m.states[i]? = some s) :
    t ∈ s.transitions ↔ t ∈ m.transitions ∧ t.source = i := by
  constructor
  · intro ht
    have hmem : s ∈ m.states := List.mem_of_getElem? hs
    exact ⟨List.mem_flatMap.mpr ⟨s, hmem, ht⟩, (hm.source_eq s hmem t ht).trans (hm.id_eq i s hs)⟩
  · rintro ⟨ht, hsource⟩
    obtain ⟨s', hs', ht⟩ := List.mem_flatMap.mp ht
    obtain ⟨j, hj⟩ := List.mem_iff_getElem?.mp hs'
    have hji : (j : Int) = i := by
      rw [← hsource, hm.source_eq s' hs' t ht, hm.id_eq j s' hj]
    obtain rfl : j = i := Int.ofNat_inj.mp hji
    obtain rfl : s' = s := Option.some.inj (hj.symm.trans hs)
    exact ht

end WellFormed

/-! ### Machines with one listing -/

section Describe

variable (hm : m.WellFormed) (hm' : m'.WellFormed)
include hm hm'

theorem mem_transitions_of_describe_eq (hwidth : m'.width = m.width)
    (h : m'.describe = m.describe) (ht : t ∈ m.transitions) : t ∈ m'.transitions := by
  have hmap : m'.listing.map Transition.render = m.listing.map Transition.render := by
    rw [← hm'.lines_describe, h, hm.lines_describe]
  have hrender : t.render ∈ m'.listing.map Transition.render := by
    rw [hmap]
    exact List.mem_map_of_mem (m.listing_perm.mem_iff.mpr ht)
  obtain ⟨t', ht', hrender⟩ := List.mem_map.mp hrender
  rw [m'.listing_perm.mem_iff] at ht'
  rwa [← (hm'.fits_of_mem ht').render_inj (hm.fits_of_mem ht) hwidth.symm hrender]

variable (hdet : m.Deterministic) (hdet' : m'.Deterministic) (hstates : m'.numStates = m.numStates)
include hdet hdet' hstates

/-- With the same transitions altogether, machines have the same transitions state by state. -/
theorem forall₂_states_of_mem_iff (h : ∀ t, t ∈ m'.transitions ↔ t ∈ m.transitions) :
    List.Forall₂ (fun s s' => s'.id = s.id ∧ s.transitions.Perm s'.transitions)
      m.states m'.states := by
  refine List.forall₂_iff_get.mpr ⟨hstates.symm, fun i hi hi' => ?_⟩
  have hs : m.states[i]? = some m.states[i] := List.getElem?_eq_getElem hi
  have hs' : m'.states[i]? = some m'.states[i] := List.getElem?_eq_getElem hi'
  have hnodup := List.Nodup.of_map _ (hdet.nodup_of_mem (List.getElem_mem hi))
  have hnodup' := List.Nodup.of_map _ (hdet'.nodup_of_mem (List.getElem_mem hi'))
  refine ⟨(hm'.id_eq i _ hs').trans (hm.id_eq i _ hs).symm, ?_⟩
  refine (List.perm_ext_iff_of_nodup hnodup hnodup').mpr fun t => ?_
  rw [hm.mem_transitions_iff hs, hm'.mem_transitions_iff hs', h]

/-- **Listings show which transitions there are**, and nothing else. -/
theorem describe_eq_iff (hwidth : m'.width = m.width) :
    m'.describe = m.describe ↔ ∀ t, t ∈ m'.transitions ↔ t ∈ m.transitions := by
  constructor
  · exact fun h t => ⟨mem_transitions_of_describe_eq hm' hm hwidth.symm h.symm,
      mem_transitions_of_describe_eq hm hm' hwidth h⟩
  · intro h
    exact describe_eq_of_forall₂
      ((forall₂_states_of_mem_iff hm hm' hdet hdet' hstates h).imp fun _ _ hs => hs.2)

/-- **Machines with one listing** that have the same tapes, start state and kinds of states differ
only in the order of their transitions. -/
theorem reorders_of_describe_eq (htapes : m'.numTapes = m.numTapes)
    (halphabet : m'.alphabet = m.alphabet) (hstart : m'.start = m.start)
    (hkinds : m'.states.map State.kind = m.states.map State.kind)
    (h : m'.describe = m.describe) : m.Reorders m' := by
  have hwidth : m'.width = m.width := by rw [width, width, htapes]
  have hmem := (describe_eq_iff hm hm' hdet hdet' hstates hwidth).mp h
  obtain ⟨hlength, hsame⟩ :=
    List.forall₂_iff_get.mp (forall₂_states_of_mem_iff hm hm' hdet hdet' hstates hmem)
  obtain ⟨-, hkind⟩ := List.forall₂_iff_get.mp (map_eq_map_iff_forall₂.mp hkinds)
  refine ⟨htapes, hstart, ?_, halphabet, List.forall₂_iff_get.mpr ⟨hlength, fun i hi hi' => ?_⟩⟩
  · rw [hm'.startIndex_eq, hm.startIndex_eq, hstart]
  · exact ⟨(hsame i hi hi').1, hkind i hi hi', (hsame i hi hi').2⟩

end Describe

end Machine

end MultiTape
