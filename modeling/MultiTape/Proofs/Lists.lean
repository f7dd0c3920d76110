import Mathlib.Data.List.Forall2

/-!
# Lists that correspond, and results

Readers and listings treat the items of a list one by one, so what they do is said by a relation
that holds place by place. A reader of a whole list succeeds when each item can be read, and fails
with the fault of an item.

## Main results

* `exists_of_forall₂`, `exists_forall₂`, `forall₂_of_length_eq`, `getD_of_forall₂`: lists that
  correspond place by place
* `forall_mem_flatMap_zip`: the items of two lists taken in turn
* `bind_eq_ok_iff`, `mapM_eq_ok_iff`: when computations that may fail succeed
* `bind_eq_error_iff`: when they fail
* `forM_eq_ok`, `forM_eq_error`: what a check of all items comes to
-/

namespace MultiTape

variable {α β ε : Type}

/-! ### Lists that correspond -/

section Forall₂

variable {R : α → β → Prop} {as : List α} {bs : List β}

theorem exists_of_forall₂ {b : β} (hR : List.Forall₂ R as bs) (hb : b ∈ bs) : ∃ a ∈ as, R a b := by
  induction hR with
  | nil => simp at hb
  | cons hab _ ih =>
    rcases List.mem_cons.mp hb with rfl | hb
    · exact ⟨_, List.mem_cons_self, hab⟩
    · obtain ⟨a, ha, hR⟩ := ih hb
      exact ⟨a, List.mem_cons_of_mem _ ha, hR⟩

theorem exists_forall₂ (h : ∀ a ∈ as, ∃ b, R a b) : ∃ bs, List.Forall₂ R as bs := by
  induction as with
  | nil => exact ⟨[], .nil⟩
  | cons a as ih =>
    rw [List.forall_mem_cons] at h
    obtain ⟨b, hb⟩ := h.1
    obtain ⟨bs, hbs⟩ := ih h.2
    exact ⟨b :: bs, .cons hb hbs⟩

theorem forall₂_of_length_eq (hlength : as.length = bs.length) (h : ∀ a ∈ as, ∀ b ∈ bs, R a b) :
    List.Forall₂ R as bs :=
  List.forall₂_iff_get.mpr ⟨hlength, fun _ _ _ => h _ (List.get_mem ..) _ (List.get_mem ..)⟩

theorem getD_of_forall₂ {a : α} {b : β} (h : List.Forall₂ R as bs) (hab : R a b) (i : Nat) :
    R (as.getD i a) (bs.getD i b) := by
  induction h generalizing i with
  | nil => exact hab
  | cons hR _ ih =>
    cases i with
    | zero => exact hR
    | succ i => exact ih i

theorem map_eq_map_iff_forall₂ {f : α → β} {as as' : List α} :
    as'.map f = as.map f ↔ List.Forall₂ (fun a a' => f a' = f a) as as' := by
  rw [← List.forall₂_eq_eq_eq, List.forall₂_map_left_iff, List.forall₂_map_right_iff]
  exact ⟨List.Forall₂.flip, List.Forall₂.flip⟩

end Forall₂

/-! ### Lists taken in turn -/

/-- What holds of the items of two lists holds of the items of both, taken in turn. -/
theorem forall_mem_flatMap_zip {P : α → Prop} {f : β → α} {as : List α} {bs : List β}
    (has : ∀ a ∈ as, P a) (hbs : ∀ b ∈ bs, P (f b)) :
    ∀ c ∈ (as.zip (bs.map f)).flatMap fun e => [e.1, e.2], P c := by
  intro c hc
  obtain ⟨e, he, hc⟩ := List.mem_flatMap.mp hc
  obtain ⟨ha, hb⟩ := List.of_mem_zip he
  rcases List.mem_pair.mp hc with rfl | rfl
  · exact has e.1 ha
  · obtain ⟨b, hb, heq⟩ := List.mem_map.mp hb
    exact heq ▸ hbs b hb

/-! ### Results -/

section Except

variable {x : Except ε α} {f : α → Except ε β} {b : β} {e : ε}

theorem bind_eq_ok_iff : x >>= f = .ok b ↔ ∃ a, x = .ok a ∧ f a = .ok b := by
  cases x <;> simp [bind, Except.bind]

theorem bind_eq_error_iff :
    x >>= f = .error e ↔ x = .error e ∨ ∃ a, x = .ok a ∧ f a = .error e := by
  cases x <;> simp [bind, Except.bind]

theorem map_eq_error_iff {f : α → β} : x.map f = .error e ↔ x = .error e := by
  cases x <;> simp [Except.map]

theorem mapError_eq_ok_iff {δ : Type} {f : ε → δ} {a : α} :
    x.mapError f = .ok a ↔ x = .ok a := by
  cases x <;> simp [Except.mapError]

/-- All items of a list are read when they correspond to what is read from them. -/
theorem mapM_eq_ok_iff {as : List α} {bs : List β} :
    as.mapM f = .ok bs ↔ List.Forall₂ (fun a b => f a = .ok b) as bs := by
  induction as generalizing bs with
  | nil =>
    rw [List.mapM_nil, List.forall₂_nil_left_iff]
    exact ⟨fun h => (Except.ok.inj h).symm, fun h => h ▸ rfl⟩
  | cons a as ih =>
    rw [List.mapM_cons, bind_eq_ok_iff, List.forall₂_cons_left_iff]
    simp only [bind_eq_ok_iff, ih]
    constructor
    · rintro ⟨b, hb, bs', hbs', h⟩
      exact ⟨b, bs', hb, hbs', (Except.ok.inj h).symm⟩
    · rintro ⟨b, bs', hb, hbs', rfl⟩
      exact ⟨b, hb, bs', hbs', rfl⟩

/-- A check of the items of a list succeeds if that of each item does. -/
theorem forM_eq_ok {as : List α} {f : α → Except ε Unit} (h : ∀ a ∈ as, f a = .ok ()) :
    as.forM f = .ok () := by
  induction as with
  | nil => rfl
  | cons a as ih =>
    rw [List.forall_mem_cons] at h
    rw [List.forM, h.1]
    exact ih h.2

/-- It fails as that of the first item for which it fails. -/
theorem forM_eq_error {before after : List α} {f : α → Except ε Unit} {a : α}
    (hbefore : ∀ b ∈ before, f b = .ok ()) (ha : f a = .error e) :
    (before ++ a :: after).forM f = .error e := by
  induction before with
  | nil =>
    rw [List.nil_append, List.forM, ha]
    rfl
  | cons b before ih =>
    rw [List.forall_mem_cons] at hbefore
    rw [List.cons_append, List.forM, hbefore.1]
    exact ih hbefore.2

end Except

end MultiTape
