import MultiTape.Files.Tree
import MultiTape.Proofs.Lists

/-!
# Adding to files

Text that is added to a file is found behind what was there before, and nothing else changes. Since
no directory comes or goes, every path leads where it led. Paths that differ only in how their last
part goes on lead to different locations.

## Main definitions

* `FileTree.grown`: what stands at a location when text has been added to the file there

## Main results

* `FileTree.exists_of_append_eq_ok`: what comes of adding text to a file
* `FileTree.locate_of_directories`: where a path leads depends on the directories alone
* `FileTree.exists_names_eq_of_locate`: the last name of a location is the last part of the path
-/

namespace MultiTape

/-! ### Parts of a path -/

namespace Path

variable {name : Text}

theorem parts_of_notMem (h : .char '/' ∉ name) : parts name = [name] := by
  induction name with
  | nil => rfl
  | cons c name ih =>
    rw [List.mem_cons, not_or] at h
    have hc : (c == '/') = false := beq_false_of_ne (Ne.symm h.1)
    rw [parts, hc, ih h.2]
    rfl

/-- What is put behind a path belongs to its last part, unless it holds a slash. -/
theorem exists_parts_append (p : Text) :
    ∃ front last, ∀ name : Text, .char '/' ∉ name →
      parts (p ++ name) = front ++ [last ++ name] := by
  induction p with
  | nil => exact ⟨[], [], fun name h => parts_of_notMem h⟩
  | cons c p ih =>
    obtain ⟨front, last, hparts⟩ := ih
    cases hc : c == '/' with
    | true =>
      refine ⟨[] :: front, last, fun name h => ?_⟩
      rw [List.cons_append, parts, hc, if_pos rfl, hparts name h, List.cons_append]
    | false =>
      cases front with
      | nil =>
        refine ⟨[], c :: last, fun name h => ?_⟩
        rw [List.cons_append, parts, hc, hparts name h]
        rfl
      | cons part front =>
        refine ⟨(c :: part) :: front, last, fun name h => ?_⟩
        rw [List.cons_append, parts, hc, hparts name h]
        rfl

/-- A name is put behind a directory at the same place, however it goes on. -/
theorem exists_join_eq (directory stem : Text) :
    ∃ p, ∀ name : Text, name.head? ≠ some (.char '/') →
      join directory (stem ++ name) = p ++ name := by
  have hhead {name : Text} (hname : name.head? ≠ some (.char '/')) :
      ((stem ++ name).head? == some (.char '/')) = (stem.head? == some (.char '/')) := by
    cases stem <;> simp [hname]
  by_cases hstem : (stem.head? == some (.char '/')) = true
  · exact ⟨stem, fun name hname => by rw [join, hhead hname, if_pos hstem]⟩
  by_cases hslash : (directory.isEmpty || directory.getLast? == some (.char '/')) = true
  · refine ⟨directory ++ stem, fun name hname => ?_⟩
    rw [join, hhead hname, if_neg hstem, if_pos hslash, List.append_assoc]
  · refine ⟨directory ++ .char '/' :: stem, fun name hname => ?_⟩
    rw [join, hhead hname, if_neg hstem, if_neg hslash, List.append_assoc]
    rfl

end Path

/-! ### Names -/

namespace FileName

variable {s t : Text}

theorem ofText_append (s t : Text) : ofText (s ++ t) = ofText s ++ ofText t := List.flatMap_append

theorem bytes_of_lt {c : CodePoint} (h : c.toNat < 0x80) : bytes c = [UInt8.ofNat c.toNat] := by
  cases c with
  | char c => rw [bytes, byte?, Utf8.encodeChar, if_pos h]
  | surrogate i =>
    rw [CodePoint.toNat] at h
    omega

/-- A text of ASCII characters is known from the name that it gives. -/
theorem eq_of_ofText_eq (hs : ∀ c ∈ s, c.toNat < 0x80) (ht : ∀ c ∈ t, c.toNat < 0x80)
    (h : ofText s = ofText t) : s = t := by
  have hback {t : Text} (ht : ∀ c ∈ t, c.toNat < 0x80) :
      (ofText t).map (fun b => CodePoint.ofNat b.toNat) = t := by
    induction t with
    | nil => rfl
    | cons c t ih =>
      obtain ⟨hc, ht⟩ := List.forall_mem_cons.mp ht
      have hbyte : (UInt8.ofNat c.toNat).toNat = c.toNat := Nat.mod_eq_of_lt (by omega)
      rw [ofText, List.flatMap_cons, bytes_of_lt hc, List.singleton_append, List.map_cons, hbyte,
        CodePoint.ofNat_toNat]
      exact congrArg _ (ih ht)
  rw [← hback hs, h, hback ht]

end FileName

/-! ### Locations -/

namespace FileTree

variable {tree tree' : FileTree} {l l' : Location} {path name t : Text} {ps : List Text}

theorem follow_concat_eq_ok_iff {last : Text} :
    tree.follow l (ps ++ [last]) = .ok l' ↔
      ∃ m, tree.follow l ps = .ok m ∧ tree.follow m [last] = .ok l' := by
  induction ps generalizing l with
  | nil => simp [follow]
  | cons part ps ih =>
    rw [List.cons_append, follow, follow]
    split
    · simp
    · simp
    · split
      · simp
      · exact ih

theorem eq_enter_of_follow {last : Text} (h : tree.follow l [last] = .ok l') :
    l' = l.enter last := by
  rw [follow] at h
  split at h
  · exact nomatch h
  · exact nomatch h
  · split at h
    · exact nomatch h
    · exact (Except.ok.inj h).symm

/-- **The last name of a location is the last part of the path** that leads there, if that part ends
in a name which is no step up or down. -/
theorem exists_names_eq_of_locate (p : Text) :
    ∃ last : Text, ∀ (tree : FileTree) (name : Text) (l : Location), .char '/' ∉ name →
      2 < name.length → tree.locate (p ++ name) = .ok l →
        ∃ names, l.names = names ++ [FileName.ofText (last ++ name)] := by
  obtain ⟨front, last, hparts⟩ := Path.exists_parts_append p
  refine ⟨last, fun tree name l hname hlength h => ?_⟩
  rw [locate] at h
  split_ifs at h
  rw [hparts name hname, follow_concat_eq_ok_iff] at h
  obtain ⟨m, -, hlast⟩ := h
  have hlong : 2 < (last ++ name).length := by
    rw [List.length_append]
    omega
  have hidle : Path.isIdle (last ++ name) = false := by
    rw [Path.isIdle, Bool.or_eq_false_iff]
    refine ⟨?_, beq_false_of_ne fun h => ?_⟩
    · rw [List.isEmpty_eq_false_iff]
      exact List.ne_nil_of_length_pos (by omega)
    · rw [h] at hlong
      exact absurd hlong (by decide)
  have hup : last ++ name ≠ [.char '.', .char '.'] := fun h => by
    rw [h] at hlong
    exact absurd hlong (by decide)
  rw [eq_enter_of_follow hlast, Location.enter, hidle, if_neg (by simp), if_neg hup]
  exact ⟨m.names, rfl⟩

section Directories

variable (hdirectories : ∀ l, tree.find? l = some .directory → tree'.find? l = some .directory)
include hdirectories

theorem follow_of_directories (h : tree.follow l ps = .ok l') : tree'.follow l ps = .ok l' := by
  induction ps generalizing l with
  | nil => exact h
  | cons part ps ih =>
    rw [follow] at h ⊢
    split at h
    · exact nomatch h
    · exact nomatch h
    · next hl =>
      rw [hdirectories l hl]
      split at h
      · exact nomatch h
      · next hlength =>
        simp only [hlength, if_false]
        exact ih h

/-- **Where a path leads depends on the directories alone.** -/
theorem locate_of_directories (h : tree.locate path = .ok l) : tree'.locate path = .ok l := by
  rw [locate] at h ⊢
  split_ifs at h ⊢
  exact follow_of_directories hdirectories h

end Directories

/-! ### Adding text -/

/-- What stands at a location when text has been added to the file there; where there is no file,
the first text makes one. -/
def grown (node : Option Node) (t : Text) : Option Node :=
  if t.isEmpty then node
  else match node with
    | none => some (.file (Utf8.encode t))
    | some (.file bytes) => some (.file (bytes ++ Utf8.encode t))
    | some .directory => some .directory

theorem grown_nil (node : Option Node) : grown node [] = node := rfl

theorem grown_grown (node : Option Node) (s t : Text) :
    grown (grown node s) t = grown node (s ++ t) := by
  cases s with
  | nil => rfl
  | cons c s =>
    cases t with
    | nil => rw [grown_nil, List.append_nil]
    | cons d t =>
      rcases node with _ | (bytes | _)
      · simp [grown, Utf8.encode]
      · simp [grown, Utf8.encode]
      · rfl

theorem grown_eq_directory_iff {node : Option Node} :
    grown node t = some .directory ↔ node = some .directory := by
  unfold grown
  split
  · rfl
  · rcases node with _ | (bytes | _) <;> simp

/-- What was added to a file can be told from what stands there afterwards. -/
theorem encode_eq_of_grown_eq {node : Option Node} {s : Text} (hnode : node ≠ some .directory)
    (h : grown node s = grown node t) : Utf8.encode s = Utf8.encode t := by
  rcases node with _ | (bytes | _)
  · cases s <;> cases t <;> simp_all [grown]
  · cases s <;> cases t <;> simp_all [grown, Utf8.encode]
  · exact absurd rfl hnode

theorem names_ne_nil (h : tree.find? l ≠ some .directory) : l.names ≠ [] := fun hl =>
  h (by simp [find?, hl])

/-- **What comes of adding text to a file.** The path leads to a location that holds no directory,
and only there something changes. -/
theorem exists_of_append_eq_ok (ht : t ≠ []) (h : tree.append path t = .ok tree') :
    ∃ l, tree.locate path = .ok l ∧ tree.find? l ≠ some .directory ∧
      ∀ l', tree'.find? l' = if l = l' then grown (tree.find? l) t else tree.find? l' := by
  have key {l : Location} {node : Node} (hl : tree.find? l ≠ some .directory)
      (hnode : some node = grown (tree.find? l) t) (l' : Location) :
      (tree.put l node).find? l' = if l = l' then grown (tree.find? l) t else tree.find? l' := by
    rcases eq_or_ne l'.names [] with hnil | hnames
    · have hne : l ≠ l' := fun heq => names_ne_nil hl (heq ▸ hnil)
      rw [if_neg hne, find?, find?, hnil]
      rfl
    · rw [find?_put tree l l' node hnames, hnode]
  rw [append] at h
  split at h
  · cases h
  · next l hl =>
    have hempty : t.isEmpty = false := by simpa using ht
    split at h
    · cases h
    · next bytes hfile =>
      obtain rfl := Except.ok.inj h
      refine ⟨l, hl, by simp [hfile], key (by simp [hfile]) ?_⟩
      rw [hfile, grown, hempty]
      rfl
    · next hnone =>
      obtain rfl := Except.ok.inj h
      refine ⟨l, hl, by simp [hnone], key (by simp [hnone]) ?_⟩
      rw [hnone, grown, hempty]
      rfl

end FileTree

end MultiTape
