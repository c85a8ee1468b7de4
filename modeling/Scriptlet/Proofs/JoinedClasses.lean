import Mathlib.Data.List.Induction
import Scriptlet.Style.Table

/-!
# Joining the classes of several tags

`resolve` takes the joined text apart again for every piece that it may add. It does not lose its place: from the
first piece on that is not empty, the pieces of the text are those that came so far, each once, in the order they
first came in (`Joins`). Before that the text is empty, and has the empty piece only, so empty pieces at the front
are passed over. What is joined in the end is read off in `resolve_pieces`.
-/

namespace Scriptlet.StyleTable

/-! ### Pieces -/

theorem pieces_eq_splitOn (cs : List Char) : pieces cs = cs.splitOn ' ' := by
  induction cs with
  | nil => rfl
  | cons c cs ih =>
    rw [pieces, List.splitOn_cons_eq_if_modifyHead, ih]
    split
    · rfl
    · obtain ⟨p, ps, hps⟩ := List.exists_cons_of_ne_nil (List.splitOn_ne_nil ' ' cs)
      rw [hps]
      rfl

theorem not_mem_of_mem_splitOn {cs p : List Char} (h : p ∈ cs.splitOn ' ') : ' ' ∉ p := by
  induction cs generalizing p with
  | nil =>
    cases List.mem_singleton.1 h
    exact List.not_mem_nil
  | cons c cs ih =>
    rw [List.splitOn_cons_eq_if_modifyHead] at h
    split at h
    · rcases List.mem_cons.1 h with rfl | h
      · exact List.not_mem_nil
      · exact ih h
    · rename_i hc
      obtain ⟨q, qs, hqs⟩ := List.exists_cons_of_ne_nil (List.splitOn_ne_nil ' ' cs)
      rw [hqs, List.modifyHead_cons] at h
      rcases List.mem_cons.1 h with rfl | h
      · intro hmem
        rcases List.mem_cons.1 hmem with rfl | hmem
        · exact hc rfl
        · exact ih (by rw [hqs]; exact List.mem_cons_self ..) hmem
      · exact ih (by rw [hqs]; exact List.mem_cons_of_mem q h)

/-! ### Joining -/

/-- The text joins the pieces, each once, in the order they first come in. -/
structure Joins (ps : List (List Char)) (joined : List Char) : Prop where
  eq_nil_iff : joined = [] ↔ ps = []
  splitOn : ps ≠ [] → joined.splitOn ' ' = ps.eraseDups

variable {ps : List (List Char)} {joined p : List Char}

theorem joins_nil : Joins [] [] := ⟨by simp, fun h => absurd rfl h⟩

theorem joinPiece_nil (p : List Char) : joinPiece [] p = p := by
  cases p <;> rfl

theorem joins_single (hp : p ≠ []) (hspace : ' ' ∉ p) : Joins [p] p where
  eq_nil_iff := by simp [hp]
  splitOn _ := by rw [List.splitOn_eq_singleton hspace]; rfl

theorem Joins.concat (h : Joins ps joined) (hps : ps ≠ []) (hspace : ' ' ∉ p) :
    Joins (ps ++ [p]) (joinPiece joined p) := by
  have hsplit := h.splitOn hps
  have hjoined : joined ≠ [] := mt h.eq_nil_iff.1 hps
  have hmem : (pieces joined).contains p = true ↔ p ∈ ps := by
    rw [pieces_eq_splitOn, hsplit, List.contains_iff_mem, List.mem_eraseDups]
  rw [joinPiece]
  by_cases hp : p ∈ ps
  · rw [if_pos (hmem.2 hp)]
    refine ⟨by simp [hjoined], fun _ => ?_⟩
    rw [hsplit, List.eraseDups_append]
    simp [List.removeAll, hp]
  · rw [if_neg (mt hmem.1 hp), if_neg (by simpa using hjoined)]
    refine ⟨by simp, fun _ => ?_⟩
    rw [List.splitOn_append_cons_self, hsplit, List.splitOn_eq_singleton hspace, List.eraseDups_append]
    simp [List.removeAll, hp, List.eraseDups_cons]

/-- Pieces that are joined to the empty text, those that are empty at the front left out. -/
theorem joins_foldl (ps : List (List Char)) (h : ∀ p ∈ ps, ' ' ∉ p) :
    Joins (ps.dropWhile List.isEmpty) (ps.foldl joinPiece []) := by
  induction ps using List.reverseRecOn with
  | nil => exact joins_nil
  | append_singleton ps p ih =>
    have hps := ih fun q hq => h q (List.mem_append_left _ hq)
    have hp : ' ' ∉ p := h p (by simp)
    rw [List.foldl_append, List.foldl_cons, List.foldl_nil, List.dropWhile_append]
    by_cases hnone : ps.dropWhile List.isEmpty = []
    · -- nothing has come yet but empty pieces
      rw [hnone] at hps ⊢
      rw [hps.eq_nil_iff.2 rfl, joinPiece_nil]
      cases p with
      | nil => exact joins_nil
      | cons c cs => exact joins_single (List.cons_ne_nil c cs) hp
    · rw [if_neg (by simpa using hnone)]
      exact hps.concat hnone hp

theorem dropWhile_isEmpty_of_ne_nil (h : ∀ p ∈ ps, p ≠ []) : ps.dropWhile List.isEmpty = ps := by
  cases ps with
  | nil => rfl
  | cons p ps =>
    have hp := h p (List.mem_cons_self ..)
    exact List.dropWhile_cons_of_neg (by simpa using hp)

theorem foldl_joinPiece_of_mem (h : ∀ p ∈ ps, p ∈ joined.splitOn ' ') : ps.foldl joinPiece joined = joined := by
  induction ps with
  | nil => rfl
  | cons p ps ih =>
    have hp : (pieces joined).contains p = true := by
      rw [pieces_eq_splitOn, List.contains_iff_mem]
      exact h p (List.mem_cons_self ..)
    rw [List.foldl_cons, joinPiece, if_pos hp]
    exact ih fun q hq => h q (List.mem_cons_of_mem _ hq)

/-! ### The classes of tags -/

/-- The pieces of the classes that the tags have, in order. -/
def classPieces (s : StyleTable) (tags : List StyleTag) : List (List Char) :=
  (tags.filterMap s.classFor).flatMap fun cls => cls.toList.splitOn ' '

variable {s : StyleTable} {tags : List StyleTag}

theorem classPieces_append (s : StyleTable) (tags tags' : List StyleTag) :
    s.classPieces (tags ++ tags') = s.classPieces tags ++ s.classPieces tags' := by
  rw [classPieces, List.filterMap_append, List.flatMap_append]
  rfl

theorem mem_classPieces : p ∈ s.classPieces tags ↔
    ∃ t ∈ tags, ∃ cls, s.classFor t = some cls ∧ p ∈ cls.toList.splitOn ' ' := by
  simp only [classPieces, List.mem_flatMap, List.mem_filterMap]
  constructor
  · rintro ⟨cls, ⟨t, ht, hcls⟩, hp⟩
    exact ⟨t, ht, cls, hcls, hp⟩
  · rintro ⟨t, ht, cls, hcls, hp⟩
    exact ⟨cls, ⟨t, ht, hcls⟩, hp⟩

theorem joins_classPieces (s : StyleTable) (tags : List StyleTag) :
    Joins ((s.classPieces tags).dropWhile List.isEmpty) ((s.classPieces tags).foldl joinPiece []) := by
  refine joins_foldl _ fun p hp => ?_
  obtain ⟨-, -, cls, -, hp⟩ := mem_classPieces.1 hp
  exact not_mem_of_mem_splitOn hp

theorem resolve_eq (s : StyleTable) (tags : List StyleTag) :
    s.resolve tags = if (s.classPieces tags).foldl joinPiece [] = [] then none
      else some (String.ofList ((s.classPieces tags).foldl joinPiece [])) := by
  have hpieces : s.classPieces tags = (tags.filterMap s.classFor).flatMap fun cls => pieces cls.toList := by
    simp only [classPieces, pieces_eq_splitOn]
  rw [hpieces, resolve]
  cases List.foldl joinPiece [] ((tags.filterMap s.classFor).flatMap fun cls => pieces cls.toList) <;> rfl

/-- The joined class of tags has the pieces of their classes, each once, in the order they first come in, where
empty pieces in front of the others do not count; there is none if there are no such pieces. If no class has an
empty piece, tags that are given twice say nothing new. -/
theorem resolve_pieces (s : StyleTable) (tags : List StyleTag) :
    (s.resolve tags = none ↔ (s.classPieces tags).dropWhile List.isEmpty = []) ∧
      (∀ cls, s.resolve tags = some cls →
        cls.toList.splitOn ' ' = ((s.classPieces tags).dropWhile List.isEmpty).eraseDups) ∧
      ((∀ t ∈ tags, ∀ cls, s.classFor t = some cls → [] ∉ cls.toList.splitOn ' ') →
        s.resolve (tags ++ tags) = s.resolve tags) := by
  have hjoins := joins_classPieces s tags
  refine ⟨?_, fun cls hcls => ?_, fun hfull => ?_⟩
  · rw [resolve_eq, ← hjoins.eq_nil_iff]
    split <;> simp [*]
  · rw [resolve_eq] at hcls
    split at hcls
    · cases hcls
    · rename_i hne
      cases hcls
      rw [String.toList_ofList]
      exact hjoins.splitOn (mt hjoins.eq_nil_iff.2 hne)
  · have hne : ∀ p ∈ s.classPieces tags, p ≠ [] := by
      rintro p hp rfl
      obtain ⟨t, ht, cls, hcls, hp⟩ := mem_classPieces.1 hp
      exact hfull t ht cls hcls hp
    rw [dropWhile_isEmpty_of_ne_nil hne] at hjoins
    -- every piece is there when it comes for the second time
    have hagain : ∀ p ∈ s.classPieces tags, p ∈ ((s.classPieces tags).foldl joinPiece []).splitOn ' ' := by
      intro p hp
      rw [hjoins.splitOn (List.ne_nil_of_mem hp), List.mem_eraseDups]
      exact hp
    rw [resolve_eq, resolve_eq, classPieces_append, List.foldl_append, foldl_joinPiece_of_mem hagain]

/-- Classes with doubled spaces, with a piece twice, and without a piece at all. -/
def spacedTable : StyleTable :=
  ((empty.insert { tag := .string } "  a  b a").insert { tag := .keyword } "").insert { tag := .number } "b c"

theorem resolve_pieces_spaced :
    (spacedTable.resolve [{ tag := .keyword }] = none ↔
        (spacedTable.classPieces [{ tag := .keyword }]).dropWhile List.isEmpty = []) ∧
      "a  b c".toList.splitOn ' ' = ((spacedTable.classPieces
        [{ tag := .keyword }, { tag := .string }, { tag := .number }]).dropWhile List.isEmpty).eraseDups ∧
      spacedTable.resolve ([{ tag := .number }] ++ [{ tag := .number }]) =
        spacedTable.resolve [{ tag := .number }] := by
  have hjoined : spacedTable.resolve [{ tag := .keyword }, { tag := .string }, { tag := .number }] =
      some "a  b c" := by decide +kernel
  have hnumber : spacedTable.classFor { tag := .number } = some "b c" := by decide +kernel
  refine ⟨(resolve_pieces _ _).1, (resolve_pieces _ _).2.1 _ hjoined, (resolve_pieces _ _).2.2 ?_⟩
  intro t ht cls hcls
  cases List.mem_singleton.1 ht
  cases hnumber.symm.trans hcls
  decide

end Scriptlet.StyleTable
