import Mathlib.Data.List.Basic

/-!
# Pieces between separators

A sequence is divided at every occurrence of a separator.  When something is put after it, its last
piece grows by the first piece of what follows, and the other pieces stay.
-/

namespace BooleanSearch

section

variable {α : Type} [BEq α] {separator : α}

theorem splitOn_cons (first : α) (rest : List α) :
    (first :: rest).splitOn separator =
      if (first == separator) = true then [] :: rest.splitOn separator
      else (rest.splitOn separator).modifyHead (first :: ·) :=
  List.splitOnP_cons_eq_if_modifyHead first rest

theorem splitOn_ne_nil (separator : α) (sequence : List α) : sequence.splitOn separator ≠ [] :=
  List.splitOnP_ne_nil _ sequence

theorem exists_pieces (separator : α) (sequence : List α) :
    ∃ pieces last, sequence.splitOn separator = pieces ++ [last] :=
  ⟨_, _, (List.dropLast_concat_getLast (splitOn_ne_nil separator sequence)).symm⟩

theorem splitOn_of_not_mem [LawfulBEq α] {sequence : List α} (absent : separator ∉ sequence) :
    sequence.splitOn separator = [sequence] := by
  refine List.splitOnP_eq_singleton fun item member => ?_
  rw [beq_eq_false_iff_ne]
  rintro rfl
  exact absent member

/-- The piece that is open at the end of a sequence goes on with the first piece of the next. -/
theorem not_mem_of_mem_splitOn [LawfulBEq α] {sequence : List α} :
    ∀ piece ∈ sequence.splitOn separator, separator ∉ piece := by
  induction sequence with
  | nil =>
      intro piece member
      rw [List.mem_singleton.mp member]
      exact List.not_mem_nil
  | cons first rest inductionHypothesis =>
      obtain ⟨next, others, divided⟩ :=
        List.exists_cons_of_ne_nil (splitOn_ne_nil separator rest)
      rw [divided] at inductionHypothesis
      rw [splitOn_cons, divided]
      split
      · exact List.forall_mem_cons.mpr ⟨List.not_mem_nil, inductionHypothesis⟩
      · next other =>
          obtain ⟨absent, later⟩ := List.forall_mem_cons.mp inductionHypothesis
          refine List.forall_mem_cons.mpr ⟨?_, later⟩
          rw [List.mem_cons, not_or]
          exact ⟨fun same => other (beq_iff_eq.mpr same.symm), absent⟩

theorem splitOn_append {first second : List α} {pieces others : List (List α)} {last next : List α}
    (divided : first.splitOn separator = pieces ++ [last])
    (dividedNext : second.splitOn separator = next :: others) :
    (first ++ second).splitOn separator = pieces ++ (last ++ next) :: others := by
  induction first generalizing pieces last with
  | nil =>
      obtain ⟨rfl, same⟩ := List.append_inj' (show [] ++ [[]] = pieces ++ [last] from divided) rfl
      cases same
      exact dividedNext
  | cons char rest inductionHypothesis =>
      obtain ⟨inner, innerLast, dividedRest⟩ := exists_pieces separator rest
      have longer := inductionHypothesis dividedRest
      rw [List.cons_append, splitOn_cons, longer]
      rw [splitOn_cons, dividedRest] at divided
      by_cases separates : (char == separator) = true
      · rw [if_pos separates] at divided ⊢
        obtain ⟨rfl, same⟩ := List.append_inj' (show ([] :: inner) ++ [innerLast] = _ from divided) rfl
        cases same
        rfl
      · rw [if_neg separates] at divided ⊢
        cases inner with
        | nil =>
            obtain ⟨rfl, same⟩ := List.append_inj'
              (show [] ++ [char :: innerLast] = pieces ++ [last] from divided) rfl
            cases same
            rfl
        | cons head tail =>
            obtain ⟨rfl, same⟩ := List.append_inj'
              (show ((char :: head) :: tail) ++ [innerLast] = pieces ++ [last] from divided) rfl
            cases same
            rfl

/-- The piece that is open after a part of a sequence is no longer than its longest piece. -/
theorem length_le_of_open {bound : Int} {first later : List α} {pieces : List (List α)}
    {last : List α} (divided : first.splitOn separator = pieces ++ [last])
    (short : ∀ piece ∈ (first ++ later).splitOn separator, (piece.length : Int) ≤ bound) :
    (last.length : Int) ≤ bound := by
  obtain ⟨next, others, dividedLater⟩ :=
    List.exists_cons_of_ne_nil (splitOn_ne_nil separator later)
  rw [splitOn_append divided dividedLater] at short
  have whole := short (last ++ next) (by simp)
  rw [List.length_append] at whole
  omega

/-- The first piece stands at the front of a sequence, and the others stand somewhere in it. -/
theorem isInfix_of_mem_splitOn {sequence next : List α} {others : List (List α)}
    (divided : sequence.splitOn separator = next :: others) :
    next <+: sequence ∧ ∀ piece ∈ others, piece <:+: sequence := by
  induction sequence generalizing next others with
  | nil =>
      cases divided
      exact ⟨List.prefix_rfl, nofun⟩
  | cons char rest inductionHypothesis =>
      obtain ⟨inner, innerOthers, dividedRest⟩ :=
        List.exists_cons_of_ne_nil (splitOn_ne_nil separator rest)
      obtain ⟨front, inside⟩ := inductionHypothesis dividedRest
      rw [splitOn_cons, dividedRest] at divided
      split at divided
      · cases divided
        refine ⟨List.nil_prefix, List.forall_mem_cons.mpr ⟨List.infix_cons front.isInfix, ?_⟩⟩
        exact fun piece member => List.infix_cons (inside piece member)
      · cases divided
        exact ⟨(List.prefix_cons_inj char).mpr front,
          fun piece member => List.infix_cons (inside piece member)⟩

end

end BooleanSearch
