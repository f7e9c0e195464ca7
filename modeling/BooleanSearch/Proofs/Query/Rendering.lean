import BooleanSearch.Proofs.Query.WrittenTerms
import Mathlib

/-!
# Written queries

An operand can be read off the front of a text that goes on with a blank, a comma, a closing
parenthesis or a colon, and a query off the front of one that goes on with one of the latter three.
So no two legible queries begin the same text.
-/

namespace BooleanSearch.Query

/-- What ends a query inside a longer text. -/
def endsQuery (char : Char) : Bool :=
  char == ':' || char == ')' || char == ','

theorem StartsWith.endsOperand_of_endsQuery {after : List Char}
    (ended : StartsWith endsQuery after) : StartsWith endsOperand after := by
  refine ended.imp fun char ends => ?_
  simp only [endsQuery, Bool.or_eq_true, beq_iff_eq] at ends
  rcases ends with (rfl | rfl) | rfl <;> rfl

/-! ## Whole numbers -/

def inNumber (char : Char) : Bool :=
  char.isDigit || char == '-'

theorem inNumber_of_mem_toString {number : Int} :
    ∀ char ∈ (toString number).toList, inNumber char = true := by
  intro char member
  have digit : ∀ {count : Nat}, char ∈ count.repr.toList → inNumber char = true := by
    intro count inDigits
    rw [Nat.toList_repr] at inDigits
    simp [inNumber, Nat.isDigit_of_mem_toDigits (by decide) (by decide) inDigits]
  rw [Int.toString_eq_repr, Int.repr_eq_if] at member
  split at member
  · exact digit member
  · rw [String.toList_append, List.mem_append] at member
    rcases member with sign | inDigits
    · have minus : char = '-' := by simpa using sign
      simp [inNumber, minus]
    · exact digit inDigits

theorem startsWith_not_inNumber {after : List Char} (ended : StartsWith endsOperand after) :
    StartsWith (fun char => !inNumber char) after :=
  ended.imp (of_endsOperand rfl rfl rfl rfl)

theorem int_of_toString_append_eq {number other : Int} {after otherAfter : List Char}
    (ended : StartsWith endsOperand after) (otherEnded : StartsWith endsOperand otherAfter)
    (same : (toString number).toList ++ after = (toString other).toList ++ otherAfter) :
    number = other ∧ after = otherAfter := by
  have read := word_inj inNumber_of_mem_toString inNumber_of_mem_toString
    (startsWith_not_inNumber ended) (startsWith_not_inNumber otherEnded) same
  exact ⟨Int.repr_injective (String.toList_injective read.1), read.2⟩

namespace Expr

def written (query : Expr) : List Char :=
  query.render.toList

/-- The characters of a query where it is an operand. -/
def operand (query : Expr) : List Char :=
  (group query.isGrouped query.render).toList

/-- The terms of a query are legible, and the distances in it are whole numbers. -/
def Legible : Expr → Prop
  | .literal term => term.Legible
  | .not child => child.Legible
  | .and left right => left.Legible ∧ right.Legible
  | .or left right => left.Legible ∧ right.Legible
  | .near left right distance =>
    left.Legible ∧ right.Legible ∧ ∃ number, distance = .int number

section

variable (left right child : Expr)

theorem operand_of_grouped {query : Expr} (grouped : query.isGrouped = true) (after : List Char) :
    query.operand ++ after = '(' :: (query.written ++ ')' :: after) := by
  have bracketed : query.operand = ("(" ++ query.render ++ ")").toList :=
    congrArg String.toList (if_pos grouped)
  rw [bracketed, String.toList_append, String.toList_append, List.append_assoc, List.append_assoc]
  rfl

theorem operand_of_not_grouped {query : Expr} (single : query.isGrouped = false) :
    query.operand = query.written :=
  congrArg String.toList (if_neg (Bool.eq_false_iff.mp single))

theorem written_not : (not child).written = 'N' :: 'O' :: 'T' :: ' ' :: child.operand := by
  change ("NOT " ++ group child.isGrouped child.render).toList = _
  rw [String.toList_append]
  rfl

theorem written_and : (and left right).written =
    left.operand ++ ' ' :: 'A' :: 'N' :: 'D' :: ' ' :: right.operand := by
  change (group left.isGrouped left.render ++ " AND " ++
    group right.isGrouped right.render).toList = _
  rw [String.toList_append, String.toList_append, List.append_assoc]
  rfl

theorem written_or : (or left right).written =
    left.operand ++ ' ' :: 'O' :: 'R' :: ' ' :: right.operand := by
  change (group left.isGrouped left.render ++ " OR " ++
    group right.isGrouped right.render).toList = _
  rw [String.toList_append, String.toList_append, List.append_assoc]
  rfl

theorem written_near (number : Int) (after : List Char) :
    (near left right (.int number)).written ++ after =
      'N' :: 'E' :: 'A' :: 'R' :: '(' :: (left.written ++ ',' :: ' ' ::
        (right.written ++ ',' :: ' ' :: ((toString number).toList ++ ')' :: after))) := by
  change ("NEAR(" ++ left.render ++ ", " ++ right.render ++ ", " ++ toString number ++
    ")").toList ++ after = _
  simp only [String.toList_append, List.append_assoc]
  rfl

end

/-- What a query begins with where it is an operand. -/
def opening : Expr → Opening
  | .literal term => term.opening
  | .not _ => .negation
  | .and _ _ => .group
  | .or _ _ => .group
  | .near _ _ _ => .proximity

theorem opening_eq_group_iff {query : Expr} :
    query.opening = .group ↔ query.isGrouped = true := by
  cases query with
  | literal term =>
      have notGroup : term.opening ≠ .group := term.opening_ne rfl
      simp [opening, isGrouped, notGroup]
  | not child => simp [opening, isGrouped]
  | and left right => simp [opening, isGrouped]
  | or left right => simp [opening, isGrouped]
  | near left right distance => simp [opening, isGrouped]

theorem openingOf_operand {query : Expr} {after : List Char}
    (ended : StartsWith endsOperand after) :
    openingOf (query.operand ++ after) = query.opening := by
  cases query with
  | literal term => exact Literal.openingOf_render ended
  | not child =>
      rw [operand_of_not_grouped rfl, written_not]
      rfl
  | and left right =>
      rw [operand_of_grouped rfl]
      rfl
  | or left right =>
      rw [operand_of_grouped rfl]
      rfl
  | near left right distance =>
      change openingOf (("NEAR(" ++ left.render ++ ", " ++ right.render ++ ", " ++
        distance.display ++ ")").toList ++ after) = .proximity
      simp only [String.toList_append, List.append_assoc]
      rfl

/-! ## Reading written queries -/

/-- No other legible operand begins a text that the operand begins. -/
def ReadsAsOperand (query : Expr) : Prop :=
  ∀ other : Expr, other.Legible → ∀ after otherAfter, StartsWith endsOperand after →
    StartsWith endsOperand otherAfter → query.operand ++ after = other.operand ++ otherAfter →
    query = other ∧ after = otherAfter

/-- No other legible query begins a text that the query begins. -/
def ReadsWhole (query : Expr) : Prop :=
  ∀ other : Expr, other.Legible → ∀ after otherAfter, StartsWith endsQuery after →
    StartsWith endsQuery otherAfter → query.written ++ after = other.written ++ otherAfter →
    query = other ∧ after = otherAfter

/-- The operand that a written query begins with. -/
def firstOperand : Expr → Expr
  | .and left _ => left
  | .or left _ => left
  | query => query

/-- What a written query goes on with after its first operand. -/
def continuation : Expr → List Char
  | .and _ right => ' ' :: 'A' :: 'N' :: 'D' :: ' ' :: right.operand
  | .or _ right => ' ' :: 'O' :: 'R' :: ' ' :: right.operand
  | _ => []

theorem written_eq_firstOperand_append (query : Expr) (after : List Char) :
    query.written ++ after = query.firstOperand.operand ++ (query.continuation ++ after) := by
  cases query with
  | literal term => rfl
  | not child => rfl
  | and left right => rw [written_and, List.append_assoc]; rfl
  | or left right => rw [written_or, List.append_assoc]; rfl
  | near left right distance => rfl

theorem legible_firstOperand {query : Expr} (legible : query.Legible) :
    query.firstOperand.Legible := by
  cases query with
  | literal term => exact legible
  | not child => exact legible
  | and left right => exact legible.1
  | or left right => exact legible.1
  | near left right distance => exact legible

theorem startsWith_continuation {query : Expr} {after : List Char}
    (ended : StartsWith endsQuery after) :
    StartsWith endsOperand (query.continuation ++ after) := by
  cases query with
  | literal term => exact ended.endsOperand_of_endsQuery
  | not child => exact ended.endsOperand_of_endsQuery
  | and left right => exact ⟨' ', _, rfl, rfl⟩
  | or left right => exact ⟨' ', _, rfl, rfl⟩
  | near left right distance => exact ended.endsOperand_of_endsQuery

/-- Written queries that begin the same text have the same first operand, and the same text after
it. -/
theorem firstOperand_of_written_append_eq {query : Expr}
    (reads : query.firstOperand.ReadsAsOperand) {other : Expr} (legible : other.Legible)
    {after otherAfter : List Char} (ended : StartsWith endsQuery after)
    (otherEnded : StartsWith endsQuery otherAfter)
    (same : query.written ++ after = other.written ++ otherAfter) :
    query.firstOperand = other.firstOperand ∧
      query.continuation ++ after = other.continuation ++ otherAfter := by
  rw [written_eq_firstOperand_append, written_eq_firstOperand_append] at same
  exact reads _ (legible_firstOperand legible) _ _ (startsWith_continuation ended)
    (startsWith_continuation otherEnded) same

/-- What ends a query is no blank. -/
theorem blank_cons_ne {after : List Char} (ended : StartsWith endsQuery after)
    (rest : List Char) : ' ' :: rest ≠ after := by
  obtain ⟨first, others, rfl, ends⟩ := ended
  intro same
  cases same
  cases ends

theorem readsWhole_of_not_grouped {query : Expr} (single : query.isGrouped = false)
    (reads : query.ReadsAsOperand) : query.ReadsWhole := by
  intro other legible after otherAfter ended otherEnded same
  have itself : query.firstOperand = query ∧ query.continuation = [] := by
    cases query <;> first | exact ⟨rfl, rfl⟩ | cases single
  have read := firstOperand_of_written_append_eq (itself.1.symm ▸ reads) legible ended otherEnded
    same
  rw [itself.1, itself.2, List.nil_append] at read
  cases other with
  | literal term => exact read
  | not child => exact read
  | and left right => exact absurd read.2.symm (blank_cons_ne ended _)
  | or left right => exact absurd read.2.symm (blank_cons_ne ended _)
  | near left right distance => exact read

theorem readsWhole_and {left right : Expr} (leftReads : left.ReadsAsOperand)
    (rightReads : right.ReadsAsOperand) : (and left right).ReadsWhole := by
  intro other legible after otherAfter ended otherEnded same
  have reads : (and left right).firstOperand.ReadsAsOperand := leftReads
  obtain ⟨first, rest⟩ :=
    firstOperand_of_written_append_eq reads legible ended otherEnded same
  cases other with
  | literal term => exact absurd rest (blank_cons_ne otherEnded _)
  | not child => exact absurd rest (blank_cons_ne otherEnded _)
  | and otherLeft otherRight =>
      simp only [continuation, List.cons_append, List.cons.injEq, true_and] at rest
      obtain ⟨second, last⟩ := rightReads otherRight legible.2 after otherAfter
        ended.endsOperand_of_endsQuery otherEnded.endsOperand_of_endsQuery rest
      exact ⟨congrArg₂ and first second, last⟩
  | or otherLeft otherRight => simp [continuation] at rest
  | near otherLeft otherRight distance => exact absurd rest (blank_cons_ne otherEnded _)

theorem readsWhole_or {left right : Expr} (leftReads : left.ReadsAsOperand)
    (rightReads : right.ReadsAsOperand) : (or left right).ReadsWhole := by
  intro other legible after otherAfter ended otherEnded same
  have reads : (or left right).firstOperand.ReadsAsOperand := leftReads
  obtain ⟨first, rest⟩ :=
    firstOperand_of_written_append_eq reads legible ended otherEnded same
  cases other with
  | literal term => exact absurd rest (blank_cons_ne otherEnded _)
  | not child => exact absurd rest (blank_cons_ne otherEnded _)
  | and otherLeft otherRight => simp [continuation] at rest
  | or otherLeft otherRight =>
      simp only [continuation, List.cons_append, List.cons.injEq, true_and] at rest
      obtain ⟨second, last⟩ := rightReads otherRight legible.2 after otherAfter
        ended.endsOperand_of_endsQuery otherEnded.endsOperand_of_endsQuery rest
      exact ⟨congrArg₂ or first second, last⟩
  | near otherLeft otherRight distance => exact absurd rest (blank_cons_ne otherEnded _)

theorem readsAsOperand_of_grouped {query : Expr} (grouped : query.isGrouped = true)
    (reads : query.ReadsWhole) : query.ReadsAsOperand := by
  intro other legible after otherAfter ended otherEnded same
  have openings : query.opening = other.opening := by
    rw [← openingOf_operand ended, same, openingOf_operand otherEnded]
  have otherGrouped : other.isGrouped = true :=
    opening_eq_group_iff.mp (openings.symm.trans (opening_eq_group_iff.mpr grouped))
  rw [operand_of_grouped grouped, operand_of_grouped otherGrouped] at same
  obtain ⟨found, rest⟩ := reads other legible _ _ ⟨')', after, rfl, rfl⟩
    ⟨')', otherAfter, rfl, rfl⟩ (List.tail_eq_of_cons_eq same)
  exact ⟨found, List.tail_eq_of_cons_eq rest⟩

theorem readsAsOperand_literal {term : Literal} (legible : term.Legible) :
    (literal term).ReadsAsOperand := by
  intro other otherLegible after otherAfter ended otherEnded same
  have openings : term.opening = other.opening := by
    rw [← openingOf_operand otherEnded, ← same]
    exact (Literal.openingOf_render ended).symm
  cases other with
  | literal otherTerm =>
      obtain ⟨found, rest⟩ :=
        Literal.eq_of_render_append_eq ended otherEnded legible otherLegible same
      exact ⟨congrArg literal found, rest⟩
  | not child => exact absurd openings (term.opening_ne rfl)
  | and left right => exact absurd openings (term.opening_ne rfl)
  | or left right => exact absurd openings (term.opening_ne rfl)
  | near left right distance => exact absurd openings (term.opening_ne rfl)

theorem readsAsOperand_not {child : Expr} (reads : child.ReadsAsOperand) :
    (not child).ReadsAsOperand := by
  intro other legible after otherAfter ended otherEnded same
  have openings : Opening.negation = other.opening := by
    rw [← openingOf_operand otherEnded, ← same, openingOf_operand ended]
    rfl
  cases other with
  | literal term => exact absurd openings.symm (term.opening_ne rfl)
  | not otherChild =>
      rw [operand_of_not_grouped rfl, operand_of_not_grouped rfl, written_not, written_not] at same
      simp only [List.cons_append, List.cons.injEq, true_and] at same
      obtain ⟨found, rest⟩ := reads otherChild legible after otherAfter ended otherEnded same
      exact ⟨congrArg not found, rest⟩
  | and left right => cases openings
  | or left right => cases openings
  | near left right distance => cases openings

theorem readsAsOperand_near {left right : Expr} (number : Int) (leftReads : left.ReadsWhole)
    (rightReads : right.ReadsWhole) : (near left right (.int number)).ReadsAsOperand := by
  intro other legible after otherAfter ended otherEnded same
  have openings : Opening.proximity = other.opening := by
    rw [← openingOf_operand otherEnded, ← same, openingOf_operand ended]
    rfl
  cases other with
  | literal term => exact absurd openings.symm (term.opening_ne rfl)
  | not child => cases openings
  | and otherLeft otherRight => cases openings
  | or otherLeft otherRight => cases openings
  | near otherLeft otherRight distance =>
      obtain ⟨leftLegible, rightLegible, otherNumber, rfl⟩ := legible
      rw [operand_of_not_grouped rfl, operand_of_not_grouped rfl, written_near,
        written_near] at same
      simp only [List.cons.injEq, true_and] at same
      obtain ⟨foundLeft, afterLeft⟩ := leftReads otherLeft leftLegible _ _
        ⟨',', _, rfl, rfl⟩ ⟨',', _, rfl, rfl⟩ same
      simp only [List.cons.injEq, true_and] at afterLeft
      obtain ⟨foundRight, afterRight⟩ := rightReads otherRight rightLegible _ _
        ⟨',', _, rfl, rfl⟩ ⟨',', _, rfl, rfl⟩ afterLeft
      simp only [List.cons.injEq, true_and] at afterRight
      obtain ⟨foundNumber, rest⟩ := int_of_toString_append_eq
        ⟨')', after, rfl, rfl⟩ ⟨')', otherAfter, rfl, rfl⟩ afterRight
      rw [foundLeft, foundRight, foundNumber]
      exact ⟨rfl, List.tail_eq_of_cons_eq rest⟩

/-- A legible query is the only one that begins a text that it begins, as an operand and as a
whole. -/
theorem reads {query : Expr} (legible : query.Legible) :
    query.ReadsAsOperand ∧ query.ReadsWhole := by
  induction query with
  | literal term =>
      have asOperand := readsAsOperand_literal legible
      exact ⟨asOperand, readsWhole_of_not_grouped rfl asOperand⟩
  | not child inductionHypothesis =>
      have asOperand := readsAsOperand_not (inductionHypothesis legible).1
      exact ⟨asOperand, readsWhole_of_not_grouped rfl asOperand⟩
  | and left right leftHypothesis rightHypothesis =>
      have whole := readsWhole_and (leftHypothesis legible.1).1 (rightHypothesis legible.2).1
      exact ⟨readsAsOperand_of_grouped rfl whole, whole⟩
  | or left right leftHypothesis rightHypothesis =>
      have whole := readsWhole_or (leftHypothesis legible.1).1 (rightHypothesis legible.2).1
      exact ⟨readsAsOperand_of_grouped rfl whole, whole⟩
  | near left right distance leftHypothesis rightHypothesis =>
      obtain ⟨leftLegible, rightLegible, number, rfl⟩ := legible
      have asOperand := readsAsOperand_near number (leftHypothesis leftLegible).2
        (rightHypothesis rightLegible).2
      exact ⟨asOperand, readsWhole_of_not_grouped rfl asOperand⟩

end Expr

end BooleanSearch.Query
