import BooleanSearch.Proofs.Match.Nearness
import BooleanSearch.Proofs.Text.Occurrences

/-!
# Plain terms found as they are written

Under options that neither fold case nor ask for whole words nor search fuzzily, a plain text is found
exactly in the contents that contain it.  A query without negations that is built from such terms holds
only of a content that contains one of them: a conjunction and a proximity need their left operand, and
a disjunction needs one of its operands.
-/

namespace BooleanSearch

open Query

/-! ## Terms -/

/-- Options under which a plain text is found exactly where it is written. -/
structure MatchOptions.AsWritten (options : MatchOptions) : Prop where
  caseSensitive : options.caseSensitive = true
  wholeWord : options.wholeWord = false
  fuzzy : options.fuzzy = false
  fuzzyNear : options.fuzzyNear = false

variable {fuzzily : Bool} {content : Text} {options : MatchOptions}

theorem MatchOptions.AsWritten.fuzzyAllowed (asWritten : options.AsWritten) (context : MatchContext) :
    options.fuzzyAllowed context = false := by
  cases context with
  | leaf => exact asWritten.fuzzy
  | near => exact asWritten.fuzzyNear

theorem substringPositions_exact (content : Text) {text : String} (some_ : text ≠ "") :
    substringPositions content text true = Text.occurrences content (Text.ofString text) := by
  unfold substringPositions
  dsimp only
  rw [if_neg (Text.not_isEmpty_ofString some_), if_pos rfl]

theorem exactPositions_of_anywhere (content : Text) {text : String} (some_ : text ≠ "")
    (caseSensitive : options.caseSensitive = true) (anywhere : options.wholeWord = false) :
    exactPositions content text options = Text.occurrences content (Text.ofString text) := by
  unfold exactPositions
  rw [anywhere, caseSensitive, if_neg Bool.false_ne_true, substringPositions_exact content some_]

theorem termSpots_ne_nil_iff (asWritten : options.AsWritten) {text : String} (some_ : text ≠ "")
    (context : MatchContext) :
    termSpots fuzzily content (.plain text) options context ≠ [] ↔
      text.toList <:+: content.toList := by
  have stands := exactPositions_of_anywhere content some_ asWritten.caseSensitive
    asWritten.wholeWord
  have whole : termSpots fuzzily content (.plain text) options context =
      Text.occurrences content (Text.ofString text) := by
    unfold termSpots textSpots
    dsimp only
    rw [asWritten.fuzzyAllowed, stands, if_neg (by simpa using some_)]
    cases Text.occurrences content (Text.ofString text) with
    | nil => rfl
    | cons => rfl
  rw [whole, Text.occurrences_ne_nil_iff]
  exact Iff.rfl

/-! ## Queries -/

/-- A text that a line can hold, and that is not empty. -/
structure InLine (text : String) : Prop where
  some_ : text ≠ ""
  noBreak : '\n' ∉ text.toList
  noReturn : '\r' ∉ text.toList

/-- A query without negations over plain texts that a line can hold. -/
inductive PlainQuery : Expr → Prop
  | literal {text : String} (inLine : InLine text) : PlainQuery (.literal (.plain text))
  | and {left right : Expr} : PlainQuery left → PlainQuery right → PlainQuery (.and left right)
  | or {left right : Expr} : PlainQuery left → PlainQuery right → PlainQuery (.or left right)
  | near {left right : Expr} (distance : Value) :
      PlainQuery left → PlainQuery right → PlainQuery (.near left right distance)

/-- A text contains a plain term of a query. -/
def HasTerm (query : Expr) (content : Text) : Prop :=
  ∃ text, .plain text ∈ query.literals ∧ text.toList <:+: content.toList

theorem HasTerm.mono {query larger : Expr} (has : HasTerm query content)
    (subset : ∀ term ∈ query.literals, term ∈ larger.literals) : HasTerm larger content := by
  obtain ⟨text, member, within⟩ := has
  exact ⟨text, subset _ member, within⟩

namespace PlainQuery

variable {query : Expr}

/-- All terms are plain texts that a line can hold. -/
theorem exists_of_mem_literals (plain : PlainQuery query) {term : Query.Literal}
    (member : term ∈ query.literals) : ∃ text, term = .plain text ∧ InLine text := by
  induction plain with
  | literal inLine => exact ⟨_, List.mem_singleton.mp member, inLine⟩
  | and _ _ leftHypothesis rightHypothesis =>
      exact (List.mem_append.mp member).elim leftHypothesis rightHypothesis
  | or _ _ leftHypothesis rightHypothesis =>
      exact (List.mem_append.mp member).elim leftHypothesis rightHypothesis
  | near _ _ _ leftHypothesis rightHypothesis =>
      exact (List.mem_append.mp member).elim leftHypothesis rightHypothesis

theorem inLine_of_mem (plain : PlainQuery query) {text : String}
    (member : .plain text ∈ query.literals) : InLine text := by
  obtain ⟨_, same, inLine⟩ := plain.exists_of_mem_literals member
  rwa [Query.Literal.plain.inj same]

/-- Without negations, no term stands below one. -/
theorem positiveLiterals_eq (plain : PlainQuery query) : query.positiveLiterals = query.literals := by
  induction plain with
  | literal => rfl
  | and _ _ leftHypothesis rightHypothesis =>
      exact congrArg₂ (· ++ ·) leftHypothesis rightHypothesis
  | or _ _ leftHypothesis rightHypothesis =>
      exact congrArg₂ (· ++ ·) leftHypothesis rightHypothesis
  | near _ _ _ leftHypothesis rightHypothesis =>
      exact congrArg₂ (· ++ ·) leftHypothesis rightHypothesis

end PlainQuery

/-! ## Verdicts -/

/-- A query without negations over plain texts holds only of a text that contains one of them. -/
theorem PlainQuery.hasTerm_of_verdict (asWritten : options.AsWritten) {query : Expr}
    (plain : PlainQuery query) (holds : verdict fuzzily content options query = .ok true) :
    HasTerm query content := by
  induction plain with
  | @literal text inLine =>
      have found : termSpots fuzzily content (.plain text) options .leaf ≠ [] := by
        simpa [verdict] using holds
      exact ⟨text, List.mem_singleton_self _,
        (termSpots_ne_nil_iff asWritten inLine.some_ .leaf).mp found⟩
  | @and left right _ _ leftHypothesis _ =>
      unfold verdict at holds
      obtain ⟨value, given, continued⟩ := exists_of_bind_eq_ok holds
      cases value with
      | false => cases continued
      | true => exact (leftHypothesis given).mono fun _ => List.mem_append_left _
  | @or left right _ _ leftHypothesis rightHypothesis =>
      unfold verdict at holds
      obtain ⟨value, given, continued⟩ := exists_of_bind_eq_ok holds
      cases value with
      | true => exact (leftHypothesis given).mono fun _ => List.mem_append_left _
      | false => exact (rightHypothesis continued).mono fun _ => List.mem_append_right _
  | @near left right distance plainLeft _ leftHypothesis _ =>
      unfold verdict at holds
      obtain ⟨_, spots, _, -, -, given, -, near⟩ := exists_spots_of_proximityVerdict holds
      -- The left operand has offsets: either it is a term, or it is satisfied as a query.
      have needed : HasTerm left content := by
        rcases term_or_verdict_of_operandSpots given (ne_nil_of_spotsNear near).1 with ⟨term, rfl, found⟩ | satisfied
        · cases plainLeft with
          | literal inLine =>
              exact ⟨_, List.mem_singleton_self _,
                (termSpots_ne_nil_iff asWritten inLine.some_ .near).mp found⟩
        · exact leftHypothesis satisfied
      exact needed.mono fun _ => List.mem_append_left _

theorem PlainQuery.hasTerm_of_queryVerdict (asWritten : options.AsWritten) {query : Expr}
    (plain : PlainQuery query) (holds : queryVerdict fuzzily query content options = .ok true) :
    HasTerm query content := by
  obtain ⟨_, -, decided⟩ := exists_of_bind_eq_ok holds
  exact plain.hasTerm_of_verdict asWritten decided

end BooleanSearch
