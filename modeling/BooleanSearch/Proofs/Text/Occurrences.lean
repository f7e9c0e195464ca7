import BooleanSearch.Text.Basic
import Mathlib.Data.List.Infix

/-!
# Where a part stands in a text

A part stands at an offset if the text goes on with it there.  The occurrences of a part are all
offsets at which it stands, in increasing order.
-/

namespace BooleanSearch.Text

variable {text part : Text} {start : Nat}

theorem agreesFrom_iff (count index : Nat) :
    agreesFrom text part start count index = true ↔
      ∀ step < count, text[start + (index + step)]? = part[index + step]? := by
  induction count generalizing index with
  | zero => exact iff_of_true rfl nofun
  | succ count inductionHypothesis =>
      unfold agreesFrom
      rw [Bool.and_eq_true, beq_iff_eq, inductionHypothesis, Nat.forall_lt_succ_left]
      simp only [Nat.add_zero, Nat.add_assoc, Nat.add_comm 1]

/-- A part stands where its characters do. -/
theorem occursAt_iff_getElem? :
    occursAt text part start = true ↔
      start + part.size ≤ text.size ∧ ∀ step < part.size, text[start + step]? = part[step]? := by
  unfold occursAt
  rw [Bool.and_eq_true, decide_eq_true_iff, agreesFrom_iff]
  simp only [Nat.zero_add]

/-- A part stands where the rest of a text begins with it. -/
theorem occursAt_iff :
    occursAt text part start = true ↔
      start + part.size ≤ text.size ∧ part.toList <+: text.toList.drop start := by
  rw [occursAt_iff_getElem?, List.prefix_iff_getElem?]
  refine and_congr_right fun _ => forall₂_congr fun step within => ?_
  rw [List.getElem?_drop, Array.getElem?_toList, Array.getElem_toList,
    Array.getElem?_eq_getElem within]

theorem occursAt_iff_prefix (some_ : part.size ≠ 0) :
    occursAt text part start = true ↔ part.toList <+: text.toList.drop start := by
  rw [occursAt_iff]
  refine and_iff_right_of_imp fun here => ?_
  have shorter := here.length_le
  rw [List.length_drop, Array.length_toList, Array.length_toList] at shorter
  omega

/-- No occurrence begins too close to the end of a text. -/
theorem occurrences_eq_filter (text part : Text) :
    occurrences text part = (List.range (text.size + 1)).filter (occursAt text part) := by
  obtain ⟨more, whole⟩ : ∃ more, text.size + 1 = text.size + 1 - part.size + more :=
    ⟨text.size + 1 - (text.size + 1 - part.size), by omega⟩
  have none : ((List.range more).map (text.size + 1 - part.size + ·)).filter
      (occursAt text part) = [] := by
    rw [List.filter_eq_nil_iff]
    intro start member here
    obtain ⟨index, -, rfl⟩ := List.mem_map.mp member
    have within := (occursAt_iff.mp here).1
    omega
  conv_rhs => rw [whole, List.range_add, List.filter_append, none, List.append_nil]
  rfl

theorem mem_occurrences_iff : start ∈ occurrences text part ↔ occursAt text part start = true := by
  rw [occurrences_eq_filter, List.mem_filter, List.mem_range]
  refine and_iff_right_of_imp fun here => ?_
  have within := (occursAt_iff.mp here).1
  omega

theorem occurrences_pairwise_lt (text part : Text) : (occurrences text part).Pairwise (· < ·) :=
  List.pairwise_lt_range.filter _

theorem occurrences_ne_nil_iff :
    occurrences text part ≠ [] ↔ part.toList <:+: text.toList := by
  unfold occurrences
  rw [ne_eq, List.filter_eq_nil_iff]
  push Not
  simp only [List.mem_range, occursAt_iff]
  constructor
  · rintro ⟨start, -, -, here⟩
    exact here.isInfix.trans (List.drop_suffix start text.toList).isInfix
  · intro within
    obtain ⟨rest, here, ending⟩ := List.infix_iff_prefix_suffix.mp within
    have shorter : part.size ≤ rest.length := here.length_le
    have ended : rest.length ≤ text.size := ending.length_le
    rw [List.suffix_iff_eq_drop.mp ending] at here
    exact ⟨text.size - rest.length, by omega, by omega, here⟩

theorem size_ofString_ne_zero {text : String} (some_ : text ≠ "") : (ofString text).size ≠ 0 := by
  unfold ofString
  simpa using some_

theorem not_isEmpty_ofString {text : String} (some_ : text ≠ "") :
    ¬ (ofString text).isEmpty = true := by
  rw [Array.isEmpty_iff_size_eq_zero]
  exact size_ofString_ne_zero some_

end BooleanSearch.Text
