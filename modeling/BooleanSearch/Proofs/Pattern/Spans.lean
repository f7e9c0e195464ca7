import BooleanSearch.Pattern.Compiled
import Mathlib.Data.List.Basic

/-!
# Matches of one width

If all matches of a pattern are equally wide, then whether one begins at an offset does not depend on
where the search began.  So a search finds the first offset that fits, then the first one at or behind
the end of that match, and so on.
-/

namespace BooleanSearch.Pattern

/-! ## Offsets kept apart -/

/-- The offsets that are taken from left to right, where each one rules out those closer behind it
than a width. -/
def spacedFrom (width least : Nat) : List Nat → List Nat
  | [] => []
  | offset :: rest =>
    if offset < least then spacedFrom width least rest
    else offset :: spacedFrom width (offset + width) rest

/-- The offsets that are taken from left to right, none closer to the one before than a width. -/
def spaced (width : Nat) (offsets : List Nat) : List Nat :=
  spacedFrom width 0 offsets

theorem spacedFrom_sublist (width least : Nat) (offsets : List Nat) :
    (spacedFrom width least offsets).Sublist offsets := by
  induction offsets generalizing least with
  | nil => exact .slnil
  | cons offset rest inductionHypothesis =>
      unfold spacedFrom
      split
      · exact (inductionHypothesis least).cons offset
      · exact (inductionHypothesis _).cons_cons offset

theorem length_spacedFrom_le (width least : Nat) (offsets : List Nat) :
    (spacedFrom width least offsets).length ≤ offsets.length :=
  (spacedFrom_sublist width least offsets).length_le

theorem spacedFrom_eq_self_iff {width least : Nat} {offsets : List Nat} :
    spacedFrom width least offsets = offsets ↔
      (∀ offset ∈ offsets, least ≤ offset) ∧
        offsets.Pairwise fun first second => first + width ≤ second := by
  induction offsets generalizing least with
  | nil => exact iff_of_true rfl ⟨nofun, .nil⟩
  | cons offset rest inductionHypothesis =>
      unfold spacedFrom
      rw [List.forall_mem_cons, List.pairwise_cons]
      split
      · next closer =>
          refine iff_of_false (fun same => ?_) fun ⟨⟨behind, _⟩, _⟩ => absurd closer (by omega)
          have shorter := length_spacedFrom_le width least rest
          rw [same, List.length_cons] at shorter
          omega
      · next behind =>
          rw [List.cons_inj_right, inductionHypothesis]
          constructor
          · rintro ⟨apart, others⟩
            refine ⟨⟨Nat.not_lt.mp behind, fun next member => ?_⟩, apart, others⟩
            have := apart next member
            omega
          · rintro ⟨-, apart, others⟩
            exact ⟨apart, others⟩

/-- Every offset is taken exactly if no two are closer than the width. -/
theorem spaced_eq_self_iff {width : Nat} {offsets : List Nat} :
    spaced width offsets = offsets ↔
      offsets.Pairwise fun first second => first + width ≤ second := by
  unfold spaced
  rw [spacedFrom_eq_self_iff]
  exact and_iff_right fun offset _ => Nat.zero_le offset

/-! ## Offsets at which matches begin -/

/-- The offsets of a text, from one on, that pass a test. -/
def hitsFrom (hit : Nat → Bool) (size offset : Nat) : List Nat :=
  (List.range' offset (size + 1 - offset)).filter hit

section

variable {hit : Nat → Bool} {size offset width least : Nat}

theorem hitsFrom_zero : hitsFrom hit size 0 = (List.range (size + 1)).filter hit := by
  unfold hitsFrom
  rw [List.range_eq_range']
  rfl

theorem hitsFrom_of_lt (behind : size < offset) : hitsFrom hit size offset = [] := by
  unfold hitsFrom
  rw [Nat.sub_eq_zero_of_le behind]
  rfl

theorem hitsFrom_eq (within : offset ≤ size) :
    hitsFrom hit size offset =
      if hit offset then offset :: hitsFrom hit size (offset + 1)
      else hitsFrom hit size (offset + 1) := by
  unfold hitsFrom
  rw [show size + 1 - offset = size + 1 - (offset + 1) + 1 by omega, List.range'_succ,
    List.filter_cons]

theorem exists_of_hitsFrom_cons {start : Nat} {rest : List Nat}
    (found : hitsFrom hit size offset = start :: rest) :
    start ≤ size ∧ rest = hitsFrom hit size (start + 1) := by
  induction distance : size + 1 - offset generalizing offset with
  | zero =>
      rw [hitsFrom_of_lt (by omega)] at found
      cases found
  | succ distance inductionHypothesis =>
      have within : offset ≤ size := by omega
      rw [hitsFrom_eq within] at found
      split at found
      · cases found
        exact ⟨within, rfl⟩
      · exact inductionHypothesis found (by omega)

theorem length_hitsFrom_le {later : Nat} (behind : offset ≤ later) :
    (hitsFrom hit size later).length ≤ (hitsFrom hit size offset).length := by
  induction behind with
  | refl => exact Nat.le_refl _
  | @step later _ inductionHypothesis =>
      refine Nat.le_trans ?_ inductionHypothesis
      by_cases within : later ≤ size
      · rw [hitsFrom_eq within]
        split
        · exact Nat.le_succ _
        · exact Nat.le_refl _
      · rw [hitsFrom_of_lt (by omega)]
        exact Nat.zero_le _

/-- Hits that are too close are passed over. -/
theorem spacedFrom_hitsFrom :
    spacedFrom width least (hitsFrom hit size offset) =
      spaced width (hitsFrom hit size (max least offset)) := by
  induction distance : size + 1 - offset generalizing offset with
  | zero =>
      rw [hitsFrom_of_lt (by omega), hitsFrom_of_lt (by omega)]
      rfl
  | succ distance inductionHypothesis =>
      have within : offset ≤ size := by omega
      have next := @inductionHypothesis (offset + 1) (by omega)
      by_cases closer : offset < least
      · rw [Nat.max_eq_left (by omega)] at next ⊢
        rw [← next, hitsFrom_eq within]
        split
        · rw [spacedFrom, if_pos closer]
        · rfl
      · rw [Nat.max_eq_right (by omega)] at next ⊢
        rw [hitsFrom_eq within]
        split
        · rw [spaced, spacedFrom, spacedFrom, if_neg closer, if_neg (Nat.not_lt_zero _)]
        · exact next

/-- The first hit is taken, and then those from its end on, or from the next offset if it has no
width. -/
theorem spaced_hitsFrom_cons {start : Nat} {rest : List Nat}
    (found : hitsFrom hit size offset = start :: rest) :
    spaced width (hitsFrom hit size offset) =
      start :: spaced width (hitsFrom hit size (max (start + width) (start + 1))) := by
  obtain ⟨-, rfl⟩ := exists_of_hitsFrom_cons found
  rw [found, ← spacedFrom_hitsFrom, spaced, spacedFrom, if_neg (Nat.not_lt_zero _)]

end

/-! ## Searches -/

/-- The matches of a pattern in a text all have one width, and they begin at the offsets that pass a
test. -/
def Compiled.Fits (pattern : Compiled) (text : Text) (width : Nat) (hit : Nat → Bool) : Prop :=
  ∀ mustMove offset, pattern.matchAt? text mustMove offset =
    if hit offset && !(mustMove && width == 0) then some (offset + width) else none

namespace Compiled.Fits

variable {pattern : Compiled} {text : Text} {width : Nat} {hit : Nat → Bool}

/-- The first match begins at the first hit; where the search has to move on, at one behind its
offset. -/
theorem searchFrom?_eq (fits : pattern.Fits text width hit) {mustMove : Bool}
    (flat : mustMove = true → width = 0) (offset : Nat) :
    pattern.searchFrom? text (text.size + 1 - offset) mustMove offset =
      (hitsFrom hit text.size (offset + mustMove.toNat)).head?.map fun start =>
        (start, start + width) := by
  induction distance : text.size + 1 - offset generalizing mustMove offset with
  | zero =>
      rw [hitsFrom_of_lt (by omega)]
      rfl
  | succ distance inductionHypothesis =>
      have within : offset ≤ text.size := by omega
      have later := @inductionHypothesis false nofun (offset + 1) (by omega)
      unfold searchFrom?
      rw [fits]
      cases mustMove with
      | true =>
          rw [flat rfl] at later ⊢
          rw [if_neg (by simp)]
          exact later
      | false =>
          change _ = (hitsFrom hit text.size offset).head?.map _
          rw [hitsFrom_eq within]
          cases hit offset with
          | true => rfl
          | false => exact later

theorem map_fst_spansFrom (fits : pattern.Fits text width hit) {fuel : Nat} {mustMove : Bool}
    (flat : mustMove = true → width = 0) {offset : Nat} {found : Array (Nat × Nat)}
    (enough : (hitsFrom hit text.size (offset + mustMove.toNat)).length < fuel) :
    (pattern.spansFrom text fuel mustMove offset found).toList.map Prod.fst =
      found.toList.map Prod.fst ++
        spaced width (hitsFrom hit text.size (offset + mustMove.toNat)) := by
  induction fuel generalizing mustMove offset found with
  | zero => exact absurd enough (Nat.not_lt_zero _)
  | succ fuel inductionHypothesis =>
      unfold spansFrom
      rw [fits.searchFrom?_eq flat]
      cases hits : hitsFrom hit text.size (offset + mustMove.toNat) with
      | nil =>
          rw [show spaced width [] = [] from rfl, List.append_nil]
          rfl
      | cons start rest =>
          obtain ⟨-, rfl⟩ := exists_of_hitsFrom_cons hits
          -- Behind a match without width, the next search has to move on.
          have next : start + width + (start == start + width).toNat =
              max (start + width) (start + 1) := by
            by_cases thin : width = 0
            · rw [thin, Nat.add_zero, beq_self_eq_true, Bool.toNat_true]
              omega
            · rw [beq_eq_false_iff_ne.mpr (by omega), Bool.toNat_false]
              omega
          have shorter : (hitsFrom hit text.size (max (start + width) (start + 1))).length ≤
              (hitsFrom hit text.size (start + 1)).length :=
            length_hitsFrom_le (Nat.le_max_right _ _)
          rw [hits, List.length_cons] at enough
          dsimp only [List.head?_cons, Option.map_some]
          rw [← hits, spaced_hitsFrom_cons hits, inductionHypothesis, next, Array.toList_push,
            List.map_append, List.append_assoc]
          · rfl
          · intro same
            have := beq_iff_eq.mp same
            omega
          · rw [next]
            omega

/-- The matches begin at the hits that are not closer to the one before than the width. -/
theorem map_fst_spans (fits : pattern.Fits text width hit) :
    (pattern.spans text).map Prod.fst = spaced width ((List.range (text.size + 1)).filter hit) := by
  have few : (hitsFrom hit text.size 0).length ≤ text.size + 1 :=
    calc (hitsFrom hit text.size 0).length
      _ ≤ (List.range' 0 (text.size + 1)).length := List.length_filter_le _ _
      _ = text.size + 1 := List.length_range'
  have none : false = true → width = 0 := nofun
  unfold spans
  rw [fits.map_fst_spansFrom none (Nat.lt_of_le_of_lt few (by omega)), ← hitsFrom_zero]
  rfl

end Compiled.Fits

end BooleanSearch.Pattern
