import BooleanSearch.Proofs.Files.ListedFiles
import BooleanSearch.Proofs.Text.Pieces

/-!
# Spellings of paths

A file that is opened by the spelling of its path is the one that stands at the path, for a spelling adds
only names that stay where they are.  It may be refused where the path is not, as behind a slash at the end
only a folder may stand; but a relative path that is spelled as its own text is opened as it is found.
-/

namespace BooleanSearch

theorem splitChars_eq_splitOn (separator : Char) (chars : List Char) :
    splitChars separator chars = chars.splitOn separator := by
  induction chars with
  | nil => rfl
  | cons char rest inductionHypothesis =>
      rw [splitChars, inductionHypothesis, splitOn_cons]
      split
      · rfl
      · obtain ⟨head, tail, divided⟩ := List.exists_cons_of_ne_nil (splitOn_ne_nil separator rest)
        rw [divided, List.modifyHead_cons]

namespace Files

/-- The names of a spelling that a path has, too. -/
def isStep (name : String) : Bool :=
  !name.isEmpty && name != "."

theorem names_ofString (text : String) :
    (Path.ofString text).names = (splitAtChar '/' text).filter isStep :=
  rfl

namespace Tree

variable {above : List Tree} {here found : Tree} {entries : List (String × Tree)} {refused : Refused}
  {name : String} {names : List String}

/-- A name that stays where it is changes nothing, as long as what follows it can be followed. -/
theorem follow_of_stay (stays : isStep name = false)
    (followed : follow above here (name :: names) = .ok found) :
    follow above here names = .ok found := by
  cases here with
  | file content modified reading => cases followed
  | folder entries refused =>
      rw [follow.eq_def] at followed
      dsimp only at followed
      split at followed
      · exact followed
      · next some_ =>
          have point : (name == ".") = true := by simpa [isStep, some_] using stays
          split at followed
          · cases followed
          · rwa [if_pos point] at followed

/-- Names that stay where they are can be left out of a way. -/
theorem follow_filter (followed : follow above here names = .ok found) :
    follow above here (names.filter isStep) = .ok found := by
  induction names generalizing above here with
  | nil => exact followed
  | cons name rest inductionHypothesis =>
      cases step : isStep name with
      | false =>
          rw [List.filter_cons_of_neg (by simp [step])]
          exact inductionHypothesis (follow_of_stay step followed)
      | true =>
          rw [List.filter_cons_of_pos step]
          cases here with
          | file content modified reading => cases followed
          | folder entries refused =>
              obtain ⟨some_, noPoint⟩ := Bool.and_eq_true_iff.mp step
              have some_ : name.isEmpty ≠ true := by simpa using some_
              have noPoint : (name == ".") ≠ true := by simpa using noPoint
              rw [follow.eq_def] at followed ⊢
              dsimp only at followed ⊢
              rw [if_neg some_] at followed ⊢
              split at followed
              · cases followed
              · rw [if_neg noPoint] at followed ⊢
                split at followed
                · next up =>
                    rw [if_pos up]
                    cases above with
                    | nil => exact inductionHypothesis followed
                    | cons upper others => exact inductionHypothesis followed
                · next down =>
                    rw [if_neg down]
                    split at followed
                    · cases followed
                    · exact inductionHypothesis followed

end Tree

/-! ## Where spellings lead -/

section

variable {tree standing : Tree} {text : String} {bytes : Bytes}

/-- What a spelling leads to is what stands at the path that it spells. -/
theorem find_of_findSpelled (spelled : tree.findSpelled text = .ok standing)
    (short : (Path.ofString text).text.utf8ByteSize ≤ pathLimit) :
    tree.find (Path.ofString text) = .ok standing := by
  unfold Tree.findSpelled at spelled
  split at spelled
  · cases spelled
  · split at spelled
    · cases spelled
    · unfold Tree.find
      rw [if_neg (Nat.not_lt.mpr short), names_ofString]
      exact Tree.follow_filter spelled

/-- What is opened by a spelling is what stands at the path that it spells. -/
theorem content_of_readSpelled (found : tree.require (Path.ofString text) = .ok standing)
    (opened : tree.readSpelled text = .ok bytes) : standing.content = .ok bytes := by
  have admitted := admissible_of_require found
  unfold Tree.require at found
  rw [if_pos admitted] at found
  split at found
  · next shape =>
      cases found
      have short : (Path.ofString text).text.utf8ByteSize ≤ pathLimit := by
        refine Nat.not_lt.mp fun long => ?_
        unfold Tree.find at shape
        rw [if_pos long] at shape
        cases shape
      unfold Tree.readSpelled at opened
      rw [if_pos admitted] at opened
      cases spelled : tree.findSpelled text with
      | error fault =>
          rw [spelled] at opened
          cases opened
      | ok other =>
          cases (find_of_findSpelled spelled short).symm.trans shape
          rw [spelled] at opened
          dsimp only [bind, Except.bind] at opened
          split at opened
          · next read =>
              cases opened
              exact read
          · cases opened
  · cases found

/-- A relative path that is spelled as its own text leads where it leads when it is read. -/
theorem findSpelled_eq_find (relative : (Path.ofString text).anchor = "")
    (named : (Path.ofString text).names ≠ []) (clean : (Path.ofString text).text = text) :
    tree.findSpelled text = tree.find (Path.ofString text) := by
  have written : text = joinWith "/" (Path.ofString text).names := by
    have joined := Path.text_of_names named
    rwa [clean, relative, String.empty_append] at joined
  have divided : splitAtChar '/' text = (Path.ofString text).names := by
    have plain : ∀ name ∈ (Path.ofString text).names, '/' ∉ name.toList := by
      intro name member
      obtain ⟨piece, pieceMember, rfl⟩ := List.mem_map.mp (List.mem_of_mem_filter member)
      rw [splitChars_eq_splitOn] at pieceMember
      rw [String.toList_ofList]
      exact not_mem_of_mem_splitOn piece pieceMember
    have pieces := splitOn_joinWith named plain
    rw [← written] at pieces
    unfold splitAtChar
    rw [splitChars_eq_splitOn, pieces, List.map_map]
    exact List.map_id'' (fun name => String.ofList_toList) _
  have some_ : text.isEmpty = false := by
    rw [← Bool.not_eq_true, String.isEmpty_iff]
    rintro rfl
    exact named rfl
  unfold Tree.findSpelled Tree.find
  rw [some_, divided, clean]
  rfl

/-- A relative path that is spelled as its own text is opened as it is found. -/
theorem readSpelled_eq_read (relative : (Path.ofString text).anchor = "")
    (named : (Path.ofString text).names ≠ []) (clean : (Path.ofString text).text = text) :
    tree.readSpelled text = tree.read (Path.ofString text) := by
  unfold Tree.readSpelled Tree.read Tree.require
  rw [findSpelled_eq_find relative named clean, clean]
  split
  · cases tree.find (Path.ofString text) with
    | error fault => rfl
    | ok standing => rfl
  · rfl

end

end Files

end BooleanSearch
