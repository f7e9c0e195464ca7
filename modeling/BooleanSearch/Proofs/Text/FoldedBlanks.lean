import BooleanSearch.Text.Blank
import BooleanSearch.Text.Lettercase
import Mathlib.Data.List.Basic

/-!
# Blanks in lower case

Case does not matter to blanks: no blank has another lower case, and nothing else has a blank for
its lower case.  The table of case pairs shows it, as all its runs and their images stay clear of
the stretches of code points that hold blanks.  A text that is split at its blanks has parts without
any.
-/

namespace BooleanSearch.Text

/-! ## Stretches with blanks -/

/-- Stretches of code points that hold all blanks. -/
def blankStretches : List (Nat × Nat) :=
  [(9, 13), (28, 32), (0x85, 0x85), (0xA0, 0xA0), (0x1680, 0x1680), (0x2000, 0x205F),
    (0x3000, 0x3000)]

theorem exists_stretch_of_blank {code : Nat} (blank : isBlankCode code = true) :
    ∃ stretch ∈ blankStretches, stretch.1 ≤ code ∧ code ≤ stretch.2 := by
  simp only [isBlankCode, Bool.or_eq_true, Bool.and_eq_true, decide_eq_true_eq, beq_iff_eq] at blank
  simp only [blankStretches, List.exists_mem_cons_iff, List.not_mem_nil, false_and, exists_false,
    or_false]
  omega

/-- Neither the code points of a run nor their images come near to a blank. -/
def CaseRun.isClear (run : CaseRun) : Bool :=
  blankStretches.all fun stretch =>
    (run.last < stretch.1 || stretch.2 < run.first) &&
      ((run.last : Int) + run.shift < stretch.1 || (stretch.2 : Int) < run.first + run.shift)

theorem CaseRun.not_blank_of_isClear {run : CaseRun} (clear : run.isClear = true) {code : Nat}
    (least : run.first ≤ code) (most : code ≤ run.last) :
    isBlankCode code = false ∧ isBlankCode ((code : Int) + run.shift).toNat = false := by
  have apart := List.all_eq_true.mp clear
  simp only [Bool.and_eq_true, Bool.or_eq_true, decide_eq_true_eq] at apart
  constructor
  · apply Bool.eq_false_iff.mpr
    intro blank
    obtain ⟨stretch, member, inside⟩ := exists_stretch_of_blank blank
    have outside := (apart stretch member).1
    omega
  · apply Bool.eq_false_iff.mpr
    intro blank
    obtain ⟨stretch, member, inside⟩ := exists_stretch_of_blank blank
    have outside := (apart stretch member).2
    have positive : ∀ stretch ∈ blankStretches, 0 < stretch.1 := by decide
    have := positive stretch member
    omega

/-! ## The table of case pairs -/

theorem mem_of_findRun? {runs : Array CaseRun} {code fuel low high : Nat} {run : CaseRun}
    (found : findRun? runs code fuel low high = some run) :
    run ∈ runs ∧ run.first ≤ code ∧ code ≤ run.last := by
  induction fuel generalizing low high with
  | zero => cases found
  | succ fuel inductionHypothesis =>
      unfold findRun? at found
      split at found
      · dsimp only at found
        split at found
        · cases found
        · next middle looked =>
            by_cases before : code < middle.first
            · rw [if_pos before] at found
              exact inductionHypothesis found
            · rw [if_neg before] at found
              by_cases behind : middle.last < code
              · rw [if_pos behind] at found
                exact inductionHypothesis found
              · rw [if_neg behind] at found
                split at found
                · cases found
                  exact ⟨Array.mem_of_getElem? looked, Nat.not_lt.mp before, Nat.not_lt.mp behind⟩
                · cases found
      · cases found

theorem isClear_of_mem_lowerRuns {run : CaseRun} (member : run ∈ lowerRuns) :
    run.isClear = true := by
  have all : lowerRuns.toList.all CaseRun.isClear = true := by decide +kernel
  exact List.all_eq_true.mp all run (Array.mem_toList_iff.mpr member)

/-- A code point is a blank exactly if its lower case is one. -/
theorem isBlankCode_lowerCode (code : Nat) : isBlankCode (lowerCode code) = isBlankCode code := by
  unfold lowerCode
  by_cases ascii : code < 128
  · rw [if_pos ascii]
    revert code
    decide
  · rw [if_neg ascii]
    unfold mapByRuns
    cases found : findRun? lowerRuns code lowerRuns.size 0 lowerRuns.size with
    | none => rfl
    | some run =>
        obtain ⟨member, least, most⟩ := mem_of_findRun? found
        have clear := CaseRun.not_blank_of_isClear (isClear_of_mem_lowerRuns member) least most
        exact clear.2.trans clear.1.symm

theorem isBlankCode_asciiLowerCode (code : Nat) :
    isBlankCode (asciiLowerCode code) = isBlankCode code := by
  unfold asciiLowerCode
  split
  · next upper =>
      simp only [Bool.and_eq_true, decide_eq_true_eq] at upper
      simp only [isBlankCode]
      rw [Bool.eq_iff_iff]
      simp only [Bool.or_eq_true, Bool.and_eq_true, decide_eq_true_eq, beq_iff_eq]
      omega
  · rfl

/-! ## Parts between blanks -/

/-- A part of a text between blanks: it is not empty, and no blank is in it. -/
structure IsPart (part : List Char) : Prop where
  some_ : part ≠ []
  present : ∀ char ∈ part, isBlank char = false

/-- While a text is split, what is done are parts, and so is the word that is read once it ends. -/
structure Splitting (state : List (List Char) × List Char) : Prop where
  done : ∀ part ∈ state.1, IsPart part
  word : ∀ char ∈ state.2, isBlank char = false

theorem Splitting.finish {done : List (List Char)} {word : List Char}
    (splitting : Splitting (done, word)) :
    ∀ part ∈ if word.isEmpty then done else word.reverse :: done, IsPart part := by
  by_cases ended : word.isEmpty = true
  · rw [if_pos ended]
    exact splitting.done
  · rw [if_neg ended]
    intro part member
    rcases List.mem_cons.mp member with rfl | earlier
    · exact ⟨by simpa using ended, by simpa using splitting.word⟩
    · exact splitting.done part earlier

theorem isPart_of_mem_splitBlanks {chars part : List Char} (member : part ∈ splitBlanks chars) :
    IsPart part := by
  unfold splitBlanks at member
  dsimp only at member
  generalize read : chars.foldl _ _ = state at member
  have splitting : Splitting state := by
    rw [← read]
    refine List.foldlRecOn (motive := Splitting) chars _ ⟨nofun, nofun⟩ ?_
    rintro ⟨done, word⟩ before char -
    have finished := before.finish
    dsimp only
    split
    · split
      · exact ⟨before.done, nofun⟩
      · next goesOn => exact ⟨by rwa [if_neg goesOn] at finished, nofun⟩
    · next present =>
        refine ⟨before.done, ?_⟩
        rw [List.forall_mem_cons]
        exact ⟨Bool.eq_false_iff.mpr present, before.word⟩
  exact splitting.finish part (List.mem_reverse.mp member)

/-- Parts that are joined begin with the first character of a part. -/
theorem not_blank_of_intercalate_cons {parts : List (List Char)} {separator rest : List Char}
    {char : Char} (all : ∀ part ∈ parts, IsPart part)
    (joined : List.intercalate separator parts = char :: rest) : isBlank char = false := by
  cases parts with
  | nil => simp [List.intercalate] at joined
  | cons first others =>
      obtain ⟨some_, present⟩ := all first List.mem_cons_self
      cases first with
      | nil => exact absurd rfl some_
      | cons head tail =>
          have same : head = char := by
            cases others with
            | nil => simpa [List.intercalate] using congrArg List.head? joined
            | cons second more => simpa [List.intercalate] using congrArg List.head? joined
          exact same ▸ present head List.mem_cons_self

end BooleanSearch.Text
