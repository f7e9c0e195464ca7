import BooleanSearch.Proofs.Match.Lookups
import BooleanSearch.Proofs.Match.WordRuns
import BooleanSearch.Proofs.Pattern.LiteralPatterns
import BooleanSearch.Proofs.Text.FoldedBlanks

/-!
# Places of fuzzy matches

A fuzzy search finds places in ascending order, each inside a word of the content.  Where the term
stands exactly, its first character stands there or one that differs from it in case, and neither is
a blank.  Where a run of words is similar to it, the run begins with what is left of a word without
the punctuation around it, which lies inside that word.
-/

namespace BooleanSearch

open Cache

/-! ## Exact places -/

namespace Pattern

theorem not_blank_of_mem_caseSiblings {code sibling : Nat} (member : sibling ∈ caseSiblings code) :
    Text.isBlankCode sibling = false := by
  have all : ∀ pair ∈ sharedUpperCases, ∀ sibling ∈ pair.2, Text.isBlankCode sibling = false := by
    decide
  unfold caseSiblings at member
  cases looked : sharedUpperCases.lookup code with
  | none => simp [looked] at member
  | some siblings =>
      obtain ⟨before, after, pairs, -⟩ := List.lookup_eq_some_iff.mp looked
      rw [looked] at member
      exact all (code, siblings) (by simp [pairs]) sibling member

theorem isBlankCode_fold (rule : CaseRule) (code : Nat) :
    Text.isBlankCode (rule.fold code) = Text.isBlankCode code := by
  cases rule with
  | exact => rfl
  | ascii => exact Text.isBlankCode_asciiLowerCode code
  | unicode => exact Text.isBlankCode_lowerCode code

/-- What passes the test for a character that is not blank is not blank itself, case or not. -/
theorem not_blank_of_accepts {flags : Flags} {char found : Char}
    (accepts : (CharTest.ofCode flags char.toNat false).accepts found = true)
    (present : Text.isBlank char = false) : Text.isBlank found = false := by
  unfold Text.isBlank at present ⊢
  unfold CharTest.ofCode CharTest.accepts CharTest.acceptsCode at accepts
  dsimp only at accepts
  split at accepts
  · have same : char.toNat = found.toNat := by simpa [CaseRule.fold, Member.covers] using accepts
    exact same ▸ present
  · rw [← isBlankCode_fold flags.caseRule]
    simp only [Bool.bne_false, List.any_map, List.any_eq_true, Function.comp_apply,
      Member.covers, beq_iff_eq, List.mem_cons] at accepts
    obtain ⟨member, known, same⟩ := accepts
    rw [← same]
    rcases known with rfl | sibling
    · rw [isBlankCode_fold]
      exact present
    · split at sibling
      · exact not_blank_of_mem_caseSiblings sibling
      · exact absurd sibling List.not_mem_nil

/-- A text that begins with a character that is not blank stands only inside words. -/
theorem inWord_of_passesText {flags : Flags} {content : Text} {offset : Nat} {char : Char}
    {rest : List Char} (passed : passesText flags content offset (char :: rest) = true)
    (present : Text.isBlank char = false) : InWord content offset := by
  unfold passesText passes at passed
  simp only [Bool.and_eq_true] at passed
  cases found : content[offset]? with
  | none => simp [found] at passed
  | some other =>
      rw [found] at passed
      exact ⟨other, found, not_blank_of_accepts passed.1 present⟩

end Pattern

namespace Fuzzy

/-- Offsets in ascending order, each of a character that is not blank. -/
structure InWords (content : Text) (positions : List Nat) : Prop where
  ascending : positions.Pairwise (· < ·)
  inside : ∀ position ∈ positions, InWord content position

theorem inWords_spaced {content : Text} {width size : Nat} {hit : Nat → Bool}
    (inside : ∀ offset, hit offset = true → InWord content offset) :
    InWords content (Pattern.spaced width ((List.range size).filter hit)) := by
  have taken := Pattern.spacedFrom_sublist width 0 ((List.range size).filter hit)
  constructor
  · exact (List.pairwise_lt_range.filter _).sublist taken
  · intro position member
    apply inside
    exact (List.mem_filter.mp (taken.subset member)).2

/-- A term without superfluous blanks does not begin with a blank. -/
theorem not_blank_of_normalize_cons {term : String} {char : Char} {rest : List Char}
    (normal : (normalize term).toList = char :: rest) : Text.isBlank char = false := by
  unfold normalize at normal
  rw [String.toList_ofList] at normal
  exact Text.not_blank_of_intercalate_cons (fun _ => Text.isPart_of_mem_splitBlanks) normal

theorem inWords_exactPositions (content : Text) {term : String} {char : Char} {rest : List Char}
    (begins : term.toList = char :: rest) (present : Text.isBlank char = false)
    (caseSensitive wholeWord : Bool) :
    InWords content (exactPositions content term caseSensitive wholeWord) := by
  have inside : ∀ {flags offset}, Pattern.passesText flags content offset term.toList = true →
      InWord content offset := by
    intro flags offset passed
    rw [begins] at passed
    exact Pattern.inWord_of_passesText passed present
  unfold exactPositions
  cases wholeWord with
  | true =>
      simp only [if_true]
      rw [Pattern.map_fst_spansOf_wholeWord rfl rfl]
      apply inWords_spaced
      intro offset passed
      exact inside (Bool.and_eq_true_iff.mp passed).1
  | false =>
      simp only [Bool.false_eq_true, if_false]
      rw [Pattern.map_fst_spansOf_escape rfl rfl]
      exact inWords_spaced fun _ => inside

/-! ## Places of similar words -/

/-- What is left of a word begins inside it. -/
theorem core?_inside {content : Text} {span : Nat × Nat} {core : Nat × List Char}
    (cut : core? content span = some core) : span.1 ≤ core.1 ∧ core.1 ≤ span.2 := by
  unfold core? at cut
  dsimp only at cut
  generalize chars : (content.slice span.1 (span.2 + 1)).toList = word at cut
  generalize skip : (word.takeWhile fun char => !Text.isWordChar char).length = skipped at cut
  split at cut
  · cases cut
  · next inner =>
      cases cut
      -- A word without word characters would have nothing left.
      have more : skipped < word.length := by
        by_contra all
        apply inner
        rw [List.drop_eq_nil_of_le (Nat.not_lt.mp all)]
        rfl
      have short : word.length ≤ span.2 + 1 - span.1 := by
        rw [← chars, Array.length_toList]
        simp only [Text.slice, Array.size_extract]
        omega
      exact ⟨Nat.le_add_right _ _, by omega⟩

theorem inWord_of_mem_cores {content : Text} {core : Nat × List Char}
    (member : core ∈ cores content) : InWord content core.1 := by
  unfold cores at member
  obtain ⟨span, known, cut⟩ := List.mem_filterMap.mp (List.mem_toArray.mp member)
  have run := WordIndex.isRun_iff_exists_span.mpr (WordIndex.mem_spans_iff.mp known)
  have inside := core?_inside cut
  exact run.inside core.1 inside.1 inside.2

theorem pairwise_cores (content : Text) :
    (cores content).toList.Pairwise fun first second => first.1 < second.1 := by
  unfold cores
  rw [List.pairwise_filterMap]
  refine (WordIndex.pairwise_spans content).imp ?_
  intro first second apart firstCore firstCut secondCore secondCut
  have firstInside := core?_inside firstCut
  have secondInside := core?_inside secondCut
  omega

/-- The place that the run of words at a number adds. -/
def place? (needle : List Char) (caseSensitive : Bool) (cutoff : Number)
    (words : Array (Nat × List Char)) (size first : Nat) : Option Nat :=
  match windowScore? needle caseSensitive words size first with
  | none => none
  | some score => if cutoff.toFloat ≤ score then words[first]?.map Prod.fst else none

section

variable {needle : List Char} {caseSensitive : Bool} {cutoff : Number}
  {words : Array (Nat × List Char)} {size : Nat}

theorem found_look (progress : Progress) (first : Nat) :
    (progress.look needle caseSensitive cutoff words size first).found =
      (place? needle caseSensitive cutoff words size first).toList ++ progress.found := by
  unfold Progress.look place?
  cases windowScore? needle caseSensitive words size first with
  | none => rfl
  | some score =>
      dsimp only
      split <;> rfl

theorem found_foldl_look (numbers : List Nat) (progress : Progress) :
    (numbers.foldl (Progress.look needle caseSensitive cutoff words size) progress).found =
      (numbers.filterMap (place? needle caseSensitive cutoff words size)).reverse ++
        progress.found := by
  induction numbers generalizing progress with
  | nil => rfl
  | cons first rest inductionHypothesis =>
      rw [List.foldl_cons, inductionHypothesis, found_look, List.filterMap_cons]
      cases place? needle caseSensitive cutoff words size first <;> simp

theorem getElem_of_place? {first position : Nat}
    (placed : place? needle caseSensitive cutoff words size first = some position) :
    ∃ valid : first < words.size, words[first].1 = position := by
  unfold place? at placed
  split at placed
  · cases placed
  · split at placed
    · obtain ⟨core, found, same⟩ := Option.map_eq_some_iff.mp placed
      obtain ⟨valid, rfl⟩ := Array.getElem?_eq_some_iff.mp found
      exact ⟨valid, same⟩
    · cases placed

end

theorem positions_searchWindows (content : Text) (term : String) (caseSensitive : Bool)
    (cutoff : Number) :
    ∃ needle size, (searchWindows content term caseSensitive cutoff).positions =
      (List.range ((cores content).size + 1 - size)).filterMap
        (place? needle caseSensitive cutoff (cores content) size) := by
  unfold searchWindows
  dsimp only
  rw [found_foldl_look]
  simp only [List.append_nil, List.reverse_reverse]
  exact ⟨_, _, rfl⟩

theorem inWords_searchWindows (content : Text) (term : String) (caseSensitive : Bool)
    (cutoff : Number) :
    InWords content (searchWindows content term caseSensitive cutoff).positions := by
  obtain ⟨needle, size, positions⟩ := positions_searchWindows content term caseSensitive cutoff
  rw [positions]
  constructor
  · rw [List.pairwise_filterMap]
    refine List.pairwise_lt_range.imp ?_
    intro first second order firstPlace firstPlaced secondPlace secondPlaced
    obtain ⟨firstValid, rfl⟩ := getElem_of_place? firstPlaced
    obtain ⟨secondValid, rfl⟩ := getElem_of_place? secondPlaced
    exact List.pairwise_iff_getElem.mp (pairwise_cores content) first second firstValid secondValid
      order
  · intro position member
    obtain ⟨first, -, placed⟩ := List.mem_filterMap.mp member
    obtain ⟨valid, rfl⟩ := getElem_of_place? placed
    exact inWord_of_mem_cores (Array.getElem_mem valid)

end Fuzzy

/-! ## Results -/

/-- A result whose places can be measured in words: it matches exactly if it has places, these
ascend, and each is inside a word of the content. -/
structure FuzzyResult.Measurable (content : Text) (result : FuzzyResult) : Prop where
  ascending : result.positions.Pairwise (· < ·)
  isMatch : result.isMatch = true ↔ result.positions ≠ []
  inside : ∀ position ∈ result.positions,
    ((WordIndex.build content).wordAt? position).isSome = true

theorem FuzzyResult.measurable_of_inWords {content : Text} {result : FuzzyResult}
    (inWords : Fuzzy.InWords content result.positions)
    (isMatch : result.isMatch = true ↔ result.positions ≠ []) : result.Measurable content := by
  refine ⟨inWords.ascending, isMatch, ?_⟩
  intro position member
  have found := WordIndex.wordAt?_build_eq_some_iff.mpr
    ⟨⟨position, rfl, inWords.inside position member⟩, rfl⟩
  exact Option.isSome_iff_exists.mpr ⟨_, found⟩

namespace Fuzzy

theorem measurable_searchNormalized (content : Text) {term : String} {char : Char}
    {rest : List Char} (begins : term.toList = char :: rest) (present : Text.isBlank char = false)
    (caseSensitive wholeWord : Bool) (cutoff : Number) :
    (searchNormalized content term caseSensitive wholeWord cutoff).Measurable content := by
  have exact := inWords_exactPositions content begins present caseSensitive wholeWord
  unfold searchNormalized
  cases found : exactPositions content term caseSensitive wholeWord with
  | nil =>
      have windows := inWords_searchWindows content term caseSensitive cutoff
      apply FuzzyResult.measurable_of_inWords windows
      simp [searchWindows]
  | cons first others =>
      rw [found] at exact
      apply FuzzyResult.measurable_of_inWords exact
      simp

theorem measurable_search (content : Text) (term : String) (caseSensitive wholeWord : Bool)
    (cutoff : Number) :
    (search content term caseSensitive wholeWord cutoff).Measurable content := by
  unfold search
  by_cases wanted : searchable content term = true
  · rw [if_pos wanted]
    have long : 3 ≤ (normalize term).length := by
      unfold searchable at wanted
      exact of_decide_eq_true (Bool.and_eq_true_iff.mp wanted).1
    cases chars : (normalize term).toList with
    | nil => simp [← String.length_toList, chars] at long
    | cons char rest =>
        exact measurable_searchNormalized content chars (not_blank_of_normalize_cons chars) _ _ _
  · rw [if_neg wanted]
    exact ⟨.nil, by simp [noMatch], nofun⟩

end Fuzzy

/-! ## Kept results -/

/-- What the keys of fuzzy results of a content stand for. -/
def fuzzyMeaningOf (content : Text) : Meaning FuzzyResult := fun key result =>
  ∃ term caseSensitive wholeWord cutoff,
    Search.fuzzyKey term caseSensitive wholeWord cutoff content = key ∧
      result = .ok (Fuzzy.searchNormalized content term caseSensitive wholeWord cutoff)

/-- What is kept under a key of a content is the result of that search. -/
def Session.KnowsFuzzy (content : Text) (session : Session) : Prop :=
  Truthful (fuzzyMeaningOf content) session.fuzzy

theorem single_fuzzyMeaningOf (content : Text) : (fuzzyMeaningOf content).Single := by
  rintro key value result ⟨term, caseSensitive, wholeWord, cutoff, rfl, given⟩
    ⟨_, _, _, otherCutoff, sameKey, rfl⟩
  obtain ⟨-, rfl, rfl, rfl, cutoffs⟩ := parts_of_fuzzyKey_eq sameKey
  obtain rfl : otherCutoff = cutoff := Number.text_injective cutoffs
  exact given.symm

theorem answers_fuzzySearch_of_knowsFuzzy (content : Text) (term : String)
    (caseSensitive wholeWord : Bool) (cutoff : Number) :
    Search.Answers (Session.KnowsFuzzy content)
      (Search.fuzzySearch content term caseSensitive wholeWord cutoff)
      (.ok (Fuzzy.search content term caseSensitive wholeWord cutoff)) := by
  unfold Search.fuzzySearch Fuzzy.search
  by_cases searchable : Fuzzy.searchable content term = true
  · simp only [searchable, if_true]
    apply Search.Answers.cached (fuzzyMeaningOf content)
    · exact fun _ knows => knows
    · exact fun _ _ _ truthful => truthful
    · exact fun _ _ knows => knows
    · exact ⟨_, _, _, _, rfl, rfl⟩
    · exact Search.Answers.pure _
  · simp only [searchable]
    exact Search.Answers.pure _

/-- The places of a fuzzy search can be measured in words, for every term and all settings.  The
search gives these places in every session that keeps nothing but the results of such searches under
the keys of the content. -/
theorem fuzzySearch_measurable (content : Text) (term : String) (caseSensitive wholeWord : Bool)
    (cutoff : Number) :
    (Fuzzy.search content term caseSensitive wholeWord cutoff).Measurable content ∧
      Search.Answers (Session.KnowsFuzzy content)
        (Search.fuzzySearch content term caseSensitive wholeWord cutoff)
        (.ok (Fuzzy.search content term caseSensitive wholeWord cutoff)) := by
  constructor
  · exact Fuzzy.measurable_search content term caseSensitive wholeWord cutoff
  · exact answers_fuzzySearch_of_knowsFuzzy content term caseSensitive wholeWord cutoff

/-- In a session that keeps fuzzy results but none yet, a misspelt term gives places that can be
measured. -/
theorem fuzzySearch_measurable_misspelt :
    ∃ result, Search.answer (Search.fuzzySearch (Text.ofString "the (red) fox") "red fix" false false
        (.whole 70)) oneLookup = .ok result ∧
      result.Measurable (Text.ofString "the (red) fox") := by
  obtain ⟨measurable, answers⟩ :=
    fuzzySearch_measurable (Text.ofString "the (red) fox") "red fix" false false (.whole 70)
  have knows : Session.KnowsFuzzy (Text.ofString "the (red) fox") oneLookup :=
    Truthful.of_entries_eq_nil (single_fuzzyMeaningOf _) rfl
  exact ⟨_, (answers oneLookup knows).1, measurable⟩

end BooleanSearch
