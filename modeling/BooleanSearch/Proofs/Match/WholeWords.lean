import BooleanSearch.Proofs.Match.PlainTerms
import BooleanSearch.Proofs.Pattern.LiteralPatterns

/-!
# Plain texts as whole words

A plain text is found as a whole word where it stands between characters that are no word characters.
Its pattern is looked for from left to right, so an offset at which it begins inside the one found
before is passed over.  Without whole words, every offset is found.
-/

namespace BooleanSearch

open Query

/-- Without a fuzzy search, a text stands where it stands exactly, and the session stays as it is. -/
theorem run_textPositions_of_exact {content : Text} {text : String} (some_ : text ≠ "")
    {options : MatchOptions} {fuzzyAllowed : Bool} {session : Session}
    (noFuzzy : fuzzyAllowed = false ∨ session.matcher = none) :
    (textPositions content text options fuzzyAllowed).run.run session =
      (.ok (exactPositions content text options), session) := by
  have present : ¬ text.isEmpty = true := by
    simpa using some_
  have notWanted : (fuzzyAllowed && session.matcher.isSome &&
      decide (Fuzzy.minTermLength ≤ text.length)) = false := by
    rcases noFuzzy with none | none
    · rw [none, Bool.false_and, Bool.false_and]
    · rw [none, Option.isSome_none, Bool.and_false, Bool.false_and]
  unfold textPositions
  rw [if_neg present]
  cases exactPositions content text options with
  | cons first rest => rfl
  | nil =>
      have found : Search.answer (get : Search Session) session = .ok session := rfl
      refine (Search.run_bind_of_ok found).trans ?_
      change (if (fuzzyAllowed && session.matcher.isSome &&
        decide (Fuzzy.minTermLength ≤ text.length)) = true then _ else
          (pure [] : Search (List Nat))).run.run session = _
      rw [notWanted, if_neg Bool.false_ne_true]
      rfl

theorem run_termPositions_of_exact {content : Text} {text : String} (some_ : text ≠ "")
    {options : MatchOptions} {context : MatchContext} {session : Session}
    (noFuzzy : options.fuzzyAllowed context = false ∨ session.matcher = none) :
    (termPositions content (.plain text) options context).run.run session =
      (.ok (exactPositions content text options), session) :=
  run_textPositions_of_exact some_ noFuzzy

section

variable {content : Text} {text : String} (some_ : text ≠ "") {options : MatchOptions}
  (caseSensitive : options.caseSensitive = true)

include some_ caseSensitive

/-- Whole words are found among the occurrences that stand alone, from left to right. -/
theorem exactPositions_of_wholeWord (wholeWord : options.wholeWord = true) :
    exactPositions content text options =
      Pattern.spaced text.length ((Text.occurrences content (Text.ofString text)).filter
        (Pattern.standsAlone content text.length)) := by
  have hits : ((Text.occurrences content (Text.ofString text)).filter
      (Pattern.standsAlone content text.length)) =
        (List.range (content.size + 1)).filter fun offset =>
          Pattern.passesText ((Pattern.caseFlags true).union { unicode := true }) content offset
            text.toList && Pattern.standsAlone content text.length offset := by
    rw [Text.occurrences_eq_filter, List.filter_filter]
    refine List.filter_congr fun offset _ => ?_
    rw [Bool.and_comm, Bool.eq_iff_iff, Bool.and_eq_true, Bool.and_eq_true,
      Text.occursAt_iff_prefix (Text.size_ofString_ne_zero some_), Pattern.passesText_iff rfl]
    rfl
  unfold exactPositions Pattern.wholeWordSpans
  rw [wholeWord, if_pos rfl, caseSensitive, Pattern.map_fst_spansOf_wholeWord rfl rfl, hits]

end

/-- As whole words a text is found at the offsets that stand alone among those where it is found
otherwise, except at those inside an occurrence found before.  So it is found at all of them exactly if
no two of them overlap. -/
theorem wholeWords_eq_filter_iff (content : Text) {text : String} (some_ : text ≠ "")
    {options : MatchOptions} (caseSensitive : options.caseSensitive = true)
    {context : MatchContext} {session : Session}
    (noFuzzy : options.fuzzyAllowed context = false ∨ session.matcher = none) :
    ∃ whole found,
      (termPositions content (.plain text) { options with wholeWord := true } context).run.run
          session = (.ok whole, session) ∧
        (termPositions content (.plain text) { options with wholeWord := false } context).run.run
            session = (.ok found, session) ∧
          found.Pairwise (· < ·) ∧
          whole = Pattern.spaced text.length
            (found.filter (Pattern.standsAlone content text.length)) ∧
          (whole = found.filter (Pattern.standsAlone content text.length) ↔
            (found.filter (Pattern.standsAlone content text.length)).Pairwise fun first second =>
              first + text.length ≤ second) := by
  have everywhere : exactPositions content text { options with wholeWord := false } =
      Text.occurrences content (Text.ofString text) :=
    exactPositions_of_anywhere _ some_ caseSensitive rfl
  have wholeWords : exactPositions content text { options with wholeWord := true } =
      Pattern.spaced text.length ((exactPositions content text
        { options with wholeWord := false }).filter (Pattern.standsAlone content text.length)) := by
    rw [everywhere]
    exact exactPositions_of_wholeWord some_ caseSensitive rfl
  have noFuzzyEither : ∀ wholeWord : Bool, { options with wholeWord := wholeWord }.fuzzyAllowed
      context = false ∨ session.matcher = none := by
    intro wholeWord
    refine noFuzzy.imp_left fun none => ?_
    cases context <;> exact none
  refine ⟨_, _, run_termPositions_of_exact some_ (noFuzzyEither true),
    run_termPositions_of_exact some_ (noFuzzyEither false), ?_, wholeWords, ?_⟩
  · rw [everywhere]
    exact Text.occurrences_pairwise_lt _ _
  · rw [wholeWords]
    exact Pattern.spaced_eq_self_iff

/-- Options under which a text is found only as it is written, anywhere or as a whole word. -/
def writtenWord (wholeWord : Bool) : MatchOptions :=
  { caseSensitive := true, wholeWord := wholeWord, fuzzy := false, fuzzyNear := false }

/-- Inside a longer word, a word is not found. -/
theorem wholeWords_eq_filter_of_longerWord :
    "ab" ≠ "" ∧ (writtenWord false).caseSensitive = true ∧
      ((writtenWord false).fuzzyAllowed .leaf = false ∨ bareSession.matcher = none) ∧
        (termPositions (Text.ofString "ab, abc ab.") (.plain "ab") (writtenWord true) .leaf).run.run
            bareSession = (.ok [0, 8], bareSession) := by
  have some_ : "ab" ≠ "" := by decide
  have noFuzzy : (writtenWord false).fuzzyAllowed .leaf = false ∨ bareSession.matcher = none :=
    Or.inl rfl
  have everywhere : exactPositions (Text.ofString "ab, abc ab.") "ab" (writtenWord false) =
      [0, 4, 8] := by
    rw [exactPositions_of_anywhere _ some_ rfl rfl]
    decide
  obtain ⟨whole, found, runWhole, runFound, -, -, sameIff⟩ :=
    wholeWords_eq_filter_iff (Text.ofString "ab, abc ab.") some_ rfl noFuzzy
  have ran : (termPositions (Text.ofString "ab, abc ab.") (.plain "ab") (writtenWord false)
      .leaf).run.run bareSession = (.ok [0, 4, 8], bareSession) := by
    rw [run_termPositions_of_exact some_ noFuzzy, everywhere]
  obtain rfl : found = [0, 4, 8] :=
    Except.ok.inj (Prod.mk.inj (runFound.symm.trans ran)).1
  have apart : whole = [0, 8] := sameIff.mpr (by decide)
  rw [apart] at runWhole
  exact ⟨some_, rfl, noFuzzy, runWhole⟩

/-- A text may begin as a whole word inside another one, where it is not found. -/
theorem wholeWords_ne_filter_of_overlap :
    (termPositions (Text.ofString "a a a") (.plain "a a") (writtenWord true) .leaf).run.run
        bareSession = (.ok [0], bareSession) ∧
      (termPositions (Text.ofString "a a a") (.plain "a a") (writtenWord false) .leaf).run.run
          bareSession = (.ok [0, 2], bareSession) ∧
        [0] ≠ [0, 2].filter (Pattern.standsAlone (Text.ofString "a a a") 3) := by
  have some_ : "a a" ≠ "" := by decide
  have wholeWords : exactPositions (Text.ofString "a a a") "a a" (writtenWord true) = [0] := by
    rw [exactPositions_of_wholeWord some_ rfl rfl]
    decide
  have everywhere : exactPositions (Text.ofString "a a a") "a a" (writtenWord false) = [0, 2] := by
    rw [exactPositions_of_anywhere _ some_ rfl rfl]
    decide
  refine ⟨?_, ?_, by decide⟩
  · rw [run_termPositions_of_exact some_ (Or.inl rfl), wholeWords]
  · rw [run_termPositions_of_exact some_ (Or.inl rfl), everywhere]

end BooleanSearch
