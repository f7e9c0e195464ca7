import BooleanSearch.Query.Literal

/-!
# Texts of terms

A text stands for a pattern if it begins with a slash and ends with letters of patterns after
another one, for a fuzzy text if it goes on after a tilde, and for itself otherwise.  Only a pattern
that does not compile stands for nothing.
-/

namespace BooleanSearch.Query.Literal

/-- The characters of a pattern are split at the slash before its letters. -/
theorem splitPattern?_eq {source letters : List Char} (noSlash : ∀ letter ∈ letters, letter ≠ '/') :
    splitPattern? ('/' :: (source ++ '/' :: letters)) =
      if source.isEmpty then none
      else if letters.all fun letter => (Pattern.Flags.ofLiteralLetter? letter).isSome then
        some (source, letters)
      else none := by
  have inLetters : ∀ letter ∈ letters.reverse, (letter != '/') = true := by
    intro letter member
    exact bne_iff_ne.mpr (noSlash letter (List.mem_reverse.mp member))
  have taken : ((source ++ '/' :: letters).reverse.takeWhile (· != '/')).reverse = letters := by
    have noMore : ('/' :: source.reverse).takeWhile (· != '/') = [] :=
      List.takeWhile_cons_of_neg (by decide)
    rw [List.reverse_append, List.reverse_cons, List.append_assoc, List.singleton_append,
      List.takeWhile_append_of_pos inLetters, noMore, List.append_nil, List.reverse_reverse]
  have before : (source ++ '/' :: letters).take
      ((source ++ '/' :: letters).length - letters.length - 1) = source := by
    have size : (source ++ '/' :: letters).length - letters.length - 1 = source.length := by
      rw [List.length_append, List.length_cons]
      omega
    rw [size, List.take_left]
  have slash : (source ++ '/' :: letters).contains '/' = true := by
    rw [List.contains_iff_mem]
    exact List.mem_append_right _ List.mem_cons_self
  unfold splitPattern?
  simp only [taken, before, slash, Bool.not_true, Bool.false_or]

theorem patternParts?_of_no_slash {text : String} (noSlash : ∀ others, text.toList ≠ '/' :: others) :
    patternParts? text = none := by
  unfold patternParts? splitPattern?
  split
  · next others begins => exact absurd begins (noSlash others)
  · rfl

theorem patternParts?_eq_some {source letters : String} (some_ : source ≠ "")
    (named : ∀ letter ∈ letters.toList, (Pattern.Flags.ofLiteralLetter? letter).isSome = true)
    (noSlash : ∀ letter ∈ letters.toList, letter ≠ '/') :
    patternParts? ("/" ++ source ++ "/" ++ letters) = some (source, letters) := by
  have written : ("/" ++ source ++ "/" ++ letters).toList =
      '/' :: (source.toList ++ '/' :: letters.toList) := by
    simp
  have present : source.toList.isEmpty = false := by
    rw [List.isEmpty_eq_false_iff]
    simpa using some_
  unfold patternParts?
  rw [written, splitPattern?_eq noSlash, present, if_neg Bool.false_ne_true,
    if_pos (List.all_eq_true.mpr named)]
  simp

theorem patternParts?_parts {text source letters : String}
    (parts : patternParts? text = some (source, letters)) :
    source ≠ "" ∧
      ∀ letter ∈ letters.toList, (Pattern.Flags.ofLiteralLetter? letter).isSome = true := by
  obtain ⟨⟨sourceChars, letterChars⟩, divided, same⟩ := Option.map_eq_some_iff.mp parts
  cases same
  unfold splitPattern? at divided
  split at divided
  · dsimp only at divided
    split at divided
    · cases divided
    · next some_ =>
        split at divided
        · next named =>
            cases divided
            rw [Bool.or_eq_true, not_or] at some_
            rw [String.toList_ofList]
            refine ⟨fun empty => some_.2 ?_, List.all_eq_true.mp named⟩
            rw [String.ofList_eq_empty_iff.mp empty]
            rfl
        · cases divided
  · cases divided

/-- The terms that a text may stand for. -/
theorem cases_of_ofText {text : String} {term : Literal} (given : ofText text = .ok term) :
    term = .plain text ∨ (∃ inner, inner ≠ "" ∧ term = .fuzzy inner) ∨
      ∃ source letters, term = .pattern source letters ∧
        patternParts? text = some (source, letters) ∧
        ∃ compiled, Pattern.compile source letters = .ok compiled := by
  unfold ofText at given
  cases parts : patternParts? text with
  | none =>
      rw [parts] at given
      dsimp only at given
      split at given
      · cases given
        exact Or.inr (Or.inl ⟨_, by simp, rfl⟩)
      · cases given
        exact Or.inl rfl
  | some found =>
      obtain ⟨source, letters⟩ := found
      rw [parts] at given
      dsimp only [ofPattern] at given
      cases compiles : Pattern.compile source letters with
      | error failure =>
          rw [compiles] at given
          cases given
      | ok compiled =>
          rw [compiles] at given
          cases given
          exact Or.inr (Or.inr ⟨source, letters, rfl, rfl, compiled, compiles⟩)

theorem exists_compiled {source letters : String}
    (accepted : (Pattern.compile source letters).isOk = true) :
    ∃ compiled, Pattern.compile source letters = .ok compiled := by
  cases outcome : Pattern.compile source letters with
  | ok compiled => exact ⟨compiled, rfl⟩
  | error failure =>
      rw [outcome] at accepted
      cases accepted

/-- Only a pattern that does not compile stands for no term. -/
theorem exists_ofText {text : String}
    (compiles : ∀ source letters, patternParts? text = some (source, letters) →
      ∃ compiled, Pattern.compile source letters = .ok compiled) :
    ∃ term, ofText text = .ok term := by
  unfold ofText
  cases parts : patternParts? text with
  | none =>
      dsimp only
      split
      · exact ⟨_, rfl⟩
      · exact ⟨_, rfl⟩
  | some found =>
      obtain ⟨source, letters⟩ := found
      obtain ⟨compiled, done⟩ := compiles source letters parts
      refine ⟨.pattern source letters, ?_⟩
      dsimp only [ofPattern]
      rw [done]

theorem ofText_eq_plain {text : String} (noSlash : ∀ others, text.toList ≠ '/' :: others)
    (noTilde : ∀ others, text.toList ≠ '~' :: others) : ofText text = .ok (.plain text) := by
  unfold ofText
  rw [patternParts?_of_no_slash noSlash]
  dsimp only
  split
  · next first others begins => exact absurd begins (noTilde _)
  · rfl

theorem ofText_eq_fuzzy {text : String} (some_ : text ≠ "") :
    ofText ("~" ++ text) = .ok (.fuzzy text) := by
  have written : ("~" ++ text).toList = '~' :: text.toList := by simp
  obtain ⟨first, others, begins⟩ : ∃ first others, text.toList = first :: others :=
    List.exists_cons_of_ne_nil (by simpa using some_)
  unfold ofText
  rw [patternParts?_of_no_slash fun others same => by rw [written] at same; cases same]
  rw [written, begins]
  change Except.ok (fuzzy (String.ofList (first :: others))) = _
  rw [← begins, String.ofList_toList]

theorem ofText_eq_pattern {source letters : String} (some_ : source ≠ "")
    (named : ∀ letter ∈ letters.toList, (Pattern.Flags.ofLiteralLetter? letter).isSome = true)
    (noSlash : ∀ letter ∈ letters.toList, letter ≠ '/') {compiled : Pattern.Compiled}
    (compiles : Pattern.compile source letters = .ok compiled) :
    ofText ("/" ++ source ++ "/" ++ letters) = .ok (.pattern source letters) := by
  unfold ofText
  rw [patternParts?_eq_some some_ named noSlash]
  dsimp only [ofPattern]
  rw [compiles]

end BooleanSearch.Query.Literal
