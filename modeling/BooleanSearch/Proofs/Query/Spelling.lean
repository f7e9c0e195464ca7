import BooleanSearch.Proofs.Query.Derivations
import BooleanSearch.Proofs.Query.Rendering
import BooleanSearch.Proofs.Query.TermTexts
import BooleanSearch.Proofs.Text.WholeNumbers

/-!
# Spelled queries

What is written for a query is cut into tokens that derive the query.  Every piece is shown to be cut
so before whatever may follow it: an operand ends at a blank, a closing parenthesis, a comma or the
end of the query, and none of these goes on with a word or with the letters of a pattern.
-/

namespace BooleanSearch.Query

/-- Nothing, or a blank, a closing parenthesis or a comma, as it stands after an operand. -/
def Parted (after : List Char) : Prop :=
  ∀ char ∈ after.head?, char = ' ' ∨ char = ')' ∨ char = ','

theorem parted_cons {char : Char} {rest : List Char} (parts : char = ' ' ∨ char = ')' ∨ char = ',') :
    Parted (char :: rest) := by
  intro first member
  rw [List.head?_cons, Option.mem_some_iff] at member
  exact member ▸ parts

theorem Parted.head?_outside {inside : Char → Bool} {after : List Char} (parted : Parted after)
    (blank : inside ' ' = false) (closing : inside ')' = false) (comma : inside ',' = false) :
    ∀ char ∈ after.head?, inside char = false := by
  intro char member
  rcases parted char member with rfl | rfl | rfl
  · exact blank
  · exact closing
  · exact comma

/-! ## Cutting a text at a place -/

/-- Before the characters after them, some characters are cut into tokens with a property, whatever
their offset. -/
def CutsInto (chars after : List Char) (property : List Token → Prop) : Prop :=
  ∀ position, ∃ tokens stop,
    scan position (chars ++ after) = (scan stop after).map (tokens ++ ·) ∧ property tokens

/-- Some tokens with a property, and some with another one after them. -/
def Joined (property other : List Token → Prop) (tokens : List Token) : Prop :=
  ∃ first second, tokens = first ++ second ∧ property first ∧ other second

namespace CutsInto

variable {chars first second after : List Char} {property other : List Token → Prop}

theorem imp (cuts : CutsInto chars after property)
    (implies : ∀ tokens, property tokens → other tokens) : CutsInto chars after other := by
  intro position
  obtain ⟨tokens, stop, scanned, holds⟩ := cuts position
  exact ⟨tokens, stop, scanned, implies tokens holds⟩

theorem append (cuts : CutsInto first (second ++ after) property)
    (cutsRest : CutsInto second after other) :
    CutsInto (first ++ second) after (Joined property other) := by
  intro position
  obtain ⟨tokens, middle, scanned, holds⟩ := cuts position
  obtain ⟨more, stop, scannedRest, holdsRest⟩ := cutsRest middle
  refine ⟨tokens ++ more, stop, ?_, tokens, more, rfl, holds, holdsRest⟩
  rw [List.append_assoc, scanned, scannedRest]
  cases scan stop after with
  | error fault => rfl
  | ok others =>
      change Except.ok (tokens ++ (more ++ others)) = Except.ok (tokens ++ more ++ others)
      rw [List.append_assoc]

theorem blank (cuts : CutsInto chars after property) : CutsInto (' ' :: chars) after property := by
  intro position
  obtain ⟨tokens, stop, scanned, holds⟩ := cuts (position + 1)
  refine ⟨tokens, stop, ?_, holds⟩
  rw [List.cons_append, scan_cons_of_blank (by decide), scanned]

theorem of_firstToken {char : Char} (present : Text.isBlank char = false)
    (read : ∀ position, ∃ token, firstToken position (char :: (chars ++ after)) =
      .ok (token, after) ∧ property [token]) : CutsInto (char :: chars) after property := by
  intro position
  obtain ⟨token, taken, holds⟩ := read position
  exact ⟨[token], _, scan_cons_of_firstToken present taken, holds⟩

end CutsInto

/-- One token of a kind. -/
def Single (kind : TokenKind) (tokens : List Token) : Prop :=
  ∃ token, tokens = [token] ∧ token.kind = kind

theorem cutsInto_opening (after : List Char) : CutsInto ['('] after (Single .leftParen) :=
  .of_firstToken (by decide) fun _ => ⟨_, rfl, _, rfl, rfl⟩

theorem cutsInto_closing (after : List Char) : CutsInto [')'] after (Single .rightParen) :=
  .of_firstToken (by decide) fun _ => ⟨_, rfl, _, rfl, rfl⟩

theorem cutsInto_comma (after : List Char) : CutsInto [','] after (Single .comma) :=
  .of_firstToken (by decide) fun _ => ⟨_, rfl, _, rfl, rfl⟩

/-! ## Words -/

/-- Whether no other token than a word begins with a character. -/
def beginsWord (char : Char) : Bool :=
  !(['(', ')', ',', '&', '|', '!', '/', '"', '\''].contains char)

theorem firstToken_word {position : Nat} {first : Char} {others after : List Char}
    (begins : beginsWord first = true)
    (inside : ∀ char ∈ first :: others, continuesWord char = true)
    (ends : ∀ char ∈ after.head?, continuesWord char = false) :
    firstToken position (first :: (others ++ after)) =
      .ok (⟨wordKind (String.ofList (first :: others)) after, String.ofList (first :: others),
        position⟩, after) := by
  have word : (first :: (others ++ after)).takeWhile continuesWord = first :: others :=
    takeWhile_append_of_ends inside ends
  have rest : (first :: (others ++ after)).dropWhile continuesWord = after :=
    dropWhile_append_of_ends inside ends
  have noQuote : ¬ (first == '"' || first == '\'') = true := by
    rw [Bool.or_eq_true, beq_iff_eq, beq_iff_eq]
    rintro (rfl | rfl)
    · exact absurd begins (by decide)
    · exact absurd begins (by decide)
  unfold firstToken
  dsimp only
  rw [word, rest]
  -- Every other branch asks for a first character that begins no word.
  have noSign : ∀ {sign : Char} {rest : List Char}, first :: (others ++ after) = sign :: rest →
      beginsWord sign = true := by
    intro sign rest same
    rw [← (List.cons.inj same).1]
    exact begins
  split
  · next same => exact absurd (noSign same) (by decide)
  · next same => exact absurd (noSign same) (by decide)
  · next same => exact absurd (noSign same) (by decide)
  · next same => exact absurd (noSign same) (by decide)
  · next same => exact absurd (noSign same) (by decide)
  · next same => exact absurd (noSign same) (by decide)
  · next same => exact absurd (noSign same) (by decide)
  · next same =>
      rw [← (List.cons.inj same).1, if_neg noQuote]
  · next same => cases same

/-- A word is one token, before whatever ends it. -/
theorem cutsInto_word {word after : List Char} {kind : TokenKind}
    (begins : ∃ first others, word = first :: others ∧ beginsWord first = true)
    (inside : ∀ char ∈ word, continuesWord char = true)
    (ends : ∀ char ∈ after.head?, continuesWord char = false)
    (means : wordKind (String.ofList word) after = kind) :
    CutsInto word after fun tokens =>
      ∃ token, tokens = [token] ∧ token.kind = kind ∧ token.text = String.ofList word := by
  obtain ⟨first, others, rfl, begins⟩ := begins
  have present : Text.isBlank first = false := by
    have goesOn := inside first List.mem_cons_self
    simp only [continuesWord, Bool.not_eq_true', Bool.or_eq_false_iff] at goesOn
    exact goesOn.1.1.1
  refine .of_firstToken present fun position => ?_
  exact ⟨_, firstToken_word begins inside ends, _, rfl, means, rfl⟩

/-! ## Words without quotes -/

/-- The words that may be read as something else than a word. -/
def reservedWords : List String :=
  ["AND", "OR", "NOT", "NEAR", "near"]

theorem wordKind_eq_word {word : String} (free : word ∉ reservedWords) (after : List Char) :
    wordKind word after = .word := by
  simp only [reservedWords, List.mem_cons, List.not_mem_nil, or_false, not_or] at free
  simp [wordKind, free]

def blankCodes : List Nat :=
  [9, 10, 11, 12, 13, 28, 29, 30, 31, 32, 0x85, 0xA0, 0x1680, 0x2000, 0x2001, 0x2002, 0x2003,
    0x2004, 0x2005, 0x2006, 0x2007, 0x2008, 0x2009, 0x200A, 0x2028, 0x2029, 0x202F, 0x205F, 0x3000]

theorem mem_blankCodes {code : Nat} (blank : Text.isBlankCode code = true) : code ∈ blankCodes := by
  simp only [Text.isBlankCode, Bool.or_eq_true, Bool.and_eq_true, decide_eq_true_eq,
    beq_iff_eq] at blank
  simp only [blankCodes, List.mem_cons, List.not_mem_nil, or_false]
  omega

theorem not_isBlank_of_isBareChar {char : Char} (bare : Literal.isBareChar char = true) :
    Text.isBlank char = false := by
  have noneBare : blankCodes.all (fun code => !Literal.isBareChar (Char.ofNat code)) = true := by
    decide +kernel
  rw [← Bool.not_eq_true]
  intro blank
  have notBare := List.all_eq_true.mp noneBare _ (mem_blankCodes blank)
  rw [Char.ofNat_toNat, bare] at notBare
  cases notBare

theorem not_mem_of_isBareChar {char : Char} (bare : Literal.isBareChar char = true)
    {signs : List Char} (noneBare : signs.all (fun sign => !Literal.isBareChar sign) = true) :
    char ∉ signs := by
  intro member
  have notBare := List.all_eq_true.mp noneBare char member
  rw [bare] at notBare
  cases notBare

theorem continuesWord_of_isBareChar {char : Char} (bare : Literal.isBareChar char = true) :
    continuesWord char = true := by
  have noSign : char ∉ ['(', ')', ','] := not_mem_of_isBareChar bare rfl
  simp only [List.mem_cons, List.not_mem_nil, or_false, not_or] at noSign
  simp [continuesWord, not_isBlank_of_isBareChar bare, noSign]

theorem beginsWord_of_isBareChar {char : Char} (bare : Literal.isBareChar char = true) :
    beginsWord char = true := by
  have noSign : char ∉ ['(', ')', ',', '&', '|', '!', '/', '"', '\''] :=
    not_mem_of_isBareChar bare rfl
  unfold beginsWord
  rw [Bool.not_eq_true', ← Bool.not_eq_true, List.contains_iff_mem]
  exact noSign

theorem Parted.head?_continuesWord {after : List Char} (parted : Parted after) :
    ∀ char ∈ after.head?, continuesWord char = false :=
  parted.head?_outside (by decide) (by decide) (by decide)

/-- One word with a text. -/
def OneWord (text : String) (tokens : List Token) : Prop :=
  ∃ token, tokens = [token] ∧ token.kind = .word ∧ token.text = text

theorem cutsInto_bareWord {text : String} {after : List Char} (some_ : text ≠ "")
    (bare : ∀ char ∈ text.toList, Literal.isBareChar char = true) (free : text ∉ reservedWords)
    (parted : Parted after) : CutsInto text.toList after (OneWord text) := by
  obtain ⟨first, others, begins⟩ : ∃ first others, text.toList = first :: others :=
    List.exists_cons_of_ne_nil (by simpa using some_)
  have firstBare : Literal.isBareChar first = true := by
    apply bare
    rw [begins]
    exact List.mem_cons_self
  have cut := cutsInto_word ⟨first, others, begins, beginsWord_of_isBareChar firstBare⟩
    (fun char member => continuesWord_of_isBareChar (bare char member))
    parted.head?_continuesWord (wordKind_eq_word (by rwa [String.ofList_toList]) after)
  rwa [String.ofList_toList] at cut

/-- A connective before the blank after it. -/
theorem cutsInto_connective {first : Char} {others : List Char} {kind : TokenKind}
    (begins : beginsWord first = true) (inside : (first :: others).all continuesWord = true)
    (rest : List Char) (means : wordKind (String.ofList (first :: others)) (' ' :: rest) = kind) :
    CutsInto (first :: others) (' ' :: rest) (Single kind) := by
  have cut := cutsInto_word ⟨first, others, rfl, begins⟩ (List.all_eq_true.mp inside)
    (parted_cons (Or.inl rfl)).head?_continuesWord means
  exact cut.imp fun tokens ⟨token, same, isKind, _⟩ => ⟨token, same, isKind⟩

theorem cutsInto_nearWord (rest : List Char) :
    CutsInto ['N', 'E', 'A', 'R'] ('(' :: rest) (Single .near) := by
  have ends : ∀ char ∈ ('(' :: rest).head?, continuesWord char = false := by
    intro char member
    rw [List.head?_cons, Option.mem_some_iff] at member
    rw [← member]
    decide
  have cut := cutsInto_word ⟨'N', ['E', 'A', 'R'], rfl, by decide⟩
    (List.all_eq_true.mp (by decide)) ends
    (show wordKind (String.ofList ['N', 'E', 'A', 'R']) ('(' :: rest) = .near from rfl)
  exact cut.imp fun tokens ⟨token, same, isKind, _⟩ => ⟨token, same, isKind⟩

/-! ## Whole numbers -/

theorem isBareChar_of_inNumber {char : Char} (inside : inNumber char = true) :
    Literal.isBareChar char = true := by
  simp only [inNumber, Char.isDigit, Bool.or_eq_true, Bool.and_eq_true, decide_eq_true_eq,
    beq_iff_eq] at inside
  rcases inside with ⟨low, high⟩ | rfl
  · have bounds : 48 ≤ char.toNat ∧ char.toNat ≤ 57 := ⟨low, high⟩
    have ascii : char.toNat < 128 := by omega
    simp [Literal.isBareChar, Text.isWordChar, Text.isWordCode, Text.isAsciiWordCode, ascii, bounds]
  · decide

theorem toString_number_ne_empty (number : Int) : toString number ≠ "" := by
  intro none
  rw [Int.toString_eq_repr, Int.repr_eq_if] at none
  have noChars := congrArg String.toList none
  split at noChars
  · rw [Nat.toList_repr] at noChars
    exact Nat.toDigits_ne_nil noChars
  · simp at noChars

theorem toString_number_free (number : Int) : toString number ∉ reservedWords := by
  intro reserved
  have hasLetter : reservedWords.all (fun word => word.toList.any fun char => !inNumber char) =
      true := by
    decide
  obtain ⟨letter, member, outside⟩ := List.any_eq_true.mp (List.all_eq_true.mp hasLetter _ reserved)
  rw [inNumber_of_mem_toString letter member] at outside
  cases outside

theorem cutsInto_number (number : Int) {after : List Char} (parted : Parted after) :
    CutsInto (toString number).toList after (OneWord (toString number)) :=
  cutsInto_bareWord (toString_number_ne_empty number)
    (fun char member => isBareChar_of_inNumber (inNumber_of_mem_toString char member))
    (toString_number_free number) parted

/-! ## Terms -/

theorem firstToken_quoted {position : Nat} {chars content after : List Char}
    (read : readQuoted? '"' chars = some (content, after)) :
    firstToken position ('"' :: chars) =
      .ok (⟨.quoted, String.ofList content, position⟩, after) := by
  simp [firstToken, read]

theorem firstToken_pattern {position : Nat} {chars body after : List Char}
    (read : readPatternBody? chars = some (body, after)) :
    firstToken position ('/' :: chars) =
      .ok (⟨.pattern, String.ofList ('/' :: (body ++ after.takeWhile Text.isLetter)), position⟩,
        after.dropWhile Text.isLetter) := by
  simp [firstToken, read]

/-- Before whatever may follow an operand, some characters are cut into tokens that derive an
expression. -/
def Spells (phrase : Phrase) (tree : Expr) (chars : List Char) : Prop :=
  ∀ after, Parted after → CutsInto chars after fun tokens => Derives phrase tokens tree

namespace Literal

/-- Whether no slash ends the source of a pattern and no backslash is its last character, where a
backslash takes the character after it along. -/
def isEscaped : List Char → Bool
  | [] => true
  | ['\\'] => false
  | '\\' :: _ :: rest => isEscaped rest
  | char :: rest => char != '/' && isEscaped rest

theorem closedSource_of_isEscaped {source : List Char} (escaped : isEscaped source = true) :
    ClosedSource source := by
  intro after
  fun_induction isEscaped source with
  | case1 => simp [readPatternBody?]
  | case2 => cases escaped
  | case3 char rest inductionHypothesis =>
      simp [readPatternBody?, inductionHypothesis escaped]
  | case4 char rest notLast notEscape inductionHypothesis =>
      rw [Bool.and_eq_true, bne_iff_ne] at escaped
      have notBackslash := ne_backslash notLast notEscape
      rw [List.cons_append, readPatternBody?]
      · simp [escaped.1, inductionHypothesis escaped.2]
      · exact fun same => absurd same notBackslash
      · exact fun other others same => absurd same notBackslash

theorem isEscaped_of_closedSource {source : List Char} (closed : ClosedSource source) :
    isEscaped source = true := by
  have read := closed []
  clear closed
  fun_induction isEscaped source with
  | case1 => rfl
  | case2 => cases read
  | case3 char rest inductionHypothesis =>
      simp only [List.cons_append, readPatternBody?, Option.map_eq_some_iff, Prod.exists,
        Prod.mk.injEq, List.cons.injEq, true_and] at read
      obtain ⟨body, after, found, rfl, rfl⟩ := read
      exact inductionHypothesis found
  | case4 char rest notLast notEscape inductionHypothesis =>
      have notBackslash := ne_backslash notLast notEscape
      rw [List.cons_append, readPatternBody?] at read
      · split at read
        · simp at read
        · next noSlash =>
            simp only [Option.map_eq_some_iff, Prod.exists, Prod.mk.injEq, List.cons.injEq,
              true_and] at read
            obtain ⟨body, after, found, rfl, rfl⟩ := read
            rw [Bool.and_eq_true, bne_iff_ne]
            exact ⟨fun same => noSlash (beq_iff_eq.mpr same), inductionHypothesis found⟩
      · exact fun same => absurd same notBackslash
      · exact fun other others same => absurd same notBackslash

def patternLetters : List Char :=
  ['i', 'm', 's', 'x', 'g', 'u', 'y']

/-- A term that a query can write: a plain text with a character; a pattern that compiles, with an
escaped source and letters of patterns; a fuzzy text without anything that ends a word. -/
def Writable : Literal → Prop
  | .plain text => text ≠ ""
  | .pattern source letters =>
    source ≠ "" ∧ isEscaped source.toList = true ∧ (∀ letter ∈ letters.toList, letter ∈ patternLetters) ∧
      ∃ compiled, Pattern.compile source letters = .ok compiled
  | .fuzzy text =>
    text ≠ "" ∧ ∀ char ∈ text.toList, Text.isBlank char = false ∧ char ∉ ['(', ')', ',']

theorem not_mem_reservedWords_of_isBare {text : String} (bare : isBare text = true) :
    text ∉ reservedWords := by
  intro reserved
  have keywords : reservedWords.all isKeyword = true := rfl
  have keyword := List.all_eq_true.mp keywords text reserved
  simp [isBare, keyword] at bare

theorem ofText_of_bareChars {text : String}
    (bare : ∀ char ∈ text.toList, isBareChar char = true) : ofText text = .ok (.plain text) := by
  have noSign : ∀ {sign : Char}, isBareChar sign = false → ∀ others, text.toList ≠ sign :: others := by
    intro sign notBare others begins
    rw [bare sign (by rw [begins]; exact List.mem_cons_self)] at notBare
    cases notBare
  exact ofText_eq_plain (noSign rfl) (noSign rfl)

theorem spells_bare {text : String} (bare : isBare text = true) :
    Spells .primary (.literal (.plain text)) (plain text).render.toList := by
  intro after parted
  have some_ : text ≠ "" := by
    rintro rfl
    exact absurd bare (by decide)
  have bareChars := isBareChar_of_isBare bare
  rw [render_of_isBare bare]
  refine (cutsInto_bareWord some_ bareChars (not_mem_reservedWords_of_isBare bare) parted).imp ?_
  rintro tokens ⟨token, rfl, word, rfl⟩
  exact .term (Or.inl word) (ofText_of_bareChars bareChars)

theorem spells_quoted {text : String} (some_ : text ≠ "") (quoted : ¬ isBare text = true) :
    Spells .primary (.literal (.plain text)) (plain text).render.toList := by
  intro after _
  rw [toList_render_of_not_isBare quoted]
  refine .of_firstToken (by decide) fun position => ⟨⟨.quoted, text, position⟩, ?_, ?_⟩
  · rw [List.append_assoc, List.singleton_append,
      firstToken_quoted (readQuoted?_quote text.toList after), String.ofList_toList]
  · exact .quoted rfl (by simpa using some_)

theorem spells_pattern {source letters : String} (some_ : source ≠ "")
    (escaped : isEscaped source.toList = true)
    (named : ∀ letter ∈ letters.toList, letter ∈ patternLetters) {compiled : Pattern.Compiled}
    (compiles : Pattern.compile source letters = .ok compiled) :
    Spells .primary (.literal (.pattern source letters)) (pattern source letters).render.toList := by
  intro after parted
  have inLetters : ∀ {property : Char → Bool}, patternLetters.all property = true →
      ∀ letter ∈ letters.toList, property letter = true := fun holds letter member =>
    List.all_eq_true.mp holds letter (named letter member)
  have ends : ∀ char ∈ after.head?, Text.isLetter char = false :=
    parted.head?_outside rfl rfl rfl
  have isLetter : ∀ letter ∈ letters.toList, Text.isLetter letter = true :=
    inLetters rfl
  have written : (pattern source letters).render.toList =
      '/' :: (source.toList ++ '/' :: letters.toList) := by
    simpa using toList_render_pattern source letters []
  rw [written]
  refine .of_firstToken (by decide) fun position =>
    ⟨⟨.pattern, "/" ++ source ++ "/" ++ letters, position⟩, ?_, ?_⟩
  · have text : String.ofList ('/' :: (source.toList ++ ['/'] ++ letters.toList)) =
        "/" ++ source ++ "/" ++ letters := by
      apply String.toList_injective
      simp
    rw [List.append_assoc, List.cons_append,
      firstToken_pattern (closedSource_of_isEscaped escaped (letters.toList ++ after)),
      takeWhile_append_of_ends isLetter ends, dropWhile_append_of_ends isLetter ends, text]
  · refine .term (Or.inr rfl) (ofText_eq_pattern some_ (inLetters (by decide)) ?_ compiles)
    intro letter member
    exact bne_iff_ne.mp (inLetters (by decide : patternLetters.all (· != '/') = true) letter member)

theorem spells_fuzzy {text : String} (some_ : text ≠ "")
    (inside : ∀ char ∈ text.toList, Text.isBlank char = false ∧ char ∉ ['(', ')', ',']) :
    Spells .primary (.literal (.fuzzy text)) (fuzzy text).render.toList := by
  intro after parted
  have written : (fuzzy text).render.toList = '~' :: text.toList := by
    simpa using toList_render_fuzzy text []
  have whole : String.ofList ('~' :: text.toList) = "~" ++ text := by
    apply String.toList_injective
    simp
  have continues : ∀ char ∈ '~' :: text.toList, continuesWord char = true := by
    rw [List.forall_mem_cons]
    refine ⟨by decide, fun char member => ?_⟩
    obtain ⟨present, noSign⟩ := inside char member
    simp only [List.mem_cons, List.not_mem_nil, or_false, not_or] at noSign
    simp [continuesWord, present, noSign]
  have free : "~" ++ text ∉ reservedWords := by
    intro reserved
    have noTilde : reservedWords.all (fun word => word.toList.head? != some '~') = true := by decide
    have begins := List.all_eq_true.mp noTilde _ reserved
    simp at begins
  rw [written]
  have cut := cutsInto_word ⟨'~', text.toList, rfl, by decide⟩ continues parted.head?_continuesWord
    (wordKind_eq_word (whole ▸ free) after)
  refine cut.imp ?_
  rintro tokens ⟨token, rfl, word, same⟩
  refine .term (Or.inl word) ?_
  rw [same, whole]
  exact ofText_eq_fuzzy some_

theorem spells_of_writable {term : Literal} (writable : term.Writable) :
    Spells .primary (.literal term) term.render.toList := by
  cases term with
  | plain text =>
      by_cases bare : isBare text = true
      · exact spells_bare bare
      · exact spells_quoted writable bare
  | pattern source letters =>
      obtain ⟨some_, escaped, named, compiled, compiles⟩ := writable
      exact spells_pattern some_ escaped named compiles
  | fuzzy text => exact spells_fuzzy writable.1 writable.2

end Literal

end BooleanSearch.Query
