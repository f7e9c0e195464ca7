import BooleanSearch.Proofs.Pattern.EscapedTexts
import BooleanSearch.Proofs.Pattern.Spans
import Mathlib.Data.List.Forall2

/-!
# Patterns for literal texts

The patterns that are built from escaped texts compile, to one test for each character and the
lookarounds about them.  So they match exactly where the characters of a text pass these tests and the
lookarounds hold.
-/

namespace BooleanSearch.Pattern

open Reader

/-! ## Compiled patterns -/

/-- Nodes one after the other. -/
def Node.chain : List Node → Node
  | [] => .empty
  | [only] => only
  | first :: rest => .seq first (chain rest)

/-- The tests for the characters of a text, one after the other. -/
def Node.testsOf (flags : Flags) (text : List Char) : List Node :=
  text.map fun char => .char (CharTest.ofCode flags char.toNat false)

/-- A tree means a node under some switches, whatever the groups are. -/
def Tree.Means (flags : Flags) (tree : Tree) (node : Node) : Prop :=
  ∀ groups, tree.resolve groups flags = .ok node

section

variable {flags : Flags}

theorem means_ofItems {trees : List Tree} {nodes : List Node}
    (means : List.Forall₂ (Tree.Means flags) trees nodes) :
    (Tree.ofItems trees).Means flags (.chain nodes) := by
  intro groups
  induction means with
  | nil => rfl
  | @cons tree node trees nodes first rest inductionHypothesis =>
      cases rest with
      | nil => exact first groups
      | cons second others =>
          unfold Tree.ofItems Tree.resolve
          rw [first groups]
          change (Tree.resolve groups flags (Tree.ofItems _) >>= _) = _
          rw [inductionHypothesis]
          rfl

theorem means_codesOf (text : List Char) :
    List.Forall₂ (Tree.Means flags) (codesOf text) (Node.testsOf flags text) := by
  unfold codesOf Node.testsOf
  rw [List.forall₂_map_left_iff, List.forall₂_map_right_iff]
  exact List.forall₂_same.mpr fun char _ groups => rfl

theorem means_ahead {negative : Bool} {tree : Tree} {node : Node} (means : tree.Means flags node) :
    (Tree.look false negative tree).Means flags (.look 0 negative node) := by
  intro groups
  unfold Tree.resolve
  change (Tree.resolve groups flags tree >>= _) = _
  rw [means groups]
  rfl

/-- What a pattern of one branch without groups is compiled to, if it does not begin with a set. -/
theorem compileWith_of_items {source : String} {items : List Item} {trees : List Tree}
    {nodes : List Node} {fuel stop : Nat} (cut : Item.ofChars source.toList = items)
    (begins : items.head? ≠ some .dangling) (brief : flags.verbose = false)
    (unrestricted : flags.ascii = false) (enough : 4 * items.length + 8 = fuel + 1)
    (read : readItems false true [] fuel (groupless flags none items 0) =
      .ok (trees, groupless flags none [] stop))
    (means : List.Forall₂ (Tree.Means (flags.union { unicode := true })) trees nodes)
    (noSet : (Tree.ofItems trees).leadingSet? (flags.union { unicode := true }) = none) :
    compileWith source flags =
      .ok ⟨source, flags.union { unicode := true }, 0, [], .chain nodes, none⟩ := by
  have pattern : readPattern source flags = .ok ⟨Tree.ofItems trees,
      flags.union { unicode := true }, 0, [], (groupless flags none [] stop).groupWidth⟩ := by
    unfold readPattern
    dsimp only
    rw [cut, if_neg (by rwa [beq_iff_eq]), brief, enough]
    change (readBranches false true [] (fuel + 1) (groupless flags none items 0) >>= _) = _
    rw [readBranches_of_items read nofun]
    change (if (flags.ascii && flags.unicode) = true then _ else Except.ok
      (ReadPattern.mk (Tree.ofItems trees) (if flags.ascii = true then _ else _) 0 [] _)) = _
    rw [unrestricted, Bool.false_and, if_neg Bool.false_ne_true, if_neg Bool.false_ne_true]
    rfl
  unfold compileWith
  rw [pattern]
  change (Tree.resolve _ _ (Tree.ofItems trees) >>= _) = _
  rw [means_ofItems means]
  unfold Tree.opening?
  rw [noSet]
  rfl

/-- A text that is looked for ahead compiles to the test that it stands there. -/
theorem compileWith_ahead (text : String) (brief : flags.verbose = false)
    (unrestricted : flags.ascii = false) :
    compileWith ("(?=" ++ escape text ++ ")") flags =
      .ok ⟨"(?=" ++ escape text ++ ")", flags.union { unicode := true }, 0, [],
        .look 0 false (.chain (Node.testsOf (flags.union { unicode := true }) text.toList)), none⟩ := by
  generalize inner : text.toList.map escapedItem ++ [Item.plain ')'] = rest
  have cut : Item.ofChars ("(?=" ++ escape text ++ ")").toList =
      .plain '(' :: .plain '?' :: .plain '=' :: rest := by
    have chars : ("(?=" ++ escape text ++ ")").toList =
        '(' :: '?' :: '=' :: (text.toList.flatMap escapeChar ++ [')']) := by
      simp [escape]
    rw [chars, Item.ofChars_cons (by decide), Item.ofChars_cons (by decide),
      Item.ofChars_cons (by decide), Item.ofChars_escape, ← inner]
    rfl
  have whole : .dangling ∉ rest := inner ▸ dangling_notMem_append text.toList (by decide)
  have wholeSigns : .dangling ∉ .plain '?' :: .plain '=' :: rest := by
    simpa using whole
  have length : rest.length = text.toList.length + 1 := by
    rw [← inner, List.length_append, List.length_map, List.length_singleton]
  obtain ⟨stop, group⟩ : ∃ stop, readGroup false 0 (.look false false)
      (3 * text.toList.length + 19 + 1 + text.toList.length + 2) (groupless flags none rest 3) =
        .ok (.look false false (Tree.ofItems (codesOf text.toList)), groupless flags none [] stop) := by
    rw [← inner]
    exact readGroup_text text.toList List.not_mem_nil
  refine compileWith_of_items cut (fun same => by cases same) brief unrestricted ?_
    ((readItems_look wholeSigns (readOpening_ahead 0 false whole) group).trans
      (readItems_end (Or.inl rfl)))
    (.cons (means_ahead (means_ofItems (means_codesOf text.toList))) .nil) rfl
  simp only [List.length_cons, length]
  omega

/-- An escaped text compiles to the tests for its characters. -/
theorem compileWith_escape (text : String) (brief : flags.verbose = false)
    (unrestricted : flags.ascii = false) :
    compileWith (escape text) flags =
      .ok ⟨escape text, flags.union { unicode := true }, 0, [],
        .chain (Node.testsOf (flags.union { unicode := true }) text.toList), none⟩ := by
  have cut : Item.ofChars (escape text).toList = text.toList.map escapedItem ++ [] := by
    have signs := Item.ofChars_escape text.toList []
    rw [List.append_nil] at signs
    rw [escape, String.toList_ofList, signs]
    rfl
  obtain ⟨stop, middle⟩ : ∃ stop, readItems false true [] (3 * text.toList.length + 6 + 1 +
      text.toList.length) (groupless flags none (text.toList.map escapedItem ++ []) 0) =
        readItems false true ([] ++ codesOf text.toList) (3 * text.toList.length + 6 + 1)
          (groupless flags none [] stop) :=
    readItems_escapedText text.toList List.not_mem_nil
  rw [readItems_end (Or.inl rfl), List.nil_append, unpack_codesOf] at middle
  apply compileWith_of_items cut _ brief unrestricted _ middle (means_codesOf text.toList)
  · generalize text.toList = chars
    cases chars with
    | nil => rfl
    | cons first rest => cases rest <;> rfl
  · intro same
    cases chars : text.toList with
    | nil => simp [chars] at same
    | cons first rest =>
        have escaped : escapedItem first = .dangling := by simpa [chars] using same
        unfold escapedItem at escaped
        split at escaped <;> cases escaped
  · rw [List.append_nil, List.length_map]
    omega

/-- The test for word characters. -/
def wordTest : CharTest :=
  ⟨.exact, false, [.class .word false false]⟩

theorem means_wordTree : wordTree.Means (flags.union { unicode := true }) (.char wordTest) := by
  intro groups
  have switched : (flags.union { unicode := true }).unicode = true := Bool.or_true _
  unfold wordTree Tree.resolve CharTest.ofSet
  simp only [List.map_cons, List.map_nil, SetMember.resolve, switched]
  rfl

theorem means_noWord (behind : Bool) :
    (Tree.look behind true wordTree).Means (flags.union { unicode := true })
      (.look (if behind then 1 else 0) true (.char wordTest)) := by
  intro groups
  cases behind with
  | false => exact means_ahead means_wordTree groups
  | true =>
      have back : lookbehindWidth groups wordTree = .ok 1 := rfl
      unfold Tree.resolve
      rw [back, means_wordTree groups]
      rfl

/-- A text as a whole word compiles to the test that it stands there between characters that are no
word characters. -/
theorem compileWith_wholeWordSource (text : String) (brief : flags.verbose = false)
    (unrestricted : flags.ascii = false) :
    compileWith (wholeWordSource text) flags =
      .ok ⟨wholeWordSource text, flags.union { unicode := true }, 0, [],
        .chain ([.look 1 true (.char wordTest)] ++
          Node.testsOf (flags.union { unicode := true }) text.toList ++
            [.look 0 true (.char wordTest)]), none⟩ := by
  generalize inner : text.toList.map escapedItem ++ noWordAhead = rest
  have cut : Item.ofChars (wholeWordSource text).toList = noWordBehind ++ rest := by
    have chars : (wholeWordSource text).toList = "(?<!\\w)".toList ++
        (text.toList.flatMap escapeChar ++ "(?!\\w)".toList) := by
      simp [wholeWordSource, escape]
    have signs : ∀ after, Item.ofChars ("(?<!\\w)".toList ++ after) =
        noWordBehind ++ Item.ofChars after := by
      intro after
      change Item.ofChars ('(' :: '?' :: '<' :: '!' :: '\\' :: 'w' :: ')' :: after) = _
      rw [Item.ofChars_cons (by decide), Item.ofChars_cons (by decide),
        Item.ofChars_cons (by decide), Item.ofChars_cons (by decide), Item.ofChars,
        Item.ofChars_cons (by decide)]
      rfl
    rw [chars, signs, Item.ofChars_escape, ← inner]
    rfl
  have length : rest.length = text.toList.length + 5 := by
    rw [← inner, List.length_append, List.length_map]
    rfl
  have wholeSigns : .dangling ∉ noWordAhead := by decide
  have whole : .dangling ∉ rest := inner ▸ dangling_notMem_append text.toList wholeSigns
  obtain ⟨stop, middle⟩ : ∃ stop, readItems false true [.look true true wordTree]
      (3 * text.toList.length + 50 + text.toList.length) (groupless flags none rest 7) =
        readItems false true ([.look true true wordTree] ++ codesOf text.toList)
          (3 * text.toList.length + 50) (groupless flags none noWordAhead stop) := by
    rw [← inner]
    exact readItems_escapedText text.toList wholeSigns
  have read : readItems false true [] (4 * text.toList.length + 51)
      (groupless flags none (noWordBehind ++ rest) 0) =
        .ok ([.look true true wordTree] ++ codesOf text.toList ++ [.look false true wordTree],
          groupless flags none [] (stop + 6)) := by
    rw [readItems_noWordBehind whole]
    have fuel : 4 * text.toList.length + 46 + 4 =
        3 * text.toList.length + 50 + text.toList.length := by omega
    rw [fuel]
    refine middle.trans ((readItems_noWordAhead List.not_mem_nil).trans ?_)
    rw [readItems_end (Or.inl rfl)]
    unfold Tree.unpack
    rw [List.flatMap_append, List.flatMap_append]
    change Except.ok (Tree.unpack _ ++ Tree.unpack (codesOf _) ++ Tree.unpack _, _) = _
    rw [unpack_codesOf]
    rfl
  refine compileWith_of_items cut (fun same => by cases same) brief unrestricted ?_ read ?_ ?_
  · simp only [List.length_append, length, noWordBehind, List.length_cons, List.length_nil]
    omega
  · exact List.rel_append (List.rel_append (.cons (means_noWord true) .nil)
      (means_codesOf text.toList)) (.cons (means_noWord false) .nil)
  · cases codesOf text.toList <;> rfl

end

/-! ## Runs of chains -/

section

variable {flags : Flags} {text : Text} {offset : Nat} {captures : Captures} {next : Continuation}

theorem Node.run?_chain_cons (first : Node) (rest : List Node) :
    (Node.chain (first :: rest)).run? text offset captures next =
      first.run? text offset captures fun stop captures =>
        (Node.chain rest).run? text stop captures next := by
  cases rest with
  | nil => rfl
  | cons second others => rfl

theorem Node.run?_chain_append (firsts lasts : List Node) :
    (Node.chain (firsts ++ lasts)).run? text offset captures next =
      (Node.chain firsts).run? text offset captures fun stop captures =>
        (Node.chain lasts).run? text stop captures next := by
  induction firsts generalizing offset captures with
  | nil => rfl
  | cons first rest inductionHypothesis =>
      rw [List.cons_append, Node.run?_chain_cons, Node.run?_chain_cons]
      simp only [inductionHypothesis]

/-- Whether the characters of a text from an offset on pass the tests for some characters. -/
def passesText (flags : Flags) (text : Text) (offset : Nat) : List Char → Bool
  | [] => true
  | char :: rest =>
    passes text (CharTest.ofCode flags char.toNat false) offset &&
      passesText flags text (offset + 1) rest

/-- The tests for a text are passed as a whole, and take as many characters. -/
theorem run?_testsOf (chars : List Char) :
    (Node.chain (Node.testsOf flags chars)).run? text offset captures next =
      if passesText flags text offset chars then next (offset + chars.length) captures
      else none := by
  induction chars generalizing offset with
  | nil => rfl
  | cons char rest inductionHypothesis =>
      unfold passesText
      rw [Node.testsOf, List.map_cons, Node.run?_chain_cons]
      change (if passes text _ offset then (Node.chain (Node.testsOf flags rest)).run? text _ _ _
        else none) = _
      rw [inductionHypothesis, List.length_cons, Nat.add_right_comm, ← Nat.add_assoc]
      cases passes text (CharTest.ofCode flags char.toNat false) offset <;> rfl

theorem passes_wordTest : passes text wordTest offset = wordAt text false offset := by
  unfold passes wordAt
  cases text[offset]? with
  | none => rfl
  | some char =>
      change ((ClassKind.word.holds false char.toNat != false || false) != false) =
        ClassKind.word.holds false char.toNat
      cases ClassKind.word.holds false char.toNat <;> rfl

theorem run?_noWordAhead :
    (Node.look 0 true (.char wordTest)).run? text offset captures next =
      if wordAt text false offset then none else next offset captures := by
  unfold Node.run? Node.run?
  rw [if_neg (Nat.not_lt_zero offset), Nat.sub_zero, passes_wordTest]
  cases wordAt text false offset <;> rfl

/-- Whether the character before an offset is a word character. -/
def wordBefore (text : Text) (offset : Nat) : Bool :=
  decide (0 < offset) && wordAt text false (offset - 1)

theorem run?_noWordBehind :
    (Node.look 1 true (.char wordTest)).run? text offset captures next =
      if wordBefore text offset then none else next offset captures := by
  unfold Node.run? Node.run? wordBefore
  by_cases atStart : offset < 1
  · rw [if_pos atStart, decide_eq_false (by omega)]
    rfl
  · rw [if_neg atStart, decide_eq_true (by omega), passes_wordTest]
    cases wordAt text false (offset - 1) <;> rfl

end

/-! ## Matches -/

/-- Whether neither the character before an offset nor the one so many characters behind it is a word
character. -/
def standsAlone (text : Text) (length offset : Nat) : Bool :=
  !wordBefore text offset && !wordAt text false (offset + length)

section

variable {flags : Flags} (text : Text) (chars : List Char) (source : String)

theorem fits_ahead :
    Compiled.Fits ⟨source, flags, 0, [], .look 0 false (.chain (Node.testsOf flags chars)), none⟩
      text 0 fun offset => passesText flags text offset chars := by
  intro mustMove offset
  change _ = if (passesText flags text offset chars && !(mustMove && 0 == 0)) = true then
    some offset else none
  unfold Compiled.matchAt? Compiled.mayOpen
  dsimp only
  rw [if_pos rfl]
  unfold Node.run?
  rw [if_neg (Nat.not_lt_zero offset), Nat.sub_zero, run?_testsOf]
  cases passesText flags text offset chars with
  | false => rfl
  | true => cases mustMove <;> simp [stop]

theorem end_beq_start (offset width : Nat) : (offset + width == offset) = (width == 0) := by
  rw [Bool.eq_iff_iff, beq_iff_eq, beq_iff_eq]
  omega

theorem fits_text :
    Compiled.Fits ⟨source, flags, 0, [], .chain (Node.testsOf flags chars), none⟩ text chars.length
      fun offset => passesText flags text offset chars := by
  intro mustMove offset
  change _ = if (passesText flags text offset chars && !(mustMove && chars.length == 0)) = true then
    some (offset + chars.length) else none
  unfold Compiled.matchAt? Compiled.mayOpen
  dsimp only
  rw [if_pos rfl, run?_testsOf]
  cases passesText flags text offset chars with
  | false => rfl
  | true =>
      change (if (mustMove && offset + chars.length == offset) = true then none
        else some (offset + chars.length, _)).map Prod.fst = _
      rw [end_beq_start]
      cases mustMove && chars.length == 0 <;> rfl

theorem fits_wholeWord :
    Compiled.Fits ⟨source, flags, 0, [], .chain ([.look 1 true (.char wordTest)] ++
        Node.testsOf flags chars ++ [.look 0 true (.char wordTest)]), none⟩
      text chars.length fun offset =>
        passesText flags text offset chars && standsAlone text chars.length offset := by
  intro mustMove offset
  change _ = if (passesText flags text offset chars && standsAlone text chars.length offset &&
    !(mustMove && chars.length == 0)) = true then some (offset + chars.length) else none
  unfold Compiled.matchAt? Compiled.mayOpen standsAlone
  dsimp only
  rw [if_pos rfl, Node.run?_chain_append, Node.run?_chain_append]
  change ((Node.look 1 true (.char wordTest)).run? text offset _ _).map Prod.fst = _
  rw [run?_noWordBehind, run?_testsOf]
  cases wordBefore text offset with
  | true => rw [Bool.not_true, Bool.false_and, Bool.and_false, Bool.false_and]; rfl
  | false =>
      cases passesText flags text offset chars with
      | false => rfl
      | true =>
          rw [if_neg Bool.false_ne_true, if_pos rfl, Node.run?_chain_cons, run?_noWordAhead]
          cases wordAt text false (offset + chars.length) with
          | true => rfl
          | false =>
              change (if (mustMove && offset + chars.length == offset) = true then none
                else some (offset + chars.length, _)).map Prod.fst = _
              rw [end_beq_start]
              cases mustMove && chars.length == 0 <;> rfl

end

/-! ## Texts that pass -/

section

variable {flags : Flags} {text : Text} {offset : Nat}

theorem cons_prefix_drop_iff {char : Char} {rest : List Char} :
    char :: rest <+: text.toList.drop offset ↔
      text[offset]? = some char ∧ rest <+: text.toList.drop (offset + 1) := by
  by_cases within : offset < text.toList.length
  · rw [List.drop_eq_getElem_cons within, List.cons_prefix_cons, ← Array.getElem?_toList,
      List.getElem?_eq_getElem within, Option.some_inj, eq_comm]
  · rw [List.drop_eq_nil_of_le (by omega), ← Array.getElem?_toList,
      List.getElem?_eq_none (by omega)]
    exact iff_of_false (fun empty => by simpa using empty.length_le) fun found => nomatch found.1

/-- A character passes its own test, whatever the switches are. -/
theorem ofCode_accepts (flags : Flags) (char : Char) :
    (CharTest.ofCode flags char.toNat false).accepts char = true := by
  unfold CharTest.ofCode CharTest.accepts CharTest.acceptsCode
  dsimp only
  split
  · simp [CaseRule.fold, Member.covers]
  · simp [Member.covers]

theorem passesText_of_prefix {chars : List Char} (here : chars <+: text.toList.drop offset) :
    passesText flags text offset chars = true := by
  induction chars generalizing offset with
  | nil => rfl
  | cons char rest inductionHypothesis =>
      obtain ⟨found, others⟩ := cons_prefix_drop_iff.mp here
      unfold passesText passes
      rw [found, inductionHypothesis others, Bool.and_true]
      exact ofCode_accepts flags char

/-- Where case is not ignored, a character passes the test for no other one. -/
theorem passes_ofCode_iff (cased : flags.ignoreCase = false) {char : Char} :
    passes text (CharTest.ofCode flags char.toNat false) offset = true ↔
      text[offset]? = some char := by
  have exact : CharTest.ofCode flags char.toNat false = ⟨.exact, false, [.code char.toNat]⟩ := by
    unfold CharTest.ofCode Flags.caseRule
    rw [cased]
    rfl
  unfold passes
  rw [exact]
  cases text[offset]? with
  | none => exact iff_of_false Bool.false_ne_true nofun
  | some other =>
      change ((char.toNat == other.toNat || false) != false) = true ↔ some other = some char
      rw [Bool.or_false, Bool.bne_false, beq_iff_eq, Option.some_inj]
      exact Char.toNat_inj.trans eq_comm

theorem passesText_iff (cased : flags.ignoreCase = false) {chars : List Char} :
    passesText flags text offset chars = true ↔ chars <+: text.toList.drop offset := by
  induction chars generalizing offset with
  | nil => exact iff_of_true rfl List.nil_prefix
  | cons char rest inductionHypothesis =>
      unfold passesText
      rw [Bool.and_eq_true, passes_ofCode_iff cased, inductionHypothesis, cons_prefix_drop_iff]

end

/-! ## Found texts -/

section

variable {flags : Flags} (brief : flags.verbose = false) (unrestricted : flags.ascii = false)
  (content : Text) (text : String)

include brief unrestricted

/-- A search ahead finds every offset at which a text passes, overlapping itself or not. -/
theorem map_fst_spansOf_ahead :
    (spansOf ("(?=" ++ escape text ++ ")") flags content).map Prod.fst =
      (List.range (content.size + 1)).filter fun offset =>
        passesText (flags.union { unicode := true }) content offset text.toList := by
  unfold spansOf
  rw [compileWith_ahead text brief unrestricted]
  dsimp only
  rw [(fits_ahead content text.toList _).map_fst_spans, spaced_eq_self_iff]
  exact (List.pairwise_lt_range.filter _).imp fun before => Nat.le_of_lt before

/-- A search for a text passes over occurrences that begin inside the one found before. -/
theorem map_fst_spansOf_escape :
    (spansOf (escape text) flags content).map Prod.fst =
      spaced text.length ((List.range (content.size + 1)).filter fun offset =>
        passesText (flags.union { unicode := true }) content offset text.toList) := by
  unfold spansOf
  rw [compileWith_escape text brief unrestricted]
  dsimp only
  rw [(fits_text content text.toList _).map_fst_spans, String.length_toList]

/-- A search for whole words passes over those that begin inside the one found before. -/
theorem map_fst_spansOf_wholeWord :
    (spansOf (wholeWordSource text) flags content).map Prod.fst =
      spaced text.length ((List.range (content.size + 1)).filter fun offset =>
        passesText (flags.union { unicode := true }) content offset text.toList &&
          standsAlone content text.length offset) := by
  unfold spansOf
  rw [compileWith_wholeWordSource text brief unrestricted]
  dsimp only
  rw [(fits_wholeWord content text.toList _).map_fst_spans, String.length_toList]

end

end BooleanSearch.Pattern
