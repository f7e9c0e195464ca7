import BooleanSearch.Proofs.Digest.KeyParts
import BooleanSearch.Proofs.Match.Nearness
import BooleanSearch.Proofs.Match.ProximityCache
import BooleanSearch.Proofs.Query.ParsedTerms

/-!
# Keys of proximities

A key puts colons between its parts.  The digest of a content holds none, and legible operands can
be read off what follows, so the parts are known from the key.  Of the options it leaves out the
size limit, which matters only where some requests for a content keep to it and others do not.
-/

namespace BooleanSearch

open Query

/-! ## Reading keys -/

namespace MatchOptions

def withoutLimit (options : MatchOptions) : MatchOptions :=
  { options with sizeLimit := none }

def switchChar (value : Bool) : Char :=
  if value then '1' else '0'

theorem switchChar_inj {first second : Bool} (same : switchChar first = switchChar second) :
    first = second := by
  revert first second
  decide

theorem toList_key (options : MatchOptions) :
    options.key.toList =
      'c' :: 's' :: '=' :: switchChar options.caseSensitive ::
      ',' :: 'w' :: 'w' :: '=' :: switchChar options.wholeWord ::
      ',' :: 'f' :: 'z' :: '=' :: switchChar options.fuzzy ::
      ',' :: 'f' :: 'z' :: 'n' :: '=' :: switchChar options.fuzzyNear ::
      ',' :: 't' :: 'h' :: '=' :: options.threshold.text.toList := by
  have toList_digit : ∀ value, (digit value).toList = [switchChar value] := by
    intro value
    cases value <;> rfl
  simp [key, toList_digit]

/-- Options with the same key differ in their size limit at most, if the text of a threshold
stands for one threshold. -/
theorem withoutLimit_of_key_eq {first second : MatchOptions} (same : first.key = second.key)
    (cutoffs : first.threshold.text = second.threshold.text →
      first.threshold = second.threshold) :
    first.withoutLimit = second.withoutLimit := by
  have texts := congrArg String.toList same
  rw [toList_key, toList_key] at texts
  simp only [List.cons.injEq, true_and] at texts
  obtain ⟨caseSensitive, wholeWord, fuzzy, fuzzyNear, threshold⟩ := texts
  unfold withoutLimit
  rw [switchChar_inj caseSensitive, switchChar_inj wholeWord, switchChar_inj fuzzy,
    switchChar_inj fuzzyNear, cutoffs (String.toList_injective threshold)]

end MatchOptions

namespace NearProblem

theorem toList_key (problem : NearProblem) :
    problem.key.toList = (contentKey problem.content).toList ++ ':' ::
      (problem.left.written ++ ':' :: (problem.right.written ++ ':' ::
        ((toString (problem.distance : Int)).toList ++ ':' :: problem.options.key.toList))) := by
  simp [key, nearKey, makeKey, keyPart, Value.display, Value.literal, joinWith, Expr.written]

/-- The parts of a key can be read from it, if its operands are legible. -/
theorem parts_of_key_eq {first second : NearProblem} (leftLegible : first.left.Legible)
    (rightLegible : first.right.Legible) (otherLeftLegible : second.left.Legible)
    (otherRightLegible : second.right.Legible) (same : first.key = second.key) :
    contentKey first.content = contentKey second.content ∧ first.left = second.left ∧
      first.right = second.right ∧ first.distance = second.distance ∧
      first.options.key = second.options.key := by
  have texts := congrArg String.toList same
  rw [toList_key, toList_key] at texts
  obtain ⟨contents, rest⟩ :=
    firstPart_inj (colon_not_mem_contentKey _) (colon_not_mem_contentKey _) texts
  obtain ⟨lefts, rest⟩ := (Expr.reads leftLegible).2 _ otherLeftLegible _ _
    ⟨':', _, rfl, rfl⟩ ⟨':', _, rfl, rfl⟩ rest
  simp only [List.cons.injEq, true_and] at rest
  obtain ⟨rights, rest⟩ := (Expr.reads rightLegible).2 _ otherRightLegible _ _
    ⟨':', _, rfl, rfl⟩ ⟨':', _, rfl, rfl⟩ rest
  simp only [List.cons.injEq, true_and] at rest
  obtain ⟨distances, rest⟩ := int_of_toString_append_eq ⟨':', _, rfl, rfl⟩
    ⟨':', _, rfl, rfl⟩ rest
  simp only [List.cons.injEq, true_and] at rest
  exact ⟨String.toList_injective contents, lefts, rights, Int.ofNat.inj distances,
    String.toList_injective rest⟩

end NearProblem

/-! ## Size limits -/

section

variable {fuzzily : Bool} {content : Text} {options : MatchOptions}

theorem operandSpots_withoutLimit (fits : Fits content options) (operand : Expr)
    (result : Except Failure Bool) :
    operandSpots fuzzily content options.withoutLimit operand result =
      operandSpots fuzzily content options operand result := by
  have unlimited : sizeVerdict content options.withoutLimit = sizeVerdict content options := by
    rw [sizeVerdict_of_fits fits, sizeVerdict_of_fits (fits_of_no_limit rfl)]
  cases operand with
  | literal term => rfl
  | not child => exact congrArg (· >>= _) unlimited
  | and left right => exact congrArg (· >>= _) unlimited
  | or left right => exact congrArg (· >>= _) unlimited
  | near left right distance => exact congrArg (· >>= _) unlimited

/-- The size limit does not matter for a content that keeps to it. -/
theorem verdict_withoutLimit (fits : Fits content options) (query : Expr) :
    verdict fuzzily content options.withoutLimit query =
      verdict fuzzily content options query := by
  induction query with
  | literal term => rfl
  | not child inductionHypothesis => simp only [verdict, inductionHypothesis]
  | and left right leftHypothesis rightHypothesis =>
      simp only [verdict, leftHypothesis, rightHypothesis]
  | or left right leftHypothesis rightHypothesis =>
      simp only [verdict, leftHypothesis, rightHypothesis]
  | near left right distance leftHypothesis rightHypothesis =>
      simp only [verdict, leftHypothesis, rightHypothesis, operandSpots_withoutLimit fits]

theorem resolvedSpots_withoutLimit (fits : Fits content options) (operand : Expr) :
    resolvedSpots fuzzily content operand options.withoutLimit =
      resolvedSpots fuzzily content operand options := by
  unfold resolvedSpots
  rw [operandSpots_withoutLimit fits, verdict_withoutLimit fits]

/-- In a content beyond the size limit an operand is refused, unless it is a term, to which the
limit does not apply. -/
theorem resolvedSpots_of_not_fits (large : ¬ Fits content options) {other : MatchOptions}
    (same : options.withoutLimit = other.withoutLimit) (operand : Expr) :
    resolvedSpots fuzzily content operand options =
        resolvedSpots fuzzily content operand other ∨
      ∃ limit, resolvedSpots fuzzily content operand options =
        .error (.error ⟨.tooLarge content.size limit none, none⟩) := by
  obtain ⟨limit, refused⟩ := sizeVerdict_of_not_fits large
  cases operand with
  | literal term =>
      have unlimited : ∀ options : MatchOptions,
          resolvedSpots fuzzily content (.literal term) options.withoutLimit =
            resolvedSpots fuzzily content (.literal term) options := fun _ => rfl
      rw [← unlimited options, same, unlimited other]
      exact Or.inl rfl
  | not child => exact Or.inr ⟨limit, congrArg (· >>= _) refused⟩
  | and left right => exact Or.inr ⟨limit, congrArg (· >>= _) refused⟩
  | or left right => exact Or.inr ⟨limit, congrArg (· >>= _) refused⟩
  | near left right distance => exact Or.inr ⟨limit, congrArg (· >>= _) refused⟩

end

section

variable {content : Text} {distance : Nat}

theorem measureVerdict_left_error (failure : Failure) (right : Except Failure (List Nat)) :
    measureVerdict content distance (.error failure) right = .error failure := rfl

theorem measureVerdict_nil {spots : List Nat} (none : spots.isEmpty = true)
    (right : Except Failure (List Nat)) :
    measureVerdict content distance (.ok spots) right = .ok false :=
  if_pos none

theorem measureVerdict_right_error {spots : List Nat} (some : ¬ spots.isEmpty = true)
    (failure : Failure) :
    measureVerdict content distance (.ok spots) (.error failure) = .error failure :=
  if_neg some

end

namespace NearProblem

variable {fuzzily : Bool} {content : Text} {left right : Expr} {distance : Nat}
  {options other : MatchOptions}

theorem verdict_of_fits (fits : Fits content options) :
    verdict fuzzily ⟨content, left, right, distance, options⟩ =
      .ok (spotsNear content distance (nearSpots fuzzily content left options)
        (nearSpots fuzzily content right options)) :=
  tolerated_measureVerdict left right (resolvedSpots_of_fits fits left)
    (resolvedSpots_of_fits fits right)

theorem verdict_of_not_fits (large : ¬ Fits content options)
    (same : options.withoutLimit = other.withoutLimit) {value : Bool}
    (given : verdict fuzzily ⟨content, left, right, distance, options⟩ = .ok value) :
    verdict fuzzily ⟨content, left, right, distance, other⟩ = .ok value := by
  have refusal : ∀ limit, tolerated (.error (.error ⟨.tooLarge content.size limit none, none⟩)) =
      .error (.error ⟨.tooLarge content.size limit none, none⟩) := fun _ => rfl
  unfold verdict at given ⊢
  dsimp only at given ⊢
  rcases resolvedSpots_of_not_fits large same left with leftSame | ⟨limit, refused⟩
  · rw [← leftSame]
    generalize resolvedSpots fuzzily content left options = leftResult at given ⊢
    cases leftResult with
    | error failure =>
        rw [measureVerdict_left_error] at given ⊢
        exact given
    | ok spots =>
        by_cases none : spots.isEmpty = true
        · rw [measureVerdict_nil none] at given ⊢
          exact given
        · rcases resolvedSpots_of_not_fits large same right with rightSame | ⟨limit, refused⟩
          · rw [← rightSame]
            exact given
          · rw [refused, measureVerdict_right_error none, refusal] at given
            cases given
  · rw [refused, measureVerdict_left_error, refusal] at given
    cases given

/-- Options that differ in the size limit give the same verdict, unless only the first admit the
content. -/
theorem verdict_of_withoutLimit_eq (same : options.withoutLimit = other.withoutLimit)
    (fit : Fits content options → Fits content other) {value : Bool}
    (given : verdict fuzzily ⟨content, left, right, distance, options⟩ = .ok value) :
    verdict fuzzily ⟨content, left, right, distance, other⟩ = .ok value := by
  by_cases fits : Fits content options
  · unfold verdict at given ⊢
    dsimp only at given ⊢
    rw [← resolvedSpots_withoutLimit fits, ← resolvedSpots_withoutLimit fits, same,
      resolvedSpots_withoutLimit (fit fits), resolvedSpots_withoutLimit (fit fits)] at given
    exact given
  · exact verdict_of_not_fits fits same given

end NearProblem

/-! ## Unambiguous scopes -/

/-- A digest stands for one content of a scope, and the text of a threshold for one threshold. -/
structure Scope.Distinct (scope : Scope) : Prop where
  digests : Set.InjOn contentKey scope.contents
  cutoffs : Set.InjOn Number.text scope.cutoffs

/-- Of the proximities that a scope has for a content, all keep to their size limits or none
does. -/
def Scope.LimitsAgree (scope : Scope) : Prop :=
  ∀ first ∈ scope.problems, ∀ second ∈ scope.problems, first.content = second.content →
    Fits first.content first.options → Fits second.content second.options

namespace Scope.Distinct

variable {scope : Scope} (distinct : scope.Distinct)

include distinct

/-- Proximities with legible operands and the same key have the same verdict. -/
theorem unambiguous (closed : scope.Closed) (limitsAgree : scope.LimitsAgree)
    (legible : ∀ problem ∈ scope.problems, problem.left.Legible ∧ problem.right.Legible) :
    scope.Unambiguous := by
  intro first firstMember second secondMember sameKey value given
  obtain ⟨leftLegible, rightLegible⟩ := legible first firstMember
  obtain ⟨otherLeftLegible, otherRightLegible⟩ := legible second secondMember
  obtain ⟨digests, lefts, rights, distances, keys⟩ := NearProblem.parts_of_key_eq leftLegible
    rightLegible otherLeftLegible otherRightLegible sameKey
  have firstAdmits := closed.admits first firstMember
  have secondAdmits := closed.admits second secondMember
  have contents := distinct.digests firstAdmits.content secondAdmits.content digests
  have options := MatchOptions.withoutLimit_of_key_eq keys
    (distinct.cutoffs firstAdmits.cutoff secondAdmits.cutoff)
  have limits := limitsAgree first firstMember second secondMember contents
  obtain ⟨content, left, right, distance, firstOptions⟩ := first
  obtain ⟨otherContent, otherLeft, otherRight, otherDistance, secondOptions⟩ := second
  dsimp only at contents lefts rights distances options limits
  subst contents lefts rights distances
  exact NearProblem.verdict_of_withoutLimit_eq options limits given

theorem single_wordMeaning : scope.wordMeaning.Single := by
  rintro key value result ⟨content, member, rfl, given⟩ ⟨other, otherMember, sameKey, rfl⟩
  rw [distinct.digests otherMember member sameKey, given]

theorem single_fuzzyMeaning : scope.fuzzyMeaning.Single := by
  rintro key value result ⟨content, member, cutoff, cutoffMember, term, caseSensitive, wholeWord,
    rfl, given⟩ ⟨other, otherMember, otherCutoff, otherCutoffMember, otherTerm, _, _, sameKey, rfl⟩
  obtain ⟨contents, rfl, rfl, rfl, cutoffs⟩ := parts_of_fuzzyKey_eq sameKey
  rw [distinct.digests otherMember member contents,
    distinct.cutoffs otherCutoffMember cutoffMember cutoffs, given]

end Scope.Distinct

/-- A session that has not remembered anything yet. -/
structure Session.New (fuzzily : Bool) (session : Session) : Prop where
  matcher : session.matcher.isSome = fuzzily
  words : ∀ cache, session.words = some cache → cache.entries = []
  fuzzy : ∀ cache, session.fuzzy = some cache → cache.entries = []
  near : ∀ cache, session.near = some cache → cache.entries = []

theorem new_oneProximity (fuzzily : Bool) : (oneProximity fuzzily).New fuzzily := by
  refine ⟨(onlyNear_oneProximity fuzzily).matcher, ?_, ?_, ?_⟩
  · rintro cache ⟨⟩
  · rintro cache ⟨⟩
  · rintro cache ⟨⟩
    rfl

theorem Session.New.fresh {scope : Scope} {session : Session} (new : session.New scope.fuzzily)
    (distinct : scope.Distinct) : session.Fresh scope :=
  ⟨new.matcher, Truthful.of_empty distinct.single_wordMeaning new.words,
    Truthful.of_empty distinct.single_fuzzyMeaning new.fuzzy, new.near⟩

/-! ## Requests for parsed queries -/

namespace Request

/-- What a request asks for was parsed. -/
def Parsed : Request → Prop
  | .evaluate query _ _ => ∃ text, parse text = .ok query
  | .near _ left right _ _ => (∃ text, parse text = .ok left) ∧ ∃ text, parse text = .ok right

theorem Parsed.termsHave_read {request : Request} (parsed : request.Parsed) :
    request.query.TermsHave Literal.Read := by
  cases request with
  | evaluate query content options =>
      obtain ⟨text, given⟩ := parsed
      exact termsHave_of_parse given
  | near content left right distance options =>
      obtain ⟨⟨leftText, leftGiven⟩, rightText, rightGiven⟩ := parsed
      exact Expr.termsHave_pair (termsHave_of_parse leftGiven) (termsHave_of_parse rightGiven)

theorem Parsed.legible {request : Request} (parsed : request.Parsed) {problem : NearProblem}
    (asked : problem ∈ request.problems) (leftPlain : problem.left.Plain)
    (rightPlain : problem.right.Plain) : problem.left.Legible ∧ problem.right.Legible := by
  have source := comesFrom_of_mem problem asked
  have read : ∀ term ∈ problem.left.literals ++ problem.right.literals, term.Read :=
    fun term member => parsed.termsHave_read term (source.terms term member)
  exact ⟨Expr.legible_of_plain leftPlain fun term member =>
      read term (List.mem_append_left _ member),
    Expr.legible_of_plain rightPlain fun term member =>
      read term (List.mem_append_right _ member)⟩

end Request

/-- The runs that ask for nothing but what some requests ask for do not show whether there is a
cache of proximities exactly if no two of these proximities have the same key and different
verdicts.  They may begin with any caches that have no entries.  No verdicts differ for parsed
queries whose operands have whole distances and no colons in fuzzy texts. -/
theorem transparent_iff_unambiguous_of_requests (fuzzily : Bool) (requests : Set Request) :
    ((∀ session events, session.Fresh (Scope.ofRequests fuzzily requests) →
        (∀ event ∈ events, (Scope.ofRequests fuzzily requests).Allows event) →
        Transparent session events) ↔
      (Scope.ofRequests fuzzily requests).Unambiguous) ∧
    ((Scope.ofRequests fuzzily requests).Distinct →
      (∀ session : Session, session.New fuzzily →
        session.Fresh (Scope.ofRequests fuzzily requests)) ∧
      ((∀ request ∈ requests, request.Parsed ∧
          ∀ problem ∈ request.problems, problem.left.Plain ∧ problem.right.Plain) →
        (Scope.ofRequests fuzzily requests).LimitsAgree →
        (Scope.ofRequests fuzzily requests).Unambiguous)) := by
  have closed := Scope.closed_ofRequests fuzzily requests
  refine ⟨transparent_iff_unambiguous closed, fun distinct =>
    ⟨fun session new => new.fresh distinct, fun plain limitsAgree => ?_⟩⟩
  refine distinct.unambiguous closed limitsAgree ?_
  rintro problem ⟨request, member, asked⟩
  obtain ⟨parsed, operands⟩ := plain request member
  exact parsed.legible asked (operands problem asked).1 (operands problem asked).2

def wordsRequest (left right : String) : Request :=
  .evaluate (.near (.literal (.plain left)) (.literal (.plain right)) (.int 1))
    (Text.ofString "red fox") {}

/-- Two words asked for in either order, with the cache cleared in between, are answered as without
it. -/
theorem transparent_of_words :
    Transparent (oneProximity false)
      [.ask (wordsRequest "red" "fox"), .ask (wordsRequest "fox" "red"), .tend .clear,
        .ask (wordsRequest "red" "fox")] := by
  let requests : Set Request := {wordsRequest "red" "fox", wordsRequest "fox" "red"}
  have members : ∀ request ∈ requests, ∃ left right, request = wordsRequest left right ∧
      (∃ text, parse text = .ok request.query) := by
    have redFox : parse "NEAR(red, fox, 1)" =
        .ok (.near (.literal (.plain "red")) (.literal (.plain "fox")) (.int 1)) := by cbv
    have foxRed : parse "NEAR(fox, red, 1)" =
        .ok (.near (.literal (.plain "fox")) (.literal (.plain "red")) (.int 1)) := by cbv
    rintro request (rfl | rfl)
    · exact ⟨_, _, rfl, _, redFox⟩
    · exact ⟨_, _, rfl, _, foxRed⟩
  have contents : ∀ content ∈ (Scope.ofRequests false requests).contents,
      content = Text.ofString "red fox" := by
    rintro content ⟨request, member, rfl⟩
    obtain ⟨left, right, rfl, -⟩ := members request member
    rfl
  have cutoffs : ∀ cutoff ∈ (Scope.ofRequests false requests).cutoffs,
      cutoff = ({} : MatchOptions).threshold := by
    rintro cutoff ⟨request, member, rfl⟩
    obtain ⟨left, right, rfl, -⟩ := members request member
    rfl
  have distinct : (Scope.ofRequests false requests).Distinct := by
    refine ⟨?_, ?_⟩
    · intro first firstMember second secondMember _
      rw [contents first firstMember, contents second secondMember]
    · intro first firstMember second secondMember _
      rw [cutoffs first firstMember, cutoffs second secondMember]
  have problems : ∀ left right, ∀ problem ∈ (wordsRequest left right).problems,
      problem = ⟨Text.ofString "red fox", .literal (.plain left), .literal (.plain right), 1, {}⟩ :=
    fun left right problem member => List.mem_singleton.mp member
  obtain ⟨exactly, plainly⟩ := transparent_iff_unambiguous_of_requests false requests
  obtain ⟨fresh, unambiguous⟩ := plainly distinct
  refine exactly.mpr (unambiguous ?_ ?_) _ _ (fresh _ (new_oneProximity false)) ?_
  · intro request member
    obtain ⟨left, right, rfl, parsed⟩ := members request member
    refine ⟨parsed, fun problem asked => ?_⟩
    rw [problems left right problem asked]
    exact ⟨trivial, trivial⟩
  · rintro first - second ⟨request, member, asked⟩ - -
    obtain ⟨left, right, rfl, -⟩ := members request member
    rw [problems left right second asked]
    exact fits_of_no_limit rfl
  · have allowed : ∀ request ∈ requests,
        (Scope.ofRequests false requests).Allows (.ask request) := fun request member =>
      ⟨⟨⟨request, member, rfl⟩, ⟨request, member, rfl⟩⟩,
        fun problem asked => ⟨request, member, asked⟩⟩
    intro event member
    simp only [List.mem_cons, List.not_mem_nil, or_false] at member
    rcases member with rfl | rfl | rfl | rfl
    · exact allowed _ (Or.inl rfl)
    · exact allowed _ (Or.inr rfl)
    · trivial
    · exact allowed _ (Or.inl rfl)

/-- The proximity of two fuzzy texts in a content with a colon. -/
def colonProximity (left right : String) : NearProblem :=
  ⟨Text.ofString "a:~b c", .literal (.fuzzy left), .literal (.fuzzy right), 1, {}⟩

/-- A colon in a fuzzy text lets a query be answered with the verdict on another. -/
theorem not_transparent_of_colon :
    parse "NEAR(~a:~b, ~c, 1)" =
        .ok (.near (.literal (.fuzzy "a:~b")) (.literal (.fuzzy "c")) (.int 1)) ∧
      parse "NEAR(~a, ~b:~c, 1)" =
        .ok (.near (.literal (.fuzzy "a")) (.literal (.fuzzy "b:~c")) (.int 1)) ∧
      (oneProximity false).New false ∧
      ¬ Transparent (oneProximity false)
        [.ask (.evaluate (.near (.literal (.fuzzy "a:~b")) (.literal (.fuzzy "c")) (.int 1))
            (Text.ofString "a:~b c") {}),
          .ask (.evaluate (.near (.literal (.fuzzy "a")) (.literal (.fuzzy "b:~c")) (.int 1))
            (Text.ofString "a:~b c") {})] := by
  have sameKey : (colonProximity "a:~b" "c").key = (colonProximity "a" "b:~c").key := by
    refine String.toList_injective ?_
    rw [NearProblem.toList_key, NearProblem.toList_key]
    rfl
  have firstVerdict : (colonProximity "a:~b" "c").verdict false = .ok true := by
    refine (NearProblem.verdict_of_fits (fits_of_no_limit rfl)).trans (congrArg _ ?_)
    rw [spotsNear_iff]
    decide +kernel
  have secondVerdict : (colonProximity "a" "b:~c").verdict false = .ok false := by
    refine (NearProblem.verdict_of_fits (fits_of_no_limit rfl)).trans (congrArg _ ?_)
    rw [Bool.eq_false_iff, ne_eq, spotsNear_iff]
    decide +kernel
  refine ⟨?_, ?_, new_oneProximity false, ?_⟩
  · cbv
  · cbv
  · intro transparent
    have secondAnswer : (colonProximity "a" "b:~c").verdict false = .ok true :=
      verdict_of_transparent (Scope.admits_everything _ _) (Scope.admits_everything _ _) rfl rfl
        sameKey firstVerdict transparent
    rw [secondVerdict] at secondAnswer
    cases secondAnswer

end BooleanSearch
