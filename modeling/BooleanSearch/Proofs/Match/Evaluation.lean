import BooleanSearch.Proofs.Match.Verdict

/-!
# Evaluation gives the verdict

A scope tells what evaluations ask for: the contents, the thresholds of fuzzy searches and the
proximities.  In a session whose caches are truthful about a scope, every evaluation within the
scope gives its verdict, and it leaves such a session.
-/

namespace BooleanSearch

open Query

/-- A proximity with a usable distance, asked of a content that is not empty. -/
structure NearProblem where
  content : Text
  left : Expr
  right : Expr
  distance : Nat
  options : MatchOptions

namespace NearProblem

def key (problem : NearProblem) : String :=
  nearKey problem.left problem.right problem.distance problem.options problem.content

/-- The verdict on a proximity, nothing being remembered. -/
def verdict (fuzzily : Bool) (problem : NearProblem) : Except Failure Bool :=
  tolerated (measureVerdict problem.content problem.distance
    (resolvedSpots fuzzily problem.content problem.left problem.options)
    (resolvedSpots fuzzily problem.content problem.right problem.options))

end NearProblem

/-- The proximity that two operands pose at a distance, if there is one. -/
def nearProblem? (content : Text) (left right : Expr) (distance : Value)
    (options : MatchOptions) : Option NearProblem :=
  match validDistance distance with
  | .error _ => none
  | .ok count =>
    if content.isEmpty then none else some ⟨content, left, right, count, options⟩

/-- The proximities that an evaluation of a query may come to. -/
def nearProblems (content : Text) (options : MatchOptions) : Expr → List NearProblem
  | .literal _ => []
  | .not child => nearProblems content options child
  | .and left right => nearProblems content options left ++ nearProblems content options right
  | .or left right => nearProblems content options left ++ nearProblems content options right
  | .near left right distance =>
    (nearProblem? content left right distance options).toList
      ++ (nearProblems content options left ++ nearProblems content options right)

/-- What evaluations may ask for. -/
structure Scope where
  fuzzily : Bool
  contents : Set Text
  cutoffs : Set Number
  problems : Set NearProblem

namespace Scope

/-- A key of a word index stands for the index of its content. -/
def wordMeaning (scope : Scope) : Meaning WordIndex := fun key result =>
  ∃ content ∈ scope.contents, contentKey content = key ∧ result = .ok (WordIndex.build content)

/-- A key of a fuzzy result stands for the result of its search. -/
def fuzzyMeaning (scope : Scope) : Meaning FuzzyResult := fun key result =>
  ∃ content ∈ scope.contents, ∃ cutoff ∈ scope.cutoffs, ∃ term caseSensitive wholeWord,
    Search.fuzzyKey term caseSensitive wholeWord cutoff content = key ∧
      result = .ok (Fuzzy.searchNormalized content term caseSensitive wholeWord cutoff)

/-- A key of a proximity stands for the verdict on it. -/
def nearMeaning (scope : Scope) : Meaning Bool := fun key result =>
  ∃ problem ∈ scope.problems, problem.key = key ∧ result = problem.verdict scope.fuzzily

/-- A content and options are within a scope. -/
structure Admits (scope : Scope) (content : Text) (options : MatchOptions) : Prop where
  content : content ∈ scope.contents
  cutoff : options.threshold ∈ scope.cutoffs

end Scope

/-- The caches of a session are truthful about a scope. -/
structure Session.Sound (scope : Scope) (session : Session) : Prop where
  matcher : session.matcher.isSome = scope.fuzzily
  words : Truthful scope.wordMeaning session.words
  fuzzy : Truthful scope.fuzzyMeaning session.fuzzy
  near : Truthful scope.nearMeaning session.near

namespace Session.Sound

variable {scope : Scope} {session : Session}

theorem withRecords (sound : session.Sound scope) (records : Array Log.Record) :
    Session.Sound scope { session with records := records } :=
  ⟨sound.matcher, sound.words, sound.fuzzy, sound.near⟩

theorem withClock (sound : session.Sound scope) (clock : Nat) :
    Session.Sound scope { session with clock := clock } :=
  ⟨sound.matcher, sound.words, sound.fuzzy, sound.near⟩

theorem withNear (sound : session.Sound scope) {cache : Option (Cache.Lru String Bool)}
    (truthful : Truthful scope.nearMeaning cache) :
    Session.Sound scope { session with near := cache } :=
  ⟨sound.matcher, sound.words, sound.fuzzy, truthful⟩

end Session.Sound

/-! ## Answers within a scope -/

/-- A step gives a result in every session that is sound about a scope. -/
abbrev Gives {α : Type} (scope : Scope) (step : Search α) (result : Except Failure α) : Prop :=
  Search.Answers (Session.Sound scope) step result

section

variable {scope : Scope} {content : Text} {options : MatchOptions}

theorem gives_wordIndex (member : content ∈ scope.contents) :
    Gives scope (Search.wordIndex content) (.ok (WordIndex.build content)) := by
  unfold Search.wordIndex
  refine Search.Answers.cached scope.wordMeaning (fun _ sound => sound.words) ?_
    (fun _ clock sound => sound.withClock clock) ⟨content, member, rfl, rfl⟩
    (Search.Answers.pure _)
  intro session present sound truthful
  exact ⟨sound.matcher, truthful, sound.fuzzy, sound.near⟩

theorem gives_report (record : Log.Record) : Gives scope (Search.report record) (.ok ()) :=
  Search.Answers.report record fun _ records sound => sound.withRecords records

theorem gives_fuzzySearch (member : content ∈ scope.contents) {cutoff : Number}
    (cutoffMember : cutoff ∈ scope.cutoffs) (term : String) (caseSensitive wholeWord : Bool) :
    Gives scope (Search.fuzzySearch content term caseSensitive wholeWord cutoff)
      (.ok (Fuzzy.search content term caseSensitive wholeWord cutoff)) := by
  unfold Search.fuzzySearch Fuzzy.search
  by_cases searchable : Fuzzy.searchable content term = true
  · simp only [searchable, if_true]
    refine Search.Answers.cached scope.fuzzyMeaning (fun _ sound => sound.fuzzy) ?_
      (fun _ clock sound => sound.withClock clock)
      ⟨content, member, cutoff, cutoffMember, _, _, _, rfl, rfl⟩ (Search.Answers.pure _)
    intro session present sound truthful
    exact ⟨sound.matcher, sound.words, truthful, sound.near⟩
  · simp only [searchable]
    exact Search.Answers.pure _

theorem gives_textPositions (admitted : scope.Admits content options) (text : String)
    (fuzzyAllowed : Bool) :
    Gives scope (textPositions content text options fuzzyAllowed)
      (.ok (textSpots scope.fuzzily content text options fuzzyAllowed)) := by
  unfold textPositions textSpots
  by_cases empty : text.isEmpty = true
  · simp only [empty, if_true]
    exact Search.Answers.pure _
  · simp only [empty]
    cases exactPositions content text options with
    | cons first rest => exact Search.Answers.pure _
    | nil =>
        refine Search.Answers.get_bind fun session sound => ?_
        rw [sound.matcher]
        by_cases wanted : (fuzzyAllowed && scope.fuzzily
            && decide (Fuzzy.minTermLength ≤ text.length)) = true
        · simp only [wanted, if_true]
          refine Search.Answers.bind_ok (gives_fuzzySearch admitted.content admitted.cutoff text
            options.caseSensitive options.wholeWord) ?_
          by_cases isMatch : (Fuzzy.search content text options.caseSensitive options.wholeWord
              options.threshold).isMatch = true
          · simp only [isMatch, if_true]
            exact Search.Answers.bind_ok (gives_report _) (Search.Answers.pure _)
          · simp only [isMatch]
            exact Search.Answers.pure _
        · simp only [wanted]
          exact Search.Answers.pure _

theorem gives_termPositions (admitted : scope.Admits content options) (term : Literal)
    (context : MatchContext) :
    Gives scope (termPositions content term options context)
      (.ok (termSpots scope.fuzzily content term options context)) := by
  cases term with
  | plain text => exact gives_textPositions admitted text _
  | pattern source letters => exact Search.Answers.pure _
  | fuzzy text => exact gives_textPositions admitted text _

theorem gives_allPositions (admitted : scope.Admits content options) (context : MatchContext)
    (terms : List Literal) :
    Gives scope (allPositions content options context terms)
      (.ok (terms.flatMap fun term => termSpots scope.fuzzily content term options context)) := by
  induction terms with
  | nil => exact Search.Answers.pure _
  | cons term rest inductionHypothesis =>
      exact Search.Answers.bind_ok (gives_termPositions admitted term context) <|
        Search.Answers.bind_ok inductionHypothesis (Search.Answers.pure _)

theorem gives_positions (admitted : scope.Admits content options) (query : Expr)
    (context : MatchContext) :
    Gives scope (positions content query options context)
      (.ok (querySpots scope.fuzzily content query options context)) :=
  Search.Answers.bind_ok (gives_allPositions admitted context query.positiveLiterals)
    (Search.Answers.pure _)

theorem gives_checkSize :
    Gives scope (checkSize content options) (sizeVerdict content options) := by
  unfold checkSize sizeVerdict
  cases options.sizeLimit with
  | none => exact Search.Answers.pure _
  | some limit =>
      exact Search.Answers.ite (fun _ => Search.Answers.throw _) fun _ => Search.Answers.pure _

theorem gives_operandPositions (admitted : scope.Admits content options) (operand : Expr)
    {step : Search Bool} {result : Except Failure Bool} (decides : Gives scope step result) :
    Gives scope (operandPositions content options operand step)
      (operandSpots scope.fuzzily content options operand result) := by
  have composite :
      Gives scope
        (do
          checkSize content options
          if ← step then
            let found ← positions content operand options .near
            if found.isEmpty then throw (noPositions operand) else pure found
          else pure [])
        (do
          sizeVerdict content options
          if ← result then
            if (querySpots scope.fuzzily content operand options .near).isEmpty then
              .error (noPositions operand)
            else .ok (querySpots scope.fuzzily content operand options .near)
          else .ok []) := by
    refine Search.Answers.bind gives_checkSize fun _ _ => ?_
    refine Search.Answers.bind decides fun holds _ => ?_
    refine Search.Answers.ite (fun _ => ?_) fun _ => Search.Answers.pure _
    refine Search.Answers.bind_ok (gives_positions admitted operand .near) ?_
    exact Search.Answers.ite (fun _ => Search.Answers.throw _) fun _ => Search.Answers.pure _
  cases operand with
  | literal term => exact gives_termPositions admitted term .near
  | not child => exact composite
  | and left right => exact composite
  | or left right => exact composite
  | near left right distance => exact composite

theorem gives_measure (admitted : scope.Admits content options) (distance : Nat)
    {left right : Search (List Nat)} {leftResult rightResult : Except Failure (List Nat)}
    (leftGives : Gives scope left leftResult) (rightGives : Gives scope right rightResult) :
    Gives scope (measure content distance left right)
      (measureVerdict content distance leftResult rightResult) := by
  unfold measure measureVerdict
  refine Search.Answers.bind leftGives fun leftSpots _ => ?_
  refine Search.Answers.ite (fun _ => Search.Answers.pure _) fun leftSome => ?_
  refine Search.Answers.bind rightGives fun rightSpots _ => ?_
  unfold spotsNear
  by_cases rightNone : rightSpots.isEmpty = true
  · simp only [rightNone, if_true, Bool.not_true, Bool.and_false, Bool.false_and]
    exact Search.Answers.pure _
  · simp only [leftSome, rightNone, Bool.not_false, Bool.true_and]
    by_cases far : Proximity.tooFar (inOrder leftSpots).toArray (inOrder rightSpots).toArray
        distance = true
    · simp only [far, if_true, Bool.not_true, Bool.false_and]
      exact Search.Answers.pure _
    · simp only [far, Bool.not_false, Bool.true_and]
      exact Search.Answers.bind_ok (gives_wordIndex admitted.content) (Search.Answers.pure _)

theorem gives_toleratingArguments (left right : Expr) {step : Search Bool}
    {result : Except Failure Bool} (decides : Gives scope step result) :
    Gives scope (toleratingArguments left right step) (tolerated result) := by
  have handles : ∀ failure,
      Gives scope
        (if failure.isNearArguments then do
          Search.report (nearRecord failure
            [("left", .text left.render), ("right", .text right.render)])
          pure false
        else throw failure)
        (if failure.isNearArguments then .ok false else .error failure) := by
    intro failure
    exact Search.Answers.ite
      (fun _ => Search.Answers.bind_ok (gives_report _) (Search.Answers.pure _))
      fun _ => Search.Answers.throw _
  have caught := Search.Answers.tryCatch decides fun failure _ => handles failure
  cases result with
  | ok value => exact caught
  | error failure => exact caught

theorem gives_nearVerdict (admitted : scope.Admits content options) {left right : Expr}
    {distance : Value}
    (asked : ∀ problem, nearProblem? content left right distance options = some problem →
      problem ∈ scope.problems)
    (leftGives : Gives scope (resolvePositions content left options)
      (resolvedSpots scope.fuzzily content left options))
    (rightGives : Gives scope (resolvePositions content right options)
      (resolvedSpots scope.fuzzily content right options)) :
    Gives scope
      (nearVerdict content left right distance options (resolvePositions content left options)
        (resolvePositions content right options))
      (proximityVerdict content distance (resolvedSpots scope.fuzzily content left options)
        (resolvedSpots scope.fuzzily content right options)) := by
  unfold nearVerdict proximityVerdict
  unfold nearProblem? at asked
  cases valid : validDistance distance with
  | error failure => exact Search.Answers.bind_ok (gives_report _) (Search.Answers.pure _)
  | ok count =>
      rw [valid] at asked
      dsimp only at asked ⊢
      by_cases empty : content.isEmpty = true
      · simp only [empty, if_true]
        exact Search.Answers.pure _
      · simp only [empty] at asked ⊢
        refine Search.Answers.cached scope.nearMeaning (fun _ sound => sound.near) ?_
          (fun _ clock sound => sound.withClock clock)
          ⟨⟨content, left, right, count, options⟩, asked _ rfl, rfl, rfl⟩ ?_
        · intro session present sound truthful
          exact sound.withNear truthful
        · exact gives_toleratingArguments left right
            (gives_measure admitted count leftGives rightGives)

/-- Within a scope, whether a query holds is its verdict. -/
theorem gives_holds (admitted : scope.Admits content options) (query : Expr)
    (asked : ∀ problem ∈ nearProblems content options query, problem ∈ scope.problems) :
    Gives scope (holds content options query) (verdict scope.fuzzily content options query) := by
  induction query with
  | literal term =>
      exact Search.Answers.bind_ok (gives_termPositions admitted term .leaf)
        (Search.Answers.pure _)
  | not child inductionHypothesis =>
      exact Search.Answers.bind (inductionHypothesis asked) fun _ _ => Search.Answers.pure _
  | and left right leftHypothesis rightHypothesis =>
      refine Search.Answers.bind
        (leftHypothesis fun problem member => asked problem (List.mem_append_left _ member))
        fun _ _ => Search.Answers.ite (fun _ => ?_) fun _ => Search.Answers.pure _
      exact rightHypothesis fun problem member => asked problem (List.mem_append_right _ member)
  | or left right leftHypothesis rightHypothesis =>
      refine Search.Answers.bind
        (leftHypothesis fun problem member => asked problem (List.mem_append_left _ member))
        fun _ _ => Search.Answers.ite (fun _ => Search.Answers.pure _) fun _ => ?_
      exact rightHypothesis fun problem member => asked problem (List.mem_append_right _ member)
  | near left right distance leftHypothesis rightHypothesis =>
      have leftGives := leftHypothesis fun problem member =>
        asked problem (List.mem_append_right _ (List.mem_append_left _ member))
      have rightGives := rightHypothesis fun problem member =>
        asked problem (List.mem_append_right _ (List.mem_append_right _ member))
      refine gives_nearVerdict admitted ?_ (gives_operandPositions admitted left leftGives)
        (gives_operandPositions admitted right rightGives)
      intro problem posed
      exact asked problem (List.mem_append_left _ (by simp [posed]))

/-- Within a scope, an evaluation gives the verdict on its query. -/
theorem gives_evaluate (admitted : scope.Admits content options) (query : Expr)
    (asked : ∀ problem ∈ nearProblems content options query, problem ∈ scope.problems) :
    Gives scope (evaluate query content options)
      (queryVerdict scope.fuzzily query content options) :=
  Search.Answers.bind gives_checkSize fun _ _ => gives_holds admitted query asked

/-- Within a scope, asking for a proximity directly gives the same as a query that consists of
it. -/
theorem gives_evaluateNear (admitted : scope.Admits content options) (left right : Expr)
    (distance : Value)
    (asked : ∀ problem ∈ nearProblems content options (.near left right distance),
      problem ∈ scope.problems) :
    Gives scope (evaluateNear content left right distance options)
      (verdict scope.fuzzily content options (.near left right distance)) :=
  gives_holds admitted (.near left right distance) asked

/-- Within a scope, the offsets of an operand are those that it contributes. -/
theorem gives_resolvePositions (admitted : scope.Admits content options) (operand : Expr)
    (asked : ∀ problem ∈ nearProblems content options operand, problem ∈ scope.problems) :
    Gives scope (resolvePositions content operand options)
      (resolvedSpots scope.fuzzily content operand options) :=
  gives_operandPositions admitted operand (gives_holds admitted operand asked)

end

/-! ## Evaluators without a proximity cache -/

/-- A session that keeps no verdicts on proximities, and whose other caches are truthful. -/
structure Session.Forgetful (scope : Scope) (session : Session) : Prop where
  matcher : session.matcher.isSome = scope.fuzzily
  words : Truthful scope.wordMeaning session.words
  fuzzy : Truthful scope.fuzzyMeaning session.fuzzy
  near : session.near = none

def Scope.unbounded (scope : Scope) : Scope :=
  { scope with problems := Set.univ }

namespace Session.Forgetful

variable {scope : Scope} {session : Session}

theorem of_no_caches (matcher : session.matcher.isSome = scope.fuzzily)
    (noWords : session.words = none) (noFuzzy : session.fuzzy = none)
    (noNear : session.near = none) : session.Forgetful scope :=
  ⟨matcher, noWords ▸ Truthful.none, noFuzzy ▸ Truthful.none, noNear⟩

theorem sound (forgetful : session.Forgetful scope) : session.Sound scope.unbounded :=
  ⟨forgetful.matcher, forgetful.words, forgetful.fuzzy, forgetful.near ▸ Truthful.none⟩

theorem answer_evaluate (forgetful : session.Forgetful scope) {content : Text}
    {options : MatchOptions} (admitted : scope.Admits content options) (query : Expr) :
    (evaluate query content options).answer session =
      queryVerdict scope.fuzzily query content options := by
  have unbounded : scope.unbounded.Admits content options := ⟨admitted.content, admitted.cutoff⟩
  exact (gives_evaluate unbounded query (fun _ _ => Set.mem_univ _) session forgetful.sound).1

theorem answer_evaluateNear (forgetful : session.Forgetful scope) {content : Text}
    {options : MatchOptions} (admitted : scope.Admits content options) (left right : Expr)
    (distance : Value) :
    (evaluateNear content left right distance options).answer session =
      verdict scope.fuzzily content options (.near left right distance) := by
  have unbounded : scope.unbounded.Admits content options := ⟨admitted.content, admitted.cutoff⟩
  exact (gives_evaluateNear unbounded left right distance (fun _ _ => Set.mem_univ _) session
    forgetful.sound).1

theorem answer_resolvePositions (forgetful : session.Forgetful scope) {content : Text}
    {options : MatchOptions} (admitted : scope.Admits content options) (operand : Expr) :
    (resolvePositions content operand options).answer session =
      resolvedSpots scope.fuzzily content operand options := by
  have unbounded : scope.unbounded.Admits content options := ⟨admitted.content, admitted.cutoff⟩
  exact (gives_resolvePositions unbounded operand (fun _ _ => Set.mem_univ _) session
    forgetful.sound).1

theorem answer_positions (forgetful : session.Forgetful scope) {content : Text}
    {options : MatchOptions} (admitted : scope.Admits content options) (query : Expr)
    (context : MatchContext) :
    (positions content query options context).answer session =
      .ok (querySpots scope.fuzzily content query options context) := by
  have unbounded : scope.unbounded.Admits content options := ⟨admitted.content, admitted.cutoff⟩
  exact (gives_positions unbounded query context session forgetful.sound).1

end Session.Forgetful

/-- A session without any caches and without fuzzy searches. -/
def bareSession : Session := { matcher := none }

/-- The scope of everything, without fuzzy searches. -/
def Scope.everything : Scope :=
  ⟨false, Set.univ, Set.univ, Set.univ⟩

theorem Scope.admits_everything (content : Text) (options : MatchOptions) :
    Scope.everything.Admits content options :=
  ⟨Set.mem_univ _, Set.mem_univ _⟩

theorem forgetful_bareSession : bareSession.Forgetful Scope.everything :=
  .of_no_caches rfl rfl rfl rfl

end BooleanSearch
