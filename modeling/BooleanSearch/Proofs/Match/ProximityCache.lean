import BooleanSearch.Proofs.Match.Evaluation
import BooleanSearch.Proofs.Match.SessionFrame

/-!
# The cache of proximities

A run is a list of requests, between which the cache may be given up in part and time may pass.  The
cache is invisible in a run if every request is answered as without it.  For a set of proximities
that is closed under the operands, it is invisible in all runs exactly if no two proximities with
different verdicts share a key.
-/

namespace BooleanSearch

open Cache Query

/-! ## Runs -/

/-- A request to evaluate a query, or a proximity directly. -/
inductive Request
  | evaluate (query : Expr) (content : Text) (options : MatchOptions)
  | near (content : Text) (left right : Expr) (distance : Value) (options : MatchOptions)

namespace Request

def step : Request → Search Bool
  | .evaluate query content options => BooleanSearch.evaluate query content options
  | .near content left right distance options => evaluateNear content left right distance options

def content : Request → Text
  | .evaluate _ content _ => content
  | .near content _ _ _ _ => content

def options : Request → MatchOptions
  | .evaluate _ _ options => options
  | .near _ _ _ _ options => options

def query : Request → Expr
  | .evaluate query _ _ => query
  | .near _ left right distance _ => .near left right distance

/-- The proximities that a request may come to. -/
def problems (request : Request) : List NearProblem :=
  nearProblems request.content request.options request.query

/-- What a request is answered if nothing is remembered. -/
def verdict (fuzzily : Bool) : Request → Except Failure Bool
  | .evaluate query content options => queryVerdict fuzzily query content options
  | .near content left right distance options =>
    BooleanSearch.verdict fuzzily content options (.near left right distance)

end Request

/-- A change of the cache from outside that adds no entry. -/
structure Upkeep where
  change : Lru String Bool → Lru String Bool
  addsNothing : ∀ cache, ∀ entry ∈ (change cache).entries, entry ∈ cache.entries

namespace Upkeep

def trim (target : Nat) : Upkeep :=
  ⟨fun cache => (cache.trimTo target).2, fun _ _ member => Lru.mem_entries_of_mem_trimTo member⟩

def clear : Upkeep :=
  ⟨fun cache => cache.clear.2, fun _ _ member => absurd member List.not_mem_nil⟩

def removeExpired (now : Float) : Upkeep :=
  ⟨fun cache => (cache.removeExpired now).2,
    fun _ _ member => Lru.mem_entries_of_mem_removeExpired member⟩

end Upkeep

/-- What happens in a run: a request, a change of the cache, or a change of the clock. -/
inductive Event
  | ask (request : Request)
  | tend (upkeep : Upkeep)
  | wait (clock : Nat)

/-- In a run from a session, every request is answered as without the cache of proximities. -/
def Transparent : Session → List Event → Prop
  | _, [] => True
  | session, .ask request :: rest =>
    request.step.answer session = request.step.answer { session with near := none } ∧
      Transparent (request.step.next session) rest
  | session, .tend upkeep :: rest =>
    Transparent { session with near := session.near.map upkeep.change } rest
  | session, .wait clock :: rest => Transparent { session with clock := clock } rest

namespace Scope

/-- The events of which the requests ask for what is in a scope. -/
def Allows (scope : Scope) : Event → Prop
  | .ask request =>
    scope.Admits request.content request.options ∧
      ∀ problem ∈ request.problems, problem ∈ scope.problems
  | _ => True

/-- With a proximity a scope has what an evaluation of its operands asks for. -/
structure Closed (scope : Scope) : Prop where
  present : ∀ problem ∈ scope.problems, problem.content.isEmpty = false
  admits : ∀ problem ∈ scope.problems, scope.Admits problem.content problem.options
  operands : ∀ problem ∈ scope.problems, ∀ inner,
    inner ∈ nearProblems problem.content problem.options problem.left ∨
      inner ∈ nearProblems problem.content problem.options problem.right →
    inner ∈ scope.problems

/-- Proximities with the same key have the same verdict, if one of them has a verdict. -/
def Unambiguous (scope : Scope) : Prop :=
  ∀ first ∈ scope.problems, ∀ second ∈ scope.problems, first.key = second.key →
    ∀ value, first.verdict scope.fuzzily = .ok value → second.verdict scope.fuzzily = .ok value

theorem single_nearMeaning {scope : Scope} (unambiguous : scope.Unambiguous) :
    scope.nearMeaning.Single := by
  rintro key value result ⟨first, firstMember, firstKey, firstVerdict⟩
    ⟨second, secondMember, secondKey, rfl⟩
  exact unambiguous first firstMember second secondMember (firstKey.trans secondKey.symm) value
    firstVerdict.symm

end Scope

/-- A session of which the cache of proximities, if there is one, is still empty, and the other
caches are truthful. -/
structure Session.Fresh (scope : Scope) (session : Session) : Prop where
  matcher : session.matcher.isSome = scope.fuzzily
  words : Truthful scope.wordMeaning session.words
  fuzzy : Truthful scope.fuzzyMeaning session.fuzzy
  near : ∀ cache, session.near = some cache → cache.entries = []

theorem Session.Fresh.sound {scope : Scope} {session : Session} (fresh : session.Fresh scope)
    (unambiguous : scope.Unambiguous) : session.Sound scope := by
  refine ⟨fresh.matcher, fresh.words, fresh.fuzzy, ?_⟩
  cases shape : session.near with
  | none => exact Truthful.none
  | some cache =>
      exact Truthful.of_entries_eq_nil (Scope.single_nearMeaning unambiguous)
        (fresh.near cache shape)

/-! ## An unambiguous scope -/

variable {scope : Scope}

theorem gives_request {request : Request} (allowed : scope.Allows (.ask request)) :
    Gives scope request.step (request.verdict scope.fuzzily) := by
  obtain ⟨admitted, asked⟩ := allowed
  cases request with
  | evaluate query content options => exact gives_evaluate admitted query asked
  | near content left right distance options =>
      exact gives_evaluateNear admitted left right distance asked

/-- A request that finds no cache of proximities is answered with its verdict. -/
theorem answer_of_forgetful {session : Session} (forgetful : session.Forgetful scope)
    {request : Request} (admitted : scope.Admits request.content request.options) :
    request.step.answer session = request.verdict scope.fuzzily := by
  cases request with
  | evaluate query content options => exact forgetful.answer_evaluate admitted query
  | near content left right distance options =>
      exact forgetful.answer_evaluateNear admitted left right distance

/-- While the caches are truthful, no request shows that there is a cache, and they stay
truthful. -/
theorem transparent_of_sound {events : List Event} {session : Session}
    (sound : session.Sound scope) (allowed : ∀ event ∈ events, scope.Allows event) :
    Transparent session events := by
  induction events generalizing session with
  | nil => trivial
  | cons event rest inductionHypothesis =>
      have allowedNow := allowed event List.mem_cons_self
      have allowedLater : ∀ later ∈ rest, scope.Allows later := fun later member =>
        allowed later (List.mem_cons_of_mem _ member)
      cases event with
      | ask request =>
          obtain ⟨answered, kept⟩ := gives_request allowedNow session sound
          refine ⟨?_, inductionHypothesis kept allowedLater⟩
          have forgetful : Session.Forgetful scope { session with near := none } :=
            ⟨sound.matcher, sound.words, sound.fuzzy, rfl⟩
          rw [answered, answer_of_forgetful forgetful allowedNow.1]
      | tend upkeep =>
          refine inductionHypothesis (sound.withNear ?_) allowedLater
          have near := sound.near
          cases shape : session.near with
          | none => exact Truthful.none
          | some cache =>
              rw [shape] at near
              exact near.of_subset (upkeep.addsNothing cache)
      | wait clock => exact inductionHypothesis (sound.withClock clock) allowedLater

/-! ## An ambiguous scope -/

/-- A session whose only cache holds one proximity. -/
def oneProximity (fuzzily : Bool) : Session where
  matcher := if fuzzily then some (.whole 0) else none
  near := some ⟨"proximity", 1, none, none, fun _ _ => 0, [], 0, 0, 0, 0⟩

theorem fresh_oneProximity (scope : Scope) : (oneProximity scope.fuzzily).Fresh scope := by
  refine ⟨?_, Truthful.none, Truthful.none, ?_⟩
  · unfold oneProximity
    cases scope.fuzzily <;> rfl
  · intro cache present
    cases present
    rfl

/-- There is a cache of one proximity, and no other cache. -/
structure OnlyNear (fuzzily : Bool) (session : Session) : Prop where
  matcher : session.matcher.isSome = fuzzily
  words : session.words = none
  fuzzy : session.fuzzy = none
  near : ∃ cache, session.near = some cache ∧ cache.HoldsOne

theorem onlyNear_oneProximity (fuzzily : Bool) : OnlyNear fuzzily (oneProximity fuzzily) := by
  refine ⟨?_, rfl, rfl, _, rfl, rfl, rfl, rfl⟩
  unfold oneProximity
  cases fuzzily <;> rfl

theorem stable_onlyNear (fuzzily : Bool) : Stable (OnlyNear fuzzily) where
  records _ only := ⟨only.matcher, only.words, only.fuzzy, only.near⟩
  clock _ only := ⟨only.matcher, only.words, only.fuzzy, only.near⟩
  words _ only held := absurd held (by simp [only.words])
  fuzzy _ only held := absurd held (by simp [only.fuzzy])
  looked := by
    intro session held now key only shape
    obtain ⟨cache, present, one⟩ := only.near
    rw [present] at shape
    cases shape
    exact ⟨only.matcher, only.words, only.fuzzy, _, rfl, one.get now key⟩
  stored := by
    intro session held now key value only shape
    obtain ⟨cache, present, one⟩ := only.near
    rw [present] at shape
    cases shape
    exact ⟨only.matcher, only.words, only.fuzzy, _, rfl, (one.set now key value).1⟩

theorem OnlyNear.forgetful {session : Session} (only : OnlyNear scope.fuzzily session) :
    Session.Forgetful scope { session with near := none } :=
  .of_no_caches only.matcher only.words only.fuzzy rfl

namespace NearProblem

def request (problem : NearProblem) : Request :=
  .near problem.content problem.left problem.right (.int problem.distance) problem.options

/-- What a request for a proximity computes if it finds nothing. -/
def computed (problem : NearProblem) : Search Bool :=
  toleratingArguments problem.left problem.right
    (measure problem.content problem.distance
      (resolvePositions problem.content problem.left problem.options)
      (resolvePositions problem.content problem.right problem.options))

theorem step_request {problem : NearProblem} (present : problem.content.isEmpty = false) :
    problem.request.step =
      Search.cached Session.near (fun session cache => { session with near := some cache })
        (nearKey problem.left problem.right problem.distance problem.options) problem.content
        problem.computed := by
  have valid : validDistance (.int problem.distance) = .ok problem.distance := rfl
  unfold Request.step request evaluateNear nearVerdict
  dsimp only
  rw [valid]
  exact if_neg (by simp [present])

theorem verdict_request {problem : NearProblem} (present : problem.content.isEmpty = false)
    (fuzzily : Bool) : problem.request.verdict fuzzily = problem.verdict fuzzily := by
  have valid : validDistance (.int problem.distance) = .ok problem.distance := rfl
  unfold Request.verdict request BooleanSearch.verdict proximityVerdict
  dsimp only
  rw [valid]
  exact if_neg (by simp [present])

theorem allows_request {problem : NearProblem} (closed : scope.Closed)
    (member : problem ∈ scope.problems) : scope.Allows (.ask problem.request) := by
  have valid : validDistance (.int problem.distance) = .ok problem.distance := rfl
  refine ⟨closed.admits problem member, fun inner asked => ?_⟩
  unfold Request.problems Request.query Request.content Request.options request nearProblems
    nearProblem? at asked
  dsimp only at asked
  rw [valid] at asked
  simp only [closed.present problem member, List.mem_append, Option.mem_toList] at asked
  rcases asked with self | operands
  · cases self
    exact member
  · exact closed.operands problem member inner operands

end NearProblem

theorem keeps_computed {holds : Session → Prop} (stable : Stable holds) (problem : NearProblem) :
    Keeps holds problem.computed :=
  stable.keeps_toleratingArguments _ _
    (stable.keeps_measure _ _ (stable.keeps_resolvePositions _ _ _)
      (stable.keeps_resolvePositions _ _ _))

/-- After a proximity has been answered by an empty cache of one entry, the cache holds its
answer. -/
theorem near_after_answer {fuzzily : Bool} {session : Session} (only : OnlyNear fuzzily session)
    {cache : Lru String Bool} (held : session.near = some cache) (empty : cache.entries = [])
    {problem : NearProblem} (present : problem.content.isEmpty = false) {value : Bool}
    (answered : problem.request.step.answer session = .ok value) :
    ∃ after, (problem.request.step.next session).near = some after ∧ after.HoldsOne ∧
      ∃ entry, after.entries = [entry] ∧ entry.key = problem.key ∧ entry.value = value := by
  have miss : (cache.get session.now problem.key).1 = none := by
    unfold Lru.get Lru.entry?
    rw [empty]
    rfl
  have stable := stable_onlyNear fuzzily
  have looked := stable.clock (session.clock + 1)
    (stable.looked session.now problem.key only held)
  obtain ⟨last, lastHeld, lastOne⟩ := (keeps_computed stable problem _ looked).near
  unfold Search.answer at answered
  unfold Search.next
  rw [NearProblem.step_request present, Search.run_cached_of_miss held miss] at answered ⊢
  have stored := Search.next_computeAndKeep answered lastHeld
  refine ⟨_, congrArg Session.near stored, ?_⟩
  exact lastOne.set _ problem.key value

/-- A cache of one entry answers with it. -/
theorem answer_of_entry {session : Session} {cache : Lru String Bool}
    (held : session.near = some cache) (one : cache.HoldsOne) {entry : Entry String Bool}
    (entries : cache.entries = [entry]) {problem : NearProblem}
    (present : problem.content.isEmpty = false) (same : entry.key = problem.key) :
    problem.request.step.answer session = .ok entry.value := by
  have hit := one.get_of_entries entries session.now
  rw [same] at hit
  unfold Search.answer
  rw [NearProblem.step_request present, Search.run_cached_of_hit held hit]

/-- If the cache is invisible when one proximity is asked for after another with the same key, the
two have the same verdict. -/
theorem verdict_of_transparent {first second : NearProblem}
    (firstAdmitted : scope.Admits first.content first.options)
    (secondAdmitted : scope.Admits second.content second.options)
    (firstPresent : first.content.isEmpty = false)
    (secondPresent : second.content.isEmpty = false) (sameKey : first.key = second.key)
    {value : Bool} (firstVerdict : first.verdict scope.fuzzily = .ok value)
    (transparent : Transparent (oneProximity scope.fuzzily)
      [.ask first.request, .ask second.request]) : second.verdict scope.fuzzily = .ok value := by
  obtain ⟨firstSame, secondSame, -⟩ := transparent
  have only := onlyNear_oneProximity scope.fuzzily
  have uncached : ∀ {problem : NearProblem} {session : Session},
      scope.Admits problem.content problem.options → OnlyNear scope.fuzzily session →
      problem.request.step.answer { session with near := none } =
        problem.request.verdict scope.fuzzily :=
    fun admitted only => answer_of_forgetful only.forgetful admitted
  -- The first answer is the verdict on the first proximity, and it stays in the cache.
  rw [uncached firstAdmitted only, first.verdict_request firstPresent, firstVerdict] at firstSame
  obtain ⟨after, held, one, entry, entries, entryKey, entryValue⟩ :=
    near_after_answer only rfl rfl firstPresent firstSame
  -- So the second answer is the same, and it is the verdict on the second proximity.
  have onlyAfter : OnlyNear scope.fuzzily
      (first.request.step.next (oneProximity scope.fuzzily)) :=
    (stable_onlyNear scope.fuzzily).keeps_holds first.content first.options
      (.near first.left first.right (.int first.distance)) _ only
  rw [answer_of_entry held one entries secondPresent (entryKey.trans sameKey), entryValue,
    uncached secondAdmitted onlyAfter, second.verdict_request secondPresent] at secondSame
  exact secondSame.symm

theorem unambiguous_of_transparent (closed : scope.Closed)
    (transparent : ∀ session events, session.Fresh scope →
      (∀ event ∈ events, scope.Allows event) → Transparent session events) :
    scope.Unambiguous := by
  intro first firstMember second secondMember sameKey value firstVerdict
  have allowed : ∀ event ∈ [Event.ask first.request, .ask second.request],
      scope.Allows event := by
    intro event member
    rcases List.mem_cons.mp member with rfl | later
    · exact NearProblem.allows_request closed firstMember
    · rw [List.mem_singleton.mp later]
      exact NearProblem.allows_request closed secondMember
  exact verdict_of_transparent (closed.admits first firstMember)
    (closed.admits second secondMember) (closed.present first firstMember)
    (closed.present second secondMember) sameKey firstVerdict
    (transparent (oneProximity scope.fuzzily) _ (fresh_oneProximity scope) allowed)

/-- In a scope that is closed under operands, the cache of proximities is invisible in all runs
exactly if no proximities with different verdicts share a key. -/
theorem transparent_iff_unambiguous (closed : scope.Closed) :
    (∀ session events, session.Fresh scope → (∀ event ∈ events, scope.Allows event) →
      Transparent session events) ↔ scope.Unambiguous := by
  constructor
  · exact unambiguous_of_transparent closed
  · intro unambiguous session events fresh allowed
    exact transparent_of_sound (fresh.sound unambiguous) allowed

/-! ## The proximities of requests -/

theorem of_mem_nearProblem? {content : Text} {left right : Expr} {distance : Value}
    {options : MatchOptions} {problem : NearProblem}
    (member : problem ∈ nearProblem? content left right distance options) :
    problem.content = content ∧ problem.left = left ∧ problem.right = right ∧
      problem.options = options ∧ content.isEmpty = false := by
  unfold nearProblem? at member
  cases valid : validDistance distance with
  | error failure =>
      rw [valid] at member
      cases member
  | ok count =>
      rw [valid] at member
      dsimp only at member
      by_cases empty : content.isEmpty = true
      · rw [if_pos empty] at member
        cases member
      · rw [if_neg empty] at member
        cases member
        exact ⟨rfl, rfl, rfl, rfl, Bool.eq_false_iff.mpr empty⟩

/-- A proximity comes from a query: it has its content, its options and its terms, and an evaluation
of the query may come to what its operands ask for. -/
structure ComesFrom (content : Text) (options : MatchOptions) (query : Expr)
    (problem : NearProblem) : Prop where
  content_eq : problem.content = content
  options_eq : problem.options = options
  present : content.isEmpty = false
  terms : ∀ term ∈ problem.left.literals ++ problem.right.literals, term ∈ query.literals
  operands : ∀ inner, inner ∈ nearProblems content options problem.left ∨
    inner ∈ nearProblems content options problem.right → inner ∈ nearProblems content options query

theorem ComesFrom.mono {content : Text} {options : MatchOptions} {part query : Expr}
    {problem : NearProblem} (comes : ComesFrom content options part problem)
    (terms : ∀ term ∈ part.literals, term ∈ query.literals)
    (subset : ∀ inner ∈ nearProblems content options part,
      inner ∈ nearProblems content options query) : ComesFrom content options query problem :=
  ⟨comes.content_eq, comes.options_eq, comes.present,
    fun term member => terms term (comes.terms term member),
    fun inner asked => subset inner (comes.operands inner asked)⟩

theorem comesFrom_of_mem {content : Text} {options : MatchOptions} {query : Expr} :
    ∀ problem ∈ nearProblems content options query,
      ComesFrom content options query problem := by
  induction query with
  | literal term => exact fun problem member => absurd member List.not_mem_nil
  | not child inductionHypothesis =>
      exact fun problem member =>
        (inductionHypothesis problem member).mono (fun _ term => term) fun _ inner => inner
  | and left right leftHypothesis rightHypothesis =>
      intro problem member
      rcases List.mem_append.mp member with inLeft | inRight
      · exact (leftHypothesis problem inLeft).mono (fun _ => List.mem_append_left _)
          fun _ => List.mem_append_left _
      · exact (rightHypothesis problem inRight).mono (fun _ => List.mem_append_right _)
          fun _ => List.mem_append_right _
  | or left right leftHypothesis rightHypothesis =>
      intro problem member
      rcases List.mem_append.mp member with inLeft | inRight
      · exact (leftHypothesis problem inLeft).mono (fun _ => List.mem_append_left _)
          fun _ => List.mem_append_left _
      · exact (rightHypothesis problem inRight).mono (fun _ => List.mem_append_right _)
          fun _ => List.mem_append_right _
  | near left right distance leftHypothesis rightHypothesis =>
      intro problem member
      rcases List.mem_append.mp member with itself | inOperands
      · obtain ⟨sameContent, sameLeft, sameRight, sameOptions, present⟩ :=
          of_mem_nearProblem? (Option.mem_toList.mp itself)
        refine ⟨sameContent, sameOptions, present, ?_, fun inner asked => ?_⟩
        · rw [sameLeft, sameRight]
          exact fun term inTerms => inTerms
        · rw [sameLeft, sameRight] at asked
          exact List.mem_append_right _ (List.mem_append.mpr asked)
      · rcases List.mem_append.mp inOperands with inLeft | inRight
        · exact (leftHypothesis problem inLeft).mono (fun _ => List.mem_append_left _)
            fun _ inner => List.mem_append_right _ (List.mem_append_left _ inner)
        · exact (rightHypothesis problem inRight).mono (fun _ => List.mem_append_right _)
            fun _ inner => List.mem_append_right _ (List.mem_append_right _ inner)

/-- What some requests ask for. -/
def Scope.ofRequests (fuzzily : Bool) (requests : Set Request) : Scope where
  fuzzily := fuzzily
  contents := Request.content '' requests
  cutoffs := (fun request : Request => request.options.threshold) '' requests
  problems := { problem | ∃ request ∈ requests, problem ∈ request.problems }

theorem Scope.closed_ofRequests (fuzzily : Bool) (requests : Set Request) :
    (Scope.ofRequests fuzzily requests).Closed := by
  refine ⟨?_, ?_, ?_⟩
  · rintro problem ⟨request, member, asked⟩
    have source := comesFrom_of_mem problem asked
    rw [source.content_eq]
    exact source.present
  · rintro problem ⟨request, member, asked⟩
    have source := comesFrom_of_mem problem asked
    rw [source.content_eq, source.options_eq]
    exact ⟨⟨request, member, rfl⟩, ⟨request, member, rfl⟩⟩
  · rintro problem ⟨request, member, asked⟩ inner innerAsked
    have source := comesFrom_of_mem problem asked
    rw [source.content_eq, source.options_eq] at innerAsked
    exact ⟨request, member, source.operands inner innerAsked⟩

end BooleanSearch
