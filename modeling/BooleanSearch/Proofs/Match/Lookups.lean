import BooleanSearch.Proofs.Decimal.DigitTexts
import BooleanSearch.Proofs.Match.ProximityKeys
import BooleanSearch.Proofs.Session.Tending

/-!
# Lookups of words and of fuzzy results

A word index is kept under the digest of its content, and a fuzzy result under all that its search depends
on.  So nothing that is looked up in a session shows whether the session keeps what it has found before, as
long as no two contents have one digest: neither when the caches are tended meanwhile nor when time passes.

A threshold is known from its text: whole numbers and doubles have texts of different characters, and no two
numbers of one kind have the same text.
-/

namespace BooleanSearch

open Cache

/-! ## Texts of numbers -/

namespace Decimal

theorem point_or_exponent_mem_text (number : Digits) :
    '.' ∈ number.text.toList ∨ 'e' ∈ number.text.toList := by
  unfold Digits.text
  dsimp only
  split
  · refine Or.inl ?_
    split
    · simp
    · split <;> simp
  · exact Or.inr (by simp)

/-- The text of a double is not that of a whole number. -/
theorem exists_mem_shortest_not_inNumber (value : Float) :
    ∃ char ∈ (shortest value).toList, Query.inNumber char = false := by
  unfold shortest
  split
  · exact ⟨'n', by decide, rfl⟩
  · split
    · exact ⟨'n', by decide, rfl⟩
    · exact ⟨'n', by decide, rfl⟩
  · next number _ =>
      dsimp only
      split
      · exact ⟨'.', by simp, rfl⟩
      · rcases point_or_exponent_mem_text (shortestDigits number) with point | exponent
        · exact ⟨'.', by simp [point], rfl⟩
        · exact ⟨'e', by simp [exponent], rfl⟩

end Decimal

namespace Number

theorem text_whole_ne_text_real (whole : Int) (real : Float) :
    (Number.whole whole).text ≠ (Number.real real).text := by
  intro same
  obtain ⟨char, member, outside⟩ := Decimal.exists_mem_shortest_not_inNumber real
  have inside : char ∈ (toString whole).toList := by
    rwa [show toString whole = Decimal.shortest real from same]
  rw [Query.inNumber_of_mem_toString char inside] at outside
  cases outside

/-- No two numbers have the same text. -/
theorem text_injective : Function.Injective Number.text := by
  intro first second same
  cases first with
  | whole first =>
      cases second with
      | whole second => exact congrArg Number.whole (Int.repr_injective same)
      | real second => exact absurd same (text_whole_ne_text_real first second)
  | real first =>
      cases second with
      | whole second => exact absurd same.symm (text_whole_ne_text_real second first)
      | real second => exact congrArg Number.real (Decimal.shortest_injective same)

end Number

/-! ## Runs -/

/-- What may be looked up in a session, or be forgotten by it.  A search without a threshold takes that of
the matcher. -/
inductive Lookup
  | search (content : Text) (term : String) (caseSensitive wholeWord : Bool) (cutoff : Option Number)
  | index (content : Text)
  | wordOf (offset : Int) (content : Text)
  | distance (first second : Int) (content : Text)
  | remove (content : Text)
  | clearWords
  | clearFuzzy

/-- What is found.  Forgetting finds nothing. -/
inductive LookedUp
  | fuzzy (result : FuzzyResult)
  | index (index : WordIndex)
  | count (number : Option Nat)
  | nothing

namespace Lookup

def content? : Lookup → Option Text
  | .search content _ _ _ _ => some content
  | .index content => some content
  | .wordOf _ content => some content
  | .distance _ _ content => some content
  | .remove content => some content
  | .clearWords => none
  | .clearFuzzy => none

/-- The threshold of the matcher of a session, unless another is given. -/
def cutoffIn (matcher : Option Number) (cutoff : Option Number) : Number :=
  cutoff.getD (matcher.getD Fuzzy.defaultThreshold)

def step : Lookup → Search LookedUp
  | .search content term caseSensitive wholeWord cutoff => do
    let session ← get
    return .fuzzy (← Search.fuzzySearch content term caseSensitive wholeWord
      (cutoffIn session.matcher cutoff))
  | .index content => return .index (← Search.wordIndex content)
  | .wordOf offset content => return .count (← Search.wordIndexOf offset content)
  | .distance first second content => return .count (← Search.wordDistance first second content)
  | .remove content => do
    let _ ← Search.forgetWords content
    return .nothing
  | .clearWords => do
    Search.clearWords
    return .nothing
  | .clearFuzzy => do
    Search.clearFuzzy
    return .nothing

/-- What is found if nothing was kept. -/
def finding (matcher : Option Number) : Lookup → LookedUp
  | .search content term caseSensitive wholeWord cutoff =>
    .fuzzy (Fuzzy.search content term caseSensitive wholeWord (cutoffIn matcher cutoff))
  | .index content => .index (WordIndex.build content)
  | .wordOf offset content =>
    .count (if offset < 0 || (content.size : Int) ≤ offset then none
      else (WordIndex.build content).wordAt? offset)
  | .distance first second content => .count ((WordIndex.build content).distance? first second)
  | .remove _ => .nothing
  | .clearWords => .nothing
  | .clearFuzzy => .nothing

end Lookup

/-- What may happen to a session: something is looked up, time passes, or one of its caches is tended. -/
inductive LookupEvent
  | ask (lookup : Lookup)
  | wait (clock : Nat)
  | tendWords (tending : Tending WordIndex)
  | tendFuzzy (tending : Tending FuzzyResult)

namespace Session

/-- What is found in a run from a session. -/
def findings (session : Session) : List LookupEvent → List (Except Failure LookedUp)
  | [] => []
  | .ask lookup :: rest =>
    lookup.step.answer session :: (lookup.step.next session).findings rest
  | .wait clock :: rest => { session with clock := clock }.findings rest
  | .tendWords tending :: rest =>
    { session with words := tended tending session.words }.findings rest
  | .tendFuzzy tending :: rest =>
    { session with fuzzy := tended tending session.fuzzy }.findings rest

/-- The session without the caches of word indexes and of fuzzy results. -/
def forgetting (session : Session) : Session :=
  { session with words := none, fuzzy := none }

end Session

/-- What is found in an event of a run if nothing was kept, unless nothing is looked up. -/
def LookupEvent.finding? (matcher : Option Number) : LookupEvent → Option (Except Failure LookedUp)
  | .ask lookup => some (.ok (lookup.finding matcher))
  | _ => none

/-! ## One lookup -/

namespace Search

variable {α : Type} {admits holds : Session → Prop}

theorem Answers.and_keeps {step : Search α} {result : Except Failure α}
    (answers : Answers admits step result) (keeps : Keeps holds step) :
    Answers (fun session => admits session ∧ holds session) step result := by
  rintro session ⟨admitted, held⟩
  obtain ⟨given, after⟩ := answers session admitted
  exact ⟨given, after, keeps session held⟩

theorem Answers.modify {change : Session → Session}
    (keeps : ∀ session, admits session → admits (change session)) :
    Answers admits (modify change : Search PUnit) (.ok ()) :=
  fun session admitted => ⟨rfl, keeps session admitted⟩

end Search

/-- A session with a matcher, and caches that are truthful about a scope. -/
def Session.Remembers (scope : Scope) (matcher : Option Number) (session : Session) : Prop :=
  session.Sound scope ∧ session.matcher = matcher

theorem stable_matcher (matcher : Option Number) :
    Stable fun session => session.matcher = matcher where
  records _ same := same
  clock _ same := same
  words _ same _ := same
  fuzzy _ same _ := same
  looked _ _ same _ := same
  stored _ _ _ same _ := same

namespace Session.Remembers

variable {scope : Scope} {matcher : Option Number} {session : Session}

theorem withWords (remembers : session.Remembers scope matcher)
    {cache : Option (Lru String WordIndex)} (truthful : Truthful scope.wordMeaning cache) :
    Session.Remembers scope matcher { session with words := cache } := by
  obtain ⟨sound, same⟩ := remembers
  exact ⟨⟨sound.matcher, truthful, sound.fuzzy, sound.near⟩, same⟩

theorem withFuzzy (remembers : session.Remembers scope matcher)
    {cache : Option (Lru String FuzzyResult)} (truthful : Truthful scope.fuzzyMeaning cache) :
    Session.Remembers scope matcher { session with fuzzy := cache } := by
  obtain ⟨sound, same⟩ := remembers
  exact ⟨⟨sound.matcher, sound.words, truthful, sound.near⟩, same⟩

theorem tendWords (remembers : session.Remembers scope matcher) (tending : Tending WordIndex) :
    Session.Remembers scope matcher { session with words := tended tending session.words } :=
  remembers.withWords (remembers.1.words.tended tending)

theorem tendFuzzy (remembers : session.Remembers scope matcher) (tending : Tending FuzzyResult) :
    Session.Remembers scope matcher { session with fuzzy := tended tending session.fuzzy } :=
  remembers.withFuzzy (remembers.1.fuzzy.tended tending)

end Session.Remembers

section

variable {scope : Scope} {matcher : Option Number} {content : Text}

theorem answers_wordIndex (member : content ∈ scope.contents) :
    Search.Answers (Session.Remembers scope matcher) (Search.wordIndex content)
      (.ok (WordIndex.build content)) :=
  (gives_wordIndex member).and_keeps ((stable_matcher matcher).keeps_wordIndex content)

theorem answers_wordIndexOf (member : content ∈ scope.contents) (offset : Int) :
    Search.Answers (Session.Remembers scope matcher) (Search.wordIndexOf offset content)
      (.ok (if offset < 0 || (content.size : Int) ≤ offset then none
        else (WordIndex.build content).wordAt? offset)) := by
  unfold Search.wordIndexOf
  split
  · exact Search.Answers.pure none
  · exact (answers_wordIndex member).map fun index => index.wordAt? offset

theorem answers_forgetWords (content : Text) :
    Search.Answers (Session.Remembers scope matcher) (Lookup.remove content).step (.ok .nothing) := by
  have step : (Lookup.remove content).step =
      Search.forgetWords content >>= fun _ => pure LookedUp.nothing := rfl
  rw [step, Search.forgetWords, bind_assoc]
  refine Search.Answers.get_bind fun session remembers => ?_
  have truthful := remembers.1.words.tended ⟨.delete (contentKey content), trivial⟩
  cases held : session.words with
  | none => exact Search.Answers.pure _
  | some cache =>
      rw [held] at truthful
      dsimp only
      rw [bind_assoc]
      exact Search.Answers.bind_ok
        (Search.Answers.modify fun _ remembers => remembers.withWords truthful)
        (Search.Answers.pure _)

/-- A lookup finds what it would find if nothing was kept. -/
theorem answers_lookup (unbounded : scope.cutoffs = Set.univ) (lookup : Lookup)
    (asked : ∀ content, lookup.content? = some content → content ∈ scope.contents) :
    Search.Answers (Session.Remembers scope matcher) lookup.step (.ok (lookup.finding matcher)) := by
  cases lookup with
  | search content term caseSensitive wholeWord cutoff =>
      refine Search.Answers.get_bind fun session remembers => ?_
      rw [remembers.2]
      have cutoffMember : Lookup.cutoffIn matcher cutoff ∈ scope.cutoffs := by
        rw [unbounded]
        exact Set.mem_univ _
      have searches := (gives_fuzzySearch (asked content rfl) cutoffMember term caseSensitive
        wholeWord).and_keeps
          ((stable_matcher matcher).keeps_fuzzySearch content term caseSensitive wholeWord _)
      exact searches.map LookedUp.fuzzy
  | index content => exact (answers_wordIndex (asked content rfl)).map LookedUp.index
  | wordOf offset content =>
      exact (answers_wordIndexOf (asked content rfl) offset).map LookedUp.count
  | distance first second content =>
      have measured : Search.Answers (Session.Remembers scope matcher)
          (Search.wordDistance first second content) _ :=
        (answers_wordIndex (asked content rfl)).map fun index => index.distance? first second
      exact measured.map LookedUp.count
  | remove content => exact answers_forgetWords content
  | clearWords =>
      refine Search.Answers.bind_ok (Search.Answers.modify fun session remembers => ?_)
        (Search.Answers.pure _)
      exact remembers.tendWords ⟨.clear, trivial⟩
  | clearFuzzy =>
      refine Search.Answers.bind_ok (Search.Answers.modify fun session remembers => ?_)
        (Search.Answers.pure _)
      exact remembers.tendFuzzy ⟨.clear, trivial⟩

/-! ## All lookups of a run -/

theorem findings_of_remembers (unbounded : scope.cutoffs = Set.univ) {session : Session}
    (remembers : session.Remembers scope matcher) {events : List LookupEvent}
    (asked : ∀ lookup, .ask lookup ∈ events → ∀ content, lookup.content? = some content →
      content ∈ scope.contents) :
    session.findings events = events.filterMap (LookupEvent.finding? matcher) := by
  induction events generalizing session with
  | nil => rfl
  | cons event rest inductionHypothesis =>
      have later := fun lookup member => asked lookup (List.mem_cons_of_mem event member)
      cases event with
      | ask lookup =>
          obtain ⟨found, after⟩ :=
            answers_lookup unbounded lookup (asked lookup List.mem_cons_self) session remembers
          rw [Session.findings, found, inductionHypothesis after later]
          rfl
      | wait clock => exact inductionHypothesis ⟨remembers.1.withClock clock, remembers.2⟩ later
      | tendWords tending => exact inductionHypothesis (remembers.tendWords tending) later
      | tendFuzzy tending => exact inductionHypothesis (remembers.tendFuzzy tending) later

end

/-- The contents that are looked up in a run. -/
def contentsOf (events : List LookupEvent) : Set Text :=
  { content | ∃ lookup, .ask lookup ∈ events ∧ lookup.content? = some content }

/-- In a run from a session that has not kept anything yet, all lookups find what they find without the caches
of word indexes and fuzzy results, if no two of their contents have one digest. -/
theorem findings_eq_findings_forgetting {session : Session}
    (wordsEmpty : ∀ cache, session.words = some cache → cache.entries = [])
    (fuzzyEmpty : ∀ cache, session.fuzzy = some cache → cache.entries = [])
    (events : List LookupEvent) (digests : Set.InjOn contentKey (contentsOf events)) :
    session.findings events = session.forgetting.findings events := by
  let scope : Scope := ⟨session.matcher.isSome, contentsOf events, Set.univ, ∅⟩
  have distinct : scope.Distinct := ⟨digests, Number.text_injective.injOn⟩
  have near : Truthful scope.nearMeaning session.near := by
    refine ⟨?_, ?_⟩
    · rintro cache - key value result ⟨problem, ⟨⟩, -⟩
    · rintro cache - entry - result ⟨problem, ⟨⟩, -⟩
  have remembers : session.Remembers scope session.matcher :=
    ⟨⟨rfl, .of_empty distinct.single_wordMeaning wordsEmpty,
      .of_empty distinct.single_fuzzyMeaning fuzzyEmpty, near⟩, rfl⟩
  have forgetting : session.forgetting.Remembers scope session.matcher :=
    ⟨⟨rfl, .none, .none, near⟩, rfl⟩
  have asked : ∀ lookup, .ask lookup ∈ events → ∀ content, lookup.content? = some content →
      content ∈ scope.contents := fun lookup member content given => ⟨lookup, member, given⟩
  -- Both sessions find what is found if nothing was kept, so they need not be compared step by step.
  rw [findings_of_remembers rfl remembers asked, findings_of_remembers rfl forgetting asked]

/-- A session that keeps one word index and one fuzzy result. -/
def oneLookup : Session :=
  { words := some ⟨"words", 1, none, none, Session.weighWords, [], 0, 0, 0, 0⟩
    fuzzy := some ⟨"fuzzy", 1, some (.whole 60), none, Session.weighFuzzy, [], 0, 0, 0, 0⟩ }

/-- Lookups of a term with a colon and of words, with caches tended and cleared in between. -/
def foxLookups : List LookupEvent :=
  let fox := Text.ofString "red fox: one"
  [.ask (.search fox "fox:" false false none), .ask (.index fox),
    .ask (.search fox "fox:" false false (some (.whole 70))), .tendFuzzy ⟨.trim 0, trivial⟩,
    .ask (.wordOf 4 fox), .ask (.distance 0 4 fox), .wait 90000000, .ask (.remove fox),
    .ask (.search fox "fox:" false false none), .ask .clearWords, .ask (.index fox)]

theorem findings_foxLookups :
    oneLookup.findings foxLookups = oneLookup.forgetting.findings foxLookups := by
  have contents : ∀ content ∈ contentsOf foxLookups, content = Text.ofString "red fox: one" := by
    rintro content ⟨lookup, member, given⟩
    simp only [foxLookups, List.mem_cons, LookupEvent.ask.injEq, reduceCtorEq, false_or, or_false,
      List.not_mem_nil] at member
    rcases member with rfl | rfl | rfl | rfl | rfl | rfl | rfl | rfl | rfl <;>
      simp_all [Lookup.content?]
  refine findings_eq_findings_forgetting ?_ ?_ foxLookups ?_
  · rintro cache ⟨⟩
    rfl
  · rintro cache ⟨⟩
    rfl
  · intro first firstMember second secondMember _
    rw [contents first firstMember, contents second secondMember]

end BooleanSearch
