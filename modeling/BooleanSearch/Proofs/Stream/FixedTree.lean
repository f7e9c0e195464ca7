import BooleanSearch.Proofs.Session.Tending
import BooleanSearch.Proofs.Stream.Versions

/-!
# Scanners of a tree that stays as it is

As long as no file changes, a scanner answers as one without caches, whatever is asked of it, however much
time passes, and however its caches are tended meanwhile.

The invariant is that kept facts are those that the tree gives for their path, and kept texts those of the
path in their key, so that a cache tells nothing but what would be looked up.  What a step does between
looking up and answering is the same with and without caches, whatever the matcher does.
-/

namespace BooleanSearch.Stream

open Files

/-! ## Runs -/

/-- What may be asked of a scanner. -/
inductive Demand (m : Type → Type)
  | stats (path : String)
  | read (path : String) (limit : Option Int)
  | process (path : String) (accepts : Matcher m) (request : Scanner.Request) (firstOnly : Bool)
  | lines (path : String) (accepts : Matcher m) (request : Scanner.Request) (limit : Int)
  | clear

inductive Reply
  | facts (outcome : Except Failure FileFacts)
  | text (outcome : Except Failure FileText)
  | chunks (outcome : Except Failure Scanner.ChunkOutcome)
  | lines (outcome : Except Failure Scanner.LineOutcome)
  | cleared

/-- What may happen to a scanner: something is asked of it, time passes, or one of its caches is tended. -/
inductive Occurrence (m : Type → Type)
  | ask (demand : Demand m)
  | wait (clock : Nat)
  | tendFacts (tending : Cache.Tending FileFacts)
  | tendTexts (tending : Cache.Tending Text)

namespace Scanner

/-- The scanner without its caches. -/
def bare (scanner : Scanner) : Scanner :=
  { scanner with facts := none, texts := none }

section

variable {m : Type → Type} [Monad m]

/-- The answer to a demand and the scanner after it. -/
def reply (scanner : Scanner) (files : Tree) : Demand m → m (Reply × Scanner)
  | .stats path => pure ((scanner.stats files path).map .facts id)
  | .read path limit => pure ((scanner.wholeText files path limit).map .text id)
  | .process path accepts request firstOnly =>
    Prod.map .chunks id <$> scanner.process files path accepts request firstOnly
  | .lines path accepts request limit =>
    Prod.map .lines id <$> scanner.lines files path accepts request limit
  | .clear => pure (.cleared, scanner.clear)

/-- The answers to all that is asked of a scanner in a run. -/
def replies (scanner : Scanner) (files : Tree) : List (Occurrence m) → m (List Reply)
  | [] => pure []
  | .ask demand :: rest => do
    let (answer, after) ← scanner.reply files demand
    return answer :: (← after.replies files rest)
  | .wait clock :: rest => { scanner with clock := clock }.replies files rest
  | .tendFacts tending :: rest =>
    { scanner with facts := Cache.tended tending scanner.facts }.replies files rest
  | .tendTexts tending :: rest =>
    { scanner with texts := Cache.tended tending scanner.texts }.replies files rest

end

/-! ## What caches stand for -/

/-- The facts that the tree gives for a path. -/
def factsAt (files : Tree) (path : String) : Except Failure FileFacts :=
  match files.require (Path.ofString path) with
  | .ok found => .ok (factsOf found)
  | .error failure => .error (asUnreadable path failure)

/-- The text that the tree gives for a path. -/
def textAt (files : Tree) (path : String) : Except Failure Text :=
  (bytesAt files path).map Utf8.decode

def factsMeaning (files : Tree) : Meaning FileFacts :=
  fun path result => result = factsAt files path

/-- A key names a version, but stands for the text at its path, whatever the version. -/
def textMeaning (files : Tree) : Meaning Text :=
  fun key result => ∃ path facts, key = versionKey path facts ∧ result = textAt files path

theorem single_factsMeaning (files : Tree) : (factsMeaning files).Single := by
  intro path value result told meant
  exact Eq.trans meant told.symm

theorem single_textMeaning (files : Tree) : (textMeaning files).Single := by
  rintro key value result ⟨path, facts, key, told⟩ ⟨other, otherFacts, otherKey, meant⟩
  obtain ⟨same, -⟩ := versionKey_inj (key.symm.trans otherKey)
  rw [meant, ← same, told]

/-- What comes of looking a key up, if what it stands for is looked up afresh where nothing is kept, and the
cache that is left, if there is one. -/
def lookedUp {ν : Type} (cache : Option (Cache.Lru String ν)) (now : Float) (key : String)
    (fresh : Except Failure ν) : Except Failure ν × Option (Cache.Lru String ν) :=
  match cache with
  | none => (fresh, none)
  | some held =>
    match (held.get now key).1, fresh with
    | some known, _ => (.ok known, some (held.get now key).2)
    | none, .ok value => (.ok value, some ((held.get now key).2.set now key value))
    | none, .error failure => (.error failure, some (held.get now key).2)

theorem lookedUp_none {ν : Type} (now : Float) (key : String) (fresh : Except Failure ν) :
    lookedUp none now key fresh = (fresh, none) := rfl

/-- Looking up in a truthful cache gives what the key stands for, and leaves a truthful cache. -/
theorem lookedUp_of_truthful {ν : Type} {means : Meaning ν} {cache : Option (Cache.Lru String ν)}
    (truthful : Truthful means cache) (now : Float) {key : String} {fresh : Except Failure ν}
    (right : means key fresh) :
    (lookedUp cache now key fresh).1 = fresh ∧ Truthful means (lookedUp cache now key fresh).2 := by
  cases cache with
  | none => exact ⟨rfl, truthful⟩
  | some held =>
      have looked := truthful.get now key
      unfold lookedUp
      dsimp only
      split
      · next known hit => exact ⟨(truthful.eq_of_hit hit right).symm, looked⟩
      · exact ⟨rfl, looked.set now right⟩
      · exact ⟨rfl, looked⟩

/-- A scanner with some caches after another, from which it may differ in its clock and its reports. -/
structure Left (before : Scanner) (facts : Option (Cache.Lru String FileFacts))
    (texts : Option (Cache.Lru String Text)) (after : Scanner) : Prop where
  settings : after.settings = before.settings
  facts : after.facts = facts
  texts : after.texts = texts

theorem stats_eq_lookedUp (scanner : Scanner) (files : Tree) (path : String) :
    (scanner.stats files path).1 =
        (lookedUp scanner.facts scanner.now path (factsAt files path)).1 ∧
      scanner.Left (lookedUp scanner.facts scanner.now path (factsAt files path)).2 scanner.texts
        (scanner.stats files path).2 := by
  unfold stats lookedUp factsAt
  dsimp only
  generalize files.require (Path.ofString path) = standing
  cases held : scanner.facts with
  | none =>
      dsimp only
      exact ⟨rfl, ⟨rfl, held, rfl⟩⟩
  | some cache =>
      dsimp only
      rcases cache.get scanner.now path with ⟨known, after⟩
      cases known with
      | some known => exact ⟨rfl, ⟨rfl, rfl, rfl⟩⟩
      | none => cases standing <;> exact ⟨rfl, ⟨rfl, rfl, rfl⟩⟩

theorem readText_eq_lookedUp (scanner : Scanner) (files : Tree) (path : String) {facts : FileFacts}
    (small : facts.size ≤ scanner.settings.cachedSize) :
    (scanner.readText files path facts).1 =
        (lookedUp scanner.texts scanner.now (versionKey path facts) (textAt files path)).1 ∧
      scanner.Left scanner.facts
        (lookedUp scanner.texts scanner.now (versionKey path facts) (textAt files path)).2
        (scanner.readText files path facts).2 := by
  unfold readText lookedUp textAt
  rw [if_pos small]
  cases held : scanner.texts with
  | none => exact ⟨rfl, ⟨rfl, rfl, held⟩⟩
  | some cache =>
      dsimp only
      rcases cache.get scanner.now (versionKey path facts) with ⟨known, after⟩
      cases known with
      | some known => exact ⟨rfl, ⟨rfl, rfl, rfl⟩⟩
      | none => cases bytesAt files path <;> exact ⟨rfl, ⟨rfl, rfl, rfl⟩⟩

theorem readText_of_large (scanner : Scanner) (files : Tree) (path : String) {facts : FileFacts}
    (large : ¬ facts.size ≤ scanner.settings.cachedSize) :
    scanner.readText files path facts = (textAt files path, scanner) := by
  unfold readText textAt
  rw [if_neg large]

/-! ## Scanners side by side -/

/-- A scanner with truthful caches beside one without caches. -/
structure Mirrors (files : Tree) (scanner plain : Scanner) : Prop where
  settings : plain.settings = scanner.settings
  factless : plain.facts = none
  textless : plain.texts = none
  facts : Truthful (factsMeaning files) scanner.facts
  texts : Truthful (textMeaning files) scanner.texts

section

variable {files : Tree} {scanner plain : Scanner}

theorem stats_of_mirrors (mirrors : Mirrors files scanner plain) (path : String) :
    (scanner.stats files path).1 = (plain.stats files path).1 ∧
      Mirrors files (scanner.stats files path).2 (plain.stats files path).2 := by
  obtain ⟨told, left⟩ := scanner.stats_eq_lookedUp files path
  obtain ⟨plainly, plainLeft⟩ := plain.stats_eq_lookedUp files path
  have right : factsMeaning files path (factsAt files path) := rfl
  have looked := lookedUp_of_truthful mirrors.facts scanner.now right
  simp only [mirrors.factless, lookedUp_none] at plainly plainLeft
  refine ⟨(told.trans looked.1).trans plainly.symm, ?_, plainLeft.facts, ?_, ?_, ?_⟩
  · rw [plainLeft.settings, left.settings, mirrors.settings]
  · exact plainLeft.texts.trans mirrors.textless
  · rw [left.facts]
    exact looked.2
  · rw [left.texts]
    exact mirrors.texts

theorem readText_of_mirrors (mirrors : Mirrors files scanner plain) (path : String)
    (facts : FileFacts) :
    (scanner.readText files path facts).1 = (plain.readText files path facts).1 ∧
      Mirrors files (scanner.readText files path facts).2 (plain.readText files path facts).2 := by
  by_cases small : facts.size ≤ scanner.settings.cachedSize
  · obtain ⟨told, left⟩ := scanner.readText_eq_lookedUp files path small
    have plainSmall : facts.size ≤ plain.settings.cachedSize := by rwa [mirrors.settings]
    obtain ⟨plainly, plainLeft⟩ := plain.readText_eq_lookedUp files path plainSmall
    have right : textMeaning files (versionKey path facts) (textAt files path) :=
      ⟨path, facts, rfl, rfl⟩
    have looked := lookedUp_of_truthful mirrors.texts scanner.now right
    simp only [mirrors.textless, lookedUp_none] at plainly plainLeft
    refine ⟨(told.trans looked.1).trans plainly.symm, ?_, ?_, plainLeft.texts, ?_, ?_⟩
    · rw [plainLeft.settings, left.settings, mirrors.settings]
    · exact plainLeft.facts.trans mirrors.factless
    · rw [left.facts]
      exact mirrors.facts
    · rw [left.texts]
      exact looked.2
  · have plainLarge : ¬ facts.size ≤ plain.settings.cachedSize := by rwa [mirrors.settings]
    rw [scanner.readText_of_large files path small, plain.readText_of_large files path plainLarge]
    exact ⟨rfl, mirrors⟩

theorem checkedStats_of_mirrors (mirrors : Mirrors files scanner plain) (path : String)
    (limit : Option Int) :
    (scanner.checkedStats files path limit).1 = (plain.checkedStats files path limit).1 ∧
      Mirrors files (scanner.checkedStats files path limit).2
        (plain.checkedStats files path limit).2 := by
  obtain ⟨told, after⟩ := stats_of_mirrors mirrors path
  rw [(scanner.checkedStats_spec files path limit).1, (plain.checkedStats_spec files path limit).1]
  refine ⟨?_, after⟩
  unfold checkedStats
  rw [mirrors.settings]
  generalize scanner.stats files path = looked at told
  generalize plain.stats files path = plainLooked at told
  obtain ⟨outcome, left⟩ := looked
  obtain ⟨plainOutcome, plainLeft⟩ := plainLooked
  obtain rfl : outcome = plainOutcome := told
  cases outcome with
  | error failure => rfl
  | ok facts =>
      dsimp only
      split
      · rfl
      · split
        · rfl
        · split <;> rfl

theorem wholeText_of_mirrors (mirrors : Mirrors files scanner plain) (path : String)
    (limit : Option Int) :
    (scanner.wholeText files path limit).1 = (plain.wholeText files path limit).1 ∧
      Mirrors files (scanner.wholeText files path limit).2
        (plain.wholeText files path limit).2 := by
  obtain ⟨told, after⟩ := checkedStats_of_mirrors mirrors path limit
  unfold wholeText
  generalize scanner.checkedStats files path limit = looked at told after
  generalize plain.checkedStats files path limit = plainLooked at told after
  obtain ⟨outcome, left⟩ := looked
  obtain ⟨plainOutcome, plainLeft⟩ := plainLooked
  obtain rfl : outcome = plainOutcome := told
  cases outcome with
  | error failure => exact ⟨rfl, after⟩
  | ok facts =>
      obtain ⟨read, last⟩ := readText_of_mirrors after path facts
      dsimp only at read last ⊢
      generalize left.readText files path facts = taken at read last
      generalize plainLeft.readText files path facts = plainTaken at read last
      obtain ⟨text, leftLast⟩ := taken
      obtain ⟨plainText, plainLast⟩ := plainTaken
      obtain rfl : text = plainText := read
      cases text <;> exact ⟨rfl, last⟩

theorem Mirrors.clear (mirrors : Mirrors files scanner plain) :
    Mirrors files scanner.clear plain.clear := by
  have cleared {ν : Type} {means : Meaning ν} {cache : Option (Cache.Lru String ν)}
      (truthful : Truthful means cache) :
      Truthful means (cache.map fun cache => cache.clear.2) :=
    truthful.tended ⟨.clear, trivial⟩
  refine ⟨mirrors.settings, ?_, ?_, cleared mirrors.facts, cleared mirrors.texts⟩
  · exact congrArg (Option.map _) mirrors.factless
  · exact congrArg (Option.map _) mirrors.textless

theorem Mirrors.withRecords (mirrors : Mirrors files scanner plain)
    (records plainRecords : Array Log.Record) :
    Mirrors files { scanner with records := records } { plain with records := plainRecords } :=
  ⟨mirrors.settings, mirrors.factless, mirrors.textless, mirrors.facts, mirrors.texts⟩

theorem conclude_of_mirrors (mirrors : Mirrors files scanner plain) (path : String)
    (scan : ChunkScan) :
    (conclude path scan scanner).1 = (conclude path scan plain).1 ∧
      Mirrors files (conclude path scan scanner).2 (conclude path scan plain).2 := by
  unfold conclude
  split
  · exact ⟨rfl, mirrors⟩
  · split
    · exact ⟨rfl, mirrors⟩
    · exact ⟨rfl, mirrors.withRecords _ _⟩

/-! ## Steps side by side -/

variable {m : Type → Type} [Monad m]

/-- Two steps find the same, give the same answer to it, and leave scanners side by side. -/
def Alike {α : Type} (files : Tree) (step plainStep : m (α × Scanner)) : Prop :=
  ∃ (β : Type) (find : m β) (tell plainTell : β → α × Scanner),
    step = tell <$> find ∧ plainStep = plainTell <$> find ∧
      ∀ found, (tell found).1 = (plainTell found).1 ∧
        Mirrors files (tell found).2 (plainTell found).2

namespace Alike

variable {α β : Type}

theorem pure [LawfulMonad m] {answer plainAnswer : α × Scanner}
    (same : answer.1 = plainAnswer.1 ∧ Mirrors files answer.2 plainAnswer.2) :
    Alike files (Pure.pure answer : m _) (Pure.pure plainAnswer) :=
  ⟨Unit, Pure.pure (), fun _ => answer, fun _ => plainAnswer,
    (map_pure (fun _ => answer) ()).symm, (map_pure (fun _ => plainAnswer) ()).symm, fun _ => same⟩

theorem map [LawfulMonad m] {step plainStep : m (α × Scanner)} (alike : Alike files step plainStep)
    (wrap : α → β) : Alike files (Prod.map wrap id <$> step) (Prod.map wrap id <$> plainStep) := by
  obtain ⟨γ, find, tell, plainTell, rfl, rfl, same⟩ := alike
  refine ⟨γ, find, Prod.map wrap id ∘ tell, Prod.map wrap id ∘ plainTell, ?_, ?_, fun found => ?_⟩
  · exact comp_map _ _ _ |>.symm
  · exact comp_map _ _ _ |>.symm
  · exact ⟨congrArg wrap (same found).1, (same found).2⟩

/-- What goes on alike from scanners side by side goes on alike after steps that are alike. -/
theorem bind_eq [LawfulMonad m] {step plainStep : m (α × Scanner)}
    (alike : Alike files step plainStep) {rest : α × Scanner → m β}
    (goesOn : ∀ answer scanner plain, Mirrors files scanner plain →
      rest (answer, scanner) = rest (answer, plain)) : step >>= rest = plainStep >>= rest := by
  obtain ⟨γ, find, tell, plainTell, rfl, rfl, same⟩ := alike
  rw [bind_map_left, bind_map_left]
  refine bind_congr fun found => ?_
  have answers := goesOn (tell found).1 _ _ (same found).2
  rw [answers, (same found).1]

end Alike

variable [LawfulMonad m]

theorem process_alike (mirrors : Mirrors files scanner plain) (path : String) (accepts : Matcher m)
    (request : Request) (firstOnly : Bool) :
    Alike files (scanner.process files path accepts request firstOnly)
      (plain.process files path accepts request firstOnly) := by
  obtain ⟨told, after⟩ := checkedStats_of_mirrors mirrors path request.sizeLimit
  have size : plain.chunkSize request = scanner.chunkSize request := by
    unfold chunkSize
    rw [mirrors.settings]
  have concluded {left plainLeft : Scanner} (after : Mirrors files left plainLeft) (scan : m ChunkScan) :
      Alike files (do return conclude path (← scan) left) (do return conclude path (← scan) plainLeft) :=
    ⟨ChunkScan, scan, (conclude path · left), (conclude path · plainLeft), bind_pure_comp _ _,
      bind_pure_comp _ _, fun found => conclude_of_mirrors after path found⟩
  unfold process
  rw [mirrors.settings, size]
  generalize scanner.checkedStats files path request.sizeLimit = looked at told after
  generalize plain.checkedStats files path request.sizeLimit = plainLooked at told after
  obtain ⟨outcome, left⟩ := looked
  obtain ⟨plainOutcome, plainLeft⟩ := plainLooked
  obtain rfl : outcome = plainOutcome := told
  cases outcome with
  | error failure => exact .pure (conclude_of_mirrors after path _)
  | ok facts =>
      dsimp only
      split
      · obtain ⟨read, last⟩ := readText_of_mirrors after path facts
        dsimp only at read last ⊢
        generalize left.readText files path facts = taken at read last
        generalize plainLeft.readText files path facts = plainTaken at read last
        obtain ⟨text, leftLast⟩ := taken
        obtain ⟨plainText, plainLast⟩ := plainTaken
        obtain rfl : text = plainText := read
        cases text with
        | error failure => exact .pure (conclude_of_mirrors last path _)
        | ok text => exact concluded last _
      -- Chunks are read past the caches.
      · split
        · exact .pure (conclude_of_mirrors after path _)
        · exact concluded after _

theorem lines_alike (mirrors : Mirrors files scanner plain) (path : String) (accepts : Matcher m)
    (request : Request) (limit : Int) :
    Alike files (scanner.lines files path accepts request limit)
      (plain.lines files path accepts request limit) := by
  obtain ⟨told, after⟩ := checkedStats_of_mirrors mirrors path request.sizeLimit
  have size : plain.chunkSize request = scanner.chunkSize request := by
    unfold chunkSize
    rw [mirrors.settings]
  have concluded {left plainLeft : Scanner} (after : Mirrors files left plainLeft) (scan : m LineScan) :
      Alike files (do return (concludeLines (← scan), left))
        (do return (concludeLines (← scan), plainLeft)) :=
    ⟨LineScan, scan, (concludeLines ·, left), (concludeLines ·, plainLeft), bind_pure_comp _ _,
      bind_pure_comp _ _, fun _ => ⟨rfl, after⟩⟩
  unfold lines
  rw [mirrors.settings, size]
  generalize scanner.checkedStats files path request.sizeLimit = looked at told after
  generalize plain.checkedStats files path request.sizeLimit = plainLooked at told after
  obtain ⟨outcome, left⟩ := looked
  obtain ⟨plainOutcome, plainLeft⟩ := plainLooked
  obtain rfl : outcome = plainOutcome := told
  cases outcome with
  | error failure => exact .pure ⟨rfl, after⟩
  | ok facts =>
      dsimp only
      split
      · split
        · exact .pure ⟨rfl, after⟩
        · exact concluded after _
      · split
        · exact .pure ⟨rfl, after⟩
        · exact concluded after _

theorem reply_alike (mirrors : Mirrors files scanner plain) (demand : Demand m) :
    Alike files (scanner.reply files demand) (plain.reply files demand) := by
  cases demand with
  | stats path =>
      obtain ⟨told, after⟩ := stats_of_mirrors mirrors path
      exact .pure ⟨congrArg Reply.facts told, after⟩
  | read path limit =>
      obtain ⟨told, after⟩ := wholeText_of_mirrors mirrors path limit
      exact .pure ⟨congrArg Reply.text told, after⟩
  | process path accepts request firstOnly =>
      exact (process_alike mirrors path accepts request firstOnly).map Reply.chunks
  | lines path accepts request limit =>
      exact (lines_alike mirrors path accepts request limit).map Reply.lines
  | clear => exact .pure ⟨rfl, mirrors.clear⟩

/-- Scanners side by side answer alike in a whole run. -/
theorem replies_of_mirrors (mirrors : Mirrors files scanner plain)
    (occurrences : List (Occurrence m)) :
    scanner.replies files occurrences = plain.replies files occurrences := by
  induction occurrences generalizing scanner plain with
  | nil => rfl
  | cons occurrence rest inductionHypothesis =>
      cases occurrence with
      | ask demand =>
          refine (reply_alike mirrors demand).bind_eq fun answer left plainLeft after => ?_
          dsimp only
          rw [inductionHypothesis after]
      | wait clock =>
          exact inductionHypothesis
            ⟨mirrors.settings, mirrors.factless, mirrors.textless, mirrors.facts, mirrors.texts⟩
      | tendFacts tending =>
          refine inductionHypothesis ⟨mirrors.settings, ?_, mirrors.textless,
            mirrors.facts.tended tending, mirrors.texts⟩
          exact congrArg (Cache.tended tending) mirrors.factless
      | tendTexts tending =>
          refine inductionHypothesis ⟨mirrors.settings, mirrors.factless, ?_, mirrors.facts,
            mirrors.texts.tended tending⟩
          exact congrArg (Cache.tended tending) mirrors.textless

end

/-- On a tree that stays as it is, a scanner that begins with empty caches answers all that is asked of it
as one without caches. -/
theorem replies_eq_replies_bare {m : Type → Type} [Monad m] [LawfulMonad m] {scanner : Scanner}
    (factsEmpty : ∀ cache, scanner.facts = some cache → cache.entries = [])
    (textsEmpty : ∀ cache, scanner.texts = some cache → cache.entries = []) (files : Tree)
    (occurrences : List (Occurrence m)) :
    scanner.replies files occurrences = scanner.bare.replies files occurrences := by
  have mirrors : Mirrors files scanner scanner.bare :=
    ⟨rfl, rfl, rfl, .of_empty (single_factsMeaning files) factsEmpty,
      .of_empty (single_textMeaning files) textsEmpty⟩
  exact replies_of_mirrors mirrors occurrences

/-- A scanner that keeps the facts about one file for a second, and one text. -/
def forgetful : Scanner :=
  { facts := some ⟨"facts", 1, some (.whole 1), none, weighFacts, [], 0, 0, 0, 0⟩
    texts := some ⟨"texts", 1, none, some 16, weighText, [], 0, 0, 0, 0⟩ }

/-- A file is read again after its text was given up and the facts about it have expired. -/
def readAgain : List (Occurrence Id) :=
  [.ask (.read "a.txt" none), .tendTexts ⟨.trim 0, trivial⟩, .wait 5000000, .ask (.stats "a.txt"),
    .ask (.process "a.txt" (fun text => pure (.ok (text.contains 'b'))) {} true), .ask .clear,
    .ask (.read "b.txt" (some 1)), .ask (.read "a.txt" (some 1))]

theorem replies_readAgain :
    forgetful.replies (.folder [("a.txt", .file (Utf8.encodeString "ab") 0.0)]) readAgain =
      forgetful.bare.replies (.folder [("a.txt", .file (Utf8.encodeString "ab") 0.0)]) readAgain := by
  refine replies_eq_replies_bare ?_ ?_ _ readAgain
  · rintro cache ⟨⟩
    rfl
  · rintro cache ⟨⟩
    rfl

end Scanner

end BooleanSearch.Stream
