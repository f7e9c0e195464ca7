import BooleanSearch.Proofs.Cache.Shedding
import BooleanSearch.Proofs.Decimal.DigitTexts
import BooleanSearch.Proofs.Digest.KeyParts
import BooleanSearch.Stream.Scanner

/-!
# Versions of files

A version of a file is what stood at its path at some time.  A scanner that keeps facts may look a file up
with the facts of one version and read the text of another.  It tells both as if they were of one version,
and keeps the text under a key that names the other.

The invariant is that kept texts are those of the version that their key names.  It is kept as long as every
text that is read from the tree is the text of some version with the facts at hand, which they are if no
facts are kept.
-/

namespace BooleanSearch.Stream

open Files

/-! ## Versions -/

/-- A file with some facts and some text, readable or not, stood at a path in one of some trees. -/
def HasVersion (trees : List Tree) (path : String) (facts : FileFacts) (text : Text) : Prop :=
  ∃ files ∈ trees, ∃ bytes modified reading,
    files.require (Path.ofString path) = .ok (.file bytes modified reading) ∧
      facts = factsOf (.file bytes modified reading) ∧ text = Utf8.decode bytes

theorem HasVersion.of_subset {trees others : List Tree} {path : String} {facts : FileFacts}
    {text : Text} (version : HasVersion trees path facts text) (part : trees ⊆ others) :
    HasVersion others path facts text := by
  obtain ⟨files, member, rest⟩ := version
  exact ⟨files, part member, rest⟩

theorem HasVersion.isFolder_eq_false {trees : List Tree} {path : String} {facts : FileFacts}
    {text : Text} (version : HasVersion trees path facts text) : facts.isFolder = false := by
  obtain ⟨files, -, bytes, modified, reading, -, rfl, -⟩ := version
  rfl

theorem toList_versionKey (path : String) (facts : FileFacts) :
    (Scanner.versionKey path facts).toList =
      (path.toList ++ ':' :: (Decimal.shortest facts.modified).toList) ++
        ':' :: (toString facts.size).toList := by
  simp [Scanner.versionKey]

/-- The key of a version tells its path, its time and its size. -/
theorem versionKey_inj {path other : String} {facts otherFacts : FileFacts}
    (same : Scanner.versionKey path facts = Scanner.versionKey other otherFacts) :
    path = other ∧ facts.modified = otherFacts.modified ∧ facts.size = otherFacts.size := by
  have texts := congrArg String.toList same
  rw [toList_versionKey, toList_versionKey] at texts
  have digits : ∀ number : Nat, ':' ∉ (toString number).toList :=
    fun number => colon_not_mem_toString number
  obtain ⟨fronts, sizes⟩ := lastPart_inj (digits _) (digits _) texts
  obtain ⟨paths, times⟩ := lastPart_inj (Decimal.colon_not_mem_shortest _)
    (Decimal.colon_not_mem_shortest _) fronts
  refine ⟨String.toList_injective paths,
    Decimal.shortest_injective (String.toList_injective times), ?_⟩
  have amounts := congrArg (fun chars => Nat.ofDigitChars 10 chars 0) sizes
  simpa [Nat.toString_eq_repr] using amounts

namespace Scanner

/-- The cache in which the text of a file with some facts is looked up. -/
def cacheFor (scanner : Scanner) (facts : FileFacts) : Option (Cache.Lru String Text) :=
  if facts.size ≤ scanner.settings.cachedSize then scanner.texts else none

/-- The text that is read from the tree, unless it is found in a cache. -/
def taken? (scanner : Scanner) (files : Tree) (path : String) (facts : FileFacts) : Option Text :=
  let found := (scanner.cacheFor facts).bind fun cache =>
    (cache.get scanner.now (versionKey path facts)).1
  if found.isSome then none else ((bytesAt files path).map Utf8.decode).toOption

/-! ## Looking texts up -/

theorem texts_of_cacheFor {scanner : Scanner} {facts : FileFacts} {cache : Cache.Lru String Text}
    (used : scanner.cacheFor facts = some cache) : scanner.texts = some cache := by
  unfold cacheFor at used
  split at used
  · exact used
  · cases used

/-- What may come of looking a text up. -/
inductive TextRead (scanner : Scanner) (files : Tree) (path : String) (facts : FileFacts) :
    Except Failure Text × Scanner → Prop
  | uncached (text : Text) (unused : scanner.cacheFor facts = none)
      (taken : scanner.taken? files path facts = some text) :
      TextRead scanner files path facts (.ok text, scanner)
  | kept (cache : Cache.Lru String Text) (text : Text) (used : scanner.cacheFor facts = some cache)
      (taken : scanner.taken? files path facts = some text) :
      TextRead scanner files path facts
        (.ok text, scanner.keepTexts ((cache.get scanner.now (versionKey path facts)).2.set
          scanner.now (versionKey path facts) text))
  | hit (cache : Cache.Lru String Text) (known : Text) (used : scanner.cacheFor facts = some cache)
      (found : (cache.get scanner.now (versionKey path facts)).1 = some known)
      (free : scanner.taken? files path facts = none) :
      TextRead scanner files path facts
        (.ok known, scanner.keepTexts (cache.get scanner.now (versionKey path facts)).2)
  | refused (failure : Failure) (free : scanner.taken? files path facts = none) :
      TextRead scanner files path facts (.error failure, scanner)
  | missed (cache : Cache.Lru String Text) (failure : Failure)
      (used : scanner.cacheFor facts = some cache)
      (free : scanner.taken? files path facts = none) :
      TextRead scanner files path facts
        (.error failure, scanner.keepTexts (cache.get scanner.now (versionKey path facts)).2)

theorem textRead_readText (scanner : Scanner) (files : Tree) (path : String) (facts : FileFacts) :
    scanner.TextRead files path facts (scanner.readText files path facts) := by
  have same : (if facts.size ≤ scanner.settings.cachedSize then scanner.texts else none) =
      scanner.cacheFor facts := rfl
  unfold readText
  rw [same]
  cases used : scanner.cacheFor facts with
  | none =>
      cases read : bytesAt files path with
      | error failure =>
          exact .refused failure (by simp [taken?, used, read, Except.map, Except.toOption])
      | ok bytes =>
          exact .uncached _ used (by simp [taken?, used, read, Except.map, Except.toOption])
  | some cache =>
      rcases looked : cache.get scanner.now (versionKey path facts) with ⟨found, after⟩
      have first : (cache.get scanner.now (versionKey path facts)).1 = found := by rw [looked]
      have second : (cache.get scanner.now (versionKey path facts)).2 = after := by rw [looked]
      dsimp only
      rw [looked, ← second]
      cases found with
      | some known => exact .hit cache known used first (by simp [taken?, used, first])
      | none =>
          cases read : bytesAt files path with
          | error failure =>
              exact .missed cache failure used
                (by simp [taken?, used, read, Except.map, Except.toOption])
          | ok bytes =>
              exact .kept cache _ used
                (by simp [taken?, used, first, read, Except.map, Except.toOption])

/-! ## What kept texts are -/

/-- The texts that a scanner keeps are those of the versions that their keys name. -/
def TextsKnown (scanner : Scanner) (trees : List Tree) : Prop :=
  ∀ cache, scanner.texts = some cache → ∀ entry ∈ cache.entries, ∃ path facts,
    entry.key = versionKey path facts ∧ HasVersion trees path facts entry.value

/-- There is room for a text, if texts are kept at all. -/
def Roomy (scanner : Scanner) : Prop :=
  ∀ cache, scanner.texts = some cache → 1 ≤ cache.capacity

theorem TextsKnown.of_subset {scanner : Scanner} {trees others : List Tree}
    (known : scanner.TextsKnown trees) (part : trees ⊆ others) : scanner.TextsKnown others := by
  intro cache held entry member
  obtain ⟨path, facts, key, version⟩ := known cache held entry member
  exact ⟨path, facts, key, version.of_subset part⟩

theorem TextsKnown.of_texts_eq {scanner other : Scanner} {trees : List Tree}
    (known : scanner.TextsKnown trees) (same : other.texts = scanner.texts) :
    other.TextsKnown trees := by
  unfold TextsKnown
  rw [same]
  exact known

theorem Roomy.of_texts_eq {scanner other : Scanner} (roomy : scanner.Roomy)
    (same : other.texts = scanner.texts) : other.Roomy := by
  unfold Roomy
  rw [same]
  exact roomy

/-- A text that is kept under the key of a file with some facts is of that version. -/
theorem TextsKnown.version_of_entry {scanner : Scanner} {trees : List Tree}
    (known : scanner.TextsKnown trees) {cache : Cache.Lru String Text}
    (held : scanner.texts = some cache) {entry : Cache.Entry String Text}
    (member : entry ∈ cache.entries) {path : String} {facts : FileFacts}
    (file : facts.isFolder = false) (key : entry.key = versionKey path facts) :
    HasVersion trees path facts entry.value := by
  obtain ⟨other, otherFacts, otherKey, version⟩ := known cache held entry member
  obtain ⟨rfl, times, sizes⟩ := versionKey_inj (key.symm.trans otherKey)
  have otherFile := version.isFolder_eq_false
  have same : facts = otherFacts := by
    cases facts
    cases otherFacts
    rw [FileFacts.mk.injEq]
    exact ⟨sizes, times, file.trans otherFile.symm⟩
  rw [same]
  exact version

section Reading

variable {scanner : Scanner} {files : Tree} {trees : List Tree} {path : String} {facts : FileFacts}

/-- Looking a text up keeps what is known of the texts, if what is read and kept is of a version. -/
theorem textsKnown_readText (known : scanner.TextsKnown trees)
    (fetched : (scanner.cacheFor facts).isSome → ∀ text,
      scanner.taken? files path facts = some text → HasVersion trees path facts text) :
    (scanner.readText files path facts).2.TextsKnown trees := by
  have read := scanner.textRead_readText files path facts
  have looked : ∀ cache, scanner.cacheFor facts = some cache →
      (scanner.keepTexts (cache.get scanner.now (versionKey path facts)).2).TextsKnown trees := by
    intro cache used after held entry member
    obtain rfl := Option.some.inj held
    exact known cache (texts_of_cacheFor used) entry (Cache.Lru.mem_entries_of_mem_get member)
  generalize scanner.readText files path facts = result at read ⊢
  cases read with
  | uncached text unused taken => exact known
  | refused failure free => exact known
  | hit cache text used found free => exact looked cache used
  | missed cache failure used free => exact looked cache used
  | kept cache text used taken =>
      intro after held entry member
      obtain rfl := Option.some.inj held
      rcases Cache.Lru.mem_entries_of_mem_set member with old | ⟨key, value⟩
      · exact looked cache used _ rfl entry old
      · refine ⟨path, facts, key, ?_⟩
        rw [value]
        exact fetched (by rw [used]; rfl) text taken

theorem roomy_readText (roomy : scanner.Roomy) : (scanner.readText files path facts).2.Roomy := by
  have read := scanner.textRead_readText files path facts
  generalize scanner.readText files path facts = result at read ⊢
  have looked : ∀ cache, scanner.cacheFor facts = some cache →
      1 ≤ (cache.get scanner.now (versionKey path facts)).2.capacity := by
    intro cache used
    rw [(Cache.Lru.sheds_get cache _ _).capacity]
    exact roomy cache (texts_of_cacheFor used)
  cases read with
  | uncached text unused taken => exact roomy
  | refused failure free => exact roomy
  | hit cache text used found free =>
      intro after held
      obtain rfl := Option.some.inj held
      exact looked cache used
  | missed cache failure used free =>
      intro after held
      obtain rfl := Option.some.inj held
      exact looked cache used
  | kept cache text used taken =>
      intro after held
      obtain rfl := Option.some.inj held
      rw [Cache.Lru.capacity_set]
      exact looked cache used

theorem facts_readText : (scanner.readText files path facts).2.facts = scanner.facts := by
  have read := scanner.textRead_readText files path facts
  generalize scanner.readText files path facts = result at read ⊢
  cases read <;> rfl

/-- A text that is looked up is of the version with the facts at hand, if what is read is. -/
theorem version_of_readText (known : scanner.TextsKnown trees) (file : facts.isFolder = false)
    (fetched : ∀ text, scanner.taken? files path facts = some text →
      HasVersion trees path facts text) {text : Text}
    (told : (scanner.readText files path facts).1 = .ok text) :
    HasVersion trees path facts text := by
  have read := scanner.textRead_readText files path facts
  generalize scanner.readText files path facts = result at read told
  cases read with
  | uncached other unused taken =>
      cases told
      exact fetched text taken
  | refused failure free => cases told
  | hit cache other used found free =>
      cases told
      obtain ⟨entry, member, key, value⟩ := Cache.Lru.exists_entry_of_get found
      rw [← value]
      exact known.version_of_entry (texts_of_cacheFor used) member file key
  | missed cache failure used free => cases told
  | kept cache other used taken =>
      cases told
      exact fetched text taken

/-- What is read from the tree is told. -/
theorem readText_of_taken {text : Text} (taken : scanner.taken? files path facts = some text) :
    (scanner.readText files path facts).1 = .ok text := by
  have read := scanner.textRead_readText files path facts
  generalize scanner.readText files path facts = result at read
  cases read with
  | uncached other unused otherTaken => rw [Option.some.inj (taken.symm.trans otherTaken)]
  | kept cache other used otherTaken => rw [Option.some.inj (taken.symm.trans otherTaken)]
  | refused failure free => exact nomatch taken.symm.trans free
  | hit cache other used found free => exact nomatch taken.symm.trans free
  | missed cache failure used free => exact nomatch taken.symm.trans free

/-- What is read from the tree and may be kept is kept. -/
theorem exists_entry_of_taken (roomy : scanner.Roomy) (used : (scanner.cacheFor facts).isSome)
    {text : Text} (taken : scanner.taken? files path facts = some text) :
    ∃ cache, (scanner.readText files path facts).2.texts = some cache ∧
      ∃ entry ∈ cache.entries, entry.key = versionKey path facts ∧ entry.value = text := by
  have read := scanner.textRead_readText files path facts
  generalize scanner.readText files path facts = result at read
  cases read with
  | uncached other unused otherTaken =>
      rw [unused] at used
      cases used
  | kept cache other found otherTaken =>
      have room : 1 ≤ (cache.get scanner.now (versionKey path facts)).2.capacity := by
        rw [(Cache.Lru.sheds_get cache _ _).capacity]
        exact roomy cache (texts_of_cacheFor found)
      obtain ⟨entry, newest, key, value⟩ :=
        Cache.Lru.exists_newest_set room scanner.now (versionKey path facts) other
      exact ⟨_, rfl, entry, newest.mem, key,
        value.trans (Option.some.inj (otherTaken.symm.trans taken))⟩
  | refused failure free => exact nomatch taken.symm.trans free
  | hit cache other used found free => exact nomatch taken.symm.trans free
  | missed cache failure used free => exact nomatch taken.symm.trans free

end Reading

/-! ## Facts -/

theorem texts_stats (scanner : Scanner) (files : Tree) (path : String) :
    (scanner.stats files path).2.texts = scanner.texts := by
  unfold stats
  dsimp only
  split
  · rfl
  · split
    · rfl
    · split <;> rfl

/-- A file is looked up as it stands if no facts are kept. -/
theorem stats_of_factless {scanner : Scanner} (factless : scanner.facts = none) (files : Tree)
    (path : String) :
    (scanner.stats files path).2 = scanner ∧
      ∀ facts, (scanner.stats files path).1 = .ok facts →
        ∃ found, files.require (Path.ofString path) = .ok found ∧ facts = factsOf found := by
  unfold stats
  dsimp only
  rw [factless]
  refine ⟨rfl, ?_⟩
  intro facts told
  cases found : files.require (Path.ofString path) with
  | error failure =>
      rw [found] at told
      cases told
  | ok standing =>
      rw [found] at told
      exact ⟨standing, rfl, (Except.ok.inj told).symm⟩

/-- A file that may be read has the facts that were looked up, and they are not those of a folder. -/
theorem checkedStats_spec (scanner : Scanner) (files : Tree) (path : String) (limit : Option Int) :
    (scanner.checkedStats files path limit).2 = (scanner.stats files path).2 ∧
      ∀ facts, (scanner.checkedStats files path limit).1 = .ok facts →
        (scanner.stats files path).1 = .ok facts ∧ facts.isFolder = false := by
  unfold checkedStats
  rcases scanner.stats files path with ⟨outcome, after⟩
  cases outcome with
  | error failure => exact ⟨rfl, nofun⟩
  | ok known =>
      by_cases folder : known.isFolder = true
      · simp only [folder, if_true]
        exact ⟨trivial, nofun⟩
      · have file : known.isFolder = false := by simpa using folder
        simp only [file, Bool.false_eq_true, if_false]
        have told : ∀ facts, (Except.ok known : Except Failure FileFacts) = .ok facts →
            (Except.ok known : Except Failure FileFacts) = .ok facts ∧ facts.isFolder = false :=
          fun facts same => ⟨same, Except.ok.inj same ▸ file⟩
        split
        · exact ⟨rfl, told⟩
        · split
          · exact ⟨rfl, nofun⟩
          · exact ⟨rfl, told⟩

theorem texts_checkedStats (scanner : Scanner) (files : Tree) (path : String) (limit : Option Int) :
    (scanner.checkedStats files path limit).2.texts = scanner.texts := by
  rw [(checkedStats_spec scanner files path limit).1]
  exact texts_stats scanner files path

/-- Without kept facts, what is read is what the facts at hand are about. -/
theorem hasVersion_of_factless {scanner after : Scanner} (factless : scanner.facts = none)
    {files : Tree} {path : String} {limit : Option Int} {facts : FileFacts}
    (looked : scanner.checkedStats files path limit = (.ok facts, after)) {text : Text}
    (taken : after.taken? files path facts = some text) : HasVersion [files] path facts text := by
  have checked := (scanner.checkedStats_spec files path limit).2 facts (by rw [looked])
  obtain ⟨standing, found, rfl⟩ := (stats_of_factless factless files path).2 facts checked.1
  cases standing with
  | folder entries refused => exact nomatch checked.2
  | file bytes modified reading =>
      refine ⟨files, List.mem_singleton_self files, bytes, modified, reading, found, rfl, ?_⟩
      unfold taken? bytesAt Tree.read at taken
      rw [found] at taken
      dsimp only [bind, Except.bind] at taken
      split at taken
      · cases taken
      · cases reading with
        | some refusal => cases taken
        | none => exact (Option.some.inj taken).symm

/-! ## Requests -/

/-- The scanner after a request for chunks, but for its reports: what it looks up does not depend on the
matcher. -/
def opened (scanner : Scanner) (files : Tree) (path : String) (request : Request) : Scanner :=
  match scanner.checkedStats files path request.sizeLimit with
  | (.error _, after) => after
  | (.ok facts, after) =>
    if reading (scanner.chunkSize request) facts.size = .whole then
      (after.readText files path facts).2
    else after

variable {m : Type → Type} [Monad m] [LawfulMonad m]

/-- What is concluded without a scan is concluded from one. -/
theorem exists_scan {α β : Type} (result : α → β) (scan : α) :
    ∃ step : m α, (pure (result scan) : m β) = (do return result (← step)) :=
  ⟨pure scan, (pure_bind scan fun found => pure (result found)).symm⟩

theorem process_eq_conclude (scanner : Scanner) (files : Tree) (path : String) (accepts : Matcher m)
    (request : Request) (firstOnly : Bool) :
    ∃ scan : m ChunkScan, scanner.process files path accepts request firstOnly =
      (do return conclude path (← scan) (scanner.opened files path request)) := by
  unfold process opened
  rcases scanner.checkedStats files path request.sizeLimit with ⟨outcome, after⟩
  cases outcome with
  | error failure => exact exists_scan (conclude path · after) _
  | ok facts =>
      dsimp only
      split
      · next whole =>
          rw [if_pos whole]
          rcases after.readText files path facts with ⟨text, last⟩
          cases text with
          | error failure => exact exists_scan (conclude path · last) _
          | ok text => exact ⟨_, rfl⟩
      · next parted =>
          rw [if_neg parted]
          split
          · exact exists_scan (conclude path · after) _
          · exact ⟨_, rfl⟩

/-- Only the reports are changed by a conclusion. -/
theorem exists_records_conclude (path : String) (scan : ChunkScan) (scanner : Scanner) :
    ∃ records, (conclude path scan scanner).2 = { scanner with records := records } := by
  unfold conclude
  split
  · exact ⟨scanner.records, rfl⟩
  · split
    · exact ⟨scanner.records, rfl⟩
    · exact ⟨_, rfl⟩

theorem lines_eq_conclude (scanner : Scanner) (files : Tree) (path : String) (accepts : Matcher m)
    (request : Request) (limit : Int) :
    ∃ scan : m LineScan, scanner.lines files path accepts request limit =
      (do return (concludeLines (← scan),
        (scanner.checkedStats files path request.sizeLimit).2)) := by
  unfold lines
  rcases scanner.checkedStats files path request.sizeLimit with ⟨outcome, after⟩
  cases outcome with
  | error failure => exact exists_scan (fun scan => (concludeLines scan, after)) _
  | ok facts =>
      dsimp only
      split
      · split
        · exact exists_scan (fun scan => (concludeLines scan, after)) _
        · exact ⟨_, rfl⟩
      · split
        · exact exists_scan (fun scan => (concludeLines scan, after)) _
        · exact ⟨_, rfl⟩

end Scanner

end BooleanSearch.Stream
