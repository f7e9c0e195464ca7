import BooleanSearch.Proofs.Cache.Entries
import BooleanSearch.Proofs.Files.ListedFiles
import BooleanSearch.Stream.Scanner

/-!
# What a scanner offers

A file in a tree is read if it is within the size limit, it can be opened as it has to be opened for
its size, and the caches of the scanner say nothing else of it.  Then the facts about it and its text
are what is in the tree, and a scan of it is a scan of its text or of its chunks.
-/

namespace BooleanSearch.Stream

open Files

/-- The caches of a scanner hold nothing about a file but what is there. -/
structure Scanner.Current (scanner : Scanner) (path : String) (bytes : Bytes) (modified : Float) :
    Prop where
  facts : ∀ cache, scanner.facts = some cache → ∀ entry ∈ cache.entries, entry.key = path →
    entry.value = factsOf (.file bytes modified)
  texts : ∀ cache, scanner.texts = some cache → ∀ entry ∈ cache.entries,
    entry.key = Scanner.versionKey path (factsOf (.file bytes modified)) →
    entry.value = Utf8.decode bytes

/-- A readable file stands at a path, the scanner knows nothing else of it, and it is not refused for its
size.  Unless it is smaller than a chunk, the spelling of the path has to lead to it as well. -/
structure Scanner.Offers (scanner : Scanner) (files : Tree) (path : String)
    (request : Scanner.Request) (bytes : Bytes) (modified : Float) : Prop where
  found : files.require (Path.ofString path) = .ok (.file bytes modified)
  opened : scanner.chunkSize request ≤ bytes.size → files.readSpelled path = .ok bytes
  current : scanner.Current path bytes modified
  small : ∀ most ∈ (request.sizeLimit <|> scanner.settings.sizeLimit), (bytes.size : Int) ≤ most

/-- The facts of a file that is not refused for its size. -/
def FileFacts.Within (facts : FileFacts) (limit : Option Int) : Prop :=
  facts.isFolder = false ∧ ∀ most ∈ limit, (facts.size : Int) ≤ most

/-- A file with some facts is not refused for its size, and it has some bytes if it is opened by the
spelling of its path, as it is unless it is smaller than a chunk. -/
structure Scanner.Passes (scanner : Scanner) (files : Tree) (path : String)
    (request : Scanner.Request) (bytes : Bytes) (facts : FileFacts) : Prop where
  within : facts.Within (request.sizeLimit <|> scanner.settings.sizeLimit)
  opened : scanner.chunkSize request ≤ facts.size → files.readSpelled path = .ok bytes

/-- A readable file stands at a path, and neither what is there nor what the scanner knows of it keeps it
from being read, be it out of date or not. -/
structure Scanner.Reads (scanner : Scanner) (files : Tree) (path : String)
    (request : Scanner.Request) (bytes : Bytes) (modified : Float) : Prop where
  found : files.require (Path.ofString path) = .ok (.file bytes modified)
  here : scanner.Passes files path request bytes (factsOf (.file bytes modified))
  known : ∀ cache, scanner.facts = some cache → ∀ entry ∈ cache.entries, entry.key = path →
    scanner.Passes files path request bytes entry.value

namespace Scanner

variable {scanner : Scanner} {files : Tree} {path : String} {request : Request} {bytes : Bytes}
  {modified : Float}

/-- Without caches there is nothing that could be out of date. -/
theorem current_of_no_caches (noFacts : scanner.facts = none) (noTexts : scanner.texts = none) :
    scanner.Current path bytes modified :=
  ⟨fun _ present => absurd (noFacts.symm.trans present) nofun,
    fun _ present => absurd (noTexts.symm.trans present) nofun⟩

theorem Offers.reads (offers : scanner.Offers files path request bytes modified) :
    scanner.Reads files path request bytes modified := by
  have here : scanner.Passes files path request bytes (factsOf (.file bytes modified)) :=
    ⟨⟨rfl, offers.small⟩, offers.opened⟩
  refine ⟨offers.found, here, fun cache held entry member key => ?_⟩
  rw [offers.current.facts cache held entry member key]
  exact here

/-! ## What the system refuses -/

section

variable {failure : Failure}

theorem answered_of_require (admissible : Tree.admissible (Path.ofString path) = true)
    (refused : files.require (Path.ofString path) = .error failure) :
    (answered? (asUnreadable path failure)).isSome := by
  unfold Tree.require at refused
  rw [if_pos admissible] at refused
  split at refused
  · cases refused
  · cases refused
    rfl

theorem answered_of_bytesAt (admissible : Tree.admissible (Path.ofString path) = true)
    (refused : bytesAt files path = .error failure) : (answered? failure).isSome := by
  unfold bytesAt at refused
  split at refused
  · cases refused
  · next reason read =>
      cases refused
      unfold Tree.read at read
      cases found : files.require (Path.ofString path) with
      | error other =>
          rw [found] at read
          cases read
          exact answered_of_require admissible found
      | ok standing =>
          rw [found] at read
          dsimp only [bind, Except.bind] at read
          split at read
          · cases read
          · cases read
            rfl

theorem answered_of_spelledBytesAt (admissible : Tree.admissible (Path.ofString path) = true)
    (refused : spelledBytesAt files path = .error failure) : (answered? failure).isSome := by
  unfold spelledBytesAt at refused
  split at refused
  · cases refused
  · next reason read =>
      cases refused
      unfold Tree.readSpelled at read
      rw [if_pos admissible] at read
      split at read
      · cases read
      · cases read
        rfl

theorem answered_of_chunks (admissible : Tree.admissible (Path.ofString path) = true) {size : Nat}
    (refused : chunks files path (.inChunks size) = .error failure) :
    (answered? failure).isSome := by
  unfold chunks at refused
  split at refused
  · next reason read =>
      cases refused
      exact answered_of_spelledBytesAt admissible read
  · cases refused

end

/-! ## Looking up -/

theorem bytesAt_of_found
    (found : files.require (Path.ofString path) = .ok (.file bytes modified)) :
    bytesAt files path = .ok bytes := by
  unfold bytesAt Tree.read
  rw [found]
  rfl

theorem spelledBytesAt_of_opened (opened : files.readSpelled path = .ok bytes) :
    spelledBytesAt files path = .ok bytes := by
  unfold spelledBytesAt
  rw [opened]

/-- The facts about a file are those in the tree, or some that the scanner knew. -/
theorem stats_of_found (property : FileFacts → Prop)
    (found : files.require (Path.ofString path) = .ok (.file bytes modified))
    (here : property (factsOf (.file bytes modified)))
    (known : ∀ cache, scanner.facts = some cache → ∀ entry ∈ cache.entries, entry.key = path →
      property entry.value) :
    ∃ facts after, scanner.stats files path = (.ok facts, after) ∧ property facts ∧
      after.texts = scanner.texts := by
  unfold stats
  rw [found]
  cases held : scanner.facts with
  | none => exact ⟨_, scanner, rfl, here, rfl⟩
  | some cache =>
      dsimp only
      split
      · next facts after looked =>
          have hit : (cache.get scanner.now path).1 = some facts := congrArg Prod.fst looked
          obtain ⟨entry, member, sameKey, sameValue⟩ := Cache.Lru.exists_entry_of_get hit
          refine ⟨_, _, rfl, ?_, rfl⟩
          rw [← sameValue]
          exact known cache held entry member sameKey
      · exact ⟨_, _, rfl, here, rfl⟩

theorem checkedStats_of_within {facts : FileFacts} {after : Scanner} {limit : Option Int}
    (looked : scanner.stats files path = (.ok facts, after))
    (within : facts.Within (limit <|> scanner.settings.sizeLimit)) :
    scanner.checkedStats files path limit = (.ok facts, after) := by
  unfold checkedStats
  rw [looked]
  dsimp only
  rw [within.1, if_neg Bool.false_ne_true]
  cases limited : (limit <|> scanner.settings.sizeLimit) with
  | none => rfl
  | some most => exact if_neg (Int.not_lt.mpr (within.2 most limited))

theorem checkedStats_of_reads (reads : scanner.Reads files path request bytes modified) :
    ∃ facts after, scanner.checkedStats files path request.sizeLimit = (.ok facts, after) ∧
      scanner.Passes files path request bytes facts := by
  obtain ⟨facts, after, looked, passes, -⟩ :=
    stats_of_found (scanner.Passes files path request bytes) reads.found reads.here reads.known
  exact ⟨facts, after, checkedStats_of_within looked passes.within, passes⟩

theorem checkedStats_of_offers (offers : scanner.Offers files path request bytes modified) :
    ∃ after, scanner.checkedStats files path request.sizeLimit =
        (.ok (factsOf (.file bytes modified)), after) ∧
      after.texts = scanner.texts := by
  obtain ⟨facts, after, looked, same, texts⟩ :=
    stats_of_found (· = factsOf (.file bytes modified)) offers.found rfl offers.current.facts
  subst same
  exact ⟨after, checkedStats_of_within looked offers.reads.here.within, texts⟩

/-- The text of the file is read, from the cache or from the tree. -/
theorem readText_of_offers (offers : scanner.Offers files path request bytes modified)
    {after : Scanner} (texts : after.texts = scanner.texts) :
    ∃ last, after.readText files path (factsOf (.file bytes modified)) =
      (.ok (Utf8.decode bytes), last) := by
  unfold readText
  rw [bytesAt_of_found offers.found, texts]
  dsimp only [Except.map]
  split
  · exact ⟨_, rfl⟩
  · next cache used =>
      have held : scanner.texts = some cache := by
        split at used
        · exact used
        · cases used
      split
      · next known last looked =>
          have hit : (cache.get after.now
              (versionKey path (factsOf (.file bytes modified)))).1 = some known :=
            congrArg Prod.fst looked
          obtain ⟨entry, member, sameKey, sameValue⟩ := Cache.Lru.exists_entry_of_get hit
          have value := offers.current.texts cache held entry member sameKey
          rw [← sameValue, value]
          exact ⟨_, rfl⟩
      · exact ⟨_, rfl⟩

/-! ## Scanning what was looked up -/

variable {m : Type → Type} [Monad m] (accepts : Matcher m)

/-- A file of at least one byte a chunk is read by chunks, unless it is smaller than one. -/
theorem reading_of_positive {chunkSize : Int} (positive : 1 ≤ chunkSize) (size : Nat) :
    reading chunkSize size =
      if (size : Int) < chunkSize then .whole else .inChunks chunkSize.toNat := by
  unfold reading
  rw [if_pos (show 0 ≤ chunkSize by omega)]

theorem chunks_of_opened (opened : files.readSpelled path = .ok bytes) (size : Nat) :
    chunks files path (.inChunks size) = .ok (chunksOf size bytes) := by
  unfold chunks
  rw [spelledBytesAt_of_opened opened]

/-- Without a failure, a scan is concluded with what it has found. -/
theorem conclude_of_sound {scan : ChunkScan} (sound : scan.failure = none) :
    conclude path scan scanner = (.ok ⟨scan.matched, scan.kept, none⟩, scanner) := by
  unfold conclude
  rw [sound]

/-- A scan of a file is a scan of its text, or of its chunks. -/
theorem process_of_offers (offers : scanner.Offers files path request bytes modified)
    (positive : 1 ≤ scanner.chunkSize request) (firstOnly : Bool) :
    ∃ last, scanner.process files path accepts request firstOnly =
      if (bytes.size : Int) < scanner.chunkSize request then
        return conclude path (← scanText accepts scanner.settings.keptChunks
          { kept := if firstOnly then none else some [] } (Utf8.decode bytes)) last
      else
        return conclude path (← scanChunks accepts
          ⟨scanner.settings.bufferLimit, scanner.settings.keptChunks, firstOnly⟩
          { kept := if firstOnly then none else some [] }
          (chunksOf (scanner.chunkSize request).toNat bytes)) last := by
  obtain ⟨after, looked, texts⟩ := checkedStats_of_offers offers
  obtain ⟨last, read⟩ := readText_of_offers offers texts
  have how : reading (scanner.chunkSize request) (factsOf (.file bytes modified)).size = _ :=
    reading_of_positive positive bytes.size
  unfold process
  rw [looked]
  dsimp only
  rw [how]
  by_cases small : (bytes.size : Int) < scanner.chunkSize request
  · rw [if_pos small]
    dsimp only
    rw [read]
    exact ⟨last, (if_pos small).symm⟩
  · rw [if_neg small]
    dsimp only
    rw [chunks_of_opened (offers.opened (Int.not_lt.mp small))]
    exact ⟨after, (if_neg small).symm⟩

/-- A scan of the lines of a file is one of its bytes, or of its chunks. -/
theorem lines_of_reads (reads : scanner.Reads files path request bytes modified)
    (positive : 1 ≤ scanner.chunkSize request) (limit : Int) :
    ∃ after : Scanner,
      (scanner.lines files path accepts request limit = do
        return (concludeLines (← scanWhole accepts limit bytes), after)) ∨
      scanner.lines files path accepts request limit = do
        return (concludeLines (← scanLines accepts limit scanner.settings.bufferLimit
          (chunksOf (scanner.chunkSize request).toNat bytes)), after) := by
  obtain ⟨facts, after, looked, passes⟩ := checkedStats_of_reads reads
  have how := reading_of_positive positive facts.size
  refine ⟨after, ?_⟩
  unfold lines
  rw [looked]
  dsimp only
  rw [how]
  by_cases small : (facts.size : Int) < scanner.chunkSize request
  · rw [if_pos small]
    dsimp only
    rw [bytesAt_of_found reads.found]
    exact Or.inl rfl
  · rw [if_neg small]
    dsimp only
    rw [chunks_of_opened (passes.opened (Int.not_lt.mp small))]
    exact Or.inr rfl

end Scanner

end BooleanSearch.Stream
