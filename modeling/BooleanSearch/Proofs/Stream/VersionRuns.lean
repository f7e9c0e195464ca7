import BooleanSearch.Proofs.Stream.Versions
import Mathlib.Data.List.Induction

/-!
# Runs in which files change

A run is a list of events: the tree changes, time passes, or something is asked of a scanner.  What a request
reads from the tree is told, or kept, together with the facts at hand.  One step shows that this is the only
thing that matters; the run follows by induction on what has been done.  A scanner without kept facts
never mixes two versions; one with them does as soon as a file changes behind them.
-/

namespace BooleanSearch.Stream

open Files

/-- A tree and a scanner of it, with what the matchers remember. -/
structure Scene (σ : Type) where
  files : Tree
  scanner : Scanner
  memory : σ

/-- What may happen: the tree becomes another, time passes, or the scanner is asked for something. -/
inductive Event (σ : Type)
  | change (files : Tree)
  | wait (clock : Nat)
  | stats (path : String)
  | read (path : String) (limit : Option Int)
  | process (path : String) (accepts : Matcher (StateM σ)) (request : Scanner.Request)
      (firstOnly : Bool)
  | lines (path : String) (accepts : Matcher (StateM σ)) (request : Scanner.Request) (limit : Int)
  | clear

/-- The tree that an event brings. -/
def Event.tree? {σ : Type} : Event σ → Option Tree
  | .change files => some files
  | _ => none

namespace Scene

variable {σ : Type}

/-- The scene after an event. -/
def perform (scene : Scene σ) : Event σ → Scene σ
  | .change files => { scene with files := files }
  | .wait clock => { scene with scanner := { scene.scanner with clock := clock } }
  | .stats path => { scene with scanner := (scene.scanner.stats scene.files path).2 }
  | .read path limit => { scene with scanner := (scene.scanner.wholeText scene.files path limit).2 }
  | .process path accepts request firstOnly =>
    let after := (scene.scanner.process scene.files path accepts request firstOnly).run scene.memory
    { scene with scanner := after.1.2, memory := after.2 }
  | .lines path accepts request limit =>
    let after := (scene.scanner.lines scene.files path accepts request limit).run scene.memory
    { scene with scanner := after.1.2, memory := after.2 }
  | .clear => { scene with scanner := scene.scanner.clear }

/-- The facts and the text that a successful reading of a file tells. -/
def told? (scene : Scene σ) : Event σ → Option (String × FileFacts × Text)
  | .read path limit =>
    match (scene.scanner.wholeText scene.files path limit).1 with
    | .ok { content := some text, error := none, facts := some facts } => some (path, facts, text)
    | _ => none
  | _ => none

/-- The text that a request reads from the tree, to be told or kept, with the facts at hand. -/
def fetched? (scene : Scene σ) : Event σ → Option (String × FileFacts × Text)
  | .read path limit =>
    match scene.scanner.checkedStats scene.files path limit with
    | (.ok facts, after) => (after.taken? scene.files path facts).map fun text => (path, facts, text)
    | _ => none
  | .process path _ request _ =>
    match scene.scanner.checkedStats scene.files path request.sizeLimit with
    | (.ok facts, after) =>
      if Scanner.reading (scene.scanner.chunkSize request) facts.size = .whole ∧
          (after.cacheFor facts).isSome then
        (after.taken? scene.files path facts).map fun text => (path, facts, text)
      else none
    | _ => none
  | _ => none

/-- What is told or fetched is of one version. -/
def OfVersion (trees : List Tree) (found : Option (String × FileFacts × Text)) : Prop :=
  ∀ path facts text, found = some (path, facts, text) → HasVersion trees path facts text

theorem ofVersion_map_iff {trees : List Tree} {path : String} {facts : FileFacts}
    {found : Option Text} :
    OfVersion trees (found.map fun text => (path, facts, text)) ↔
      ∀ text, found = some text → HasVersion trees path facts text := by
  constructor
  · intro versions text same
    exact versions path facts text (by rw [same]; rfl)
  · intro versions other otherFacts text same
    obtain ⟨read, shape, parts⟩ := Option.map_eq_some_iff.mp same
    cases parts
    exact versions text shape

/-! ## Reading a file -/

section Reading

variable {scene : Scene σ} {path : String} {limit : Option Int} {after : Scanner}

theorem read_of_ok {facts : FileFacts}
    (looked : scene.scanner.checkedStats scene.files path limit = (.ok facts, after)) :
    (scene.perform (.read path limit)).scanner = (after.readText scene.files path facts).2 ∧
      scene.told? (.read path limit) =
        (after.readText scene.files path facts).1.toOption.map fun text => (path, facts, text) := by
  unfold perform told? Scanner.wholeText
  dsimp only
  rw [looked]
  dsimp only
  rcases after.readText scene.files path facts with ⟨outcome, last⟩
  cases outcome with
  | ok text => exact ⟨rfl, rfl⟩
  | error failure =>
      dsimp only
      cases answered? failure <;> exact ⟨rfl, rfl⟩

theorem read_of_error {failure : Failure}
    (looked : scene.scanner.checkedStats scene.files path limit = (.error failure, after)) :
    (scene.perform (.read path limit)).scanner = after ∧ scene.told? (.read path limit) = none := by
  unfold perform told? Scanner.wholeText
  dsimp only
  rw [looked]
  dsimp only
  cases answered? failure <;> exact ⟨rfl, rfl⟩

theorem exists_records_process (scene : Scene σ) (path : String) (accepts : Matcher (StateM σ))
    (request : Scanner.Request) (firstOnly : Bool) :
    ∃ records, (scene.perform (.process path accepts request firstOnly)).scanner =
      { scene.scanner.opened scene.files path request with records := records } := by
  obtain ⟨scan, concluded⟩ :=
    scene.scanner.process_eq_conclude scene.files path accepts request firstOnly
  unfold perform
  dsimp only
  rw [concluded]
  exact Scanner.exists_records_conclude path _ _

theorem scanner_lines (scene : Scene σ) (path : String) (accepts : Matcher (StateM σ))
    (request : Scanner.Request) (limit : Int) :
    (scene.perform (.lines path accepts request limit)).scanner =
      (scene.scanner.stats scene.files path).2 := by
  obtain ⟨scan, concluded⟩ :=
    scene.scanner.lines_eq_conclude scene.files path accepts request limit
  unfold perform
  dsimp only
  rw [concluded]
  exact (scene.scanner.checkedStats_spec scene.files path request.sizeLimit).1

theorem texts_process (scene : Scene σ) (path : String) (accepts : Matcher (StateM σ))
    (request : Scanner.Request) (firstOnly : Bool) :
    (scene.perform (.process path accepts request firstOnly)).scanner.texts =
      (scene.scanner.opened scene.files path request).texts := by
  obtain ⟨records, left⟩ := exists_records_process scene path accepts request firstOnly
  rw [left]

theorem texts_lines (scene : Scene σ) (path : String) (accepts : Matcher (StateM σ))
    (request : Scanner.Request) (limit : Int) :
    (scene.perform (.lines path accepts request limit)).scanner.texts = scene.scanner.texts := by
  rw [scanner_lines]
  exact scene.scanner.texts_stats scene.files path

end Reading

/-! ## What an event leaves -/

/-- What a scanner may be after an event. -/
inductive ScannerAfter (scene : Scene σ) : Scanner → Prop
  | untouched (clock : Nat) : ScannerAfter scene { scene.scanner with clock := clock }
  | looked (path : String) (records : Array Log.Record) :
      ScannerAfter scene
        { (scene.scanner.stats scene.files path).2 with records := records }
  | opened (path : String) (facts : FileFacts) (records : Array Log.Record) :
      ScannerAfter scene
        { ((scene.scanner.stats scene.files path).2.readText scene.files path facts).2 with
          records := records }
  | cleared : ScannerAfter scene scene.scanner.clear

theorem scannerAfter_perform (scene : Scene σ) (event : Event σ) :
    scene.ScannerAfter (scene.perform event).scanner := by
  cases event with
  | change files => exact .untouched scene.scanner.clock
  | wait clock => exact .untouched clock
  | stats path => exact .looked path (scene.scanner.stats scene.files path).2.records
  | read path limit =>
      have same := (scene.scanner.checkedStats_spec scene.files path limit).1
      rcases looked : scene.scanner.checkedStats scene.files path limit with ⟨outcome, after⟩
      rw [looked] at same
      obtain rfl : after = (scene.scanner.stats scene.files path).2 := same
      cases outcome with
      | error failure =>
          rw [(read_of_error looked).1]
          exact .looked path (scene.scanner.stats scene.files path).2.records
      | ok facts =>
          rw [(read_of_ok looked).1]
          exact .opened path facts
            ((scene.scanner.stats scene.files path).2.readText scene.files path facts).2.records
  | process path accepts request firstOnly =>
      obtain ⟨records, left⟩ := exists_records_process scene path accepts request firstOnly
      have same := (scene.scanner.checkedStats_spec scene.files path request.sizeLimit).1
      rw [left]
      unfold Scanner.opened
      rcases looked : scene.scanner.checkedStats scene.files path request.sizeLimit with
        ⟨outcome, after⟩
      rw [looked] at same
      obtain rfl : after = (scene.scanner.stats scene.files path).2 := same
      cases outcome with
      | error failure => exact .looked path records
      | ok facts =>
          dsimp only
          split
          · exact .opened path facts records
          · exact .looked path records
  | lines path accepts request limit =>
      rw [scanner_lines]
      exact .looked path (scene.scanner.stats scene.files path).2.records
  | clear => exact .cleared

theorem roomy_perform {scene : Scene σ} (roomy : scene.scanner.Roomy) (event : Event σ) :
    (scene.perform event).scanner.Roomy := by
  have left := scene.scannerAfter_perform event
  have stats := fun path => roomy.of_texts_eq (scene.scanner.texts_stats scene.files path)
  generalize (scene.perform event).scanner = after at left ⊢
  cases left with
  | untouched clock => exact roomy
  | looked path records => exact stats path
  | opened path facts records => exact Scanner.roomy_readText (stats path)
  | cleared =>
      intro cache held
      obtain ⟨before, present, rfl⟩ := Option.map_eq_some_iff.mp held
      exact roomy before present

/-! ## Single events -/

/-- The trees that have stood so far, with the one that an event brings. -/
def treesAfter (trees : List Tree) (event : Event σ) : List Tree :=
  trees ++ event.tree?.toList

/-- An event keeps what is known of the texts and tells nothing but versions. -/
def KeepsVersions (scene : Scene σ) (trees : List Tree) (event : Event σ) : Prop :=
  (scene.perform event).scanner.TextsKnown (treesAfter trees event) ∧
    OfVersion trees (scene.told? event)

theorem read_keepsVersions_iff {scene : Scene σ} {trees : List Tree}
    (known : scene.scanner.TextsKnown trees) (path : String) (limit : Option Int) :
    scene.KeepsVersions trees (.read path limit) ↔
      OfVersion trees (scene.fetched? (.read path limit)) := by
  have same : treesAfter trees (.read path limit : Event σ) = trees := List.append_nil trees
  have texts := scene.scanner.texts_checkedStats scene.files path limit
  have checked := (scene.scanner.checkedStats_spec scene.files path limit).2
  unfold KeepsVersions
  rw [same]
  rcases looked : scene.scanner.checkedStats scene.files path limit with ⟨outcome, after⟩
  rw [looked] at texts checked
  have known := known.of_texts_eq texts
  cases outcome with
  | error failure =>
      obtain ⟨left, silent⟩ := read_of_error looked
      have nothing : scene.fetched? (.read path limit) = none := by
        unfold fetched?
        dsimp only
        rw [looked]
      rw [left, silent, nothing]
      exact iff_of_true ⟨known, nofun⟩ nofun
  | ok facts =>
      obtain ⟨left, told⟩ := read_of_ok looked
      have fetched : scene.fetched? (.read path limit) =
          (after.taken? scene.files path facts).map fun text => (path, facts, text) := by
        unfold fetched?
        dsimp only
        rw [looked]
      have file := (checked facts rfl).2
      rw [left, told, fetched, ofVersion_map_iff, ofVersion_map_iff]
      constructor
      · rintro ⟨-, versions⟩ text taken
        apply versions text
        rw [Scanner.readText_of_taken taken]
        rfl
      · intro versions
        refine ⟨Scanner.textsKnown_readText known fun _ => versions, fun text read => ?_⟩
        apply Scanner.version_of_readText known file versions
        cases outcome : (after.readText scene.files path facts).1 with
        | error failure =>
            rw [outcome] at read
            cases read
        | ok other =>
            rw [outcome] at read
            exact congrArg Except.ok (Option.some.inj read)

theorem process_keepsVersions_iff {scene : Scene σ} {trees : List Tree}
    (roomy : scene.scanner.Roomy) (known : scene.scanner.TextsKnown trees) (path : String)
    (accepts : Matcher (StateM σ)) (request : Scanner.Request) (firstOnly : Bool) :
    scene.KeepsVersions trees (.process path accepts request firstOnly) ↔
      OfVersion trees (scene.fetched? (.process path accepts request firstOnly)) := by
  have same : treesAfter trees (.process path accepts request firstOnly) = trees :=
    List.append_nil trees
  have left := texts_process scene path accepts request firstOnly
  have texts := scene.scanner.texts_checkedStats scene.files path request.sizeLimit
  have checked := (scene.scanner.checkedStats_spec scene.files path request.sizeLimit).2
  have silent : OfVersion trees (scene.told? (.process path accepts request firstOnly)) := nofun
  unfold KeepsVersions
  rw [same, and_iff_left silent]
  unfold Scanner.opened at left
  unfold fetched?
  dsimp only
  rcases looked : scene.scanner.checkedStats scene.files path request.sizeLimit with
    ⟨outcome, after⟩
  rw [looked] at left texts checked
  have roomy := roomy.of_texts_eq texts
  have known := known.of_texts_eq texts
  cases outcome with
  | error failure => exact iff_of_true (known.of_texts_eq left) nofun
  | ok facts =>
      have file := (checked facts rfl).2
      dsimp only at left ⊢
      by_cases whole : Scanner.reading (scene.scanner.chunkSize request) facts.size = .whole
      · rw [if_pos whole] at left
        by_cases used : (after.cacheFor facts).isSome
        · rw [if_pos ⟨whole, used⟩, ofVersion_map_iff]
          constructor
          · intro later text taken
            obtain ⟨cache, held, entry, member, key, value⟩ :=
              Scanner.exists_entry_of_taken roomy used taken
            rw [← value]
            exact later.version_of_entry (left.trans held) member file key
          · intro versions
            exact (Scanner.textsKnown_readText known fun _ => versions).of_texts_eq left
        · rw [if_neg fun both => used both.2]
          refine iff_of_true ?_ nofun
          exact (Scanner.textsKnown_readText known fun some => absurd some used).of_texts_eq left
      · rw [if_neg whole] at left
        rw [if_neg fun both => whole both.1]
        exact iff_of_true (known.of_texts_eq left) nofun

/-- An event keeps what is known of the texts and tells nothing but versions exactly if what it
reads from the tree, to tell or to keep it, is of a version. -/
theorem keepsVersions_iff {scene : Scene σ} {trees : List Tree} (roomy : scene.scanner.Roomy)
    (known : scene.scanner.TextsKnown trees) (event : Event σ) :
    scene.KeepsVersions trees event ↔ OfVersion trees (scene.fetched? event) := by
  cases event with
  | change files =>
      exact iff_of_true ⟨known.of_subset (List.subset_append_left _ _), nofun⟩ nofun
  | wait clock =>
      exact iff_of_true ⟨known.of_subset (List.subset_append_left _ _), nofun⟩ nofun
  | stats path =>
      have same := known.of_texts_eq (scene.scanner.texts_stats scene.files path)
      exact iff_of_true ⟨same.of_subset (List.subset_append_left _ _), nofun⟩ nofun
  | read path limit => exact read_keepsVersions_iff known path limit
  | process path accepts request firstOnly =>
      exact process_keepsVersions_iff roomy known path accepts request firstOnly
  | lines path accepts request limit =>
      have same := known.of_texts_eq (texts_lines scene path accepts request limit)
      exact iff_of_true ⟨same.of_subset (List.subset_append_left _ _), nofun⟩ nofun
  | clear =>
      refine iff_of_true ⟨?_, nofun⟩ nofun
      intro cache held entry member
      obtain ⟨before, -, rfl⟩ := Option.map_eq_some_iff.mp held
      cases member

/-! ## Scanners that keep no facts -/

theorem factless_perform {scene : Scene σ} (factless : scene.scanner.facts = none)
    (event : Event σ) : (scene.perform event).scanner.facts = none := by
  have stats : ∀ path, (scene.scanner.stats scene.files path).2.facts = none := by
    intro path
    rw [(Scanner.stats_of_factless factless scene.files path).1]
    exact factless
  have left := scene.scannerAfter_perform event
  generalize (scene.perform event).scanner = after at left ⊢
  cases left with
  | untouched clock => exact factless
  | looked path records => exact stats path
  | opened path facts records => exact Scanner.facts_readText.trans (stats path)
  | cleared =>
      unfold Scanner.clear
      rw [factless]
      rfl

theorem ofVersion_fetched_of_factless {scene : Scene σ} (factless : scene.scanner.facts = none)
    {trees : List Tree} (stood : scene.files ∈ trees) (event : Event σ) :
    OfVersion trees (scene.fetched? event) := by
  have fetched : ∀ {path limit facts after text},
      scene.scanner.checkedStats scene.files path limit = (.ok facts, after) →
      after.taken? scene.files path facts = some text → HasVersion trees path facts text := by
    intro path limit facts after text looked taken
    have version := Scanner.hasVersion_of_factless factless looked taken
    exact version.of_subset (List.cons_subset.mpr ⟨stood, List.nil_subset trees⟩)
  cases event with
  | read path limit =>
      unfold fetched?
      dsimp only
      split
      · next facts after looked => exact ofVersion_map_iff.mpr fun _ => fetched looked
      · exact nofun
  | process path accepts request firstOnly =>
      unfold fetched?
      dsimp only
      split
      · next facts after looked =>
          split
          · exact ofVersion_map_iff.mpr fun _ => fetched looked
          · exact nofun
      · exact nofun
  | change files => exact nofun
  | wait clock => exact nofun
  | stats path => exact nofun
  | lines path accepts request limit => exact nofun
  | clear => exact nofun

/-! ## Runs -/

/-- The scene after some events. -/
def run (start : Scene σ) (events : List (Event σ)) : Scene σ :=
  events.foldl perform start

/-- The trees that have stood. -/
def trees (start : Scene σ) (events : List (Event σ)) : List Tree :=
  start.files :: events.filterMap Event.tree?

theorem run_concat (start : Scene σ) (events : List (Event σ)) (event : Event σ) :
    start.run (events ++ [event]) = (start.run events).perform event :=
  List.foldl_concat perform start event events

theorem trees_concat (start : Scene σ) (events : List (Event σ)) (event : Event σ) :
    start.trees (events ++ [event]) = treesAfter (start.trees events) event := by
  unfold trees treesAfter
  rw [List.filterMap_append, List.cons_append]
  cases event <;> rfl

theorem roomy_run {start : Scene σ} (roomy : start.scanner.Roomy) (events : List (Event σ)) :
    (start.run events).scanner.Roomy := by
  induction events using List.reverseRecOn with
  | nil => exact roomy
  | append_singleton events event inductionHypothesis =>
      rw [run_concat]
      exact roomy_perform inductionHypothesis event

theorem files_run_mem_trees (start : Scene σ) (events : List (Event σ)) :
    (start.run events).files ∈ start.trees events := by
  induction events using List.reverseRecOn with
  | nil => exact List.mem_cons_self
  | append_singleton events event inductionHypothesis =>
      rw [run_concat, trees_concat]
      cases event with
      | change files => exact List.mem_append_right _ (List.mem_singleton_self files)
      | wait clock => exact List.mem_append_left _ inductionHypothesis
      | stats path => exact List.mem_append_left _ inductionHypothesis
      | read path limit => exact List.mem_append_left _ inductionHypothesis
      | process path accepts request firstOnly => exact List.mem_append_left _ inductionHypothesis
      | lines path accepts request limit => exact List.mem_append_left _ inductionHypothesis
      | clear => exact List.mem_append_left _ inductionHypothesis

theorem factless_run {start : Scene σ} (factless : start.scanner.facts = none)
    (events : List (Event σ)) : (start.run events).scanner.facts = none := by
  induction events using List.reverseRecOn with
  | nil => exact factless
  | append_singleton events event inductionHypothesis =>
      rw [run_concat]
      exact factless_perform inductionHypothesis event

/-- A scanner that keeps no facts reads nothing but versions. -/
theorem ofVersion_run_of_factless {start : Scene σ} (factless : start.scanner.facts = none)
    (done : List (Event σ)) (event : Event σ) :
    OfVersion (start.trees done) ((start.run done).fetched? event) :=
  ofVersion_fetched_of_factless (factless_run factless done) (files_run_mem_trees start done) event

/-- In a run that starts without texts, every text that is told or kept is of the version with which it is
told or kept exactly if every text that is read from the tree, to be told or kept, is of a version
with the facts at hand.  Where no two texts of a path share their time and size, that version is the only
one with these facts. -/
theorem tellsVersions_run_iff {start : Scene σ} (roomy : start.scanner.Roomy)
    (empty : ∀ cache, start.scanner.texts = some cache → cache.entries = [])
    (events : List (Event σ)) :
    ((∀ done, done <+: events → (start.run done).scanner.TextsKnown (start.trees done)) ∧
        ∀ done event, done ++ [event] <+: events →
          OfVersion (start.trees done) ((start.run done).told? event)) ↔
      ∀ done event, done ++ [event] <+: events →
        OfVersion (start.trees done) ((start.run done).fetched? event) := by
  constructor
  · rintro ⟨known, told⟩ done event part
    have before := known done ((List.prefix_append done _).trans part)
    have after := known _ part
    rw [run_concat, trees_concat] at after
    exact (keepsVersions_iff (roomy_run roomy done) before event).mp ⟨after, told done event part⟩
  · intro fetched
    have known : ∀ done, done <+: events →
        (start.run done).scanner.TextsKnown (start.trees done) := by
      intro done
      induction done using List.reverseRecOn with
      | nil =>
          intro _ cache held entry member
          rw [empty cache held] at member
          cases member
      | append_singleton done event inductionHypothesis =>
          intro part
          have before := inductionHypothesis ((List.prefix_append done _).trans part)
          rw [run_concat, trees_concat]
          exact ((keepsVersions_iff (roomy_run roomy done) before event).mpr
            (fetched done event part)).1
    refine ⟨known, fun done event part => ?_⟩
    have before := known done ((List.prefix_append done _).trans part)
    exact ((keepsVersions_iff (roomy_run roomy done) before event).mpr (fetched done event part)).2

/-- A tree with one file. -/
def oneFile (text : String) (modified : Float) : Tree :=
  .folder [("a.txt", .file (Utf8.encodeString text) modified)]

def roomForOne {ν : Type} (weigh : String → ν → Nat) : Cache.Lru String ν :=
  ⟨"sample", 1, none, none, weigh, [], 0, 0, 0, 0⟩

/-- A scanner that keeps one text, and no facts. -/
def keepsOneText : Scene Unit :=
  ⟨oneFile "aa" 1700000000.0, { texts := some (roomForOne weighText) }, ()⟩

/-- A scanner that keeps the facts about one file, and no text. -/
def keepsOneFact : Scene Unit :=
  ⟨oneFile "aa" 1700000000.0, { facts := some (roomForOne weighFacts) }, ()⟩

theorem tellsVersions_of_rewritten :
    keepsOneText.told? (.read "a.txt" none) =
        some ("a.txt", ⟨2, 1700000000.0, false⟩, Text.ofString "aa") ∧
      ∀ done event,
        done ++ [event] <+: [.read "a.txt" none, .change (oneFile "bbb" 1700000001.0),
          .read "a.txt" none] →
        OfVersion (keepsOneText.trees done) ((keepsOneText.run done).told? event) := by
  refine ⟨rfl, ?_⟩
  refine ((tellsVersions_run_iff ?_ ?_ _).mpr ?_).2
  · intro cache held
    obtain rfl := Option.some.inj held
    exact Nat.le_refl 1
  · intro cache held
    obtain rfl := Option.some.inj held
    rfl
  · exact fun done event _ => ofVersion_run_of_factless rfl done event

/-- The facts about the old text are told with the new one. -/
theorem not_tellsVersions_of_rewritten :
    (keepsOneFact.run [.stats "a.txt", .change (oneFile "bbb" 1700000001.0)]).told?
          (.read "a.txt" none) =
        some ("a.txt", ⟨2, 1700000000.0, false⟩, Text.ofString "bbb") ∧
      ¬HasVersion
        (keepsOneFact.trees [.stats "a.txt", .change (oneFile "bbb" 1700000001.0)])
        "a.txt" ⟨2, 1700000000.0, false⟩ (Text.ofString "bbb") := by
  refine ⟨rfl, ?_⟩
  rintro ⟨files, stood, bytes, modified, reading, found, facts, text⟩
  have size : 2 = bytes.size := congrArg FileFacts.size facts
  have stood : files ∈ [oneFile "aa" 1700000000.0, oneFile "bbb" 1700000001.0] := stood
  rw [List.mem_pair] at stood
  rcases stood with rfl | rfl
  · have standing : Utf8.encodeString "aa" = bytes := by
      injection found with same
      injection same
    rw [← standing] at text
    exact absurd text (by decide +kernel)
  · have standing : Utf8.encodeString "bbb" = bytes := by
      injection found with same
      injection same
    rw [← standing] at size
    exact absurd size (by decide +kernel)

end Scene

end BooleanSearch.Stream
