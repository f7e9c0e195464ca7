import BooleanSearch.Config.Load
import BooleanSearch.Proofs.Stream.ChunkScan

/-!
# Settings that were read

Settings come from plain data, and the environment may override some of them.  Whatever the data, the
settings of streaming are within their bounds: a number that is not is refused, the default is put in its
place, and the default is within the bounds.
-/

namespace BooleanSearch.Config

open BooleanSearch.Stream (Ensures)

/-- Settings as a search tool gets them: read without issues, and possibly overridden. -/
inductive Settings.Valid : Settings → Prop
  | read {data : Value} {settings : Settings} (given : validate data = .ok settings) :
      Settings.Valid settings
  | override (environment : Environment) {settings : Settings} :
      Settings.Valid settings → Settings.Valid (override environment settings)

theorem Settings.valid_default : Settings.Valid {} :=
  .read (show validate (.dict []) = .ok {} from rfl)

theorem valid_of_readSettings {files : Files.Tree} {environment : Environment} {path : Files.Path}
    {settings : Settings}
    (given : (readSettings files path).map (override environment) = .ok settings) :
    settings.Valid := by
  cases loaded : readSettings files path with
  | error failure =>
      rw [loaded] at given
      cases given
  | ok found =>
      rw [loaded] at given
      cases given
      unfold readSettings at loaded
      split at loaded
      · cases loaded
      · next bytes _ =>
          cases document : readDocument path bytes with
          | error failure =>
              rw [document] at loaded
              cases loaded
          | ok data =>
              rw [document] at loaded
              dsimp only [Bind.bind, Except.bind] at loaded
              split at loaded
              · next validated =>
                  cases loaded
                  exact .override environment (.read validated)
              · cases loaded

/-- Settings that are loaded are valid, be they from a document or the defaults. -/
theorem valid_of_load {files : Files.Tree} {environment : Environment} {path : Files.Path}
    {create : Bool} {now : Float} {settings : Settings}
    (given : (load files environment path create now).1 = .ok settings) : settings.Valid := by
  unfold load at given
  dsimp only at given
  split at given
  · cases given
  · exact valid_of_readSettings given
  · split at given
    · split at given
      · exact valid_of_readSettings given
      · cases given
    · cases given
      exact .override environment Settings.valid_default

/-- The bounds of the settings of streaming. -/
structure StreamingSettings.InBounds (settings : StreamingSettings) : Prop where
  chunkSize : 0 < settings.chunkSize
  sizeLimit : ∀ most ∈ settings.sizeLimit, 0 < most
  bufferLimit : 0 < settings.bufferLimit
  lineLimit : 0 < settings.lineLimit
  keptChunks : 0 ≤ settings.keptChunks

theorem StreamingSettings.inBounds_default : StreamingSettings.InBounds {} :=
  ⟨by decide, by decide, by decide, by decide, by decide⟩

/-! ## Readers -/

/-- A number that passes a check has what is checked. -/
theorem holds_of_checked {property : Int → Prop} [DecidablePred property] {step : Reading Int}
    {complaint : Complaint} {number : Int}
    (given : (do
      let found ← step
      if property found then pure found else throw complaint) = Except.ok number) :
    property number := by
  cases step with
  | error failure => cases given
  | ok found =>
      by_cases passed : property found
      · cases (if_pos passed).symm.trans given
        exact passed
      · cases (if_neg passed).symm.trans given

theorem lt_of_wholeAbove {bound : Nat} {value : Value} {number : Int}
    (given : wholeAbove bound value = .ok number) : (bound : Int) < number := by
  unfold wholeAbove at given
  exact holds_of_checked given

theorem le_of_wholeFrom {bound : Nat} {value : Value} {number : Int}
    (given : wholeFrom bound value = .ok number) : (bound : Int) ≤ number := by
  unfold wholeFrom at given
  exact holds_of_checked given

theorem readOptional_spec {α : Type} {property : α → Prop} {read : Value → Reading α}
    (reads : ∀ value found, read value = .ok found → property found) {value : Value}
    {found : Option α} (given : readOptional read value = .ok found) :
    ∀ present ∈ found, property present := by
  unfold readOptional at given
  split at given
  · cases given
    exact nofun
  · cases taken : read value with
    | error complaint =>
        rw [taken] at given
        cases given
    | ok present =>
        rw [taken] at given
        cases given
        intro other same
        cases same
        exact reads value present taken

/-! ## Sections -/

theorem ensures_any {σ α : Type} (step : StateM σ α) :
    Ensures (fun _ => True) step fun _ => True :=
  fun _ _ => ⟨trivial, trivial⟩

/-- A setting that is read has a property that the default has and that its reader sees to. -/
theorem ensures_setting {α : Type} {property : α → Prop} (within : Section) (name : String)
    {default : α} {read : Value → Reading α} (base : property default)
    (reads : ∀ value found, read value = .ok found → property found) :
    Ensures (fun _ => True) (within.setting name default read) property := by
  unfold Section.setting
  split
  · exact Ensures.pure base
  · next value _ =>
      split
      · next found taken => exact Ensures.pure (reads value found taken)
      · exact Ensures.bind (ensures_any _) fun _ _ => Ensures.pure base

theorem ensures_readStreaming (within : Section) :
    Ensures (fun _ => True) (readStreaming within) StreamingSettings.InBounds := by
  have base := StreamingSettings.inBounds_default
  have above : ∀ value (found : Int), wholeAbove 0 value = .ok found → 0 < found :=
    fun _ _ => lt_of_wholeAbove
  unfold readStreaming
  refine Ensures.bind (ensures_setting within _ base.chunkSize above) fun chunkSize inChunk => ?_
  refine Ensures.bind (ensures_setting within _ base.sizeLimit fun _ _ => readOptional_spec above)
    fun sizeLimit inSize => ?_
  refine Ensures.bind (ensures_setting within _ base.bufferLimit above)
    fun bufferLimit inBuffer => ?_
  refine Ensures.bind (ensures_setting within _ base.lineLimit above) fun lineLimit inLines => ?_
  refine Ensures.bind (ensures_setting within _ base.keptChunks fun _ _ => le_of_wholeFrom)
    fun keptChunks inKept => ?_
  refine Ensures.bind (ensures_any _) fun firstOnly _ => ?_
  exact Ensures.pure ⟨inChunk, inSize, inBuffer, inLines, inKept⟩

theorem ensures_readSection {α : Type} {property : α → Prop} (entries : List (Value × Value))
    (name model : String) {base : α} {read : Section → Gathering α} (holds : property base)
    (reads : ∀ within, Ensures (fun _ => True) (read within) property) :
    Ensures (fun _ => True) (readSection entries name model base read) property := by
  unfold readSection
  split
  · exact Ensures.pure holds
  · exact reads _
  · exact Ensures.bind (ensures_any _) fun _ _ => Ensures.pure holds

theorem ensures_readSections (entries : List (Value × Value)) :
    Ensures (fun _ => True) (readSections entries) fun settings =>
      settings.streaming.InBounds := by
  unfold readSections
  refine Ensures.bind (ensures_any _) fun search _ => ?_
  refine Ensures.bind (ensures_readSection entries _ _ StreamingSettings.inBounds_default
    ensures_readStreaming) fun streaming inBounds => ?_
  refine Ensures.bind (ensures_any _) fun cache _ => ?_
  refine Ensures.bind (ensures_any _) fun memory _ => ?_
  refine Ensures.bind (ensures_any _) fun output _ => ?_
  refine Ensures.bind (ensures_any _) fun logging _ => ?_
  exact Ensures.pure inBounds

theorem inBounds_of_validate {data : Value} {settings : Settings}
    (given : validate data = .ok settings) : settings.streaming.InBounds := by
  unfold validate at given
  split at given
  · next entries =>
      have inBounds := (ensures_readSections entries [] trivial).1
      split at given
      next found issues read =>
      split at given
      · cases given
        have same : ((readSections entries).run []).1 = settings := congrArg Prod.fst read
        rwa [same] at inBounds
      · cases given
  · cases given

/-- The environment overrides no setting of streaming. -/
theorem Settings.Valid.inBounds {settings : Settings} (valid : settings.Valid) :
    settings.streaming.InBounds := by
  induction valid with
  | read given => exact inBounds_of_validate given
  | override environment _ inductionHypothesis => exact inductionHypothesis

end BooleanSearch.Config
