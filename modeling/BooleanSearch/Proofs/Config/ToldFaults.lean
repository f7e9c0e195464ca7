import BooleanSearch.Config.Load
import BooleanSearch.Proofs.Text.SoundBytes
import BooleanSearch.Proofs.Toml.RefusedDigits

/-!
# What is told of a bad document

Loading the document at a path gives settings, or an error of the configuration that tells what is
wrong with it.  It fails in another way exactly if the bytes are not those of a text, or if a whole
number with more digits than are read is due in the text.
-/

namespace BooleanSearch.Config

open Files

/-- Settings, an error of the configuration, or what is wrong with the settings. -/
def Told : Except LoadFailure Settings → Prop
  | .ok _ => True
  | .error (.invalid _) => True
  | .error (.failure failure) => ∃ error, failure = .error error ∧ error.category = .config

/-- The bytes are those of a text, and no whole number with too many digits is due in its lines. -/
def Readable (bytes : Bytes) : Prop :=
  ∃ text : String, bytes = Utf8.encodeString text ∧
    ∀ count, ¬ Toml.LongNumberDue (Toml.unifyLineEnds text.toList) count

/-! ## Bytes of documents -/

theorem exists_encodeString_iff {bytes : Bytes} :
    Utf8.firstFault? bytes = none ↔ ∃ text : String, bytes = Utf8.encodeString text := by
  rw [Utf8.firstFault?_eq_none_iff]
  constructor
  · rintro ⟨text, rfl⟩
    exact ⟨text.toString, by simp [Utf8.encodeString, Text.ofString, Text.toString]⟩
  · rintro ⟨text, rfl⟩
    exact ⟨_, rfl⟩

theorem toString_decode_encodeString (text : String) :
    (Utf8.decode (Utf8.encodeString text)).toString = text := by
  unfold Utf8.encodeString
  rw [Utf8.decode_encode]
  simp [Text.ofString, Text.toString]

theorem encodeString_injective {first second : String}
    (same : Utf8.encodeString first = Utf8.encodeString second) : first = second := by
  rw [← toString_decode_encodeString first, same, toString_decode_encodeString]

/-- The bytes of a text are read as its document. -/
theorem readDocument_encodeString (path : Path) (text : String) :
    readDocument path (Utf8.encodeString text) =
      match Toml.read text with
      | .ok data => .ok data
      | .error (.malformed reason) => .error (documentError "load config from" path reason)
      | .error (.tooManyDigits count) =>
        .error (.failure (.badValue (Text.tooManyDigits count))) := by
  unfold readDocument
  rw [exists_encodeString_iff.mpr ⟨text, rfl⟩]
  have decoded := toString_decode_encodeString text
  dsimp only
  generalize (Utf8.decode (Utf8.encodeString text)).toString = found at decoded ⊢
  subst decoded
  rfl

theorem readable_encodeString_iff {text : String} : Readable (Utf8.encodeString text) ↔
    ∀ count, Toml.read text ≠ .error (.tooManyDigits count) := by
  simp only [Ne, Toml.read_eq_tooManyDigits_iff]
  constructor
  · rintro ⟨other, same, none⟩
    rwa [encodeString_injective same]
  · exact fun none => ⟨text, rfl, none⟩

theorem unifyLineEnds_of_not_mem {chars : List Char} (none : '\r' ∉ chars) :
    Toml.unifyLineEnds chars = chars := by
  fun_induction Toml.unifyLineEnds chars with
  | case1 rest => exact absurd List.mem_cons_self none
  | case2 char rest _ inductionHypothesis =>
      rw [inductionHypothesis fun inside => none (List.mem_cons_of_mem char inside)]
  | case3 => rfl

/-- A document is not readable if its only line gives a name a number with too many digits. -/
theorem not_readable_of_digits {name digits : List Char} {first : Char} (some_ : name ≠ [])
    (bare : ∀ char ∈ name, Toml.isBareKey char = true) (digit : Toml.isDecimal first = true)
    (notZero : first ≠ '0') (all : ∀ char ∈ digits, Toml.isDecimal char = true)
    (long : Text.digitLimit ≤ digits.length) :
    ¬ Readable (Utf8.encodeString (String.ofList (name ++ '=' :: first :: digits))) := by
  have noReturn : '\r' ∉ name ++ '=' :: first :: digits := by
    simp only [List.mem_append, List.mem_cons, not_or]
    refine ⟨fun inside => ?_, by decide, ?_, fun inside => ?_⟩
    · cases bare _ inside
    · rintro rfl
      cases digit
    · cases all _ inside
  have due := Toml.longNumberDue_of_name some_ bare digit notZero all long
  intro readable
  refine readable_encodeString_iff.mp readable (digits.length + 1)
    (Toml.read_eq_tooManyDigits_iff.mpr ?_)
  rwa [String.toList_ofList, unifyLineEnds_of_not_mem noReturn]

/-! ## Loading -/

theorem present_of_read {files : Tree} {path : Path} {bytes : Bytes}
    (there : files.read path = .ok bytes) : files.present path = .ok true := by
  unfold Tree.read Tree.require at there
  unfold Tree.present
  split at there
  · next admitted =>
      rw [if_pos admitted]
      cases found : files.find path with
      | ok inside => rfl
      | error fault =>
          rw [found] at there
          cases there
  · cases there

/-- Loading the document at a path, from its bytes. -/
theorem load_of_read {files : Tree} {path : Path} {bytes : Bytes}
    (there : files.read path = .ok bytes) (environment : Environment) (create : Bool)
    (now : Float) : (load files environment path create now).1 =
      match readDocument path bytes with
      | .error failure => .error failure
      | .ok data =>
        match validate data with
        | .ok settings => .ok (override environment settings)
        | .error issues => .error (.invalid issues) := by
  unfold load
  rw [present_of_read there]
  dsimp only
  unfold readSettings
  rw [there]
  dsimp only
  cases readDocument path bytes with
  | error failure => rfl
  | ok data =>
      dsimp only [Bind.bind, Except.bind]
      cases validate data <;> rfl

section

variable {files : Tree} {path : Path} {bytes : Bytes} {environment : Environment} {create : Bool}
  {now : Float}

/-- What loading the bytes of a text gives. -/
inductive Loaded (environment : Environment) (path : Path) (text : String) :
    Except LoadFailure Settings → Prop
  | settings {data : Value} {settings : Settings} : Toml.read text = .ok data →
      validate data = .ok settings →
      Loaded environment path text (.ok (override environment settings))
  | invalid {data : Value} {issues : List Issue} : Toml.read text = .ok data →
      validate data = .error issues → Loaded environment path text (.error (.invalid issues))
  | malformed {reason : String} : Toml.read text = .error (.malformed reason) →
      Loaded environment path text (.error (documentError "load config from" path reason))
  | tooManyDigits {count : Nat} : Toml.read text = .error (.tooManyDigits count) →
      Loaded environment path text (.error (.failure (.badValue (Text.tooManyDigits count))))

theorem loaded_of_read {text : String} (there : files.read path = .ok (Utf8.encodeString text))
    (environment : Environment) (create : Bool) (now : Float) :
    Loaded environment path text (load files environment path create now).1 := by
  rw [load_of_read there, readDocument_encodeString]
  cases outcome : Toml.read text with
  | error rejection =>
      cases rejection with
      | malformed reason => exact .malformed outcome
      | tooManyDigits count => exact .tooManyDigits outcome
  | ok data =>
      dsimp only
      cases validated : validate data with
      | ok settings => exact .settings outcome validated
      | error issues => exact .invalid outcome validated

theorem Loaded.told_iff {text : String} {outcome : Except LoadFailure Settings}
    (loaded : Loaded environment path text outcome) :
    Told outcome ↔ ∀ count, Toml.read text ≠ .error (.tooManyDigits count) := by
  cases loaded with
  | settings read validated => exact iff_of_true trivial fun count => by rw [read]; exact nofun
  | invalid read validated => exact iff_of_true trivial fun count => by rw [read]; exact nofun
  | malformed read => exact iff_of_true ⟨_, rfl, rfl⟩ fun count => by rw [read]; exact nofun
  | tooManyDigits read =>
      refine iff_of_false ?_ fun none => none _ read
      rintro ⟨error, ⟨⟩, -⟩

theorem Loaded.invalid_iff {text : String} {outcome : Except LoadFailure Settings}
    (loaded : Loaded environment path text outcome) (issues : List Issue) :
    outcome = .error (.invalid issues) ↔
      ∃ data, Toml.read text = .ok data ∧ validate data = .error issues := by
  cases loaded with
  | settings read validated =>
      refine iff_of_false nofun ?_
      rintro ⟨data, readOther, refused⟩
      cases read.symm.trans readOther
      cases validated.symm.trans refused
  | @invalid data found read validated =>
      constructor
      · rintro ⟨⟩
        exact ⟨data, read, validated⟩
      · rintro ⟨other, readOther, refused⟩
        cases read.symm.trans readOther
        cases validated.symm.trans refused
        rfl
  | malformed read =>
      refine iff_of_false nofun ?_
      rintro ⟨data, readOther, -⟩
      cases read.symm.trans readOther
  | tooManyDigits read =>
      refine iff_of_false nofun ?_
      rintro ⟨data, readOther, -⟩
      cases read.symm.trans readOther

/-- What is wrong with a document is told exactly if it is readable, and as issues of the settings
exactly if the document is well formed. -/
theorem load_tells_iff (there : files.read path = .ok bytes) :
    (Told (load files environment path create now).1 ↔ Readable bytes) ∧
      ∀ issues, (load files environment path create now).1 = .error (.invalid issues) ↔
        ∃ text data, bytes = Utf8.encodeString text ∧ Toml.read text = .ok data ∧
          validate data = .error issues := by
  cases fault : Utf8.firstFault? bytes with
  | some found =>
      have noText : ¬ ∃ text, bytes = Utf8.encodeString text := by
        rw [← exists_encodeString_iff, fault]
        exact nofun
      have outcome : (load files environment path create now).1 =
          .error (.failure (.undecodable (undecodableText found))) := by
        rw [load_of_read there]
        unfold readDocument
        rw [fault]
      rw [outcome]
      refine ⟨iff_of_false ?_ ?_, fun issues => iff_of_false nofun ?_⟩
      · rintro ⟨error, ⟨⟩, -⟩
      · rintro ⟨text, same, -⟩
        exact noText ⟨text, same⟩
      · rintro ⟨text, data, same, -⟩
        exact noText ⟨text, same⟩
  | none =>
      obtain ⟨text, rfl⟩ := exists_encodeString_iff.mp fault
      have loaded := loaded_of_read there environment create now
      refine ⟨loaded.told_iff.trans readable_encodeString_iff.symm, fun issues => ?_⟩
      rw [loaded.invalid_iff]
      constructor
      · rintro ⟨data, read, validated⟩
        exact ⟨text, data, rfl, read, validated⟩
      · rintro ⟨other, data, same, read, validated⟩
        rw [encodeString_injective same]
        exact ⟨data, read, validated⟩

end

/-- A document with a chunk size that is not admitted. -/
def emptyChunks : String := "[streaming]\nchunk_size = 0 # \u00e9\n"

def emptyChunksFiles : Tree :=
  .folder [("c.toml", .file (Utf8.encodeString emptyChunks) 0.0)]

/-- The document is read, and the chunk size is told to be too small. -/
theorem load_tells_emptyChunks :
    emptyChunksFiles.read (Path.ofString "c.toml") = .ok (Utf8.encodeString emptyChunks) ∧
      (load emptyChunksFiles [] (Path.ofString "c.toml") false 0.0).1 =
        .error (.invalid [⟨["streaming", "chunk_size"], .notAbove 0⟩]) := by
  have there : emptyChunksFiles.read (Path.ofString "c.toml") =
      .ok (Utf8.encodeString emptyChunks) := by rfl
  have read : Toml.read emptyChunks =
      .ok (.dict [(.text "streaming", .dict [(.text "chunk_size", .int 0)])]) := by rfl
  have refused : validate (.dict [(.text "streaming", .dict [(.text "chunk_size", .int 0)])]) =
      .error [⟨["streaming", "chunk_size"], .notAbove 0⟩] := by
    simp only [validate, readSections, readSection, readStreaming, Section.setting, Value.lookup?,
      Value.same, String.reduceBEq, Bool.false_eq_true, not_false_eq_true, BEq.rfl,
      List.find?_cons_of_neg, List.find?_cons_of_pos, List.find?_nil, Option.map_none,
      Option.map_some, pure_bind]
    rfl
  exact ⟨there, ((load_tells_iff there).2 _).mpr ⟨emptyChunks, _, rfl, read, refused⟩⟩

/-- A byte that begins no character is not told of as an error of the configuration. -/
theorem not_told_loneByte :
    ¬ Told (load (.folder [("c.toml", .file #[0xFF] 0.0)]) [] (Path.ofString "c.toml") false
      0.0).1 := by
  have outcome : (load (.folder [("c.toml", .file #[0xFF] 0.0)]) [] (Path.ofString "c.toml") false
      0.0).1 = .error (.failure (.undecodable
        "'utf-8' codec can't decode byte 0xff in position 0: invalid start byte")) := by
    rfl
  rw [outcome]
  rintro ⟨error, ⟨⟩, -⟩

end BooleanSearch.Config
