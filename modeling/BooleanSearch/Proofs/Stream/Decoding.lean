import BooleanSearch.Stream.Chunks
import Mathlib.Tactic.SplitIfs

/-!
# Decoding piece by piece

The pieces of a file are the file again when they are put together, and so are the texts that a
decoder gives for them and for the end of the file: they are the file decoded whole.  A file with
bytes has a text that is not empty.
-/

namespace BooleanSearch

/-- Several texts put together. -/
def joined (texts : List Text) : Text :=
  texts.foldl (· ++ ·) #[]

theorem foldl_append_eq (start : Text) (texts : List Text) :
    texts.foldl (· ++ ·) start = start ++ joined texts := by
  unfold joined
  induction texts generalizing start with
  | nil => simp
  | cons text rest inductionHypothesis =>
      simp only [List.foldl_cons]
      rw [inductionHypothesis, inductionHypothesis (#[] ++ text)]
      simp

@[simp]
theorem joined_nil : joined [] = #[] := rfl

@[simp]
theorem joined_cons (text : Text) (rest : List Text) :
    joined (text :: rest) = text ++ joined rest := by
  unfold joined
  rw [List.foldl_cons, foldl_append_eq]
  simp [joined]

@[simp]
theorem joined_append (first second : List Text) :
    joined (first ++ second) = joined first ++ joined second := by
  induction first with
  | nil => simp
  | cons text rest inductionHypothesis => simp [inductionHypothesis]

theorem size_le_joined {text : Text} {texts : List Text} (member : text ∈ texts) :
    text.size ≤ (joined texts).size := by
  induction texts with
  | nil => exact absurd member List.not_mem_nil
  | cons first rest inductionHypothesis =>
      rw [joined_cons, Array.size_append]
      rcases List.mem_cons.mp member with rfl | later
      · omega
      · have inner := inductionHypothesis later
        omega

namespace Utf8

namespace Decoder

/-- One byte of a decoder that has given a text so far. -/
def advance (state : Decoder × Text) (byte : UInt8) : Decoder × Text :=
  ((state.1.step byte).1, state.2 ++ (state.1.step byte).2.toArray)

theorem feed_eq_foldl (decoder : Decoder) (bytes : Bytes) :
    decoder.feed bytes = bytes.toList.foldl advance (decoder, #[]) := by
  unfold feed
  rw [← Array.foldl_toList]
  congr 1
  funext state byte
  exact Prod.ext rfl List.foldl_push_eq_append'

/-- What has been decoded stays in front. -/
theorem foldl_advance (bytes : List UInt8) (decoder : Decoder) (text : Text) :
    bytes.foldl advance (decoder, text) =
      ((bytes.foldl advance (decoder, #[])).1,
        text ++ (bytes.foldl advance (decoder, #[])).2) := by
  induction bytes generalizing decoder text with
  | nil => simp
  | cons byte rest inductionHypothesis =>
      simp only [List.foldl_cons, advance]
      rw [inductionHypothesis, inductionHypothesis _ (#[] ++ _)]
      simp

/-- Feeding bytes in two parts gives the texts of both parts. -/
theorem feed_append (decoder : Decoder) (first second : Bytes) :
    decoder.feed (first ++ second) =
      (((decoder.feed first).1.feed second).1,
        (decoder.feed first).2 ++ ((decoder.feed first).1.feed second).2) := by
  simp only [feed_eq_foldl, Array.toList_append, List.foldl_append]
  exact foldl_advance _ _ _

/-- The texts that a decoder gives for some pieces, and at last for their end. -/
def texts (decoder : Decoder) : List Bytes → List Text
  | [] => [decoder.finish]
  | piece :: rest => (decoder.feed piece).2 :: (decoder.feed piece).1.texts rest

theorem joined_texts (decoder : Decoder) (pieces : List Bytes) :
    joined (decoder.texts pieces) =
      (decoder.feed (pieces.foldl (· ++ ·) #[])).2
        ++ (decoder.feed (pieces.foldl (· ++ ·) #[])).1.finish := by
  have general : ∀ (pieces : List Bytes) (before : Bytes),
      (decoder.feed before).2 ++ joined ((decoder.feed before).1.texts pieces) =
        (decoder.feed (pieces.foldl (· ++ ·) before)).2
          ++ (decoder.feed (pieces.foldl (· ++ ·) before)).1.finish := by
    intro pieces
    induction pieces with
    | nil => intro before; simp [texts]
    | cons piece rest inductionHypothesis =>
        intro before
        rw [List.foldl_cons, ← inductionHypothesis, feed_append]
        simp [texts]
  have start : decoder.feed #[] = (decoder, #[]) := rfl
  have whole := general pieces #[]
  rw [start] at whole
  simpa using whole

/-- A decoder has given something, or it is inside a character. -/
def Begun (state : Decoder × Text) : Prop :=
  state.1 ≠ .boundary ∨ state.2.size ≠ 0

theorem begun_lead (byte : Nat) : (lead byte).1 ≠ .boundary ∨ (lead byte).2 ≠ [] := by
  unfold lead
  split_ifs <;> simp

theorem begun_advance (state : Decoder × Text) (byte : UInt8) : Begun (advance state byte) := by
  have given : (state.1.step byte).1 ≠ .boundary ∨ (state.1.step byte).2 ≠ [] := by
    obtain ⟨decoder, text⟩ := state
    cases decoder with
    | boundary => exact begun_lead _
    | inside missing bits low high =>
        dsimp only [step]
        split_ifs <;> simp
    | surrogate => simp [step]
  unfold Begun advance
  refine given.imp_right fun some_ => ?_
  have positive := List.length_pos_iff.mpr some_
  simp only [Array.size_append, List.size_toArray]
  omega

end Decoder

/-- A file with bytes has a text that is not empty. -/
theorem isEmpty_decode {bytes : Bytes} (present : bytes.size ≠ 0) :
    (decode bytes).isEmpty = false := by
  have begun : ∀ (rest : List UInt8) (state : Decoder × Text), Decoder.Begun state →
      Decoder.Begun (rest.foldl Decoder.advance state) := by
    intro rest
    induction rest with
    | nil => exact fun _ started => started
    | cons byte others inductionHypothesis =>
        exact fun state _ => inductionHypothesis _ (Decoder.begun_advance state byte)
  have fed : Decoder.Begun (Decoder.boundary.feed bytes) := by
    rw [Decoder.feed_eq_foldl]
    cases shape : bytes.toList with
    | nil => exact absurd (by simpa using congrArg List.length shape) present
    | cons byte rest => exact begun rest _ (Decoder.begun_advance _ byte)
  unfold decode
  generalize Decoder.boundary.feed bytes = state at fed
  obtain ⟨decoder, text⟩ := state
  rw [Array.isEmpty_eq_false_iff]
  intro nothing
  have sizes := congrArg Array.size nothing
  simp only [Array.size_append, Array.size_empty, Nat.add_eq_zero_iff] at sizes
  rcases fed with inside | given
  · cases decoder with
    | boundary => exact inside rfl
    | inside missing bits low high => exact absurd sizes.2 (by simp [Decoder.finish])
    | surrogate => exact absurd sizes.2 (by simp [Decoder.finish])
  · exact given sizes.1

end Utf8

namespace Stream

/-- The pieces of a file put together again. -/
theorem foldl_chunksOf {size : Nat} (positive : 0 < size) (bytes : Bytes) :
    (chunksOf size bytes).foldl (· ++ ·) #[] = bytes := by
  have steps : ∀ count, ((List.range count).map fun index =>
      bytes.extract (index * size) ((index + 1) * size)).foldl (· ++ ·) #[] =
        bytes.extract 0 (count * size) := by
    intro count
    induction count with
    | zero => simp
    | succ count inductionHypothesis =>
        rw [List.range_succ, List.map_append, List.foldl_append, inductionHypothesis]
        have order : count * size ≤ (count + 1) * size :=
          Nat.mul_le_mul_right size (Nat.le_succ count)
        simp [Array.extract_append_extract, order]
  unfold chunksOf
  rw [steps]
  have enough : bytes.size ≤ (bytes.size + size - 1) / size * size := by
    have rounded := Nat.lt_div_mul_add (a := bytes.size + size - 1) positive
    omega
  exact Array.extract_eq_self_of_le enough

/-- The texts of the pieces of a file, put together, are the file decoded whole. -/
theorem joined_texts_chunksOf (size : Nat) (positive : 0 < size) (bytes : Bytes) :
    joined (Utf8.Decoder.boundary.texts (chunksOf size bytes)) = Utf8.decode bytes := by
  rw [Utf8.Decoder.joined_texts, foldl_chunksOf positive]
  rfl

end Stream

end BooleanSearch
