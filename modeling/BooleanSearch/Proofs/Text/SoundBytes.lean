import BooleanSearch.Proofs.Text.SpelledTexts

/-!
# Bytes of a text

Looking for a fault finds none exactly in the bytes of a text, and decoding gives that text back.
-/

namespace BooleanSearch.Utf8

theorem toList_encode (text : Text) : (encode text).toList = text.toList.flatMap encodeChar := by
  have general : ∀ (chars : List Char) (bytes : Bytes),
      (chars.foldl (fun bytes char => (encodeChar char).foldl Array.push bytes) bytes).toList =
        bytes.toList ++ chars.flatMap encodeChar := by
    intro chars
    induction chars with
    | nil => exact fun bytes => (List.append_nil _).symm
    | cons char rest inductionHypothesis =>
        intro bytes
        rw [List.foldl_cons, inductionHypothesis, List.foldl_push_eq_append', Array.toList_append,
          List.flatMap_cons, List.append_assoc]
  unfold encode
  rw [← Array.foldl_toList, general]
  rfl

/-- Texts are given for their bytes. -/
theorem rest_flatMap_encodeChar (text : List Char) (others : List UInt8) :
    Decoder.boundary.rest (text.flatMap encodeChar ++ others) =
      text ++ Decoder.boundary.rest others := by
  induction text with
  | nil => rfl
  | cons char rest inductionHypothesis =>
      rw [List.flatMap_cons, List.append_assoc, rest_of_encodeChar, inductionHypothesis,
        List.cons_append]

theorem rest_ne_nil {bytes : List UInt8} (present : bytes ≠ []) :
    Decoder.boundary.rest bytes ≠ [] := by
  have some_ : bytes.toArray.size ≠ 0 := fun nothing => present (List.length_eq_zero_iff.mp nothing)
  have given := isEmpty_decode some_
  rw [Array.isEmpty_eq_false_iff] at given
  rw [← toList_decode bytes.toArray]
  exact fun nothing => given (Array.toList_eq_nil_iff.mp nothing)

theorem decode_encode (text : Text) : decode (encode text) = text := by
  refine Array.toList_inj.mp ?_
  have given := rest_flatMap_encodeChar text.toList []
  rw [List.append_nil] at given
  rw [toList_decode, toList_encode, given]
  exact List.append_nil _

/-! ## Looking for a fault -/

theorem range_of_begins {byte : UInt8} {char : Char} (within : [byte] <+: encodeChar char) :
    byte.toNat < 0x80 ∨ 0xC2 ≤ byte.toNat ∧ byte.toNat < 0xF5 := by
  have valid : char.toNat.isValidChar := char.valid
  unfold Nat.isValidChar at valid
  unfold encodeChar at within
  dsimp only at within
  split_ifs at within with one two three <;>
    obtain rfl := (List.cons_prefix_cons.mp within).1 <;> rw [UInt8.toNat_ofNat'] <;> omega

/-- The state behind some bytes: at a boundary behind none, or inside the character that they
begin. -/
inductive Reached : List UInt8 → Decoder → Prop
  | boundary : Reached [] .boundary
  | inside {part : List UInt8} {missing bits low high : Nat} :
      Open part (missing + 1) bits low high → Reached part (.inside (missing + 1) bits low high)

/-- Bytes that leave the decoder inside a character do not hold a whole one. -/
theorem Open.not_whole {part : List UInt8} {missing bits low high : Nat}
    (waits : Open part (missing + 1) bits low high) (char : Char) : ¬ encodeChar char <+: part := by
  rintro ⟨more, rfl⟩
  have range := waits.range
  have zeros : ∀ next ∈ List.replicate missing 0, next < 64 := by
    intro next member
    rw [List.eq_of_mem_replicate member]
    decide
  have length : (List.replicate missing 0).length = missing := List.length_replicate
  have closed := (length.symm ▸ waits).close (show low ≤ 0x80 + (low - 0x80) by omega) (by omega)
    zeros []
  rw [List.append_nil, List.append_assoc, rest_of_encodeChar] at closed
  have behind := (List.cons.inj closed).2
  exact rest_ne_nil (by simp) behind

theorem firstFaultFrom?_cons_of_accepts {decoder : Decoder} {byte : UInt8}
    (accepted : decoder.accepts byte = true) (start : Nat) (first : UInt8) (index : Nat)
    (rest : List UInt8) : ∃ since head, firstFaultFrom? decoder start first index (byte :: rest) =
      firstFaultFrom? (decoder.step byte).1 since head (index + 1) rest := by
  cases decoder with
  | boundary => exact ⟨index, byte, if_pos accepted⟩
  | inside missing bits low high => exact ⟨start, first, if_pos accepted⟩
  | surrogate => exact absurd accepted nofun

theorem firstFaultFrom?_cons_ne_none {decoder : Decoder} {byte : UInt8}
    (refused : ¬ decoder.accepts byte = true) (start : Nat) (first : UInt8) (index : Nat)
    (rest : List UInt8) : firstFaultFrom? decoder start first index (byte :: rest) ≠ none := by
  cases decoder <;> exact fun nothing => by simp [firstFaultFrom?, refused] at nothing

namespace Reached

variable {part : List UInt8} {decoder : Decoder} {byte : UInt8}

theorem not_whole (reached : Reached part decoder) (char : Char) : ¬ encodeChar char <+: part := by
  cases reached with
  | boundary => exact fun within => encodeChar_ne_nil char (List.prefix_nil.mp within)
  | inside waits => exact waits.not_whole char

theorem accepts_iff (reached : Reached part decoder) :
    decoder.accepts byte = true ↔ Begins (part ++ [byte]) := by
  cases reached with
  | boundary =>
      simp only [Decoder.accepts, Bool.or_eq_true, Bool.and_eq_true, decide_eq_true_eq,
        List.nil_append]
      constructor
      · rintro (small | ⟨least, most⟩)
        · exact begins_of_small small
        · obtain ⟨_, _, _, _, -, opened⟩ := exists_open least most
          exact opened.begins
      · rintro ⟨char, within⟩
        exact range_of_begins within
  | @inside _ missing bits low high waits =>
      simp only [Decoder.accepts, Bool.and_eq_true, decide_eq_true_eq]
      refine ⟨fun within => waits.begins_next within.1 within.2, ?_⟩
      rintro ⟨char, others, whole⟩
      by_contra stops
      -- The decoder would replace what it has read, but the bytes are those of one character.
      have given := rest_of_encodeChar char []
      rw [List.append_nil, ← whole, List.append_assoc, waits.fed, List.singleton_append,
        Decoder.rest_inside_of_not_within stops] at given
      exact rest_ne_nil (List.cons_ne_nil byte others) (List.cons.inj given).2

/-- An accepted byte ends the character begun, or it leaves the decoder inside it. -/
theorem step (reached : Reached part decoder) (accepted : decoder.accepts byte = true) :
    ((decoder.step byte).1 = .boundary ∧ ∃ char, encodeChar char = part ++ [byte]) ∨
      Reached (part ++ [byte]) (decoder.step byte).1 := by
  cases reached with
  | boundary =>
      simp only [Decoder.accepts, Bool.or_eq_true, Bool.and_eq_true, decide_eq_true_eq] at accepted
      rcases accepted with small | ⟨least, most⟩
      · refine Or.inl ⟨?_, _, encodeChar_ofNat_of_small small⟩
        rw [Decoder.step, lead, if_pos small]
      · obtain ⟨missing, bits, low, high, leads, opened⟩ := exists_open least most
        right
        rw [Decoder.step, leads]
        exact .inside opened
  | @inside _ missing bits low high waits =>
      simp only [Decoder.accepts, Bool.and_eq_true, decide_eq_true_eq] at accepted
      have range := waits.range
      obtain ⟨first, small, rfl⟩ := exists_trail (show 0x80 ≤ byte.toNat by omega) (by omega)
      rw [toNat_trail small] at accepted
      rw [Decoder.step]
      dsimp only
      rw [toNat_trail small, if_pos (by simpa using accepted), Nat.add_sub_cancel_left]
      cases missing with
      | zero =>
          have noMore : ∀ next ∈ ([] : List Nat), next < 64 :=
            fun next member => absurd member List.not_mem_nil
          exact Or.inl ⟨rfl, _, waits.whole first [] rfl accepted.1 accepted.2 noMore⟩
      | succ missing =>
          right
          rw [if_neg (by omega)]
          exact .inside (waits.next accepted.1 accepted.2)

/-- A text of which some bytes are the beginning goes on with the character begun. -/
theorem accepts_of_flatMap (reached : Reached part decoder) {rest : List UInt8} {text : List Char}
    (whole : part ++ byte :: rest = text.flatMap encodeChar) : decoder.accepts byte = true := by
  rw [reached.accepts_iff]
  cases text with
  | nil => simp at whole
  | cons char others =>
      rw [List.flatMap_cons] at whole
      rcases List.append_eq_append_iff.mp whole with ⟨piece, same, after⟩ | ⟨piece, rfl, -⟩
      · cases piece with
        | nil => exact absurd (by rw [same, List.append_nil]) (reached.not_whole char)
        | cons next more =>
            obtain ⟨rfl, -⟩ := List.cons.inj after
            exact ⟨char, more, by rw [same, List.append_assoc, List.singleton_append]⟩
      · exact absurd (List.prefix_append _ _) (reached.not_whole char)

/-- No fault is found exactly if the bytes go on with the character begun and are those of a
text. -/
theorem firstFaultFrom?_eq_none_iff (reached : Reached part decoder) (start : Nat) (first : UInt8)
    (index : Nat) (bytes : List UInt8) :
    firstFaultFrom? decoder start first index bytes = none ↔
      ∃ text : List Char, part ++ bytes = text.flatMap encodeChar := by
  induction bytes generalizing part decoder start first index with
  | nil =>
      rw [List.append_nil]
      cases reached with
      | boundary => exact ⟨fun _ => ⟨[], rfl⟩, fun _ => rfl⟩
      | inside waits =>
          refine ⟨nofun, ?_⟩
          rintro ⟨text, rfl⟩
          cases text with
          | nil => exact absurd (waits.fed []) nofun
          | cons char others => exact absurd (List.prefix_append _ _) (waits.not_whole char)
  | cons byte rest inductionHypothesis =>
      by_cases accepted : decoder.accepts byte = true
      · obtain ⟨start, first, goesOn⟩ :=
          firstFaultFrom?_cons_of_accepts accepted start first index rest
        rw [goesOn]
        rcases reached.step accepted with ⟨ended, char, whole⟩ | further
        · rw [ended, inductionHypothesis .boundary, ← List.singleton_append, ← List.append_assoc,
            ← whole]
          constructor
          · rintro ⟨text, same⟩
            exact ⟨char :: text, congrArg (encodeChar char ++ ·) same⟩
          · rintro ⟨text, same⟩
            -- The decoder tells that the text begins with the character.
            have given := rest_of_encodeChar char rest
            rw [same, ← List.append_nil (List.flatMap _ _), rest_flatMap_encodeChar] at given
            obtain rfl : text = char :: Decoder.boundary.rest rest :=
              (List.append_nil text).symm.trans given
            exact ⟨_, List.append_cancel_left same⟩
        · rw [inductionHypothesis further, List.append_assoc, List.singleton_append]
      · refine ⟨fun nothing => absurd nothing (firstFaultFrom?_cons_ne_none accepted _ _ _ _), ?_⟩
        rintro ⟨text, whole⟩
        exact absurd (reached.accepts_of_flatMap whole) accepted

end Reached

theorem firstFault?_eq_none_iff {bytes : Bytes} :
    firstFault? bytes = none ↔ ∃ text : Text, bytes = encode text := by
  unfold firstFault?
  rw [Reached.boundary.firstFaultFrom?_eq_none_iff]
  constructor
  · rintro ⟨text, same⟩
    refine ⟨text.toArray, Array.toList_inj.mp ?_⟩
    rw [toList_encode, ← same]
    rfl
  · rintro ⟨text, rfl⟩
    exact ⟨text.toList, toList_encode text⟩

end BooleanSearch.Utf8
