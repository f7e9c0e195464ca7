import BooleanSearch.Proofs.Stream.Decoding
import Mathlib.Data.List.Infix

/-!
# Texts that bytes spell

Bytes spell characters, each by its own bytes.  Where no character is whole, the bytes that begin one
are replaced together, as far as they can be continued, and a byte that begins none is replaced by
itself.  This says nothing of states between bytes; the decoder gives just the text that is spelled.
-/

namespace BooleanSearch.Utf8

/-- Some character begins with these bytes. -/
def Begins (bytes : List UInt8) : Prop :=
  ∃ char, bytes <+: encodeChar char

/-- Bytes that are replaced together in front of others: those that begin a character, without being
all of it and without the next byte going on with any, or one byte that begins no character. -/
inductive Broken : List UInt8 → List UInt8 → Prop
  | beginning {part rest : List UInt8} {char : Char} : part ≠ [] → part <+: encodeChar char →
      part ≠ encodeChar char → (∀ next others, rest = next :: others → ¬ Begins (part ++ [next])) →
      Broken part rest
  | stray {byte : UInt8} {rest : List UInt8} : ¬ Begins [byte] → Broken [byte] rest

/-- The text that some bytes spell. -/
inductive Spells : List UInt8 → List Char → Prop
  | nil : Spells [] []
  | char {char : Char} {rest : List UInt8} {text : List Char} :
      Spells rest text → Spells (encodeChar char ++ rest) (char :: text)
  | broken {part rest : List UInt8} {text : List Char} :
      Broken part rest → Spells rest text → Spells (part ++ rest) (replacement :: text)

/-! ## What is still to be decoded -/

/-- What a decoder gives for bytes and their end. -/
def Decoder.rest : Decoder → List UInt8 → List Char
  | decoder, [] => decoder.finish.toList
  | decoder, byte :: others => (decoder.step byte).2 ++ (decoder.step byte).1.rest others

theorem toList_decode (bytes : Bytes) : (decode bytes).toList = Decoder.boundary.rest bytes.toList := by
  have general : ∀ (bytes : List UInt8) (decoder : Decoder) (text : Text),
      (bytes.foldl Decoder.advance (decoder, text)).2.toList ++
          (bytes.foldl Decoder.advance (decoder, text)).1.finish.toList =
        text.toList ++ decoder.rest bytes := by
    intro bytes
    induction bytes with
    | nil => exact fun _ _ => rfl
    | cons byte others inductionHypothesis =>
        intro decoder text
        rw [List.foldl_cons, Decoder.advance, inductionHypothesis, Decoder.rest,
          Array.toList_append, List.append_assoc]
  unfold decode
  rw [Decoder.feed_eq_foldl]
  dsimp only
  rw [Array.toList_append, general]
  rfl

namespace Decoder

theorem rest_surrogate (bytes : List UInt8) :
    surrogate.rest bytes = replacement :: replacement :: boundary.rest bytes := by
  cases bytes <;> rfl

/-- A byte that stands where a character goes on, but does not go on with it, is read anew. -/
theorem rest_inside_of_not_within {missing bits low high : Nat} {byte : UInt8}
    (stops : ¬ (low ≤ byte.toNat ∧ byte.toNat ≤ high)) (others : List UInt8) :
    (inside missing bits low high).rest (byte :: others) =
      replacement :: boundary.rest (byte :: others) := by
  have outside : ¬ (decide (low ≤ byte.toNat) && decide (byte.toNat ≤ high)) = true := by
    simpa using stops
  rw [rest, rest, step, step]
  dsimp only
  rw [if_neg outside]
  split
  -- The second byte of a surrogate is held back, and it is a stray one.
  · next held =>
      simp only [Bool.and_eq_true, decide_eq_true_eq, beq_iff_eq] at held
      have stray : lead byte.toNat = (boundary, [replacement]) := by
        unfold lead
        rw [if_neg (by omega), if_pos (by omega)]
      rw [stray, rest_surrogate]
      rfl
  · rfl

theorem rest_inside_of_within {missing bits low high : Nat} {byte : UInt8} (least : low ≤ byte.toNat)
    (most : byte.toNat ≤ high) (others : List UInt8) :
    (inside (missing + 1) bits low high).rest (byte :: others) =
      if missing = 0 then Char.ofNat (bits * 64 + (byte.toNat - 0x80)) :: boundary.rest others
      else (inside missing (bits * 64 + (byte.toNat - 0x80)) 0x80 0xBF).rest others := by
  rw [rest, step]
  dsimp only
  rw [if_pos (by simp [least, most])]
  cases missing with
  | zero => rfl
  | succ missing =>
      rw [if_neg (by omega), if_neg (by omega)]
      rfl

end Decoder

/-! ## Characters by their bits -/

/-- A byte that goes on with a character, by its six bits. -/
def trail (bits : Nat) : UInt8 :=
  UInt8.ofNat (0x80 + bits)

theorem toNat_trail {bits : Nat} (small : bits < 64) : (trail bits).toNat = 0x80 + bits := by
  unfold trail
  rw [UInt8.toNat_ofNat']
  omega

theorem exists_trail {byte : UInt8} (least : 0x80 ≤ byte.toNat) (most : byte.toNat ≤ 0xBF) :
    ∃ bits < 64, byte = trail bits := by
  refine ⟨byte.toNat - 0x80, by omega, ?_⟩
  unfold trail
  rw [Nat.add_sub_cancel' least, UInt8.ofNat_toNat]

/-- The bits of a character, from those of its first bytes and of the ones after them. -/
def gathered (bits : Nat) (others : List Nat) : Nat :=
  others.foldl (fun bits next => bits * 64 + next) bits

theorem toNat_ofNat {code : Nat} (valid : code.isValidChar) : (Char.ofNat code).toNat = code := by
  unfold Char.ofNat
  rw [dif_pos valid]
  rfl

theorem encodeChar_two {first second : Nat} (least : 2 ≤ first) (most : first < 32)
    (small : second < 64) :
    encodeChar (Char.ofNat (first * 64 + second)) = [UInt8.ofNat (0xC0 + first), trail second] := by
  unfold encodeChar
  rw [toNat_ofNat (Or.inl (by omega))]
  dsimp only
  rw [if_neg (by omega), if_pos (by omega)]
  rw [show (first * 64 + second) / 64 = first by omega,
    show (first * 64 + second) % 64 = second by omega]
  rfl

/-- The least second byte after the first one of three, and after the first one of four. -/
def leastOfThree (first : Nat) : Nat := if first = 0 then 0xA0 else 0x80

def mostOfThree (first : Nat) : Nat := if first = 13 then 0x9F else 0xBF

def leastOfFour (first : Nat) : Nat := if first = 0 then 0x90 else 0x80

def mostOfFour (first : Nat) : Nat := if first = 4 then 0x8F else 0xBF

theorem encodeChar_three {first second third : Nat} (most : first < 16)
    (least : leastOfThree first ≤ 0x80 + second) (within : 0x80 + second ≤ mostOfThree first)
    (small : third < 64) :
    encodeChar (Char.ofNat ((first * 64 + second) * 64 + third)) =
      [UInt8.ofNat (0xE0 + first), trail second, trail third] := by
  unfold leastOfThree at least
  unfold mostOfThree at within
  have valid : Nat.isValidChar ((first * 64 + second) * 64 + third) := by
    unfold Nat.isValidChar
    split at within <;> omega
  unfold encodeChar
  rw [toNat_ofNat valid]
  dsimp only
  have seconds : second < 64 := by split at within <;> omega
  rw [if_neg (by split at least <;> omega), if_neg (by split at least <;> omega),
    if_pos (by omega)]
  rw [show ((first * 64 + second) * 64 + third) / 4096 = first by omega,
    show ((first * 64 + second) * 64 + third) / 64 % 64 = second by omega,
    show ((first * 64 + second) * 64 + third) % 64 = third by omega]
  rfl

theorem encodeChar_four {first second third fourth : Nat} (most : first < 5)
    (least : leastOfFour first ≤ 0x80 + second) (within : 0x80 + second ≤ mostOfFour first)
    (small : third < 64) (smallLast : fourth < 64) :
    encodeChar (Char.ofNat (((first * 64 + second) * 64 + third) * 64 + fourth)) =
      [UInt8.ofNat (0xF0 + first), trail second, trail third, trail fourth] := by
  unfold leastOfFour at least
  unfold mostOfFour at within
  have seconds : second < 64 := by split at within <;> omega
  have beyond : 0x10000 ≤ ((first * 64 + second) * 64 + third) * 64 + fourth := by
    split at least <;> omega
  have valid : Nat.isValidChar (((first * 64 + second) * 64 + third) * 64 + fourth) := by
    unfold Nat.isValidChar
    split at within <;> omega
  unfold encodeChar
  rw [toNat_ofNat valid]
  dsimp only
  rw [if_neg (by omega), if_neg (by omega), if_neg (by omega)]
  rw [show (((first * 64 + second) * 64 + third) * 64 + fourth) / 262144 = first by omega,
    show (((first * 64 + second) * 64 + third) * 64 + fourth) / 4096 % 64 = second by omega,
    show (((first * 64 + second) * 64 + third) * 64 + fourth) / 64 % 64 = third by omega,
    show (((first * 64 + second) * 64 + third) * 64 + fourth) % 64 = fourth by omega]
  rfl

/-! ## Characters that are not whole -/

/-- Some bytes leave the decoder inside a character, and with all bytes that it waits for they are a
character. -/
structure Open (part : List UInt8) (missing bits low high : Nat) : Prop where
  fed : ∀ others, Decoder.boundary.rest (part ++ others) =
    (Decoder.inside missing bits low high).rest others
  range : 0x80 ≤ low ∧ low ≤ high ∧ high ≤ 0xBF
  whole : ∀ first others, others.length + 1 = missing → low ≤ 0x80 + first →
    0x80 + first ≤ high → (∀ next ∈ others, next < 64) →
    encodeChar (Char.ofNat (gathered bits (first :: others))) = part ++ (first :: others).map trail

theorem rest_of_lead {byte : UInt8} {decoder : Decoder} (leads : lead byte.toNat = (decoder, []))
    (others : List UInt8) : Decoder.boundary.rest ([byte] ++ others) = decoder.rest others := by
  rw [List.singleton_append, Decoder.rest, Decoder.step, leads]
  rfl

theorem lead_two {first : Nat} (least : 2 ≤ first) (most : first < 32) :
    lead (0xC0 + first) = (.inside 1 first 0x80 0xBF, []) := by
  have leads : ∀ first < 32, 2 ≤ first →
      lead (0xC0 + first) = (.inside 1 first 0x80 0xBF, []) := by decide
  exact leads first most least

theorem lead_three {first : Nat} (most : first < 16) :
    lead (0xE0 + first) = (.inside 2 first (leastOfThree first) (mostOfThree first), []) := by
  have leads : ∀ first < 16, lead (0xE0 + first) =
      (.inside 2 first (leastOfThree first) (mostOfThree first), []) := by decide
  exact leads first most

theorem lead_four {first : Nat} (most : first < 5) :
    lead (0xF0 + first) = (.inside 3 first (leastOfFour first) (mostOfFour first), []) := by
  have leads : ∀ first < 5, lead (0xF0 + first) =
      (.inside 3 first (leastOfFour first) (mostOfFour first), []) := by decide
  exact leads first most

theorem open_two {first : Nat} (least : 2 ≤ first) (most : first < 32) :
    Open [UInt8.ofNat (0xC0 + first)] 1 first 0x80 0xBF := by
  refine ⟨rest_of_lead ?_, by omega, fun second others length _ within small => ?_⟩
  · rw [UInt8.toNat_ofNat', Nat.mod_eq_of_lt (by omega)]
    exact lead_two least most
  · obtain rfl := List.length_eq_zero_iff.mp (Nat.succ.inj length)
    exact encodeChar_two least most (by omega)

theorem open_three {first : Nat} (most : first < 16) :
    Open [UInt8.ofNat (0xE0 + first)] 2 first (leastOfThree first) (mostOfThree first) := by
  have range : ∀ first < 16, 0x80 ≤ leastOfThree first ∧ leastOfThree first ≤ mostOfThree first ∧
      mostOfThree first ≤ 0xBF := by decide
  refine ⟨rest_of_lead ?_, range first most, fun second others length least within small => ?_⟩
  · rw [UInt8.toNat_ofNat', Nat.mod_eq_of_lt (by omega)]
    exact lead_three most
  · obtain ⟨third, rfl⟩ := List.length_eq_one_iff.mp (Nat.succ.inj length)
    exact encodeChar_three most least within (small third List.mem_cons_self)

theorem open_four {first : Nat} (most : first < 5) :
    Open [UInt8.ofNat (0xF0 + first)] 3 first (leastOfFour first) (mostOfFour first) := by
  have range : ∀ first < 5, 0x80 ≤ leastOfFour first ∧ leastOfFour first ≤ mostOfFour first ∧
      mostOfFour first ≤ 0xBF := by decide
  refine ⟨rest_of_lead ?_, range first most, fun second others length least within small => ?_⟩
  · rw [UInt8.toNat_ofNat', Nat.mod_eq_of_lt (by omega)]
    exact lead_four most
  · obtain ⟨third, fourth, rfl⟩ := List.length_eq_two.mp (Nat.succ.inj length)
    exact encodeChar_four most least within (small third (by simp)) (small fourth (by simp))

namespace Open

variable {part : List UInt8} {missing bits low high : Nat}

/-- A byte that goes on with the character, but does not end it. -/
theorem next (waits : Open part (missing + 2) bits low high) {first : Nat}
    (least : low ≤ 0x80 + first) (most : 0x80 + first ≤ high) :
    Open (part ++ [trail first]) (missing + 1) (bits * 64 + first) 0x80 0xBF := by
  have byte := toNat_trail (show first < 64 by have := waits.range; omega)
  refine ⟨fun others => ?_, by omega, fun second others length _ within small => ?_⟩
  · rw [List.append_assoc, waits.fed, List.singleton_append,
      Decoder.rest_inside_of_within (by omega) (by omega), if_neg (Nat.succ_ne_zero _), byte,
      Nat.add_sub_cancel_left]
  · have inner : ∀ next ∈ second :: others, next < 64 :=
      List.forall_mem_cons.mpr ⟨by omega, small⟩
    rw [List.append_assoc]
    exact waits.whole first (second :: others) (congrArg Nat.succ length) least most inner

/-- All bytes that are missing end the character. -/
theorem close {first : Nat} {others : List Nat} (waits : Open part (others.length + 1) bits low high)
    (least : low ≤ 0x80 + first) (most : 0x80 + first ≤ high) (small : ∀ next ∈ others, next < 64)
    (rest : List UInt8) :
    Decoder.boundary.rest (part ++ (first :: others).map trail ++ rest) =
      Char.ofNat (gathered bits (first :: others)) :: Decoder.boundary.rest rest := by
  induction others generalizing part bits low high first with
  | nil =>
      have byte := toNat_trail (show first < 64 by have := waits.range; omega)
      rw [List.append_assoc, waits.fed]
      change (Decoder.inside (0 + 1) bits low high).rest (trail first :: rest) = _
      rw [Decoder.rest_inside_of_within (by omega) (by omega), if_pos rfl, byte,
        Nat.add_sub_cancel_left]
      rfl
  | cons second others inductionHypothesis =>
      obtain ⟨bounded, inner⟩ := List.forall_mem_cons.mp small
      have closed := inductionHypothesis (waits.next least most)
        (show 0x80 ≤ 0x80 + second by omega) (by omega) inner
      rw [List.append_assoc part] at closed
      exact closed

/-- Some of the bytes that are missing leave the decoder inside the character. -/
theorem of_prefix {first : Nat} {others : List Nat}
    (waits : Open part (others.length + 1) bits low high) (least : low ≤ 0x80 + first)
    (most : 0x80 + first ≤ high) (small : ∀ next ∈ others, next < 64) {piece : List UInt8}
    (within : piece <+: (first :: others).map trail) (some_ : piece ≠ (first :: others).map trail) :
    ∃ missing bits low high, Open (part ++ piece) (missing + 1) bits low high := by
  induction others generalizing part bits low high first piece with
  | nil =>
      rcases List.prefix_cons_iff.mp within with rfl | ⟨inner, rfl, nothing⟩
      · exact ⟨_, _, _, _, (List.append_nil part).symm ▸ waits⟩
      · rw [List.prefix_nil.mp nothing] at some_
        exact absurd rfl some_
  | cons second others inductionHypothesis =>
      rcases List.prefix_cons_iff.mp within with rfl | ⟨inner, rfl, innerWithin⟩
      · exact ⟨_, _, _, _, (List.append_nil part).symm ▸ waits⟩
      · obtain ⟨bounded, further⟩ := List.forall_mem_cons.mp small
        obtain ⟨missing, bits, low, high, opened⟩ := inductionHypothesis (waits.next least most)
          (show 0x80 ≤ 0x80 + second by omega) (by omega) further innerWithin
          fun same => some_ (congrArg (trail first :: ·) same)
        rw [List.append_assoc, List.singleton_append] at opened
        exact ⟨missing, bits, low, high, opened⟩

/-- A byte that the decoder takes goes on with some character. -/
theorem begins_next (waits : Open part (missing + 1) bits low high) {byte : UInt8}
    (least : low ≤ byte.toNat) (most : byte.toNat ≤ high) : Begins (part ++ [byte]) := by
  have range := waits.range
  obtain ⟨first, small, rfl⟩ := exists_trail (show 0x80 ≤ byte.toNat by omega) (by omega)
  rw [toNat_trail small] at least most
  have zeros : ∀ next ∈ List.replicate missing 0, next < 64 := by
    intro next member
    rw [List.eq_of_mem_replicate member]
    decide
  refine ⟨Char.ofNat (gathered bits (first :: List.replicate missing 0)), ?_⟩
  rw [waits.whole first _ (by simp) least most zeros, List.map_cons]
  exact (List.prefix_append_right_inj part).mpr ⟨_, rfl⟩

theorem begins (waits : Open part (missing + 1) bits low high) : Begins part := by
  have range := waits.range
  have byte : (UInt8.ofNat low).toNat = low := by
    rw [UInt8.toNat_ofNat', Nat.mod_eq_of_lt (by omega)]
  obtain ⟨char, within⟩ := waits.begins_next byte.ge (byte.symm ▸ range.2.1)
  exact ⟨char, (List.prefix_append _ _).trans within⟩

/-- Bytes that wait in vain for more are replaced. -/
theorem rest_of_stops (waits : Open part (missing + 1) bits low high) {rest : List UInt8}
    (stops : ∀ next others, rest = next :: others → ¬ Begins (part ++ [next])) :
    Decoder.boundary.rest (part ++ rest) = replacement :: Decoder.boundary.rest rest := by
  rw [waits.fed]
  cases rest with
  | nil => rfl
  | cons next others =>
      refine Decoder.rest_inside_of_not_within (fun within => ?_) others
      exact stops next others rfl (waits.begins_next within.1 within.2)

end Open

/-! ## What the decoder gives -/

/-- A character has one byte, or its bytes are those that leave the decoder inside it and all that are
missing. -/
inductive Formed (char : Char) : Prop
  | single {byte : UInt8} : encodeChar char = [byte] →
      (∀ others, Decoder.boundary.rest ([byte] ++ others) = char :: Decoder.boundary.rest others) →
      Formed char
  | several {byte : UInt8} {bits low high first : Nat} {others : List Nat} :
      char = Char.ofNat (gathered bits (first :: others)) →
      Open [byte] (others.length + 1) bits low high → low ≤ 0x80 + first → 0x80 + first ≤ high →
      (∀ next ∈ others, next < 64) → Formed char

theorem rest_of_small {byte : UInt8} (small : byte.toNat < 0x80) (others : List UInt8) :
    Decoder.boundary.rest ([byte] ++ others) =
      Char.ofNat byte.toNat :: Decoder.boundary.rest others := by
  rw [List.singleton_append, Decoder.rest, Decoder.step]
  unfold lead
  rw [if_pos small]
  rfl

theorem encodeChar_of_small {char : Char} (small : char.toNat < 0x80) :
    encodeChar char = [UInt8.ofNat char.toNat] := by
  unfold encodeChar
  exact if_pos small

theorem formed (char : Char) : Formed char := by
  have valid : char.toNat.isValidChar := char.valid
  unfold Nat.isValidChar at valid
  have code := Char.ofNat_toNat char
  generalize charCode : char.toNat = number at valid code
  by_cases one : number < 0x80
  · have byte : (UInt8.ofNat number).toNat = number := by
      rw [UInt8.toNat_ofNat', Nat.mod_eq_of_lt (by omega)]
    refine .single (charCode ▸ encodeChar_of_small (charCode.symm ▸ one)) fun others => ?_
    rw [rest_of_small (by omega), byte, code]
  by_cases two : number < 0x800
  · have parts : gathered (number / 64) [number % 64] = number := Nat.div_add_mod' number 64
    have same : char = Char.ofNat (gathered (number / 64) [number % 64]) := by rw [parts, code]
    exact .several same (open_two (by omega) (by omega)) (by omega) (by omega) nofun
  by_cases three : number < 0x10000
  · have parts : gathered (number / 4096) [number / 64 % 64, number % 64] = number := by
      change (number / 4096 * 64 + number / 64 % 64) * 64 + number % 64 = number
      omega
    have same : char = Char.ofNat (gathered (number / 4096) [number / 64 % 64, number % 64]) := by
      rw [parts, code]
    refine .several same (open_three (by omega)) ?_ ?_ (by simp; omega)
    · unfold leastOfThree
      split <;> omega
    · unfold mostOfThree
      split <;> omega
  · have parts : gathered (number / 262144)
        [number / 4096 % 64, number / 64 % 64, number % 64] = number := by
      change ((number / 262144 * 64 + number / 4096 % 64) * 64 + number / 64 % 64) * 64 +
        number % 64 = number
      omega
    have same : char = Char.ofNat (gathered (number / 262144)
        [number / 4096 % 64, number / 64 % 64, number % 64]) := by
      rw [parts, code]
    refine .several same (open_four (by omega)) ?_ ?_ (by simp; omega)
    · unfold leastOfFour
      split <;> omega
    · unfold mostOfFour
      split <;> omega

/-- A character is given for its bytes. -/
theorem rest_of_encodeChar (char : Char) (others : List UInt8) :
    Decoder.boundary.rest (encodeChar char ++ others) = char :: Decoder.boundary.rest others := by
  cases formed char with
  | single bytes given =>
      rw [bytes]
      exact given others
  | several same waits least most small =>
      rw [same, waits.whole _ _ rfl least most small]
      exact waits.close least most small others

theorem encodeChar_ofNat_of_small {byte : UInt8} (small : byte.toNat < 0x80) :
    encodeChar (Char.ofNat byte.toNat) = [byte] := by
  have code : (Char.ofNat byte.toNat).toNat = byte.toNat := toNat_ofNat (Or.inl (by omega))
  rw [encodeChar_of_small (code.symm ▸ small), code, UInt8.ofNat_toNat]

theorem begins_of_small {byte : UInt8} (small : byte.toNat < 0x80) : Begins [byte] := by
  refine ⟨Char.ofNat byte.toNat, ?_⟩
  rw [encodeChar_ofNat_of_small small]

/-- A byte that is not a character by itself, but begins one, leaves the decoder inside it. -/
theorem exists_open {byte : UInt8} (least : 0xC2 ≤ byte.toNat) (most : byte.toNat < 0xF5) :
    ∃ missing bits low high, lead byte.toNat = (.inside (missing + 1) bits low high, []) ∧
      Open [byte] (missing + 1) bits low high := by
  have same : UInt8.ofNat byte.toNat = byte := UInt8.ofNat_toNat
  generalize byte.toNat = number at least most same ⊢
  subst same
  by_cases two : number < 0xE0
  · obtain ⟨first, rfl⟩ := Nat.exists_eq_add_of_le (show 0xC0 ≤ number by omega)
    exact ⟨0, _, _, _, lead_two (by omega) (by omega), open_two (by omega) (by omega)⟩
  by_cases three : number < 0xF0
  · obtain ⟨first, rfl⟩ := Nat.exists_eq_add_of_le (show 0xE0 ≤ number by omega)
    exact ⟨1, _, _, _, lead_three (by omega), open_three (by omega)⟩
  · obtain ⟨first, rfl⟩ := Nat.exists_eq_add_of_le (show 0xF0 ≤ number by omega)
    exact ⟨2, _, _, _, lead_four (by omega), open_four (by omega)⟩

/-- A byte that begins no character is replaced by itself. -/
theorem lead_of_stray {byte : UInt8} (stray : ¬ Begins [byte]) :
    lead byte.toNat = (.boundary, [replacement]) := by
  have bounded := byte.toNat_lt
  have notSmall : ¬ byte.toNat < 0x80 := fun small => stray (begins_of_small small)
  have notOpen : ¬ (0xC2 ≤ byte.toNat ∧ byte.toNat < 0xF5) := by
    rintro ⟨least, most⟩
    obtain ⟨_, _, _, _, -, opened⟩ := exists_open least most
    exact stray opened.begins
  unfold lead
  rw [if_neg notSmall]
  by_cases early : byte.toNat < 0xC2
  · rw [if_pos early]
  · simp only [beq_iff_eq]
    rw [if_neg early, if_neg (by omega), if_neg (by omega), if_neg (by omega), if_neg (by omega),
      if_neg (by omega), if_neg (by omega), if_neg (by omega)]

theorem rest_of_broken {part others : List UInt8} (broken : Broken part others) :
    Decoder.boundary.rest (part ++ others) = replacement :: Decoder.boundary.rest others := by
  cases broken with
  | stray nothing =>
      rw [List.singleton_append, Decoder.rest, Decoder.step, lead_of_stray nothing]
      rfl
  | @beginning _ _ char some_ within notWhole stops =>
      cases formed char with
      | single bytes _ =>
          rw [bytes] at within notWhole
          rcases List.prefix_cons_iff.mp within with rfl | ⟨inner, rfl, nothing⟩
          · exact absurd rfl some_
          · rw [List.prefix_nil.mp nothing] at notWhole
            exact absurd rfl notWhole
      | several same waits least most small =>
          rw [same, waits.whole _ _ rfl least most small] at within notWhole
          rcases List.prefix_cons_iff.mp within with rfl | ⟨inner, rfl, innerWithin⟩
          · exact absurd rfl some_
          · obtain ⟨missing, bits, low, high, opened⟩ := waits.of_prefix least most small innerWithin
              fun whole => notWhole (congrArg _ whole)
            exact opened.rest_of_stops stops

/-- The beginning of a character can be continued as far as possible. -/
theorem exists_longest {part : List UInt8} (begins : Begins part) (rest : List UInt8) :
    ∃ piece others, rest = piece ++ others ∧ Begins (part ++ piece) ∧
      ∀ next more, others = next :: more → ¬ Begins (part ++ piece ++ [next]) := by
  induction rest generalizing part with
  | nil => exact ⟨[], [], rfl, (List.append_nil part).symm ▸ begins, nofun⟩
  | cons next more inductionHypothesis =>
      by_cases further : Begins (part ++ [next])
      · obtain ⟨piece, others, rfl, begun, stops⟩ := inductionHypothesis further
        rw [List.append_assoc, List.singleton_append] at begun stops
        exact ⟨next :: piece, others, rfl, begun, stops⟩
      · refine ⟨[], next :: more, rfl, (List.append_nil part).symm ▸ begins, ?_⟩
        rintro _ _ ⟨⟩
        rwa [List.append_nil]

theorem encodeChar_ne_nil (char : Char) : encodeChar char ≠ [] := by
  unfold encodeChar
  dsimp only
  split_ifs <;> exact List.cons_ne_nil _ _

/-- Any bytes spell a text. -/
theorem exists_spells (bytes : List UInt8) : ∃ text, Spells bytes text := by
  induction size : bytes.length using Nat.strongRecOn generalizing bytes with
  | ind size inductionHypothesis =>
      have behind : ∀ {part rest : List UInt8}, bytes = part ++ rest → part ≠ [] →
          ∃ text, Spells rest text := by
        intro part rest whole some_
        have positive := List.length_pos_iff.mpr some_
        refine inductionHypothesis rest.length ?_ rest rfl
        rw [← size, whole, List.length_append]
        omega
      by_cases first : ∃ char, encodeChar char <+: bytes
      · obtain ⟨char, rest, whole⟩ := first
        obtain ⟨text, spells⟩ := behind whole.symm (encodeChar_ne_nil char)
        exact ⟨char :: text, whole ▸ Spells.char spells⟩
      cases bytes with
      | nil => exact ⟨[], .nil⟩
      | cons byte rest =>
          by_cases begins : Begins [byte]
          · obtain ⟨piece, others, rfl, ⟨char, within⟩, stops⟩ := exists_longest begins rest
            obtain ⟨text, spells⟩ := behind (List.append_assoc [byte] piece others).symm
              (List.cons_ne_nil byte piece)
            have notWhole : [byte] ++ piece ≠ encodeChar char := by
              intro same
              exact first ⟨char, others, by rw [← same]; rfl⟩
            exact ⟨_, .broken (.beginning (List.cons_ne_nil _ _) within notWhole stops) spells⟩
          · have parts : byte :: rest = [byte] ++ rest := rfl
            obtain ⟨text, spells⟩ := behind parts (List.cons_ne_nil byte [])
            exact ⟨_, .broken (.stray begins) spells⟩

/-- The decoder gives the text that some bytes spell, and no other text is spelled by them. -/
theorem spells_iff {bytes : Bytes} {text : List Char} :
    Spells bytes.toList text ↔ text = (decode bytes).toList := by
  have given : ∀ {bytes : List UInt8} {text : List Char}, Spells bytes text →
      text = Decoder.boundary.rest bytes := by
    intro bytes text spells
    induction spells with
    | nil => rfl
    | @char char rest text spells inductionHypothesis =>
        rw [rest_of_encodeChar, inductionHypothesis]
    | broken broken spells inductionHypothesis =>
        rw [rest_of_broken broken, inductionHypothesis]
  rw [toList_decode]
  refine ⟨given, ?_⟩
  rintro rfl
  obtain ⟨text, spells⟩ := exists_spells bytes.toList
  rwa [← given spells]

-- The first two bytes of a surrogate do not begin a character together.
example : Spells [0xED, 0xA0, 0x41] ['\uFFFD', '\uFFFD', 'A'] :=
  (@spells_iff #[0xED, 0xA0, 0x41] _).mpr (by decide +kernel)

end BooleanSearch.Utf8
