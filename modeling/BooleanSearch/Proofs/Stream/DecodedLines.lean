import BooleanSearch.Proofs.Stream.LineScan

/-!
# Lines of a decoded file

A line feed is a character of its own wherever it stands in a file, so a file decoded whole is made of its
lines, decoded one by one, with line ends between them.  A word that holds neither line ends nor carriage
returns therefore stands in a decoded file only if it stands in one of the lines as they are read.  And a
line that is listed with an offset stands there in the file.
-/

namespace BooleanSearch

/-! ## Words between separators -/

section

variable {α : Type} {word front back : List α} {separator : α}

/-- A word without separators does not stand across one. -/
theorem isInfix_append_cons (absent : separator ∉ word)
    (within : word <:+: front ++ separator :: back) : word <:+: front ∨ word <:+: back := by
  rcases List.infix_append_iff.mp within with left | right | ⟨start, rest, rfl, suffix, before⟩
  · exact Or.inl left
  · rcases List.infix_cons_iff.mp right with before | inside
    · rcases List.prefix_cons_iff.mp before with rfl | ⟨others, rfl, -⟩
      · exact Or.inl List.nil_infix
      · exact absurd List.mem_cons_self absent
    · exact Or.inr inside
  · rcases List.prefix_cons_iff.mp before with rfl | ⟨others, rfl, -⟩
    · rw [List.append_nil]
      exact Or.inl suffix.isInfix
    · exact absurd (List.mem_append_right start List.mem_cons_self) absent

/-- A word stands before what shares no character with it. -/
theorem isInfix_of_disjoint (apart : ∀ item ∈ back, item ∉ word) (within : word <:+: front ++ back) :
    word <:+: front := by
  induction back generalizing front with
  | nil => rwa [List.append_nil] at within
  | cons item rest inductionHypothesis =>
      have absent := apart item List.mem_cons_self
      have later : ∀ item ∈ rest, item ∉ word :=
        fun item member => apart item (List.mem_cons_of_mem _ member)
      rcases isInfix_append_cons absent within with inside | after
      · exact inside
      · have front : word <:+: ([] : List α) := inductionHypothesis later (by simpa using after)
        rw [List.infix_nil.mp front]
        exact List.nil_infix

end

/-! ## Decoding at line feeds -/

namespace Utf8.Decoder

/-- A decoder that comes about by feeding bytes: inside a character it waits for a byte that is no ASCII
character. -/
def Reached : Decoder → Prop
  | .inside _ _ low _ => 0x80 ≤ low
  | _ => True

theorem reached_lead (byte : Nat) : (lead byte).1.Reached := by
  unfold lead
  split_ifs <;> simp [Reached]

theorem Reached.step {decoder : Decoder} (reached : decoder.Reached) (byte : UInt8) :
    (decoder.step byte).1.Reached := by
  cases decoder with
  | boundary => exact reached_lead _
  | inside missing bits low high =>
      dsimp only [Decoder.step]
      split_ifs
      · trivial
      · exact Nat.le_refl _
      · trivial
      · exact reached_lead _
  | surrogate => exact reached_lead _

theorem reached_feed {decoder : Decoder} (reached : decoder.Reached) (bytes : Bytes) :
    (decoder.feed bytes).1.Reached := by
  rw [feed_eq_foldl]
  generalize (#[] : Text) = text
  induction bytes.toList generalizing decoder text with
  | nil => exact reached
  | cons byte rest inductionHypothesis => exact inductionHypothesis (reached.step byte) _

/-- A line feed ends the character that is being read, and is one itself. -/
theorem Reached.feed_lineFeed {decoder : Decoder} (reached : decoder.Reached) :
    decoder.feed #[Stream.lineFeed] = (.boundary, decoder.finish ++ #['\n']) := by
  cases decoder with
  | boundary => rfl
  | inside missing bits low high =>
      have early : ¬ (low ≤ 10) := by
        have least : 0x80 ≤ low := reached
        omega
      rw [feed_eq_foldl]
      simp [advance, Decoder.step, Stream.lineFeed, early, lead, finish]
  | surrogate => rfl

end Utf8.Decoder

namespace Stream

open Utf8

/-- The characters of some bytes. -/
def decoded (bytes : List UInt8) : List Char :=
  (Utf8.decode bytes.toArray).toList

theorem decoded_lineFeed (first second : List UInt8) :
    decoded (first ++ lineFeed :: second) = decoded first ++ '\n' :: decoded second := by
  have parts : (first ++ lineFeed :: second).toArray =
      first.toArray ++ (#[lineFeed] ++ second.toArray) := by simp
  have reached : (Decoder.boundary.feed first.toArray).1.Reached :=
    Decoder.reached_feed (show Decoder.boundary.Reached from trivial) _
  unfold decoded decode
  rw [parts, Decoder.feed_append, Decoder.feed_append, reached.feed_lineFeed]
  simp

/-- A word that stands in a decoded file stands in a decoded piece between line feeds. -/
theorem exists_piece_of_infix {word : List Char} (noBreak : '\n' ∉ word) {bytes : List UInt8}
    (within : word <:+: decoded bytes) :
    ∃ piece ∈ bytes.splitOn lineFeed, word <:+: decoded piece := by
  have whole : [lineFeed].intercalate (bytes.splitOn lineFeed) = bytes :=
    List.intercalate_splitOn lineFeed
  have some_ := splitOn_ne_nil lineFeed bytes
  generalize bytes.splitOn lineFeed = pieces at whole some_ ⊢
  induction pieces generalizing bytes with
  | nil => exact absurd rfl some_
  | cons piece rest inductionHypothesis =>
      cases rest with
      | nil =>
          refine ⟨piece, List.mem_cons_self, ?_⟩
          rwa [← whole, List.intercalate_singleton] at within
      | cons next others =>
          rw [← whole, List.intercalate_cons_cons, List.append_assoc, List.singleton_append,
            decoded_lineFeed] at within
          rcases isInfix_append_cons noBreak within with here | later
          · exact ⟨piece, List.mem_cons_self, here⟩
          · obtain ⟨found, member, inside⟩ :=
              inductionHypothesis later rfl (List.cons_ne_nil _ _)
            exact ⟨found, List.mem_cons_of_mem _ member, inside⟩

theorem mem_linesOf_of_piece {bytes piece : List UInt8} (member : piece ∈ bytes.splitOn lineFeed)
    (some_ : piece ≠ []) : piece ∈ linesOf bytes := by
  obtain ⟨ended, rest, divided⟩ := exists_pieces lineFeed bytes
  rw [divided, List.mem_append, List.mem_singleton] at member
  rw [linesOf_of_divided divided]
  rcases member with before | rfl
  · split
    · exact before
    · exact List.mem_append_left _ before
  · rw [if_neg some_]
    exact List.mem_append_right _ (List.mem_singleton_self _)

/-- A word that is not empty and stands in a decoded file stands in a line as it is read. -/
theorem exists_line_of_infix {word : List Char} (some_ : word ≠ []) (noBreak : '\n' ∉ word)
    (noReturn : '\r' ∉ word) {bytes : List UInt8} (within : word <:+: decoded bytes) :
    ∃ line ∈ linesOf bytes, word <:+: (readLine line).toList := by
  obtain ⟨piece, member, inside⟩ := exists_piece_of_infix noBreak within
  have filled : piece ≠ [] := by
    rintro rfl
    exact some_ (List.infix_nil.mp inside)
  refine ⟨piece, mem_linesOf_of_piece member filled, ?_⟩
  have parts : decoded piece = (decoded piece).rdropWhile (· == '\r') ++
      (decoded piece).rtakeWhile (· == '\r') := List.rdropWhile_append_rtakeWhile.symm
  rw [parts] at inside
  refine isInfix_of_disjoint (fun char returned => ?_) inside
  have same := List.mem_rtakeWhile_imp returned
  rwa [beq_iff_eq.mp same]

/-! ## Lines and their offsets -/

/-- A line stands at an offset: a line feed or the start of the file is before it, a line feed or the end of
the file after it, and there is none inside. -/
structure LineAt (bytes : List UInt8) (offset : Nat) (line : List UInt8) : Prop where
  whole : lineFeed ∉ line
  stands : ∃ before after, bytes = before ++ line ++ after ∧ before.length = offset ∧
    (before = [] ∨ before.getLast? = some lineFeed) ∧ (after = [] ∨ after.head? = some lineFeed)

/-- Lines with the line feeds after them. -/
def closed (lines : List (List UInt8)) : List UInt8 :=
  lines.flatMap (· ++ [lineFeed])

theorem length_closed (lines : List (List UInt8)) : (closed lines).length = span lines := by
  induction lines with
  | nil => rfl
  | cons line rest inductionHypothesis =>
      rw [closed, List.flatMap_cons, List.length_append, ← closed, inductionHypothesis,
        List.length_append, span]
      rfl

theorem closed_eq_nil_or (lines : List (List UInt8)) :
    closed lines = [] ∨ (closed lines).getLast? = some lineFeed := by
  rcases List.eq_nil_or_concat lines with rfl | ⟨front, last, rfl⟩
  · exact Or.inl rfl
  · exact Or.inr (by simp [closed])

/-- The bytes around one of some pieces. -/
theorem exists_intercalate (front back : List (List UInt8)) (line : List UInt8) :
    ∃ after, [lineFeed].intercalate (front ++ line :: back) = closed front ++ line ++ after ∧
      (after = [] ∨ after.head? = some lineFeed) := by
  induction front with
  | nil =>
      cases back with
      | nil => exact ⟨[], by simp [closed], Or.inl rfl⟩
      | cons next others =>
          exact ⟨lineFeed :: [lineFeed].intercalate (next :: others), by simp [closed], Or.inr rfl⟩
  | cons first rest inductionHypothesis =>
      obtain ⟨after, same, ends⟩ := inductionHypothesis
      obtain ⟨next, others, shape⟩ :=
        List.exists_cons_of_ne_nil (List.append_ne_nil_of_right_ne_nil rest (List.cons_ne_nil line back))
      refine ⟨after, ?_, ends⟩
      rw [List.cons_append, shape, List.intercalate_cons_cons, ← shape, same]
      simp [closed]

theorem exists_of_mem_located {start offset : Nat} {text : Text} {lines : List (List UInt8)}
    (member : (offset, text) ∈ located start lines) :
    ∃ front line back, lines = front ++ line :: back ∧ offset = start + span front ∧
      text = readLine line := by
  induction lines generalizing start with
  | nil => exact absurd member List.not_mem_nil
  | cons line rest inductionHypothesis =>
      rw [located] at member
      rcases List.mem_cons.mp member with same | later
      · cases same
        exact ⟨[], line, rest, rfl, rfl, rfl⟩
      · obtain ⟨front, found, back, rfl, rfl, read⟩ := inductionHypothesis later
        refine ⟨line :: front, found, back, rfl, ?_, read⟩
        rw [span]
        omega

/-- The lines of a file stand at their offsets. -/
theorem lineAt_of_mem_located {bytes : List UInt8} {offset : Nat} {text : Text}
    (member : (offset, text) ∈ located 0 (linesOf bytes)) :
    ∃ line, LineAt bytes offset line ∧ text = readLine line := by
  obtain ⟨front, line, back, shape, rfl, read⟩ := exists_of_mem_located member
  obtain ⟨ended, rest, divided⟩ := exists_pieces lineFeed bytes
  obtain ⟨more, pieces⟩ : ∃ more, bytes.splitOn lineFeed = linesOf bytes ++ more := by
    rw [linesOf_of_divided divided, divided]
    split
    · exact ⟨_, rfl⟩
    · exact ⟨[], (List.append_nil _).symm⟩
  rw [shape, List.append_assoc, List.cons_append] at pieces
  obtain ⟨after, whole, ends⟩ := exists_intercalate front (back ++ more) line
  rw [← pieces, List.intercalate_splitOn] at whole
  refine ⟨line, ⟨?_, closed front, after, whole, ?_, closed_eq_nil_or front, ends⟩, read⟩
  · exact not_mem_of_mem_splitOn line (pieces ▸ List.mem_append_right _ List.mem_cons_self)
  · rw [length_closed, Nat.zero_add]

theorem exists_mem_located {line : List UInt8} {lines : List (List UInt8)} (member : line ∈ lines)
    (start : Nat) : ∃ offset, (offset, readLine line) ∈ located start lines := by
  induction lines generalizing start with
  | nil => exact absurd member List.not_mem_nil
  | cons first rest inductionHypothesis =>
      rcases List.mem_cons.mp member with rfl | later
      · exact ⟨start, List.mem_cons_self⟩
      · obtain ⟨offset, found⟩ := inductionHypothesis later (start + first.length + 1)
        exact ⟨offset, List.mem_cons_of_mem _ found⟩

end Stream

end BooleanSearch
