import BooleanSearch.Proofs.Stream.ChunkScan
import BooleanSearch.Proofs.Stream.Offers
import BooleanSearch.Proofs.Text.Pieces
import Mathlib.Data.List.DropRight

/-!
# What a scan of lines finds

The accepted lines of a file are listed with the offsets of their first bytes, as many as are wanted,
and a further one is noted.  A scan gives this list, whether the file is read whole or by chunks of
any size: between two bytes, it has found what is to be listed of the lines that have ended, and
holds the line that has not.
-/

namespace BooleanSearch.Stream

open Files

/-! ## The lines of a file -/

/-- The lines of a file: what stands between line feeds, without an empty last piece. -/
def linesOf (bytes : List UInt8) : List (List UInt8) :=
  let pieces := bytes.splitOn lineFeed
  if pieces.getLast? = some [] then pieces.dropLast else pieces

/-- A decoded line without the carriage returns at its end. -/
def readLine (line : List UInt8) : Text :=
  ((Utf8.decode line.toArray).toList.rdropWhile (· == '\r')).toArray

/-- Lines, read, with the offsets of their first bytes.  A line feed stands between neighbours. -/
def located : Nat → List (List UInt8) → List (Nat × Text)
  | _, [] => []
  | offset, line :: rest => (offset, readLine line) :: located (offset + line.length + 1) rest

/-- The bytes of lines with their line feeds. -/
def span : List (List UInt8) → Nat
  | [] => 0
  | line :: rest => line.length + 1 + span rest

/-- The first of some lines, as many as are wanted, and whether there are more. -/
def firstOf (most : Nat) (lines : List (Nat × Text)) : LineScan where
  lines := (lines.take most).map (·.2)
  offsets := (lines.take most).map (·.1)
  truncated := decide (most < lines.length)

def accepted (judge : Text → Bool) (lines : List (Nat × Text)) : List (Nat × Text) :=
  lines.filter fun line => judge line.2

def listing (judge : Text → Bool) (most : Nat) (lines : List (Nat × Text)) : LineScan :=
  firstOf most (accepted judge lines)

theorem lineText_eq_readLine (line : List UInt8) : lineText line.toArray = readLine line := by
  unfold lineText readLine List.rdropWhile
  generalize Utf8.decode line.toArray = text
  have dropped : ∀ chars : List Char, chars.dropWhile (· == '\r') =
      chars.drop (chars.takeWhile (· == '\r')).length := by
    intro chars
    conv_rhs =>
      arg 2
      rw [← List.takeWhile_append_dropWhile (p := (· == '\r')) (l := chars)]
    exact List.drop_left.symm
  apply Array.toList_inj.mp
  rw [dropped, List.reverse_drop, List.reverse_reverse]
  simp

theorem linesOf_of_divided {bytes rest : List UInt8} {ended : List (List UInt8)}
    (divided : bytes.splitOn lineFeed = ended ++ [rest]) :
    linesOf bytes = if rest = [] then ended else ended ++ [rest] := by
  unfold linesOf
  rw [divided]
  simp

/-- If a file is not empty, a bound on its lines bounds all its pieces. -/
theorem length_le_of_lines {longest : Int} {bytes : List UInt8} (some_ : bytes ≠ [])
    (short : ∀ line ∈ linesOf bytes, (line.length : Int) ≤ longest) :
    ∀ piece ∈ bytes.splitOn lineFeed, (piece.length : Int) ≤ longest := by
  obtain ⟨ended, rest, divided⟩ := exists_pieces lineFeed bytes
  rw [linesOf_of_divided divided] at short
  rw [divided]
  by_cases none : rest = []
  · subst none
    rw [if_pos rfl] at short
    have nonempty : ended ≠ [] := by
      rintro rfl
      have whole : [lineFeed].intercalate (bytes.splitOn lineFeed) = bytes :=
        List.intercalate_splitOn lineFeed
      rw [divided] at whole
      exact some_ whole.symm
    obtain ⟨line, others, rfl⟩ := List.exists_cons_of_ne_nil nonempty
    have least := short line List.mem_cons_self
    intro piece member
    rcases List.mem_append.mp member with before | last
    · exact short piece before
    · rw [List.mem_singleton.mp last, List.length_nil]
      omega
  · rw [if_neg none] at short
    exact short

theorem located_concat (offset : Nat) (lines : List (List UInt8)) (line : List UInt8) :
    located offset (lines ++ [line]) =
      located offset lines ++ [(offset + span lines, readLine line)] := by
  induction lines generalizing offset with
  | nil => rfl
  | cons first rest inductionHypothesis =>
      have further : offset + first.length + 1 + span rest = offset + span (first :: rest) := by
        simp only [span]
        omega
      rw [List.cons_append, located, inductionHypothesis, further]
      rfl

theorem span_concat (lines : List (List UInt8)) (line : List UInt8) :
    span (lines ++ [line]) = span lines + line.length + 1 := by
  induction lines with
  | nil => simp [span]
  | cons first rest inductionHypothesis =>
      rw [List.cons_append, span, inductionHypothesis, span]
      omega

section

variable {judge : Text → Bool} {most : Nat} {lines : List (Nat × Text)} {line : Nat × Text}

/-- Once there was no room for a line, nothing changes. -/
theorem firstOf_concat_of_truncated (truncated : (firstOf most lines).truncated = true) :
    firstOf most (lines ++ [line]) = firstOf most lines := by
  have more : most < lines.length := of_decide_eq_true truncated
  have stillMore : most < (lines ++ [line]).length := by
    rw [List.length_append]
    omega
  simp only [firstOf, List.take_append_of_le_length (Nat.le_of_lt more), more, stillMore]

theorem firstOf_concat (going : (firstOf most lines).truncated = false) :
    firstOf most (lines ++ [line]) = (firstOf most lines).add most line.2 line.1 := by
  have atMost : lines.length ≤ most := Nat.not_lt.mp (of_decide_eq_false going)
  have length : (lines ++ [line]).length = lines.length + 1 := List.length_append
  unfold LineScan.add
  by_cases full : most = lines.length
  · subst full
    rw [if_pos (by simp [firstOf])]
    simp [firstOf]
  · have room : (lines ++ [line]).length ≤ most := by omega
    rw [if_neg (by simp [firstOf, List.take_of_length_le atMost]; omega)]
    simp only [firstOf, List.take_of_length_le atMost, List.take_of_length_le room,
      List.map_append, List.map_singleton, LineScan.mk.injEq, true_and, and_true]
    rw [decide_eq_decide]
    omega

theorem listing_concat (judged : Bool) (same : judge line.2 = judged) :
    listing judge most (lines ++ [line]) =
      if (listing judge most lines).truncated || !judged then listing judge most lines
      else (listing judge most lines).add most line.2 line.1 := by
  unfold listing accepted
  rw [List.filter_append, List.filter_singleton, same]
  cases judged with
  | false => simp
  | true =>
      rw [cond_true, Bool.not_true, Bool.or_false]
      split
      · next truncated => exact firstOf_concat_of_truncated truncated
      · next going => exact firstOf_concat (Bool.not_eq_true _ ▸ going)

end

/-! ## The invariant of a scan -/

/-- A scan after some lines that have ended, and the bytes of one that has not. -/
structure Gathered (judge : Text → Bool) (most : Nat) (ended : List (List UInt8))
    (rest : List UInt8) (state : LineState) : Prop where
  scan : state.scan = listing judge most (located 0 ended)
  pending : state.scan.ended = false → state.pending.toList = rest
  offset : state.scan.ended = false → state.offset = span ended

/-- A scan after some bytes. -/
def LinesSeen (judge : Text → Bool) (most : Nat) (seen : List UInt8) (state : LineState) : Prop :=
  ∃ ended rest, seen.splitOn lineFeed = ended ++ [rest] ∧ Gathered judge most ended rest state

variable {σ : Type} {admits : σ → Prop} {accepts : Matcher (StateM σ)} {judge : Text → Bool}
  {most : Nat} {ended : List (List UInt8)} {rest seen : List UInt8} {state : LineState}

theorem ended_eq_truncated (gathered : Gathered judge most ended rest state) :
    state.scan.ended = (listing judge most (located 0 ended)).truncated := by
  rw [gathered.scan]
  exact Bool.or_false _

/-- The line that has not ended is offered, and then counts among those that have. -/
theorem ensures_endLine (judges : ∀ text, Judges admits accepts judge text)
    (gathered : Gathered judge most ended rest state) (going : state.scan.ended = false)
    (skipped : Nat) :
    Ensures admits (state.endLine accepts most skipped) fun next =>
      next.scan = listing judge most (located 0 (ended ++ [rest])) ∧ next.pending = #[] ∧
        next.offset = span ended + rest.length + skipped := by
  have notTruncated := (ended_eq_truncated gathered).symm.trans going
  have pending : state.pending = rest.toArray := by
    rw [← gathered.pending going]
  have further : listing judge most (located 0 ended ++ [(0 + span ended, readLine rest)]) =
      _ := listing_concat _ rfl
  rw [← located_concat, notTruncated, Bool.false_or] at further
  unfold LineState.endLine
  rw [pending, gathered.offset going, gathered.scan, lineText_eq_readLine]
  refine Ensures.bind (judges _) fun outcome given => ?_
  subst given
  cases judged : judge (readLine rest) with
  | false =>
      rw [judged] at further
      exact Ensures.pure ⟨further.symm, rfl, rfl⟩
  | true =>
      rw [judged, Nat.zero_add] at further
      exact Ensures.pure ⟨further.symm, rfl, rfl⟩

/-- A scan that is over stays as it is, whatever follows. -/
theorem gathered_concat (gathered : Gathered judge most ended rest state)
    (halted : state.scan.ended = true) (line next : List UInt8) :
    Gathered judge most (ended ++ [line]) next state := by
  have truncated := (ended_eq_truncated gathered).symm.trans halted
  have never : ¬ state.scan.ended = false := by simp [halted]
  refine ⟨?_, fun going => absurd going never, fun going => absurd going never⟩
  rw [located_concat, listing_concat _ rfl, truncated]
  exact gathered.scan

theorem ensures_takeByte (judges : ∀ text, Judges admits accepts judge text)
    (known : LinesSeen judge most seen state) (byte : UInt8) :
    Ensures admits (state.takeByte accepts most byte) (LinesSeen judge most (seen ++ [byte])) := by
  obtain ⟨ended, rest, divided, gathered⟩ := known
  have dividedByte : [byte].splitOn lineFeed =
      if (byte == lineFeed) = true then [] :: [[]] else [[byte]] := by
    rw [splitOn_cons]
    rfl
  -- A line feed ends the open piece and opens an empty one; another byte goes on with it.
  unfold LineState.takeByte
  by_cases feeds : (byte == lineFeed) = true
  · rw [if_pos feeds] at dividedByte
    have next : (seen ++ [byte]).splitOn lineFeed = (ended ++ [rest]) ++ [[]] := by
      rw [splitOn_append divided dividedByte, List.append_nil, List.append_assoc]
      rfl
    cases halted : state.scan.ended with
    | true => exact Ensures.pure ⟨_, _, next, gathered_concat gathered halted rest []⟩
    | false =>
        rw [if_neg Bool.false_ne_true, if_pos feeds]
        intro session admitted
        obtain ⟨⟨scan, pending, offset⟩, kept⟩ :=
          ensures_endLine judges gathered halted 1 session admitted
        refine ⟨⟨_, _, next, scan, fun _ => ?_, fun _ => ?_⟩, kept⟩
        · rw [pending]
        · rw [offset, span_concat]
  · rw [if_neg feeds] at dividedByte
    have next : (seen ++ [byte]).splitOn lineFeed = ended ++ [rest ++ [byte]] :=
      splitOn_append divided dividedByte
    cases halted : state.scan.ended with
    | true =>
        have never : ¬ state.scan.ended = false := by simp [halted]
        exact Ensures.pure ⟨_, _, next, gathered.scan, fun going => absurd going never,
          fun going => absurd going never⟩
    | false =>
        rw [if_neg Bool.false_ne_true, if_neg feeds]
        refine Ensures.pure ⟨_, _, next, gathered.scan, fun _ => ?_, gathered.offset⟩
        rw [Array.toList_push, gathered.pending halted]

theorem ensures_takeEach (judges : ∀ text, Judges admits accepts judge text) (bytes : List UInt8)
    (known : LinesSeen judge most seen state) :
    Ensures admits (bytes.foldlM (LineState.takeByte accepts most) state)
      (LinesSeen judge most (seen ++ bytes)) := by
  induction bytes generalizing seen state with
  | nil =>
      rw [List.append_nil]
      exact Ensures.pure known
  | cons byte others inductionHypothesis =>
      rw [List.foldlM_cons, List.append_cons]
      exact Ensures.bind (ensures_takeByte judges known byte) fun next nextKnown =>
        inductionHypothesis nextKnown

/-- A chunk keeps the invariant, since no line is too long. -/
theorem ensures_takeBytes (judges : ∀ text, Judges admits accepts judge text) {longest : Int}
    {chunk : Bytes} {later : List UInt8} (known : LinesSeen judge most seen state)
    (short : ∀ piece ∈ (seen ++ chunk.toList ++ later).splitOn lineFeed,
      (piece.length : Int) ≤ longest) :
    Ensures admits (state.takeBytes accepts most longest chunk)
      (LinesSeen judge most (seen ++ chunk.toList)) := by
  unfold LineState.takeBytes
  rw [← Array.foldlM_toList]
  refine Ensures.bind (ensures_takeEach judges chunk.toList known) fun next nextKnown => ?_
  -- The open piece is part of a line, so it is never so long that it would count as one.
  have fits : ¬ (!next.scan.ended && !chunk.contains lineFeed &&
      decide (longest < next.pending.size)) = true := by
    obtain ⟨ended, rest, divided, gathered⟩ := nextKnown
    simp only [Bool.and_eq_true, Bool.not_eq_true', decide_eq_true_eq, not_and, Int.not_lt]
    rintro ⟨going, -⟩
    rw [← Array.length_toList, gathered.pending going]
    exact length_le_of_open divided short
  rw [if_neg fits]
  exact Ensures.pure nextKnown

theorem exists_toList_foldl_append (chunks : List Bytes) (seen : Bytes) :
    ∃ rest, (chunks.foldl (· ++ ·) seen).toList = seen.toList ++ rest := by
  induction chunks generalizing seen with
  | nil => exact ⟨[], (List.append_nil _).symm⟩
  | cons chunk others inductionHypothesis =>
      obtain ⟨rest, whole⟩ := inductionHypothesis (seen ++ chunk)
      refine ⟨chunk.toList ++ rest, ?_⟩
      rw [List.foldl_cons, whole, Array.toList_append, List.append_assoc]

theorem ensures_takeAllBytes (judges : ∀ text, Judges admits accepts judge text) {longest : Int}
    (chunks : List Bytes) {seen : Bytes} {state : LineState}
    (known : LinesSeen judge most seen.toList state)
    (short : ∀ piece ∈ (chunks.foldl (· ++ ·) seen).toList.splitOn lineFeed,
      (piece.length : Int) ≤ longest) :
    Ensures admits (chunks.foldlM (LineState.takeBytes accepts most longest) state)
      (LinesSeen judge most (chunks.foldl (· ++ ·) seen).toList) := by
  induction chunks generalizing seen state with
  | nil => exact Ensures.pure known
  | cons chunk others inductionHypothesis =>
      rw [List.foldlM_cons]
      rw [List.foldl_cons] at short ⊢
      obtain ⟨rest, whole⟩ := exists_toList_foldl_append others (seen ++ chunk)
      rw [Array.toList_append] at whole
      refine Ensures.bind (ensures_takeBytes judges known (whole ▸ short)) fun next nextKnown => ?_
      exact inductionHypothesis (by rwa [Array.toList_append]) short

/-- At the end of a file the line that has not ended is offered, unless it is empty. -/
theorem ensures_finish (judges : ∀ text, Judges admits accepts judge text)
    (known : LinesSeen judge most seen state) :
    Ensures admits (state.finish accepts most) fun scan =>
      scan = listing judge most (located 0 (linesOf seen)) := by
  obtain ⟨ended, rest, divided, gathered⟩ := known
  have lines := linesOf_of_divided divided
  unfold LineState.finish
  cases halted : state.scan.ended with
  | true =>
      have last := (gathered_concat gathered halted rest []).scan
      rw [Bool.true_or, if_pos rfl, lines]
      split
      · exact Ensures.pure gathered.scan
      · exact Ensures.pure last
  | false =>
      have pending : state.pending.isEmpty = rest.isEmpty := by
        rw [← gathered.pending halted, Array.isEmpty_toList]
      rw [Bool.false_or, pending, lines]
      by_cases none : rest = []
      · rw [if_pos (List.isEmpty_iff.mpr none), if_pos none]
        exact Ensures.pure gathered.scan
      · rw [if_neg (fun empty => none (List.isEmpty_iff.mp empty)), if_neg none]
        exact Ensures.bind (ensures_endLine judges gathered halted 0) fun next found =>
          Ensures.pure found.1

theorem linesSeen_start : LinesSeen judge most [] {} :=
  ⟨[], [], rfl, by simp [listing, accepted, firstOf, located], fun _ => rfl, fun _ => rfl⟩

theorem ensures_scanWhole (judges : ∀ text, Judges admits accepts judge text) (bytes : Bytes) :
    Ensures admits (scanWhole accepts most bytes) fun scan =>
      scan = listing judge most (located 0 (linesOf bytes.toList)) := by
  unfold scanWhole
  rw [← Array.foldlM_toList]
  exact Ensures.bind (ensures_takeEach judges bytes.toList linesSeen_start) fun last known =>
    ensures_finish judges known

theorem ensures_scanLines (judges : ∀ text, Judges admits accepts judge text) {longest : Int}
    {chunks : List Bytes} {bytes : Bytes} (whole : chunks.foldl (· ++ ·) #[] = bytes)
    (short : ∀ piece ∈ bytes.toList.splitOn lineFeed, (piece.length : Int) ≤ longest) :
    Ensures admits (scanLines accepts most longest chunks) fun scan =>
      scan = listing judge most (located 0 (linesOf bytes.toList)) := by
  subst whole
  unfold scanLines
  exact Ensures.bind (ensures_takeAllBytes judges chunks linesSeen_start short) fun last known =>
    ensures_finish judges known

/-- A scan of the chunks of a file lists its accepted lines, whatever the size of the chunks. -/
theorem ensures_scanLines_chunksOf (judges : ∀ text, Judges admits accepts judge text)
    {longest : Int} {size : Nat} (positive : 0 < size) (bytes : Bytes)
    (short : ∀ line ∈ linesOf bytes.toList, (line.length : Int) ≤ longest) :
    Ensures admits (scanLines accepts most longest (chunksOf size bytes)) fun scan =>
      scan = listing judge most (located 0 (linesOf bytes.toList)) := by
  by_cases none : bytes = #[]
  · have noChunks : chunksOf size bytes = [] := by
      subst none
      have noBlock : (size - 1) / size = 0 := Nat.div_eq_of_lt (by omega)
      simp [chunksOf, noBlock]
    rw [noChunks]
    have scanned : Ensures admits (scanWhole accepts most bytes) _ := ensures_scanWhole judges bytes
    subst none
    exact scanned
  · refine ensures_scanLines judges (foldl_chunksOf positive bytes) (length_le_of_lines ?_ short)
    rwa [ne_eq, Array.toList_eq_nil_iff]

/-- The lines of a file are the accepted ones, with the offsets of their first bytes and as many as
are wanted, whether the file is read whole or by chunks, and there are more exactly if it is said
so. -/
theorem Scanner.ensures_lines (request : Scanner.Request) {scanner : Scanner} {files : Tree}
    {path : String} {bytes : Bytes} {modified : Float}
    (judges : ∀ text, Judges admits accepts judge text)
    (reads : scanner.Reads files path request bytes modified)
    (positive : 1 ≤ scanner.chunkSize request)
    (short : ∀ line ∈ linesOf bytes.toList, (line.length : Int) ≤ scanner.settings.bufferLimit)
    (most : Nat) :
    Ensures admits (scanner.lines files path accepts request most) fun result =>
      let found := accepted judge (located 0 (linesOf bytes.toList))
      result.1 = .ok ⟨(found.take most).map (·.2), (found.take most).map (·.1),
        decide (most < found.length), none⟩ := by
  obtain ⟨after, whole | inChunks⟩ := Scanner.lines_of_reads accepts reads positive most
  · rw [whole]
    refine Ensures.bind (ensures_scanWhole judges bytes) fun scan found => ?_
    subst found
    exact Ensures.pure rfl
  · rw [inChunks]
    refine Ensures.bind (ensures_scanLines_chunksOf judges (by omega) bytes short) fun scan found => ?_
    subst found
    exact Ensures.pure rfl

/-- Four lines, one with a carriage return, one empty, and one without an end. -/
def fourLines : Bytes := Utf8.encodeString "ab\r\nc\n\nxa"

def threeByteScanner : Scanner := { settings := { chunkSize := 3 } }

/-- In chunks of three bytes, the first of two accepted lines is found, and that there is another. -/
theorem lines_of_fourLines :
    ((threeByteScanner.lines (.folder [("a.txt", .file fourLines 0.0)]) "a.txt"
        (fun text => pure (.ok (text.contains 'a')) : Matcher (StateM Unit)) {} 1).run ()).1.1 =
      .ok ⟨[Text.ofString "ab"], [0], true, none⟩ := by
  have reads : threeByteScanner.Reads (.folder [("a.txt", .file fourLines 0.0)]) "a.txt" {}
      fourLines 0.0 :=
    ⟨rfl, ⟨⟨rfl, nofun⟩, fun _ => rfl⟩, nofun⟩
  have judges : ∀ text : Text, Judges (fun _ : Unit => True)
      (fun text => pure (.ok (text.contains 'a'))) (fun text => text.contains 'a') text :=
    fun _ => Ensures.pure rfl
  have listed := (Scanner.ensures_lines {} judges reads (by decide) (by decide +kernel) 1 ()
    trivial).1
  have found : accepted (fun text => text.contains 'a') (located 0 (linesOf fourLines.toList)) =
      [(0, Text.ofString "ab"), (7, Text.ofString "xa")] := by
    decide +kernel
  dsimp only at listed
  rw [found, Int.natCast_one] at listed
  exact listed

end BooleanSearch.Stream
