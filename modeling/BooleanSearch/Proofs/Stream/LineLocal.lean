import BooleanSearch.Proofs.Stream.ChunkScan
import BooleanSearch.Proofs.Stream.Offers
import BooleanSearch.Proofs.Text.Pieces
import Mathlib.Data.List.Infix

/-!
# Matchers of single lines

If a matcher accepts a text as soon as it accepts one of its lines, a scan by chunks tells whether it
accepts the whole text, however often the buffer is emptied.  The buffer always begins where a line
begins, and it is emptied at the end of a line as long as no line is longer than the buffer may be.
So what was offered before are whole lines, and a line that was cut between chunks is still offered
as a whole.
-/

namespace BooleanSearch.Stream

/-- A judgement that a text gets from its lines, and keeps when something is put around it. -/
structure LineLocal (judge : Text → Bool) : Prop where
  lines : ∀ text, judge text = true ↔
    ∃ line ∈ text.toList.splitOn '\n', judge line.toArray = true
  grows : ∀ before text after, judge text = true → judge (before ++ text ++ after) = true

/-! ## Whole lines -/

/-- A text that is empty or ends with a line end. -/
def WholeLines (text : Text) : Prop :=
  ∃ lines, text.toList.splitOn '\n' = lines ++ [[]]

theorem WholeLines.append {first second : Text} (whole : WholeLines first)
    (wholeNext : WholeLines second) : WholeLines (first ++ second) := by
  obtain ⟨lines, divided⟩ := whole
  obtain ⟨more, dividedNext⟩ := wholeNext
  unfold WholeLines
  rw [Array.toList_append]
  cases more with
  | nil => exact ⟨lines, splitOn_append divided dividedNext⟩
  | cons line others =>
      refine ⟨lines ++ line :: others, ?_⟩
      rw [splitOn_append divided (show _ = line :: (others ++ [[]]) from dividedNext)]
      simp

/-- The buffer is divided after its last line end. -/
theorem flushPoint_eq {before after : List Char} (noBreak : '\n' ∉ after) :
    flushPoint (before ++ '\n' :: after).toArray = before.length + 1 := by
  have found : ((before ++ '\n' :: after).reverse.findIdx? (· == '\n')) = some after.length := by
    have noneAfter : after.reverse.findIdx? (· == '\n') = none := by
      rw [List.findIdx?_eq_none_iff]
      intro char member
      rw [beq_eq_false_iff_ne]
      rintro rfl
      exact noBreak (List.mem_reverse.mp member)
    rw [List.reverse_append, List.reverse_cons, List.append_assoc, List.findIdx?_append, noneAfter]
    simp [List.findIdx?_cons]
  unfold flushPoint
  rw [found]
  simp only [List.size_toArray, List.length_append, List.length_cons]
  omega

/-- A buffer with a line end in it has a last one. -/
theorem exists_lastBreak {buffer : Text} (breaks : '\n' ∈ buffer.toList) :
    ∃ before after, buffer = (before ++ '\n' :: after).toArray ∧ '\n' ∉ after := by
  obtain ⟨reversed, others, same, noBreak⟩ :=
    List.eq_append_cons_of_mem (List.mem_reverse.mpr breaks)
  refine ⟨others.reverse, reversed.reverse, ?_, fun member => noBreak (List.mem_reverse.mp member)⟩
  apply Array.toList_inj.mp
  rw [List.toList_toArray, ← List.reverse_inj, same]
  simp

theorem exists_flushed {buffer : Text} (breaks : '\n' ∈ buffer.toList) :
    ∃ before after, buffer = (before ++ '\n' :: after).toArray ∧
      flushPoint buffer = before.length + 1 := by
  obtain ⟨before, after, rfl, noBreak⟩ := exists_lastBreak breaks
  exact ⟨before, after, rfl, flushPoint_eq noBreak⟩

/-- A buffer with a line end in it is emptied up to the end of a line. -/
theorem wholeLines_flushed {buffer : Text} (breaks : '\n' ∈ buffer.toList) :
    WholeLines (buffer.slice 0 (flushPoint buffer)) := by
  obtain ⟨before, after, rfl, point⟩ := exists_flushed breaks
  have front : (Text.slice (before ++ '\n' :: after).toArray 0 (before.length + 1)).toList =
      before ++ ['\n'] := by
    have size : before.length + 1 = (before ++ ['\n']).length := by simp
    unfold Text.slice
    rw [Array.toList_extract, List.extract_eq_take_drop, List.drop_zero, Nat.sub_zero,
      List.toList_toArray, List.append_cons, size, List.take_left]
  rw [point]
  refine ⟨before.splitOn '\n', ?_⟩
  rw [front]
  exact List.splitOnP_append_cons before [] (beq_self_eq_true '\n')

theorem slice_append_slice (buffer : Text) :
    buffer.slice 0 (flushPoint buffer) ++ buffer.slice (flushPoint buffer) buffer.size = buffer := by
  have within : flushPoint buffer ≤ buffer.size := by
    unfold flushPoint
    split
    · exact Nat.sub_le _ _
    · exact Nat.le_refl _
  unfold Text.slice
  rw [Array.extract_append_extract]
  simp [within]

section

variable {judge : Text → Bool} (lineLocal : LineLocal judge)

include lineLocal

theorem LineLocal.append_left {first second : Text} (accepted : judge first = true) :
    judge (first ++ second) = true := by
  simpa using lineLocal.grows #[] first second accepted

theorem LineLocal.append_right {first second : Text} (accepted : judge second = true) :
    judge (first ++ second) = true := by
  simpa using lineLocal.grows first second #[] accepted

/-- After whole lines, a text is accepted if the lines or the text are. -/
theorem LineLocal.append_iff {first second : Text} (whole : WholeLines first) :
    judge (first ++ second) = true ↔ judge first = true ∨ judge second = true := by
  refine ⟨fun accepted => ?_, fun accepted =>
    accepted.elim lineLocal.append_left lineLocal.append_right⟩
  obtain ⟨lines, divided⟩ := whole
  obtain ⟨next, others, dividedNext⟩ :=
    List.exists_cons_of_ne_nil (splitOn_ne_nil '\n' second.toList)
  obtain ⟨line, member, holds⟩ := (lineLocal.lines _).mp accepted
  rw [Array.toList_append, splitOn_append divided dividedNext, List.nil_append] at member
  rcases List.mem_append.mp member with before | after
  · refine Or.inl ((lineLocal.lines first).mpr ⟨line, ?_, holds⟩)
    rw [divided]
    exact List.mem_append_left _ before
  · refine Or.inr ((lineLocal.lines second).mpr ⟨line, ?_, holds⟩)
    rwa [dividedNext]

theorem LineLocal.refused_append {flushed next : Text} (whole : WholeLines flushed)
    (refused : flushed.isEmpty = false → judge flushed = false) (refusedNext : judge next = false) :
    judge (flushed ++ next) = false := by
  cases empty : flushed.isEmpty with
  | true => rwa [Array.isEmpty_iff.mp empty, Array.empty_append]
  | false =>
      rw [← Bool.not_eq_true, lineLocal.append_iff whole, refused empty, refusedNext]
      simp

end

/-! ## The invariant of a scan -/

/-- A text is divided into whole lines, none of which was accepted if nothing has matched, and the
buffer. -/
def Divided (judge : Text → Bool) (seen : Text) (matched : Bool) (buffer : Text) : Prop :=
  ∃ flushed, seen = flushed ++ buffer ∧ WholeLines flushed ∧
    (matched = false → flushed.isEmpty = false → judge flushed = false)

/-- A scan after a decoded text: it has matched only if the text is accepted, and unless it is over,
the buffer begins where a line of the text begins. -/
structure Watched (judge : Text → Bool) (decoder : Utf8.Decoder) (seen : Text)
    (state : ChunkState) : Prop where
  sound : state.scan.failure = none
  matched : state.scan.matched = true → judge seen = true
  ended : state.ended = true → state.scan.matched = true
  decoder : state.ended = false → state.decoder = decoder
  divided : state.ended = false → Divided judge seen state.scan.matched state.buffer

variable {σ : Type} {admits : σ → Prop} {accepts : Matcher (StateM σ)} {judge : Text → Bool}
  {limits : ChunkLimits} {seen text : Text} {state : ChunkState}

theorem Watched.stays {decoder : Utf8.Decoder} (watched : Watched judge decoder seen state)
    (lineLocal : LineLocal judge) (stopped : state.ended = true) (next : Utf8.Decoder)
    (text : Text) : Watched judge next (seen ++ text) state := by
  have never : ¬ state.ended = false := by simp [stopped]
  exact ⟨watched.sound, fun matched => lineLocal.append_left (watched.matched matched),
    watched.ended, fun going => absurd going never, fun going => absurd going never⟩

theorem Divided.append {matched : Bool} {buffer : Text}
    (divided : Divided judge seen matched buffer) (text : Text) :
    Divided judge (seen ++ text) matched (buffer ++ text) := by
  obtain ⟨flushed, whole, lines, refused⟩ := divided
  exact ⟨flushed, by rw [whole, Array.append_assoc], lines, refused⟩

/-- A buffer that is too long has a line end in it, since no line is as long. -/
theorem breaks_of_long {matched : Bool} {buffer : Text} {later : List Char} {bound : Int}
    (divided : Divided judge seen matched buffer)
    (short : ∀ line ∈ (seen.toList ++ later).splitOn '\n', (line.length : Int) ≤ bound)
    (long : bound < buffer.size) : '\n' ∈ buffer.toList := by
  obtain ⟨flushed, whole, ⟨lines, dividedLines⟩, -⟩ := divided
  by_contra noBreak
  have dividedSeen : seen.toList.splitOn '\n' = lines ++ [buffer.toList] := by
    rw [whole, Array.toList_append]
    exact splitOn_append dividedLines (splitOn_of_not_mem noBreak)
  have fits := length_le_of_open dividedSeen short
  rw [Array.length_toList] at fits
  omega

section

variable (lineLocal : LineLocal judge) (judges : ∀ text, Judges admits accepts judge text)

include lineLocal judges

/-- Emptying the buffer up to the end of a line keeps the invariant. -/
theorem ensures_flush {decoder : Utf8.Decoder} (watched : Watched judge decoder seen state)
    (going : state.ended = false) (breaks : '\n' ∈ state.buffer.toList) :
    Ensures admits (state.flush accepts limits) (Watched judge decoder seen) := by
  obtain ⟨flushed, whole, lines, refused⟩ := watched.divided going
  have parts := slice_append_slice state.buffer
  have headLines := wholeLines_flushed breaks
  unfold ChunkState.flush
  dsimp only
  generalize state.buffer.slice 0 (flushPoint state.buffer) = head at parts headLines ⊢
  generalize state.buffer.slice (flushPoint state.buffer) state.buffer.size = rest at parts ⊢
  have accepted : judge head = true → judge seen = true := by
    intro holds
    rw [whole, ← parts]
    exact lineLocal.append_right (lineLocal.append_left holds)
  have emptied : ∀ next : ChunkScan, next.failure = none →
      (next.matched = true ↔ state.scan.matched = true ∨ judge head = true) →
      Watched judge decoder seen
        { state with buffer := rest, scan := next, ended := next.failure.isSome } := by
    intro next sound matched
    refine ⟨sound, fun now => (matched.mp now).elim watched.matched accepted, ?_,
      fun _ => watched.decoder going, fun _ => ⟨flushed ++ head, ?_, lines.append headLines, ?_⟩⟩
    · rw [sound]
      nofun
    · rw [whole, ← parts, Array.append_assoc]
    · intro unmatched _
      rw [unmatched, Bool.false_eq_true, false_iff, not_or, Bool.not_eq_true,
        Bool.not_eq_true] at matched
      exact lineLocal.refused_append lines (refused matched.1) matched.2
  -- The head is offered only if nothing has matched yet.
  cases already : state.scan.matched with
  | true =>
      rw [if_pos rfl]
      exact Ensures.pure (emptied state.scan watched.sound (by simp [already]))
  | false =>
      rw [if_neg Bool.false_ne_true]
      exact Ensures.bind (ensures_offer watched.sound (judges head)) fun next found =>
        Ensures.pure (emptied next found.1 found.2)

theorem ensures_gather {decoder : Utf8.Decoder} {later : List Char}
    (watched : Watched judge decoder (seen ++ text) { state with buffer := state.buffer ++ text })
    (going : state.ended = false)
    (short : ∀ line ∈ ((seen ++ text).toList ++ later).splitOn '\n',
      (line.length : Int) ≤ limits.buffer) :
    Ensures admits (state.gather accepts limits text) (Watched judge decoder (seen ++ text)) := by
  unfold ChunkState.gather
  by_cases long : limits.buffer < ((state.buffer ++ text).size : Int)
  · rw [if_pos long]
    exact ensures_flush lineLocal judges watched going
      (breaks_of_long (watched.divided going) short long)
  · rw [if_neg long]
    exact Ensures.pure watched

theorem ensures_takeText_lineLocal {decoder : Utf8.Decoder} (next : Utf8.Decoder)
    (later : List Char) (watched : Watched judge decoder seen state) (going : state.ended = false)
    (short : ∀ line ∈ ((seen ++ text).toList ++ later).splitOn '\n',
      (line.length : Int) ≤ limits.buffer) :
    Ensures admits (ChunkState.takeText { state with decoder := next } accepts limits text)
      (Watched judge next (seen ++ text)) := by
  have grown := (watched.divided going).append text
  have kept : state.scan.matched = true → judge (seen ++ text) = true :=
    fun already => lineLocal.append_left (watched.matched already)
  unfold ChunkState.takeText
  cases empty : text.isEmpty with
  | true =>
      rw [Array.isEmpty_iff.mp empty, Array.append_empty] at *
      exact Ensures.pure ⟨watched.sound, watched.matched, watched.ended, fun _ => rfl,
        watched.divided⟩
  | false =>
      refine Ensures.bind (judges text) fun outcome given => ?_
      subst given
      cases judged : judge text with
      | false =>
          exact ensures_gather lineLocal judges ⟨watched.sound, kept, watched.ended, fun _ => rfl,
            fun _ => grown⟩ going short
      | true =>
          have accepted : judge (seen ++ text) = true := lineLocal.append_right judged
          dsimp only
          split
          · exact Ensures.pure ⟨watched.sound, fun _ => accepted, fun _ => rfl, nofun, nofun⟩
          · refine ensures_gather lineLocal judges ⟨watched.sound, fun _ => accepted,
              fun _ => rfl, fun _ => rfl, fun _ => ?_⟩ going short
            obtain ⟨flushed, whole, lines, -⟩ := grown
            exact ⟨flushed, whole, lines, nofun⟩

/-- At last the buffer is offered, so that the scan has matched if the whole text is accepted. -/
theorem ensures_offerRest {decoder : Utf8.Decoder} (watched : Watched judge decoder seen state)
    (going : state.ended = false) (some_ : seen.isEmpty = false) :
    Ensures admits (state.scan.offerUnmatched accepts limits.kept state.buffer) fun scan =>
      scan.failure = none ∧ scan.matched = judge seen := by
  obtain ⟨flushed, whole, lines, refused⟩ := watched.divided going
  unfold ChunkScan.offerUnmatched
  rw [watched.sound]
  cases already : state.scan.matched with
  | true => exact Ensures.pure ⟨watched.sound, already.trans (watched.matched already).symm⟩
  | false =>
      -- With an empty buffer, all that was seen has been flushed, and so it was refused.
      cases empty : state.buffer.isEmpty with
      | true =>
          rw [Array.isEmpty_iff.mp empty, Array.append_empty] at whole
          subst whole
          exact Ensures.pure ⟨watched.sound, already.trans (refused already some_).symm⟩
      | false =>
          refine (ensures_offer watched.sound (judges state.buffer)).imp fun next found => ?_
          obtain ⟨sound, matched⟩ := found
          rw [already, or_iff_right Bool.false_ne_true] at matched
          refine ⟨sound, ?_⟩
          rw [Bool.eq_iff_iff, matched, whole]
          refine ⟨lineLocal.append_right, fun accepted => ?_⟩
          by_contra refusedRest
          have refusedSeen :=
            lineLocal.refused_append lines (refused already) (Bool.not_eq_true _ ▸ refusedRest)
          rw [refusedSeen] at accepted
          cases accepted

/-- A scan by chunks has matched at the end exactly if the whole text is accepted. -/
theorem ensures_scanChunks_lineLocal {chunks : List Bytes} {start : ChunkScan} {whole : Text}
    (decoded : joined (Utf8.Decoder.boundary.texts chunks) = whole)
    (sound : start.failure = none) (unmatched : start.matched = false)
    (short : ∀ line ∈ whole.toList.splitOn '\n', (line.length : Int) ≤ limits.buffer)
    (some_ : whole.isEmpty = false) :
    Ensures admits (scanChunks accepts limits start chunks) fun scan =>
      scan.failure = none ∧ scan.matched = judge whole := by
  have begun : Watched judge .boundary (joined []) { scan := start } :=
    ⟨sound, fun matched => absurd (unmatched.symm.trans matched) Bool.false_ne_true, nofun,
      fun _ => rfl, fun _ => ⟨#[], rfl, ⟨[], rfl⟩, fun _ => nofun⟩⟩
  have keeps : Keeps admits accepts limits (Utf8.Decoder.boundary.texts chunks)
      (fun decoder seen state => Watched judge decoder (joined seen) state) := by
    refine ⟨fun watched => watched.decoder, fun watched stopped next text => ?_, ?_⟩
    · rw [joined_append]
      exact watched.stays lineLocal stopped next _
    · rintro decoder seen state watched going next text ⟨later, pieces⟩
      rw [← decoded, ← pieces, joined_append, Array.toList_append] at short
      rw [joined_append, joined_cons, joined_nil, Array.append_empty] at short ⊢
      exact ensures_takeText_lineLocal lineLocal judges next _ watched going short
  refine ensures_takeChunks keeps (fun watched stopped => ?_) (fun watched going => ?_) begun rfl
  · rw [decoded] at watched
    have matched := watched.ended stopped
    exact ⟨watched.sound, matched.trans (watched.matched matched).symm⟩
  · rw [decoded] at watched
    exact ensures_offerRest lineLocal judges watched going some_

end

/-- A scan of a file finds a match for a matcher of single lines exactly if the whole text is
accepted, whatever the size of the chunks and however often the buffer is emptied, as long as no
line, even without its end, is longer than the buffer may be. -/
theorem Scanner.ensures_process_of_lineLocal (request : Scanner.Request) {scanner : Scanner}
    {files : Files.Tree} {path : String} {bytes : Bytes} {modified : Float}
    (lineLocal : LineLocal judge) (judges : ∀ text, Judges admits accepts judge text)
    (offers : scanner.Offers files path request bytes modified)
    (present : bytes.size ≠ 0) (positive : 1 ≤ scanner.chunkSize request)
    (short : ∀ line ∈ (Utf8.decode bytes).toList.splitOn '\n',
      (line.length : Int) ≤ scanner.settings.bufferLimit)
    (firstOnly : Bool) :
    Ensures admits (scanner.process files path accepts request firstOnly) fun result =>
      ∃ outcome, result.1 = .ok outcome ∧ outcome.error = none ∧
        outcome.matched = judge (Utf8.decode bytes) := by
  obtain ⟨last, scans⟩ := Scanner.process_of_offers accepts offers positive firstOnly
  have some_ := Utf8.isEmpty_decode present
  have concluded : ∀ scan : ChunkScan, scan.failure = none ∧
      scan.matched = judge (Utf8.decode bytes) →
      Ensures admits (pure (Scanner.conclude path scan last) : StateM σ _) fun result =>
        ∃ outcome, result.1 = .ok outcome ∧ outcome.error = none ∧
          outcome.matched = judge (Utf8.decode bytes) := by
    rintro scan ⟨sound, matched⟩
    rw [Scanner.conclude_of_sound sound]
    exact Ensures.pure ⟨_, rfl, rfl, matched⟩
  rw [scans]
  by_cases small : (bytes.size : Int) < scanner.chunkSize request
  · rw [if_pos small]
    unfold Scanner.scanText
    rw [some_]
    refine Ensures.bind ((ensures_offer rfl (judges _)).imp fun next found => ?_) concluded
    refine ⟨found.1, ?_⟩
    rw [Bool.eq_iff_iff, found.2]
    simp
  · rw [if_neg small]
    have decoded := joined_texts_chunksOf (scanner.chunkSize request).toNat (by omega) bytes
    exact Ensures.bind
      (ensures_scanChunks_lineLocal lineLocal judges decoded rfl rfl short some_) concluded

/-- Whether a text contains a word. -/
def containsWord (word : List Char) (text : Text) : Bool :=
  text.toList.tails.any word.isPrefixOf

theorem containsWord_iff {word : List Char} {text : Text} :
    containsWord word text = true ↔ word <:+: text.toList := by
  unfold containsWord
  simp only [List.any_eq_true, List.mem_tails, List.isPrefixOf_iff_prefix]
  rw [List.infix_iff_prefix_suffix]
  exact exists_congr fun _ => and_comm

/-- Whether a text contains a word without line ends is told by its lines. -/
theorem lineLocal_containsWord {word : List Char} (noBreak : '\n' ∉ word) :
    LineLocal (containsWord word) := by
  refine ⟨fun text => ?_, fun before text after => ?_⟩
  · simp only [containsWord_iff]
    constructor
    · rintro ⟨before, after, whole⟩
      obtain ⟨lines, last, divided⟩ := exists_pieces '\n' before
      obtain ⟨next, others, dividedAfter⟩ := List.exists_cons_of_ne_nil (splitOn_ne_nil '\n' after)
      have dividedWord : (before ++ word).splitOn '\n' = lines ++ [last ++ word] :=
        splitOn_append divided (splitOn_of_not_mem noBreak)
      refine ⟨last ++ word ++ next, ?_, last, next, rfl⟩
      rw [← whole, splitOn_append dividedWord dividedAfter]
      simp
    · rintro ⟨line, member, within⟩
      obtain ⟨first, others, divided⟩ :=
        List.exists_cons_of_ne_nil (splitOn_ne_nil '\n' text.toList)
      obtain ⟨front, inside⟩ := isInfix_of_mem_splitOn divided
      rw [divided] at member
      rcases List.mem_cons.mp member with rfl | later
      · exact within.trans front.isInfix
      · exact within.trans (inside line later)
  · simp only [containsWord_iff, Array.toList_append]
    exact fun within => within.trans (List.infix_append _ _ _)

def threeLines : Bytes := Utf8.encodeString "ab\ncde\nf"

/-- A scanner that reads two bytes at a time and keeps at most four characters. -/
def narrowScanner : Scanner := { settings := { chunkSize := 2, bufferLimit := 4 } }

/-- A word that no chunk contains is found, although the buffer is emptied twice. -/
theorem process_threeLines :
    ∃ outcome, ((narrowScanner.process (.folder [("a.txt", .file threeLines 0.0)]) "a.txt"
        (fun text => pure (.ok (containsWord ['c', 'd', 'e'] text)) : Matcher (StateM Unit))
        {} false).run ()).1.1 = .ok outcome ∧ outcome.matched = true := by
  have offers : narrowScanner.Offers (.folder [("a.txt", .file threeLines 0.0)]) "a.txt" {}
      threeLines 0.0 :=
    ⟨rfl, fun _ => rfl, Scanner.current_of_no_caches rfl rfl, nofun⟩
  have judges : ∀ text : Text, Judges (fun _ : Unit => True)
      (fun text => pure (.ok (containsWord ['c', 'd', 'e'] text))) (containsWord ['c', 'd', 'e']) text :=
    fun _ => Ensures.pure rfl
  obtain ⟨outcome, given, -, matched⟩ := (Scanner.ensures_process_of_lineLocal {}
    (lineLocal_containsWord (by decide)) judges offers (by decide +kernel) (by decide)
    (by decide +kernel) false () trivial).1
  refine ⟨outcome, given, matched.trans ?_⟩
  decide +kernel

end BooleanSearch.Stream
