import BooleanSearch.Proofs.Stream.LineLocal
import BooleanSearch.Proofs.Text.SpelledTexts

/-!
# What a scan by chunks offers

A scan by chunks offers every decoded piece of the file that is not empty, what it takes from a buffer
that has become too long, and at last what is left in the buffer.  Which texts these are depends on the
pieces and on the limit of the buffer only, and a matcher that accepts nothing is asked about all of
them in turn.  The pieces among them, put together, are the file decoded whole.
-/

namespace BooleanSearch.Stream

/-- A text that is offered to the matcher of a scan: a decoded piece of the file, or characters that
were gathered in the buffer. -/
inductive Offer
  | piece (text : Text)
  | gathered (text : Text)
  deriving Repr, DecidableEq

namespace Offer

def text : Offer → Text
  | piece text => text
  | gathered text => text

def piece? : Offer → Option Text
  | piece text => some text
  | gathered _ => none

end Offer

/-- What is offered when a decoded text comes to a buffer. -/
def offersWith (limit : Int) (buffer text : Text) : List Offer :=
  let grown := buffer ++ text
  if text.isEmpty then []
  else if limit < grown.size then [.piece text, .gathered (grown.slice 0 (flushPoint grown))]
  else [.piece text]

/-- The buffer after a decoded text has come to it. -/
def bufferWith (limit : Int) (buffer text : Text) : Text :=
  let grown := buffer ++ text
  if text.isEmpty then buffer
  else if limit < grown.size then grown.slice (flushPoint grown) grown.size
  else grown

/-- What is offered while some decoded texts come to a buffer one after the other. -/
def offersDuring (limit : Int) (buffer : Text) : List Text → List Offer
  | [] => []
  | text :: rest => offersWith limit buffer text ++ offersDuring limit (bufferWith limit buffer text) rest

/-- The buffer after some decoded texts have come to it one after the other. -/
def bufferAfter (limit : Int) (buffer : Text) (texts : List Text) : Text :=
  texts.foldl (bufferWith limit) buffer

/-- At the end of the file the buffer is offered unless it is empty. -/
def offersAtEnd (buffer : Text) : List Offer :=
  if buffer.isEmpty then [] else [.gathered buffer]

/-- All that is offered of some decoded texts, the end of the file included. -/
def offersFrom (limit : Int) (buffer : Text) (texts : List Text) : List Offer :=
  offersDuring limit buffer texts ++ offersAtEnd (bufferAfter limit buffer texts)

theorem offersFrom_cons (limit : Int) (buffer text : Text) (rest : List Text) :
    offersFrom limit buffer (text :: rest) =
      offersWith limit buffer text ++ offersFrom limit (bufferWith limit buffer text) rest :=
  List.append_assoc _ _ _

theorem offersDuring_concat (limit : Int) (buffer : Text) (texts : List Text) (text : Text) :
    offersDuring limit buffer (texts ++ [text]) =
      offersDuring limit buffer texts ++ offersWith limit (bufferAfter limit buffer texts) text := by
  induction texts generalizing buffer with
  | nil => exact List.append_nil _
  | cons first rest inductionHypothesis =>
      rw [List.cons_append, offersDuring, offersDuring, inductionHypothesis, List.append_assoc]
      rfl

theorem bufferAfter_concat (limit : Int) (buffer : Text) (texts : List Text) (text : Text) :
    bufferAfter limit buffer (texts ++ [text]) =
      bufferWith limit (bufferAfter limit buffer texts) text :=
  List.foldl_append

section

variable {limit : Int} {buffer text : Text}

theorem offersWith_of_empty (empty : text.isEmpty = true) :
    offersWith limit buffer text = [] ∧ bufferWith limit buffer text = buffer :=
  ⟨if_pos empty, if_pos empty⟩

theorem offersWith_of_long (present : text.isEmpty = false)
    (long : limit < (buffer ++ text).size) :
    offersWith limit buffer text =
        [.piece text, .gathered ((buffer ++ text).slice 0 (flushPoint (buffer ++ text)))] ∧
      bufferWith limit buffer text =
        (buffer ++ text).slice (flushPoint (buffer ++ text)) (buffer ++ text).size := by
  unfold offersWith bufferWith
  rw [present]
  exact ⟨if_pos long, if_pos long⟩

theorem offersWith_of_short (present : text.isEmpty = false)
    (short : ¬ limit < (buffer ++ text).size) :
    offersWith limit buffer text = [.piece text] ∧
      bufferWith limit buffer text = buffer ++ text := by
  unfold offersWith bufferWith
  rw [present]
  exact ⟨if_neg short, if_neg short⟩

end

/-! ## The pieces among the offers -/

theorem pieces_offersWith (limit : Int) (buffer text : Text) :
    (offersWith limit buffer text).filterMap Offer.piece? = [text].filter (! ·.isEmpty) := by
  cases empty : text.isEmpty with
  | true => simp [offersWith_of_empty empty, empty]
  | false =>
      by_cases long : limit < (buffer ++ text).size
      · simp [offersWith_of_long empty long, empty, Offer.piece?]
      · simp [offersWith_of_short empty long, empty, Offer.piece?]

/-- The pieces that are offered are all but the empty ones, in their order. -/
theorem pieces_offersFrom (limit : Int) (buffer : Text) (texts : List Text) :
    (offersFrom limit buffer texts).filterMap Offer.piece? = texts.filter (! ·.isEmpty) := by
  induction texts generalizing buffer with
  | nil =>
      unfold offersFrom offersAtEnd
      split_ifs <;> rfl
  | cons text rest inductionHypothesis =>
      rw [offersFrom_cons, List.filterMap_append, pieces_offersWith, inductionHypothesis,
        ← List.filter_append]
      rfl

theorem joined_filter (texts : List Text) :
    joined (texts.filter (! ·.isEmpty)) = joined texts := by
  induction texts with
  | nil => rfl
  | cons text rest inductionHypothesis =>
      cases empty : text.isEmpty with
      | true => simp [inductionHypothesis, Array.isEmpty_iff.mp empty]
      | false => simp [empty, inductionHypothesis]

/-! ## A matcher that accepts nothing -/

section

variable {m : Type → Type} [Monad m] [LawfulMonad m]

/-- A matcher that tells of every text and accepts none. -/
def refusing (tell : Text → m Unit) : Matcher m := fun text => do
  tell text
  return .ok false

variable (tell : Text → m Unit) {limits : ChunkLimits} {scan : ChunkScan}

theorem offer_refusing (limit : Int) (text : Text) :
    scan.offer (refusing tell) limit text = (do tell text; return scan) := by
  unfold ChunkScan.offer refusing
  simp

section

variable (sound : scan.failure = none) (unmatched : scan.matched = false)

include sound unmatched

theorem offerUnmatched_refusing (limit : Int) (buffer : Text) :
    scan.offerUnmatched (refusing tell) limit buffer =
      (do
        forM (offersAtEnd buffer) fun offer => tell offer.text
        return scan) := by
  unfold ChunkScan.offerUnmatched offersAtEnd
  rw [unmatched, sound]
  cases empty : buffer.isEmpty with
  | true => simp
  | false => simp [offer_refusing, Offer.text]

theorem gather_refusing (decoder : Utf8.Decoder) (buffer : Text) {text : Text}
    (present : text.isEmpty = false) :
    (do
        tell text
        ChunkState.gather ⟨decoder, buffer, scan, false⟩ (refusing tell) limits text) =
      (do
        forM (offersWith limits.buffer buffer text) fun offer => tell offer.text
        return ⟨decoder, bufferWith limits.buffer buffer text, scan, false⟩) := by
  unfold ChunkState.gather ChunkState.flush
  dsimp only
  by_cases long : limits.buffer < (buffer ++ text).size
  · rw [if_pos long, (offersWith_of_long present long).1, (offersWith_of_long present long).2,
      unmatched, if_neg Bool.false_ne_true, offer_refusing]
    simp [sound, Offer.text]
  · rw [if_neg long, (offersWith_of_short present long).1, (offersWith_of_short present long).2]
    simp [Offer.text]

/-- A decoded text is offered, and what must leave the buffer because of it. -/
theorem takeText_refusing (decoder : Utf8.Decoder) (buffer text : Text) :
    ChunkState.takeText ⟨decoder, buffer, scan, false⟩ (refusing tell) limits text =
      (do
        forM (offersWith limits.buffer buffer text) fun offer => tell offer.text
        return ⟨decoder, bufferWith limits.buffer buffer text, scan, false⟩) := by
  cases empty : text.isEmpty with
  | true =>
      unfold ChunkState.takeText
      rw [(offersWith_of_empty empty).1, (offersWith_of_empty empty).2]
      simp [empty]
  | false =>
      rw [← gather_refusing tell sound unmatched decoder buffer empty]
      unfold ChunkState.takeText refusing
      simp [empty]

theorem takeEnd_refusing (decoder : Utf8.Decoder) (buffer : Text) :
    ChunkState.takeEnd (refusing tell) limits ⟨decoder, buffer, scan, false⟩ =
      (do
        forM (offersFrom limits.buffer buffer [decoder.finish]) fun offer => tell offer.text
        return scan) := by
  unfold ChunkState.takeEnd
  dsimp only
  rw [takeText_refusing tell sound unmatched, if_neg Bool.false_ne_true, offersFrom_cons]
  simp [offerUnmatched_refusing tell sound unmatched, offersFrom, offersDuring, bufferAfter]

/-- Chunk by chunk, and at the end of the file, a scan offers its texts in turn. -/
theorem takeChunks_refusing (chunks : List Bytes) (decoder : Utf8.Decoder) (buffer : Text) :
    (do
        let last ← chunks.foldlM (ChunkState.takeChunk (refusing tell) limits)
          ⟨decoder, buffer, scan, false⟩
        last.takeEnd (refusing tell) limits) =
      (do
        forM (offersFrom limits.buffer buffer (decoder.texts chunks)) fun offer => tell offer.text
        return scan) := by
  induction chunks generalizing decoder buffer with
  | nil =>
      rw [List.foldlM_nil, pure_bind]
      exact takeEnd_refusing tell sound unmatched decoder buffer
  | cons chunk rest inductionHypothesis =>
      have taken : ChunkState.takeChunk (refusing tell) limits ⟨decoder, buffer, scan, false⟩ chunk =
          ChunkState.takeText ⟨(decoder.feed chunk).1, buffer, scan, false⟩ (refusing tell) limits
            (decoder.feed chunk).2 := rfl
      rw [List.foldlM_cons, taken, takeText_refusing tell sound unmatched, bind_assoc, bind_assoc,
        Utf8.Decoder.texts, offersFrom_cons, List.forM_append, bind_assoc]
      simp only [pure_bind]
      rw [inductionHypothesis]

end

end

/-! ## Scanning a file -/

namespace Scanner

open Files

variable {scanner : Scanner} {files : Tree} {path : String} {request : Request} {bytes : Bytes}
  {modified : Float}

/-- What is offered of a file that is read by chunks, as long as nothing is accepted. -/
def offered (scanner : Scanner) (request : Request) (bytes : Bytes) : List Offer :=
  offersFrom scanner.settings.bufferLimit #[]
    (Utf8.Decoder.boundary.texts (chunksOf (scanner.chunkSize request).toNat bytes))

theorem joined_pieces_offered (positive : 1 ≤ scanner.chunkSize request) :
    joined ((scanner.offered request bytes).filterMap Offer.piece?) = Utf8.decode bytes := by
  unfold offered
  rw [pieces_offersFrom, joined_filter]
  exact joined_texts_chunksOf _ (by omega) bytes

theorem wholeText_of_offers (offers : scanner.Offers files path request bytes modified) :
    (scanner.wholeText files path request.sizeLimit).1 =
      .ok { content := some (Utf8.decode bytes), facts := some (factsOf (.file bytes modified)) } := by
  obtain ⟨after, looked, texts⟩ := checkedStats_of_offers offers
  obtain ⟨last, read⟩ := readText_of_offers offers texts
  unfold wholeText
  rw [looked]
  dsimp only
  rw [read]

variable {m : Type → Type} [Monad m] [LawfulMonad m] (tell : Text → m Unit)

theorem process_refusing (offers : scanner.Offers files path request bytes modified)
    (positive : 1 ≤ scanner.chunkSize request) (enough : scanner.chunkSize request ≤ bytes.size)
    (firstOnly : Bool) :
    ∃ last, scanner.process files path (refusing tell) request firstOnly =
      (do
        forM (scanner.offered request bytes) fun offer => tell offer.text
        return (.ok ⟨false, if firstOnly then none else some [], none⟩, last)) := by
  obtain ⟨last, scans⟩ := process_of_offers (refusing tell) offers positive firstOnly
  refine ⟨last, ?_⟩
  rw [scans, if_neg (Int.not_lt.mpr enough)]
  unfold scanChunks
  rw [takeChunks_refusing tell rfl rfl, bind_assoc]
  simp only [pure_bind]
  rfl

/-- A scan by chunks with a matcher that accepts nothing offers pieces that are not empty, among texts
from the buffer.  Put together, the pieces are the file decoded whole, which is what reading the file
gives, and the only text that the bytes spell, wherever the chunks are cut. -/
theorem process_refusing_decodes
    (offers : scanner.Offers files path request bytes modified)
    (positive : 1 ≤ scanner.chunkSize request) (enough : scanner.chunkSize request ≤ bytes.size)
    (firstOnly : Bool) :
    ∃ pieces, pieces = (scanner.offered request bytes).filterMap Offer.piece? ∧
      (∃ last, scanner.process files path (refusing tell) request firstOnly =
        (do
          forM (scanner.offered request bytes) fun offer => tell offer.text
          return (.ok ⟨false, if firstOnly then none else some [], none⟩, last))) ∧
      (∀ piece ∈ pieces, piece.isEmpty = false) ∧
      joined pieces = Utf8.decode bytes ∧
      (scanner.wholeText files path request.sizeLimit).1 =
        .ok { content := some (joined pieces), facts := some (factsOf (.file bytes modified)) } ∧
      ∀ text, Utf8.Spells bytes.toList text ↔ text = (joined pieces).toList := by
  have whole : joined ((scanner.offered request bytes).filterMap Offer.piece?) = Utf8.decode bytes :=
    joined_pieces_offered positive
  refine ⟨_, rfl, process_refusing tell offers positive enough firstOnly, ?_, whole, ?_, ?_⟩
  · intro piece member
    unfold offered at member
    rw [pieces_offersFrom] at member
    simpa using (List.mem_filter.mp member).2
  · rw [whole]
    exact wholeText_of_offers offers
  · rw [whole]
    exact fun text => Utf8.spells_iff

/-- A letter, a letter of two bytes, and two of the three bytes of a sign. -/
def cutBytes : Bytes := #[0x61, 0xC3, 0xA9, 0xE2, 0x82]

def cutTree : Tree := .folder [("a.txt", .file cutBytes 0.0)]

def twoByteScanner : Scanner := { settings := { chunkSize := 2 } }

/-- Notes a text after those before. -/
def noteText (text : Text) : StateM (List Text) Unit :=
  modify (· ++ [text])

/-- Of the chunks of two bytes, none ends where a character does. -/
theorem process_refusing_decodes_cutBytes :
    ∃ last, (twoByteScanner.process cutTree "a.txt" (refusing noteText) {} true).run [] =
        ((.ok ⟨false, none, none⟩, last),
          [#['a'], #['é'], #['\uFFFD'], #['a', 'é', '\uFFFD']]) ∧
      Utf8.Spells cutBytes.toList ['a', 'é', '\uFFFD'] := by
  have offers : twoByteScanner.Offers cutTree "a.txt" {} cutBytes 0.0 :=
    ⟨rfl, fun _ => rfl, current_of_no_caches rfl rfl, nofun⟩
  obtain ⟨pieces, same, ⟨last, scans⟩, -, -, -, spelled⟩ :=
    process_refusing_decodes noteText offers (by decide) (by decide) true
  have given : twoByteScanner.offered {} cutBytes = [.piece #['a'], .piece #['é'],
      .piece #['\uFFFD'], .gathered #['a', 'é', '\uFFFD']] := by
    decide +kernel
  refine ⟨last, ?_, (spelled _).mpr ?_⟩
  · rw [scans, given]
    rfl
  · rw [same]
    decide +kernel

end Scanner

end BooleanSearch.Stream
