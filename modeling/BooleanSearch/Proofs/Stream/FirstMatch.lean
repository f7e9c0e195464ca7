import BooleanSearch.Proofs.Stream.OfferedTexts
import BooleanSearch.Proofs.Stream.Outcomes

/-!
# Ending a scan at the first match

A scan that goes on after its first match offers the same texts as one that ends there, but for the
buffer, which is no longer offered.  The buffer is filled and emptied as if nothing had matched.  So
both scans match exactly if one of the offers is accepted, and what the longer scan keeps are accepted
offers, each of them a part of the text that is scanned.
-/

namespace BooleanSearch.Stream

open Files

/-! ## Offers are parts of the text -/

theorem exists_offersWith (limit : Int) (buffer : Text) {text : Text}
    (present : text.isEmpty = false) :
    ∃ more, offersWith limit buffer text = .piece text :: more := by
  by_cases long : limit < (buffer ++ text).size
  · exact ⟨_, (offersWith_of_long present long).1⟩
  · exact ⟨_, (offersWith_of_short present long).1⟩

theorem bufferWith_suffix (limit : Int) (buffer text : Text) :
    (bufferWith limit buffer text).toList <:+ (buffer ++ text).toList := by
  cases empty : text.isEmpty with
  | true =>
      rw [(offersWith_of_empty empty).2, Array.isEmpty_iff.mp empty, Array.append_empty]
  | false =>
      by_cases long : limit < (buffer ++ text).size
      · rw [(offersWith_of_long empty long).2]
        refine ⟨((buffer ++ text).slice 0 (flushPoint (buffer ++ text))).toList, ?_⟩
        rw [← Array.toList_append, slice_append_slice]
      · rw [(offersWith_of_short empty long).2]

theorem infix_of_offersWith {limit : Int} {buffer text : Text} {offer : Offer}
    (given : offer ∈ offersWith limit buffer text) :
    offer.text.toList <:+: (buffer ++ text).toList := by
  have piece : text.toList <:+: (buffer ++ text).toList := by
    rw [Array.toList_append]
    exact (List.suffix_append _ _).isInfix
  cases empty : text.isEmpty with
  | true =>
      rw [(offersWith_of_empty empty).1] at given
      exact absurd given List.not_mem_nil
  | false =>
      by_cases long : limit < (buffer ++ text).size
      · rw [(offersWith_of_long empty long).1, List.mem_pair] at given
        rcases given with rfl | rfl
        · exact piece
        · have whole := congrArg Array.toList (slice_append_slice (buffer ++ text))
          rw [Array.toList_append] at whole
          exact List.IsPrefix.isInfix ⟨_, whole⟩
      · rw [(offersWith_of_short empty long).1, List.mem_singleton] at given
        subst given
        exact piece

/-- Whatever is offered stands in the text that the pieces make up. -/
theorem infix_of_offersFrom {limit : Int} {texts : List Text} {offer : Offer} :
    ∀ {buffer : Text}, offer ∈ offersFrom limit buffer texts →
      offer.text.toList <:+: (buffer ++ joined texts).toList := by
  induction texts with
  | nil =>
      intro buffer given
      unfold offersFrom offersAtEnd bufferAfter offersDuring at given
      rw [List.nil_append, List.foldl_nil] at given
      rw [joined_nil, Array.append_empty]
      split_ifs at given with empty
      · exact absurd given List.not_mem_nil
      · rw [List.mem_singleton.mp given]
        exact List.infix_rfl
  | cons text rest inductionHypothesis =>
      intro buffer given
      rw [offersFrom_cons, List.mem_append] at given
      rw [joined_cons, ← Array.append_assoc, Array.toList_append]
      rcases given with now | later
      · exact (infix_of_offersWith now).trans (List.prefix_append _ _).isInfix
      · have inside := inductionHypothesis later
        obtain ⟨front, whole⟩ := bufferWith_suffix limit buffer text
        rw [Array.toList_append] at inside
        rw [← whole, List.append_assoc]
        exact inside.trans (List.suffix_append _ _).isInfix

/-! ## What a scan has found -/

/-- What a scan has found in some offers: it has matched if one of them is accepted, and it keeps
accepted ones, as many as it may, if it keeps any. -/
structure Collected (judge : Text → Bool) (limits : ChunkLimits) (offers : List Offer)
    (scan : ChunkScan) : Prop where
  sound : scan.failure = none
  matched : scan.matched = true ↔ ∃ offer ∈ offers, judge offer.text = true
  keeps : scan.kept.isSome = !limits.firstOnly
  few : ∀ texts ∈ scan.kept, texts.length ≤ limits.kept.toNat
  accepted : ∀ texts ∈ scan.kept, ∀ text ∈ texts,
    judge text = true ∧ ∃ offer ∈ offers, offer.text = text
  present : 1 ≤ limits.kept → ∀ texts ∈ scan.kept, texts ≠ [] ↔ scan.matched = true

namespace Collected

variable {judge : Text → Bool} {limits : ChunkLimits} {offers : List Offer} {scan : ChunkScan}
  {offer : Offer}

theorem start (judge : Text → Bool) (limits : ChunkLimits) :
    Collected judge limits [] { kept := if limits.firstOnly then none else some [] } := by
  have nothing : ∀ texts ∈ (if limits.firstOnly then none else some []), texts = ([] : List Text) := by
    intro texts kept
    split at kept
    · cases kept
    · exact (Option.some.inj kept).symm
  refine ⟨rfl, by simp, by cases limits.firstOnly <;> rfl, fun texts kept => ?_,
    fun texts kept => ?_, fun _ texts kept => ?_⟩
  · rw [nothing texts kept]
    exact Nat.zero_le _
  · rw [nothing texts kept]
    exact fun text member => absurd member List.not_mem_nil
  · rw [nothing texts kept]
    simp

/-- What a scan keeps stays accepted and offered when there are further offers. -/
theorem extend (collected : Collected judge limits offers scan) {more : List Offer}
    (same : scan.matched = true ∨ ∀ offer ∈ more, judge offer.text = false) :
    Collected judge limits (offers ++ more) scan := by
  refine ⟨collected.sound, ?_, collected.keeps, collected.few, fun texts kept text member => ?_,
    collected.present⟩
  · rw [collected.matched]
    constructor
    · rintro ⟨offer, member, accepted⟩
      exact ⟨offer, List.mem_append_left _ member, accepted⟩
    · rintro ⟨offer, member, accepted⟩
      rcases List.mem_append.mp member with before | after
      · exact ⟨offer, before, accepted⟩
      · rcases same with matched | refused
        · exact collected.matched.mp matched
        · exact absurd accepted (by simp [refused offer after])
  · obtain ⟨accepted, offer, given, text⟩ := collected.accepted texts kept text member
    exact ⟨accepted, offer, List.mem_append_left _ given, text⟩

/-- An accepted offer is kept if there is room for it. -/
theorem note (collected : Collected judge limits offers scan) (accepted : judge offer.text = true) :
    Collected judge limits (offers ++ [offer]) (scan.note limits.kept offer.text) := by
  have given : offer ∈ offers ++ [offer] :=
    List.mem_append_right _ (List.mem_singleton_self offer)
  have after : ∀ texts ∈ (scan.note limits.kept offer.text).kept, ∃ before ∈ scan.kept,
      texts = if (before.length : Int) < limits.kept then before ++ [offer.text] else before := by
    intro texts kept
    obtain ⟨before, held, same⟩ := Option.map_eq_some_iff.mp kept
    exact ⟨before, held, same.symm⟩
  refine ⟨collected.sound, iff_of_true rfl ⟨offer, given, accepted⟩, ?_, fun texts kept => ?_,
    fun texts kept text member => ?_, fun room texts kept => ?_⟩
  · rw [← collected.keeps]
    exact Option.isSome_map
  · obtain ⟨before, held, rfl⟩ := after texts kept
    have few := collected.few before held
    split_ifs with room
    · rw [List.length_append, List.length_singleton]
      omega
    · exact few
  · obtain ⟨before, held, rfl⟩ := after texts kept
    have earlier : text ∈ before → judge text = true ∧
        ∃ other ∈ offers ++ [offer], other.text = text := by
      intro kept
      obtain ⟨holds, other, present, same⟩ := collected.accepted before held text kept
      exact ⟨holds, other, List.mem_append_left _ present, same⟩
    split_ifs at member
    · rcases List.mem_append.mp member with kept | new
      · exact earlier kept
      · rw [List.mem_singleton.mp new]
        exact ⟨accepted, offer, given, rfl⟩
    · exact earlier member
  · obtain ⟨before, held, rfl⟩ := after texts kept
    refine iff_of_true ?_ rfl
    split_ifs with more
    · simp
    · rintro rfl
      exact more (by rw [List.length_nil]; omega)

end Collected

/-! ## The invariant of a scan -/

section

variable {σ : Type} {admits : σ → Prop} {accepts : Matcher (StateM σ)} {judge : Text → Bool}
  {limits : ChunkLimits} {offers : List Offer}

/-- A scan after some offers: unless it is over, which is because something has matched, its decoder
and its buffer are what they would be without a match. -/
structure Collecting (judge : Text → Bool) (limits : ChunkLimits) (decoder : Utf8.Decoder)
    (buffer : Text) (offers : List Offer) (state : ChunkState) : Prop where
  collected : Collected judge limits offers state.scan
  ended : state.ended = true → state.scan.matched = true
  decoder : state.ended = false → state.decoder = decoder
  buffer : state.ended = false → state.buffer = buffer

namespace Collecting

variable {decoder : Utf8.Decoder} {buffer : Text} {scan : ChunkScan} {state : ChunkState}

theorem underway (collected : Collected judge limits offers scan) (decoder : Utf8.Decoder)
    (buffer : Text) : Collecting judge limits decoder buffer offers ⟨decoder, buffer, scan, false⟩ :=
  ⟨collected, fun stopped => absurd stopped Bool.false_ne_true, fun _ => rfl, fun _ => rfl⟩

theorem finished (collected : Collected judge limits offers state.scan)
    (matched : state.scan.matched = true) (stopped : state.ended = true) (decoder : Utf8.Decoder)
    (buffer : Text) : Collecting judge limits decoder buffer offers state := by
  have never : ¬ state.ended = false := by simp [stopped]
  exact ⟨collected, fun _ => matched, fun going => absurd going never,
    fun going => absurd going never⟩

/-- Further offers are nothing to a scan that is over. -/
theorem stays (collecting : Collecting judge limits decoder buffer offers state)
    (stopped : state.ended = true) (next : Utf8.Decoder) (left : Text) (more : List Offer) :
    Collecting judge limits next left (offers ++ more) state :=
  finished (collecting.collected.extend (Or.inl (collecting.ended stopped)))
    (collecting.ended stopped) stopped next left

end Collecting

variable (judges : ∀ text, Judges admits accepts judge text)

include judges

theorem ensures_offer_collected {scan : ChunkScan} (collected : Collected judge limits offers scan)
    (offer : Offer) :
    Ensures admits (scan.offer accepts limits.kept offer.text)
      (Collected judge limits (offers ++ [offer])) := by
  unfold ChunkScan.offer
  refine Ensures.bind (judges offer.text) fun outcome given => ?_
  subst given
  cases judged : judge offer.text with
  | true => exact Ensures.pure (collected.note judged)
  | false => exact Ensures.pure (collected.extend (Or.inr (by simpa using judged)))

/-- Whether something has matched or not, the buffer is emptied in the same way. -/
theorem ensures_flush_collected {decoder : Utf8.Decoder} {buffer : Text} {scan : ChunkScan}
    (collected : Collected judge limits offers scan) :
    Ensures admits (ChunkState.flush ⟨decoder, buffer, scan, false⟩ accepts limits)
      (Collecting judge limits decoder (buffer.slice (flushPoint buffer) buffer.size)
        (offers ++ [.gathered (buffer.slice 0 (flushPoint buffer))])) := by
  have emptied : ∀ after, Collected judge limits
      (offers ++ [.gathered (buffer.slice 0 (flushPoint buffer))]) after →
      Collecting judge limits decoder (buffer.slice (flushPoint buffer) buffer.size)
        (offers ++ [.gathered (buffer.slice 0 (flushPoint buffer))])
        ⟨decoder, buffer.slice (flushPoint buffer) buffer.size, after, after.failure.isSome⟩ := by
    intro after found
    rw [found.sound]
    exact Collecting.underway found decoder _
  unfold ChunkState.flush
  dsimp only
  split
  · next matched =>
      exact Ensures.pure (emptied scan (collected.extend (Or.inl matched)))
  · exact Ensures.bind (ensures_offer_collected judges collected (.gathered _)) fun after found =>
      Ensures.pure (emptied after found)

theorem ensures_gather_collected {decoder : Utf8.Decoder} {buffer text : Text} {scan : ChunkScan}
    (present : text.isEmpty = false)
    (collected : Collected judge limits (offers ++ [.piece text]) scan) :
    Ensures admits (ChunkState.gather ⟨decoder, buffer, scan, false⟩ accepts limits text)
      (Collecting judge limits decoder (bufferWith limits.buffer buffer text)
        (offers ++ offersWith limits.buffer buffer text)) := by
  unfold ChunkState.gather
  dsimp only
  by_cases long : limits.buffer < (buffer ++ text).size
  · rw [if_pos long, (offersWith_of_long present long).1, (offersWith_of_long present long).2,
      List.append_cons offers (.piece text)]
    exact ensures_flush_collected judges collected
  · rw [if_neg long, (offersWith_of_short present long).1, (offersWith_of_short present long).2]
    exact Ensures.pure (Collecting.underway collected decoder _)

/-- A decoded text keeps the invariant, whether the scan ends with it or not. -/
theorem ensures_takeText_collected {decoder : Utf8.Decoder} (next : Utf8.Decoder) {buffer : Text}
    {state : ChunkState} (collecting : Collecting judge limits decoder buffer offers state)
    (going : state.ended = false) (text : Text) :
    Ensures admits (ChunkState.takeText { state with decoder := next } accepts limits text)
      (Collecting judge limits next (bufferWith limits.buffer buffer text)
        (offers ++ offersWith limits.buffer buffer text)) := by
  have collected := collecting.collected
  have same := collecting.buffer going
  obtain ⟨_, held, scan, ended⟩ := state
  subst going same
  unfold ChunkState.takeText
  cases empty : text.isEmpty with
  | true =>
      rw [(offersWith_of_empty empty).1, (offersWith_of_empty empty).2, List.append_nil]
      exact Ensures.pure (Collecting.underway collected next held)
  | false =>
      refine Ensures.bind (judges text) fun outcome given => ?_
      subst given
      cases judged : judge text with
      | false =>
          refine ensures_gather_collected judges empty (collected.extend (Or.inr ?_))
          simpa [Offer.text] using judged
      | true =>
          have noted : Collected judge limits (offers ++ [.piece text])
              (scan.note limits.kept text) :=
            collected.note (show judge (Offer.piece text).text = true from judged)
          dsimp only
          cases limits.firstOnly with
          | false => exact ensures_gather_collected judges empty noted
          | true =>
              obtain ⟨more, first⟩ := exists_offersWith limits.buffer held empty
              rw [first, List.append_cons offers]
              exact Ensures.pure (Collecting.finished (noted.extend (Or.inl rfl)) rfl rfl next _)

/-- At the end of the file the buffer is offered unless something has matched. -/
theorem ensures_offerUnmatched_collected {scan : ChunkScan} (buffer : Text)
    (collected : Collected judge limits offers scan) :
    Ensures admits (scan.offerUnmatched accepts limits.kept buffer)
      (Collected judge limits (offers ++ offersAtEnd buffer)) := by
  unfold ChunkScan.offerUnmatched offersAtEnd
  rw [collected.sound]
  cases matched : scan.matched with
  | true => exact Ensures.pure (collected.extend (Or.inl matched))
  | false =>
      cases empty : buffer.isEmpty with
      | true => exact Ensures.pure (by simpa using collected)
      | false => exact ensures_offer_collected judges collected (.gathered buffer)

/-- A scan by chunks has found what there is to find in all its offers. -/
theorem ensures_scanChunks_collected {start : ChunkScan} (begun : Collected judge limits [] start)
    (chunks : List Bytes) :
    Ensures admits (scanChunks accepts limits start chunks)
      (Collected judge limits
        (offersFrom limits.buffer #[] (Utf8.Decoder.boundary.texts chunks))) := by
  have keeps : Keeps admits accepts limits (Utf8.Decoder.boundary.texts chunks)
      (fun decoder seen => Collecting judge limits decoder (bufferAfter limits.buffer #[] seen)
        (offersDuring limits.buffer #[] seen)) := by
    refine ⟨fun collecting => collecting.decoder, fun collecting stopped next text => ?_,
      fun collecting going next text _ => ?_⟩
    · rw [offersDuring_concat]
      exact collecting.stays stopped next _ _
    · rw [offersDuring_concat, bufferAfter_concat]
      exact ensures_takeText_collected judges next collecting going text
  have opened : Collecting judge limits .boundary (bufferAfter limits.buffer #[] [])
      (offersDuring limits.buffer #[] []) { scan := start } :=
    Collecting.underway begun .boundary #[]
  refine ensures_takeChunks keeps (fun collecting stopped => ?_) (fun collecting going => ?_)
    opened rfl
  · exact collecting.collected.extend (Or.inl (collecting.ended stopped))
  · rw [collecting.buffer going]
    exact ensures_offerUnmatched_collected judges _ collecting.collected

theorem ensures_scanText_collected {start : ChunkScan} (begun : Collected judge limits [] start)
    (text : Text) :
    Ensures admits (Scanner.scanText accepts limits.kept start text)
      (Collected judge limits (offersAtEnd text)) := by
  unfold Scanner.scanText offersAtEnd
  cases empty : text.isEmpty with
  | true => exact Ensures.pure begun
  | false => exact ensures_offer_collected judges begun (.gathered text)

end

/-! ## What a scan sees of a file -/

/-- What a scan has before it: a failure, a text that was read whole or is known, or bytes that are to be
cut into chunks. -/
inductive Sight
  | refused (failure : Failure)
  | whole (text : Text)
  | parted (bytes : Bytes)

def Sight.text? : Sight → Option Text
  | refused _ => none
  | whole text => some text
  | parted bytes => some (Utf8.decode bytes)

/-- What is offered of what a scan sees. -/
def Sight.offers (limit size : Int) : Sight → List Offer
  | refused _ => []
  | whole text => offersAtEnd text
  | parted bytes =>
    offersFrom limit #[] (Utf8.Decoder.boundary.texts (chunksOf size.toNat bytes))

/-- The error that a scan tells of what it sees. -/
def Sight.error? : Sight → Option SearchError
  | refused failure => answered? failure
  | whole _ | parted _ => none

/-- Whatever is offered stands in the text that is seen. -/
theorem Sight.infix_of_offers {limit size : Int} (positive : 1 ≤ size) {sight : Sight}
    {offer : Offer} (given : offer ∈ sight.offers limit size) :
    ∃ text, sight.text? = some text ∧ offer.text.toList <:+: text.toList := by
  cases sight with
  | refused failure => exact absurd given List.not_mem_nil
  | whole text =>
      refine ⟨text, rfl, ?_⟩
      have inside : offer ∈ offersFrom limit text [] := given
      simpa using infix_of_offersFrom inside
  | parted bytes =>
      refine ⟨_, rfl, ?_⟩
      have inside := infix_of_offersFrom given
      rwa [joined_texts_chunksOf size.toNat (by omega) bytes, Array.empty_append] at inside

namespace Scanner

variable {scanner : Scanner} {files : Tree} {path : String} {request : Request}

/-- What a scanner sees of a file, and the scanner after it has looked. -/
def sight (scanner : Scanner) (files : Tree) (path : String) (request : Request) : Sight × Scanner :=
  match scanner.checkedStats files path request.sizeLimit with
  | (.error failure, after) => (.refused failure, after)
  | (.ok facts, after) =>
    if (facts.size : Int) < scanner.chunkSize request then
      match after.readText files path facts with
      | (.error failure, last) => (.refused failure, last)
      | (.ok text, last) => (.whole text, last)
    else
      match spelledBytesAt files path with
      | .error failure => (.refused failure, after)
      | .ok bytes => (.parted bytes, after)

theorem sight_of_offers {bytes : Bytes} {modified : Float}
    (offers : scanner.Offers files path request bytes modified) :
    (scanner.sight files path request).1.text? = some (Utf8.decode bytes) := by
  obtain ⟨after, looked, texts⟩ := checkedStats_of_offers offers
  obtain ⟨last, read⟩ := readText_of_offers offers texts
  unfold sight
  rw [looked]
  dsimp only
  split
  · rw [read]
    rfl
  · next large =>
      rw [spelledBytesAt_of_opened (offers.opened (Int.not_lt.mp large))]
      rfl

/-- What is refused to a scanner is part of its answers. -/
theorem answered_of_sight (admissible : Tree.admissible (Path.ofString path) = true)
    {failure : Failure} (refused : (scanner.sight files path request).1 = .refused failure) :
    (answered? failure).isSome := by
  unfold sight at refused
  split at refused
  · next looked =>
      cases refused
      exact answered_of_checkedStats admissible (congrArg Prod.fst looked)
  · split at refused
    · split at refused
      · next read =>
          cases refused
          exact answered_of_readText admissible (congrArg Prod.fst read)
      · cases refused
    · split at refused
      · next read =>
          cases refused
          exact answered_of_spelledBytesAt admissible read
      · cases refused

section

variable {m : Type → Type} [Monad m]

/-- Scans what is seen of a file. -/
def scanSight (accepts : Matcher m) (limits : ChunkLimits) (size : Int) (start : ChunkScan) :
    Sight → m ChunkScan
  | .refused failure => pure { start with failure := some failure }
  | .whole text => scanText accepts limits.kept start text
  | .parted bytes => scanChunks accepts limits start (chunksOf size.toNat bytes)

/-- The limits of a scanner for one scan. -/
def limits (scanner : Scanner) (firstOnly : Bool) : ChunkLimits :=
  ⟨scanner.settings.bufferLimit, scanner.settings.keptChunks, firstOnly⟩

/-- A file is looked at, then what is seen of it is scanned. -/
theorem process_eq_scanSight [LawfulMonad m] (accepts : Matcher m)
    (positive : 1 ≤ scanner.chunkSize request) (firstOnly : Bool) :
    scanner.process files path accepts request firstOnly =
      (do
        let scan ← scanSight accepts (scanner.limits firstOnly) (scanner.chunkSize request)
          { kept := if firstOnly then none else some [] } (scanner.sight files path request).1
        return conclude path scan (scanner.sight files path request).2) := by
  unfold process sight
  cases scanner.checkedStats files path request.sizeLimit with
  | mk outcome after =>
  cases outcome with
  | error failure =>
      dsimp only [scanSight]
      rw [pure_bind]
  | ok facts =>
      dsimp only
      rw [reading_of_positive positive]
      by_cases small : (facts.size : Int) < scanner.chunkSize request
      · simp only [if_pos small]
        rcases after.readText files path facts with ⟨failure | text, last⟩
        · dsimp only [scanSight]
          rw [pure_bind]
        · rfl
      · simp only [if_neg small]
        unfold chunks
        cases spelledBytesAt files path with
        | error failure =>
            dsimp only [scanSight]
            rw [pure_bind]
        | ok bytes => rfl

end

/-! ## Scans that end at the first match and scans that go on -/

section

variable {σ : Type} {admits : σ → Prop} {accepts : Matcher (StateM σ)} {judge : Text → Bool}
  (judges : ∀ text, Judges admits accepts judge text)

include judges

/-- What a scan offers and the error that it tells do not depend on whether it ends at the first
match. -/
theorem ensures_process_collected (files : Tree)
    (admissible : Tree.admissible (Path.ofString path) = true)
    (positive : 1 ≤ scanner.chunkSize request) (firstOnly : Bool) :
    Ensures admits (scanner.process files path accepts request firstOnly) fun result => ∃ scan,
      Collected judge (scanner.limits firstOnly)
        ((scanner.sight files path request).1.offers scanner.settings.bufferLimit
          (scanner.chunkSize request)) scan ∧
      result.1 = .ok ⟨scan.matched, scan.kept, (scanner.sight files path request).1.error?⟩ := by
  have begun := Collected.start judge (scanner.limits firstOnly)
  rw [process_eq_scanSight accepts positive firstOnly]
  cases seen : (scanner.sight files path request).1 with
  | refused failure =>
      obtain ⟨error, told⟩ := Option.isSome_iff_exists.mp (answered_of_sight admissible seen)
      refine Ensures.pure ⟨_, begun, ?_⟩
      unfold conclude Sight.error?
      dsimp only
      rw [told]
      rfl
  | whole text =>
      refine Ensures.bind (ensures_scanText_collected judges begun text) fun scan collected => ?_
      rw [conclude_of_sound collected.sound]
      exact Ensures.pure ⟨scan, collected, rfl⟩
  | parted bytes =>
      refine Ensures.bind (ensures_scanChunks_collected judges begun _) fun scan collected => ?_
      rw [conclude_of_sound collected.sound]
      exact Ensures.pure ⟨scan, collected, rfl⟩

end

/-- Two lines with a letter three times, to be read four bytes at a time. -/
def letterBytes : Bytes := Utf8.encodeString "cat cab\ncow\n"

def letterTree : Tree := .folder [("a.txt", .file letterBytes 0.0)]

def letterScanner : Scanner := { settings := { chunkSize := 4, keptChunks := 2 } }

def hasLetter (text : Text) : Bool :=
  text.contains 'c'

end Scanner

end BooleanSearch.Stream
