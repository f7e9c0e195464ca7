import BooleanSearch.Proofs.Stream.Decoding

/-!
# What a scan by chunks finds

As long as the buffer never outgrows its limit, it holds all that has been decoded, and it is
offered once at the end.  So a scan matches exactly if one of the decoded pieces is accepted by
itself or the whole text is.  The invariant below carries this over the pieces one by one.
-/

namespace BooleanSearch.Stream

/-! ## Steps with a state -/

/-- From every admitted state, a step comes to a value with a property and leaves an admitted
state. -/
def Ensures {σ α : Type} (admits : σ → Prop) (step : StateM σ α) (property : α → Prop) : Prop :=
  ∀ state, admits state → property (step.run state).1 ∧ admits (step.run state).2

namespace Ensures

variable {σ α β : Type} {admits : σ → Prop}

theorem pure {property : α → Prop} {value : α} (holds : property value) :
    Ensures admits (Pure.pure value) property :=
  fun _ admitted => ⟨holds, admitted⟩

theorem imp {step : StateM σ α} {property other : α → Prop} (ensures : Ensures admits step property)
    (implies : ∀ value, property value → other value) : Ensures admits step other := by
  intro state admitted
  obtain ⟨holds, kept⟩ := ensures state admitted
  exact ⟨implies _ holds, kept⟩

theorem bind {step : StateM σ α} {rest : α → StateM σ β} {between : α → Prop}
    {property : β → Prop} (first : Ensures admits step between)
    (second : ∀ value, between value → Ensures admits (rest value) property) :
    Ensures admits (step >>= rest) property := by
  intro state admitted
  obtain ⟨reached, kept⟩ := first state admitted
  exact second _ reached _ kept

end Ensures

variable {σ : Type} {admits : σ → Prop} {accepts : Matcher (StateM σ)} {judge : Text → Bool}
  {limits : ChunkLimits}

/-- In admitted states, a matcher gives its judgement on a text. -/
def Judges (admits : σ → Prop) (accepts : Matcher (StateM σ)) (judge : Text → Bool)
    (text : Text) : Prop :=
  Ensures admits (accepts text) fun outcome => outcome = .ok (judge text)

theorem ensures_offer {scan : ChunkScan} {limit : Int} {text : Text} (sound : scan.failure = none)
    (judges : Judges admits accepts judge text) :
    Ensures admits (scan.offer accepts limit text) fun next =>
      next.failure = none ∧ (next.matched = true ↔ scan.matched = true ∨ judge text = true) := by
  unfold ChunkScan.offer
  refine Ensures.bind judges fun outcome given => ?_
  subst given
  cases judged : judge text with
  | true => exact Ensures.pure ⟨sound, iff_of_true rfl (Or.inr rfl)⟩
  | false =>
      refine Ensures.pure ⟨sound, ?_⟩
      rw [or_iff_left Bool.false_ne_true]

/-! ## Scans piece by piece -/

/-- What a scan keeps from one decoded piece of a file to the next. -/
structure Keeps (admits : σ → Prop) (accepts : Matcher (StateM σ)) (limits : ChunkLimits)
    (pieces : List Text) (invariant : Utf8.Decoder → List Text → ChunkState → Prop) : Prop where
  decoder : ∀ {decoder seen state}, invariant decoder seen state → state.ended = false →
    state.decoder = decoder
  stays : ∀ {decoder seen state}, invariant decoder seen state → state.ended = true →
    ∀ next text, invariant next (seen ++ [text]) state
  step : ∀ {decoder seen state}, invariant decoder seen state → state.ended = false →
    ∀ next text, seen ++ [text] <+: pieces →
      Ensures admits (ChunkState.takeText { state with decoder := next } accepts limits text)
        (invariant next (seen ++ [text]))

section

variable {pieces seen : List Text} {decoder : Utf8.Decoder} {state : ChunkState}
  {invariant : Utf8.Decoder → List Text → ChunkState → Prop} {finished : ChunkScan → Prop}
  (keeps : Keeps admits accepts limits pieces invariant)
  (stops : ∀ {decoder state}, invariant decoder pieces state → state.ended = true →
    finished state.scan)
  (offers : ∀ {decoder state}, invariant decoder pieces state → state.ended = false →
    Ensures admits (state.scan.offerUnmatched accepts limits.kept state.buffer) finished)

include keeps stops offers

/-- At the end of the file the rest of the decoder and then the buffer are offered. -/
theorem ensures_takeEnd (holds : invariant decoder seen state)
    (last : seen ++ [decoder.finish] = pieces) :
    Ensures admits (state.takeEnd accepts limits) finished := by
  unfold ChunkState.takeEnd
  cases stopped : state.ended with
  | true =>
      have stays := keeps.stays holds stopped .boundary decoder.finish
      rw [last] at stays
      exact Ensures.pure (stops stays stopped)
  | false =>
      have taken := keeps.step holds stopped .boundary decoder.finish (last ▸ List.prefix_rfl)
      rw [stopped, last] at taken
      rw [keeps.decoder holds stopped]
      refine Ensures.bind taken fun next nextHolds => ?_
      cases nextStopped : next.ended with
      | true => exact Ensures.pure (stops nextHolds nextStopped)
      | false => exact offers nextHolds nextStopped

/-- The invariant holds after every chunk, and so at the end of the file. -/
theorem ensures_takeChunks {chunks : List Bytes} (holds : invariant decoder seen state)
    (rest : seen ++ decoder.texts chunks = pieces) :
    Ensures admits
      (do
        let last ← chunks.foldlM (ChunkState.takeChunk accepts limits) state
        last.takeEnd accepts limits)
      finished := by
  induction chunks generalizing decoder seen state with
  | nil => exact ensures_takeEnd keeps stops offers holds rest
  | cons chunk others inductionHypothesis =>
      have sequence : (seen ++ [(decoder.feed chunk).2]) ++ (decoder.feed chunk).1.texts others =
          pieces := by
        rw [← rest, List.append_assoc]
        rfl
      have steps : Ensures admits (ChunkState.takeChunk accepts limits state chunk)
          (invariant (decoder.feed chunk).1 (seen ++ [(decoder.feed chunk).2])) := by
        unfold ChunkState.takeChunk
        cases stopped : state.ended with
        | true => exact Ensures.pure (keeps.stays holds stopped _ _)
        | false =>
            have taken := keeps.step holds stopped (decoder.feed chunk).1 (decoder.feed chunk).2
              ⟨_, sequence⟩
            rw [stopped] at taken
            rw [keeps.decoder holds stopped]
            exact taken
      simp only [List.foldlM_cons, bind_assoc]
      exact Ensures.bind steps fun next nextHolds => inductionHypothesis nextHolds sequence

end

/-! ## A buffer with room for all -/

/-- Some text that is not empty is accepted. -/
def SomeAccepted (judge : Text → Bool) (texts : List Text) : Prop :=
  ∃ text ∈ texts, text.isEmpty = false ∧ judge text = true

theorem someAccepted_append {first second : List Text} :
    SomeAccepted judge (first ++ second) ↔
      SomeAccepted judge first ∨ SomeAccepted judge second := by
  unfold SomeAccepted
  simp only [List.mem_append, or_and_right, exists_or]

theorem someAccepted_singleton {text : Text} :
    SomeAccepted judge [text] ↔ text.isEmpty = false ∧ judge text = true := by
  simp [SomeAccepted]

/-- A scan after some decoded pieces: it has matched if one of them is accepted, and unless it is
over, the buffer holds all of them. -/
structure Scanned (judge : Text → Bool) (decoder : Utf8.Decoder) (seen : List Text)
    (state : ChunkState) : Prop where
  sound : state.scan.failure = none
  matched : state.scan.matched = true ↔ SomeAccepted judge seen
  ended : state.ended = true → state.scan.matched = true
  decoder : state.ended = false → state.decoder = decoder
  buffer : state.ended = false → state.buffer = joined seen

/-- A finished scan has matched if a piece or the whole text is accepted. -/
structure Finished (judge : Text → Bool) (texts : List Text) (scan : ChunkScan) : Prop where
  sound : scan.failure = none
  matched : scan.matched = true ↔ SomeAccepted judge texts ∨ SomeAccepted judge [joined texts]

theorem Scanned.stays {decoder : Utf8.Decoder} {seen : List Text} {state : ChunkState}
    (scanned : Scanned judge decoder seen state) (stopped : state.ended = true)
    (next : Utf8.Decoder) (text : Text) : Scanned judge next (seen ++ [text]) state := by
  have matched := scanned.ended stopped
  have accepted : SomeAccepted judge (seen ++ [text]) :=
    someAccepted_append.mpr (Or.inl (scanned.matched.mp matched))
  have never : ¬ state.ended = false := by simp [stopped]
  exact ⟨scanned.sound, iff_of_true matched accepted, fun _ => matched,
    fun going => absurd going never, fun going => absurd going never⟩

theorem gather_of_le {state : ChunkState} {text : Text}
    (room : ((state.buffer ++ text).size : Int) ≤ limits.buffer) :
    state.gather accepts limits text =
      (Pure.pure { state with buffer := state.buffer ++ text } : StateM σ ChunkState) :=
  if_neg (Int.not_lt.mpr room)

/-- A decoded piece that fits into the buffer keeps the invariant. -/
theorem ensures_takeText {decoder : Utf8.Decoder} (next : Utf8.Decoder) {seen : List Text}
    {state : ChunkState}
    (scanned : Scanned judge decoder seen state) (going : state.ended = false) {text : Text}
    (judges : Judges admits accepts judge text)
    (room : ((joined (seen ++ [text])).size : Int) ≤ limits.buffer) :
    Ensures admits (ChunkState.takeText { state with decoder := next } accepts limits text)
      (Scanned judge next (seen ++ [text])) := by
  have grown : state.buffer ++ text = joined (seen ++ [text]) := by
    rw [scanned.buffer going, joined_append]
    simp
  unfold ChunkState.takeText
  cases empty : text.isEmpty with
  | true =>
      refine Ensures.pure ⟨scanned.sound, ?_, scanned.ended, fun _ => rfl, fun _ => ?_⟩
      · rw [someAccepted_append, someAccepted_singleton]
        simpa [empty] using scanned.matched
      · rw [← grown, Array.isEmpty_iff.mp empty]
        simp
  | false =>
      refine Ensures.bind judges fun outcome given => ?_
      subst given
      cases judged : judge text with
      | false =>
          dsimp only
          rw [gather_of_le (by rw [grown]; exact room)]
          refine Ensures.pure ⟨scanned.sound, ?_, scanned.ended, fun _ => rfl, fun _ => grown⟩
          rw [someAccepted_append, someAccepted_singleton]
          simpa [judged] using scanned.matched
      | true =>
          have accepted : SomeAccepted judge (seen ++ [text]) :=
            someAccepted_append.mpr (Or.inr (someAccepted_singleton.mpr ⟨empty, judged⟩))
          dsimp only
          cases limits.firstOnly with
          | true =>
              exact Ensures.pure ⟨scanned.sound, iff_of_true rfl accepted, fun _ => rfl, nofun,
                nofun⟩
          | false =>
              rw [gather_of_le (by dsimp only; rw [grown]; exact room)]
              exact Ensures.pure ⟨scanned.sound, iff_of_true rfl accepted, fun _ => rfl,
                fun _ => rfl, fun _ => grown⟩

/-- Offering the whole text unless something has matched already finishes a scan. -/
theorem ensures_offerWhole {scan : ChunkScan} {texts : List Text} {limit : Int}
    (sound : scan.failure = none) (matched : scan.matched = true ↔ SomeAccepted judge texts)
    (judges : Judges admits accepts judge (joined texts)) :
    Ensures admits (scan.offerUnmatched accepts limit (joined texts)) (Finished judge texts) := by
  unfold ChunkScan.offerUnmatched
  cases already : scan.matched with
  | true =>
      exact Ensures.pure ⟨sound, iff_of_true already (Or.inl (matched.mp already))⟩
  | false =>
      have notMatched : ¬ scan.matched = true := by simp [already]
      have noPiece : ¬ SomeAccepted judge texts := fun accepted =>
        notMatched (matched.mpr accepted)
      rw [sound]
      cases empty : (joined texts).isEmpty with
      | true =>
          refine Ensures.pure ⟨sound, iff_of_false notMatched (not_or.mpr ⟨noPiece, ?_⟩)⟩
          rw [someAccepted_singleton, empty]
          exact fun accepted => Bool.false_ne_true accepted.1.symm
      | false =>
          refine (ensures_offer sound judges).imp fun next found => ?_
          refine ⟨found.1, found.2.trans (or_congr matched ?_)⟩
          rw [someAccepted_singleton, empty]
          simp

/-- A scan by chunks matches if a decoded piece or the whole text is accepted. -/
theorem ensures_scanChunks {chunks : List Bytes} {start : ChunkScan}
    (sound : start.failure = none) (unmatched : start.matched = false)
    (judges : ∀ text ∈ joined (Utf8.Decoder.boundary.texts chunks) ::
      Utf8.Decoder.boundary.texts chunks, Judges admits accepts judge text)
    (room : ((joined (Utf8.Decoder.boundary.texts chunks)).size : Int) ≤ limits.buffer) :
    Ensures admits (scanChunks accepts limits start chunks)
      (Finished judge (Utf8.Decoder.boundary.texts chunks)) := by
  have begun : Scanned judge .boundary [] { scan := start } := by
    refine ⟨sound, ?_, nofun, fun _ => rfl, fun _ => rfl⟩
    simp [unmatched, SomeAccepted]
  have keeps : Keeps admits accepts limits (Utf8.Decoder.boundary.texts chunks)
      (Scanned judge) := by
    refine ⟨fun scanned => scanned.decoder, fun scanned stopped => scanned.stays stopped, ?_⟩
    rintro decoder seen state scanned going next text ⟨later, whole⟩
    have member : text ∈ Utf8.Decoder.boundary.texts chunks := by
      rw [← whole]
      simp
    refine ensures_takeText next scanned going (judges text (List.mem_cons_of_mem _ member)) ?_
    rw [← whole, joined_append, Array.size_append] at room
    omega
  refine ensures_takeChunks keeps (fun scanned stopped => ?_) (fun scanned going => ?_) begun rfl
  · have matched := scanned.ended stopped
    exact ⟨scanned.sound, iff_of_true matched (Or.inl (scanned.matched.mp matched))⟩
  · rw [scanned.buffer going]
    exact ensures_offerWhole scanned.sound scanned.matched (judges _ List.mem_cons_self)

end BooleanSearch.Stream
