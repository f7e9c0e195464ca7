import BooleanSearch.Proofs.Toml.ConfinedScalars

/-!
# Values that a document is due

When reading fails for a value, it has come to a scalar, and it comes to it whatever stands there
and behind it.  So the error tells nothing of the document but where the value is due and what is
there.
-/

namespace BooleanSearch.Toml

/-! ## Separators before a place -/

/-- A separator stands between an offset and a place behind it. -/
def Settled (source : Text) (place offset : Nat) : Prop :=
  ∃ index char, offset ≤ index ∧ index < place ∧ source[index]? = some char ∧
    isSeparator char = true

theorem Settled.lt {source : Text} {place offset : Nat} (settled : Settled source place offset) :
    offset < place := by
  obtain ⟨index, char, from_, before, -⟩ := settled
  omega

theorem Settled.mono {source : Text} {place offset middle : Nat}
    (settled : Settled source place middle) (early : offset ≤ middle) :
    Settled source place offset := by
  obtain ⟨index, char, from_, rest⟩ := settled
  exact ⟨index, char, early.trans from_, rest⟩

theorem toList_drop_eq_cons {source : Text} {offset : Nat} {char : Char}
    (here : source[offset]? = some char) :
    source.toList.drop offset = char :: source.toList.drop (offset + 1) := by
  rw [← Array.getElem?_toList] at here
  obtain ⟨within, rfl⟩ := List.getElem?_eq_some_iff.mp here
  exact List.drop_eq_getElem_cons within

theorem Twins.alikeUpTo {place : Nat} {s t : Text} (twins : Twins place s t) {index : Nat}
    {char : Char} (before : index < place) (here : s[index]? = some char)
    (separates : isSeparator char = true) {offset : Nat} (from_ : offset ≤ index) :
    AlikeUpTo (s.toList.drop (index + 1)) (t.toList.drop (index + 1)) (s.toList.drop offset)
      (t.toList.drop offset) := by
  induction from_ using Nat.decreasingInduction with
  | self =>
      rw [toList_drop_eq_cons here,
        toList_drop_eq_cons ((twins.before index before).symm.trans here)]
      exact .separator separates
  | of_succ offset further inductionHypothesis =>
      have inside : offset < s.size := (Nat.lt_of_succ_le further).trans (lt_size_of_getElem? here)
      have there : s[offset]? = some s[offset] := Array.getElem?_eq_getElem inside
      rw [toList_drop_eq_cons there,
        toList_drop_eq_cons ((twins.before offset (by omega)).symm.trans there)]
      exact .cons _ inductionHypothesis

/-- A step that gives the same in documents that are alike, if a separator stands behind it. -/
structure Fenced {α : Type} (scan : Text → Scan α) : Prop where
  onward : ∀ {source offset value stop}, (scan source).run offset = .ok (value, stop) →
    offset ≤ stop
  alike : ∀ {place s t offset value stop}, Twins place s t →
    (scan s).run offset = .ok (value, stop) → Settled s place stop →
    (scan t).run offset = .ok (value, stop)

section

variable {α β : Type}

theorem Steady.fenced {scan : Text → Scan α} (steady : Steady scan) : Fenced scan :=
  ⟨steady.onward, fun twins read settled => steady.alike twins read settled.lt⟩

theorem Fenced.failHere (cause : Cause) : Fenced fun _ => (Toml.failHere cause : Scan α) :=
  ⟨nofun, nofun⟩

theorem Fenced.bind {scan : Text → Scan α} {further : α → Text → Scan β} (first : Fenced scan)
    (others : ∀ value, Fenced (further value)) :
    Fenced fun source => scan source >>= fun value => further value source := by
  refine ⟨fun read => ?_, fun twins read settled => ?_⟩
  · obtain ⟨value, middle, readFirst, readOthers⟩ := run_bind_eq_ok.mp read
    exact (first.onward readFirst).trans ((others value).onward readOthers)
  · obtain ⟨value, middle, readFirst, readOthers⟩ := run_bind_eq_ok.mp read
    have settledFirst := settled.mono ((others value).onward readOthers)
    exact run_bind_eq_ok.mpr ⟨value, middle, first.alike twins readFirst settledFirst,
      (others value).alike twins readOthers settled⟩

end

/-- The size of the document may give the fuel of a step. -/
theorem Fenced.sized {α : Type} {scan : Text → Nat → Scan α} (fuel : Nat → Nat)
    (fenced : ∀ fuel, Fenced fun source => scan source fuel) :
    Fenced fun source => scan source (fuel source.size) := by
  refine ⟨fun read => (fenced _).onward read, fun twins read settled => ?_⟩
  rw [← twins.size]
  exact (fenced _).alike twins read settled

theorem onward_of_scalarAt {chars : List Char} {offset stop : Nat} {value : Value}
    (read : scalarAt chars offset = .ok (value, stop)) : offset ≤ stop := by
  unfold scalarAt at read
  dsimp only at read
  split at read
  · split at read
    · cases read
      exact Nat.le_add_right offset _
    · cases read
  · split at read
    · cases read
      exact Nat.le_add_right offset _
    · split at read
      · cases read
        exact Nat.le_add_right offset _
      · split at read
        · cases read
          exact Nat.le_add_right offset _
        · cases read
        · split at read
          · cases read
            exact Nat.le_add_right offset _
          · cases read

theorem fenced_readScalar : Fenced readScalar := by
  refine ⟨fun read => ?_, fun twins read settled => ?_⟩
  · rw [run_readScalar] at read
    exact onward_of_scalarAt read
  · rw [run_readScalar] at read ⊢
    obtain ⟨index, char, from_, before, here, separates⟩ := settled
    have early := (onward_of_scalarAt read).trans from_
    rw [← scalarAt_eq (twins.alikeUpTo before here separates early)]
    exact read

mutual

theorem fenced_readValue (fuel : Nat) : Fenced fun source => readValue source fuel := by
  cases fuel with
  | zero => exact .failHere _
  | succ fuel =>
      unfold readValue
      refine Steady.peek.fenced.bind fun next => ?_
      split
      · exact .failHere _
      · refine (Steady.at? (by decide)).fenced.bind fun opens => ?_
        split_ifs
        · exact steady_readBasicLines.fenced.bind fun _ => (Steady.pure _).fenced
        · exact steady_readBasicLine.fenced.bind fun _ => (Steady.pure _).fenced
      · refine (Steady.at? (by decide)).fenced.bind fun opens => ?_
        split_ifs
        · exact steady_readLiteralLines.fenced.bind fun _ => (Steady.pure _).fenced
        · exact steady_readLiteralLine.fenced.bind fun _ => (Steady.pure _).fenced
      · refine (Steady.advance 1).fenced.bind fun _ => steady_skipGap.fenced.bind fun _ =>
          Steady.peek.fenced.bind fun next => ?_
        split_ifs
        · exact ((Steady.advance 1).bind fun _ => .pure _).fenced
        · exact (fenced_readItems fuel).bind fun _ => (Steady.pure _).fenced
      · split_ifs
        · refine (Steady.advance 1).fenced.bind fun _ => (Steady.skip _).fenced.bind fun _ =>
            Steady.peek.fenced.bind fun next => ?_
          split_ifs
          · exact ((Steady.advance 1).bind fun _ => .pure _).fenced
          · exact (fenced_readPairs fuel {}).bind fun _ => (Steady.pure _).fenced
        · refine (Steady.at? (by decide)).fenced.bind fun isTrue => ?_
          split_ifs
          · exact ((Steady.advance 4).bind fun _ => .pure _).fenced
          · refine (Steady.at? (by decide)).fenced.bind fun isFalse => ?_
            split_ifs
            · exact ((Steady.advance 5).bind fun _ => .pure _).fenced
            · exact fenced_readScalar

theorem fenced_readItems (fuel : Nat) : Fenced fun source => readItems source fuel := by
  cases fuel with
  | zero => exact .failHere _
  | succ fuel =>
      unfold readItems
      refine (fenced_readValue fuel).bind fun value => steady_skipGap.fenced.bind fun _ =>
        Steady.peek.fenced.bind fun next => ?_
      split
      · exact ((Steady.advance 1).bind fun _ => .pure _).fenced
      · refine (Steady.advance 1).fenced.bind fun _ => steady_skipGap.fenced.bind fun _ =>
          Steady.peek.fenced.bind fun next => ?_
        split_ifs
        · exact ((Steady.advance 1).bind fun _ => .pure _).fenced
        · exact (fenced_readItems fuel).bind fun _ => (Steady.pure _).fenced
      · exact .failHere _

theorem fenced_readPairs (fuel : Nat) (inline : Inline) :
    Fenced fun source => readPairs source fuel inline := by
  cases fuel with
  | zero => exact .failHere _
  | succ fuel =>
      unfold readPairs
      refine steady_readPairKey.fenced.bind fun key => (fenced_readValue fuel).bind fun value =>
        (steady_orFail (add_ne_invalidValue inline key value)).fenced.bind fun changed =>
          (Steady.skip _).fenced.bind fun _ => Steady.peek.fenced.bind fun next => ?_
      split
      · exact (Steady.advance 1).fenced.bind fun _ => (Steady.skip _).fenced.bind fun _ =>
          fenced_readPairs fuel changed
      · split_ifs
        · exact ((Steady.advance 1).bind fun _ => .pure _).fenced
        · exact .failHere _
      · exact .failHere _

end

/-! ## Steps that reach a place -/

/-- A step that moves on by some characters at least, and gives the same in documents that are alike
even if it ends right where they begin to differ. -/
structure Reaching {α : Type} (lead : Nat) (scan : Text → Scan α) : Prop where
  onward : ∀ {source offset value stop}, (scan source).run offset = .ok (value, stop) →
    offset + lead ≤ stop
  alike : ∀ {place s t offset value stop}, Twins place s t →
    (scan s).run offset = .ok (value, stop) → stop ≤ place →
    (scan t).run offset = .ok (value, stop)

namespace Reaching

variable {α β : Type}

theorem pure (value : α) : Reaching 0 fun _ => (Pure.pure value : Scan α) := by
  refine ⟨?_, fun _ same _ => same⟩
  rintro source offset _ _ ⟨⟩
  exact le_rfl

theorem get : Reaching 0 fun _ => (MonadState.get : Scan Nat) := by
  refine ⟨?_, fun _ same _ => same⟩
  rintro source offset _ _ ⟨⟩
  exact le_rfl

theorem advance (count : Nat) : Reaching count fun _ => Toml.advance count := by
  refine ⟨?_, fun _ same _ => same⟩
  rintro source offset _ _ ⟨⟩
  exact le_rfl

theorem failHere (lead : Nat) (cause : Cause) :
    Reaching lead fun _ => (Toml.failHere cause : Scan α) :=
  ⟨nofun, nofun⟩

theorem skip {accept : Char → Bool} (blind : Blind accept) :
    Reaching 0 fun source => Toml.skip source accept := by
  refine ⟨?_, ?_⟩
  · rintro source offset _ _ ⟨⟩
    exact le_skipFrom source accept _ offset
  · rintro place s t offset _ _ twins ⟨⟩ before
    have early := (le_skipFrom s accept (s.size - offset) offset).trans before
    change Except.ok ((), skipFrom t accept (t.size - offset) offset) = _
    rw [← twins.size, twins.skipFrom_eq_of_blind blind _ early]

theorem bind {lead : Nat} {scan : Text → Scan α} {further : α → Text → Scan β}
    (first : Reaching lead scan) (others : ∀ value, Reaching 0 (further value)) :
    Reaching lead fun source => scan source >>= fun value => further value source := by
  refine ⟨fun read => ?_, fun twins read before => ?_⟩
  · obtain ⟨value, middle, readFirst, readOthers⟩ := run_bind_eq_ok.mp read
    exact (first.onward readFirst).trans ((others value).onward readOthers)
  · obtain ⟨value, middle, readFirst, readOthers⟩ := run_bind_eq_ok.mp read
    have early := (others value).onward readOthers
    exact run_bind_eq_ok.mpr ⟨value, middle, first.alike twins readFirst (by omega),
      (others value).alike twins readOthers before⟩

/-- What does not look ahead may stand before a step that moves on. -/
theorem of_steady {scan : Text → Scan α} {further : α → Text → Scan β} (first : Steady scan)
    (others : ∀ value, Reaching 1 (further value)) :
    Reaching 1 fun source => scan source >>= fun value => further value source := by
  refine ⟨fun read => ?_, fun twins read before => ?_⟩
  · obtain ⟨value, middle, readFirst, readOthers⟩ := run_bind_eq_ok.mp read
    exact (Nat.add_le_add_right (first.onward readFirst) 1).trans ((others value).onward readOthers)
  · obtain ⟨value, middle, readFirst, readOthers⟩ := run_bind_eq_ok.mp read
    have early := (others value).onward readOthers
    exact run_bind_eq_ok.mpr ⟨value, middle, first.alike twins readFirst (by omega),
      (others value).alike twins readOthers before⟩

end Reaching

theorem reaching_readPairKey : Reaching 1 readPairKey := by
  unfold readPairKey
  refine .of_steady steady_readKey fun key => .of_steady .peek fun next => ?_
  split_ifs
  · exact .failHere 1 _
  · exact (Reaching.advance 1).bind fun _ => (Reaching.skip blind_isSpace).bind fun _ => .pure key

theorem lineEnd_of_skipUntil {source : Text} {forbidden : Char → Bool} {offset stop : Nat}
    (read : (skipUntil source "\n" forbidden false).run offset = .ok ((), stop)) :
    source[stop]? = some '\n' ∨ stop = source.size := by
  rw [run_skipUntil] at read
  split at read
  · next found here =>
      obtain rfl := eq_of_goneTo read
      have same := (Text.occursAt_iff_getElem?.mp (occursAt_of_findFrom? here)).2
      exact Or.inl (same 0 (by decide))
  · exact Or.inr (eq_of_goneTo read)

theorem reaching_skipComment : Reaching 0 skipComment := by
  refine ⟨steady_skipComment.onward, fun {place s t offset value stop} twins read before => ?_⟩
  rcases Nat.lt_or_eq_of_le before with further | rfl
  · exact steady_skipComment.alike twins read further
  · -- A comment ends at a line end or at the end of the document, not at a probe.
    rw [run_skipComment] at read ⊢
    split_ifs at read with hash
    · obtain ⟨probe, found, isProbe⟩ := twins.first
      rcases lineEnd_of_skipUntil read with lineEnd | atEnd
      · rw [found] at lineEnd
        cases lineEnd
        cases isProbe
      · exact absurd (lt_size_of_getElem? found) (by omega)
    · cases read
      obtain ⟨probe, found, isProbe⟩ := twins.second
      rw [if_neg]
      rw [found]
      rintro ⟨⟩
      cases isProbe

theorem reaching_skipGap : Reaching 0 skipGap := by
  have within : ∀ fuel, Reaching 0 fun source => skipGapWithin source fuel := by
    intro fuel
    induction fuel with
    | zero => exact .pure ()
    | succ fuel inductionHypothesis =>
        unfold skipGapWithin
        refine Reaching.get.bind fun before => (Reaching.skip blind_isSpaceOrLineEnd).bind fun _ =>
          reaching_skipComment.bind fun _ => Reaching.get.bind fun after => ?_
        split_ifs
        · exact .pure ()
        · exact inductionHypothesis
  refine ⟨(within _).onward, fun {place s t offset value stop} twins read before => ?_⟩
  change (skipGapWithin t (t.size + 1)).run offset = _
  rw [← twins.size]
  exact (within _).alike twins read before

/-! ## Coming to a scalar -/

/-- An error for a value: a number with too many digits, or no value where an exclamation mark
is. -/
def ReadError.Awaits (source : Text) : ReadError → Prop
  | .fault cause place => cause = .invalidValue ∧ source[place]? = some '!'
  | .tooManyDigits _ => True

theorem ReadError.Awaits.ofValue {source : Text} {error : ReadError}
    (awaits : error.Awaits source) :
    error.OfValue := by
  cases error with
  | fault cause place => exact awaits.1
  | tooManyDigits count => trivial

/-- From an offset on, reading comes to a scalar at a place: whatever stands there and behind it, it
fails as reading that scalar does. -/
structure ComesTo {α : Type} (scan : Text → Scan α) (source : Text) (offset place : Nat) :
    Prop where
  probe : ProbeAt source place
  fails : ∀ other, Twins place source other → ∀ error,
    scalarAt (other.toList.drop place) place = .error error →
    (scan other).run offset = .error error

section

variable {α β : Type} {scan : Text → Scan α} {further : α → Text → Scan β} {source : Text}
  {offset middle place : Nat} {value : α}

/-- A scalar that the first step comes to is come to by both. -/
theorem ComesTo.before (comes : ComesTo scan source offset place) :
    ComesTo (fun source => scan source >>= fun value => further value source) source offset place :=
  ⟨comes.probe, fun other twins error refused =>
    run_bind_eq_error.mpr (Or.inl (comes.fails other twins error refused))⟩

/-- A scalar that the second step comes to is come to by both, if the first does not depend on what
stands at the place and behind it. -/
theorem ComesTo.behind (comes : ComesTo (further value) source middle place)
    (alike : ∀ other, Twins place source other →
      (scan other).run offset = .ok (value, middle)) :
    ComesTo (fun source => scan source >>= fun value => further value source) source offset place :=
  ⟨comes.probe, fun other twins error refused => run_bind_eq_error.mpr
    (Or.inr ⟨value, middle, alike other twins, comes.fails other twins error refused⟩)⟩

end

/-- The place is some characters behind the offset at least. -/
def Behind (count : Nat) (_ : Text) (place offset : Nat) : Prop :=
  offset + count ≤ place

/-- A way to be far away that tells a place from an offset, and that is kept when stepping back. -/
structure Apart (far : Text → Nat → Nat → Prop) : Prop where
  lt : ∀ {source place offset}, far source place offset → offset < place
  mono : ∀ {source place offset middle}, far source place middle → offset ≤ middle →
    far source place offset

theorem apart_settled : Apart Settled :=
  ⟨Settled.lt, Settled.mono⟩

theorem apart_behind : Apart (Behind 1) :=
  ⟨Nat.lt_of_succ_le, fun far early => (Nat.add_le_add_right early 1).trans far⟩

/-- A step fails for a value only by coming to a scalar, which is as far away as is asked for.  The
fuel for nested values is enough if it covers two steps for each character from the offset on. -/
def Arrives {α : Type} (far : Text → Nat → Nat → Prop) (fuel : Nat) (scan : Text → Scan α) : Prop :=
  ∀ source offset error, (scan source).run offset = .error error → error.Awaits source →
    2 * source.size ≤ fuel + 2 * offset →
    ∃ place, far source place offset ∧
      scalarAt (source.toList.drop place) place = .error error ∧ ComesTo scan source offset place

section

variable {α β : Type} {far : Text → Nat → Nat → Prop} {fuel : Nat}

theorem Steady.arrives {scan : Text → Scan α} (steady : Steady scan) : Arrives far fuel scan :=
  fun _ _ _ fails awaits _ => absurd awaits.ofValue (steady.innocent fails)

namespace Arrives

theorem mono {scan : Text → Scan α} {other : Text → Nat → Nat → Prop} {less : Nat}
    (arrives : Arrives far fuel scan)
    (implies : ∀ source place offset, far source place offset → other source place offset)
    (shorter : less ≤ fuel) : Arrives other less scan := by
  intro source offset error fails awaits enough
  obtain ⟨place, reached, rest⟩ := arrives source offset error fails awaits (by omega)
  exact ⟨place, implies _ _ _ reached, rest⟩

/-- The size of the document may give the fuel of a step. -/
theorem sized {scan : Text → Nat → Scan α} (amount : Nat → Nat)
    (enough : ∀ size, 2 * size ≤ amount size)
    (arrives : ∀ fuel, Arrives far fuel fun source => scan source fuel) :
    Arrives far fuel fun source => scan source (amount source.size) := by
  intro source offset error fails awaits _
  have more := enough source.size
  obtain ⟨place, reached, scalar, comes⟩ :=
    arrives (amount source.size) source offset error fails awaits (by omega)
  refine ⟨place, reached, scalar, comes.probe, fun other twins error refused => ?_⟩
  rw [← twins.size]
  exact comes.fails other twins error refused

/-- Behind a step that does not look ahead, if the place is not right behind it. -/
theorem bind_steady (apart : Apart far) {scan : Text → Scan α} {further : α → Text → Scan β}
    (first : Steady scan) (others : ∀ value, Arrives far fuel (further value)) :
    Arrives far fuel fun source => scan source >>= fun value => further value source := by
  intro source offset error fails awaits enough
  rcases run_bind_eq_error.mp fails with failsFirst | ⟨value, middle, read, failsOthers⟩
  · exact absurd awaits.ofValue (first.innocent failsFirst)
  · have early := first.onward read
    obtain ⟨place, reached, scalar, comes⟩ := others value source middle error failsOthers awaits
      (by omega)
    exact ⟨place, apart.mono reached early, scalar,
      comes.behind fun other twins => first.alike twins read (apart.lt reached)⟩

/-- Behind a step that may end right at the place. -/
theorem bind_reaching {count : Nat} {scan : Text → Scan α} {further : α → Text → Scan β}
    (first : Steady scan) (reaching : Reaching count scan)
    (others : ∀ value, Arrives (Behind 0) (fuel - 2 * count) (further value)) :
    Arrives (Behind count) fuel fun source => scan source >>= fun value => further value source := by
  intro source offset error fails awaits enough
  rcases run_bind_eq_error.mp fails with failsFirst | ⟨value, middle, read, failsOthers⟩
  · exact absurd awaits.ofValue (first.innocent failsFirst)
  · have early := reaching.onward read
    obtain ⟨place, reached, scalar, comes⟩ := others value source middle error failsOthers awaits
      (by omega)
    have reached' : middle ≤ place := reached
    exact ⟨place, early.trans reached', scalar,
      comes.behind fun other twins => reaching.alike twins read reached'⟩

/-- Behind a value, if a separator stands before the place. -/
theorem bind_fenced {scan : Text → Scan α} {further : α → Text → Scan β}
    (arrives : Arrives far fuel scan) (fenced : Fenced scan)
    (others : ∀ value, Arrives Settled fuel (further value))
    (implies : ∀ source place offset, Settled source place offset → far source place offset) :
    Arrives far fuel fun source => scan source >>= fun value => further value source := by
  intro source offset error fails awaits enough
  rcases run_bind_eq_error.mp fails with failsFirst | ⟨value, middle, read, failsOthers⟩
  · obtain ⟨place, reached, scalar, comes⟩ := arrives source offset error failsFirst awaits enough
    exact ⟨place, reached, scalar, comes.before⟩
  · have early := fenced.onward read
    obtain ⟨place, settled, scalar, comes⟩ := others value source middle error failsOthers awaits
      (by omega)
    exact ⟨place, implies _ _ _ (settled.mono early), scalar,
      comes.behind fun other twins => fenced.alike twins read settled⟩

/-- What follows a value may be such that it does not fail for another one. -/
theorem then_steady {scan : Text → Scan α} {further : α → Text → Scan β}
    (arrives : Arrives far fuel scan) (others : ∀ value, Steady (further value)) :
    Arrives far fuel fun source => scan source >>= fun value => further value source := by
  intro source offset error fails awaits enough
  rcases run_bind_eq_error.mp fails with failsFirst | ⟨value, middle, -, failsOthers⟩
  · obtain ⟨place, reached, scalar, comes⟩ := arrives source offset error failsFirst awaits enough
    exact ⟨place, reached, scalar, comes.before⟩
  · exact absurd awaits.ofValue ((others value).innocent failsOthers)

/-- A step looks at a character, and only a separator leads it to a scalar. -/
theorem peek_settled {further : Option Char → Text → Scan β}
    (others : ∀ next, Steady (further next) ∨
      (∃ char, next = some char ∧ isSeparator char = true) ∧
        Arrives (Behind 1) fuel (further next)) :
    Arrives Settled fuel fun source => peek source >>= fun next => further next source := by
  intro source offset error fails awaits enough
  rw [run_peek_bind] at fails
  rcases others source[offset]? with steady | ⟨⟨char, here, separates⟩, arrives⟩
  · exact absurd awaits.ofValue (steady.innocent fails)
  · obtain ⟨place, reached, scalar, comes⟩ := arrives source offset error fails awaits enough
    have before : offset < place := reached
    refine ⟨place, ⟨offset, char, le_rfl, before, here, separates⟩, scalar, comes.probe,
      fun other twins error refused => ?_⟩
    rw [run_peek_bind, ← twins.before offset before]
    exact comes.fails other twins error refused

/-- A step looks whether a character is there that is no probe, and else goes on. -/
theorem peek_is {char : Char} (noProbe : isProbe char = false) {scan other : Text → Scan β}
    (steady : Steady scan) (arrives : Arrives (Behind 0) fuel other) :
    Arrives (Behind 0) fuel fun source =>
      peek source >>= fun next => if (next == some char) = true then scan source else other source := by
  intro source offset error fails awaits enough
  rw [run_peek_bind] at fails
  split at fails
  · exact absurd awaits.ofValue (steady.innocent fails)
  · next isOther =>
      obtain ⟨place, reached, scalar, comes⟩ := arrives source offset error fails awaits enough
      have before : offset ≤ place := reached
      refine ⟨place, reached, scalar, comes.probe, fun twin twins error refused => ?_⟩
      have isOtherToo : ¬ (twin[offset]? == some char) = true := by
        rcases Nat.lt_or_eq_of_le before with further | rfl
        · rwa [← twins.before offset further]
        · obtain ⟨probe, found, isProbe⟩ := twins.second
          rw [found, beq_iff_eq]
          rintro ⟨⟩
          rw [noProbe] at isProbe
          cases isProbe
      rw [run_peek_bind, if_neg isOtherToo]
      exact comes.fails twin twins error refused

/-- A step looks whether a text without probes is there, and else goes on. -/
theorem at_is {part : String} (some_ : part ≠ "")
    (unlike : part.toList.any isProbe = false)
    {scan other : Text → Scan β} (steady : Steady scan) (arrives : Arrives (Behind 0) fuel other) :
    Arrives (Behind 0) fuel fun source =>
      at? source part >>= fun here => if here = true then scan source else other source := by
  intro source offset error fails awaits enough
  rw [run_at_bind] at fails
  split at fails
  · exact absurd awaits.ofValue (steady.innocent fails)
  · next isOther =>
      obtain ⟨place, reached, scalar, comes⟩ := arrives source offset error fails awaits enough
      have before : offset ≤ place := reached
      refine ⟨place, reached, scalar, comes.probe, fun twin twins error refused => ?_⟩
      have isOtherToo : ¬ twin.occursAt (Text.ofString part) offset = true := by
        rcases Nat.lt_or_eq_of_le before with further | rfl
        · have unlike' := eq_false_of_any unlike
          rwa [← twins.occursAt_eq further (by simpa [Text.ofString] using unlike')]
        · exact twins.second.not_occursAt some_ unlike
      rw [run_at_bind, if_neg isOtherToo]
      exact comes.fails twin twins error refused

end Arrives

end

/-! ## Values -/

theorem isProbe_of_isDecimal {char : Char} (isDigit : isDecimal char = true) (notZero : char ≠ '0') :
    isProbe char = true := by
  have range : 48 ≤ char.toNat ∧ char.toNat ≤ 57 := by
    simpa [isDecimal, Char.le_def, UInt32.le_iff_toNat_le] using isDigit
  have all : ∀ number < 58, 48 < number → isProbe (Char.ofNat number) = true := by decide
  have code := Char.ofNat_toNat char
  generalize char.toNat = number at range code
  subst code
  have other : number ≠ 48 := fun same => notZero (by rw [same])
  exact all number (by omega) (by omega)

theorem WholeNumber.exists_probe {chars : List Char} {count : Nat}
    (number : WholeNumber chars count) :
    ∃ char rest, chars = char :: rest ∧ isProbe char = true := by
  obtain ⟨isSign, isDigit, notZero, written, ends⟩ := number
  simp only [signs, List.mem_cons, List.not_mem_nil, or_false] at isSign
  rcases isSign with rfl | rfl | rfl
  · exact ⟨_, _, rfl, isProbe_of_isDecimal isDigit notZero⟩
  · exact ⟨_, _, rfl, by decide⟩
  · exact ⟨_, _, rfl, by decide⟩

theorem comesTo_readScalar {source : Text} {offset : Nat} {error : ReadError}
    (fails : (readScalar source).run offset = .error error) (awaits : error.Awaits source) :
    scalarAt (source.toList.drop offset) offset = .error error ∧
      ComesTo readScalar source offset offset := by
  rw [run_readScalar] at fails
  refine ⟨fails, ?_, fun other _ error refused => (run_readScalar other offset).trans refused⟩
  rcases exists_of_scalarAt fails with rfl | rfl | ⟨count, rfl, number, -⟩
  · cases awaits.1
  · exact ⟨'!', awaits.2, by decide⟩
  · obtain ⟨char, rest, whole, probe⟩ := number.exists_probe
    refine ⟨char, ?_, probe⟩
    have here := congrArg List.head? whole
    rwa [List.head?_drop, Array.getElem?_toList, List.head?_cons] at here

theorem run_readValue_of_probe {source : Text} {offset : Nat} (probe : ProbeAt source offset)
    (fuel : Nat) : (readValue source (fuel + 1)).run offset = (readScalar source).run offset := by
  have noTrue := probe.not_occursAt (show "true" ≠ "" by decide) (by decide)
  have noFalse := probe.not_occursAt (show "false" ≠ "" by decide) (by decide)
  obtain ⟨char, here, isProbe⟩ := probe
  have notBrace : ¬ (char == Char.ofNat 123) = true := by
    rw [beq_iff_eq]
    rintro rfl
    cases isProbe
  unfold readValue
  rw [run_peek_bind, here]
  split
  · next same => cases same
  · next same => cases same; cases isProbe
  · next same => cases same; cases isProbe
  · next same => cases same; cases isProbe
  · next same =>
      cases same
      rw [if_neg notBrace, run_at_bind, if_neg noTrue, run_at_bind, if_neg noFalse]

/-- A step looks at a character, and comes to a scalar right here or, where no probe is, behind
it. -/
theorem arrives_of_peek {fuel : Nat} {further : Option Char → Text → Scan Value}
    (here : ∀ {source offset}, ProbeAt source offset →
      (further source[offset]? source).run offset = (readScalar source).run offset)
    (missing : further none = fun _ => failHere .invalidValue)
    (others : ∀ char, Arrives (Behind 0) fuel (further (some char))) :
    Arrives (Behind 0) fuel fun source => peek source >>= fun next => further next source := by
  intro source offset error fails awaits enough
  rw [run_peek_bind] at fails
  by_cases probe : ProbeAt source offset
  · rw [here probe] at fails
    obtain ⟨scalar, comes⟩ := comesTo_readScalar fails awaits
    refine ⟨offset, le_rfl, scalar, probe, fun twin twins error refused => ?_⟩
    rw [run_peek_bind, here twins.second]
    exact comes.fails twin twins error refused
  · cases next : source[offset]? with
    | none =>
        rw [next, missing] at fails
        cases fails
        exact absurd awaits.2 (by rw [next]; exact nofun)
    | some char =>
        rw [next] at fails
        obtain ⟨place, reached, scalar, comes⟩ := others char source offset error fails awaits enough
        have before : offset < place := by
          refine lt_of_le_of_ne reached ?_
          rintro rfl
          exact probe comes.probe
        refine ⟨place, reached, scalar, comes.probe, fun twin twins error refused => ?_⟩
        rw [run_peek_bind, ← twins.before offset before, next]
        exact comes.fails twin twins error refused

mutual

theorem arrives_readValue (fuel : Nat) :
    Arrives (Behind 0) fuel fun source => readValue source fuel := by
  cases fuel with
  | zero =>
      -- Without fuel, nothing is left of the document.
      intro source offset error fails awaits enough
      cases fails
      have inside := lt_size_of_getElem? awaits.2
      omega
  | succ fuel =>
      have here := fun {source offset} (probe : ProbeAt source offset) =>
        run_readValue_of_probe probe fuel
      unfold readValue at here ⊢
      simp only [run_peek_bind] at here
      refine arrives_of_peek here rfl fun char => ?_
      split
      · next nothing => cases nothing
      · refine ((Steady.at? (by decide)).bind fun opens => ?_).arrives
        split_ifs
        · exact steady_readBasicLines.bind fun _ => .pure _
        · exact steady_readBasicLine.bind fun _ => .pure _
      · refine ((Steady.at? (by decide)).bind fun opens => ?_).arrives
        split_ifs
        · exact steady_readLiteralLines.bind fun _ => .pure _
        · exact steady_readLiteralLine.bind fun _ => .pure _
      · have items := (arrives_readItems fuel).then_steady fun items =>
          Steady.pure (Value.list items)
        refine Arrives.mono (.bind_reaching (.advance 1) (.advance 1) fun _ =>
          .bind_reaching steady_skipGap reaching_skipGap fun _ =>
            .peek_is (by decide) ((Steady.advance 1).bind fun _ => .pure _)
              (items.mono (fun _ _ _ => id) (Nat.le_refl _))) (fun _ _ _ => Nat.le_of_succ_le) le_rfl
      · split_ifs
        · have pairs := (arrives_readPairs fuel {}).then_steady fun entries =>
            Steady.pure (Value.dict (entryValues entries))
          refine Arrives.mono (.bind_reaching (.advance 1) (.advance 1) fun _ =>
            .bind_reaching (.skip _) (.skip blind_isSpace) fun _ =>
              .peek_is (by decide) ((Steady.advance 1).bind fun _ => .pure _)
                (pairs.mono (fun _ _ _ => id) (Nat.le_refl _))) (fun _ _ _ => Nat.le_of_succ_le) le_rfl
        · refine .at_is (by decide) (by decide) ((Steady.advance 4).bind fun _ => .pure _)
            (.at_is (by decide) (by decide) ((Steady.advance 5).bind fun _ => .pure _) ?_)
          intro source offset error fails awaits enough
          obtain ⟨scalar, comes⟩ := comesTo_readScalar fails awaits
          exact ⟨offset, le_rfl, scalar, comes⟩

theorem arrives_readItems (fuel : Nat) :
    Arrives (Behind 0) (fuel - 1) fun source => readItems source fuel := by
  cases fuel with
  | zero =>
      unfold readItems
      exact Steady.arrives (.failHere nofun)
  | succ fuel =>
      unfold readItems
      refine (arrives_readValue fuel).bind_fenced (fenced_readValue fuel) (fun value => ?_)
        fun _ _ _ settled => settled.lt.le
      refine .bind_steady apart_settled steady_skipGap fun _ => .peek_settled fun next => ?_
      split
      · exact Or.inl ((Steady.advance 1).bind fun _ => .pure _)
      · refine Or.inr ⟨⟨_, rfl, by decide⟩, ?_⟩
        have items := (arrives_readItems fuel).then_steady fun items =>
          Steady.pure (value :: items)
        exact .bind_reaching (.advance 1) (.advance 1) fun _ =>
          .bind_reaching steady_skipGap reaching_skipGap fun _ =>
            .peek_is (by decide) ((Steady.advance 1).bind fun _ => .pure _)
              (items.mono (fun _ _ _ => id) (by omega))
      · exact Or.inl (.failHere nofun)

theorem arrives_readPairs (fuel : Nat) (inline : Inline) :
    Arrives (Behind 0) (fuel - 1) fun source => readPairs source fuel inline := by
  cases fuel with
  | zero =>
      unfold readPairs
      exact Steady.arrives (.failHere nofun)
  | succ fuel =>
      unfold readPairs
      refine Arrives.mono (.bind_reaching steady_readPairKey reaching_readPairKey fun key => ?_)
        (fun _ _ _ => Nat.le_of_succ_le) le_rfl
      have values := (arrives_readValue fuel).mono (fun _ _ _ => id) (Nat.sub_le fuel 2)
      refine values.bind_fenced (fenced_readValue fuel) (fun value => ?_)
        fun _ _ _ settled => settled.lt.le
      refine .bind_steady apart_settled (steady_orFail (add_ne_invalidValue inline key value))
        fun changed => .bind_steady apart_settled (.skip _) fun _ => .peek_settled fun next => ?_
      split
      · refine Or.inr ⟨⟨_, rfl, by decide⟩, ?_⟩
        exact .bind_reaching (.advance 1) (.advance 1) fun _ =>
          .bind_reaching (.skip _) (.skip blind_isSpace) fun _ =>
            (arrives_readPairs fuel changed).mono (fun _ _ _ => id) (by omega)
      · left
        split_ifs
        · exact (Steady.advance 1).bind fun _ => .pure _
        · exact .failHere nofun
      · exact Or.inl (.failHere nofun)

end

end BooleanSearch.Toml
