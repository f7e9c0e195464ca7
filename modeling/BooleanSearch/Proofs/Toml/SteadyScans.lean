import BooleanSearch.Proofs.Text.Occurrences
import BooleanSearch.Toml.Reader

/-!
# Scans that do not look ahead

Two documents that are alike up to an offset are read alike as long as the reader stops before it,
provided that the characters there belong to no mark of the syntax.  This holds step by step, and
also that a step moves on and that it does not fail for the lack of a value.
-/

namespace BooleanSearch.Toml

/-! ## Documents that are alike up to an offset -/

/-- A character that begins a number without being a zero, or that begins no value at all. -/
def isProbe (char : Char) : Bool :=
  ['1', '2', '3', '4', '5', '6', '7', '8', '9', '+', '-', '!'].contains char

def ProbeAt (source : Text) (offset : Nat) : Prop :=
  ∃ char, source[offset]? = some char ∧ isProbe char = true

/-- Documents of one size that are alike up to an offset, where each of them has a probe. -/
structure Twins (offset : Nat) (first second : Text) : Prop where
  size : first.size = second.size
  before : ∀ index < offset, first[index]? = second[index]?
  first : ProbeAt first offset
  second : ProbeAt second offset

theorem eq_false_of_any {chars : List Char} {test : Char → Bool} (none : chars.any test = false) :
    ∀ char ∈ chars, test char = false :=
  fun char member => Bool.eq_false_iff.mpr (List.any_eq_false.mp none char member)

theorem isProbe_iff {char : Char} : isProbe char = true ↔
    char ∈ ['1', '2', '3', '4', '5', '6', '7', '8', '9', '+', '-', '!'] :=
  List.contains_iff_mem

/-- A test that no probe passes. -/
def Blind (test : Char → Bool) : Prop :=
  ∀ char, isProbe char = true → test char = false

theorem blind_of_any {test : Char → Bool}
    (none : ['1', '2', '3', '4', '5', '6', '7', '8', '9', '+', '-', '!'].any test = false) :
    Blind test :=
  fun char probe => eq_false_of_any none char (isProbe_iff.mp probe)

theorem blind_isSpace : Blind isSpace := blind_of_any rfl

theorem blind_isSpaceOrLineEnd : Blind isSpaceOrLineEnd := blind_of_any rfl

theorem lt_size_of_getElem? {source : Text} {offset : Nat} {char : Char}
    (here : source[offset]? = some char) : offset < source.size :=
  (Array.getElem?_eq_some_iff.mp here).1

theorem ProbeAt.lt_size {source : Text} {offset : Nat} (probe : ProbeAt source offset) :
    offset < source.size :=
  lt_size_of_getElem? probe.choose_spec.1

theorem ProbeAt.not_occursAt {source : Text} {offset : Nat} (probe : ProbeAt source offset)
    {part : String} (some_ : part ≠ "") (unlike : part.toList.any Toml.isProbe = false) :
    ¬ source.occursAt (Text.ofString part) offset = true := by
  intro here
  obtain ⟨char, found, isProbe⟩ := probe
  cases letters : part.toList with
  | nil => exact some_ (String.toList_eq_nil_iff.mp letters)
  | cons first rest =>
      have size : 0 < (Text.ofString part).size := by simp [Text.ofString, letters]
      have same := (Text.occursAt_iff_getElem?.mp here).2 0 size
      simp only [Nat.add_zero, found, Text.ofString, letters, List.getElem?_toArray,
        List.getElem?_cons_zero, Option.some.injEq] at same
      rw [same, eq_false_of_any unlike first (letters ▸ List.mem_cons_self)] at isProbe
      cases isProbe

theorem le_skipFrom (source : Text) (accept : Char → Bool) (fuel offset : Nat) :
    offset ≤ skipFrom source accept fuel offset := by
  fun_induction skipFrom source accept fuel offset <;> omega

theorem skipFrom_le (source : Text) (accept : Char → Bool) (fuel offset : Nat) :
    skipFrom source accept fuel offset ≤ offset + fuel := by
  fun_induction skipFrom source accept fuel offset <;> omega

theorem le_of_findFrom? {source part : Text} {fuel start found : Nat}
    (here : Text.findFrom? source part fuel start = some found) : start ≤ found := by
  induction fuel generalizing start with
  | zero => cases here
  | succ fuel inductionHypothesis =>
      unfold Text.findFrom? at here
      split_ifs at here
      · exact (Option.some.inj here).le
      · exact (Nat.le_succ start).trans (inductionHypothesis here)

theorem occursAt_of_findFrom? {source part : Text} {fuel start found : Nat}
    (here : Text.findFrom? source part fuel start = some found) :
    source.occursAt part found = true := by
  induction fuel generalizing start with
  | zero => cases here
  | succ fuel inductionHypothesis =>
      unfold Text.findFrom? at here
      split_ifs at here with occurs
      · exact Option.some.inj here ▸ occurs
      · exact inductionHypothesis here

namespace Twins

variable {offset : Nat} {s t : Text}

theorem symm (twins : Twins offset s t) : Twins offset t s :=
  ⟨twins.size.symm, fun index before => (twins.before index before).symm, twins.second, twins.first⟩

theorem slice_eq (twins : Twins offset s t) {start stop : Nat} (before : stop ≤ offset) :
    s.slice start stop = t.slice start stop := by
  unfold Text.slice
  refine Array.ext_getElem? fun index => ?_
  rw [Array.getElem?_extract, Array.getElem?_extract, twins.size]
  split_ifs with within
  · exact twins.before _ (by omega)
  · rfl

/-- Skipping stops before the offset in both documents or in none. -/
theorem skipFrom_eq (twins : Twins offset s t) (accept : Char → Bool) (fuel start : Nat)
    (before : skipFrom s accept fuel start < offset) :
    skipFrom t accept fuel start = skipFrom s accept fuel start := by
  induction fuel generalizing start with
  | zero => rfl
  | succ fuel inductionHypothesis =>
      have here := twins.before start (by have := le_skipFrom s accept (fuel + 1) start; omega)
      unfold skipFrom at before ⊢
      rw [← here]
      split
      · rfl
      · next char found =>
          rw [found] at before
          dsimp only at before
          split_ifs at before ⊢ with accepted
          · exact inductionHypothesis (start + 1) before
          · rfl

/-- Skipping never goes past a probe that is not accepted. -/
theorem skipFrom_eq_of_blind (twins : Twins offset s t) {accept : Char → Bool}
    (blind : Blind accept) (fuel : Nat) {start : Nat} (before : start ≤ offset) :
    skipFrom t accept fuel start = skipFrom s accept fuel start := by
  induction fuel generalizing start with
  | zero => rfl
  | succ fuel inductionHypothesis =>
      unfold skipFrom
      rcases Nat.lt_or_eq_of_le before with further | rfl
      · rw [← twins.before start further]
        split
        · rfl
        · split_ifs
          · exact inductionHypothesis further
          · rfl
      · obtain ⟨first, foundFirst, probeFirst⟩ := twins.first
        obtain ⟨second, foundSecond, probeSecond⟩ := twins.second
        rw [foundFirst, foundSecond]
        simp [blind first probeFirst, blind second probeSecond]

/-- A text without probes stands before the offset in both documents or in none. -/
theorem occursAt_eq (twins : Twins offset s t) {part : Text} {start : Nat} (before : start < offset)
    (unlike : ∀ char ∈ part, isProbe char = false) :
    s.occursAt part start = t.occursAt part start := by
  have transfer : ∀ {s t : Text}, Twins offset s t → s.occursAt part start = true →
      t.occursAt part start = true := by
    intro s t twins here
    rw [Text.occursAt_iff_getElem?] at here ⊢
    obtain ⟨within, same⟩ := here
    have inside : start + part.size ≤ offset := by
      by_contra beyond
      obtain ⟨char, found, probe⟩ := twins.first
      have at_ := same (offset - start) (by omega)
      rw [Nat.add_sub_cancel' before.le, found] at at_
      rw [unlike char (Array.mem_of_getElem? at_.symm)] at probe
      cases probe
    refine ⟨twins.size ▸ within, fun step stepWithin => ?_⟩
    rw [← twins.before _ (by omega)]
    exact same step stepWithin
  exact Bool.eq_iff_iff.mpr ⟨transfer twins, transfer twins.symm⟩

/-- A text without probes is found before the offset in both documents or in none. -/
theorem findFrom?_eq (twins : Twins offset s t) {part : Text}
    (unlike : ∀ char ∈ part, isProbe char = false) {fuel start found : Nat}
    (here : Text.findFrom? s part fuel start = some found) (before : found < offset) :
    Text.findFrom? t part fuel start = some found := by
  induction fuel generalizing start with
  | zero => cases here
  | succ fuel inductionHypothesis =>
      have from_ := le_of_findFrom? here
      unfold Text.findFrom? at here ⊢
      rw [← twins.occursAt_eq (by omega) unlike]
      split_ifs at here ⊢
      · exact here
      · exact inductionHypothesis here

end Twins

/-! ## Steps that do not look ahead -/

section

variable {α β : Type} {scan : Scan α} {further : α → Scan β} {offset stop : Nat} {value : β}

theorem run_bind_eq_ok : (scan >>= further).run offset = .ok (value, stop) ↔
    ∃ first middle, scan.run offset = .ok (first, middle) ∧
      (further first).run middle = .ok (value, stop) := by
  rw [StateT.run_bind]
  cases scan.run offset with
  | error error => exact iff_of_false nofun nofun
  | ok result =>
      obtain ⟨first, middle⟩ := result
      constructor
      · exact fun goesOn => ⟨first, middle, rfl, goesOn⟩
      · rintro ⟨_, _, ⟨⟩, goesOn⟩
        exact goesOn

theorem run_bind_eq_error {error : ReadError} : (scan >>= further).run offset = .error error ↔
    scan.run offset = .error error ∨ ∃ first middle, scan.run offset = .ok (first, middle) ∧
      (further first).run middle = .error error := by
  rw [StateT.run_bind]
  cases scan.run offset with
  | error other =>
      constructor
      · rintro ⟨⟩
        exact Or.inl rfl
      · rintro (same | ⟨_, _, ⟨⟩, _⟩)
        cases same
        rfl
  | ok result =>
      obtain ⟨first, middle⟩ := result
      constructor
      · exact fun fails => Or.inr ⟨first, middle, rfl, fails⟩
      · rintro (⟨⟨⟩⟩ | ⟨_, _, ⟨⟩, fails⟩)
        exact fails

end

theorem run_peek_bind {β : Type} (source : Text) (further : Option Char → Scan β) (offset : Nat) :
    (peek source >>= further).run offset = (further source[offset]?).run offset :=
  rfl

theorem run_at_bind {β : Type} (source : Text) (part : String) (further : Bool → Scan β)
    (offset : Nat) : (at? source part >>= further).run offset =
      (further (source.occursAt (Text.ofString part) offset)).run offset :=
  rfl

/-- An error for the lack of a value, or for a value that is a number with too many digits. -/
def ReadError.OfValue : ReadError → Prop
  | .fault cause _ => cause = .invalidValue
  | .tooManyDigits _ => True

/-- A step of reading that moves on, does not look past its end, and does not fail for the lack of a
value. -/
structure Steady {α : Type} (scan : Text → Scan α) : Prop where
  onward : ∀ {source offset value stop}, (scan source).run offset = .ok (value, stop) →
    offset ≤ stop
  alike : ∀ {place s t offset value stop}, Twins place s t →
    (scan s).run offset = .ok (value, stop) → stop < place →
    (scan t).run offset = .ok (value, stop)
  innocent : ∀ {source offset error}, (scan source).run offset = .error error → ¬ error.OfValue

namespace Steady

variable {α β : Type}

theorem pure (value : α) : Steady fun _ => (Pure.pure value : Scan α) := by
  refine ⟨?_, fun _ same _ => same, nofun⟩
  rintro source offset _ _ ⟨⟩
  exact le_rfl

theorem get : Steady fun _ => (MonadState.get : Scan Nat) := by
  refine ⟨?_, fun _ same _ => same, nofun⟩
  rintro source offset _ _ ⟨⟩
  exact le_rfl

theorem bind {scan : Text → Scan α} {further : α → Text → Scan β} (first : Steady scan)
    (others : ∀ value, Steady (further value)) :
    Steady fun source => scan source >>= fun value => further value source := by
  refine ⟨fun read => ?_, fun twins read before => ?_, fun fails => ?_⟩
  · obtain ⟨value, middle, readFirst, readOthers⟩ := run_bind_eq_ok.mp read
    exact (first.onward readFirst).trans ((others value).onward readOthers)
  · obtain ⟨value, middle, readFirst, readOthers⟩ := run_bind_eq_ok.mp read
    have early := (others value).onward readOthers
    exact run_bind_eq_ok.mpr ⟨value, middle, first.alike twins readFirst (by omega),
      (others value).alike twins readOthers before⟩
  · rcases run_bind_eq_error.mp fails with failsFirst | ⟨value, middle, -, failsOthers⟩
    · exact first.innocent failsFirst
    · exact (others value).innocent failsOthers

theorem failHere {cause : Cause} (other : cause ≠ .invalidValue) :
    Steady fun _ => (Toml.failHere cause : Scan α) := by
  refine ⟨nofun, nofun, ?_⟩
  rintro source offset _ ⟨⟩ same
  exact other same

theorem advance (count : Nat) : Steady fun _ => Toml.advance count := by
  refine ⟨?_, fun _ same _ => same, nofun⟩
  rintro source offset _ _ ⟨⟩
  exact Nat.le_add_right offset count

theorem peek : Steady Toml.peek := by
  refine ⟨?_, ?_, nofun⟩
  · rintro source offset _ _ ⟨⟩
    exact le_rfl
  · rintro place s t offset _ _ twins ⟨⟩ before
    change Except.ok (t[offset]?, offset) = _
    rw [twins.before offset before]

theorem skip (accept : Char → Bool) : Steady fun source => Toml.skip source accept := by
  refine ⟨?_, ?_, nofun⟩
  · rintro source offset _ _ ⟨⟩
    exact le_skipFrom source accept _ offset
  · rintro place s t offset _ _ twins ⟨⟩ before
    change Except.ok ((), skipFrom t accept (t.size - offset) offset) = _
    rw [← twins.size, twins.skipFrom_eq accept _ offset before]

theorem at? {part : String} (unlike : part.toList.any isProbe = false) :
    Steady fun source => Toml.at? source part := by
  refine ⟨?_, ?_, nofun⟩
  · rintro source offset _ _ ⟨⟩
    exact le_rfl
  · rintro place s t offset _ _ twins ⟨⟩ before
    change Except.ok (t.occursAt (Text.ofString part) offset, offset) = _
    rw [twins.occursAt_eq before fun char member => eq_false_of_any unlike char ?_]
    simpa [Text.ofString] using member

theorem le_of_advance {further : Text → Scan β} (others : Steady further) (source : Text)
    {count offset stop : Nat} {value : β}
    (read : (Toml.advance count >>= fun _ => further source).run offset = .ok (value, stop)) :
    offset + count ≤ stop := by
  obtain ⟨_, middle, moved, goesOn⟩ := run_bind_eq_ok.mp read
  cases moved
  exact others.onward goesOn

/-- A step may use what stands before its end. -/
theorem ahead {γ : Type} (reach : Nat) (look : Text → Nat → γ) (further : γ → Text → Scan β)
    (near : ∀ {place s t offset}, Twins place s t → offset + reach ≤ place →
      look s offset = look t offset)
    (others : ∀ seen, Steady (further seen))
    (far : ∀ {seen source offset value stop},
      (further seen source).run offset = .ok (value, stop) → offset + reach ≤ stop) :
    Steady fun source => MonadState.get >>= fun offset => further (look source offset) source := by
  refine ⟨fun read => (others _).onward read, ?_, fun fails => (others _).innocent fails⟩
  intro place s t offset value stop twins read before
  have reached : offset + reach ≤ stop := far read
  change (further (look t offset) t).run offset = .ok (value, stop)
  rw [← near twins (reached.trans before.le)]
  exact (others _).alike twins read before

theorem slice (start : Nat) (further : Text → Text → Scan β)
    (others : ∀ text, Steady (further text)) :
    Steady fun source => MonadState.get >>= fun stop => further (source.slice start stop) source :=
  ahead 0 (fun source stop => source.slice start stop) further
    (fun twins before => twins.slice_eq before) others fun read => (others _).onward read

/-- The size of the document may bound a step. -/
theorem sized {scan : Nat → Text → Scan α} (steady : ∀ size, Steady (scan size)) :
    Steady fun source => scan source.size source := by
  refine ⟨fun read => (steady _).onward read, fun twins read before => ?_,
    fun fails => (steady _).innocent fails⟩
  rw [← twins.size]
  exact (steady _).alike twins read before

end Steady

/-! ## Blanks and comments -/

/-- Going on to an offset, if no character before it is forbidden. -/
def goneTo (source : Text) (forbidden : Char → Bool) (start stop : Nat) :
    Except ReadError (Unit × Nat) :=
  let bad := skipFrom source (fun char => !forbidden char) (stop - start) start
  if bad < stop then
    match source[bad]? with
    | some char => .error (.fault (.invalidCharacter char) bad)
    | none => .ok ((), stop)
  else .ok ((), stop)

theorem run_skipUntil (source : Text) (text : String) (forbidden : Char → Bool) (required : Bool)
    (offset : Nat) : (skipUntil source text forbidden required).run offset =
      match source.find? (Text.ofString text) offset with
      | some found => goneTo source forbidden offset found
      | none =>
        if required then .error (.fault (.expected text) source.size)
        else goneTo source forbidden offset source.size := by
  have goOn : ∀ stop, StateT.run (σ := Nat) (m := Except ReadError)
      (if skipFrom source (fun char => !forbidden char) (stop - offset) offset < stop then
        match source[skipFrom source (fun char => !forbidden char) (stop - offset) offset]? with
        | some char => throw (.fault (.invalidCharacter char)
            (skipFrom source (fun char => !forbidden char) (stop - offset) offset))
        | none => set stop
      else set stop) offset = goneTo source forbidden offset stop := by
    intro stop
    unfold goneTo
    dsimp only
    split_ifs
    · split <;> rfl
    · rfl
  unfold skipUntil
  simp only [StateT.run_bind, StateT.run_get, pure_bind]
  cases source.find? (Text.ofString text) offset with
  | none => 
    cases required
    · exact goOn source.size
    · rfl
  | some found => exact goOn found

theorem eq_of_goneTo {source : Text} {forbidden : Char → Bool} {start target stop : Nat}
    (gone : goneTo source forbidden start target = .ok ((), stop)) : stop = target := by
  unfold goneTo at gone
  dsimp only at gone
  split_ifs at gone
  · split at gone
    · cases gone
    · cases gone
      rfl
  · cases gone
    rfl

theorem goneTo_innocent {source : Text} {forbidden : Char → Bool} {start target : Nat}
    {error : ReadError} (fails : goneTo source forbidden start target = .error error) :
    ¬ error.OfValue := by
  unfold goneTo at fails
  dsimp only at fails
  split_ifs at fails
  split at fails
  · cases fails
    exact nofun
  · cases fails

theorem Twins.goneTo_eq {place : Nat} {s t : Text} (twins : Twins place s t)
    {forbidden : Char → Bool} {start stop : Nat}
    (gone : goneTo s forbidden start stop = .ok ((), stop)) (before : stop < place) :
    goneTo t forbidden start stop = .ok ((), stop) := by
  have bound := twins.first.lt_size
  have reach := skipFrom_le s (fun char => !forbidden char) (stop - start) start
  unfold goneTo at gone ⊢
  dsimp only at gone ⊢
  by_cases short : skipFrom s (fun char => !forbidden char) (stop - start) start < stop
  · rw [if_pos short, Array.getElem?_eq_getElem (by omega)] at gone
    cases gone
  · by_cases back : start ≤ stop
    · rw [twins.skipFrom_eq _ _ _ (by omega), if_neg short]
    · have late := le_skipFrom t (fun char => !forbidden char) (stop - start) start
      rw [if_neg (by omega)]

theorem skipUntil_innocent {source : Text} {text : String} {forbidden : Char → Bool}
    {required : Bool} {offset : Nat} {error : ReadError}
    (fails : (skipUntil source text forbidden required).run offset = .error error) :
    ¬ error.OfValue := by
  rw [run_skipUntil] at fails
  split at fails
  · exact goneTo_innocent fails
  · split_ifs at fails
    · cases fails
      exact nofun
    · exact goneTo_innocent fails

theorem skipUntil_onward {source : Text} {text : String} {forbidden : Char → Bool}
    {required : Bool} {offset stop : Nat} (inside : offset ≤ source.size)
    (read : (skipUntil source text forbidden required).run offset = .ok ((), stop)) :
    offset ≤ stop := by
  rw [run_skipUntil] at read
  split at read
  · next found here => exact (le_of_findFrom? here).trans (eq_of_goneTo read).ge
  · split_ifs at read
    exact inside.trans (eq_of_goneTo read).ge

theorem Twins.skipUntil_eq {place : Nat} {s t : Text} (twins : Twins place s t) {text : String}
    (unlike : text.toList.any isProbe = false) {forbidden : Char → Bool}
    {required : Bool} {offset stop : Nat}
    (read : (skipUntil s text forbidden required).run offset = .ok ((), stop))
    (before : stop < place) :
    (skipUntil t text forbidden required).run offset = .ok ((), stop) := by
  have bound := twins.first.lt_size
  rw [run_skipUntil] at read ⊢
  split at read
  · next found here =>
      obtain rfl := eq_of_goneTo read
      have there : t.find? (Text.ofString text) offset = some stop := by
        unfold Text.find? at here ⊢
        rw [← twins.size]
        have unlike' := eq_false_of_any unlike
        exact twins.findFrom?_eq (by simpa [Text.ofString] using unlike') here before
      rw [there]
      exact twins.goneTo_eq read before
  · split_ifs at read
    have atEnd := eq_of_goneTo read
    omega

theorem run_skipComment (source : Text) (offset : Nat) : (skipComment source).run offset =
    if source[offset]? = some '#' then (skipUntil source "\n" isControl false).run (offset + 1)
    else .ok ((), offset) := by
  change StateT.run (if (source[offset]? == some '#') = true then
    advance 1 >>= fun _ => skipUntil source "\n" isControl false else Pure.pure ()) offset = _
  simp only [beq_iff_eq]
  split_ifs <;> rfl

theorem steady_skipComment : Steady skipComment := by
  have onward : ∀ {source offset stop},
      (skipComment source).run offset = .ok ((), stop) → offset ≤ stop := by
    intro source offset stop read
    rw [run_skipComment] at read
    split_ifs at read with hash
    · have inside := lt_size_of_getElem? hash
      exact (Nat.le_succ offset).trans (skipUntil_onward inside read)
    · cases read
      exact le_rfl
  refine ⟨onward, ?_, ?_⟩
  · intro place s t offset _ stop twins read before
    have early := onward read
    rw [run_skipComment] at read ⊢
    rw [← twins.before offset (by omega)]
    split_ifs at read ⊢
    · exact twins.skipUntil_eq (by decide) read before
    · exact read
  · intro source offset error fails
    rw [run_skipComment] at fails
    split_ifs at fails
    exact skipUntil_innocent fails

theorem steady_skipGap : Steady skipGap := by
  have within : ∀ fuel, Steady fun source => skipGapWithin source fuel := by
    intro fuel
    induction fuel with
    | zero => exact .pure ()
    | succ fuel inductionHypothesis =>
        unfold skipGapWithin
        refine Steady.get.bind fun before => (Steady.skip _).bind fun _ =>
          steady_skipComment.bind fun _ => Steady.get.bind fun after => ?_
        split_ifs
        · exact .pure ()
        · exact inductionHypothesis
  exact Steady.sized fun size => within (size + 1)

/-! ## Strings -/

theorem steady_readCode (count : Nat) : Steady fun source => readCode source count := by
  have named : ∀ digits, Steady fun _ =>
      (if isScalar (numberIn 16 digits) then pure [Char.ofNat (numberIn 16 digits)]
        else failHere .notScalar : Scan (List Char)) := by
    intro digits
    split_ifs
    · exact .pure _
    · exact .failHere nofun
  refine Steady.ahead count (fun source start => (source.slice start (start + count)).toList)
    (fun digits _ =>
      if digits.length == count && digits.all fun char => (hexValue? char).isSome then
        advance count >>= fun _ =>
          if isScalar (numberIn 16 digits) then pure [Char.ofNat (numberIn 16 digits)]
          else failHere .notScalar
      else failHere .invalidHex)
    (fun twins before => congrArg Array.toList (twins.slice_eq before)) (fun digits => ?_) ?_
  · split
    · exact (Steady.advance count).bind fun _ => named digits
    · exact .failHere nofun
  · intro digits source offset value stop read
    split at read
    · exact (named digits).le_of_advance source read
    · cases read

theorem steady_skipEscapedLineEnd (atLineEnd : Bool) :
    Steady fun source => skipEscapedLineEnd source atLineEnd := by
  unfold skipEscapedLineEnd
  cases atLineEnd
  · refine (Steady.skip _).bind fun _ => Steady.peek.bind fun next => ?_
    split
    · exact .pure ()
    · exact (Steady.advance 1).bind fun _ => .skip _
    · exact .failHere nofun
  · exact .skip _

/-- Reads what an escape stands for, from the character after the backslash on. -/
def readEscaped (source : Text) (multiline : Bool) : Option Char → Scan (List Char)
  | none => failHere .badEscape
  | some char =>
    if multiline && isSpaceOrLineEnd char then
      skipEscapedLineEnd source (char == '\n') >>= fun _ => pure []
    else if char == 'u' then readCode source 4
    else if char == 'U' then readCode source 8
    else
      match escaped? char with
      | some plain => pure [plain]
      | none => failHere .badEscape

theorem readEscape_eq (source : Text) (multiline : Bool) : readEscape source multiline =
    get >>= fun offset => advance 2 >>= fun _ => readEscaped source multiline source[offset + 1]? :=
  rfl

theorem steady_readEscaped (multiline : Bool) (next : Option Char) :
    Steady fun source => readEscaped source multiline next := by
  unfold readEscaped
  split
  · exact .failHere nofun
  · split_ifs
    · exact (steady_skipEscapedLineEnd _).bind fun _ => .pure _
    · exact steady_readCode 4
    · exact steady_readCode 8
    · split
      · exact .pure _
      · exact .failHere nofun

theorem steady_readEscape (multiline : Bool) :
    Steady fun source => readEscape source multiline := by
  have further := steady_readEscaped multiline
  simp only [readEscape_eq]
  exact Steady.ahead 2 (fun source offset => source[offset + 1]?)
    (fun next source => advance 2 >>= fun _ => readEscaped source multiline next)
    (fun twins before => twins.before _ (by omega))
    (fun next => (Steady.advance 2).bind fun _ => further next)
    fun read => (further _).le_of_advance _ read

theorem steady_readBasic (multiline : Bool) : Steady fun source => readBasic source multiline := by
  have within : ∀ fuel read, Steady fun source => readBasicWithin source multiline fuel read := by
    intro fuel
    induction fuel with
    | zero => exact fun read => .failHere nofun
    | succ fuel inductionHypothesis =>
        intro read
        unfold readBasicWithin
        refine Steady.peek.bind fun next => ?_
        split
        · exact .failHere nofun
        · split_ifs
          · exact (Steady.advance 1).bind fun _ => .pure _
          · refine (Steady.at? (by decide)).bind fun closes => ?_
            split_ifs
            · exact (Steady.advance 3).bind fun _ => .pure _
            · exact (Steady.advance 1).bind fun _ => inductionHypothesis _
        · exact (steady_readEscape multiline).bind fun _ => inductionHypothesis _
        · split_ifs
          · exact .failHere nofun
          · exact (Steady.advance 1).bind fun _ => inductionHypothesis _
          · exact .failHere nofun
          · exact (Steady.advance 1).bind fun _ => inductionHypothesis _
  exact Steady.sized fun size => within (size + 1) []

theorem steady_readBasicLine : Steady readBasicLine :=
  (Steady.advance 1).bind fun _ => steady_readBasic false

theorem steady_skipUntil {text : String} (unlike : text.toList.any isProbe = false)
    (forbidden : Char → Bool) : Steady fun source => skipUntil source text forbidden true := by
  refine ⟨fun read => ?_, fun twins read before => twins.skipUntil_eq unlike read before,
    fun fails => skipUntil_innocent fails⟩
  rw [run_skipUntil] at read
  split at read
  · next found here => exact (le_of_findFrom? here).trans (eq_of_goneTo read).ge
  · cases read

theorem steady_readLiteralLine : Steady readLiteralLine := by
  refine (Steady.advance 1).bind fun _ => Steady.get.bind fun start =>
    (steady_skipUntil (by decide) isControl).bind fun _ => ?_
  exact Steady.slice start (fun text _ => advance 1 >>= fun _ => Pure.pure text.toString)
    fun text => (Steady.advance 1).bind fun _ => .pure _

theorem steady_readMoreQuotes (quote : Char) (text : String) :
    Steady fun source => readMoreQuotes source quote text := by
  unfold readMoreQuotes
  refine Steady.peek.bind fun next => ?_
  split_ifs
  · exact .pure _
  · refine (Steady.advance 1).bind fun _ => Steady.peek.bind fun next => ?_
    split_ifs
    · exact .pure _
    · exact (Steady.advance 1).bind fun _ => .pure _

theorem steady_skipOpening : Steady skipOpening := by
  unfold skipOpening
  refine (Steady.advance 3).bind fun _ => Steady.peek.bind fun next => ?_
  split_ifs
  · exact .advance 1
  · exact .pure ()

theorem steady_readBasicLines : Steady readBasicLines :=
  steady_skipOpening.bind fun _ => (steady_readBasic true).bind fun text =>
    steady_readMoreQuotes '"' text

theorem steady_readLiteralLines : Steady readLiteralLines := by
  refine steady_skipOpening.bind fun _ => Steady.get.bind fun start =>
    (steady_skipUntil (by decide) isControlInLines).bind fun _ => ?_
  exact Steady.slice start
    (fun text source => advance 3 >>= fun _ => readMoreQuotes source '\'' text.toString)
    fun text => (Steady.advance 3).bind fun _ => steady_readMoreQuotes '\'' text.toString

/-! ## Keys -/

theorem steady_readKeyPart : Steady readKeyPart := by
  unfold readKeyPart
  refine Steady.peek.bind fun next => ?_
  split
  · exact .failHere nofun
  · split_ifs
    · refine Steady.get.bind fun start => (Steady.skip isBareKey).bind fun _ => ?_
      exact Steady.slice start (fun text _ => Pure.pure text.toString) fun text => .pure _
    · exact steady_readLiteralLine
    · exact steady_readBasicLine
    · exact .failHere nofun

theorem steady_readKey : Steady readKey := by
  have within : ∀ fuel, Steady fun source => readKeyWithin source fuel := by
    intro fuel
    induction fuel with
    | zero => exact .failHere nofun
    | succ fuel inductionHypothesis =>
        unfold readKeyWithin
        refine steady_readKeyPart.bind fun name => (Steady.skip _).bind fun _ =>
          Steady.peek.bind fun next => ?_
        split_ifs
        · exact (Steady.advance 1).bind fun _ => (Steady.skip _).bind fun _ =>
            inductionHypothesis.bind fun rest => .pure _
        · exact .pure _
  exact Steady.sized fun size => within (size + 1)

theorem steady_readPairKey : Steady readPairKey := by
  unfold readPairKey
  refine steady_readKey.bind fun key => Steady.peek.bind fun next => ?_
  split_ifs
  · exact .failHere nofun
  · exact (Steady.advance 1).bind fun _ => (Steady.skip _).bind fun _ => .pure key

theorem steady_orFail {α : Type} {outcome : Except Cause α}
    (other : outcome ≠ .error .invalidValue) : Steady fun _ => orFail outcome := by
  cases outcome with
  | ok value => exact .pure value
  | error cause => exact .failHere fun same => other (congrArg _ same)

theorem add_ne_invalidValue (inline : Inline) (key : Key) (value : Value) :
    inline.add key value ≠ .error .invalidValue := by
  unfold Inline.add
  split
  · exact nofun
  · split
    · exact nofun
    · split
      · exact nofun
      · dsimp only
        split <;> exact nofun

theorem openTable_ne_invalidValue (document : Document) (key : Key) :
    document.openTable key ≠ .error .invalidValue := by
  unfold Document.openTable
  dsimp only
  split
  · exact nofun
  · split <;> exact nofun

theorem openItem_ne_invalidValue (document : Document) (key : Key) :
    document.openItem key ≠ .error .invalidValue := by
  unfold Document.openItem
  dsimp only
  split
  · exact nofun
  · split <;> exact nofun

theorem assign_ne_invalidValue (document : Document) (key : Key) (value : Value) :
    document.assign key value ≠ .error .invalidValue := by
  unfold Document.assign
  split
  · exact nofun
  · dsimp only
    split
    · exact nofun
    · split
      · exact nofun
      · split <;> exact nofun

theorem steady_readHeader (document : Document) :
    Steady fun source => readHeader source document := by
  unfold readHeader
  dsimp only
  refine (Steady.at? (by decide)).bind fun doubled => ?_
  split_ifs
  · refine (Steady.advance 2).bind fun _ => (Steady.skip _).bind fun _ =>
      steady_readKey.bind fun key => (steady_orFail (openItem_ne_invalidValue _ _)).bind fun next =>
        (Steady.at? (by decide)).bind fun closes => ?_
    split_ifs
    · exact (Steady.advance 2).bind fun _ => .pure next
    · exact .failHere nofun
  · refine (Steady.advance 1).bind fun _ => (Steady.skip _).bind fun _ =>
      steady_readKey.bind fun key => (steady_orFail (openTable_ne_invalidValue _ _)).bind fun next =>
        (Steady.at? (by decide)).bind fun closes => ?_
    split_ifs
    · exact (Steady.advance 1).bind fun _ => .pure next
    · exact .failHere nofun

end BooleanSearch.Toml
