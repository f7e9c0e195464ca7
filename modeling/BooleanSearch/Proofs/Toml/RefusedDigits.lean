import BooleanSearch.Proofs.Toml.AwaitedValues

/-!
# Documents that are refused for the digits of a number

A document is refused for the digits of a number exactly if a whole number with too many digits
stands where a value is due.
-/

namespace BooleanSearch.Toml

/-! ## Statements -/

theorem fenced_readPair (document : Document) : Fenced fun source => readPair source document := by
  unfold readPair
  exact steady_readPairKey.fenced.bind fun key =>
    (Fenced.sized (fun size => 2 * size + 2) fenced_readValue).bind fun value =>
      (steady_orFail (assign_ne_invalidValue document key value)).fenced

theorem fenced_readStatement (document : Document) (char : Char) :
    Fenced fun source => readStatement source document char := by
  unfold readStatement
  split
  · exact (fenced_readPair document).bind fun next => ((Steady.skip _).bind fun _ => .pure _).fenced
  · split
    · exact ((steady_readHeader document).bind fun _ => (Steady.skip _).bind fun _ => .pure _).fenced
    · split
      · exact (Steady.pure document).fenced
      · exact .failHere _

variable {fuel : Nat}

theorem arrives_readPair (document : Document) :
    Arrives (Behind 1) fuel fun source => readPair source document := by
  unfold readPair
  have values : ∀ less, Arrives (Behind 0) less fun source =>
      readValue source (2 * source.size + 2) := fun less =>
    Arrives.sized (fun size => 2 * size + 2) (fun size => Nat.le_add_right _ 2) arrives_readValue
  exact .bind_reaching steady_readPairKey reaching_readPairKey fun key =>
    (values _).then_steady fun value => steady_orFail (assign_ne_invalidValue document key value)

theorem arrives_readStatement (document : Document) (char : Char) :
    Arrives (Behind 1) fuel fun source => readStatement source document char := by
  unfold readStatement
  split
  · exact (arrives_readPair document).then_steady fun next => (Steady.skip _).bind fun _ => .pure _
  · split
    · exact ((steady_readHeader document).bind fun _ => (Steady.skip _).bind fun _ => .pure _).arrives
    · split
      · exact (Steady.pure document).arrives
      · exact Steady.arrives (.failHere nofun)

theorem arrives_readLines (steps : Nat) (document : Document) :
    Arrives (Behind 1) fuel fun source => readLines source steps document := by
  induction steps generalizing fuel document with
  | zero =>
      unfold readLines
      exact (Steady.pure document).arrives
  | succ steps inductionHypothesis =>
      have nextLine : ∀ {fuel} document, Arrives (Behind 1) fuel fun source =>
          advance 1 >>= fun _ => readLines source steps document := fun document =>
        .bind_reaching (.advance 1) (.advance 1) fun _ =>
          (inductionHypothesis document).mono (fun _ _ _ => Nat.le_of_succ_le) le_rfl
      unfold readLines
      refine .bind_steady apart_behind (.skip _) fun _ =>
        .bind_steady apart_behind .peek fun next => ?_
      split
      · exact (Steady.pure document).arrives
      · exact nextLine document
      · refine (arrives_readStatement document _).bind_fenced (fenced_readStatement document _)
          (fun changed => ?_) fun _ _ _ settled => settled.lt
        refine .bind_steady apart_settled steady_skipComment fun _ => .peek_settled fun next => ?_
        split
        · exact Or.inl (.pure changed)
        · exact Or.inr ⟨⟨_, rfl, by decide⟩, nextLine changed⟩
        · exact Or.inl (.failHere nofun)

/-! ## Documents -/

/-- The scan of a whole document. -/
def readDocument (source : Text) : Scan Document :=
  readLines source (source.size + 1) {}

theorem arrives_readDocument (fuel : Nat) : Arrives (Behind 1) fuel readDocument := by
  intro source offset error fails awaits enough
  obtain ⟨place, reached, scalar, comes⟩ :=
    arrives_readLines (source.size + 1) {} source offset error fails awaits enough
  refine ⟨place, reached, scalar, comes.probe, fun other twins error refused => ?_⟩
  unfold readDocument
  rw [← twins.size]
  exact comes.fails other twins error refused

/-- Why lines are no document, and where. -/
def failure? (lines : List Char) : Option ReadError :=
  match (readDocument lines.toArray).run 0 with
  | .ok _ => none
  | .error error => some error

theorem failure?_eq_some_iff {lines : List Char} {error : ReadError} :
    failure? lines = some error ↔ (readDocument lines.toArray).run 0 = .error error := by
  unfold failure?
  cases (readDocument lines.toArray).run 0 with
  | ok document => exact iff_of_false nofun nofun
  | error other =>
      rw [Option.some.injEq]
      exact ⟨congrArg _, Except.error.inj⟩

/-- A value is due between some characters and others: an exclamation mark is refused there as a
value. -/
def ValueDue (before after : List Char) : Prop :=
  failure? (before ++ '!' :: after) = some (.fault .invalidValue before.length)

/-- A whole number with too many digits stands where a value is due. -/
def LongNumberDue (lines : List Char) (count : Nat) : Prop :=
  ∃ before first rest, lines = before ++ first :: rest ∧ WholeNumber (first :: rest) count ∧
    Text.digitLimit < count ∧ ValueDue before rest

theorem twins_append {first second : Char} (isProbe₁ : isProbe first = true)
    (isProbe₂ : isProbe second = true) (before after : List Char) :
    Twins before.length (before ++ first :: after).toArray (before ++ second :: after).toArray := by
  have there : ∀ char, (before ++ char :: after).toArray[before.length]? = some char := by
    intro char
    simp
  refine ⟨by simp, fun index inside => ?_, ⟨first, there first, isProbe₁⟩, second, there second,
    isProbe₂⟩
  simp [List.getElem?_append_left inside]

theorem drop_append_cons (before after : List Char) (char : Char) :
    ((before ++ char :: after).toArray.toList).drop before.length = char :: after := by
  simp

theorem exists_append_of_getElem? {lines : List Char} {place : Nat} {char : Char}
    (here : lines[place]? = some char) :
    ∃ before after, lines = before ++ char :: after ∧ before.length = place := by
  obtain ⟨within, rfl⟩ := List.getElem?_eq_some_iff.mp here
  refine ⟨lines.take place, lines.drop (place + 1), ?_, List.length_take_of_le within.le⟩
  rw [← List.drop_eq_getElem_cons within, List.take_append_drop]

/-- Lines are refused for the digits of a number exactly if one with too many digits is due. -/
theorem failure?_eq_tooManyDigits_iff {lines : List Char} {count : Nat} :
    failure? lines = some (.tooManyDigits count) ↔ LongNumberDue lines count := by
  constructor
  · intro fails
    obtain ⟨place, -, scalar, comes⟩ := arrives_readDocument (2 * lines.length)
      lines.toArray 0 _ (failure?_eq_some_iff.mp fails) trivial le_rfl
    obtain ⟨first, here, isProbe⟩ := comes.probe
    rw [List.getElem?_toArray] at here
    obtain ⟨before, after, rfl, rfl⟩ := exists_append_of_getElem? here
    rw [drop_append_cons] at scalar
    rcases exists_of_scalarAt scalar with wrong | wrong | ⟨_, same, number, tooLong⟩
    · cases wrong
    · cases wrong
    cases same
    refine ⟨before, first, after, rfl, number, tooLong, failure?_eq_some_iff.mpr ?_⟩
    refine comes.fails _ (twins_append isProbe (by decide) before after) _ ?_
    rw [drop_append_cons]
    exact scalarAt_exclamation after _
  · rintro ⟨before, first, after, rfl, number, tooLong, due⟩
    obtain ⟨_, _, same, isProbe⟩ := number.exists_probe
    cases same
    have awaits : ReadError.Awaits (before ++ '!' :: after).toArray
        (.fault .invalidValue before.length) := ⟨rfl, by simp⟩
    obtain ⟨place, -, scalar, comes⟩ := arrives_readDocument
      (2 * (before ++ '!' :: after).length) _ 0 _ (failure?_eq_some_iff.mp due) awaits le_rfl
    obtain rfl : place = before.length := by
      rcases exists_of_scalarAt scalar with wrong | same | ⟨_, wrong, -⟩
      · cases wrong
      · exact (ReadError.fault.inj same).2.symm
      · cases wrong
    refine failure?_eq_some_iff.mpr
      (comes.fails _ (twins_append (by decide) isProbe before after) _ ?_)
    rw [drop_append_cons]
    exact number.scalarAt_eq tooLong _

theorem read_eq_tooManyDigits_iff {text : String} {count : Nat} :
    read text = .error (.tooManyDigits count) ↔
      LongNumberDue (unifyLineEnds text.toList) count := by
  rw [← failure?_eq_tooManyDigits_iff, failure?_eq_some_iff]
  unfold read readDocument
  dsimp only
  generalize (unifyLineEnds text.toList).toArray = source
  generalize (readLines source (source.size + 1) {}).run 0 = outcome
  rcases outcome with (⟨cause, offset⟩ | number) | result
  · exact iff_of_false nofun nofun
  · constructor <;> rintro ⟨⟩ <;> rfl
  · exact iff_of_false nofun nofun

/-! ## Values after names -/

theorem run_skip_bind {β : Type} (source : Text) (accept : Char → Bool) (further : Unit → Scan β)
    (offset : Nat) : (skip source accept >>= further).run offset =
      (further ()).run (skipFrom source accept (source.size - offset) offset) :=
  rfl

/-- Accepted characters are skipped up to one that is not. -/
theorem skipFrom_append {accept : Char → Bool} {taken : List Char} {next : Char}
    (all : ∀ char ∈ taken, accept char = true) (stops : accept next = false)
    (before rest : List Char) {fuel : Nat} (enough : taken.length ≤ fuel) :
    skipFrom (before ++ (taken ++ next :: rest)).toArray accept fuel before.length =
      before.length + taken.length := by
  induction taken generalizing before fuel with
  | nil =>
      cases fuel with
      | zero => rfl
      | succ fuel => simp [skipFrom, stops]
  | cons char taken inductionHypothesis =>
      obtain ⟨fuel, rfl⟩ :=
        Nat.exists_eq_add_of_lt (Nat.lt_of_lt_of_le (Nat.zero_lt_succ _) enough)
      have further := inductionHypothesis
        (fun other inside => all other (List.mem_cons_of_mem _ inside)) (before ++ [char])
        (Nat.le_of_succ_le_succ (by simpa using enough))
      simp only [List.append_assoc, List.singleton_append, List.length_append, List.length_cons,
        List.length_nil] at further
      simp [skipFrom, all char List.mem_cons_self, further]
      omega

theorem skipFrom_of_not {source : Text} {accept : Char → Bool} {char : Char} {offset : Nat}
    (here : source[offset]? = some char) (stops : accept char = false) (fuel : Nat) :
    skipFrom source accept fuel offset = offset := by
  cases fuel with
  | zero => rfl
  | succ fuel => simp [skipFrom, here, stops]

theorem not_isSpace_of_isBareKey {char : Char} (bare : isBareKey char = true) :
    isSpace char = false := by
  by_contra space
  rw [Bool.not_eq_false] at space
  rcases Bool.or_eq_true_iff.mp space with same | same <;>
    · rw [beq_iff_eq.mp same] at bare
      cases bare

/-- A name without quotes and an equals sign are read as the key of a pair. -/
theorem exists_run_readPairKey {name : List Char} {next : Char} (some_ : name ≠ [])
    (bare : ∀ char ∈ name, isBareKey char = true) (visible : isSpace next = false)
    (after : List Char) :
    ∃ key, (readPairKey (name ++ '=' :: next :: after).toArray).run 0 =
      .ok (key, name.length + 1) := by
  obtain ⟨first, others, rfl⟩ := List.exists_cons_of_ne_nil some_
  generalize written : (first :: others ++ '=' :: next :: after).toArray = source
  have start : source[0]? = some first := by simp [← written]
  have equals : source[(first :: others).length]? = some '=' := by simp [← written]
  have behind : source[(first :: others).length + 1]? = some next := by simp [← written]
  have taken : skipFrom source isBareKey (source.size - 0) 0 = (first :: others).length := by
    rw [← written]
    exact (skipFrom_append bare (by decide) [] (next :: after) (by simp)).trans (Nat.zero_add _)
  have part : (readKeyPart source).run 0 = .ok
      ((Text.slice source 0 (first :: others).length).toString, (first :: others).length) := by
    unfold readKeyPart
    rw [run_peek_bind, start]
    dsimp only
    rw [if_pos (bare first List.mem_cons_self), ← taken]
    rfl
  have key : (readKey source).run 0 = .ok
      ([(Text.slice source 0 (first :: others).length).toString], (first :: others).length) := by
    unfold readKey readKeyWithin
    refine run_bind_eq_ok.mpr ⟨_, _, part, ?_⟩
    rw [run_skip_bind, skipFrom_of_not equals (by decide), run_peek_bind, equals]
    rfl
  refine ⟨[(Text.slice source 0 (first :: others).length).toString], ?_⟩
  unfold readPairKey
  refine run_bind_eq_ok.mpr ⟨_, _, key, ?_⟩
  rw [run_peek_bind, equals]
  change (advance 1 >>= fun _ => skip source isSpace >>= fun _ => Pure.pure _).run _ = _
  refine run_bind_eq_ok.mpr ⟨(), _, rfl, ?_⟩
  rw [run_skip_bind, skipFrom_of_not behind visible]
  rfl

/-- A value is due after a name without quotes and an equals sign. -/
theorem valueDue_of_name {name : List Char} (some_ : name ≠ [])
    (bare : ∀ char ∈ name, isBareKey char = true) (after : List Char) :
    ValueDue (name ++ ['=']) after := by
  obtain ⟨key, reads⟩ := exists_run_readPairKey some_ bare
    (show isSpace '!' = false by decide) after
  unfold ValueDue
  rw [failure?_eq_some_iff, List.append_assoc, List.singleton_append, List.length_append]
  obtain ⟨first, others, rfl⟩ := List.exists_cons_of_ne_nil some_
  have bareFirst := bare first List.mem_cons_self
  generalize written : (first :: others ++ '=' :: '!' :: after).toArray = source at reads ⊢
  have start : source[0]? = some first := by simp [← written]
  have mark : source[(first :: others).length + 1]? = some '!' := by simp [← written]
  have missing : (readValue source (2 * source.size + 2)).run ((first :: others).length + 1) =
      .error (.fault .invalidValue ((first :: others).length + 1)) := by
    rw [run_readValue_of_probe ⟨_, mark, by decide⟩, run_readScalar, ← written]
    simp [scalarAt_exclamation]
  have statement : (readStatement source {} first).run 0 =
      .error (.fault .invalidValue ((first :: others).length + 1)) := by
    unfold readStatement
    rw [if_pos (by simp [bareFirst])]
    refine run_bind_eq_error.mpr (Or.inl ?_)
    exact run_bind_eq_error.mpr (Or.inr ⟨_, _, reads, run_bind_eq_error.mpr (Or.inl missing)⟩)
  unfold readDocument readLines
  rw [run_skip_bind, skipFrom_of_not start (not_isSpace_of_isBareKey bareFirst), run_peek_bind,
    start]
  split
  · next same => cases same
  · next same => cases same; cases bareFirst
  · next same =>
      cases same
      exact run_bind_eq_error.mpr (Or.inl statement)

theorem MoreDigits.of_forall {digits : List Char} (all : ∀ char ∈ digits, isDecimal char = true) :
    MoreDigits digits digits.length := by
  induction digits with
  | nil => exact .nil
  | cons char digits inductionHypothesis =>
      obtain ⟨digit, others⟩ := List.forall_mem_cons.mp all
      exact .digit digit (inductionHypothesis others)

theorem not_continues_nil : ¬ Continues [] := by
  intro continues
  generalize empty : ([] : List Char) = chars at continues
  cases continues with
  | digits goesOn => subst empty; cases goesOn
  | fraction => cases empty
  | exponent => cases empty

/-- A name without quotes, an equals sign and many digits. -/
theorem longNumberDue_of_name {name digits : List Char} {first : Char} (some_ : name ≠ [])
    (bare : ∀ char ∈ name, isBareKey char = true) (digit : isDecimal first = true)
    (notZero : first ≠ '0') (all : ∀ char ∈ digits, isDecimal char = true)
    (long : Text.digitLimit ≤ digits.length) :
    LongNumberDue (name ++ '=' :: first :: digits) (digits.length + 1) := by
  have number : WholeNumber (first :: digits) (digits.length + 1) := by
    have written := WholeNumber.intro (show [] ∈ signs by decide) digit notZero
      (MoreDigits.of_forall all) not_continues_nil
    rwa [List.nil_append, List.append_nil] at written
  exact ⟨name ++ ['='], first, digits, by simp, number, Nat.lt_succ_of_le long,
    valueDue_of_name some_ bare digits⟩

end BooleanSearch.Toml
