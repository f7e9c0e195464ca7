import BooleanSearch.Proofs.Query.Scanning

/-!
# Passes of the scanner

Every loop of the scanner is described by its single pass, which either ends the loop or takes
characters and goes on.  So no loop goes on forever, and nothing else does what its passes say.
-/

namespace BooleanSearch.Query

/-! ## Loops and their passes -/

/-- What one pass of a loop does: it goes on from a next state, and what the loop gives there is
resumed, or it ends the loop. -/
inductive Pass (σ ρ : Type)
  | goesOn (next : σ) (resume : ρ → ρ)
  | ends (result : ρ)

namespace Pass

variable {σ ρ : Type}

/-- What a pass gives if the loop is entered again for what is left. -/
def run (again : σ → ρ) : Pass σ ρ → ρ
  | .goesOn next resume => resume (again next)
  | .ends result => result

/-- Whether a pass goes on from a state. -/
def Enters (pass : Pass σ ρ) (next : σ) : Prop :=
  ∃ resume, pass = .goesOn next resume

@[simp]
theorem enters_goesOn {next other : σ} {resume : ρ → ρ} :
    (goesOn next resume : Pass σ ρ).Enters other ↔ next = other := by
  constructor
  · rintro ⟨_, same⟩
    exact (goesOn.inj same).1
  · rintro rfl
    exact ⟨resume, rfl⟩

@[simp]
theorem not_enters_ends {result : ρ} {other : σ} : ¬ (ends result : Pass σ ρ).Enters other := by
  rintro ⟨_, same⟩
  cases same

/-- Whether a pass takes at least one of some characters before it goes on, where the characters
that are left to a state are known. -/
def Takes (left : σ → List Char) (chars : List Char) (pass : Pass σ ρ) : Prop :=
  ∀ next, pass.Enters next → left next <:+ chars ∧ (left next).length < chars.length

variable {left : σ → List Char} {chars : List Char}

@[simp]
theorem takes_ends {result : ρ} : (ends result : Pass σ ρ).Takes left chars := by
  simp [Takes]

theorem takes_goesOn {next : σ} {resume : ρ → ρ} {char : Char} (ending : left next <:+ chars) :
    (goesOn next resume).Takes left (char :: chars) := by
  intro other enters
  rw [← enters_goesOn.mp enters]
  exact ⟨ending.trans (List.suffix_cons char chars), Nat.lt_succ_of_le ending.length_le⟩

end Pass

/-- A loop that runs its pass, where each pass takes characters or ends the loop. -/
structure Loops {σ ρ : Type} (left : σ → List Char) (pass : σ → Pass σ ρ) (loop : σ → ρ) :
    Prop where
  runs : ∀ state, loop state = (pass state).run loop
  advances : ∀ state, (pass state).Takes left (left state)

namespace Loops

variable {σ ρ : Type} {left : σ → List Char} {pass : σ → Pass σ ρ} {loop : σ → ρ}

/-- No loop goes on forever. -/
theorem wellFounded (loops : Loops left pass loop) :
    WellFounded fun next state => (pass state).Enters next :=
  Subrelation.wf (fun enters => (loops.advances _ _ enters).2)
    (InvImage.wf (fun state => (left state).length) Nat.lt_wfRel.wf)

/-- Nothing else does what the passes say. -/
theorem unique (loops : Loops left pass loop) {other : σ → ρ}
    (runs : ∀ state, other state = (pass state).run other) : other = loop := by
  funext state
  induction state using loops.wellFounded.induction with
  | _ state inductionHypothesis =>
      rw [runs state, loops.runs state]
      cases does : pass state with
      | ends result => rfl
      | goesOn next resume =>
          exact congrArg resume (inductionHypothesis next ⟨resume, does⟩)

end Loops

/-- A loop that comes to an end for every state, and the only one that does what its passes say. -/
structure Terminates {σ ρ : Type} (left : σ → List Char) (pass : σ → Pass σ ρ) (loop : σ → ρ) :
    Prop extends Loops left pass loop where
  finite : WellFounded fun next state => (pass state).Enters next
  only : ∀ other : σ → ρ, (∀ state, other state = (pass state).run other) → other = loop

theorem Loops.terminates {σ ρ : Type} {left : σ → List Char} {pass : σ → Pass σ ρ} {loop : σ → ρ}
    (loops : Loops left pass loop) : Terminates left pass loop :=
  ⟨loops, loops.wellFounded, fun _ runs => loops.unique runs⟩

/-! ## The loops within a token -/

/-- One pass over the characters of a quoted text. -/
def quotedPass (quote : Char) :
    List Char → Pass (List Char) (Option (List Char × List Char))
  | [] => .ends none
  | '\\' :: escaped :: rest =>
    .goesOn rest (Option.map fun (content, after) => (escaped :: content, after))
  | char :: rest =>
    if char == quote then .ends (some ([], rest))
    else .goesOn rest (Option.map fun (content, after) => (char :: content, after))

theorem loops_quotedPass (quote : Char) : Loops id (quotedPass quote) (readQuoted? quote) where
  runs chars := by
    fun_cases quotedPass quote chars with
    | case1 => rfl
    | case2 => rfl
    | case3 char rest unescaped closes =>
        rw [readQuoted?.eq_3 _ _ _ unescaped, if_pos closes]
        rfl
    | case4 char rest unescaped ordinary =>
        rw [readQuoted?.eq_3 _ _ _ unescaped, if_neg ordinary]
        rfl
  advances chars := by
    fun_cases quotedPass quote chars with
    | case1 | case3 => exact Pass.takes_ends
    | case2 escaped rest => exact Pass.takes_goesOn (List.suffix_cons escaped rest)
    | case4 char rest => exact Pass.takes_goesOn (List.suffix_refl rest)

/-- One pass over the characters of a pattern. -/
def patternPass : List Char → Pass (List Char) (Option (List Char × List Char))
  | [] => .ends none
  | ['\\'] => .ends none
  | '\\' :: escaped :: rest =>
    .goesOn rest (Option.map fun (body, after) => ('\\' :: escaped :: body, after))
  | char :: rest =>
    if char == '/' then .ends (some (['/'], rest))
    else .goesOn rest (Option.map fun (body, after) => (char :: body, after))

theorem loops_patternPass : Loops id patternPass readPatternBody? where
  runs chars := by
    fun_cases patternPass chars with
    | case1 => rfl
    | case2 => rfl
    | case3 => rfl
    | case4 char rest notLast unescaped closes =>
        rw [readPatternBody?.eq_4 _ _ notLast unescaped, if_pos closes]
        rfl
    | case5 char rest notLast unescaped ordinary =>
        rw [readPatternBody?.eq_4 _ _ notLast unescaped, if_neg ordinary]
        rfl
  advances chars := by
    fun_cases patternPass chars with
    | case1 | case2 | case4 => exact Pass.takes_ends
    | case3 escaped rest => exact Pass.takes_goesOn (List.suffix_cons escaped rest)
    | case5 char rest => exact Pass.takes_goesOn (List.suffix_refl rest)

/-- One pass over characters of a kind: the letters after a pattern, or those of a word. -/
def spanPass (test : Char → Bool) : List Char → Pass (List Char) (List Char × List Char)
  | [] => .ends ([], [])
  | char :: rest =>
    if test char then .goesOn rest fun (taken, after) => (char :: taken, after)
    else .ends ([], char :: rest)

theorem loops_spanPass (test : Char → Bool) :
    Loops id (spanPass test) fun chars => (chars.takeWhile test, chars.dropWhile test) where
  runs chars := by
    fun_cases spanPass test chars with
    | case1 => rfl
    | case2 char rest passes => simp [passes, Pass.run]
    | case3 char rest fails => simp [fails, Pass.run]
  advances chars := by
    fun_cases spanPass test chars with
    | case1 | case3 => exact Pass.takes_ends
    | case2 char rest => exact Pass.takes_goesOn (List.suffix_refl rest)

/-- One pass of the search for an opening parenthesis behind blanks. -/
def opensPass : List Char → Pass (List Char) Bool
  | [] => .ends false
  | char :: rest => if Text.isBlank char then .goesOn rest id else .ends (char == '(')

theorem loops_opensPass : Loops id opensPass opensNext where
  runs chars := by
    fun_cases opensPass chars with
    | case1 => rfl
    | case2 char rest blank => simp [opensNext, blank, Pass.run]
    | case3 char rest present => simp [opensNext, present, Pass.run]
  advances chars := by
    fun_cases opensPass chars with
    | case1 | case3 => exact Pass.takes_ends
    | case2 char rest => exact Pass.takes_goesOn (List.suffix_refl rest)

/-! ## The loop over tokens -/

/-- One pass of the scanner at an offset: it skips a blank, takes a token, is refused one, or stands
at the end. -/
def scanPass : Nat × List Char → Pass (Nat × List Char) (Except QueryFault (List Token))
  | (position, []) => .ends (.ok [⟨.endOfQuery, "", position⟩])
  | (position, char :: rest) =>
    if Text.isBlank char then .goesOn (position + 1, rest) id
    else
      match firstToken position (char :: rest) with
      | .error fault => .ends (.error fault)
      | .ok (token, after) =>
        .goesOn (position + ((rest.length + 1) - after.length), after) (Except.map (token :: ·))

theorem loops_scanPass : Loops Prod.snd scanPass fun state => scan state.1 state.2 where
  runs state := by
    fun_cases scanPass state with
    | case1 position => rfl
    | case2 position char rest blank => exact scan_cons_of_blank blank position rest
    | case3 position char rest present fault refused =>
        exact scan_cons_of_fault (Bool.eq_false_iff.mpr present) refused
    | case4 position char rest present token after read =>
        exact scan_cons_of_firstToken (Bool.eq_false_iff.mpr present) read
  advances state := by
    fun_cases scanPass state with
    | case1 | case3 => exact Pass.takes_ends
    | case2 position char rest blank => exact Pass.takes_goesOn (List.suffix_refl rest)
    | case4 position char rest present token after read =>
        have taken := tokenTaken_of_firstToken (Bool.eq_false_iff.mpr present) read
        exact Pass.takes_goesOn taken.ending

/-- The offset of a pass grows by the number of characters that it takes. -/
theorem offset_of_scanPass {state next : Nat × List Char} (enters : (scanPass state).Enters next) :
    next.1 + next.2.length = state.1 + state.2.length := by
  revert enters
  fun_cases scanPass state with
  | case1 | case3 => simp
  | case2 position char rest blank =>
      rw [Pass.enters_goesOn]
      rintro rfl
      simp only [List.length_cons]
      omega
  | case4 position char rest present token after read =>
      have shorter := (tokenTaken_of_firstToken (Bool.eq_false_iff.mpr present) read).shorter
      rw [Pass.enters_goesOn]
      rintro rfl
      simp only [List.length_cons]
      omega

/-- The scanner comes to an end on every query, and so do the loops within its tokens: each of their
passes takes characters, or it is the last one. -/
structure ScannerEnds : Prop where
  whole : ∀ query, tokenize query = scan 0 query.toList
  tokens : Terminates Prod.snd scanPass fun state => scan state.1 state.2
  offset : ∀ state next, (scanPass state).Enters next →
    state.1 < next.1 ∧ next.1 + next.2.length = state.1 + state.2.length
  quoted : ∀ quote, Terminates id (quotedPass quote) (readQuoted? quote)
  pattern : Terminates id patternPass readPatternBody?
  letters : Terminates id (spanPass Text.isLetter) fun chars =>
    (chars.takeWhile Text.isLetter, chars.dropWhile Text.isLetter)
  word : Terminates id (spanPass continuesWord) fun chars =>
    (chars.takeWhile continuesWord, chars.dropWhile continuesWord)
  opening : Terminates id opensPass opensNext

theorem scannerEnds : ScannerEnds where
  whole := tokenize_eq_scan
  tokens := loops_scanPass.terminates
  offset state next enters := by
    have sum := offset_of_scanPass enters
    have shorter := (loops_scanPass.advances state next enters).2
    exact ⟨by omega, sum⟩
  quoted quote := (loops_quotedPass quote).terminates
  pattern := loops_patternPass.terminates
  letters := (loops_spanPass Text.isLetter).terminates
  word := (loops_spanPass continuesWord).terminates
  opening := loops_opensPass.terminates

end BooleanSearch.Query
