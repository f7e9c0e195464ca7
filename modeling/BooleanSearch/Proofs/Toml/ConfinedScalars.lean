import BooleanSearch.Proofs.Toml.LongNumbers
import BooleanSearch.Proofs.Toml.SteadyScans

/-!
# Scalars end at separators

Reading a scalar does not look past a separator, so what stands behind the next one does not matter.
-/

namespace BooleanSearch.Toml

/-- The characters between values, which no scalar holds. -/
def isSeparator (char : Char) : Bool :=
  [',', ']', Char.ofNat 125, '\n'].contains char

/-- Characters that differ only behind a separator. -/
inductive AlikeUpTo (first second : List Char) : List Char → List Char → Prop
  | separator {char : Char} : isSeparator char = true →
      AlikeUpTo first second (char :: first) (char :: second)
  | cons (char : Char) {x y : List Char} : AlikeUpTo first second x y →
      AlikeUpTo first second (char :: x) (char :: y)

/-- The same things taken from characters, with rests that are alike. -/
inductive TakenAlike (first second : List Char) {α : Type} :
    α × List Char → α × List Char → Prop
  | intro (value : α) {u v : List Char} : AlikeUpTo first second u v →
      TakenAlike first second (value, u) (value, v)

theorem rel_bind {α β γ δ : Type} {r : α → β → Prop} {s : γ → δ → Prop} {p : Option α}
    {q : Option β} (alike : Option.Rel r p q) {f : α → Option γ} {g : β → Option δ}
    (further : ∀ a b, r a b → Option.Rel s (f a) (g b)) : Option.Rel s (p.bind f) (q.bind g) := by
  cases alike with
  | none => exact .none
  | some same => exact further _ _ same

theorem rel_map {α β γ δ : Type} {r : α → β → Prop} {s : γ → δ → Prop} {p : Option α}
    {q : Option β} (alike : Option.Rel r p q) {f : α → γ} {g : β → δ}
    (further : ∀ a b, r a b → s (f a) (g b)) : Option.Rel s (p.map f) (q.map g) := by
  cases alike with
  | none => exact .none
  | some same => exact .some (further _ _ same)

theorem eq_of_rel {α : Type} {p q : Option α} (same : Option.Rel Eq p q) : p = q := by
  cases same with
  | none => rfl
  | some same => rw [same]

theorem rel_getD {α β : Type} {r : α → β → Prop} {p : Option α} {q : Option β}
    (alike : Option.Rel r p q) {a : α} {b : β} (other : r a b) : r (p.getD a) (q.getD b) := by
  cases alike with
  | none => exact other
  | some same => exact same

theorem unlike_of_isSeparator (test : Char → Bool)
    (none : [',', ']', Char.ofNat 125, '\n'].any test = false) {char : Char}
    (separates : isSeparator char = true) : test char = false :=
  eq_false_of_any none char (List.contains_iff_mem.mp separates)

theorem notDecimal_of_isSeparator {char : Char} (separates : isSeparator char = true) :
    isDecimal char = false :=
  unlike_of_isSeparator isDecimal (by decide) separates

theorem ne_of_isSeparator {char other : Char} (separates : isSeparator char = true)
    (no : isSeparator other = false) : char ≠ other := by
  rintro rfl
  rw [separates] at no
  cases no

section

variable {first second x y : List Char}

namespace AlikeUpTo

theorem length_add (alike : AlikeUpTo first second x y) :
    x.length + second.length = y.length + first.length := by
  induction alike with
  | separator _ => simp only [List.length_cons]; omega
  | cons _ _ inductionHypothesis => simp only [List.length_cons]; omega

theorem lt_length (alike : AlikeUpTo first second x y) : first.length < x.length := by
  induction alike with
  | separator _ => exact Nat.lt_succ_self _
  | cons _ _ inductionHypothesis => exact Nat.lt_succ_of_lt inductionHypothesis

theorem take_eq (alike : AlikeUpTo first second x y) {count : Nat}
    (inside : count + first.length ≤ x.length) : x.take count = y.take count := by
  induction alike generalizing count with
  | @separator char _ =>
      rw [List.length_cons] at inside
      obtain rfl | rfl : count = 0 ∨ count = 1 := by omega
      · rfl
      · rfl
  | cons char _ inductionHypothesis =>
      cases count with
      | zero => rfl
      | succ count =>
          rw [List.length_cons] at inside
          rw [List.take_succ_cons, List.take_succ_cons, inductionHypothesis (by omega)]

/-- Some first characters are the same, or a separator is among them. -/
theorem take_drop (alike : AlikeUpTo first second x y) (count : Nat) :
    x.take count = y.take count ∧ AlikeUpTo first second (x.drop count) (y.drop count) ∨
      (∃ char ∈ x.take count, isSeparator char = true) ∧
        ∃ char ∈ y.take count, isSeparator char = true := by
  induction alike generalizing count with
  | @separator char separates =>
      cases count with
      | zero => exact Or.inl ⟨rfl, .separator separates⟩
      | succ count =>
          exact Or.inr ⟨⟨char, List.mem_cons_self, separates⟩, char, List.mem_cons_self, separates⟩
  | @cons char x y alike inductionHypothesis =>
      cases count with
      | zero => exact Or.inl ⟨rfl, .cons char alike⟩
      | succ count =>
          rcases inductionHypothesis count with ⟨same, left⟩ | ⟨⟨c, inX, sepX⟩, d, inY, sepY⟩
          · exact Or.inl ⟨congrArg (char :: ·) same, left⟩
          · exact Or.inr ⟨⟨c, List.mem_cons_of_mem _ inX, sepX⟩, d, List.mem_cons_of_mem _ inY, sepY⟩

theorem dropWhile {test : Char → Bool} (alike : AlikeUpTo first second x y)
    (stops : ∀ char, isSeparator char = true → test char = false) :
    AlikeUpTo first second (x.dropWhile test) (y.dropWhile test) := by
  induction alike with
  | separator separates =>
      rw [List.dropWhile_cons_of_neg (by simp [stops _ separates]),
        List.dropWhile_cons_of_neg (by simp [stops _ separates])]
      exact .separator separates
  | cons char alike inductionHypothesis =>
      by_cases passes : test char = true
      · rw [List.dropWhile_cons_of_pos passes, List.dropWhile_cons_of_pos passes]
        exact inductionHypothesis
      · rw [List.dropWhile_cons_of_neg passes, List.dropWhile_cons_of_neg passes]
        exact .cons char alike

end AlikeUpTo

/-! ## Dates and times -/

theorem numberOf?_alike (count low high : Nat) (alike : AlikeUpTo first second x y) :
    Option.Rel (TakenAlike first second) (numberOf? count low high x)
      (numberOf? count low high y) := by
  unfold numberOf?
  dsimp only
  rcases alike.take_drop count with ⟨same, left⟩ | ⟨⟨c, inX, sepX⟩, d, inY, sepY⟩
  · rw [same]
    split
    · exact .some ⟨_, left⟩
    · exact .none
  · have some_ : ∀ {digits : List Char} {char : Char}, char ∈ digits → isSeparator char = true →
        digits.all isDecimal = false := by
      intro digits char member separates
      rw [List.all_eq_false]
      exact ⟨char, member, by simp [notDecimal_of_isSeparator separates]⟩
    rw [some_ inX sepX, some_ inY sepY]
    simp only [Bool.and_false, Bool.false_and]
    exact .none

theorem after?_alike {mark : Char} (no : isSeparator mark = false)
    (alike : AlikeUpTo first second x y) :
    Option.Rel (AlikeUpTo first second) (after? mark x) (after? mark y) := by
  cases alike with
  | separator separates =>
      have differs := ne_of_isSeparator separates no
      simp only [after?, beq_iff_eq, differs, if_false]
      exact .none
  | cons char alike =>
      rw [after?, after?]
      split
      · exact .some alike
      · exact .none

theorem time?_alike (alike : AlikeUpTo first second x y) :
    Option.Rel (AlikeUpTo first second) (time? x) (time? y) := by
  unfold time?
  refine rel_bind (numberOf?_alike 2 0 23 alike) ?_
  rintro _ _ ⟨_, alike⟩
  refine rel_bind (after?_alike (by decide) alike) fun _ _ alike =>
    rel_bind (numberOf?_alike 2 0 59 alike) ?_
  rintro _ _ ⟨_, alike⟩
  refine rel_bind (after?_alike (by decide) alike) fun _ _ alike =>
    rel_bind (numberOf?_alike 2 0 59 alike) ?_
  rintro _ _ ⟨_, alike⟩
  dsimp only
  cases alike with
  | @separator char separates =>
      have differs := ne_of_isSeparator separates (show isSeparator '.' = false by decide)
      split
      · next same => exact absurd (List.cons.inj same).1 differs
      · split
        · next same => exact absurd (List.cons.inj same).1 differs
        · exact .some (.separator separates)
  | @cons char x y alike =>
      by_cases point : char = '.'
      · subst point
        have digits : AlikeUpTo first second (x.dropWhile isDecimal) (y.dropWhile isDecimal) :=
          alike.dropWhile fun _ => notDecimal_of_isSeparator
        have before := alike.length_add
        have after := digits.length_add
        by_cases shorter : (x.dropWhile isDecimal).length < x.length
        · have shorterToo : (y.dropWhile isDecimal).length < y.length := by omega
          simp only [if_pos shorter, if_pos shorterToo]
          exact .some digits
        · have longToo : ¬ (y.dropWhile isDecimal).length < y.length := by omega
          simp only [if_neg shorter, if_neg longToo]
          exact .some (.cons _ alike)
      · split
        · next same => exact absurd (List.cons.inj same).1 point
        · split
          · next same => exact absurd (List.cons.inj same).1 point
          · exact .some (.cons _ alike)

theorem zoneRest_cons {char : Char} (notUpper : char ≠ 'Z') (notLower : char ≠ 'z')
    (rest : List Char) : zoneRest (char :: rest) =
      if char == '+' || char == '-' then
        ((numberOf? 2 0 23 rest).bind fun hours => (after? ':' hours.2).bind fun rest =>
          (numberOf? 2 0 59 rest).bind fun minutes => some minutes.2).getD (char :: rest)
      else char :: rest := by
  unfold zoneRest
  split
  · next same => exact absurd (List.cons.inj same).1 notUpper
  · next same => exact absurd (List.cons.inj same).1 notLower
  · next same =>
      obtain ⟨rfl, rfl⟩ := List.cons.inj same
      rfl
  · next same => cases same

theorem zoneRest_alike (alike : AlikeUpTo first second x y) :
    AlikeUpTo first second (zoneRest x) (zoneRest y) := by
  cases alike with
  | @separator char separates =>
      have notSign : (char == '+' || char == '-') = false :=
        unlike_of_isSeparator (fun char => char == '+' || char == '-') (by decide) separates
      have notUpper := ne_of_isSeparator separates (show isSeparator 'Z' = false by decide)
      have notLower := ne_of_isSeparator separates (show isSeparator 'z' = false by decide)
      rw [zoneRest_cons notUpper notLower, zoneRest_cons notUpper notLower, notSign]
      exact .separator separates
  | @cons char x y alike =>
      by_cases upper : char = 'Z'
      · subst upper
        exact alike
      by_cases lower : char = 'z'
      · subst lower
        exact alike
      rw [zoneRest_cons upper lower, zoneRest_cons upper lower]
      split
      · refine rel_getD (rel_bind (numberOf?_alike 2 0 23 alike) ?_) (.cons char alike)
        rintro _ _ ⟨_, alike⟩
        refine rel_bind (after?_alike (by decide) alike) fun _ _ alike =>
          rel_bind (numberOf?_alike 2 0 59 alike) ?_
        rintro _ _ ⟨_, alike⟩
        exact .some alike
      · exact .cons char alike

theorem moment?_alike (alike : AlikeUpTo first second x y) :
    Option.Rel (TakenAlike first second) (moment? x) (moment? y) := by
  unfold moment?
  refine rel_bind (numberOf?_alike 4 0 9999 alike) ?_
  rintro _ _ ⟨year, alike⟩
  refine rel_bind (after?_alike (by decide) alike) fun _ _ alike =>
    rel_bind (numberOf?_alike 2 1 12 alike) ?_
  rintro _ _ ⟨month, alike⟩
  refine rel_bind (after?_alike (by decide) alike) fun _ _ alike =>
    rel_bind (numberOf?_alike 2 1 31 alike) ?_
  rintro _ _ ⟨day, alike⟩
  dsimp only
  cases alike with
  | @separator char separates =>
      have notMark : (char == 'T' || char == 't' || char == ' ') = false :=
        unlike_of_isSeparator (fun char => char == 'T' || char == 't' || char == ' ') (by decide)
          separates
      dsimp only
      rw [notMark]
      exact .some (.intro _ (.separator separates))
  | @cons char x y alike =>
      dsimp only
      split
      · have clock := time?_alike alike
        generalize time? x = timeX, time? y = timeY at clock ⊢
        cases clock with
        | none => exact .some (.intro _ (.cons char alike))
        | some left => exact .some (.intro _ (zoneRest_alike left))
      · exact .some (.intro _ (.cons char alike))

/-! ## Numbers -/

theorem more_alike {isDigit : Char → Bool} (noUnderscore : isDigit '_' = false)
    (stops : ∀ char, isSeparator char = true → isDigit char = false)
    (alike : AlikeUpTo first second x y) (taken : List Char) :
    TakenAlike first second (digitRun?.more isDigit taken x) (digitRun?.more isDigit taken y) := by
  induction size : x.length using Nat.strongRecOn generalizing x y taken with
  | ind size inductionHypothesis =>
      cases alike with
      | @separator char separates =>
          have notParted : ∀ (next : Char) (others : List Char), char = '_' →
              isDigit next = false :=
            fun _ _ underscore => absurd underscore (ne_of_isSeparator separates (by decide))
          rw [more_cons_of_not (stops char separates) fun next others _ => notParted next others,
            more_cons_of_not (stops char separates) fun next others _ => notParted next others]
          exact .intro _ (.separator separates)
      | @cons char x y alike =>
          rw [List.length_cons] at size
          by_cases digit : isDigit char = true
          · rw [more_cons_of_digit digit, more_cons_of_digit digit]
            exact inductionHypothesis x.length (by omega) alike _ rfl
          · rw [Bool.not_eq_true] at digit
            cases alike with
            | @separator next separates =>
                have ends := stops next separates
                rw [more_cons_of_not digit (by rintro _ _ ⟨⟩ _; exact ends),
                  more_cons_of_not digit (by rintro _ _ ⟨⟩ _; exact ends)]
                exact .intro _ (.cons char (.separator separates))
            | @cons next x y alike =>
                by_cases parted : char = '_' ∧ isDigit next = true
                · obtain ⟨rfl, further⟩ := parted
                  rw [more_cons_underscore noUnderscore further,
                    more_cons_underscore noUnderscore further]
                  rw [List.length_cons] at size
                  exact inductionHypothesis x.length (by omega) alike _ rfl
                · have ends : char = '_' → isDigit next = false :=
                    fun underscore => Bool.eq_false_iff.mpr fun further =>
                      parted ⟨underscore, further⟩
                  rw [more_cons_of_not digit (by rintro _ _ ⟨⟩; exact ends),
                    more_cons_of_not digit (by rintro _ _ ⟨⟩; exact ends)]
                  exact .intro _ (.cons char (.cons next alike))

theorem digitRun?_alike {isDigit : Char → Bool} (noUnderscore : isDigit '_' = false)
    (stops : ∀ char, isSeparator char = true → isDigit char = false)
    (alike : AlikeUpTo first second x y) :
    Option.Rel (TakenAlike first second) (digitRun? isDigit x) (digitRun? isDigit y) := by
  cases alike with
  | separator separates =>
      rw [digitRun?, digitRun?, stops _ separates]
      exact .none
  | cons char alike =>
      rw [digitRun?, digitRun?]
      split
      · exact .some (more_alike noUnderscore stops alike [char])
      · exact .none

theorem decimals_alike (alike : AlikeUpTo first second x y) :
    Option.Rel (TakenAlike first second) (digitRun? isDecimal x) (digitRun? isDecimal y) :=
  digitRun?_alike isDecimal_underscore (fun _ => notDecimal_of_isSeparator) alike

theorem wholePart?_alike (alike : AlikeUpTo first second x y) :
    Option.Rel (TakenAlike first second) (wholePart? x) (wholePart? y) := by
  cases alike with
  | @separator char separates =>
      have notZero := ne_of_isSeparator separates (show isSeparator '0' = false by decide)
      rw [wholePart?_cons notZero, wholePart?_cons notZero]
      exact decimals_alike (.separator separates)
  | @cons char x y alike =>
      by_cases zero : char = '0'
      · subst zero
        exact .some (.intro _ alike)
      · rw [wholePart?_cons zero, wholePart?_cons zero]
        exact decimals_alike (.cons char alike)

theorem fractionPart_alike (alike : AlikeUpTo first second x y) :
    TakenAlike first second (fractionPart x) (fractionPart y) := by
  cases alike with
  | @separator char separates =>
      have notPoint := ne_of_isSeparator separates (show isSeparator '.' = false by decide)
      rw [fractionPart_cons notPoint, fractionPart_cons notPoint]
      exact .intro _ (.separator separates)
  | @cons char x y alike =>
      by_cases point : char = '.'
      · subst point
        exact rel_getD (decimals_alike alike) (.intro [] (.cons '.' alike))
      · rw [fractionPart_cons point, fractionPart_cons point]
        exact .intro _ (.cons char alike)

theorem signPart_alike (alike : AlikeUpTo first second x y) :
    TakenAlike first second (signPart x) (signPart y) := by
  cases alike with
  | @separator char separates =>
      have notPlus := ne_of_isSeparator separates (show isSeparator '+' = false by decide)
      have notMinus := ne_of_isSeparator separates (show isSeparator '-' = false by decide)
      rw [signPart_cons notPlus notMinus, signPart_cons notPlus notMinus]
      exact .intro _ (.separator separates)
  | @cons char x y alike =>
      by_cases plus : char = '+'
      · subst plus
        exact .intro _ alike
      by_cases minus : char = '-'
      · subst minus
        exact .intro _ alike
      rw [signPart_cons plus minus, signPart_cons plus minus]
      exact .intro _ (.cons char alike)

theorem exponentPart_alike (alike : AlikeUpTo first second x y) :
    Option.Rel (fun p q => p.1 = q.1 ∧ TakenAlike first second p.2 q.2) (exponentPart x)
      (exponentPart y) := by
  cases alike with
  | @separator char separates =>
      have notMark : (char == 'e' || char == 'E') = false :=
        unlike_of_isSeparator (fun char => char == 'e' || char == 'E') (by decide) separates
      rw [exponentPart, exponentPart, notMark]
      exact .none
  | @cons char x y alike =>
      rw [exponentPart, exponentPart]
      split
      · have signs := signPart_alike alike
        generalize signPart x = signX, signPart y = signY at signs ⊢
        obtain ⟨sign, alike⟩ := signs
        refine rel_map (decimals_alike alike) ?_
        rintro _ _ ⟨digits, alike⟩
        exact ⟨rfl, .intro digits alike⟩
      · exact .none

theorem basedNumber?_cons {char : Char} (notZero : char ≠ '0') (rest : List Char) :
    basedNumber? (char :: rest) = none := by
  simp [basedNumber?, notZero]

theorem basedNumber?_eq (alike : AlikeUpTo first second x y) : basedNumber? x = basedNumber? y := by
  cases alike with
  | @separator char separates =>
      have notZero := ne_of_isSeparator separates (show isSeparator '0' = false by decide)
      rw [basedNumber?_cons notZero, basedNumber?_cons notZero]
  | @cons char x y alike =>
      by_cases zero : char = '0'
      · subst zero
        cases alike with
        | @separator mark separates =>
            have noBase : (baseOf? mark).isSome = false :=
              unlike_of_isSeparator (fun mark => (baseOf? mark).isSome) (by decide) separates
            rw [basedNumber?, basedNumber?,
              Option.isNone_iff_eq_none.mp (Option.isSome_eq_false_iff.mp noBase)]
        | @cons mark x y alike =>
            rw [basedNumber?, basedNumber?]
            cases baseOf? mark with
            | none => rfl
            | some base =>
                have noUnderscore : isDigitIn base '_' = false := rfl
                refine eq_of_rel (rel_map (digitRun?_alike noUnderscore ?_ alike) ?_)
                · intro char separates
                  have noValue : (hexValue? char).isSome = false :=
                    unlike_of_isSeparator (fun char => (hexValue? char).isSome) (by decide) separates
                  rw [isDigitIn, Option.isNone_iff_eq_none.mp (Option.isSome_eq_false_iff.mp noValue)]
                · rintro _ _ ⟨digits, _⟩
                  rfl
      · rw [basedNumber?_cons zero, basedNumber?_cons zero]

theorem decimalNumber?_eq (alike : AlikeUpTo first second x y) :
    decimalNumber? x = decimalNumber? y := by
  have whole := alike.length_add
  have signs := signPart_alike alike
  unfold decimalNumber?
  generalize signPart x = signX, signPart y = signY at signs ⊢
  cases signs with
  | @intro sign u v alike =>
      have wholes := wholePart?_alike alike
      dsimp only
      generalize wholePart? u = wholeU, wholePart? v = wholeV at wholes ⊢
      cases wholes with
      | none => rfl
      | some taken =>
          cases taken with
          | @intro digits u v alike =>
              have fractions := fractionPart_alike alike
              dsimp only
              generalize fractionPart u = fractionU, fractionPart v = fractionV at fractions ⊢
              cases fractions with
              | @intro fraction u v alike =>
                  have exponents := exponentPart_alike alike
                  dsimp only
                  generalize exponentPart u = exponentU, exponentPart v = exponentV at exponents ⊢
                  cases exponents with
                  | none => rfl
                  | @some p q same =>
                      obtain ⟨below, left⟩ := p
                      obtain ⟨_, right⟩ := q
                      obtain ⟨rfl, power⟩ := same
                      cases power with
                      | @intro power u v behind =>
                          have rest := behind.length_add
                          have length : x.length - u.length = y.length - v.length := by omega
                          dsimp only
                          rw [length]

/-- A word without separators stands in front of both rests or of none. -/
theorem AlikeUpTo.prefix_iff (alike : AlikeUpTo first second x y) {word : List Char}
    (no : word.any isSeparator = false) : word <+: x ↔ word <+: y := by
  induction alike generalizing word with
  | @separator char separates =>
      cases word with
      | nil => simp
      | cons letter rest =>
          have differs : letter ≠ char :=
            (ne_of_isSeparator separates (eq_false_of_any no letter List.mem_cons_self)).symm
          simp [List.cons_prefix_cons, differs]
  | cons char alike inductionHypothesis =>
      cases word with
      | nil => simp
      | cons letter rest =>
          rw [List.cons_prefix_cons, List.cons_prefix_cons,
            inductionHypothesis (Bool.or_eq_false_iff.mp no).2]

/-- The number that some characters after a sign name. -/
theorem specialNumber?_of_signPart {chars sign unsigned : List Char}
    (parts : signPart chars = (sign, unsigned)) : specialNumber? chars =
      if ['i', 'n', 'f'] <+: unsigned then
        some (.float (if sign == ['-'] then -1.0 / 0.0 else 1.0 / 0.0), sign.length + 3)
      else if ['n', 'a', 'n'] <+: unsigned then some (.float (0.0 / 0.0), sign.length + 3)
      else none := by
  unfold specialNumber?
  rw [parts]
  dsimp only
  split
  · next rest => exact (if_pos (show ['i', 'n', 'f'] <+: _ from ⟨rest, rfl⟩)).symm
  · next rest =>
      have noInf : ¬ ['i', 'n', 'f'] <+: 'n' :: 'a' :: 'n' :: rest := by
        simp [List.cons_prefix_cons]
      rw [if_neg noInf]
      exact (if_pos (show ['n', 'a', 'n'] <+: _ from ⟨rest, rfl⟩)).symm
  · next noInf noNan =>
      rw [if_neg, if_neg]
      · rintro ⟨rest, rfl⟩
        exact noNan rest rfl
      · rintro ⟨rest, rfl⟩
        exact noInf rest rfl

theorem specialNumber?_eq (alike : AlikeUpTo first second x y) :
    specialNumber? x = specialNumber? y := by
  have signs := signPart_alike alike
  cases partsX : signPart x
  cases partsY : signPart y
  rw [partsX, partsY] at signs
  cases signs with
  | intro sign alike =>
      rw [specialNumber?_of_signPart partsX, specialNumber?_of_signPart partsY]
      simp only [alike.prefix_iff (show ['i', 'n', 'f'].any isSeparator = false by decide),
        alike.prefix_iff (show ['n', 'a', 'n'].any isSeparator = false by decide)]

theorem spelled_eq (kind : String) (alike : AlikeUpTo first second x y) {u v : List Char}
    (left : AlikeUpTo first second u v) : spelled kind x u = spelled kind y v := by
  have whole := alike.length_add
  have rest := left.length_add
  have far := left.lt_length
  have near := alike.lt_length
  have same : x.length - u.length = y.length - v.length := by omega
  unfold spelled
  dsimp only
  rw [← same, alike.take_eq (by omega)]

/-- A scalar is the same in front of a separator, whatever stands behind that. -/
theorem scalarAt_eq (alike : AlikeUpTo first second x y) (offset : Nat) :
    scalarAt x offset = scalarAt y offset := by
  have moments := moment?_alike alike
  have times := time?_alike alike
  unfold scalarAt
  rw [basedNumber?_eq alike, decimalNumber?_eq alike, specialNumber?_eq alike]
  generalize moment? x = momentX, moment? y = momentY at moments ⊢
  generalize time? x = timeX, time? y = timeY at times ⊢
  cases moments with
  | some taken =>
      obtain ⟨valid, left⟩ := taken
      dsimp only
      rw [spelled_eq "date" alike left]
  | none =>
      cases times with
      | some left =>
          dsimp only
          rw [spelled_eq "time" alike left]
      | none => rfl

end

end BooleanSearch.Toml
