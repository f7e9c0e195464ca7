import BooleanSearch.Proofs.Match.WordNumbers
import BooleanSearch.Proofs.Session.Caches
import Mathlib.Data.Set.Card

/-!
# Words as maximal runs

The words of an index are the maximal runs of characters that are not blank, in order.  While a text
is read, the words found so far hold exactly the offsets of such characters, and a blank stands
between any two of them.  So an offset is looked up as the number of runs that end before it,
wherever it is, and an index that is kept under the digest of its content gives the same number.
-/

namespace BooleanSearch

open Cache

/-! ## Runs -/

/-- A character that is not blank stands at an offset. -/
def InWord (content : Text) (offset : Nat) : Prop :=
  ∃ char, content[offset]? = some char ∧ Text.isBlank char = false

theorem InWord.lt_size {content : Text} {offset : Nat} (inWord : InWord content offset) :
    offset < content.size := by
  obtain ⟨char, found, -⟩ := inWord
  exact (Array.getElem?_eq_some_iff.mp found).1

/-- The first and the last offset of a maximal run of characters that are not blank. -/
structure IsRun (content : Text) (span : Nat × Nat) : Prop where
  order : span.1 ≤ span.2
  inside : ∀ offset, span.1 ≤ offset → offset ≤ span.2 → InWord content offset
  begins : ∀ before, before + 1 = span.1 → ¬ InWord content before
  ends : ¬ InWord content (span.2 + 1)

namespace IsRun

variable {content : Text} {first second : Nat × Nat}

/-- A maximal run that shares an offset with another does not begin after it. -/
theorem fst_le (run : IsRun content first) (other : IsRun content second) {offset : Nat}
    (least : first.1 ≤ offset) (inside : second.1 ≤ offset ∧ offset ≤ second.2) :
    first.1 ≤ second.1 := by
  by_contra later
  have before : first.1 - 1 + 1 = first.1 := by omega
  apply run.begins (first.1 - 1) before
  exact other.inside _ (by omega) (by omega)

theorem snd_le (run : IsRun content first) (other : IsRun content second) {offset : Nat}
    (most : offset ≤ second.2) (inside : first.1 ≤ offset ∧ offset ≤ first.2) :
    first.2 ≤ second.2 := by
  by_contra longer
  apply other.ends
  exact run.inside _ (by omega) (by omega)

/-- Maximal runs that share an offset are the same. -/
theorem eq_of_shared (run : IsRun content first) (other : IsRun content second) {offset : Nat}
    (inFirst : first.1 ≤ offset ∧ offset ≤ first.2)
    (inSecond : second.1 ≤ offset ∧ offset ≤ second.2) : first = second := by
  have begins := Nat.le_antisymm (run.fst_le other inFirst.1 inSecond)
    (other.fst_le run inSecond.1 inFirst)
  have ends := Nat.le_antisymm (run.snd_le other inSecond.2 inFirst)
    (other.snd_le run inFirst.2 inSecond)
  exact Prod.ext begins ends

end IsRun

/-- An offset, of any sign, is that of a character that is not blank. -/
def AtWord (content : Text) (offset : Int) : Prop :=
  ∃ place : Nat, (place : Int) = offset ∧ InWord content place

/-- The number of maximal runs that end before an offset. -/
noncomputable def runsBefore (content : Text) (offset : Int) : Nat :=
  {span | IsRun content span ∧ (span.2 : Int) < offset}.ncard

namespace WordIndex

/-! ## Building an index -/

/-- A word of an index reaches from at most an offset to at least that offset. -/
def Holds (index : WordIndex) (word offset : Nat) : Prop :=
  ∃ (valid : word < index.starts.size) (known : word < index.lasts.size),
    index.starts[word] ≤ offset ∧ offset ≤ index.lasts[word]

/-- The index after some characters of a text. -/
structure Covering (seen : List Char) (state : WordIndex × Bool × Nat) : Prop where
  building : Building state
  length : state.2.2 = seen.length
  covered : ∀ offset, InWord seen.toArray offset ↔ ∃ word, state.1.Holds word offset
  apart : ∀ word (valid : word + 1 < state.1.starts.size) (known : word < state.1.lasts.size),
    state.1.lasts[word] + 1 < state.1.starts[word + 1]
  goesOn : state.2.1 = true →
    ∃ word, ∃ known : word < state.1.lasts.size,
      word + 1 = state.1.lasts.size ∧ state.1.lasts[word] + 1 = seen.length
  stopped : state.2.1 = false →
    ∀ word (known : word < state.1.lasts.size), state.1.lasts[word] + 1 < seen.length

theorem inWord_concat_iff {seen : List Char} {char : Char} {offset : Nat} :
    InWord (seen ++ [char]).toArray offset ↔
      InWord seen.toArray offset ∨ offset = seen.length ∧ Text.isBlank char = false := by
  unfold InWord
  simp only [List.getElem?_toArray]
  by_cases earlier : offset < seen.length
  · rw [List.getElem?_append_left earlier]
    simp [Nat.ne_of_lt earlier]
  · by_cases here : offset = seen.length
    · simp [here]
    · rw [List.getElem?_eq_none (by simp; omega), List.getElem?_eq_none (by omega)]
      simp [here]

section

variable {index : WordIndex} {word offset place : Nat}

theorem holds_push_iff (sizes : index.starts.size = index.lasts.size) :
    Holds ⟨index.starts.push place, index.lasts.push place⟩ word offset ↔
      index.Holds word offset ∨ word = index.starts.size ∧ offset = place := by
  unfold Holds
  simp only [Array.size_push, Array.getElem_push]
  by_cases old : word < index.starts.size
  · have oldLast : word < index.lasts.size := sizes ▸ old
    simp [old, oldLast, Nat.ne_of_lt old, Nat.le_of_lt old, Nat.le_of_lt oldLast]
  · have newLast : ¬ word < index.lasts.size := sizes ▸ old
    simp only [old, newLast, dif_neg, not_false_eq_true, IsEmpty.exists_iff, false_or]
    constructor
    · rintro ⟨valid, _, least, most⟩
      exact ⟨by omega, by omega⟩
    · rintro ⟨rfl, rfl⟩
      exact ⟨by omega, by omega, by omega, by omega⟩

/-- A last word that grows by the next character holds one offset more. -/
theorem holds_extend_iff (ordered : index.Ordered) {last : Nat} (known : last < index.lasts.size)
    (isLast : last + 1 = index.lasts.size) (next : index.lasts[last] + 1 = place) :
    Holds ⟨index.starts, index.lasts.setIfInBounds (index.lasts.size - 1) place⟩ word offset ↔
      index.Holds word offset ∨ word = last ∧ offset = place := by
  have sizes := ordered.sizes
  have position : index.lasts.size - 1 = last := by omega
  unfold Holds
  rw [position]
  simp only [Array.size_setIfInBounds]
  by_cases grown : word = last
  · subst grown
    have span := ordered.spans word (sizes ▸ known) known
    simp only [Array.getElem_setIfInBounds known, if_true, true_and]
    constructor
    · rintro ⟨valid, _, least, most⟩
      by_cases new : offset = place
      · exact Or.inr new
      · exact Or.inl ⟨valid, known, least, by omega⟩
    · rintro (⟨valid, _, least, most⟩ | rfl)
      · exact ⟨valid, known, least, by omega⟩
      · exact ⟨sizes ▸ known, known, by omega, Nat.le_refl _⟩
  · constructor
    · rintro ⟨valid, inside, least, most⟩
      rw [Array.getElem_setIfInBounds inside, if_neg (Ne.symm grown)] at most
      exact Or.inl ⟨valid, inside, least, most⟩
    · rintro (⟨valid, inside, least, most⟩ | ⟨same, -⟩)
      · refine ⟨valid, inside, least, ?_⟩
        rw [Array.getElem_setIfInBounds inside, if_neg (Ne.symm grown)]
        exact most
      · exact absurd same grown

end

theorem covering_start : Covering [] (empty, false, 0) := by
  have none : ∀ word, ¬ word < (#[] : Array Nat).size := fun word => Nat.not_lt_zero word
  refine ⟨⟨⟨rfl, fun word valid => absurd valid (none word), fun word valid => ?_⟩,
    fun word valid => absurd valid (none word)⟩, rfl, fun offset => ?_, fun word valid => ?_,
    nofun, fun _ word known => absurd known (none word)⟩
  · exact absurd valid (none (word + 1))
  · apply iff_of_false
    · rintro ⟨char, found, -⟩
      simp at found
    · rintro ⟨word, valid, -⟩
      exact none word valid
  · exact absurd valid (none (word + 1))

/-- A blank ends the word before it. -/
theorem Covering.blank {seen : List Char} {state : WordIndex × Bool × Nat}
    (covering : Covering seen state) {char : Char} (blank : Text.isBlank char = true) :
    Covering (seen ++ [char]) (state.1, false, state.2.2 + 1) := by
  have length : (seen ++ [char]).length = seen.length + 1 := by simp
  refine ⟨?_, by rw [length, covering.length], fun offset => ?_, covering.apart, nofun, ?_⟩
  · exact ⟨covering.building.ordered,
      fun word known => Nat.lt_succ_of_lt (covering.building.before word known)⟩
  · rw [inWord_concat_iff, covering.covered offset, blank]
    simp
  · intro _ word known
    have before := covering.building.before word known
    rw [covering.length] at before
    rw [length]
    exact Nat.succ_lt_succ before

theorem Covering.covered_concat {seen : List Char} {state : WordIndex × Bool × Nat}
    (covering : Covering seen state) {char : Char} (present : Text.isBlank char = false)
    (offset : Nat) : InWord (seen ++ [char]).toArray offset ↔
      (∃ word, state.1.Holds word offset) ∨ offset = seen.length := by
  rw [inWord_concat_iff, covering.covered offset]
  simp [present]

/-- A character that is not blank goes on with the word before it. -/
theorem Covering.extend {seen : List Char} {index : WordIndex} {place : Nat}
    (covering : Covering seen (index, true, place)) {char : Char}
    (present : Text.isBlank char = false) :
    Covering (seen ++ [char]) (WordIndex.step (index, true, place) char) := by
  have building := covering.building.step char
  have covered := covering.covered_concat present
  have ordered : index.Ordered := covering.building.ordered
  have sizes := ordered.sizes
  have length : (seen ++ [char]).length = seen.length + 1 := by simp
  obtain rfl : place = seen.length := covering.length
  obtain ⟨last, known, isLast, next⟩ := covering.goesOn rfl
  dsimp only at known isLast next
  have position : index.lasts.size - 1 = last := by omega
  unfold WordIndex.step at building ⊢
  simp only [present, Bool.false_eq_true, if_false, if_true] at building ⊢
  refine ⟨building, by rw [length], fun offset => ?_, fun word valid inside => ?_,
    fun _ => ⟨last, by simpa using known, by simpa using isLast, ?_⟩, nofun⟩
  · simp only [covered, holds_extend_iff ordered known isLast next, exists_or, exists_eq_left]
  · dsimp only at valid inside ⊢
    have known : word < index.lasts.size := by omega
    rw [Array.getElem_setIfInBounds known, if_neg (by omega)]
    exact covering.apart word valid known
  · simp only [position, length]
    rw [Array.getElem_setIfInBounds_self]

/-- Behind a blank, or at the beginning, a character that is not blank begins a word. -/
theorem Covering.begin {seen : List Char} {index : WordIndex} {place : Nat}
    (covering : Covering seen (index, false, place)) {char : Char}
    (present : Text.isBlank char = false) :
    Covering (seen ++ [char]) (WordIndex.step (index, false, place) char) := by
  have building := covering.building.step char
  have covered := covering.covered_concat present
  have sizes : index.starts.size = index.lasts.size := covering.building.ordered.sizes
  have length : (seen ++ [char]).length = seen.length + 1 := by simp
  obtain rfl : place = seen.length := covering.length
  unfold WordIndex.step at building ⊢
  simp only [present, Bool.false_eq_true, if_false] at building ⊢
  refine ⟨building, by rw [length], fun offset => ?_, fun word valid inside => ?_,
    fun _ => ⟨index.lasts.size, by simp, by simp, by simp⟩, nofun⟩
  · simp only [covered, holds_push_iff sizes, exists_or, exists_eq_left]
  · dsimp only at valid inside ⊢
    have more : word + 1 < index.starts.size + 1 := by simpa using valid
    have old : word < index.lasts.size := by omega
    simp only [Array.getElem_push, dif_pos old]
    by_cases inner : word + 1 < index.starts.size
    · rw [dif_pos inner]
      exact covering.apart word inner old
    · rw [dif_neg inner]
      exact covering.stopped rfl word old

theorem Covering.step {seen : List Char} {state : WordIndex × Bool × Nat}
    (covering : Covering seen state) (char : Char) :
    Covering (seen ++ [char]) (WordIndex.step state char) := by
  obtain ⟨index, inWord, place⟩ := state
  by_cases blank : Text.isBlank char = true
  · have ended := covering.blank blank
    unfold WordIndex.step
    dsimp only
    rw [if_pos blank]
    exact ended
  · have present := Bool.eq_false_iff.mpr blank
    cases inWord with
    | true => exact covering.extend present
    | false => exact covering.begin present

theorem covering_build (content : Text) :
    ∃ inWord, Covering content.toList (build content, inWord, content.size) := by
  have steps : ∀ seen : List Char, Covering seen (seen.foldl WordIndex.step (empty, false, 0)) := by
    intro seen
    induction seen using List.reverseRecOn with
    | nil => exact covering_start
    | append_singleton seen char inductionHypothesis =>
        rw [List.foldl_concat]
        exact inductionHypothesis.step char
  have whole := steps content.toList
  have length := whole.length
  unfold build
  rw [← Array.foldl_toList]
  generalize content.toList.foldl WordIndex.step (empty, false, 0) = state at whole length ⊢
  obtain ⟨index, inWord, place⟩ := state
  obtain rfl : place = content.size := length
  exact ⟨inWord, whole⟩

/-! ## Words and runs -/

theorem Ordered.start_lt_start {index : WordIndex} (ordered : index.Ordered) {first second : Nat}
    (order : first < second) (known : first < index.starts.size)
    (valid : second < index.starts.size) : index.starts[first] < index.starts[second] := by
  have ends : first < index.lasts.size := ordered.sizes ▸ known
  have span := ordered.spans first known ends
  have apart := ordered.last_lt_start order valid ends
  omega

theorem Ordered.ascending_lasts {index : WordIndex} (ordered : index.Ordered) :
    Ascending index.lasts := by
  intro first second inside order
  have valid : second < index.starts.size := ordered.sizes ▸ inside
  by_cases same : first = second
  · simp only [same, Nat.le_refl]
  · have apart := ordered.last_lt_start (by omega : first < second) valid (by omega)
    have span := ordered.spans second valid inside
    omega

section

variable {content : Text}

theorem inWord_iff_exists_holds {offset : Nat} :
    InWord content offset ↔ ∃ word, (build content).Holds word offset := by
  obtain ⟨inWord, covering⟩ := covering_build content
  exact covering.covered offset

/-- A blank stands between any two words. -/
theorem succ_last_lt_start {first second : Nat} (order : first < second)
    (valid : second < (build content).starts.size) (known : first < (build content).lasts.size) :
    (build content).lasts[first] + 1 < (build content).starts[second] := by
  obtain ⟨inWord, covering⟩ := covering_build content
  have next : first + 1 < (build content).starts.size := by omega
  have gap : (build content).lasts[first] + 1 < (build content).starts[first + 1] :=
    covering.apart first next known
  have later := (ordered_build content).ascending_starts (first + 1) second valid order
  omega

/-- The first and the last offset of a word. -/
def span (index : WordIndex) (word : Nat) (valid : word < index.starts.size)
    (known : word < index.lasts.size) : Nat × Nat :=
  (index.starts[word], index.lasts[word])

theorem mem_spans_iff {index : WordIndex} {span : Nat × Nat} :
    span ∈ index.spans ↔ ∃ word valid known, index.span word valid known = span := by
  unfold spans WordIndex.span
  simp only [List.mem_iff_getElem, List.length_zip, List.getElem_zip, Array.length_toList,
    Array.getElem_toList, Nat.lt_min]
  constructor
  · rintro ⟨word, ⟨valid, known⟩, same⟩
    exact ⟨word, valid, known, same⟩
  · rintro ⟨word, valid, known, same⟩
    exact ⟨word, ⟨valid, known⟩, same⟩

/-- Every word is a maximal run: what is next to it belongs to no word. -/
theorem isRun_span {word : Nat} (valid : word < (build content).starts.size)
    (known : word < (build content).lasts.size) :
    IsRun content ((build content).span word valid known) := by
  have ordered := ordered_build content
  have sizes := ordered.sizes
  refine ⟨ordered.spans word valid known, ?_, ?_, ?_⟩
  · intro offset least most
    apply inWord_iff_exists_holds.mpr
    exact ⟨word, valid, known, least, most⟩
  · intro before next inWord
    obtain ⟨other, otherValid, otherKnown, least, most⟩ := inWord_iff_exists_holds.mp inWord
    have next : before + 1 = (build content).starts[word] := next
    by_cases earlier : other < word
    · have apart := succ_last_lt_start earlier valid otherKnown
      omega
    · have order := ordered.ascending_starts word other otherValid (by omega)
      omega
  · intro inWord
    obtain ⟨other, otherValid, otherKnown, least, most⟩ := inWord_iff_exists_holds.mp inWord
    change _ ≤ (build content).lasts[word] + 1 at least
    change (build content).lasts[word] + 1 ≤ _ at most
    by_cases later : word < other
    · have apart := succ_last_lt_start later otherValid known
      omega
    · have order := ordered.ascending_lasts other word known (by omega)
      omega

/-- The words are all the maximal runs. -/
theorem isRun_iff_exists_span {span : Nat × Nat} :
    IsRun content span ↔ ∃ word valid known, (build content).span word valid known = span := by
  constructor
  · intro run
    have inWord := run.inside span.1 (Nat.le_refl _) run.order
    obtain ⟨word, valid, known, holds⟩ := inWord_iff_exists_holds.mp inWord
    refine ⟨word, valid, known, ?_⟩
    exact (isRun_span valid known).eq_of_shared run holds ⟨Nat.le_refl _, run.order⟩
  · rintro ⟨word, valid, known, rfl⟩
    exact isRun_span valid known

theorem pairwise_spans (content : Text) :
    (build content).spans.Pairwise fun first second => first.2 + 1 < second.1 := by
  unfold spans
  rw [List.pairwise_iff_getElem]
  intro first second firstValid secondValid order
  simp only [List.length_zip, Array.length_toList, Nat.lt_min] at firstValid secondValid
  simp only [List.getElem_zip, Array.getElem_toList]
  exact succ_last_lt_start order secondValid.1 firstValid.2

/-- The runs before an offset within a word are the words before that word. -/
theorem runsBefore_of_holds {word offset : Nat} (holds : (build content).Holds word offset) :
    runsBefore content offset = word := by
  have ordered := ordered_build content
  have sizes := ordered.sizes
  obtain ⟨valid, known, least, most⟩ := holds
  have earlierValid : ∀ earlier, earlier < word → earlier < (build content).starts.size := by
    intro earlier order
    omega
  have earlierKnown : ∀ earlier, earlier < word → earlier < (build content).lasts.size := by
    intro earlier order
    omega
  apply Set.ncard_eq_of_bijective fun earlier order =>
    (build content).span earlier (earlierValid earlier order) (earlierKnown earlier order)
  · rintro span ⟨run, ended⟩
    obtain ⟨other, otherValid, otherKnown, rfl⟩ := isRun_iff_exists_span.mp run
    refine ⟨other, ?_, rfl⟩
    by_contra later
    have order := ordered.ascending_lasts word other otherKnown (by omega)
    have before : (build content).lasts[other] < offset := Int.ofNat_lt.mp ended
    omega
  · intro earlier order
    have earlierEnds := earlierKnown earlier order
    have apart := ordered.last_lt_start order valid earlierEnds
    have ended : (build content).lasts[earlier] < offset := by omega
    exact ⟨isRun_span _ _, Int.ofNat_lt.mpr ended⟩
  · intro first second firstOrder secondOrder same
    have starts := congrArg Prod.fst same
    rcases Nat.lt_trichotomy first second with earlier | equal | later
    · exact absurd starts (Nat.ne_of_lt (ordered.start_lt_start earlier _ _))
    · exact equal
    · exact absurd starts (Nat.ne_of_gt (ordered.start_lt_start later _ _))

end

/-! ## Looking up a word -/

theorem wordAt?_ofNat (index : WordIndex) (place : Nat) :
    index.wordAt? (place : Int) = index.wordOf? place := by
  unfold wordAt?
  rw [if_neg (Int.not_lt.mpr (Int.natCast_nonneg place)), Int.toNat_natCast]

theorem wordAt?_build_eq_some_iff {content : Text} {offset : Int} {word : Nat} :
    (build content).wordAt? offset = some word ↔
      AtWord content offset ∧ runsBefore content offset = word := by
  have lookedUp : ∀ place, (build content).wordOf? place = some word ↔
      (build content).Holds word place :=
    fun place => (ordered_build content).wordOf?_eq_some_iff
  constructor
  · intro found
    by_cases negative : offset < 0
    · simp [wordAt?, negative] at found
    · obtain ⟨place, rfl⟩ := Int.eq_ofNat_of_zero_le (Int.not_lt.mp negative)
      rw [wordAt?_ofNat] at found
      have holds := (lookedUp place).mp found
      exact ⟨⟨place, rfl, inWord_iff_exists_holds.mpr ⟨word, holds⟩⟩, runsBefore_of_holds holds⟩
  · rintro ⟨⟨place, rfl, inWord⟩, counted⟩
    obtain ⟨other, holds⟩ := inWord_iff_exists_holds.mp inWord
    obtain rfl : other = word := (runsBefore_of_holds holds).symm.trans counted
    rw [wordAt?_ofNat]
    exact (lookedUp place).mpr holds

theorem wordAt?_mono {content : Text} {first second : Int} (order : first ≤ second)
    {firstWord secondWord : Nat} (firstFound : (build content).wordAt? first = some firstWord)
    (secondFound : (build content).wordAt? second = some secondWord) :
    firstWord ≤ secondWord := by
  obtain ⟨⟨place, rfl, -⟩, -⟩ := wordAt?_build_eq_some_iff.mp firstFound
  obtain ⟨⟨later, rfl, -⟩, -⟩ := wordAt?_build_eq_some_iff.mp secondFound
  rw [wordAt?_ofNat] at firstFound secondFound
  exact (ordered_build content).wordOf?_mono (Int.ofNat_le.mp order) firstFound secondFound

/-- Outside a content there is no word. -/
theorem wordAt?_eq_none_of_outside {content : Text} {offset : Int}
    (outside : offset < 0 ∨ (content.size : Int) ≤ offset) :
    (build content).wordAt? offset = none := by
  by_contra found
  obtain ⟨word, found⟩ := Option.ne_none_iff_exists'.mp found
  obtain ⟨⟨place, rfl, inWord⟩, -⟩ := wordAt?_build_eq_some_iff.mp found
  have inside := inWord.lt_size
  omega

/-- What an index must tell about the words of a content. -/
structure Exact (content : Text) (index : WordIndex) : Prop where
  runs : ∀ span, span ∈ index.spans ↔ IsRun content span
  inOrder : index.spans.Pairwise fun first second => first.2 < second.1
  counts : ∀ offset word, index.wordAt? offset = some word ↔
    AtWord content offset ∧ runsBefore content offset = word
  ascends : ∀ first second firstWord secondWord, first ≤ second →
    index.wordAt? first = some firstWord → index.wordAt? second = some secondWord →
      firstWord ≤ secondWord

end WordIndex

/-! ## Kept indexes -/

/-- What is kept under the digest of a content is its index. -/
def Session.KnowsWords (content : Text) (session : Session) : Prop :=
  Truthful (fun key result => contentKey content = key ∧ result = .ok (WordIndex.build content))
    session.words

theorem Session.knowsWords_of_entries {content : Text} {session : Session}
    (kept : ∀ cache, session.words = some cache → ∀ entry ∈ cache.entries,
      entry.key = contentKey content → entry.value = WordIndex.build content) :
    session.KnowsWords content := by
  refine ⟨fun cache _ key value result => ?_, fun cache present entry member result => ?_⟩
  · rintro ⟨-, same⟩ ⟨-, other⟩
    exact other.trans same.symm
  · rintro ⟨same, rfl⟩
    rw [kept cache present entry member same.symm]

theorem answers_wordIndex_of_knowsWords (content : Text) :
    Search.Answers (Session.KnowsWords content) (Search.wordIndex content)
      (.ok (WordIndex.build content)) := by
  unfold Search.wordIndex
  apply Search.Answers.cached (fun key result =>
    contentKey content = key ∧ result = .ok (WordIndex.build content))
  · exact fun _ knows => knows
  · exact fun _ _ _ truthful => truthful
  · exact fun _ _ knows => knows
  · exact ⟨rfl, rfl⟩
  · exact Search.Answers.pure _

/-- The index of a content is exact.  The lookup that checks the range of an offset first gives what
the index gives, in every session that keeps nothing but this index under the digest of the
content. -/
theorem words_looked_up_exactly (content : Text) :
    (WordIndex.build content).Exact content ∧
      ∀ offset, Search.Answers (Session.KnowsWords content) (Search.wordIndexOf offset content)
        (.ok ((WordIndex.build content).wordAt? offset)) := by
  refine ⟨⟨?_, ?_, ?_, ?_⟩, fun offset => ?_⟩
  · intro span
    rw [WordIndex.isRun_iff_exists_span, WordIndex.mem_spans_iff]
  · exact (WordIndex.pairwise_spans content).imp Nat.lt_of_succ_lt
  · exact fun _ _ => WordIndex.wordAt?_build_eq_some_iff
  · exact fun _ _ _ _ order => WordIndex.wordAt?_mono order
  · unfold Search.wordIndexOf
    by_cases outside : (offset < 0 || (content.size : Int) ≤ offset) = true
    · rw [if_pos outside]
      simp only [Bool.or_eq_true, decide_eq_true_eq] at outside
      rw [WordIndex.wordAt?_eq_none_of_outside outside]
      exact Search.Answers.pure none
    · rw [if_neg outside]
      exact (answers_wordIndex_of_knowsWords content).map fun index => index.wordAt? offset

/-- In a session with an empty cache, the last letter of a text is found in its second word. -/
theorem words_looked_up_exactly_lastLetter :
    Search.answer (Search.wordIndexOf 5 (Text.ofString " ab  c"))
        { words := some ⟨"words", 1, none, none, Session.weighWords, [], 0, 0, 0, 0⟩ } =
      .ok (some 1) := by
  have knows : Session.KnowsWords (Text.ofString " ab  c")
      { words := some ⟨"words", 1, none, none, Session.weighWords, [], 0, 0, 0, 0⟩ } := by
    apply Session.knowsWords_of_entries
    rintro cache ⟨⟩ entry member
    exact absurd member List.not_mem_nil
  have lookedUp : (WordIndex.build (Text.ofString " ab  c")).wordAt? 5 = some 1 := by decide
  rw [← lookedUp]
  exact ((words_looked_up_exactly _).2 5 _ knows).1

end BooleanSearch
