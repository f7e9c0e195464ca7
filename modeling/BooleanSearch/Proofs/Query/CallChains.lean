import BooleanSearch.Proofs.Query.Derivations
import BooleanSearch.Proofs.Query.Passes
import Mathlib.Logic.Relation

/-!
# Chains of calls between the readers

The readers of a query call each other, and some of them hand all their tokens on.  Here a call is
laid open as an activation: the tokens that it looks at and the calls that it makes, one after the
other.  A call is made either with fewer tokens or to a reader that is lower in the grammar, so a
chain of calls that comes back to a reader has taken a token on its way, and the fuel of the readers
is never used up.
-/

namespace BooleanSearch.Query

/-! ## Tokens that follow others -/

/-- Tokens whose last one marks the end of the query. -/
def HasEnd (tokens : List Token) : Prop :=
  ∃ used last, tokens = used ++ [last] ∧ last.kind = .endOfQuery

/-- Tokens that are left when at least a number of tokens has been taken, and never the last. -/
structure Follows (taken : Nat) (tokens rest : List Token) : Prop where
  ending : rest <:+ tokens
  hasEnd : HasEnd tokens → HasEnd rest
  shorter : rest.length + taken ≤ tokens.length

namespace Follows

variable {tokens here rest : List Token} {taken more : Nat}

theorem refl (tokens : List Token) : Follows 0 tokens tokens :=
  ⟨List.suffix_refl tokens, id, Nat.le_refl _⟩

theorem trans (first : Follows taken tokens here) (second : Follows more here rest) :
    Follows (taken + more) tokens rest where
  ending := second.ending.trans first.ending
  hasEnd atEnd := second.hasEnd (first.hasEnd atEnd)
  shorter := by
    have shorter := first.shorter
    have shorterRest := second.shorter
    omega

theorem mono (follows : Follows taken tokens rest) (fewer : more ≤ taken) :
    Follows more tokens rest :=
  { follows with shorter := Nat.le_trans (Nat.add_le_add_left fewer _) follows.shorter }

theorem advance {token : Token} {kind : TokenKind} (now : current tokens = token)
    (same : token.kind = kind) (goesOn : kind ≠ .endOfQuery) :
    Follows (0 + 1) tokens (advance tokens) := by
  have whole := eq_cons_of_current rfl (now ▸ same ▸ goesOn)
  refine ⟨?_, ?_, ?_⟩
  · conv_rhs => rw [whole]
    exact List.suffix_cons _ _
  · rintro ⟨used, last, parts, atEnd⟩
    cases used with
    | nil =>
        rw [parts] at now
        exact absurd ((congrArg Token.kind now).symm.trans atEnd) (same ▸ goesOn)
    | cons first others =>
        rw [parts, List.cons_append] at whole
        exact ⟨others, last, by rw [parts]; exact (List.cons.inj whole).2.symm, atEnd⟩
  · conv_rhs => rw [whole]
    exact Nat.le_refl _

end Follows

/-! ## Readers and their activations -/

/-- The readers of a query. -/
inductive Routine
  | or
  | orRest (left : Expr)
  | and
  | andRest (left : Expr)
  | not
  | primary

namespace Routine

def read (fuel : Nat) : Routine → TokenReader Expr
  | .or => readOr fuel
  | .orRest left => readOrRest fuel left
  | .and => readAnd fuel
  | .andRest left => readAndRest fuel left
  | .not => readNot fuel
  | .primary => readPrimary fuel

/-- How high a reader stands in the grammar. -/
def rank : Routine → Nat
  | .or => 6
  | .orRest _ => 5
  | .and => 4
  | .andRest _ => 3
  | .not => 2
  | .primary => 1

/-- How many tokens a reader takes at least. -/
def takes : Routine → Nat
  | .orRest _ | .andRest _ => 0
  | .or | .and | .not | .primary => 1

end Routine

/-- What is left to do in a call: it is over, or it looks at its next token, or it calls a reader
and goes on with what that one read.  Tokens are only taken where they have been looked at. -/
inductive Activation
  | done (outcome : Except Failure (Expr × List Token))
  | looks (tokens : List Token) (resume : Token → Activation)
  | calls (routine : Routine) (tokens : List Token) (resume : Expr × List Token → Activation)

/-- What a call does on its way. -/
inductive Event
  | look (tokens : List Token)
  | call (routine : Routine) (tokens : List Token)

def Event.tokens : Event → List Token
  | .look tokens => tokens
  | .call _ tokens => tokens

namespace Activation

/-- What a call gives if calls within it are answered. -/
def run (answer : Routine → TokenReader Expr) : Activation → Except Failure (Expr × List Token)
  | .done outcome => outcome
  | .looks tokens resume => (resume (current tokens)).run answer
  | .calls routine tokens resume => do
    let result ← answer routine tokens
    (resume result).run answer

/-- What a call does if calls within it are answered. -/
def events (answer : Routine → TokenReader Expr) : Activation → List Event
  | .done _ => []
  | .looks tokens resume => .look tokens :: (resume (current tokens)).events answer
  | .calls routine tokens resume =>
    .call routine tokens ::
      match answer routine tokens with
      | .error _ => []
      | .ok result => (resume result).events answer

def gives (result : Expr × List Token) : Activation :=
  .done (.ok result)

/-- Calls a reader for a first operand, and another one for all others. -/
def operands (routine : Routine) (others : Expr → Routine) (tokens : List Token) : Activation :=
  .calls routine tokens fun (first, rest) => .calls (others first) rest gives

/-- Takes a token of a kind, or fails. -/
def expecting (kind : TokenKind) (tokens : List Token) (resume : List Token → Activation) :
    Activation :=
  .looks tokens fun token =>
    if token.kind == kind then resume (advance tokens)
    else .done (giveUp (.expected kind token.found token.position))

/-- Takes a token that gives a distance, or fails. -/
def measuring (tokens : List Token) (resume : Value → List Token → Activation) : Activation :=
  .looks tokens fun token =>
    if token.kind == .word || token.kind == .quoted then
      resume (distanceOf token.text) (advance tokens)
    else .done (giveUp (.expectedDistance token.found token.position))

end Activation

open Activation in
/-- What the call of a reader does. -/
def Routine.activate : Routine → List Token → Activation
  | .or, tokens => operands .and .orRest tokens
  | .orRest left, tokens =>
    .looks tokens fun token =>
      if token.kind == .or then
        operands .and (fun right => .orRest (.or left right)) (advance tokens)
      else gives (left, tokens)
  | .and, tokens => operands .not .andRest tokens
  | .andRest left, tokens =>
    .looks tokens fun token =>
      if token.kind == .and || token.kind.beginsOperand then
        operands .not (fun right => .andRest (.and left right))
          (if token.kind == .and then advance tokens else tokens)
      else gives (left, tokens)
  | .not, tokens =>
    .looks tokens fun token =>
      if token.kind == .not then
        .calls .not (advance tokens) fun (child, rest) => gives (.not child, rest)
      else .calls .primary tokens gives
  | .primary, tokens =>
    .looks tokens fun token =>
      match token.kind with
      | .leftParen =>
        .calls .or (advance tokens) fun (inner, rest) =>
          expecting .rightParen rest fun rest => gives (inner, rest)
      | .near =>
        expecting .leftParen (advance tokens) fun rest =>
          .calls .or rest fun (left, rest) =>
            expecting .comma rest fun rest =>
              .calls .or rest fun (right, rest) =>
                expecting .comma rest fun rest =>
                  measuring rest fun distance rest =>
                    expecting .rightParen rest fun rest => gives (.near left right distance, rest)
      | .quoted =>
        if token.text.isEmpty then .done (giveUp (.emptyTerm token.position))
        else gives (.literal (.plain token.text), advance tokens)
      | .word | .pattern =>
        .done ((Literal.ofText token.text).map fun term => (.literal term, advance tokens))
      | .endOfQuery => .done (giveUp (.unexpectedEnd token.position))
      | _ => .done (giveUp (.unexpectedToken token.text token.position))

/-- What is done with the tokens of a query. -/
def start (tokens : List Token) : Activation :=
  .looks tokens fun token =>
    if token.kind == .endOfQuery then .done (giveUp .emptyQuery)
    else
      .calls .or tokens fun (expr, rest) =>
        .looks rest fun token =>
          if token.kind == .endOfQuery then .gives (expr, rest)
          else .done (giveUp (.unexpectedToken token.text token.position))

/-! ## Activations do what the readers do -/

section

variable {answer : Routine → TokenReader Expr}

theorem run_expecting (kind : TokenKind) (tokens : List Token) (resume : List Token → Activation) :
    (Activation.expecting kind tokens resume).run answer =
      expect kind tokens >>= fun result => (resume result.2).run answer := by
  by_cases given : ((current tokens).kind == kind) = true
  · simp only [Activation.expecting, Activation.run, expect, given, if_true]
    rfl
  · simp only [Activation.expecting, Activation.run, expect, given]
    rfl

theorem run_measuring (tokens : List Token) (resume : Value → List Token → Activation) :
    (Activation.measuring tokens resume).run answer =
      readDistance tokens >>= fun result => (resume result.1 result.2).run answer := by
  by_cases given : ((current tokens).kind == .word || (current tokens).kind == .quoted) = true
  · simp only [Activation.measuring, Activation.run, readDistance, given, if_true]
    rfl
  · simp only [Activation.measuring, Activation.run, readDistance, given]
    rfl

theorem run_gives (call : Except Failure (Expr × List Token)) :
    (call >>= fun result => (Activation.gives result).run answer) = call :=
  bind_pure call

theorem run_operands (routine : Routine) (others : Expr → Routine) (tokens : List Token) :
    (Activation.operands routine others tokens).run answer =
      answer routine tokens >>= fun result => answer (others result.1) result.2 := by
  simp only [Activation.operands, Activation.run, run_gives]

theorem run_activate (fuel : Nat) (routine : Routine) (tokens : List Token) :
    (routine.activate tokens).run (Routine.read fuel) = routine.read (fuel + 1) tokens := by
  cases routine with
  | or => simp only [Routine.activate, run_operands, Routine.read, readOr]
  | orRest left =>
      simp only [Routine.activate, Activation.run, Routine.read, readOrRest]
      split
      · simp only [run_operands, Routine.read]
      · rfl
  | and => simp only [Routine.activate, run_operands, Routine.read, readAnd]
  | andRest left =>
      simp only [Routine.activate, Activation.run, Routine.read, readAndRest]
      split
      · simp only [run_operands, Routine.read]
      · rfl
  | not =>
      simp only [Routine.activate, Activation.run, Routine.read, readNot]
      split
      · rfl
      · simp only [Activation.run, Routine.read, run_gives]
  | primary =>
      simp only [Routine.activate, Activation.run, Routine.read, readPrimary]
      cases (current tokens).kind with
      | leftParen =>
          simp only [Activation.run, Routine.read, run_expecting]
          rfl
      | near =>
          simp only [Activation.run, Routine.read, run_expecting, run_measuring]
          rfl
      | quoted =>
          dsimp only
          split <;> rfl
      | word | pattern =>
          dsimp only [Activation.run]
          cases Literal.ofText (current tokens).text <;> rfl
      | rightParen | comma | and | or | not | endOfQuery => rfl

end

/-! ## Calls descend -/

/-- A reader of some height that was called with some tokens calls another: with fewer tokens, or
with the same ones if the other is lower. -/
def Descends (rank : Nat) (tokens : List Token) (routine : Routine) (here : List Token) : Prop :=
  Follows 1 tokens here ∨ here = tokens ∧ routine.rank < rank

theorem Descends.follows {rank : Nat} {tokens here : List Token} {routine : Routine}
    (descends : Descends rank tokens routine here) : Follows 0 tokens here := by
  rcases descends with follows | ⟨rfl, -⟩
  · exact follows.mono (Nat.zero_le 1)
  · exact Follows.refl here

/-- What a call with some tokens may do on its way. -/
def Event.Within (rank : Nat) (tokens : List Token) : Event → Prop
  | .look here => Follows 0 tokens here
  | .call routine here => Descends rank tokens routine here

/-- Answers that take as many tokens as the readers do. -/
def Takes (answer : Routine → TokenReader Expr) : Prop :=
  ∀ {routine : Routine} {tokens : List Token} {result : Expr × List Token},
    answer routine tokens = .ok result → Follows routine.takes tokens result.2

namespace Activation

/-- An activation looks at tokens behind the first ones, calls readers that descend, and takes its
number of tokens if it ends well, whatever its calls give that take theirs. -/
def Keeps (rank takes : Nat) (tokens : List Token) : Activation → Prop
  | .done outcome => ∀ result, outcome = .ok result → Follows takes tokens result.2
  | .looks here resume =>
    Follows 0 tokens here ∧ (resume (current here)).Keeps rank takes tokens
  | .calls routine here resume =>
    Descends rank tokens routine here ∧
      ∀ result : Expr × List Token, Follows routine.takes here result.2 →
        (resume result).Keeps rank takes tokens

section

variable {answer : Routine → TokenReader Expr} {rank takes : Nat} {tokens : List Token}
  {activation : Activation}

theorem mem_events_looks {here : List Token} {resume : Token → Activation} {event : Event} :
    event ∈ (looks here resume).events answer ↔
      event = .look here ∨ event ∈ (resume (current here)).events answer := by
  rw [events, List.mem_cons]

theorem mem_events_calls {routine : Routine} {here : List Token}
    {resume : Expr × List Token → Activation} {event : Event} :
    event ∈ (calls routine here resume).events answer ↔
      event = .call routine here ∨
        ∃ result, answer routine here = .ok result ∧ event ∈ (resume result).events answer := by
  rw [events, List.mem_cons]
  cases answer routine here <;> simp

theorem Keeps.within (keeps : activation.Keeps rank takes tokens) (answered : Takes answer)
    {event : Event} (happens : event ∈ activation.events answer) : event.Within rank tokens := by
  induction activation with
  | done outcome => cases happens
  | looks here resume inductionHypothesis =>
      rcases mem_events_looks.mp happens with rfl | later
      · exact keeps.1
      · exact inductionHypothesis _ keeps.2 later
  | calls routine here resume inductionHypothesis =>
      rcases mem_events_calls.mp happens with rfl | ⟨result, called, later⟩
      · exact keeps.1
      · exact inductionHypothesis _ (keeps.2 result (answered called)) later

theorem Keeps.follows (keeps : activation.Keeps rank takes tokens) (answered : Takes answer)
    {result : Expr × List Token} (ran : activation.run answer = .ok result) :
    Follows takes tokens result.2 := by
  induction activation with
  | done outcome => exact keeps result ran
  | looks here resume inductionHypothesis => exact inductionHypothesis _ keeps.2 ran
  | calls routine here resume inductionHypothesis =>
      rw [run] at ran
      cases called : answer routine here with
      | error failure =>
          rw [called] at ran
          cases ran
      | ok between =>
          rw [called] at ran
          exact inductionHypothesis _ (keeps.2 between (answered called)) ran

/-- Only the answers to the calls that are made count. -/
theorem run_congr {other : Routine → TokenReader Expr}
    (agree : ∀ routine here, .call routine here ∈ activation.events answer →
      answer routine here = other routine here) :
    activation.run answer = activation.run other := by
  induction activation with
  | done outcome => rfl
  | looks here resume inductionHypothesis =>
      exact inductionHypothesis _ fun routine there made =>
        agree routine there (mem_events_looks.mpr (Or.inr made))
  | calls routine here resume inductionHypothesis =>
      rw [run, run, ← agree routine here (mem_events_calls.mpr (Or.inl rfl))]
      cases called : answer routine here with
      | error failure => rfl
      | ok result =>
          exact inductionHypothesis result fun routine there made =>
            agree routine there (mem_events_calls.mpr (Or.inr ⟨result, called, made⟩))

/-! ### What each step keeps -/

variable {here : List Token} {taken : Nat}

theorem keeps_giveUp (fault : QueryFault) : (done (giveUp fault)).Keeps rank takes tokens := by
  intro result same
  cases same

theorem keeps_gives {tree : Expr} (follows : Follows taken tokens here) (enough : takes ≤ taken) :
    (gives (tree, here)).Keeps rank takes tokens := by
  intro result same
  cases same
  exact follows.mono enough

theorem keeps_looks {resume : Token → Activation} (follows : Follows taken tokens here)
    (keeps : ∀ token, current here = token → (resume token).Keeps rank takes tokens) :
    (looks here resume).Keeps rank takes tokens :=
  ⟨follows.mono (Nat.zero_le taken), keeps _ rfl⟩

theorem keeps_expecting {kind : TokenKind} {resume : List Token → Activation}
    (goesOn : kind ≠ .endOfQuery) (follows : Follows taken tokens here)
    (keeps : ∀ rest, Follows (taken + 1) tokens rest → (resume rest).Keeps rank takes tokens) :
    (expecting kind here resume).Keeps rank takes tokens := by
  refine keeps_looks follows fun token now => ?_
  by_cases given : (token.kind == kind) = true
  · rw [if_pos given]
    exact keeps _ (follows.trans (Follows.advance now (beq_iff_eq.mp given) goesOn))
  · rw [if_neg given]
    exact keeps_giveUp _

theorem keeps_measuring {resume : Value → List Token → Activation}
    (follows : Follows taken tokens here)
    (keeps : ∀ distance rest, Follows (taken + 1) tokens rest →
      (resume distance rest).Keeps rank takes tokens) :
    (measuring here resume).Keeps rank takes tokens := by
  refine keeps_looks follows fun token now => ?_
  by_cases given : (token.kind == .word || token.kind == .quoted) = true
  · rw [if_pos given]
    have goesOn : token.kind ≠ .endOfQuery := by
      intro atEnd
      rw [atEnd] at given
      cases given
    exact keeps _ _ (follows.trans (Follows.advance now rfl goesOn))
  · rw [if_neg given]
    exact keeps_giveUp _

theorem keeps_calls {routine : Routine} {resume : Expr × List Token → Activation}
    (follows : Follows (taken + 1) tokens here)
    (keeps : ∀ tree rest, Follows (taken + 1 + routine.takes) tokens rest →
      (resume (tree, rest)).Keeps rank takes tokens) :
    (calls routine here resume).Keeps rank takes tokens :=
  ⟨Or.inl (follows.mono (Nat.le_add_left 1 taken)), fun result read =>
    keeps result.1 result.2 (follows.trans read)⟩

theorem keeps_operands {routine : Routine} {others : Expr → Routine}
    (descends : Descends rank tokens routine here) (some_ : 1 ≤ routine.takes) (few : takes ≤ 1) :
    (operands routine others here).Keeps rank takes tokens := by
  refine ⟨descends, fun first read => ?_⟩
  have follows : Follows (0 + 1) tokens first.2 := descends.follows.trans (read.mono some_)
  exact keeps_calls follows fun tree rest last => keeps_gives last (by omega)

end

end Activation

section

open Activation

variable {tokens : List Token}

theorem keeps_orRest (left : Expr) : ((Routine.orRest left).activate tokens).Keeps 5 0 tokens := by
  refine keeps_looks (Follows.refl tokens) fun token now => ?_
  by_cases goesOn : (token.kind == .or) = true
  · rw [if_pos goesOn]
    exact keeps_operands (Or.inl (Follows.advance now (beq_iff_eq.mp goesOn) nofun))
      (Nat.le_refl 1) (Nat.zero_le 1)
  · rw [if_neg goesOn]
    exact keeps_gives (Follows.refl tokens) (Nat.le_refl 0)

theorem keeps_andRest (left : Expr) :
    ((Routine.andRest left).activate tokens).Keeps 3 0 tokens := by
  refine keeps_looks (Follows.refl tokens) fun token now => ?_
  by_cases goesOn : (token.kind == .and || token.kind.beginsOperand) = true
  · rw [if_pos goesOn]
    refine keeps_operands ?_ (Nat.le_refl 1) (Nat.zero_le 1)
    -- Without a connective the operand is read from the same tokens, by a lower reader.
    by_cases connected : (token.kind == .and) = true
    · rw [if_pos connected]
      exact Or.inl (Follows.advance now (beq_iff_eq.mp connected) nofun)
    · rw [if_neg connected]
      exact Or.inr ⟨rfl, Nat.lt_succ_self 2⟩
  · rw [if_neg goesOn]
    exact keeps_gives (Follows.refl tokens) (Nat.le_refl 0)

theorem keeps_not : (Routine.not.activate tokens).Keeps 2 1 tokens := by
  refine keeps_looks (Follows.refl tokens) fun token now => ?_
  by_cases negates : (token.kind == .not) = true
  · rw [if_pos negates]
    refine keeps_calls (Follows.advance now (beq_iff_eq.mp negates) nofun) fun tree rest read => ?_
    exact keeps_gives read (Nat.le_add_left 1 1)
  · rw [if_neg negates]
    exact ⟨Or.inr ⟨rfl, Nat.lt_succ_self 1⟩, fun result read => keeps_gives read (Nat.le_refl 1)⟩

theorem keeps_primary : (Routine.primary.activate tokens).Keeps 1 1 tokens := by
  refine keeps_looks (Follows.refl tokens) fun token now => ?_
  cases kind : token.kind with
  | leftParen =>
      refine keeps_calls (Follows.advance now kind nofun) fun inner rest read => ?_
      exact keeps_expecting nofun read fun rest closed => keeps_gives closed (by decide)
  | near =>
      refine keeps_expecting nofun (Follows.advance now kind nofun) fun rest opened => ?_
      refine keeps_calls opened fun left rest first => ?_
      refine keeps_expecting nofun first fun rest comma => ?_
      refine keeps_calls comma fun right rest second => ?_
      refine keeps_expecting nofun second fun rest otherComma => ?_
      refine keeps_measuring otherComma fun distance rest measured => ?_
      exact keeps_expecting nofun measured fun rest closed => keeps_gives closed (by decide)
  | quoted =>
      by_cases empty : token.text.isEmpty = true
      · simp only [empty, if_true]
        exact keeps_giveUp _
      · simp only [empty]
        exact keeps_gives (Follows.advance now kind nofun) (Nat.le_refl 1)
  | word | pattern =>
      intro result same
      cases read : Literal.ofText token.text with
      | error failure =>
          rw [read] at same
          cases same
      | ok term =>
          rw [read] at same
          cases same
          exact Follows.advance now kind nofun
  | rightParen | comma | and | or | not | endOfQuery => exact keeps_giveUp _

theorem keeps_activate (routine : Routine) (tokens : List Token) :
    (routine.activate tokens).Keeps routine.rank routine.takes tokens := by
  cases routine with
  | or => exact keeps_operands (Or.inr ⟨rfl, by decide⟩) (Nat.le_refl 1) (Nat.le_refl 1)
  | orRest left => exact keeps_orRest left
  | and => exact keeps_operands (Or.inr ⟨rfl, by decide⟩) (Nat.le_refl 1) (Nat.le_refl 1)
  | andRest left => exact keeps_andRest left
  | not => exact keeps_not
  | primary => exact keeps_primary

end

/-! ## Fuel -/

/-- What a call may need at most: a chain of calls has at most six calls for each number of tokens
that are left. -/
def weight (routine : Routine) (tokens : List Token) : Nat :=
  8 * tokens.length + routine.rank

theorem Routine.rank_le (routine : Routine) : routine.rank ≤ 6 := by
  cases routine <;> simp [rank]

theorem Descends.weight_lt {caller callee : Routine} {tokens here : List Token}
    (descends : Descends caller.rank tokens callee here) :
    weight callee here < weight caller tokens := by
  have bound := callee.rank_le
  rcases descends with follows | ⟨rfl, lower⟩
  · have shorter := follows.shorter
    unfold weight
    omega
  · exact Nat.add_lt_add_left lower _

theorem takes_read (fuel : Nat) : Takes (Routine.read fuel) := by
  induction fuel with
  | zero =>
      intro routine tokens result read
      cases routine <;> cases read
  | succ fuel inductionHypothesis =>
      intro routine tokens result read
      rw [← run_activate] at read
      exact (keeps_activate routine tokens).follows inductionHypothesis read

/-- With fuel above its weight a call does not depend on the fuel. -/
theorem read_eq_read {fuel more : Nat} {routine : Routine} {tokens : List Token}
    (enough : weight routine tokens < fuel) (enoughMore : weight routine tokens < more) :
    routine.read fuel tokens = routine.read more tokens := by
  induction fuel generalizing more routine tokens with
  | zero => cases enough
  | succ fuel inductionHypothesis =>
      obtain ⟨more, rfl⟩ : ∃ less, more = less + 1 := ⟨more - 1, by omega⟩
      rw [← run_activate, ← run_activate]
      refine Activation.run_congr fun callee here made => ?_
      have lighter := Descends.weight_lt
        ((keeps_activate routine tokens).within (takes_read fuel) made)
      exact inductionHypothesis (by omega) (by omega)

namespace Routine

/-- What a reader gives when it has as much fuel as readers of a query are given. -/
def outcome (routine : Routine) (tokens : List Token) : Except Failure (Expr × List Token) :=
  routine.read (8 * tokens.length + 8) tokens

theorem read_eq_outcome {fuel : Nat} {routine : Routine} {tokens : List Token}
    (enough : weight routine tokens < fuel) :
    routine.read fuel tokens = routine.outcome tokens := by
  have bound := routine.rank_le
  exact read_eq_read enough (by unfold weight; omega)

theorem takes_outcome : Takes outcome :=
  fun read => takes_read _ read

/-- A call does what its activation does when the calls within it are answered in the same way. -/
theorem outcome_eq_run (routine : Routine) (tokens : List Token) :
    routine.outcome tokens = (routine.activate tokens).run outcome := by
  have bound := routine.rank_le
  rw [outcome, ← run_activate]
  refine Activation.run_congr fun callee here made => read_eq_outcome ?_
  have lighter := Descends.weight_lt ((keeps_activate routine tokens).within (takes_read _) made)
  unfold weight at lighter ⊢
  omega

/-- Nothing else does what the activations say. -/
theorem eq_outcome {answer : Routine → TokenReader Expr}
    (solves : ∀ routine tokens, answer routine tokens = (routine.activate tokens).run answer) :
    answer = outcome := by
  have agrees : ∀ bound routine tokens, weight routine tokens < bound →
      outcome routine tokens = answer routine tokens := by
    -- By induction on a bound for the weight, since a call may hand all its tokens on.
    intro bound
    induction bound with
    | zero => exact fun _ _ below => absurd below (Nat.not_lt_zero _)
    | succ bound inductionHypothesis =>
        intro routine tokens below
        rw [outcome_eq_run, solves]
        refine Activation.run_congr fun callee here made => inductionHypothesis callee here ?_
        have lighter := Descends.weight_lt
          ((keeps_activate routine tokens).within takes_outcome made)
        omega
  funext routine tokens
  exact (agrees _ routine tokens (Nat.lt_succ_self _)).symm

end Routine

/-! ## Chains of calls -/

/-- Whether the call of a reader with some tokens makes another call. -/
def Calls (caller callee : Routine × List Token) : Prop :=
  .call callee.1 callee.2 ∈ (caller.1.activate caller.2).events Routine.outcome

theorem Calls.descends {caller callee : Routine × List Token} (calls : Calls caller callee) :
    Descends caller.1.rank caller.2 callee.1 callee.2 :=
  (keeps_activate caller.1 caller.2).within Routine.takes_outcome calls

theorem Descends.trans {rank : Nat} {tokens here there : List Token} {middle last : Routine}
    (first : Descends rank tokens middle here) (second : Descends middle.rank here last there) :
    Descends rank tokens last there := by
  rcases second with follows | ⟨rfl, lower⟩
  · exact Or.inl ((first.follows.trans follows).mono (Nat.le_add_left 1 0))
  · exact first.imp_right fun same => ⟨same.1, Nat.lt_trans lower same.2⟩

theorem descends_of_chain {caller callee : Routine × List Token}
    (chain : Relation.TransGen Calls caller callee) :
    Descends caller.1.rank caller.2 callee.1 callee.2 := by
  induction chain with
  | single calls => exact calls.descends
  | tail _ calls inductionHypothesis => exact inductionHypothesis.trans calls.descends

/-- A chain of calls that comes back to a reader has taken a token. -/
theorem follows_of_chain {caller callee : Routine × List Token}
    (chain : Relation.TransGen Calls caller callee) (back : caller.1.rank ≤ callee.1.rank) :
    Follows 1 caller.2 callee.2 := by
  rcases descends_of_chain chain with follows | ⟨-, lower⟩
  · exact follows
  · omega

/-- No chain of calls goes on forever. -/
theorem wellFounded_calls : WellFounded fun callee caller => Calls caller callee :=
  Subrelation.wf (fun calls => calls.descends.weight_lt)
    (InvImage.wf (fun call : Routine × List Token => weight call.1 call.2) Nat.lt_wfRel.wf)

/-! ## The readers of a query -/

/-- What happens while the tokens of a query are read. -/
inductive Happens (tokens : List Token) : Event → Prop
  | start {event : Event} : event ∈ (start tokens).events Routine.outcome → Happens tokens event
  | within {event : Event} {routine : Routine} {here : List Token} :
      Happens tokens (.call routine here) →
      event ∈ (routine.activate here).events Routine.outcome → Happens tokens event

theorem readTokens_eq_run (tokens : List Token) :
    readTokens tokens = ((start tokens).run Routine.outcome).map Prod.fst := by
  simp only [readTokens, start, Activation.run]
  split
  · rfl
  · change (readOr _ tokens >>= _) = (readOr _ tokens >>= _).map _
    cases readOr (8 * tokens.length + 8) tokens with
    | error failure => rfl
    | ok result =>
        change ite _ _ _ = (Activation.run _ (ite _ _ _)).map _
        split <;> rfl

open Activation in
theorem keeps_start (tokens : List Token) : (start tokens).Keeps 7 0 tokens := by
  refine keeps_looks (Follows.refl tokens) fun token now => ?_
  by_cases empty : (token.kind == .endOfQuery) = true
  · rw [if_pos empty]
    exact keeps_giveUp _
  · rw [if_neg empty]
    refine ⟨Or.inr ⟨rfl, by decide⟩, fun result read => keeps_looks read fun token now => ?_⟩
    by_cases atEnd : (token.kind == .endOfQuery) = true
    · rw [if_pos atEnd]
      exact keeps_gives read (Nat.zero_le 1)
    · rw [if_neg atEnd]
      exact keeps_giveUp _

theorem Event.Within.follows {rank : Nat} {tokens : List Token} {event : Event}
    (within : event.Within rank tokens) : Follows 0 tokens event.tokens := by
  cases event with
  | look here => exact within
  | call routine here => exact Descends.follows within

theorem follows_of_happens {tokens : List Token} {event : Event} (happens : Happens tokens event) :
    Follows 0 tokens event.tokens := by
  induction happens with
  | start made => exact ((keeps_start tokens).within Routine.takes_outcome made).follows
  | within _ made inductionHypothesis =>
      exact inductionHypothesis.trans
        ((keeps_activate _ _).within Routine.takes_outcome made).follows

/-- Tokens behind those of a query begin at one of them. -/
theorem Follows.exists_drop {taken : Nat} {tokens here : List Token}
    (follows : Follows taken tokens here) (hasEnd : HasEnd tokens) :
    ∃ position, here = tokens.drop position ∧ tokens[position]? = some (current here) := by
  obtain ⟨used, last, rfl, -⟩ := follows.hasEnd hasEnd
  obtain ⟨before, rfl⟩ := follows.ending
  refine ⟨before.length, List.drop_left.symm, ?_⟩
  rw [List.getElem?_append_right (Nat.le_refl _), Nat.sub_self]
  cases used <;> rfl

theorem Ended.hasEnd {tokens used : List Token} {last : Token} (ended : Ended tokens used last) :
    HasEnd tokens :=
  ⟨used, last, ended.whole, ended.last⟩

/-- The readers come to an end on some tokens, and never go behind the last one.

* What is read from the tokens is what their activation gives.  More fuel changes no answer to a
  call, and the answers are the only ones that do what the activations of the calls say.
* No chain of calls goes on forever, and a chain that comes back to its reader has taken a token.
  This is so for each pass of the loops over operands, which call themselves, and for every other
  way around.
* All tokens that are looked at or handed on begin at one of the tokens of the query. -/
structure ReadersEnd (tokens : List Token) : Prop where
  reads : readTokens tokens = ((start tokens).run Routine.outcome).map Prod.fst
  fuel : ∀ (routine : Routine) (amount : Nat) (here : List Token), 8 * here.length + 8 ≤ amount →
    routine.read amount here = routine.outcome here
  solves : ∀ (routine : Routine) (here : List Token),
    routine.outcome here = (routine.activate here).run Routine.outcome
  only : ∀ answer : Routine → TokenReader Expr,
    (∀ routine here, answer routine here = (routine.activate here).run answer) →
      answer = Routine.outcome
  finite : WellFounded fun callee caller => Calls caller callee
  takes : ∀ caller callee, Relation.TransGen Calls caller callee →
    callee.1.rank = caller.1.rank →
      callee.2 <:+ caller.2 ∧ callee.2.length < caller.2.length
  defined : ∀ event, Happens tokens event →
    ∃ position, event.tokens = tokens.drop position ∧
      tokens[position]? = some (current event.tokens)

theorem readersEnd {tokens : List Token} (hasEnd : HasEnd tokens) : ReadersEnd tokens where
  reads := readTokens_eq_run tokens
  fuel routine amount here enough := by
    have bound := routine.rank_le
    exact Routine.read_eq_outcome (by unfold weight; omega)
  solves := Routine.outcome_eq_run
  only _ solves := Routine.eq_outcome solves
  finite := wellFounded_calls
  takes caller callee chain back := by
    have follows := follows_of_chain chain (Nat.le_of_eq back.symm)
    exact ⟨follows.ending, follows.shorter⟩
  defined event happens := (follows_of_happens happens).exists_drop hasEnd

/-- Every query is scanned and read to an end: it is refused by the scanner, or the readers come to
an end on its tokens. -/
theorem query_reading_terminates (query : String) :
    ScannerEnds ∧
      ((∃ fault, tokenize query = .error fault ∧ parse query = giveUp fault) ∨
        ∃ tokens, tokenize query = .ok tokens ∧ parse query = readTokens tokens ∧
          ReadersEnd tokens) := by
  refine ⟨scannerEnds, ?_⟩
  cases scanned : tokenize query with
  | error fault =>
      refine Or.inl ⟨fault, rfl, ?_⟩
      unfold parse
      rw [scanned]
  | ok tokens =>
      obtain ⟨used, last, ended, -⟩ := ended_of_scanFrom scanned
      exact Or.inr ⟨tokens, rfl, parse_of_tokenize scanned, readersEnd ended.hasEnd⟩

end BooleanSearch.Query
