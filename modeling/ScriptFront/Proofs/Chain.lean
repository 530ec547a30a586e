import ScriptFront.Proofs.Soundness
import ScriptFront.Proofs.Takes

set_option autoImplicit false

/-! Operands with operators between them, grouped as the parser groups them: a prefix operator has all
that follows for its operand. The parser takes every chain that the levels of the grammar derive. -/

namespace ScriptFront

open Parse

namespace Rung

-- The place of a level, the loosest at zero. The last place is that of unary expressions.
def height : Rung → Nat
  | .or => 0
  | .and => 1
  | .equality => 2
  | .relational => 3
  | .additive => 4
  | .multiplicative => 5

theorem kind_injective (a b : Rung) (same : a.kind = b.kind) : a = b := by
  cases a <;> cases b <;> first | rfl | contradiction

theorem height_injective (a b : Rung) (same : a.height = b.height) : a = b := by
  cases a <;> cases b <;> first | rfl | contradiction

theorem height_lt (rung : Rung) : rung.height < 6 := by
  cases rung <;> decide

theorem height_tighter (rung next : Rung) (found : rung.tighter = some next) :
    next.height = rung.height + 1 := by
  cases rung <;> cases found <;> rfl

theorem height_of_tightest (rung : Rung) (last : rung.tighter = none) : rung.height = 5 := by
  cases rung <;> first | rfl | contradiction

-- What every level has if the next one has it, the loosest has if any other level has it.
theorem loosest_of_step (holds : Option Rung → Prop)
    (step : ∀ rung : Rung, holds rung.tighter → holds (some rung))
    (rung : Rung) (start : holds (some rung)) : holds (some .or) := by
  have either : holds (some .and) → holds (some .or) := step .or
  have both : holds (some .equality) → holds (some .and) := step .and
  have equal : holds (some .relational) → holds (some .equality) := step .equality
  have relation : holds (some .additive) → holds (some .relational) := step .relational
  have sum : holds (some .multiplicative) → holds (some .additive) := step .additive
  cases rung with
  | or => exact start
  | and => exact either start
  | equality => exact either (both start)
  | relational => exact either (both (equal start))
  | additive => exact either (both (equal (relation start)))
  | multiplicative => exact either (both (equal (relation (sum start))))

end Rung

-- The kinds of token with which a primary expression begins, and those with which an operand does.
def startsPrimary : TokenKind → Bool
  | .number | .string | .identifier | .mark .leftParen | .keyword .trueWord | .keyword .falseWord
  | .keyword .nullWord | .keyword .thisWord | .keyword .newWord => true
  | _ => false

def startsOperand (kind : TokenKind) : Bool :=
  startsPrimary kind || kind == .keyword .superWord

def startsExpression (kind : TokenKind) : Bool :=
  startsOperand kind || kind == .additive || kind == .logicalNot

theorem primary_starts_operand (kind : TokenKind) (starts : startsPrimary kind = true) : startsOperand kind = true := by
  simp [startsOperand, starts]

theorem operand_starts_expression (kind : TokenKind) (starts : startsOperand kind = true) :
    startsExpression kind = true := by
  simp [startsExpression, starts]

theorem prefix_starts_expression (kind : TokenKind) (sign : kind = .additive ∨ kind = .logicalNot) :
    startsExpression kind = true := by
  rcases sign with rfl | rfl <;> rfl

-- Before these tokens an operand does not end, and an expression does not end either before an operator.
def continuesOperand (kind : Option TokenKind) : Bool :=
  Grammar.startsMember kind || kind == some (.mark .leftParen)

def isOperator : TokenKind → Bool
  | .logicalOr | .logicalAnd | .equality | .relational | .additive | .multiplicative => true
  | kind => kind.isAssignment

def continuesExpression (kind : Option TokenKind) : Bool :=
  continuesOperand kind || kind.any isOperator

theorem continues_operand_rung (rung : Rung) : continuesOperand (some rung.kind) = false := by
  cases rung <;> rfl

theorem continues_operand_assignment (kind : TokenKind) (assigns : kind.isAssignment = true) :
    continuesOperand (some kind) = false := by
  cases kind <;> first | rfl | contradiction

theorem rung_not_ahead (rung : Rung) (kind : Option TokenKind)
    (stops : continuesExpression kind = false) : kind ≠ some rung.kind := by
  rintro rfl
  cases rung <;> contradiction

theorem assignment_not_ahead (kind : TokenKind) (stops : continuesExpression (some kind) = false) :
    kind.isAssignment = false := by
  cases kind <;> first | rfl | contradiction

theorem operand_stops (kind : Option TokenKind) (stops : continuesExpression kind = false) :
    continuesOperand kind = false := by
  simp only [continuesExpression, Bool.or_eq_false_iff] at stops
  exact stops.1

theorem kind_ahead_append (u v : List Token) (kind : TokenKind) (ahead : kindAhead u = some kind) :
    kindAhead (u ++ v) = some kind := by
  cases u with
  | nil => cases ahead
  | cons t rest => exact ahead

-- What begins like an operand or an expression does so with more tokens behind it.
theorem leads_append {starts : TokenKind → Bool} (u v : List Token)
    (leads : ∃ kind, kindAhead u = some kind ∧ starts kind = true) :
    ∃ kind, kindAhead (u ++ v) = some kind ∧ starts kind = true := by
  obtain ⟨kind, ahead, starts⟩ := leads
  exact ⟨kind, kind_ahead_append u v kind ahead, starts⟩

section Chains

variable (σ : Type) [TokenSource σ] (act : Actions) (limit : Nat)

-- Tokens that the call production takes, with a value of a certain sort, where the operand can end.
structure Operand (value : act.Expression → Prop) (u : List Token) : Prop where
  leads : ∃ kind, kindAhead u = some kind ∧ startsOperand kind = true
  taken : ∀ levels rest, continuesOperand (kindAhead rest) = false →
    Takes limit (Grammar.callExpression act (Grammar.nested (σ := σ) act limit levels)) (u ++ rest)
      (leaving rest value)

-- A chain of operands. Where the index is true it may begin with places that are assigned to.
inductive Chain : Bool → List Token → Prop where
  | operand (u : List Token) : Operand σ act limit (fun _ => True) u → Chain false u
  | operator (rung : Rung) (u v : List Token) (op : Token)
      (build : act.Expression → act.Expression → act.Expression) :
      Operand σ act limit (fun _ => True) u → op.kind = rung.kind →
      rung.build? act op.text = some build → Chain false v → Chain false (u ++ op :: v)
  | prefixed (op : Token) (v : List Token) (operator : UnaryOperator) :
      op.kind = .additive ∨ op.kind = .logicalNot → Spelled.ofSpelling? op.text = some operator →
      Chain true v → Chain false (op :: v)
  | level (u : List Token) : Chain false u → Chain true u
  | assign (u v : List Token) (op : Token) (operator : AssignmentOperator) :
      Operand σ act limit (fun e => (act.target? e).isSome) u → op.kind.isAssignment = true →
      Spelled.ofSpelling? op.text = some operator → Chain true v → Chain true (u ++ op :: v)

-- What a level leaves of a chain: nothing, or all from an operator of a looser level on.
inductive Left (height : Nat) : List Token → Prop where
  | nothing : Left height []
  | operator (rung : Rung) (op : Token) (v : List Token)
      (build : act.Expression → act.Expression → act.Expression) :
      rung.height < height → op.kind = rung.kind → rung.build? act op.text = some build →
      Chain σ act limit false v → Left height (op :: v)

-- The end of a level over the chain `u`.
def passing (height : Nat) (u rest : List Token) : act.Expression → List Token → Prop :=
  fun _ left => ∃ w, left = w ++ rest ∧ Left σ act limit height w ∧ w.length < u.length

end Chains

section Levels

variable {σ : Type} [TokenSource σ] {act : Actions} {deep : Prop} {limit : Nat}

theorem chain_leads (assigns : Bool) (u : List Token) (chain : Chain σ act limit assigns u) :
    ∃ kind, kindAhead u = some kind ∧ startsExpression kind = true := by
  induction chain with
  | operand u first =>
      obtain ⟨kind, ahead, starts⟩ := first.leads
      exact ⟨kind, ahead, operand_starts_expression kind starts⟩
  | operator rung u v op build first =>
      obtain ⟨kind, ahead, starts⟩ := first.leads
      exact ⟨kind, kind_ahead_append u _ kind ahead, operand_starts_expression kind starts⟩
  | prefixed op v operator kind =>
      exact ⟨op.kind, rfl, prefix_starts_expression op.kind kind⟩
  | level u _ ih => exact ih
  | assign u v op operator first =>
      obtain ⟨kind, ahead, starts⟩ := first.leads
      exact ⟨kind, kind_ahead_append u _ kind ahead, operand_starts_expression kind starts⟩

-- An operator behind a chain belongs to its last operand.
theorem chain_operator (assigns : Bool) (u v : List Token) (rung : Rung) (op : Token)
    (build : act.Expression → act.Expression → act.Expression) (chain : Chain σ act limit assigns u)
    (kind : op.kind = rung.kind) (built : rung.build? act op.text = some build)
    (right : Chain σ act limit false v) : Chain σ act limit assigns (u ++ op :: v) := by
  induction chain with
  | operand u first => exact .operator rung u v op build first kind built right
  | operator rung' u w op' build' first kind' built' _ ih =>
      rw [List.append_assoc, List.cons_append]
      exact .operator rung' u _ op' build' first kind' built' ih
  | prefixed op' w operator kind' spelled _ ih => exact .prefixed op' _ operator kind' spelled ih
  | level u _ ih => exact .level _ ih
  | assign u w op' operator first assigns spelled _ ih =>
      rw [List.append_assoc, List.cons_append]
      exact .assign u _ op' operator first assigns spelled ih

namespace Grammar

-- The operators of a level take what the tighter level leaves, up to a looser operator.
theorem takes_operators {ω : Type} [Spelled ω] (rung : Rung)
    (build : ω → act.Expression → act.Expression → act.Expression)
    (builds : ∀ text, rung.build? act text = (Spelled.ofSpelling? text).map build)
    {operand : Parse σ act.Expression} {phrase : List Token → act.Expression → Prop}
    (yields : Yields operand phrase) (size : Nat) (rest : List Token)
    (stops : continuesExpression (kindAhead rest) = false)
    (each : ∀ u, Chain σ act limit false u → u.length ≤ size →
      Takes limit operand (u ++ rest) (passing σ act limit (rung.height + 1) u rest))
    (w : List Token) (left : act.Expression) (remains : Left σ act limit (rung.height + 1) w)
    (small : w.length ≤ size) :
    Takes limit
      (repeatWhile (· == some rung.kind)
        (fun left => do
          let token ← expect rung.kind
          let operator ← operator token
          let right ← operand
          return build operator left right) left)
      (w ++ rest)
      (fun _ left =>
        ∃ w', left = w' ++ rest ∧ Left σ act limit rung.height w' ∧ w'.length ≤ w.length) := by
  generalize length : w.length = n
  induction n using Nat.strongRecOn generalizing w left with
  | ind n ih =>
      cases remains with
      | nothing =>
          have apart := rung_not_ahead rung _ stops
          apply takes_loop_end (by simpa using apart)
          exact ⟨[], rfl, .nothing, by simp⟩
      | operator rung' op v build' looser kind built chain =>
          by_cases same : rung' = rung
          · subst same
            apply takes_loop_step rfl (lowers_operator_step rung'.kind build yields) (by simp [kind])
            rw [builds] at built
            obtain ⟨known, spelled, _⟩ := Option.map_eq_some_iff.mp built
            simp only [List.length_cons] at length small
            have stepped : Takes limit
                (do
                  let token ← expect rung'.kind
                  let operator ← operator token
                  let right ← operand
                  return build operator left right)
                (op :: (v ++ rest)) (passing σ act limit (rung'.height + 1) v rest) := by
              apply takes_expect kind
              apply takes_operator spelled
              apply takes_bind (each v chain (by omega))
              intro right left' passed
              exact takes_pure passed
            apply takes_bind stepped
            rintro e left' ⟨w', rfl, remains, shorter⟩
            apply takes_weaken (ih w'.length (by omega) w' e remains (by omega) rfl)
            rintro _ _ ⟨w'', rfl, remains', shorter'⟩
            exact ⟨w'', rfl, remains', by omega⟩
          · have apart : rung'.height ≠ rung.height := fun equal => same (Rung.height_injective _ _ equal)
            have apart' : rung'.kind ≠ rung.kind := fun equal => same (Rung.kind_injective _ _ equal)
            apply takes_loop_end (by simpa [kind] using apart')
            exact ⟨op :: v, rfl, .operator rung' op v build' (by omega) kind built chain, by omega⟩

theorem takes_operator_chain {ω : Type} [Spelled ω] (rung : Rung)
    (build : ω → act.Expression → act.Expression → act.Expression)
    (builds : ∀ text, rung.build? act text = (Spelled.ofSpelling? text).map build)
    {operand : Parse σ act.Expression} {phrase : List Token → act.Expression → Prop}
    (yields : Yields operand phrase) (size : Nat) (rest : List Token)
    (stops : continuesExpression (kindAhead rest) = false)
    (each : ∀ u, Chain σ act limit false u → u.length ≤ size →
      Takes limit operand (u ++ rest) (passing σ act limit (rung.height + 1) u rest))
    (u : List Token) (chain : Chain σ act limit false u) (small : u.length ≤ size) :
    Takes limit (operatorChain act build rung.kind operand) (u ++ rest)
      (passing σ act limit rung.height u rest) := by
  apply takes_bind (each u chain small)
  rintro left _ ⟨w, rfl, remains, shorter⟩
  apply takes_weaken (takes_operators rung build builds yields size rest stops each w left remains (by omega))
  rintro _ _ ⟨w', rfl, remains', shorter'⟩
  exact ⟨w', rfl, remains', by omega⟩

-- A token that begins an operand is no prefix operator.
theorem unary_eq (inner : Nested σ act) (tokens : List Token) (kind : TokenKind)
    (ends : act.Expression → List Token → Prop) (ahead : kindAhead tokens = some kind)
    (starts : startsOperand kind = true) (taken : TakesUnless deep limit (callExpression act inner) tokens ends) :
    TakesUnless deep limit (unary act inner) tokens ends := by
  apply takes_look
  rw [ahead]
  cases kind <;> first | exact taken | contradiction

theorem takes_prefixed (inner : Nested σ act) (op : Token) (tokens : List Token)
    (operator : UnaryOperator) (ends : act.Expression → List Token → Prop)
    (kind : op.kind = .additive ∨ op.kind = .logicalNot)
    (spelled : Spelled.ofSpelling? op.text = some operator)
    (taken : TakesUnless deep limit inner.expression tokens fun e left => ends (act.unary operator e) left) :
    TakesUnless deep limit (unary act inner) (op :: tokens) ends := by
  apply takes_look
  rw [kind_ahead_cons]
  rcases kind with kind | kind <;> rw [kind]
  all_goals
    apply takes_expect kind
    apply takes_operator spelled
    apply takes_bind taken
    intro e left fits
    exact takes_pure fits

-- The last level: an operand, or a prefix operator with all that follows.
theorem takes_unary (levels size : Nat) (rest : List Token)
    (stops : continuesExpression (kindAhead rest) = false)
    (expression : ∀ v, Chain σ act limit true v → v.length < size →
      Takes limit (nested (σ := σ) act limit levels).expression (v ++ rest) (leaving rest fun _ => True))
    (u : List Token) (chain : Chain σ act limit false u) (small : u.length ≤ size) :
    Takes limit (unary act (nested (σ := σ) act limit levels)) (u ++ rest)
      (passing σ act limit 6 u rest) := by
  cases chain with
  | operand u first =>
      obtain ⟨kind, ahead, starts⟩ := first.leads
      apply unary_eq _ _ kind _ (kind_ahead_append u rest kind ahead) starts
      apply takes_weaken (first.taken levels rest (operand_stops _ stops))
      rintro _ _ ⟨rfl, _⟩
      have some : 0 < u.length := List.length_pos_iff.mpr (by rintro rfl; cases ahead)
      exact ⟨[], rfl, .nothing, some⟩
  | operator rung u v op build first fits built right =>
      obtain ⟨kind, ahead, starts⟩ := first.leads
      rw [List.append_assoc, List.cons_append]
      apply unary_eq _ _ kind _ (kind_ahead_append u _ kind ahead) starts
      have ends : continuesOperand (kindAhead (op :: (v ++ rest))) = false := by
        rw [kind_ahead_cons, fits]
        exact continues_operand_rung rung
      apply takes_weaken (first.taken levels _ ends)
      rintro _ _ ⟨rfl, _⟩
      have some : 0 < u.length := List.length_pos_iff.mpr (by rintro rfl; cases ahead)
      have low : rung.height < 6 := rung.height_lt
      exact ⟨op :: v, rfl, .operator rung op v build low fits built right, by simp; omega⟩
  | prefixed op v operator kind spelled argument =>
      simp only [List.length_cons] at small
      apply takes_prefixed _ op (v ++ rest) operator _ kind spelled
      apply takes_weaken (expression v argument (by omega))
      rintro _ _ ⟨rfl, _⟩
      exact ⟨[], rfl, .nothing, by simp⟩

-- The first level takes all of a chain.
theorem takes_logical_or (levels size : Nat) (rest : List Token)
    (stops : continuesExpression (kindAhead rest) = false)
    (expression : ∀ v, Chain σ act limit true v → v.length < size →
      Takes limit (nested (σ := σ) act limit levels).expression (v ++ rest) (leaving rest fun _ => True))
    (u : List Token) (chain : Chain σ act limit false u) (small : u.length ≤ size) :
    Takes limit (logicalOr act (nested (σ := σ) act limit levels)) (u ++ rest)
      (leaving rest fun _ => True) := by
  have sound : (nested (σ := σ) act limit levels).Sound := nested_sound limit levels
  have last := takes_unary levels size rest stops expression
  have product := takes_operator_chain .multiplicative act.binary (fun _ => rfl) (yields_unary sound) size
    rest stops last
  have sum := takes_operator_chain .additive act.binary (fun _ => rfl) (yields_multiplicative sound) size
    rest stops product
  have relation := takes_operator_chain .relational act.binary (fun _ => rfl) (yields_additive sound) size
    rest stops sum
  have equal := takes_operator_chain .equality act.binary (fun _ => rfl) (yields_relational sound) size rest
    stops relation
  have both := takes_operator_chain .and act.logical (fun _ => rfl) (yields_equality sound) size rest stops
    equal
  have either := takes_operator_chain .or act.logical (fun _ => rfl) (yields_logical_and sound) size rest
    stops both u chain small
  apply takes_weaken either
  rintro _ _ ⟨w, rfl, remains, _⟩
  cases remains with
  | nothing => exact ⟨rfl, trivial⟩
  | operator _ _ _ _ looser => exact absurd looser (Nat.not_lt_zero _)

-- The production of a level of operators. The last one is that of unary expressions.
def level (inner : Nested σ act) : Option Rung → Parse σ act.Expression
  | some .or => logicalOr act inner
  | some .and => logicalAnd act inner
  | some .equality => equality act inner
  | some .relational => relational act inner
  | some .additive => additive act inner
  | some .multiplicative => multiplicative act inner
  | none => unary act inner

theorem level_eq (inner : Nested σ act) (rung : Rung) :
    ∃ (ω : Type) (_ : Spelled ω) (build : ω → act.Expression → act.Expression → act.Expression),
      (∀ text, rung.build? act text = (Spelled.ofSpelling? text).map build) ∧
      level inner (some rung) = operatorChain act build rung.kind (level inner rung.tighter) := by
  cases rung with
  | or | and => exact ⟨LogicalOperator, inferInstance, act.logical, fun _ => rfl, rfl⟩
  | _ => exact ⟨BinaryOperator, inferInstance, act.binary, fun _ => rfl, rfl⟩

section Alone

variable {inner : Nested σ act} {tokens rest : List Token} {value : act.Expression → Prop}

-- A level without an operator behind its first operand is that operand.
theorem takes_operand_alone (rung : Rung) (apart : kindAhead rest ≠ some rung.kind)
    (taken : TakesUnless deep limit (level inner rung.tighter) tokens (leaving rest value)) :
    TakesUnless deep limit (level inner (some rung)) tokens (leaving rest value) := by
  obtain ⟨ω, spelled, build, _, same⟩ := level_eq inner rung
  rw [same]
  apply takes_then taken
  intro e fits
  apply takes_loop_end (by simpa using apart)
  exact ⟨rfl, fits⟩

-- So is every level from the tightest to the one before a level whose operator may follow.
theorem takes_tighter_alone (rung : Rung)
    (apart : ∀ rung' : Rung, rung.height < rung'.height → kindAhead rest ≠ some rung'.kind)
    (taken : TakesUnless deep limit (unary act inner) tokens (leaving rest value)) :
    TakesUnless deep limit (level inner rung.tighter) tokens (leaving rest value) := by
  cases next : rung.tighter with
  | none => exact taken
  | some rung' =>
      have higher := Rung.height_tighter rung rung' next
      have apart' (other : Rung) (further : rung'.height < other.height) : kindAhead rest ≠ some other.kind :=
        apart other (by omega)
      exact takes_operand_alone rung' (apart rung' (by omega)) (takes_tighter_alone rung' apart' taken)
termination_by 6 - rung.height
decreasing_by
  have low := rung.height_lt
  omega

-- So is every looser level, if no operator follows.
theorem takes_looser_alone (rung : Rung) (apart : ∀ rung' : Rung, kindAhead rest ≠ some rung'.kind)
    (taken : TakesUnless deep limit (level inner (some rung)) tokens (leaving rest value)) :
    TakesUnless deep limit (logicalOr act inner) tokens (leaving rest value) :=
  Rung.loosest_of_step (fun rung => TakesUnless deep limit (level inner rung) tokens (leaving rest value))
    (fun rung' => takes_operand_alone rung' (apart rung')) rung taken

end Alone

theorem takes_logical_or_alone (levels : Nat) (u rest : List Token) (value : act.Expression → Prop)
    (operand : Operand σ act limit value u) (stops : continuesOperand (kindAhead rest) = false)
    (apart : ∀ rung : Rung, kindAhead rest ≠ some rung.kind) :
    Takes limit (logicalOr act (nested (σ := σ) act limit levels)) (u ++ rest) (leaving rest value) := by
  obtain ⟨kind, ahead, starts⟩ := operand.leads
  have taken := operand.taken levels rest stops
  have last := unary_eq _ _ kind _ (kind_ahead_append u rest kind ahead) starts taken
  exact takes_operand_alone .or (apart .or) (takes_tighter_alone .or (fun rung _ => apart rung) last)

-- What follows the first level of an expression where no assignment does.
theorem takes_no_assignment (inner : Nested σ act) (e : act.Expression) (value : act.Expression → Prop)
    (rest : List Token) (fits : value e) (stops : continuesExpression (kindAhead rest) = false) :
    TakesUnless deep limit
      (do
        match ← lookaheadKind with
        | some .simpleAssign => assignTo act inner .simpleAssign e
        | some .complexAssign => assignTo act inner .complexAssign e
        | _ => return e)
      rest (leaving rest value) := by
  apply takes_look
  have done : TakesUnless deep limit (pure e : Parse σ act.Expression) rest (leaving rest value) :=
    takes_pure ⟨rfl, fits⟩
  cases ahead : kindAhead rest with
  | none => exact done
  | some kind =>
      rw [ahead] at stops
      have plain := assignment_not_ahead kind stops
      cases kind <;> first | exact done | contradiction

theorem takes_assign_to (inner : Nested σ act) (op : Token) (tokens : List Token) (left : act.Expression)
    (operator : AssignmentOperator) (ends : act.Expression → List Token → Prop)
    (place : (act.target? left).isSome = true) (spelled : Spelled.ofSpelling? op.text = some operator)
    (taken : ∀ target, TakesUnless deep limit inner.expression tokens
      fun e left => ends (act.assignment operator target e) left) :
    TakesUnless deep limit (assignTo act inner op.kind left) (op :: tokens) ends := by
  obtain ⟨target, named⟩ := Option.isSome_iff_exists.mp place
  unfold assignTo
  rw [named]
  apply takes_expect rfl
  apply takes_operator spelled
  apply takes_bind (taken target)
  intro e left fits
  exact takes_pure fits

-- A place in parentheses is still a place.
theorem takes_place (u rest : List Token)
    (operand : Operand σ act limit (fun e => (act.target? e).isSome) u)
    (stops : continuesExpression (kindAhead rest) = false) (levels : Nat) :
    Takes limit (nested (σ := σ) act limit levels).expression (u ++ rest)
      (leaving rest fun e => (act.target? e).isSome) := by
  cases levels with
  | zero => exact takes_too_deep
  | succ levels =>
      apply takes_deeper
      apply takes_then (takes_logical_or_alone levels u rest _ operand (operand_stops _ stops)
        fun rung => rung_not_ahead rung _ stops)
      intro e named
      exact takes_no_assignment (nested act limit levels) e _ rest named stops

-- An expression is taken whole, at every level of nesting.
theorem takes_chain (u rest : List Token) (chain : Chain σ act limit true u)
    (stops : continuesExpression (kindAhead rest) = false) (levels : Nat) :
    Takes limit (nested (σ := σ) act limit levels).expression (u ++ rest) (leaving rest fun _ => True) := by
  generalize size : u.length = n
  induction n using Nat.strongRecOn generalizing u levels with
  | ind n ih =>
      cases levels with
      | zero => exact takes_too_deep
      | succ levels =>
          apply takes_deeper
          cases chain with
          | level _ chain =>
              apply takes_then (takes_logical_or levels n rest stops
                (fun v chain shorter => ih v.length shorter v chain levels rfl) u chain (by omega))
              intro e done
              exact takes_no_assignment (nested act limit levels) e _ rest done stops
          | assign u v op operator place assigns spelled value =>
              rw [List.append_assoc, List.cons_append]
              have ends : continuesOperand (kindAhead (op :: (v ++ rest))) = false :=
                continues_operand_assignment op.kind assigns
              have apart : ∀ rung : Rung, kindAhead (op :: (v ++ rest)) ≠ some rung.kind := by
                intro rung same
                rw [kind_ahead_cons, Option.some.injEq] at same
                rw [same] at assigns
                cases rung <;> contradiction
              apply takes_then (takes_logical_or_alone levels u _ _ place ends apart)
              intro left named
              simp only [List.length_append, List.length_cons] at size
              have taken := ih v.length (by omega) v value levels rfl
              have assigned := takes_assign_to (nested act limit levels) op (v ++ rest) left operator
                (leaving rest fun _ => True) named spelled fun _ => taken
              apply takes_look
              rw [kind_ahead_cons]
              cases kind : op.kind <;> rw [kind] at assigned assigns <;>
                first | exact assigned | contradiction

end Grammar

end Levels

end ScriptFront
