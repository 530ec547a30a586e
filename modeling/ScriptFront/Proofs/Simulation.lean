import Mathlib.Data.List.Forall2
import ScriptFront.Proofs.Soundness

set_option autoImplicit false

/-! Two parses side by side: from related states over two sources, with related actions, they end in
related states with related values, or with the same error. -/

namespace ScriptFront

open Parse

-- Two runs end alike, in related states: with related values, or with the same error.
def Alike {σ τ α β : Type} (related : ParseState σ → ParseState τ → Prop) (values : α → β → Prop) :
    EStateM.Result Error (ParseState σ) α → EStateM.Result Error (ParseState τ) β → Prop
  | .ok a s, .ok b t => values a b ∧ related s t
  | .error fault s, .error fault' t => fault = fault' ∧ related s t
  | _, _ => False

section Alike

variable {σ τ α β γ δ : Type} {related related' : ParseState σ → ParseState τ → Prop}

theorem alike_then {first : α → β → Prop} {values : γ → δ → Prop} {p : Parse σ α} {q : Parse τ β}
    {p' : α → Parse σ γ} {q' : β → Parse τ δ} (s : ParseState σ) (t : ParseState τ)
    (begun : Alike related first (p s) (q t))
    (later : ∀ a b s' t', p s = .ok a s' → first a b → related s' t' → Alike related values (p' a s') (q' b t')) :
    Alike related values ((p >>= p') s) ((q >>= q') t) := by
  change Alike related values (EStateM.bind p p' s) (EStateM.bind q q' t)
  unfold EStateM.bind
  generalize ended : p s = left at begun
  generalize q t = right at begun
  cases left <;> cases right
  · exact later _ _ _ _ ended begun.1 begun.2
  · exact begun.elim
  · exact begun.elim
  · exact begun

theorem alike_deeper {values : α → β → Prop} {p : Parse σ α} {q : Parse τ β}
    (leave : ∀ s t, related s t → related' s.leave t.leave) (s : ParseState σ) (t : ParseState τ)
    (inside : Alike related values (p s.enter) (q t.enter)) :
    Alike related' values (deeper p s) (deeper q t) := by
  unfold deeper
  generalize p s.enter = left at inside
  generalize q t.enter = right at inside
  cases left <;> cases right
  · exact ⟨inside.1, leave _ _ inside.2⟩
  · exact inside
  · exact inside
  · exact ⟨inside.1, leave _ _ inside.2⟩

end Alike

-- What relates the states of two parses, and what is then known of every token that they take.
structure Coupling (σ τ : Type) [TokenSource σ] [TokenSource τ] where
  related : ParseState σ → ParseState τ → Prop
  taken : Token → Prop
  ahead : ∀ s t, related s t → s.lookahead = t.lookahead
  enter : ∀ s t, related s t → related s.enter t.enter
  leave : ∀ s t, related s t → related s.leave t.leave
  refill : ∀ s t token, related s t → s.lookahead = some token →
    Alike related (fun _ _ => taken token) (refill s) (refill t)

-- A coupling that holds from the start of two parses.
structure StartingCoupling (σ τ : Type) [TokenSource σ] [TokenSource τ] extends Coupling σ τ where
  fill : ∀ s t, related s t → s.lookahead = none → Alike related (fun _ _ => True) (Parse.refill s) (Parse.refill t)

-- What relates the parts of two output forms, where related parts are built into related ones.
structure Actions.Relation (taken : Token → Prop) (act act' : Actions) where
  Program : act.Program → act'.Program → Prop
  Block : act.Block → act'.Block → Prop
  Statement : act.Statement → act'.Statement → Prop
  Expression : act.Expression → act'.Expression → Prop
  Identifier : act.Identifier → act'.Identifier → Prop
  Declaration : act.Declaration → act'.Declaration → Prop
  Target : act.Target → act'.Target → Prop
  ForInit : act.ForInit → act'.ForInit → Prop
  program : ∀ a b, List.Forall₂ Statement a b → Program (act.program a) (act'.program b)
  block : ∀ a b, List.Forall₂ Statement a b → Block (act.block a) (act'.block b)
  blockStatement : ∀ a b, Block a b → Statement (act.blockStatement a) (act'.blockStatement b)
  emptyStatement : Statement act.emptyStatement act'.emptyStatement
  expressionStatement : ∀ a b, Expression a b →
    Statement (act.expressionStatement a) (act'.expressionStatement b)
  declaration : ∀ i j a b, Identifier i j → Option.Rel Expression a b →
    Declaration (act.declaration i a) (act'.declaration j b)
  variableStatement : ∀ a b, List.Forall₂ Declaration a b →
    Statement (act.variableStatement a) (act'.variableStatement b)
  ifStatement : ∀ t u a b c d, Expression t u → Statement a b → Option.Rel Statement c d →
    Statement (act.ifStatement t a c) (act'.ifStatement u b d)
  whileStatement : ∀ t u a b, Expression t u → Statement a b →
    Statement (act.whileStatement t a) (act'.whileStatement u b)
  doWhileStatement : ∀ t u a b, Expression t u → Statement a b →
    Statement (act.doWhileStatement a t) (act'.doWhileStatement b u)
  forVariables : ∀ a b, List.Forall₂ Declaration a b → ForInit (act.forVariables a) (act'.forVariables b)
  forExpression : ∀ a b, Expression a b → ForInit (act.forExpression a) (act'.forExpression b)
  forStatement : ∀ i j t u v w a b, Option.Rel ForInit i j → Option.Rel Expression t u →
    Option.Rel Expression v w → Statement a b →
    Statement (act.forStatement i t v a) (act'.forStatement j u w b)
  functionDeclaration : ∀ i j p q a b, Identifier i j → List.Forall₂ Identifier p q → Block a b →
    Statement (act.functionDeclaration i p a) (act'.functionDeclaration j q b)
  returnStatement : ∀ a b, Option.Rel Expression a b →
    Statement (act.returnStatement a) (act'.returnStatement b)
  classDeclaration : ∀ i j p q a b, Identifier i j → Option.Rel Identifier p q → Block a b →
    Statement (act.classDeclaration i p a) (act'.classDeclaration j q b)
  identifier : ∀ token, taken token → token.kind = .identifier →
    Identifier (act.identifier token.text) (act'.identifier token.text)
  identifierExpression : ∀ i j, Identifier i j →
    Expression (act.identifierExpression i) (act'.identifierExpression j)
  number : ∀ value, Expression (act.number value) (act'.number value)
  string : ∀ text, Expression (act.string text) (act'.string text)
  boolean : ∀ value, Expression (act.boolean value) (act'.boolean value)
  null : Expression act.null act'.null
  this : Expression act.this act'.this
  super : Expression act.super act'.super
  new : ∀ f g a b, Expression f g → List.Forall₂ Expression a b → Expression (act.new f a) (act'.new g b)
  call : ∀ f g a b, Expression f g → List.Forall₂ Expression a b → Expression (act.call f a) (act'.call g b)
  member : ∀ a b i j, Expression a b → Identifier i j → Expression (act.member a i) (act'.member b j)
  computedMember : ∀ a b c d, Expression a b → Expression c d →
    Expression (act.computedMember a c) (act'.computedMember b d)
  target : ∀ a b, Expression a b → Option.Rel Target (act.target? a) (act'.target? b)
  assignment : ∀ operator t u a b, Target t u → Expression a b →
    Expression (act.assignment operator t a) (act'.assignment operator u b)
  binary : ∀ operator a b c d, Expression a b → Expression c d →
    Expression (act.binary operator a c) (act'.binary operator b d)
  logical : ∀ operator a b c d, Expression a b → Expression c d →
    Expression (act.logical operator a c) (act'.logical operator b d)
  unary : ∀ operator a b, Expression a b → Expression (act.unary operator a) (act'.unary operator b)

-- An error with another offset, if it has one.
def Error.movedTo (offset : Nat) : Error → Error
  | .lexical fault => .lexical { fault with offset := offset }
  | .grammar (.unexpectedToken found expected _) => .grammar (.unexpectedToken found expected offset)
  | fault => fault

theorem Error.moved_again (fault : Error) (offset offset' : Nat) :
    (fault.movedTo offset).movedTo offset' = fault.movedTo offset' := by
  cases fault with
  | lexical fault => rfl
  | grammar fault => cases fault <;> rfl
  | config fault => rfl

theorem Error.moved_too_deep (error : Error) (offset limit : Nat)
    (deep : error.movedTo offset = .grammar (.nestingTooDeep limit)) :
    error = .grammar (.nestingTooDeep limit) := by
  cases error with
  | grammar fault => cases fault <;> first | exact deep | cases deep
  | _ => cases deep

-- An error that names neither a place nor a limit.
def GrammarError.isBare : GrammarError → Bool
  | .unexpectedToken .. | .nestingTooDeep _ => false
  | _ => true

theorem GrammarError.moved_bare (fault : GrammarError) (bare : fault.isBare) (offset : Nat) :
    (Error.grammar fault).movedTo offset = .grammar fault := by
  cases fault with
  | unexpectedToken _ _ _ => cases bare
  | _ => rfl

-- An error that a parse can end with at this lookahead: the offset of a token that was not expected is
-- that of the lookahead.
def Error.FitsAt (next : Option Token) : Error → Prop
  | .lexical _ => True
  | .grammar (.unexpectedToken _ _ offset) => ∃ token, next = some token ∧ token.span.start = offset
  | .grammar _ => True
  | .config _ => False

-- A relation between runs over two sources that holds of everything made of related parts by the
-- steps of the productions. What two productions agree on follows from these laws alone.
structure Comparison (σ τ : Type) [TokenSource σ] [TokenSource τ] (taken : Token → Prop) where
  Agree : ∀ {α β : Type}, (α → β → Prop) → Parse σ α → Parse τ β → Prop
  agree_pure : ∀ {α β : Type} {values : α → β → Prop} {a : α} {b : β}, values a b →
    Agree values (pure a) (pure b)
  agree_bind : ∀ {α β γ δ : Type} {first : α → β → Prop} {values : γ → δ → Prop} {p : Parse σ α}
    {q : Parse τ β} {p' : α → Parse σ γ} {q' : β → Parse τ δ}, Agree first p q →
    (∀ a b, first a b → Agree values (p' a) (q' b)) → Agree values (p >>= p') (q >>= q')
  agree_fail : ∀ {α β : Type} (values : α → β → Prop) (fault : GrammarError), fault.isBare →
    Agree values (fail fault) (fail fault)
  agree_look : ∀ {α β : Type} {values : α → β → Prop} {p : Option TokenKind → Parse σ α}
    {q : Option TokenKind → Parse τ β}, (∀ kind, Agree values (p kind) (q kind)) →
    Agree values (lookaheadKind >>= p) (lookaheadKind >>= q)
  agree_expect : ∀ kind : TokenKind,
    Agree (fun a b => a.text = b.text ∧ taken a ∧ a.kind = kind) (expect kind) (expect kind)
  agree_unexpected_primary : ∀ {α β : Type} (values : α → β → Prop),
    Agree values Grammar.unexpectedPrimary Grammar.unexpectedPrimary
  agree_repeat_while : ∀ {α β : Type} {values : α → β → Prop} {goesOn : Option TokenKind → Bool},
    goesOn none = false → ∀ {p : α → Parse σ α} {q : β → Parse τ β}, (∀ a, Lowers (p a)) →
    (∀ b, Lowers (q b)) → (∀ a b, values a b → Agree values (p a) (q b)) → ∀ {a : α} {b : β},
    values a b → Agree values (repeatWhile goesOn p a) (repeatWhile goesOn q b)

-- A comparison that is the same on every level of nesting.
structure LevelComparison (σ τ : Type) [TokenSource σ] [TokenSource τ] (taken : Token → Prop) extends
    Comparison σ τ taken where
  agree_too_deep : ∀ {α β : Type} (values : α → β → Prop) (limit : Nat),
    Agree values (fail (.nestingTooDeep limit)) (fail (.nestingTooDeep limit))
  agree_deeper : ∀ {α β : Type} {values : α → β → Prop} {p : Parse σ α} {q : Parse τ β},
    Agree values p q → Agree values (deeper p) (deeper q)

namespace Comparison

variable {σ τ : Type} [TokenSource σ] [TokenSource τ] {taken : Token → Prop} (c : Comparison σ τ taken)
  {α β γ δ : Type}

theorem agree_pure_bind {values : α → β → Prop} {a : γ} {b : δ} {p : γ → Parse σ α} {q : δ → Parse τ β}
    (later : c.Agree values (p a) (q b)) : c.Agree values (pure a >>= p) (pure b >>= q) :=
  later

theorem agree_ahead {values : α → β → Prop} {kind : TokenKind} {p : Bool → Parse σ α}
    {q : Bool → Parse τ β} (each : ∀ answer, c.Agree values (p answer) (q answer)) :
    c.Agree values (isAhead kind >>= p) (isAhead kind >>= q) :=
  c.agree_look fun found => each (found == some kind)

theorem agree_operator {ω : Type} [Spelled ω] (t t' : Token) (same : t.text = t'.text) :
    c.Agree (fun a b : ω => a = b) (operator t) (operator t') := by
  unfold operator
  rw [← same]
  split
  · exact c.agree_pure rfl
  · exact c.agree_fail _ _ rfl

-- Once a token is taken, `c'` is enough for what `c` says of the whole.
def Leads (c c' : Comparison σ τ taken) : Prop :=
  ∀ (kind : TokenKind) {α β : Type} {values : α → β → Prop} {p : Token → Parse σ α}
    {q : Token → Parse τ β},
    (∀ a b, a.text = b.text ∧ taken a ∧ a.kind = kind → c'.Agree values (p a) (q b)) →
    c.Agree values (expect kind >>= p) (expect kind >>= q)

theorem leads_self : c.Leads c :=
  fun kind _ _ _ _ _ later => c.agree_bind (c.agree_expect kind) later

end Comparison

namespace Coupling

variable {σ τ : Type} [TokenSource σ] [TokenSource τ] (c : Coupling σ τ)

def Agree {α β : Type} (values : α → β → Prop) (p : Parse σ α) (q : Parse τ β) : Prop :=
  ∀ s t, c.related s t → Alike c.related values (p s) (q t)

variable {α β γ δ : Type}

theorem agree_pure {values : α → β → Prop} {a : α} {b : β} (same : values a b) :
    c.Agree values (pure a) (pure b) :=
  fun _ _ related => ⟨same, related⟩

theorem alike_bind {first : α → β → Prop} {values : γ → δ → Prop} {p : Parse σ α} {q : Parse τ β}
    {p' : α → Parse σ γ} {q' : β → Parse τ δ} (s : ParseState σ) (t : ParseState τ)
    (begun : Alike c.related first (p s) (q t))
    (later : ∀ a b s' t', p s = .ok a s' → first a b → c.related s' t' →
      Alike c.related values (p' a s') (q' b t')) :
    Alike c.related values ((p >>= p') s) ((q >>= q') t) :=
  alike_then s t begun later

theorem agree_bind {first : α → β → Prop} {values : γ → δ → Prop} {p : Parse σ α} {q : Parse τ β}
    {p' : α → Parse σ γ} {q' : β → Parse τ δ} (begun : c.Agree first p q)
    (later : ∀ a b, first a b → c.Agree values (p' a) (q' b)) :
    c.Agree values (p >>= p') (q >>= q') := by
  intro s t related
  refine c.alike_bind s t (begun s t related) ?_
  intro a b s' t' _ same related'
  exact later a b same s' t' related'

theorem agree_fail (values : α → β → Prop) (fault : GrammarError) :
    c.Agree values (fail fault) (fail fault) :=
  fun _ _ related => ⟨rfl, related⟩

theorem agree_look {values : α → β → Prop} {p : Option TokenKind → Parse σ α}
    {q : Option TokenKind → Parse τ β} (each : ∀ kind, c.Agree values (p kind) (q kind)) :
    c.Agree values (lookaheadKind >>= p) (lookaheadKind >>= q) := by
  intro s t related
  have alike := each (s.lookahead.map Token.kind) s t related
  rw [c.ahead s t related] at alike
  change Alike c.related values (p (s.lookahead.map Token.kind) s) (q (t.lookahead.map Token.kind) t)
  rwa [c.ahead s t related]

theorem agree_expect (kind : TokenKind) :
    c.Agree (fun a b => a.text = b.text ∧ c.taken a ∧ a.kind = kind) (expect kind) (expect kind) := by
  intro s t related
  rw [expect_eq, expect_eq, ← c.ahead s t related]
  cases ahead : s.lookahead with
  | none => exact ⟨rfl, related⟩
  | some token =>
      dsimp only
      split
      · rename_i fits
        refine c.alike_bind s t (c.refill s t token related ahead) ?_
        intro _ _ s' t' _ taken related'
        exact ⟨⟨rfl, taken, fits⟩, related'⟩
      · exact ⟨rfl, related⟩

theorem agree_unexpected_primary (values : α → β → Prop) :
    c.Agree values Grammar.unexpectedPrimary Grammar.unexpectedPrimary := by
  intro s t related
  change Error.grammar _ = Error.grammar _ ∧ c.related s t
  rw [c.ahead s t related]
  exact ⟨rfl, related⟩

theorem agree_deeper {values : α → β → Prop} {p : Parse σ α} {q : Parse τ β}
    (inside : c.Agree values p q) : c.Agree values (deeper p) (deeper q) :=
  fun s t related => alike_deeper c.leave s t (inside s.enter t.enter (c.enter s t related))

theorem agree_repeat_while {values : α → β → Prop} {goesOn : Option TokenKind → Bool}
    (ends : goesOn none = false) {p : α → Parse σ α} {q : β → Parse τ β}
    (lowers : ∀ a, Lowers (p a)) (lowers' : ∀ b, Lowers (q b))
    (each : ∀ a b, values a b → c.Agree values (p a) (q b)) {a : α} {b : β} (start : values a b) :
    c.Agree values (repeatWhile goesOn p a) (repeatWhile goesOn q b) := by
  intro s t related
  generalize size : s.left = n
  induction n using Nat.strongRecOn generalizing a b s t with
  | ind n ih =>
      rw [repeat_while_eq goesOn p ends lowers, repeat_while_eq goesOn q ends lowers',
        c.ahead s t related]
      split
      · refine c.alike_bind s t (each a b start s t related) ?_
        intro a' b' s' t' stepped same related'
        exact ih s'.left (size ▸ lowers a s a' s' stepped) same s' t' related' rfl
      · exact ⟨start, related⟩

def comparison : LevelComparison σ τ c.taken where
  Agree := c.Agree
  agree_pure := c.agree_pure
  agree_bind := c.agree_bind
  agree_fail values fault _ := c.agree_fail values fault
  agree_look := c.agree_look
  agree_expect := c.agree_expect
  agree_unexpected_primary := c.agree_unexpected_primary
  agree_repeat_while := c.agree_repeat_while
  agree_too_deep values limit := c.agree_fail values (.nestingTooDeep limit)
  agree_deeper := c.agree_deeper

end Coupling

end ScriptFront
