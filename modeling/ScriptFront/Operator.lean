import ScriptFront.Spelled

set_option autoImplicit false

/-! The operators of expressions. -/

namespace ScriptFront

inductive BinaryOperator where
  | add
  | subtract
  | multiply
  | divide
  | equal
  | notEqual
  | less
  | lessEqual
  | greater
  | greaterEqual
deriving DecidableEq

instance : Spelled BinaryOperator where
  all :=
    [.add, .subtract, .multiply, .divide, .equal, .notEqual, .less, .lessEqual, .greater,
      .greaterEqual]
  spelling
    | .add => "+"
    | .subtract => "-"
    | .multiply => "*"
    | .divide => "/"
    | .equal => "=="
    | .notEqual => "!="
    | .less => "<"
    | .lessEqual => "<="
    | .greater => ">"
    | .greaterEqual => ">="
  complete := by intro a; cases a <;> decide
  distinct := by decide

inductive LogicalOperator where
  | and
  | or
deriving DecidableEq

instance : Spelled LogicalOperator where
  all := [.and, .or]
  spelling
    | .and => "&&"
    | .or => "||"
  complete := by intro a; cases a <;> decide
  distinct := by decide

inductive UnaryOperator where
  | plus
  | minus
  | not
deriving DecidableEq

instance : Spelled UnaryOperator where
  all := [.plus, .minus, .not]
  spelling
    | .plus => "+"
    | .minus => "-"
    | .not => "!"
  complete := by intro a; cases a <;> decide
  distinct := by decide

inductive AssignmentOperator where
  | assign
  | addAssign
  | subtractAssign
  | multiplyAssign
  | divideAssign
deriving DecidableEq

instance : Spelled AssignmentOperator where
  all := [.assign, .addAssign, .subtractAssign, .multiplyAssign, .divideAssign]
  spelling
    | .assign => "="
    | .addAssign => "+="
    | .subtractAssign => "-="
    | .multiplyAssign => "*="
    | .divideAssign => "/="
  complete := by intro a; cases a <;> decide
  distinct := by decide

end ScriptFront
