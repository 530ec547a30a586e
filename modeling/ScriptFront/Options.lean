import ScriptFront.Error
import ScriptFront.Json.Record
import ScriptFront.Tree.Reader

set_option autoImplicit false

/-! The choice of an output form: by name, by a setting, or by a JSON document. -/

namespace ScriptFront

inductive OutputForm where
  | tree
  | sExpression
deriving DecidableEq

instance : Spelled OutputForm where
  all := [.tree, .sExpression]
  spelling
    | .tree => "tree"
    | .sExpression => "s-expression"
  complete := by intro a; cases a <;> decide
  distinct := by decide

namespace OutputForm

-- Blanks around the name and the case of ASCII letters do not count.
def normalized (name : String) : String :=
  String.ofList ((Text.trimmed name.toList).map Char.toLower)

-- The form with a name. Both forms have a short name, too.
def ofName (name : String) : Except Error OutputForm :=
  match normalized name with
  | "tree" | "ast" => .ok .tree
  | "s-expression" | "sexpr" => .ok .sExpression
  | other => .error (.config (.unknownForm other))

end OutputForm

structure Options where
  output : OutputForm
deriving DecidableEq

namespace Options

def default : Options :=
  ⟨.tree⟩

def toJson (options : Options) : Json :=
  .object [("output", .string (Spelled.spelling options.output))]

-- The configuration of a setting that may be missing.
def ofSetting (value : Option String) : Except Error Options :=
  match value with
  | none => .ok default
  | some name => (OutputForm.ofName name).map .mk

-- The configuration that a JSON value holds. A missing form is the default.
def ofNode (n : Node) : Except Fault Options :=
  n.record "ParserConfig"
    (do
      let output ← n.field? "output" Reading.word
      return ⟨output.getD default.output⟩)
    (match n.items with
    | [] => .ok default
    | first :: _ => do
        let output ← first.word
        n.noMoreItems 1
        return ⟨output⟩)

-- A form in a text: its name, or an object with that name and `null`.
def formReader : Reader OutputForm := do
  match ← Reader.peek with
  | none => throw .truncated
  | some '"' => Reader.ofExcept (Json.named (← Reader.string true))
  | some '{' =>
      Reader.skip 1
      if ← Reader.nextMember true then
        let form ← Reader.ofExcept (Json.named (← Reader.string true))
        Reader.colon
        match ← Reader.peek with
        | some 'n' =>
            let _ ← Reader.atom true 'n'
            match ← Reader.peek with
            | none => throw .truncated
            | some '}' => Reader.skip 1
            | some _ => throw (.blocked .value)
            return form
        | _ => Reader.refuse .unit
      else throw (.blocked .value)
  | some _ => throw (.blocked .value)

def reader : Reader Options :=
  Reader.record "ParserConfig" "output" (do return ⟨← formReader⟩) (.ok default) (.ok default)

-- The configuration that a JSON document holds.
def ofText (text : String) : Except Error Options :=
  match reader.runOn text with
  | .ok options => .ok options
  | .error fault => .error (.config (if Json.isText text then .document fault else .notJson))

end Options

end ScriptFront
