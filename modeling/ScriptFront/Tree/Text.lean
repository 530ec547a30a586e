import ScriptFront.Json.Record
import ScriptFront.Tree.Reader

set_option autoImplicit false

/-! Reading a program from JSON text. -/

namespace ScriptFront

-- A statement is scanned whole and then read. The program and its body are open around it.
def statementReader : Reader Statement := do
  let value ← Reader.value true (Json.nestingLimit - 2)
  Reader.ofExcept value.reading.statement

def Program.reader : Reader Program :=
  Reader.record "Program" "body" (do return ⟨← Reader.list statementReader⟩)
    (.error (.missingField "body")) (.error (.tooFewItems 0 "Program" 1))

def Program.ofText (text : String) : Except ReadFault Program :=
  Program.reader.runOn text

end ScriptFront
