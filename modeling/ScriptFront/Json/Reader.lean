import ScriptFront.Json.Fault
import ScriptFront.Json.Number
import ScriptFront.Text.Bytes

set_option autoImplicit false

/-! Reading JSON text. A reader takes its part off the front of the text that is left. Values are
read exactly, or passed over: then the range of numbers, the pairing of surrogates and the depth of
nesting are not looked at. -/

namespace ScriptFront

abbrev Reader := StateT (List Char) (Except ReadFault)

namespace Reader

variable {α σ : Type}

def isSpace (c : Char) : Bool :=
  c == ' ' || c == '\n' || c == '\t' || c == '\r'

def skipSpace : Reader Unit :=
  modify (List.dropWhile isSpace)

-- The next character after white space.
def peek : Reader (Option Char) := do
  skipSpace
  return (← get).head?

def skip (count : Nat) : Reader Unit :=
  modify (List.drop count)

-- Longest run of digits at the front.
def digitRun : Reader (List Char) := do
  let text ← get
  let digits := text.takeWhile Char.isDigit
  set (text.drop digits.length)
  return digits

-- The characters of a word, each in its place.
def word : List Char → Reader Unit
  | [] => return
  | c :: rest => do
      match ← get with
      | [] => throw .truncated
      | d :: left =>
          if c = d then
            set left
            word rest
          else throw .malformed

def hexValue? (c : Char) : Option Nat :=
  if c.isDigit then some (c.toNat - '0'.toNat)
  else if 'a' ≤ c && c ≤ 'f' then some (c.toNat - 'a'.toNat + 10)
  else if 'A' ≤ c && c ≤ 'F' then some (c.toNat - 'A'.toNat + 10)
  else none

def hexQuad? (a b c d : Char) : Option Nat := do
  return (← hexValue? a) * 4096 + (← hexValue? b) * 256 + (← hexValue? c) * 16 + (← hexValue? d)

-- Four characters for a code unit are missing: the text ends too early if it has fewer than four
-- bytes left.
def quadFault (text : List Char) : ReadFault :=
  if Text.byteLength text < 4 then .truncated else .malformed

def isLeading (unit : Nat) : Bool :=
  0xD800 ≤ unit && unit ≤ 0xDBFF

def isTrailing (unit : Nat) : Bool :=
  0xDC00 ≤ unit && unit ≤ 0xDFFF

def pairedChar (leading trailing : Nat) : Char :=
  Char.ofNat ((leading - 0xD800) * 1024 + (trailing - 0xDC00) + 0x10000)

def simpleEscape? (c : Char) : Option Char :=
  match c with
  | '"' => some '"'
  | '\\' => some '\\'
  | '/' => some '/'
  | 'b' => some '\x08'
  | 'f' => some '\x0c'
  | 'n' => some '\n'
  | 'r' => some '\r'
  | 't' => some '\t'
  | _ => none

-- The rest of a string after its opening quote; `done` holds what was read, last first.
def stringTail (exact : Bool) (done : List Char) :
    List Char → Except ReadFault (List Char × List Char)
  | [] => .error .truncated
  | '"' :: rest => .ok (done.reverse, rest)
  | ['\\'] => .error .truncated
  | '\\' :: 'u' :: a :: b :: c :: d :: rest =>
      match hexQuad? a b c d with
      | none => .error (quadFault (a :: b :: c :: d :: rest))
      | some unit =>
          if !exact then stringTail exact done rest
          else if isTrailing unit then .error (.blocked .loneSurrogate)
          else if isLeading unit then
            match rest with
            | [] => .error .truncated
            | ['\\'] => .error .truncated
            | '\\' :: 'u' :: e :: f :: g :: h :: rest =>
                match hexQuad? e f g h with
                | none => .error (quadFault (e :: f :: g :: h :: rest))
                | some second =>
                    if isTrailing second then stringTail exact (pairedChar unit second :: done) rest
                    else .error (.blocked .loneSurrogate)
            | '\\' :: 'u' :: short => .error (quadFault short)
            | _ => .error (.blocked .openPair)
          else stringTail exact (Char.ofNat unit :: done) rest
  | '\\' :: 'u' :: short => .error (quadFault short)
  | '\\' :: c :: rest =>
      match simpleEscape? c with
      | some meant => stringTail exact (meant :: done) rest
      | none => .error .malformed
  | c :: rest => if c.toNat < 0x20 then .error .malformed else stringTail exact (c :: done) rest

-- A string, from its opening quote on.
def string (exact : Bool) : Reader String := do
  skip 1
  let (done, rest) ← stringTail exact [] (← get)
  set rest
  return String.ofList done

-- What a missing digit means: where numbers are passed over, the end of the text is no different
-- from any other character.
def digitFault (exact : Bool) (text : List Char) : ReadFault :=
  if exact && text.isEmpty then .truncated else .malformed

def wholeDigits (exact : Bool) : Reader (List Char) := do
  let digits ← digitRun
  match digits with
  | [] => throw (digitFault exact (← get))
  | '0' :: _ :: _ => throw .malformed
  | _ => return digits

def fractionDigits (exact : Bool) : Reader (Option (List Char)) := do
  match ← get with
  | '.' :: rest =>
      set rest
      let digits ← digitRun
      if digits.isEmpty then throw (digitFault exact rest)
      return some digits
  | _ => return none

def exponentValue (exact : Bool) : Reader (Option Int) := do
  match ← get with
  | c :: rest =>
      if c = 'e' || c = 'E' then
        set (match rest with
          | '+' :: digits => digits
          | '-' :: digits => digits
          | digits => digits)
        let digits ← digitRun
        if digits.isEmpty then throw (digitFault exact (← get))
        let size := digits.foldl (fun value digit => value * 10 + digitValue digit) 0
        return some (if rest.head? = some '-' then -(size : Int) else size)
      else return none
  | [] => return none

-- A number, from its sign or first digit on.
def number (exact : Bool) : Reader Json := do
  let negative := (← get).head? == some '-'
  if negative then skip 1
  let whole ← wholeDigits exact
  let fraction ← fractionDigits exact
  let exponent ← exponentValue exact
  if exact then
    match NumberText.value? ⟨negative, whole, fraction, exponent⟩ with
    | some value => return value
    | none => throw (.blocked .numberRange)
  else return .null

-- A value that starts with `c` and has no parts.
def atom (exact : Bool) (c : Char) : Reader Json := do
  match c with
  | 'n' => word ['n', 'u', 'l', 'l']; return .null
  | 't' => word ['t', 'r', 'u', 'e']; return .boolean true
  | 'f' => word ['f', 'a', 'l', 's', 'e']; return .boolean false
  | '"' => return .string (← string exact)
  | _ => if c = '-' || c.isDigit then number exact else throw .malformed

-- Whether one more item of an array follows.
def nextItem (first : Bool) : Reader Bool := do
  match ← peek with
  | none => throw .truncated
  | some ']' => return false
  | some c =>
      if first then return true
      if c ≠ ',' then throw .malformed
      skip 1
      match ← peek with
      | none => throw .truncated
      | some ']' => throw .malformed
      | some _ => return true

def closeArray : Reader Unit := do
  match ← peek with
  | none => throw .truncated
  | some ']' => skip 1
  | some _ => throw (.blocked .items)

-- Whether one more member of an object follows; then its name is next.
def nextMember (first : Bool) : Reader Bool := do
  match ← peek with
  | none => throw .truncated
  | some '}' => return false
  | some c =>
      if first then
        if c ≠ '"' then throw .malformed
        return true
      if c ≠ ',' then throw .malformed
      skip 1
      match ← peek with
      | none => throw .truncated
      | some '"' => return true
      | some _ => throw .malformed

def closeObject : Reader Unit := do
  match ← peek with
  | none => throw .truncated
  | some '}' => skip 1
  | some _ => throw .malformed

def colon : Reader Unit := do
  match ← peek with
  | none => throw .truncated
  | some ':' => skip 1
  | some _ => throw .malformed

-- Takes items until none follows. Every item takes a character, so the rounds do not run out.
def itemsLoop (item : σ → Reader σ) : Nat → Bool → σ → Reader σ
  | 0, _, state => return state
  | rounds + 1, first, state => do
      if ← nextItem first then itemsLoop item rounds false (← item state)
      else return state

-- The items of an array from its opening bracket on, each one given to `item`.
def items (item : σ → Reader σ) (start : σ) : Reader σ := do
  skip 1
  let state ← itemsLoop item ((← get).length + 1) true start
  closeArray
  return state

-- Takes members until none follows. Every member takes a character, so the rounds do not run out.
def membersLoop (exact : Bool) (member : σ → String → Reader σ) : Nat → Bool → σ → Reader σ
  | 0, _, state => return state
  | rounds + 1, first, state => do
      if ← nextMember first then
        let name ← string exact
        membersLoop exact member rounds false (← member state name)
      else return state

-- The members of an object from its opening brace on, each name given to `member`, which reads
-- from the colon on.
def members (exact : Bool) (member : σ → String → Reader σ) (start : σ) : Reader σ := do
  skip 1
  let state ← membersLoop exact member ((← get).length + 1) true start
  closeObject
  return state

-- A value in which at most `levels` arrays and objects are open at once.
def value (exact : Bool) : (levels : Nat) → Reader Json
  | 0 => do
      match ← peek with
      | none => throw .truncated
      | some c => atom exact c
  | levels + 1 => do
      match ← peek with
      | none => throw .truncated
      | some '[' =>
          let found ← items (fun done => return (← value exact levels) :: done) []
          return .array found.reverse
      | some '{' =>
          let found ← members exact
            (fun done name => do
              colon
              return (name, ← value exact levels) :: done) []
          return .object found.reverse
      | some c => atom exact c

-- Passes over a value, however deep.
def skipValue : Reader Unit := do
  let _ ← value false (← get).length

-- Nothing but white space is left.
def finish : Reader Unit := do
  match ← peek with
  | none => return
  | some _ => throw .malformed

-- Reads a whole text.
def runOn (reader : Reader α) (text : String) : Except ReadFault α :=
  (do
    let found ← reader
    finish
    return found : Reader α).run' text.toList

end Reader

namespace Json

-- Arrays and objects that may be open at once in a text.
def nestingLimit : Nat := 127

-- The value of a text in which at most `levels` arrays and objects are open at once.
def ofText (levels : Nat) (text : String) : Except ReadFault Json :=
  (Reader.value true levels).runOn text

-- Whether a text is that of some JSON value, which need not be one that can be read.
def isText (text : String) : Bool :=
  match Reader.skipValue.runOn text with
  | .ok _ => true
  | .error _ => false

end Json

end ScriptFront
