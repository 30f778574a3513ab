import ParseRepair.Decimal.Notation
import ParseRepair.Text.Search
import ParseRepair.Value

namespace ParseRepair.Json

inductive Fault
  | byteOrderMark
  | expectingValue
  | expectingName
  | expectingColon
  | expectingComma
  | unterminated
  | controlCharacter
  | badEscape
  | badUnicode
  | extraData
  deriving DecidableEq, Repr

inductive Container
  | array
  | object
  deriving DecidableEq, Repr

/-- Why reading stopped. A fault is found at the beginning of `rest`. -/
inductive Stop
  | fault (f : Fault) (rest : Text)
  | integer (e : IntegerError)
  | tooDeep (c : Container)
  deriving DecidableEq, Repr

def isBlank (c : Char) : Bool := c == ' ' || c == '\t' || c == '\n' || c == '\r'

def skipBlank (t : Text) : Text := t.dropWhile isBlank

def hexUnit? (a b c d : Char) : Option Nat := do
  some (Text.ofDigits 16 [← Text.hexDigit? a, ← Text.hexDigit? b, ← Text.hexDigit? c,
    ← Text.hexDigit? d])

def shortEscape? : Char → Option Char
  | '"' => some '"'
  | '\\' => some '\\'
  | '/' => some '/'
  | 'b' => some '\x08'
  | 'f' => some '\x0c'
  | 'n' => some '\n'
  | 'r' => some '\r'
  | 't' => some '\t'
  | _ => none

/-- The inside of a string up to its closing quote, with each escape as a point of its own. `opening` is the text
from the opening quote on. -/
def units (opening : Text) : Text → Except Stop (Points × Text)
  | [] => .error (.fault .unterminated opening)
  | '"' :: r => .ok ([], r)
  | '\\' :: 'u' :: a :: b :: c :: d :: e :: r =>
    match hexUnit? a b c d with
    | none => .error (.fault .badUnicode ('u' :: a :: b :: c :: d :: e :: r))
    | some n => do
      let (ps, rest) ← units opening (e :: r)
      .ok (.ofCode n :: ps, rest)
  | '\\' :: 'u' :: r => .error (.fault .badUnicode ('u' :: r))
  | ['\\'] => .error (.fault .unterminated opening)
  | '\\' :: c :: r =>
    match shortEscape? c with
    | none => .error (.fault .badEscape ('\\' :: c :: r))
    | some c => do
      let (ps, rest) ← units opening r
      .ok (.char c :: ps, rest)
  | c :: r =>
    if c.toNat ≤ 0x1F then .error (.fault .controlCharacter (c :: r))
    else do
      let (ps, rest) ← units opening r
      .ok (.char c :: ps, rest)

def isPair (high low : Fin 0x800) : Bool := high.val < 0x400 && 0x400 ≤ low.val

def joinHalves (high low : Fin 0x800) : Char := Char.ofNat (0x10000 + high.val * 0x400 + (low.val - 0x400))

/-- A half that makes no pair with the next one is kept. -/
def joinPairs : Points → Points
  | .half n :: .half m :: r =>
    if isPair n m then .char (joinHalves n m) :: joinPairs r else .half n :: joinPairs (.half m :: r)
  | p :: r => p :: joinPairs r
  | [] => []

def string (opening inside : Text) : Except Stop (Points × Text) := do
  let (ps, rest) ← units opening inside
  .ok (joinPairs ps, rest)

def keywords : List (Text × Value) :=
  [("null", .null), ("true", .bool true), ("false", .bool false), ("NaN", .real .nan),
    ("Infinity", .real (.infinite false)), ("-Infinity", .real (.infinite true))]

def keyword? (t : Text) : Option (Value × Text) :=
  keywords.findSome? fun (word, value) => (Text.stripStart? word t).map (value, ·)

def whole? : Text → Option (Text × Text)
  | '0' :: r => some (['0'], r)
  | t => if (Decimal.digits t).1.isEmpty then none else some (Decimal.digits t)

def number (t : Text) : Except Stop (Value × Text) :=
  let (negative, r) := Decimal.signed t
  match whole? r with
  | none => .error (.fault .expectingValue t)
  | some (whole, r) =>
    let (places, r) := Decimal.fraction r
    let (power, rest) := Decimal.power r
    if places.isEmpty && power.isNone then
      match Text.toNat whole with
      | .ok n => .ok (.int (if negative then -n else n), rest)
      | .error e => .error (.integer e)
    else .ok (.real (.ofDecimal negative (.ofParts whole places power)), rest)

def name : Text → Except Stop (Points × Text)
  | '"' :: r => do
    let (key, r) ← string ('"' :: r) r
    match skipBlank r with
    | ':' :: r => .ok (key, skipBlank r)
    | r => .error (.fault .expectingColon r)
  | t => .error (.fault .expectingName t)

mutual

/-- Reads one value, in which `depth` more containers may lie in each other. `fuel` bounds the number
of steps, of which each character needs at most two: one for a bracket or a comma, one for the value
behind it. -/
def value : Nat → Nat → Text → Except Stop (Value × Text)
  | 0, _, t => .error (.fault .expectingValue t)
  | fuel + 1, depth, t =>
    match t with
    | '"' :: r => do
      let (s, rest) ← string t r
      .ok (.text s, rest)
    | '[' :: r =>
      if depth = 0 then .error (.tooDeep .array)
      else match skipBlank r with
      | ']' :: r => .ok (.list [], r)
      | r => do
        let (vs, rest) ← items fuel (depth - 1) r
        .ok (.list vs, rest)
    | '{' :: r =>
      if depth = 0 then .error (.tooDeep .object)
      else match skipBlank r with
      | '}' :: r => .ok (.object [], r)
      | r => do
        let (ms, rest) ← members fuel (depth - 1) r
        .ok (.object (Value.ofMembers ms), rest)
    | t =>
      match keyword? t with
      | some found => .ok found
      | none => number t

def items : Nat → Nat → Text → Except Stop (List Value × Text)
  | 0, _, t => .error (.fault .expectingValue t)
  | fuel + 1, depth, t => do
    let (v, r) ← value fuel depth t
    match skipBlank r with
    | ']' :: r => .ok ([v], r)
    | ',' :: r => do
      let (vs, rest) ← items fuel depth (skipBlank r)
      .ok (v :: vs, rest)
    | r => .error (.fault .expectingComma r)

def members : Nat → Nat → Text → Except Stop (Value.Fields × Text)
  | 0, _, t => .error (.fault .expectingValue t)
  | fuel + 1, depth, t => do
    let (key, r) ← name t
    let (v, r) ← value fuel depth r
    match skipBlank r with
    | '}' :: r => .ok ([(key, v)], r)
    | ',' :: r => do
      let (ms, rest) ← members fuel depth (skipBlank r)
      .ok ((key, v) :: ms, rest)
    | r => .error (.fault .expectingComma r)

end

/-- A whole document: one value, blanks around it and nothing else. `depth` containers may lie in each
other, as many as the stack of the caller leaves room for. -/
def document (depth : Nat) (t : Text) : Except Stop Value :=
  match t with
  | '\uFEFF' :: _ => .error (.fault .byteOrderMark t)
  | _ => do
    let (v, r) ← value (2 * t.length + 2) depth (skipBlank t)
    match skipBlank r with
    | [] => .ok v
    | r => .error (.fault .extraData r)

/-- A place in a text. Lines are ended by LF alone; lines and columns count from one. -/
structure Place where
  line : Nat
  column : Nat
  offset : Nat
  deriving DecidableEq, Repr

def placeBefore (t : Text) (rest : Nat) : Place :=
  let before := t.take (t.length - rest)
  ⟨before.count '\n' + 1, (before.reverse.takeWhile (· != '\n')).length + 1, before.length⟩

inductive Error
  | malformed (fault : Fault) (place : Place)
  | integer (e : IntegerError)
  | tooDeep (c : Container)
  deriving DecidableEq, Repr

def read (depth : Nat) (t : Text) : Except Error Value :=
  match document depth t with
  | .ok v => .ok v
  | .error (.fault f rest) => .error (.malformed f (placeBefore t rest.length))
  | .error (.integer e) => .error (.integer e)
  | .error (.tooDeep c) => .error (.tooDeep c)

def Fault.text : Fault → Text
  | .byteOrderMark => "Unexpected UTF-8 BOM (decode using utf-8-sig)"
  | .expectingValue => "Expecting value"
  | .expectingName => "Expecting property name enclosed in double quotes"
  | .expectingColon => "Expecting ':' delimiter"
  | .expectingComma => "Expecting ',' delimiter"
  | .unterminated => "Unterminated string starting at"
  | .controlCharacter => "Invalid control character at"
  | .badEscape => "Invalid \\escape"
  | .badUnicode => "Invalid \\uXXXX escape"
  | .extraData => "Extra data"

def Container.text : Container → Text
  | .array => "array"
  | .object => "object"

def tooDeepMessage (c : Container) : Text :=
  .concat ["maximum recursion depth exceeded while decoding a JSON ", c.text,
    " from a unicode string"]

def Place.text (p : Place) : Text :=
  .concat ["line ", .ofNat p.line, " column ", .ofNat p.column, " (char ", .ofNat p.offset, ")"]

end ParseRepair.Json
