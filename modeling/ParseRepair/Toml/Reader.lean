import ParseRepair.Toml.Moment
import ParseRepair.Toml.Scalar
import ParseRepair.Toml.Table

namespace ParseRepair.Toml

inductive Stop
  | unexpected (rest : Text)
  | invalid
  | refused (r : Refusal)
  deriving DecidableEq, Repr

def isSpace (c : Char) : Bool := c == ' ' || c == '\t'

def isSpaceOrBreak (c : Char) : Bool := isSpace c || c == '\n' || c == '\r'

def skipSpaces (t : Text) : Text := t.dropWhile isSpace

def isBareKeyChar (c : Char) : Bool :=
  ('a' ≤ c && c ≤ 'z') || ('A' ≤ c && c ≤ 'Z') || Text.isAsciiDigit c || c == '-' || c == '_'

def isControl (c : Char) : Bool := c.toNat == 0x7F || (c.toNat ≤ 0x1F && c != '\t')

def shortEscape? : Char → Option Char
  | 'b' => some '\x08'
  | 't' => some '\t'
  | 'n' => some '\n'
  | 'f' => some '\x0c'
  | 'r' => some '\r'
  | '"' => some '"'
  | '\\' => some '\\'
  | _ => none

def beginsSurrogate : Text → Bool
  | d :: c :: _ => (d == 'd' || d == 'D') && !('0' ≤ c && c ≤ '7')
  | _ => false

def unicodeEscape (width : Nat) (t : Text) : Except Stop (Text × Text) :=
  let ds := t.take width
  if ds.length < width || beginsSurrogate ds then .error .invalid
  else match Text.integer? 16 ds with
    | some (.ofNat n) => if n.isValidChar then .ok ([Char.ofNat n], t.drop width) else .error .invalid
    | _ => .error .invalid

def escape (multiline : Bool) (t : Text) : Except Stop (Text × Text) :=
  match t with
  | [] => .error .invalid
  | c :: r =>
    if multiline && isSpaceOrBreak c then
      if '\n' ∈ t.takeWhile isSpaceOrBreak then .ok ([], t.dropWhile isSpaceOrBreak)
      else .error .invalid
    else match shortEscape? c with
      | some e => .ok ([e], r)
      | none =>
        if c == 'u' then unicodeEscape 4 r
        else if c == 'U' then unicodeEscape 8 r
        else .error .invalid

/-- The inside of a string up to its closing quotes. One or two quotes in a string of several lines
are text, also in front of the closing ones. -/
def inside (quote : Char) (multiline : Bool) : Nat → Text → Except Stop (Text × Text)
  | 0, _ => .error .invalid
  | _ + 1, [] => .error .invalid
  | fuel + 1, c :: r =>
    if isControl c && !(multiline && (c == '\n' || c == '\r')) then .error .invalid
    else if c == quote then
      if !multiline then .ok ([], r)
      else
        let quotes := (c :: r).takeWhile (· == quote)
        let rest := (c :: r).dropWhile (· == quote)
        if quotes.length < 3 then do
          let (s, rest) ← inside quote multiline fuel rest
          .ok (quotes ++ s, rest)
        else if 6 ≤ quotes.length then .error .invalid
        else .ok (quotes.drop 3, rest)
    else if c == '\\' && quote == '"' then do
      let (e, r) ← escape multiline r
      let (s, rest) ← inside quote multiline fuel r
      .ok (e ++ s, rest)
    else do
      let (s, rest) ← inside quote multiline fuel r
      .ok (c :: s, rest)

def string (quote : Char) (t : Text) : Except Stop (Bool × Text × Text) :=
  let fuel := t.length + 1
  match Text.stripStart? [quote, quote] t with
  | some r => do
    let r := match r with
      | '\n' :: r => r
      | r => r
    let (s, rest) ← inside quote true fuel r
    .ok (true, s, rest)
  | none =>
    do
      let (s, rest) ← inside quote false fuel t
      .ok (false, s, rest)

def quotedName (quote : Char) (t : Text) : Except Stop (Text × Text) := do
  let (multiline, name, rest) ← string quote t
  if multiline then .error (.unexpected rest) else .ok (name, skipSpaces rest)

def bareName (t : Text) : Except Stop (Text × Text) :=
  let (raw, rest) := t.span fun c => isBareKeyChar c || isSpace c
  let name := Text.trim raw
  if name.isEmpty || ' ' ∈ name then .error .invalid else .ok (name, rest)

def keyName (t : Text) : Except Stop (Text × Text) :=
  match skipSpaces t with
  | '"' :: r => quotedName '"' r
  | '\'' :: r => quotedName '\'' r
  | r => bareName r

def key : Nat → Text → Except Stop (Key × Text)
  | 0, _ => .error (.refused .tooDeep)
  | fuel + 1, t => do
    let (name, r) ← keyName t
    match r with
    | '.' :: r => do
      let (names, rest) ← key fuel r
      .ok (name :: names, rest)
    | _ => .ok ([name], r)

def equals (t : Text) : Except Stop Text :=
  match skipSpaces t with
  | '=' :: r =>
    match skipSpaces r with
    | '=' :: r => .error (.unexpected ('=' :: r))
    | r => .ok r
  | r => .error (.unexpected r)

def comment (t : Text) : Except Stop Text :=
  let (inside, rest) := t.span (· != '\n')
  if inside.any isControl then .error .invalid else .ok rest

def lineEnd (t : Text) : Except Stop Text :=
  match skipSpaces t with
  | [] => .ok []
  | '\n' :: r => .ok r
  | '#' :: r => do
    match ← comment r with
    | '\n' :: r => .ok r
    | r => .ok r
  | r => .error (.unexpected r)

def endsScalar (c : Char) : Bool :=
  isSpaceOrBreak c || c == '#' || c == ',' || c == ']' || c == '\x7d'

def numberAt (t : Text) : Except Stop (Value × Text) :=
  let (raw, rest) := t.span (!endsScalar ·)
  match number? raw with
  | some v => .ok (v, rest)
  | none => .error .invalid

def momentAt (t : Text) : Except Stop Moment :=
  match moment? t with
  | none => .error .invalid
  | some m =>
    let year := (m.date?.map (·.year)).getD 0
    if shortYear < year then .error (.refused (.yearTooLarge year))
    else if m.valid then .ok m
    else .error .invalid

def dateAt (raw rest : Text) : Except Stop (Value × Text) := do
  let (more, rest) := rest.span fun c => c == ' ' || !endsScalar c
  let m ← momentAt (raw ++ Text.trimRight more)
  .ok (.moment m.text, rest)

def scalarAt (t : Text) : Except Stop (Value × Text) :=
  let (raw, rest) := t.span (!endsScalar ·)
  if looksLikeMoment raw then do
    match ← momentAt raw with
    | .date _ => dateAt raw rest
    | m => .ok (.moment m.text, rest)
  else numberAt t

def word (t : Text) (spelling : Text) (v : Value) : Except Stop (Value × Text) :=
  match Text.stripStart? spelling t with
  | some rest => .ok (v, rest)
  | none => .error (.unexpected t)

def isNonFinite (t : Text) : Bool :=
  let raw := t.takeWhile (!endsScalar ·)
  raw == "inf".toList || raw == "nan".toList

variable (limits : Limits)

mutual

/-- Reads one value, for which there is some room in the values around it. `fuel` bounds the number of
steps, of which each character needs at most two: one for a bracket or a comma, one for the value
behind it. -/
def value : Nat → Nat → Text → Except Stop (Value × Text)
  | 0, _, _ => .error .invalid
  | _ + 1, _, [] => .error (.unexpected [])
  | fuel + 1, room, c :: r =>
    if c == '"' || c == '\'' then do
      let (_, s, rest) ← string c r
      .ok (.text s, rest)
    else if c == 't' then word (c :: r) "true" (.bool true)
    else if c == 'f' then word (c :: r) "false" (.bool false)
    else if c == '[' then
      if room < limits.perArray then .error (.refused .tooDeep)
      else do
        let (vs, rest) ← elements fuel (room - limits.perArray) r
        .ok (.list vs, rest)
    else if c == '\x7b' then
      if room < limits.perTable then .error (.refused .tooDeep)
      else match skipSpaces r with
      | '\x7d' :: r => .ok (.object [], r)
      | ',' :: r => .error (.unexpected (',' :: r))
      | r => do
        let (body, rest) ← members fuel (room - limits.perTable) [] r
        .ok (← (body.value limits).mapError .refused, rest)
    else if c == '+' || c == '-' || isNonFinite (c :: r) then numberAt (c :: r)
    else if Text.isAsciiDigit c then scalarAt (c :: r)
    else .error (.unexpected (c :: r))

/-- The elements of an array where the next one may stand. An element that breaks off at a closing
bracket is none: the bracket closes the array. -/
def elements : Nat → Nat → Text → Except Stop (List Value × Text)
  | 0, _, _ => .error .invalid
  | fuel + 1, room, t =>
    match t.dropWhile isSpaceOrBreak with
    | '#' :: r => do elements fuel room (← comment r)
    | r =>
      match value fuel room r with
      | .ok (v, rest) => do
        let (vs, rest) ← furtherElements fuel room rest
        .ok (v :: vs, rest)
      | .error (.unexpected (']' :: rest)) => .ok ([], rest)
      | .error stop => .error stop

def furtherElements : Nat → Nat → Text → Except Stop (List Value × Text)
  | 0, _, _ => .error .invalid
  | fuel + 1, room, t =>
    match t.dropWhile isSpaceOrBreak with
    | '#' :: r => do furtherElements fuel room (← comment r)
    | ',' :: r => elements fuel room r
    | ']' :: r => .ok ([], r)
    | r => .error (.unexpected r)

def members : Nat → Nat → Body → Text → Except Stop (Body × Text)
  | 0, _, _, _ => .error .invalid
  | fuel + 1, room, body, t => do
    let ((key, v), r) ← assignment fuel room t
    let body ← (body.assign limits key v).mapError .refused
    match skipSpaces r with
    | '\x7d' :: r => .ok (body, r)
    | ',' :: r =>
      match skipSpaces r with
      | '\x7d' :: r => .error (.unexpected ('\x7d' :: r))
      | ',' :: r => .error (.unexpected (',' :: r))
      | r => members fuel room body r
    | r => .error (.unexpected r)

def assignment : Nat → Nat → Text → Except Stop ((Key × Value) × Text)
  | 0, _, _ => .error .invalid
  | fuel + 1, room, t => do
    let (key, r) ← key limits.keyNames t
    let (v, rest) ← value fuel room (← equals r)
    .ok ((key, v), rest)

end

structure Header where
  indented : Bool
  array : Bool
  key : Key
  closed : Bool := true
  deriving DecidableEq, Repr

inductive Statement
  | assign (key : Key) (value : Value)
  | header (h : Header)
  | broken (stop : Stop)

/-- The brackets behind the names of a header. The second one of an array is not looked at. -/
def brackets (array : Bool) (t : Text) : Except Stop Text :=
  match t with
  | ']' :: r => lineEnd (if array then r.drop 1 else r)
  | r => .error (.unexpected r)

def header (indented : Bool) (t : Text) : Except Stop (Header × Option Text) := do
  let (array, t) := match t with
    | '[' :: r => (true, r)
    | r => (false, r)
  let (key, r) ← key limits.keyNames t
  match brackets array r with
  | .ok rest => .ok (⟨indented, array, key, true⟩, some rest)
  | .error _ => .ok (⟨indented, array, key, false⟩, none)

def assignmentLine (t : Text) : Except Stop (Statement × Text) := do
  let ((key, v), rest) ← assignment limits (2 * t.length + 3) limits.values t
  .ok (.assign key v, ← lineEnd rest)

def statements : Nat → Text → List Statement
  | 0, _ => [.broken .invalid]
  | fuel + 1, t =>
    match skipSpaces t with
    | [] => []
    | '\n' :: r => statements fuel r
    | '#' :: r =>
      match lineEnd ('#' :: r) with
      | .ok rest => statements fuel rest
      | .error stop => [.broken stop]
    | '[' :: r =>
      match header limits (' ' ∈ t.takeWhile isSpace) r with
      | .ok (h, some rest) => .header h :: statements fuel rest
      | .ok (h, none) => [.header h]
      | .error stop => [.broken stop]
    | r =>
      match assignmentLine limits r with
      | .ok (s, rest) => s :: statements fuel rest
      | .error stop => [.broken stop]

end ParseRepair.Toml
