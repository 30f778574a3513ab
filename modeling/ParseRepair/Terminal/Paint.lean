import ParseRepair.Text.Search

namespace ParseRepair.Terminal

def select (code : Nat) : Text := '\x1b' :: '[' :: Text.ofNat code ++ ['m']

structure Rendition where
  on : Nat
  off : Nat
  deriving DecidableEq, Repr

namespace Rendition

def bold : Rendition := ⟨1, 22⟩
def dim : Rendition := ⟨2, 22⟩
def red : Rendition := ⟨31, 39⟩
def green : Rendition := ⟨32, 39⟩
def yellow : Rendition := ⟨33, 39⟩
def blue : Rendition := ⟨34, 39⟩
def cyan : Rendition := ⟨36, 39⟩
def white : Rendition := ⟨37, 39⟩
def gray : Rendition := ⟨90, 39⟩
def brightRed : Rendition := ⟨91, 39⟩

end Rendition

abbrev Paint := List Rendition

namespace Paint

def start (p : Paint) : Text := p.flatMap fun r => select r.on

def stop (p : Paint) : Text := p.flatMap fun r => select r.off

def resume (p : Paint) (t : Text) : Text :=
  p.foldl (fun t r => Text.replaceAll (select r.off) (select r.off ++ select r.on) t) t

/-- How far a part of a line reaches that begins and ends with a reset of all renditions. -/
def resetPart? (t : Text) : Option Nat := do
  let r ← Text.stripStart? (select 0) t
  let inner ← Text.find? (select 0) (r.takeWhile (· != '\n'))
  some (inner + 2 * (select 0).length)

def lineBreak? : Text → Option Nat
  | '\r' :: '\n' :: _ => some 2
  | '\n' :: _ => some 1
  | _ => none

def interrupt (p : Paint) (size : Text → Option Nat) (t : Text) : Text :=
  Text.replaceMatches size (fun part => p.stop ++ part ++ p.start) t

/-- Paints a text: not across its line breaks and not over its own resets. -/
def apply (p : Paint) (t : Text) : Text :=
  p.start ++ p.interrupt lineBreak? (p.interrupt resetPart? (p.resume t)) ++ p.stop

end Paint

def isParameter (c : Char) : Bool := c == ';' || c == '?' || ('0' ≤ c && c ≤ '9')

def isLetter (c : Char) : Bool := ('a' ≤ c && c ≤ 'z') || ('A' ≤ c && c ≤ 'Z')

def sequence? : Text → Option Nat
  | '\x1b' :: '[' :: r =>
    let parameters := r.takeWhile isParameter
    match r.drop parameters.length with
    | c :: _ => if isLetter c then some (parameters.length + 3) else none
    | [] => none
  | _ => none

def strip (t : Text) : Text := Text.replaceMatches sequence? (fun _ => []) t

end ParseRepair.Terminal
