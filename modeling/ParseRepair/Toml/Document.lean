import ParseRepair.Toml.Reader

namespace ParseRepair.Toml

/-- Why a document has no value. What is refused at the top of a document makes it malformed, what
is refused further down is a fault of its own. -/
inductive Fault
  | malformed
  | refused (r : Refusal)
  deriving DecidableEq, Repr

def Stop.fault : Stop → Fault
  | .refused r => .refused r
  | _ => .malformed

def isBelow (upper lower : Key) : Bool :=
  upper.length < lower.length && lower.take upper.length == upper

def nested (indented : Bool) (node : Node) : List Text → Node
  | [] => node
  | name :: rest => .table (.parent indented) [(⟨name, false⟩, nested indented node rest)]

/-- The part that a header adds whose key goes on behind a name. The parent of an array is an element
if its name is the one of the array at the top that it lies in. -/
def partBelow (top : Option Text) (h : Header) (body : Body) (name next : Text)
    (rest : List Text) : Part :=
  let origin := if h.array && top == some name then .element else .parent false
  let node := if h.array then .tables [body] else .table .own body
  (⟨name, false⟩, .table origin [(⟨next, false⟩, nested h.indented node rest)])

def topName? : Key → Option Text
  | [name] => some name
  | _ => none

variable (limits : Limits)

mutual

/-- The part that a header adds to the table `depth` names above it, with the statements that belong
to it taken away. `top` is the name of the array at the top of the document, if the section lies in
another element of it than the first. -/
def sectionAt : Nat → Option Text → Nat → Header → List Statement →
    Except Fault (Part × List Statement)
  | 0, _, _, _, _ => .error .malformed
  | fuel + 1, top, depth, h, ss =>
    if !h.closed then .error .malformed
    else do
      let (body, ss) ← block fuel top h.key [] ss
      match h.key.drop depth with
      | [] => .error .malformed
      | [name] =>
        if h.array then do
          let (bodies, ss) ← furtherTables fuel (top.or (topName? h.key)) h.key ss
          .ok ((⟨name, false⟩, .tables (body :: bodies)), ss)
        else .ok ((⟨name, false⟩, .table .own body), ss)
      | name :: next :: rest => .ok (partBelow top h body name next rest, ss)

def block : Nat → Option Text → Key → Body → List Statement →
    Except Fault (Body × List Statement)
  | 0, _, _, _, _ => .error .malformed
  | fuel + 1, top, key, body, ss =>
    match ss with
    | .broken stop :: _ => .error stop.fault
    | .assign (name :: rest) v :: ss => do
      let body ← (body.extend limits true (partOf name v rest)).mapError .refused
      block fuel top key body ss
    | .assign [] _ :: ss => block fuel top key body ss
    | .header h :: rest =>
      if isBelow key h.key then do
        let (part, ss) ← sectionAt fuel top key.length h rest
        let body ← (body.extend limits false part).mapError .refused
        block fuel top key body ss
      else do
        (body.checkAll limits).mapError .refused
        .ok (body, ss)
    | [] => do
      (body.checkAll limits).mapError .refused
      .ok (body, [])

def furtherTables : Nat → Option Text → Key → List Statement →
    Except Fault (List Body × List Statement)
  | 0, _, _, _ => .error .malformed
  | fuel + 1, top, key, ss =>
    match ss with
    | .header h :: rest =>
      if h.array && h.key == key then
        if !h.closed then .error .malformed
        else do
          let (body, ss) ← block fuel top key [] rest
          let (bodies, ss) ← furtherTables fuel top key ss
          .ok (body :: bodies, ss)
      else .ok ([], ss)
    | _ => .ok ([], ss)

end

def topLevel : Nat → Body → List Statement → Except Fault Body
  | 0, _, _ => .error .malformed
  | _ + 1, body, [] => .ok body
  | _ + 1, _, .broken stop :: _ => .error stop.fault
  | fuel + 1, body, .assign key v :: ss => do
    let body ← (body.assign limits key v).mapError fun _ => .malformed
    topLevel fuel body ss
  | fuel + 1, body, .header h :: ss => do
    let (part, ss) ← sectionAt limits fuel none 0 h ss
    let body ← (body.add limits true part).mapError fun _ => .malformed
    topLevel fuel body ss

def read (t : Text) : Except Fault Value := do
  let ss := statements limits (t.length + 1) t
  let body ← topLevel limits (2 * ss.length + 2) [] ss
  (body.value limits).mapError .refused

end ParseRepair.Toml
