import ParseRepair.Text.Blank
import ParseRepair.Logging.Record

namespace ParseRepair.Recovery

open Logging

/-- Turns a line into a comment without moving the rest of it. A line that has no room for the two
slashes stays as it is. -/
def commentOut : Text → Text
  | _ :: _ :: r => '/' :: '/' :: r
  | t => t

def surplus (old new : Text) : Nat := new.length - old.length

/-- Brings an edited line back to the length it had: by blanks on its left if it became shorter and
is to be padded, without the surplus on its left if that is blank. -/
def fitLength (pad : Bool) (old new : Text) : Text :=
  if old.length < new.length then
    if (new.take (surplus old new)).all Text.isBlank then
      new.drop (surplus old new)
    else new
  else if pad then List.replicate (old.length - new.length) ' ' ++ new
  else new

def fitNotes (number : Int) (old new : Text) : List Record :=
  if old.length < new.length && !(new.take (surplus old new)).all Text.isBlank
  then [⟨.trace, .repairs, .concat ["Line ", .ofInt number,
    ": could not accommodate for inserted patch text: ",
    .ofInt ((old.length : Int) - new.length)]⟩]
  else []

end ParseRepair.Recovery
