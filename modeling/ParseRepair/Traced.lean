namespace ParseRepair

/-- A computation with the events it caused, in order, and how it ended. Events before a failure are
kept. -/
structure Traced (ω ε α : Type) where
  trace : List ω
  outcome : Except ε α

namespace Traced

variable {ω ω' ε ε' α β : Type}

def bind (x : Traced ω ε α) (f : α → Traced ω ε β) : Traced ω ε β :=
  match x.outcome with
  | .error e => ⟨x.trace, .error e⟩
  | .ok a => ⟨x.trace ++ (f a).trace, (f a).outcome⟩

instance : Monad (Traced ω ε) where
  pure a := ⟨[], .ok a⟩
  bind := bind

def emit (event : ω) : Traced ω ε Unit := ⟨[event], .ok ()⟩

def emitAll (events : List ω) : Traced ω ε Unit := ⟨events, .ok ()⟩

def fail (e : ε) : Traced ω ε α := ⟨[], .error e⟩

def ofExcept (x : Except ε α) : Traced ω ε α := ⟨[], x⟩

def mapError (f : ε → ε') (x : Traced ω ε α) : Traced ω ε' α := ⟨x.trace, x.outcome.mapError f⟩

def mapTrace (f : ω → ω') (x : Traced ω ε α) : Traced ω' ε α := ⟨x.trace.map f, x.outcome⟩

def forEach (f : α → Traced ω ε β) : List α → Traced ω ε (List β)
  | [] => pure []
  | a :: r => do
    let b ← f a
    let bs ← forEach f r
    pure (b :: bs)

end Traced

end ParseRepair
