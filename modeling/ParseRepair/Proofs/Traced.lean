import ParseRepair.Traced

namespace ParseRepair.Traced

variable {ω ω' ε ε' α β : Type}

@[simp] theorem outcome_pure (a : α) : (pure a : Traced ω ε α).outcome = .ok a := rfl

@[simp] theorem outcome_emit (event : ω) : (emit event : Traced ω ε Unit).outcome = .ok () := rfl

@[simp] theorem outcome_emitAll (events : List ω) : (emitAll events : Traced ω ε Unit).outcome = .ok () := rfl

@[simp] theorem outcome_ofExcept (x : Except ε α) : (ofExcept x : Traced ω ε α).outcome = x := rfl

@[simp] theorem outcome_mapError (f : ε → ε') (x : Traced ω ε α) :
    (x.mapError f).outcome = x.outcome.mapError f := rfl

@[simp] theorem outcome_mapTrace (f : ω → ω') (x : Traced ω ε α) : (x.mapTrace f).outcome = x.outcome := rfl

section Bind

variable {x : Traced ω ε α} {f : α → Traced ω ε β}

theorem bind_of_error {e : ε} (failed : x.outcome = .error e) : x >>= f = ⟨x.trace, .error e⟩ := by
  show bind x f = _
  rw [bind, failed]

theorem bind_of_ok {a : α} (done : x.outcome = .ok a) :
    x >>= f = ⟨x.trace ++ (f a).trace, (f a).outcome⟩ := by
  show bind x f = _
  rw [bind, done]

theorem ofExcept_ok_bind (a : α) : (ofExcept (.ok a) : Traced ω ε α) >>= f = f a := by
  rw [bind_of_ok (outcome_ofExcept _)]
  rfl

theorem pure_bind (a : α) : (pure a : Traced ω ε α) >>= f = f a := ofExcept_ok_bind a

theorem outcome_bind_of_ok {a : α} (done : x.outcome = .ok a) : (x >>= f).outcome = (f a).outcome := by
  rw [bind_of_ok done]

theorem bind_eq_ok_iff {b : β} :
    (x >>= f).outcome = .ok b ↔ ∃ a, x.outcome = .ok a ∧ (f a).outcome = .ok b := by
  cases done : x.outcome with
  | error e => simp [bind_of_error done]
  | ok a => simp [bind_of_ok done]

theorem bind_eq_error_iff {e : ε} :
    (x >>= f).outcome = .error e ↔ x.outcome = .error e ∨ ∃ a, x.outcome = .ok a ∧ (f a).outcome = .error e := by
  cases done : x.outcome with
  | error e => simp [bind_of_error done]
  | ok a => simp [bind_of_ok done]

theorem bind_eq_error_iff_of_done {e : ε} (done : ∀ a, ∃ b, (f a).outcome = .ok b) :
    (x >>= f).outcome = .error e ↔ x.outcome = .error e := by
  rw [bind_eq_error_iff]
  refine or_iff_left ?_
  rintro ⟨a, _, failed⟩
  obtain ⟨b, same⟩ := done a
  rw [same] at failed
  cases failed

end Bind

theorem forEach_eq {f : α → Traced ω ε β} {g : α → β} (each : ∀ a, (f a).outcome = .ok (g a)) (as : List α) :
    forEach f as = ⟨as.flatMap fun a => (f a).trace, .ok (as.map g)⟩ := by
  induction as with
  | nil => rfl
  | cons a as ih =>
    rw [forEach, bind_of_ok (each a), ih]
    show Traced.mk ((f a).trace ++ (as.flatMap (fun a => (f a).trace) ++ [])) _ = _
    rw [List.append_nil, List.flatMap_cons]
    rfl

end ParseRepair.Traced

namespace ParseRepair

theorem mapError_eq_ok_iff {ε ε' α : Type} {f : ε → ε'} {x : Except ε α} {a : α} :
    x.mapError f = .ok a ↔ x = .ok a := by
  cases x with
  | error e =>
    constructor
    · intro same
      cases same
    · intro same
      cases same
  | ok b =>
    constructor
    · intro same
      cases same
      rfl
    · intro same
      cases same
      rfl

theorem mapError_eq_error_iff {ε ε' α : Type} {f : ε → ε'} {x : Except ε α} {e : ε'} :
    x.mapError f = .error e ↔ ∃ cause, x = .error cause ∧ f cause = e := by
  cases x with
  | error cause =>
    constructor
    · intro same
      cases same
      exact ⟨cause, rfl, rfl⟩
    · rintro ⟨_, ⟨⟩, rfl⟩
      rfl
  | ok a =>
    constructor
    · intro same
      cases same
    · rintro ⟨_, ⟨⟩, _⟩

theorem except_bind_eq_ok_iff {ε α β : Type} {x : Except ε α} {f : α → Except ε β} {b : β} :
    (x >>= f) = .ok b ↔ ∃ a, x = .ok a ∧ f a = .ok b := by
  cases x with
  | error e =>
    constructor
    · intro same
      cases same
    · rintro ⟨_, ⟨⟩, _⟩
  | ok a =>
    constructor
    · exact fun done => ⟨a, rfl, done⟩
    · rintro ⟨_, ⟨⟩, done⟩
      exact done

theorem except_bind_eq_error_iff {ε α β : Type} {x : Except ε α} {f : α → Except ε β} {e : ε} :
    (x >>= f) = .error e ↔ x = .error e ∨ ∃ a, x = .ok a ∧ f a = .error e := by
  cases x with
  | error cause =>
    constructor
    · intro failed
      cases failed
      exact .inl rfl
    · rintro (same | ⟨_, ⟨⟩, _⟩)
      cases same
      rfl
  | ok a =>
    constructor
    · exact fun failed => .inr ⟨a, rfl, failed⟩
    · rintro (same | ⟨_, ⟨⟩, failed⟩)
      · cases same
      · exact failed

end ParseRepair
