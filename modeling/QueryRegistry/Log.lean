/-! What a run notes down while it works. Notes come in the order in which they were made, and
what was noted before a failure stays. -/

namespace QueryRegistry

inductive Event where
  | redefined (name : String)
  | indexed (count : Nat)
  | identified (name digest : String)
  | replaced (key : String)
  deriving DecidableEq, Repr

namespace Event

def origin : Event → String
  | redefined _ => "persisted_query_ids._pipeline.fragments"
  | indexed _ => "persisted_query_ids._pipeline.fragments"
  | identified _ _ => "persisted_query_ids._pipeline.generate"
  | replaced _ => "persisted_query_ids._pipeline.generate"

def text : Event → String
  | redefined name =>
    "Fragment " ++ name ++ " is defined more than once, using the last definition"
  | indexed count => "Indexed " ++ toString count ++ " fragments"
  | identified name digest => "Operation " ++ name ++ " has id " ++ digest
  | replaced key => "Replacing an earlier entry for " ++ key

end Event

/-- A value and the notes made on the way to it. -/
structure Logged (α : Type) where
  log : List Event := []
  value : α
  deriving Repr

namespace Logged

variable {α β γ : Type}

instance : Monad Logged where
  pure a := ⟨[], a⟩
  bind a f := ⟨a.log ++ (f a.value).log, (f a.value).value⟩

def record (event : Event) : Logged Unit := ⟨[event], ()⟩

@[simp]
theorem log_pure (a : α) : (pure a : Logged α).log = [] := rfl

@[simp]
theorem value_pure (a : α) : (pure a : Logged α).value = a := rfl

@[simp]
theorem log_bind (a : Logged α) (f : α → Logged β) :
    (a >>= f).log = a.log ++ (f a.value).log := rfl

@[simp]
theorem value_bind (a : Logged α) (f : α → Logged β) : (a >>= f).value = (f a.value).value := rfl

instance : LawfulMonad Logged :=
  LawfulMonad.mk' _ (fun _ => by simp [Functor.map]) (fun _ _ => by simp [bind, pure])
    (fun _ _ _ => by simp [bind, List.append_assoc])

end Logged

/-- A run that notes down what it does and may fail. -/
abbrev Run (ε : Type) := ExceptT ε Logged

namespace Run

variable {ε α β : Type}

def record (event : Event) : Run ε Unit := ExceptT.lift (Logged.record event)

def ofExcept (result : Except ε α) : Run ε α := ExceptT.mk (pure result)

def log (run : Run ε α) : List Event := (ExceptT.run run).log

def result (run : Run ε α) : Except ε α := (ExceptT.run run).value

@[simp]
theorem result_ofExcept (result : Except ε α) : (ofExcept result).result = result := rfl

@[simp]
theorem log_ofExcept (result : Except ε α) : (ofExcept result).log = [] := rfl

@[simp]
theorem result_record (event : Event) : (record event : Run ε Unit).result = .ok () := rfl

@[simp]
theorem log_record (event : Event) : (record event : Run ε Unit).log = [event] := rfl

@[simp]
theorem result_lift (logged : Logged α) :
    Run.result (ExceptT.lift logged : Run ε α) = .ok logged.value := rfl

@[simp]
theorem log_lift (logged : Logged α) : Run.log (ExceptT.lift logged : Run ε α) = logged.log :=
  List.append_nil _

theorem result_bind (run : Run ε α) (f : α → Run ε β) :
    (run >>= f).result = run.result >>= fun a => (f a).result := by
  obtain ⟨notes, outcome⟩ := run
  cases outcome <;> rfl

theorem log_bind_of_ok {run : Run ε α} {a : α} (h : run.result = .ok a) (f : α → Run ε β) :
    (run >>= f).log = run.log ++ (f a).log := by
  obtain ⟨notes, outcome⟩ := run
  obtain rfl : outcome = .ok a := h
  rfl

end Run

end QueryRegistry
