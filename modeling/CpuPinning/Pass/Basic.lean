import CpuPinning.Pass.Match

/-!
# Passes

A pass over the processes asks the system questions and goes on as they are answered.  It is
kept as a tree: a question with what follows each possible answer, or the end with a result.
What a pass does is thus fixed for all systems at once, also for those that change while it
goes on.
-/

namespace CpuPinning

/-- What a pass asks of the system. -/
inductive Query where
  | processes
  /-- The descendants of a process. -/
  | children (pid : Nat)
  /-- The threads of a process. -/
  | threads (pid : Nat)
  /-- To restrict a process or thread to a mask. -/
  | setAffinity (id : Nat) (mask : CpuMask)
  /-- To tell of a match before it is applied. -/
  | announce (m : Match)

/-- What can be answered to a query. -/
abbrev Query.Answer : Query → Type
  | processes => Except TaskError (List ProcessInfo)
  | children _ => Except TaskError (List Nat)
  | threads _ => Except TaskError (List ThreadInfo)
  | setAffinity .. => Except TaskError Unit
  | announce _ => Unit

/-- A query and its answer. -/
structure Event where
  query : Query
  answer : query.Answer

/-- Questions to the system and a result. -/
inductive Pass (α : Type) where
  | done (result : Except PinError α)
  | ask (q : Query) (next : q.Answer → Pass α)

namespace Pass

def fail (e : PinError) : Pass α := done (.error e)

/-- Goes on with a second pass where the first one ends with a value. -/
def bind : Pass α → (α → Pass β) → Pass β
  | done (.ok a), f => f a
  | done (.error e), _ => done (.error e)
  | ask q next, f => ask q fun a => bind (next a) f

instance : Monad Pass where
  pure a := done (.ok a)
  bind := bind

end Pass

/-- A system that answers queries; each answer may change its state. -/
structure Table (σ : Type) where
  answer : σ → (q : Query) → q.Answer × σ

/-- How a pass went: its result, what was asked and answered, and the state it left. -/
structure Execution (σ α : Type) where
  result : Except PinError α
  events : List Event
  state : σ

/-- Carries a pass out on a system. -/
def Pass.exec (t : Table σ) : Pass α → σ → Execution σ α
  | done result, s => ⟨result, [], s⟩
  | ask q next, s =>
      let (a, s) := t.answer s q
      let rest := exec t (next a) s
      { rest with events := ⟨q, a⟩ :: rest.events }

end CpuPinning
