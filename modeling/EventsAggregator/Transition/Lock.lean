import Mathlib.Data.List.Basic

namespace Asyncio

universe u

variable {ι : Type u}

inductive Future
  | pending
  | done
  | cancelled
  deriving DecidableEq, Repr

/-- `asyncio.Lock`: its waiters are served in turn. -/
structure Lock (ι : Type u) where
  locked : Bool
  waiters : List (ι × Future)

namespace Lock

def new : Lock ι := ⟨false, []⟩

def acquire (lock : Lock ι) : Option (Lock ι) :=
  if lock.locked = false ∧ ∀ waiter ∈ lock.waiters, waiter.2 = .cancelled then
    some { lock with locked := true }
  else none

def enqueue (lock : Lock ι) (i : ι) : Lock ι :=
  { lock with waiters := lock.waiters ++ [(i, .pending)] }

def wakeUpFirst (lock : Lock ι) : Lock ι :=
  match lock.waiters with
  | (i, .pending) :: rest => { lock with waiters := (i, .done) :: rest }
  | _ => lock

def release (lock : Lock ι) : Lock ι := wakeUpFirst { lock with locked := false }

variable [DecidableEq ι]

def dequeue (lock : Lock ι) (i : ι) : Lock ι :=
  { lock with waiters := lock.waiters.filter fun waiter => waiter.1 ≠ i }

def take (lock : Lock ι) (i : ι) : Lock ι := { lock.dequeue i with locked := true }

def giveUp (lock : Lock ι) (i : ι) : Lock ι :=
  if (lock.dequeue i).locked then lock.dequeue i else (lock.dequeue i).wakeUpFirst

end Lock

end Asyncio
