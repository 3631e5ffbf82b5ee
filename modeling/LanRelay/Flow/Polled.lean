/-
Operations that may have to wait.
-/
namespace LanRelay

/-- What trying an operation comes to that may have to wait. -/
inductive Polled (α : Type) where
  | ready (value : α)
  | pending
  | closed
deriving DecidableEq, Repr

/-- Change the value that is ready. -/
def Polled.map {α β : Type} (f : α → β) : Polled α → Polled β
  | ready value => ready (f value)
  | pending => pending
  | closed => closed

end LanRelay
