namespace JobConsole

inductive ConnectionState
  | connecting
  | opened
  | closed
  deriving DecidableEq, Repr

namespace ConnectionState

def name : ConnectionState → String
  | .connecting => "connecting"
  | .opened => "open"
  | .closed => "closed"

/-- Whether a connection may go from the first state to the second. -/
def canBecome : ConnectionState → ConnectionState → Bool
  | .connecting, .opened => true
  | .connecting, .closed => true
  | .opened, .closed => true
  | _, _ => false

def isTerminal : ConnectionState → Bool
  | .closed => true
  | _ => false

theorem isTerminal_iff (s : ConnectionState) :
    s.isTerminal = true ↔ ∀ t, s.canBecome t = false := by
  constructor
  · intro h t
    cases s <;> first | contradiction | (cases t <;> rfl)
  · intro h
    cases s with
    | closed => rfl
    | connecting => exact absurd (h .closed) (by decide)
    | opened => exact absurd (h .closed) (by decide)

end ConnectionState

end JobConsole
