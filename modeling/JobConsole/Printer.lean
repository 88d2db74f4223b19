import JobConsole.Log

/-!
# The printer

The printer observes the log and writes each entry it receives as one line. It runs beside the event
loop, so any number of entries may be added between two of its steps.
-/

namespace JobConsole

structure Printer where
  observer : Observer
  written : List String
  deriving DecidableEq, Repr

namespace Printer

def start (log : Log) : Printer := ⟨log.observe, []⟩

/-- One delivery. Entries that were missed are passed over. -/
def step (p : Printer) (log : Log) : Printer :=
  match p.observer.receive log.feed with
  | (.item entry, observer) => ⟨observer, p.written ++ [entry.text]⟩
  | (_, observer) => ⟨observer, p.written⟩

def output (p : Printer) : String := String.join (p.written.map (· ++ "\n"))

end Printer

end JobConsole
