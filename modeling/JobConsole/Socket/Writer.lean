import JobConsole.Socket.Connection

/-!
# The writer

The writer of a connection takes what the session queued, one by one, and puts it on the socket. It
runs beside the session: between two of its steps the session may queue any number of frames.

It ends behind a close, on a failed write, and, with a close of its own, when the session let go of
the queue and nothing is left in it.
-/

namespace JobConsole

structure Writer where
  /-- What was put on the socket. -/
  written : List Outgoing
  ended : Bool
  deriving DecidableEq, Repr

namespace Writer

def start : Writer := ⟨[], false⟩

/-- The queue when the writer has ended: what is left in it is lost. -/
def abandon (sink : ChannelSink) : ChannelSink := { sink with queue := [], drained := false }

/-- One step of the writer of a queue; `works` tells whether the write succeeds. -/
def step (works : Bool) (sink : ChannelSink) (w : Writer) : ChannelSink × Writer :=
  if w.ended then (sink, w)
  else
    match sink.queue with
    | [] =>
      if sink.held then (sink, w)
      else (abandon sink, ⟨if works then w.written ++ [.close] else w.written, true⟩)
    | .text payload :: rest =>
      if works then ({ sink with queue := rest }, ⟨w.written ++ [.text payload], false⟩)
      else (abandon sink, ⟨w.written, true⟩)
    | .close :: _ =>
      (abandon sink, ⟨if works then w.written ++ [.close] else w.written, true⟩)

end Writer

end JobConsole
