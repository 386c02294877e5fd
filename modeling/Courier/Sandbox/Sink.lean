import Courier.Transfer.Reader

/-! Sinks in memory for what a reader gives. -/
namespace Courier.Sandbox

/-- Bytes in memory, which may refuse to grow beyond a limit, or to be flushed. What fits of a write
is taken even if the rest is refused. -/
def bufferSink (limit : Option Nat) (failsFlush : Bool) : Reader.Sink Bytes where
  write held more :=
    match limit with
    | some limit =>
      let room := limit - held.size
      if more.size ≤ room then return (.ok (), held ++ more)
      else return (.error (.reported "sink full"), held ++ more.extract 0 room)
    | none => return (.ok (), held ++ more)
  flush held :=
    if failsFlush then return (.error (.reported "flush failed"), held) else return (.ok (), held)

end Courier.Sandbox
