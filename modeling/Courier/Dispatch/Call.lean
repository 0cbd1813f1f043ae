import Courier.Dispatch.Send
import Courier.Transport.Basic

/-!
# Transport calls

A transport call hands a record to a transport and waits for it as long as there is time. What lies
outside the program is a `Network`: how the mail server and the provider behave, and what a draw
yields where chance decides.
-/

namespace Courier

/-- What transports find outside the program. -/
structure Network where
  mail : MailServer
  provider : Post → ProviderAnswer
  /-- A number from zero up to one. -/
  draw : Double

namespace Network

/-- A network on which nobody answers. -/
def silent : Network where
  mail := fun _ => some ⟨.connection, some "[Errno 111] Connection refused"⟩
  provider := fun _ => .lost ⟨.requestConnection, some "[Errno 111] Connection refused"⟩
  draw := .zero

end Network

/-- What a transport makes of a record, as an answer. -/
def Completion.ofReply (reply : Reply Delivery) : Completion × List Log.Entry :=
  match reply.answer with
  | .ok delivery => (.reported delivery, reply.log)
  | .error f => (.raised f, reply.log)

namespace Transport

/-- What comes of handing a record to a transport, and what is written to the log meanwhile. -/
def call (t : Transport) (network : Network) (timeout : Number) (r : Record) :
    Completion × List Log.Entry :=
  match t with
  | mail t =>
    let session := t.deliver network.mail r
    Completion.ofReply ⟨session.answer, session.log⟩
  | provider t => Completion.ofReply (t.deliver network.provider r)
  | log => Completion.ofReply (LogTransport.deliver r)
  | simulated t =>
    if t.isLate timeout then (.timedOut, []) else (.reported (t.deliver network.draw), [])

end Transport

namespace Dispatcher

/-- A whole send over a transport; `later` is the clock after the transport call. -/
def send (d : Dispatcher) (t : Transport) (network : Network) (q : Request) (s : Surroundings)
    (later : Except Failure Reading := s.clock) : Dispatcher × Ending × List Log.Entry :=
  match d.start q s with
  | (d, .ended ending, log) => (d, ending, log)
  | (d, .flying flight, log) =>
    let (completion, called) := t.call network d.timeout flight.record
    let (d, ending, finished) := d.finish flight completion later
    (d, ending, log ++ within (innerScope flight.record) called ++ finished)

end Dispatcher

end Courier
