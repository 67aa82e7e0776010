/-!
# Queues for a turn

Those who want a turn take a ticket and stand in a queue in the order of their coming. The first of
them have the turn, as many as there are turns at a time, and keep it until they leave. So when one
leaves, the next in the queue has the turn at once, and nobody who comes later can be before it.

* `TurnQueue.enter` and `TurnQueue.leave` are the ways in and out.
* `TurnQueue.isAmongFirst` says who has a turn.
-/

namespace HardwareWatch

/-- Those who want a turn, in the order of their coming. -/
structure TurnQueue where
  /-- The ticket that is given out next. -/
  nextTicket : Nat
  tickets : List Nat
  deriving DecidableEq, Repr

namespace TurnQueue

/-- Nobody wants a turn. -/
def empty : TurnQueue := ⟨0, []⟩

instance : Inhabited TurnQueue := ⟨empty⟩

/-- Whether nobody wants a turn. -/
def isFree (q : TurnQueue) : Bool := q.tickets.isEmpty

/-- Whether the ticket has one of a number of turns. -/
def isAmongFirst (count : Nat) (q : TurnQueue) (ticket : Nat) : Bool :=
  (q.tickets.take count).contains ticket

/-- Whether the ticket has the only turn. -/
def isFirst (q : TurnQueue) (ticket : Nat) : Bool := q.isAmongFirst 1 ticket

/-- Take a ticket, which stands last. -/
def enter (q : TurnQueue) : TurnQueue := ⟨q.nextTicket + 1, q.tickets ++ [q.nextTicket]⟩

/-- Give a ticket back. -/
def leave (q : TurnQueue) (ticket : Nat) : TurnQueue := ⟨q.nextTicket, q.tickets.erase ticket⟩

end TurnQueue

end HardwareWatch
