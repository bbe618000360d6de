/-!
# Signal queues

A queue carries signals from any number of senders to one receiver.  It holds a fixed number of
signals; a signal sent to a full queue, or after the receiver is gone, is refused.
-/

namespace SidecarAgent.Refresh

/-- A bounded queue of signals, the oldest first. -/
structure Queue where
  capacity : Nat
  signals : List String := []
  senders : Nat := 1
  receiving : Bool := true
  deriving DecidableEq, Repr

/-- What a receiver finds: a signal, nothing yet, or that nothing will ever come. -/
inductive Reception where
  | signal (key : String)
  | nothing
  | finished
  deriving DecidableEq, Repr

namespace Queue

/-- An empty queue.  It has room for one signal at least. -/
def make (capacity : Nat) : Queue := { capacity := max capacity 1 }

/-- Sends a signal, and says whether it was accepted. -/
def send (q : Queue) (key : String) : Queue × Bool :=
  if q.receiving && q.signals.length < q.capacity then
    ({ q with signals := q.signals ++ [key] }, true)
  else (q, false)

/-- What the receiver finds at the head of the queue. -/
def reception (q : Queue) : Reception :=
  match q.signals with
  | key :: _ => .signal key
  | [] => if q.senders = 0 then .finished else .nothing

/-- Takes the oldest signal out of the queue, if there is one. -/
def receive? (q : Queue) : Option (String × Queue) :=
  match q.signals with
  | key :: rest => some (key, { q with signals := rest })
  | [] => none

section Receive

variable {q : Queue} {key : String} {rest : List String}

/-- The oldest of queued signals is taken out. -/
theorem receive?_of_queued (h : q.signals = key :: rest) :
    q.receive? = some (key, { q with signals := rest }) := by
  unfold receive?
  rw [h]

/-- Nothing is taken out of an empty queue. -/
theorem receive?_of_empty (h : q.signals = []) : q.receive? = none := by
  unfold receive?
  rw [h]

end Receive

/-- Discards every signal. -/
def drain (q : Queue) : Queue := { q with signals := [] }

/-- One more sender. -/
def addSender (q : Queue) : Queue := { q with senders := q.senders + 1 }

/-- One sender less. -/
def dropSender (q : Queue) : Queue := { q with senders := q.senders - 1 }

/-- The receiver goes away, and what is queued with it. -/
def dropReceiver (q : Queue) : Queue := { q with receiving := false, signals := [] }

end Queue

end SidecarAgent.Refresh
