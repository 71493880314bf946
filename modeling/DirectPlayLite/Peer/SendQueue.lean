import DirectPlayLite.Packet.Serialiser

/-!
# Send queue

Packets waiting to be sent, in three lists by priority, and the one that is being
sent.  A `SendOp` carries the address `new` returned for it, so that two of them
are never the same.
-/

namespace DirectPlayLite

abbrev DPNHANDLE := UInt32

inductive SendPriority where
  | low
  | medium
  | high
deriving Repr, DecidableEq

/-- An IPv4 address in network byte order and a port in host byte order. -/
structure SockAddr where
  ip : UInt32
  port : UInt16
deriving Repr, DecidableEq

structure SendOp (Callback : Type) where
  addr : Nat
  data : List UInt8
  sentData : Nat
  destAddr : Option SockAddr
  asyncHandle : DPNHANDLE
  callback : Callback
deriving Repr, DecidableEq

structure SendQueue (Callback : Type) where
  lowQueue : List (SendOp Callback)
  mediumQueue : List (SendOp Callback)
  highQueue : List (SendOp Callback)
  current : Option (SendOp Callback)
deriving Repr, DecidableEq

namespace SendOp

variable {Callback : Type}

def getPendingData (op : SendOp Callback) : List UInt8 :=
  op.data.drop op.sentData

def incSentData (op : SendOp Callback) (sent : Nat) : SendOp Callback :=
  { op with sentData := op.sentData + sent }

end SendOp

namespace SendQueue

variable {Callback : Type}

def empty : SendQueue Callback :=
  { lowQueue := [], mediumQueue := [], highQueue := [], current := none }

def send (priority : SendPriority) (op : SendOp Callback)
    (sq : SendQueue Callback) : SendQueue Callback :=
  match priority with
  | .low => { sq with lowQueue := sq.lowQueue ++ [op] }
  | .medium => { sq with mediumQueue := sq.mediumQueue ++ [op] }
  | .high => { sq with highQueue := sq.highQueue ++ [op] }

def getPending (sq : SendQueue Callback) : SendQueue Callback :=
  match sq with
  | ⟨_, _, _, some _⟩ => sq
  | ⟨low, medium, op :: high, none⟩ => ⟨low, medium, high, some op⟩
  | ⟨low, op :: medium, [], none⟩ => ⟨low, medium, [], some op⟩
  | ⟨op :: low, [], [], none⟩ => ⟨low, [], [], some op⟩
  | ⟨[], [], [], none⟩ => sq

def popPending (sq : SendQueue Callback) : SendQueue Callback :=
  { sq with current := none }

def incSentData (sent : Nat) (sq : SendQueue Callback) : SendQueue Callback :=
  { sq with current := sq.current.map (·.incSentData sent) }

def takeFirst (test : SendOp Callback -> Bool) :
    List (SendOp Callback) -> Option (SendOp Callback × List (SendOp Callback))
  | [] => none
  | op :: rest =>
      if test op then some (op, rest)
      else (takeFirst test rest).map fun (found, others) => (found, op :: others)

def takeFrom (test : SendOp Callback -> Bool) (priority : SendPriority)
    (sq : SendQueue Callback) : Option (SendOp Callback × SendQueue Callback) :=
  match priority with
  | .low => (takeFirst test sq.lowQueue).map fun (op, rest) =>
      (op, { sq with lowQueue := rest })
  | .medium => (takeFirst test sq.mediumQueue).map fun (op, rest) =>
      (op, { sq with mediumQueue := rest })
  | .high => (takeFirst test sq.highQueue).map fun (op, rest) =>
      (op, { sq with highQueue := rest })

/-- The first application-created op, from the highest priority down. -/
def removeQueued (sq : SendQueue Callback) :
    Option (SendOp Callback × SendQueue Callback) :=
  (sq.takeFrom (·.asyncHandle != 0) .high).or
    ((sq.takeFrom (·.asyncHandle != 0) .medium).or
      (sq.takeFrom (·.asyncHandle != 0) .low))

/-- The first op with a handle, from the lowest priority up. -/
def removeQueuedByHandle (handle : DPNHANDLE) (sq : SendQueue Callback) :
    Option (SendOp Callback × SendQueue Callback) :=
  let test := fun op : SendOp Callback =>
    op.asyncHandle != 0 && op.asyncHandle == handle
  (sq.takeFrom test .low).or ((sq.takeFrom test .medium).or (sq.takeFrom test .high))

def removeQueuedByPriority (priority : SendPriority) (sq : SendQueue Callback) :
    Option (SendOp Callback × SendQueue Callback) :=
  sq.takeFrom (·.asyncHandle != 0) priority

/-- The three members of the `remove_queued` family, by what they look for. -/
inductive Wanted where
  | any
  | handle (handle : DPNHANDLE)
  | priority (priority : SendPriority)
deriving Repr, DecidableEq

def remove (wanted : Wanted) (sq : SendQueue Callback) :
    Option (SendOp Callback × SendQueue Callback) :=
  match wanted with
  | .any => sq.removeQueued
  | .handle handle => sq.removeQueuedByHandle handle
  | .priority priority => sq.removeQueuedByPriority priority

def handleIsPending (handle : DPNHANDLE) (sq : SendQueue Callback) : Bool :=
  sq.current.any (·.asyncHandle == handle)

def ops (sq : SendQueue Callback) : List (SendOp Callback) :=
  sq.current.toList ++ (sq.highQueue ++ (sq.mediumQueue ++ sq.lowQueue))

/-!
## The ops of a queue after each operation
-/

@[simp] theorem empty_ops : (empty : SendQueue Callback).ops = [] := rfl

theorem send_ops (priority : SendPriority) (op : SendOp Callback)
    (sq : SendQueue Callback) :
    (sq.send priority op).ops.Perm (op :: sq.ops) := by
  cases priority with
  | low =>
      simp only [ops, send, ← List.append_assoc]
      exact List.perm_append_singleton op _
  | medium =>
      simp only [ops, send, ← List.append_assoc]
      exact ((List.perm_append_singleton op _).append_right _)
  | high =>
      simp only [ops, send, ← List.append_assoc]
      exact ((List.perm_append_singleton op _).append_right _).append_right _

@[simp] theorem getPending_ops (sq : SendQueue Callback) :
    sq.getPending.ops = sq.ops := by
  unfold getPending
  split <;> simp [ops]

theorem getPending_none {sq : SendQueue Callback}
    (h : sq.getPending.current = none) : sq.ops = [] := by
  unfold getPending at h
  split at h <;> simp_all [ops]

theorem popPending_ops {sq : SendQueue Callback} {op : SendOp Callback}
    (h : sq.current = some op) : sq.ops = op :: sq.popPending.ops := by
  simp [ops, popPending, h]

end SendQueue
end DirectPlayLite
