import DepthBridge.Error
import DepthBridge.Halt
import DepthBridge.Text.Blank

/-!
# The pausable gate

A `Gate` stands in front of a publisher. While it is open, a message goes straight through;
while it is paused, messages wait in a bounded queue, and a message that finds the queue full
is refused with an overflow. Pauses nest: only the resume that closes the outermost pause
flushes the queue, in arrival order, through the publisher. A flush delivers every queued
message even when some fail, and reports the first failure. A disabled gate never pauses.

A paused section holds a `Guard`: it resumes through the guard when it ends, and when it ends
early the guard is dropped, which resumes only if the pause took effect.

Publishing is an effect of the caller's monad, so the same gate serves any publisher. The
queue's storage is allocated when the gate is made (`reserve`), for as many messages as the
bound.
-/

namespace DepthBridge

/-- A gate: its name, whether it can pause, its queue bound, the pause depth and the queue. -/
structure Gate (α : Type) where
  name : String
  enabled : Bool
  capacity : Nat
  depth : Nat := 0
  pending : List α := []
  deriving Inhabited

namespace Gate

variable {α : Type} {m : Type → Type} [Monad m]

/-- A gate with the given name and bound (at least one). -/
def create (name : String) (capacity : Nat) (enabled : Bool) : Gate α :=
  { name, enabled, capacity := max capacity 1 }

/-- Allocates, up front, the queue of a gate of the given bound (at least one) for messages of
`itemBytes` bytes: an allocation of more bytes than a buffer can have halts. -/
def reserve (capacity itemBytes : Nat) : Except Halt Unit :=
  if max capacity 1 * itemBytes > Checked.isizeMax then .error .capacityOverflow else .ok ()

/-- Whether the gate is paused. -/
def isPaused (g : Gate α) : Bool := g.depth > 0

/-- One more level of pause; nothing for a disabled gate. -/
def pause (g : Gate α) : Gate α :=
  if g.enabled then { g with depth := g.depth + 1 } else g

/-- A pause guard: a paused section's hold on the gate. It is active when dropping it owes a
resume, that is when the gate was enabled, since a disabled gate never paused. -/
structure Guard where
  active : Bool
  deriving DecidableEq, Repr

/-- Pauses the gate and takes a guard for the pause. Resuming through the guard is a plain
`resume`, after which the guard is spent and goes away without resuming again. -/
def takeGuard (g : Gate α) : Guard × Gate α := (⟨g.enabled⟩, g.pause)

/-- Delivers `items` in order, counting the deliveries that succeeded and keeping the first
failure. -/
def deliverAll (publish : α → m (Except ContractError Unit)) :
    List α → m (Nat × Option ContractError)
  | [] => pure (0, none)
  | x :: rest => do
    let r ← publish x
    let (n, err) ← deliverAll publish rest
    match r with
    | .ok () => pure (n + 1, err)
    | .error e => pure (n, some e)

/-- Closes one level of pause; closing the last one flushes the queue and returns how many
messages went out. -/
def resume (publish : α → m (Except ContractError Unit)) (g : Gate α) :
    m (Except SyncError Nat × Gate α) := do
  if g.depth = 0 then return (.ok 0, g)
  if g.depth > 1 then return (.ok 0, { g with depth := g.depth - 1 })
  let (n, err) ← deliverAll publish g.pending
  let g := { g with depth := 0, pending := [] }
  match err with
  | some e => return (.error (.contract e), g)
  | none => return (.ok n, g)

/-- Drops a guard that was not resumed through, on an early return or a halt: an active guard
resumes the gate, and a failed flush goes away with it. -/
def Guard.drop (publish : α → m (Except ContractError Unit)) (guard : Guard) (g : Gate α) :
    m (Gate α) := do
  if guard.active then
    let (_, g) ← g.resume publish
    return g
  return g

/-- Sends a message through an open gate, or queues it behind a paused one. -/
def publish (pub : α → m (Except ContractError Unit)) (msg : α) (g : Gate α) :
    m (Except SyncError Unit × Gate α) := do
  if g.depth = 0 then
    match ← pub msg with
    | .ok () => return (.ok (), g)
    | .error e => return (.error (.contract e), g)
  if g.pending.length ≥ g.capacity then
    return (.error (.queueOverflow g.name g.pending.length g.capacity), g)
  return (.ok (), { g with pending := g.pending ++ [msg] })

/-- Delivers whatever is still queued when the gate goes away; failures are dropped. -/
def drain (pub : α → m (Except ContractError Unit)) (g : Gate α) : m (Gate α) := do
  let _ ← deliverAll pub g.pending
  return { g with pending := [] }

/-- The diagnostic text of a gate. -/
def debugText (g : Gate α) : String :=
  "PausableSink \x7b name: " ++ Text.quoted g.name ++ ", enabled: " ++ toString g.enabled
    ++ ", capacity: " ++ toString g.capacity ++ ", pending: " ++ toString g.pending.length ++ " \x7d"

end Gate
end DepthBridge
