import DepthBridge.Bus.Basic

/-!
# A bus that counts

Counts the messages of each channel, by the channel's name, and tells every channel that it
has one subscriber so that nothing is skipped.
-/

namespace DepthBridge

/-- A named bus with a count per channel name. -/
structure LogBus where
  name : String
  tally : List (String × Nat) := []
  deriving Inhabited

namespace LogBus

/-- Adds one to the count of a name. -/
def bump (tally : List (String × Nat)) (key : String) : List (String × Nat) :=
  match tally.lookup key with
  | some n => tally.map fun (k, v) => if k == key then (k, n + 1) else (k, v)
  | none => tally ++ [(key, 1)]

/-- Insertion of one count into a list sorted by name. -/
def insertSorted (e : String × Nat) : List (String × Nat) → List (String × Nat)
  | [] => [e]
  | x :: rest => if e.1 < x.1 then e :: x :: rest else x :: insertSorted e rest

/-- The counts, sorted by channel name. -/
def counts (b : LogBus) : List (String × Nat) := b.tally.foldr insertSorted []

instance : MessageBus LogBus where
  publish b c _ := { b with tally := bump b.tally c.name }
  subscriberCount _ _ := 1

end LogBus
end DepthBridge
