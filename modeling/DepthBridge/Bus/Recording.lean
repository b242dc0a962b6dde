import DepthBridge.Bus.Basic

/-!
# A bus that records

Keeps every publication in order. Each channel has a default number of subscribers (one, or
none), which can be set per channel.
-/

namespace DepthBridge

/-- Publications in order, and subscriber counts. -/
structure RecordingBus where
  published : List (Channel × Message) := []
  /-- Counts set per channel; a later setting replaces an earlier one. -/
  subscribers : List (Channel × Nat) := []
  defaultSubscribers : Nat := 1
  deriving Inhabited

namespace RecordingBus

/-- A bus where nobody listens until told otherwise. -/
def silent : RecordingBus := { defaultSubscribers := 0 }

/-- Sets a channel's number of subscribers. -/
def setSubscribers (b : RecordingBus) (c : Channel) (n : Nat) : RecordingBus :=
  { b with subscribers := (c, n) :: b.subscribers.filter (·.1 != c) }

/-- The messages of one channel, in order. -/
def on (b : RecordingBus) (c : Channel) : List Message :=
  (b.published.filter (·.1 == c)).map (·.2)

/-- The channel of every publication, in order. -/
def channels (b : RecordingBus) : List Channel := b.published.map (·.1)

/-- Forgets the publications, keeping the subscriber counts. -/
def clear (b : RecordingBus) : RecordingBus := { b with published := [] }

instance : MessageBus RecordingBus where
  publish b c m := { b with published := b.published ++ [(c, m)] }
  subscriberCount b c := (b.subscribers.lookup c).getD b.defaultSubscribers

end RecordingBus
end DepthBridge
