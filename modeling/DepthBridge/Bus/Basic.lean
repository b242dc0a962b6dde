import DepthBridge.Message

/-!
# Message buses

The bridge hands every message to a bus, on a channel. Before it builds an expensive message it
asks the bus how many subscribers a channel has, and skips the work when there are none.

The buses here never refuse a message, so publishing is a plain update of the bus.
-/

namespace DepthBridge

/-- A bus of type `β`: publishing updates it, and it knows each channel's audience. -/
class MessageBus (β : Type) where
  publish : β → Channel → Message → β
  subscriberCount : β → Channel → Nat

namespace MessageBus

/-- Whether anybody listens on a channel. -/
def hasSubscribers [MessageBus β] (b : β) (c : Channel) : Bool := subscriberCount b c > 0

end MessageBus
end DepthBridge
