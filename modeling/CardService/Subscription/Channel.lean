import CardService.Subscription.Update

/-!
# CardService — channels

A channel holds notices for a receiver that fetches them later. It holds a limited number of them,
in order, and takes none once its receiver is gone.
-/

namespace CardService.Subscription

/-- Notices that wait for their receiver. -/
structure Channel where
  capacity : Nat
  waiting : List Notice
  closed : Bool
  deriving DecidableEq

/-- Why a channel takes no notice. -/
inductive ChannelFault where
  | full
  | closed
  deriving DecidableEq

def ChannelFault.message : ChannelFault → String
  | .full => "no available capacity"
  | .closed => "channel closed"

namespace Channel

/-- An empty channel. -/
def empty (capacity : Nat) : Channel := ⟨capacity, [], false⟩

/-- Puts a notice behind the others, if there is room. -/
def send (channel : Channel) (notice : Notice) : Except ChannelFault Channel :=
  if channel.closed then .error .closed
  else if channel.capacity ≤ channel.waiting.length then .error .full
  else .ok { channel with waiting := channel.waiting ++ [notice] }

/-- Takes the first notice out, if one is waiting. -/
def receive (channel : Channel) : Option (Notice × Channel) :=
  match channel.waiting with
  | [] => none
  | notice :: rest => some (notice, { channel with waiting := rest })

/-- Takes all notices out. -/
def drain (channel : Channel) : List Notice × Channel :=
  (channel.waiting, { channel with waiting := [] })

/-- The receiver wants no more, but may still fetch what waits for it. -/
def shut (channel : Channel) : Channel := { channel with closed := true }

/-- The receiver leaves, and what waits for it is lost. -/
def close (channel : Channel) : Channel := { channel with waiting := [], closed := true }

end Channel

end CardService.Subscription
