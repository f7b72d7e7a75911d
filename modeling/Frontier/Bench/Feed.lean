import Frontier.Report

/-!
# The host's feed

Notifications wait for the host to read them. The feed keeps the last 256; a reader that comes late learns
how many it has missed.
-/

namespace Frontier

/-- Notifications that the host has not read. -/
structure Feed where
  unread : Array Notification := #[]
  deriving Inhabited

namespace Feed

/-- How many notifications are kept. -/
def capacity : Nat := 256

/-- Adds a notification. -/
def push (f : Feed) (n : Notification) : Feed := ⟨f.unread.push n⟩

/-- How many notifications were not kept. -/
def missed (f : Feed) : Nat := f.unread.size - capacity

/-- The notifications that were kept, in order. -/
def kept (f : Feed) : List Notification := f.unread.toList.drop f.missed

end Feed
end Frontier
