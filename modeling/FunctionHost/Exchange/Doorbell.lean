-- SUMMARY: A doorbell that wakes one sleeper at a time, and remembers one ring when nobody sleeps.

/-! # Doorbells

Those who find nothing to do go to sleep at a doorbell. A ring wakes the one that has slept
longest. If nobody sleeps, the bell remembers that it was rung, once, and the next one who wants
to sleep stays awake instead. One who was woken looks again for something to do. -/

namespace FunctionHost

/-- Someone who asks for invocations. -/
abbrev Poller := Nat

/-- A doorbell: whether a ring is remembered, who sleeps in order of falling asleep, and who was
    woken but has not looked yet. -/
structure Doorbell where
  remembered : Bool
  asleep : List Poller
  woken : List Poller
  deriving Repr, DecidableEq, Inhabited

namespace Doorbell

/-- A doorbell that was never rung. -/
def silent : Doorbell :=
  ⟨false, [], []⟩

/-- A doorbell after it was rung. -/
def ring (b : Doorbell) : Doorbell :=
  match b.asleep with
  | p :: rest => { b with asleep := rest, woken := b.woken ++ [p] }
  | [] => { b with remembered := true }

/-- A doorbell after someone wanted to sleep. A remembered ring is used up, and they stay awake. -/
def sleep (b : Doorbell) (p : Poller) : Doorbell :=
  if b.remembered then { b with remembered := false, woken := b.woken ++ [p] }
  else { b with asleep := b.asleep ++ [p] }

/-- A doorbell after someone who was woken has looked. -/
def look (b : Doorbell) (p : Poller) : Doorbell :=
  { b with woken := b.woken.erase p }

/-- A doorbell after someone went away. The ring that woke them is passed on. -/
def leave (b : Doorbell) (p : Poller) : Doorbell :=
  if b.woken.contains p then (b.look p).ring
  else { b with asleep := b.asleep.erase p }

end Doorbell

end FunctionHost
