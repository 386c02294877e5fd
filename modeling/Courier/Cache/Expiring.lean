/-! A map whose entries stop counting a fixed time after they were put in. The time is that of a clock
with an end, beyond which no entry can be dated. -/
namespace Courier

structure ExpiringCache (κ ν : Type) where
  /-- The last time that the clock can tell. -/
  clockEnd : Nat
  lifetime : Nat
  /-- Keys, each once, with their values and the times at which these stop counting. -/
  entries : List (κ × ν × Nat)

namespace ExpiringCache

variable {κ ν : Type} [BEq κ]

def new (clockEnd lifetime : Nat) : ExpiringCache κ ν :=
  ⟨clockEnd, lifetime, []⟩

def isLive (now : Nat) (entry : κ × ν × Nat) : Bool :=
  now < entry.2.2

def find? (cache : ExpiringCache κ ν) (key : κ) : Option (κ × ν × Nat) :=
  cache.entries.find? (·.1 == key)

def without (cache : ExpiringCache κ ν) (key : κ) : ExpiringCache κ ν :=
  { cache with entries := cache.entries.filter fun entry => !(entry.1 == key) }

/-- The cache with a value put in, which takes the place of an old one and whose time starts anew. -/
def put (cache : ExpiringCache κ ν) (now : Nat) (key : κ) (value : ν) : ExpiringCache κ ν :=
  { cache with entries := (key, value, now + cache.lifetime) :: (cache.without key).entries }

/-- Puts a value in. The call breaks off before it has changed anything if the clock ends before the
lifetime does. -/
def insert? (cache : ExpiringCache κ ν) (now : Nat) (key : κ) (value : ν) :
    Option (ExpiringCache κ ν) :=
  if now + cache.lifetime ≤ cache.clockEnd then some (cache.put now key value) else none

/-- The live value of a key. An entry found dead is dropped. -/
def get (cache : ExpiringCache κ ν) (now : Nat) (key : κ) : Option ν × ExpiringCache κ ν :=
  match cache.find? key with
  | some entry =>
    if isLive now entry then (some entry.2.1, cache) else (none, cache.without key)
  | none => (none, cache)

/-- Takes a key out, with its value if that is live. -/
def remove (cache : ExpiringCache κ ν) (now : Nat) (key : κ) : Option ν × ExpiringCache κ ν :=
  match cache.find? key with
  | some entry => (if isLive now entry then some entry.2.1 else none, cache.without key)
  | none => (none, cache)

/-- Drops what is dead; how many entries those were. -/
def purge (cache : ExpiringCache κ ν) (now : Nat) : Nat × ExpiringCache κ ν :=
  let live := cache.entries.filter (isLive now)
  (cache.entries.length - live.length, { cache with entries := live })

/-- Entries, with the dead ones that have not been dropped. -/
def size (cache : ExpiringCache κ ν) : Nat :=
  cache.entries.length

end ExpiringCache

end Courier
