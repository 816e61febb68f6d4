import ContainerClients.Container

/-!
# Counters of container names

Every new container takes the next number of a counter.  One counter is shared by all clients that
name no counter of their own.

* `CounterName` — the shared counter, or one of its own.
* `Counters` — where each counter stands.
* `Counters.mention` — a counter comes into being when it is first mentioned.
* `Counters.draw` — takes the next number.
-/

namespace ContainerClients.Container

/-- **Which counter** (`ContainerIdentityAllocator`). -/
inductive CounterName where
  /-- the counter that is there from the start -/
  | shared
  /-- a counter that is mentioned by name -/
  | named (name : String)
deriving DecidableEq, Repr

/-- **Where each counter stands**: the number that it gives next. -/
structure Counters where
  /-- the next number of the shared counter -/
  shared : Int := 1
  /-- the next number of each counter that was mentioned by name -/
  named : List (String × Int) := []
deriving Inhabited

namespace Counters

/-- The number that a counter gives next. -/
def next (counters : Counters) : CounterName → Int
  | .shared => counters.shared
  | .named name => ((counters.named.find? (·.1 == name)).map (·.2)).getD 1

/-- Brings a counter into being, unless it is there. -/
def mention (counters : Counters) (counter : CounterName) (start : Int) : Counters :=
  match counter with
  | .shared => counters
  | .named name =>
    if counters.named.any (·.1 == name) then counters
    else { counters with named := counters.named ++ [(name, start)] }

/-- The counters with one of them moved to a number. -/
def move (counters : Counters) (counter : CounterName) (number : Int) : Counters :=
  match counter with
  | .shared => { counters with shared := number }
  | .named name =>
    { counters.mention (.named name) 1 with
      named := (counters.mention (.named name) 1).named.map fun entry =>
        if entry.1 == name then (name, number) else entry }

/-- **Draws the next number** of a counter (`next`), which moves on by one. -/
def draw (counters : Counters) (counter : CounterName) : Int × Counters :=
  (counters.next counter, counters.move counter (counters.next counter + 1))

/-- Draws a number of times in a row. -/
def drawMany (counters : Counters) (counter : CounterName) : Nat → List Int × Counters
  | 0 => ([], counters)
  | count + 1 =>
    let (number, counters) := counters.draw counter
    let (numbers, counters) := drawMany counters counter count
    (number :: numbers, counters)

/-- **A counter of its own leaves the shared one alone.** -/
theorem draw_named_shared (counters : Counters) (name : String) :
    (counters.draw (.named name)).2.shared = counters.shared := by
  simp only [draw, move, mention]
  split <;> rfl

end Counters

end ContainerClients.Container
