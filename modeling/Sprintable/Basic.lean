/-! Identifiers and clock readings that every subsystem shares. A clock reading is
a number of microseconds since the epoch. -/

namespace Sprintable

abbrev Uuid := Nat

def seconds (n : Nat) : Nat := n * 1000000

def minutes (n : Nat) : Nat := seconds (n * 60)

end Sprintable
