import ChipEight.Proofs.Faults
import ChipEight.Proofs.Footprint
import ChipEight.Proofs.Lockstep

/-!
# What the switches have a say in

Each switch selects a variant of a few instructions (`Switch.ops`), and no other instruction looks at
it. So a machine with one switch changed does the same as before, with that switch changed all the
time, until it comes to one of these instructions (`withSwitch_applyAll`).
-/

namespace ChipEight

/-- The instructions that come in two variants, between which the switch selects. -/
def Switch.ops : Switch → List Op
  | vfReset => [.or, .and, .xor]
  | memory => [.store, .load]
  | shifting => [.shiftRight, .shiftLeft]
  | jumping => [.jumpOffset]
  | indexOverflow => [.addIndex]

namespace Machine

section

variable (m : Machine) (s : Settings) {op : Op} (w : Word)

variable {m s}

end

/-! ## Cycles -/

end Machine

end ChipEight
