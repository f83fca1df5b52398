import ChipEight.Machine.State

/-!
# Machine report

The state of the machine as text for people: the display in a frame, the registers, the saved
addresses and the timers.
-/

namespace ChipEight.Machine

/-- One general register. -/
def registerText (m : Machine) (r : Register) : String :=
  "[V" ++ Hex.upper 1 r.val ++ "]: " ++ Hex.lower 2 (m.reg r).toNat

/-- Four general registers, from the one with the given number. -/
def registerLine (m : Machine) (first : Nat) : String :=
  "  ".intercalate <| (List.range 4).map fun k => m.registerText (.ofNat (first + k))

/-- The saved addresses, or a dash. -/
def framesText (m : Machine) : String :=
  match m.stack.frames with
  | [] => "-"
  | fs => " ".intercalate (fs.map fun a => Hex.lower 4 a.toNat)

/-- The title line above the registers, as wide as the display. -/
def registerTitle : String :=
  let title := "[Register]"
  let room := Layout.displayWidth - title.length
  let dashes (n : Nat) : String := String.ofList (List.replicate n '-')
  "+" ++ dashes (room / 2) ++ title ++ dashes (room - room / 2) ++ "+"

/-- The report. -/
def report (m : Machine) : String :=
  "\n".intercalate [
    m.display.text "#" " ",
    "",
    registerTitle,
    m.registerLine 0x0,
    m.registerLine 0x4,
    m.registerLine 0x8,
    m.registerLine 0xC,
    "[I]: " ++ Hex.lower 4 m.i.toNat,
    "[PC]: " ++ Hex.lower 4 m.pc.toNat,
    "[SP]: " ++ Hex.lower 4 m.stack.depth.val,
    "[Stack]: " ++ m.framesText,
    "",
    "[Timer delay]: " ++ Hex.lower 2 m.delay.toNat ++
      "  [Timer sound]: " ++ Hex.lower 2 m.sound.toNat,
    Grid.border Layout.displayWidth]

end ChipEight.Machine
