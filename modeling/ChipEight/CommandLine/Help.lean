import ChipEight.CommandLine.Options
import ChipEight.Layout

/-!
# Help text

What the program tells about its own command line: `CommandLine.usageText` is the short form that
goes with an error, `CommandLine.helpText` the long one.
-/

namespace ChipEight

namespace Flag

/-- The word that stands for the value of an option. -/
def placeholder? : Flag → Option String
  | letters => some "QUIRKS"
  | speed => some "SPEED"
  | config => some "CONFIG"
  | ticks => some "TICKS"
  | press => some "KEY"
  | seed => some "SEED"
  | png => some "PNG"
  | scale => some "SCALE"
  | help | realtime | dump | verbose => none

/-- What an option is for. -/
def explanation : Flag → String
  | help => "show this help message and exit"
  | letters => "Quirk letters: j=jumping m=memory s=shifting r=vf reset"
  | speed => "Instructions per second (default " ++ toString Layout.defaultSpeed ++ ")"
  | config => "Load settings from a JSON file before applying flags"
  | ticks => "Number of 60 Hz ticks to run"
  | realtime => "Pace ticks at 60 Hz wall clock"
  | press => "Hold a keypad key (0-F) for the whole run; may repeat"
  | seed => "Seed for the CXNN random source"
  | dump => "Print the display and registers on exit"
  | png => "Save the display as a PNG on exit"
  | scale => "PNG pixel scale"
  | verbose => "More logging (-vv traces cycles)"

/-- A spelling with the word for the value. -/
def withPlaceholder (f : Flag) (spelling : String) : String :=
  match f.placeholder? with
  | some word => spelling ++ " " ++ word
  | none => spelling

/-- An option takes a value exactly if there is a word for it. -/
theorem isSome_placeholder? (f : Flag) : f.placeholder?.isSome = f.takesValue := by
  cases f <;> rfl

end Flag

namespace CommandLine

/-- The options as the short form groups them in lines. -/
def usageGroups : List (List Flag) := [
  [.help, .letters, .speed, .config],
  [.ticks, .realtime, .press, .seed, .dump],
  [.png, .scale, .verbose]]

/-- One line of the short form. -/
def usageLine (flags : List Flag) : String :=
  " ".intercalate <| flags.map fun f => "[" ++ f.withPlaceholder (f.ownSpellings.headD "") ++ "]"

/-- The short form: how to write a command line. -/
def usageText : String :=
  "usage: chip8 " ++ "\n             ".intercalate (usageGroups.map usageLine ++ ["rom"]) ++ "\n"

/-- Fills a text up with blanks. -/
def pad (n : Nat) (s : String) : String :=
  s ++ String.ofList (List.replicate (n - s.length) ' ')

/-- One entry of the long form. -/
def helpLine (subject explanation : String) : String :=
  "  " ++ pad 15 subject ++ "  " ++ explanation ++ "\n"

/-- The entry of an option. -/
def flagLine (f : Flag) : String :=
  helpLine (", ".intercalate (f.ownSpellings.map f.withPlaceholder)) f.explanation

/-- The long form. -/
def helpText : String :=
  usageText ++ "\nRun a CHIP-8 ROM without a window\n\npositional arguments:\n" ++
    helpLine "rom" "Path to the ROM file" ++ "\noptions:\n" ++
    String.join (usageGroups.flatten.map flagLine)

end CommandLine

end ChipEight
