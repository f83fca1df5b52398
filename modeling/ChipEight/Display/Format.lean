import ChipEight.Text.CaseMap

/-!
# Picture formats

Which format a picture is written in is decided by the ending of its file name.
-/

namespace ChipEight.PictureFormat

/-- Why a picture cannot be written in the format of its file name. -/
inductive Error where
  /-- No format has this ending. -/
  | unknown (ending : String)
  /-- The format can only be read. -/
  | readOnly (ending : String)
  /-- The format holds no coloured pictures, or nothing that writes it is there. -/
  | refused (ending : String)
  deriving DecidableEq, Repr

def Error.message : Error → String
  | unknown ending => "unknown file extension: " ++ ending
  | readOnly ending => "files with this extension are only read: " ++ ending
  | refused ending => "files with this extension hold no coloured pictures: " ++ ending

/-- Endings of formats that coloured pictures are written in. -/
def writable : List String := [
  ".png", ".apng", ".bmp", ".dib", ".gif", ".jpg", ".jpeg", ".jpe", ".jfif", ".jp2", ".j2k",
  ".jpc", ".jpf", ".jpx", ".j2c", ".tif", ".tiff", ".ppm", ".pgm", ".pbm", ".pnm", ".tga", ".icb",
  ".vda", ".vst", ".pcx", ".sgi", ".rgb", ".rgba", ".bw", ".im", ".ico", ".icns", ".webp", ".pdf",
  ".eps", ".ps", ".dds", ".mpo"]

/-- Endings of formats that are only read. -/
def readable : List String := [
  ".cur", ".dcx", ".fit", ".fits", ".fli", ".flc", ".ftc", ".ftu", ".gbr", ".iim", ".mpg", ".mpeg",
  ".pcd", ".pxr", ".psd", ".qoi", ".ras", ".xpm"]

/-- Endings of formats that refuse coloured pictures. -/
def refusing : List String := [
  ".bufr", ".grib", ".h5", ".hdf", ".wmf", ".emf", ".msp", ".xbm", ".palm", ".blp"]

/-- The ending of a file name from its last dot on, in lower case. Dots at the start of the name
belong to the name. -/
def endingOf (path : String) : String :=
  let name := (path.toList.reverse.takeWhile (· != '/')).reverse.dropWhile (· == '.')
  let tail := name.reverse.takeWhile (· != '.')
  if tail.length = name.length then ""
  else String.ofList (Text.lower ('.' :: tail.reverse))

/-- What prevents a picture from being written in the format of its file name. -/
def check (path : String) : Option Error :=
  let ending := endingOf path
  if ending ∈ writable then none
  else if ending ∈ readable then some (.readOnly ending)
  else if ending ∈ refusing then some (.refused ending)
  else some (.unknown ending)

end ChipEight.PictureFormat
