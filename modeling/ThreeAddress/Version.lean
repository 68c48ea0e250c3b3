import ThreeAddress.Render.Style
import ThreeAddress.Text.Json

/-!
# Versions

What is known about a build of the program, and the banner that shows it.
-/

namespace ThreeAddress

/-- What is known about a build of the program. -/
structure Version where
  /-- The version. -/
  number : Bytes := utf8 "0.1.0-dev"
  /-- The commit it was built from. -/
  commit : Bytes := []
  /-- The day it was built. -/
  date : Bytes := []
deriving Repr, DecidableEq, Inhabited

namespace Version

/-- Splits a byte string at the first occurrence of a byte, which is dropped. -/
def cut (sep : UInt8) (b : Bytes) : Bytes × Bytes :=
  (b.takeWhile fun x => x != sep, (b.dropWhile fun x => x != sep).drop 1)

/-- The version with its three numbers in colors. A version without three numbers stays plain, and
so does what is behind a dash. -/
def painted (colored : Bool) (number : Bytes) : Bytes :=
  let (core, rest) := cut '-'.toUInt8 number
  match Bytes.splitOn '.'.toUInt8 core with
  | major :: minor :: patch :: more =>
    if colored then
      let dot := utf8 "."
      Render.Style.boldYellow.paint true major ++ dot
        ++ Render.Style.boldGreen.paint true minor ++ dot
        ++ Render.Style.boldBlue.paint true (Bytes.joinWith dot (patch :: more))
        ++ (if rest = [] then [] else utf8 "-" ++ rest)
    else number
  | _ => number

/-- The line that shows a version. The day is shown only with a commit. -/
def banner (v : Version) (colored : Bool) : Bytes :=
  utf8 "ezc " ++ painted colored v.number
    ++ if v.commit = [] then []
      else utf8 " (" ++ v.commit ++ (if v.date = [] then [] else utf8 ", " ++ v.date) ++ utf8 ")"

/-- The version as a JSON object; the toolchain is told by the caller. -/
def toJson (v : Version) (toolchain : Bytes) : Json :=
  .object <| [(utf8 "version", .text (if v.number = [] then utf8 "dev" else v.number))]
    ++ Json.textMember "git_commit" v.commit
    ++ Json.textMember "build_date" v.date
    ++ [(utf8 "go_version", .text toolchain)]

end Version

end ThreeAddress
