import ThreeAddress.Render.Location
import ThreeAddress.Text.Json
import ThreeAddress.Text.Quoted
import ThreeAddress.Token.Basic

/-!
# Token listings

The tokens of a source, one a line for people or as a JSON array for programs. A listing ends with
the first end marker.
-/

namespace ThreeAddress.Render

/-- The tokens through the first end marker. -/
def throughEnd : List Token → List Token
  | [] => []
  | t :: ts => if t.kind = .endOfFile then [t] else t :: throughEnd ts

/-- One line of a listing. -/
def tokenLine (files : FileSet) (number : Nat) (t : Token) : Except Fault Bytes :=
  match files.resolve? t.span with
  | none => .error .absent
  | some (start, stop) =>
    let index := decimal number
    .ok (Bytes.padLeft 3 index.length index ++ utf8 ": "
      ++ Bytes.padRight 10 (Utf8.length t.kind.name) t.kind.name
      ++ (if t.text = [] then [] else utf8 " " ++ Quoted.text t.text)
      ++ utf8 " at " ++ position start ++ utf8 "-" ++ position stop ++ utf8 "\n")

/-- The lines of a listing from the given number on. -/
def tokenLines (files : FileSet) (number : Nat) : List Token → Except Fault Bytes
  | [] => .ok []
  | t :: ts => do
    let line ← tokenLine files number t
    let rest ← tokenLines files (number + 1) ts
    return line ++ rest

/-- A listing for people. -/
def tokenListing (files : FileSet) (ts : List Token) : Except Fault Bytes :=
  tokenLines files 1 (throughEnd ts)

/-- A token as a JSON object. -/
def tokenObject (t : Token) : Json :=
  .object <| [(utf8 "kind", .text t.kind.name)] ++ Json.textMember "text" t.text
    ++ [(utf8 "span", .object
        [(utf8 "File", .int t.span.file.toNat), (utf8 "Start", .int t.span.start.toNat),
          (utf8 "End", .int t.span.stop.toNat)])]

/-- A listing for programs. -/
def tokenDocument (ts : List Token) : Bytes :=
  (Json.array ((throughEnd ts).map tokenObject)).indented 0 ++ utf8 "\n"

end ThreeAddress.Render
