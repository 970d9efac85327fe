import VirtualLab.Lifecycle
import VirtualLab.Text.Width

/-!
# Reports of machine states

The states of machines as a table for people, and as JSON for programs.
-/

namespace VirtualLab

/-! ## Tables -/

namespace Table

def cellLines (cell : String) : List (List Char) := Text.pieces (· == '\n') cell.toList

def cellWidth (cell : String) : Nat := ((cellLines cell).map Text.width).foldl max 0

def columnWidths (rows : List (List String)) : List Nat :=
  rows.foldl
    (fun widths row =>
      let cells := row.map cellWidth
      let count := max widths.length cells.length
      (List.range count).map fun index => max (widths.getD index 0) (cells.getD index 0))
    []

def paddedLine (width : Nat) (line : List Char) : List Char :=
  ' ' :: line ++ List.replicate (width - Text.width line) ' ' ++ [' ']

def rowLines (widths : List Nat) (row : List String) : List (List Char) :=
  let cells := row.map cellLines
  let height := (cells.map List.length).foldl max 0
  (List.range height).map fun index =>
    (List.zipWith (fun width lines => paddedLine width (lines.getD index [])) widths cells).flatten

def render (rows : List (List String)) : String :=
  let widths := columnWidths rows
  Text.joined "\n" ((rows.flatMap (rowLines widths)).map String.ofList)

end Table

/-! ## JSON -/

namespace JsonText

def letterEscapes : List (Char × Char) :=
  [('"', '"'), ('\\', '\\'), ('\x08', 'b'), ('\x0c', 'f'), ('\n', 'n'), ('\r', 'r'), ('\t', 't')]

/-- A character inside a string. Only quotes, backslashes and control characters are escaped. -/
def escaped (character : Char) : List Char :=
  match letterEscapes.lookup character with
  | some letter => ['\\', letter]
  | none =>
    let code := character.toNat
    if code < 0x20 then
      "\\u00".toList ++ [Nat.digitChar (code / 16), Nat.digitChar (code % 16)]
    else [character]

def quoted (text : String) : String :=
  String.ofList ('"' :: text.toList.flatMap escaped ++ ['"'])

def optional : Option String → String
  | some text => quoted text
  | none => "null"

end JsonText

namespace MachineStatus

def stateLabel (status : MachineStatus) : String :=
  match status.state with
  | some state => state.label
  | none => "Not Deployed"

def reasonLabel (status : MachineStatus) : String := status.reason.getD "-"

def table (statuses : List MachineStatus) : String :=
  Table.render <|
    ["NAME", "HOSTNAME", "STATE", "REASON"] ::
      statuses.map fun status =>
        [status.vmName, status.hostname, status.stateLabel, status.reasonLabel]

def jsonFields (status : MachineStatus) : List (String × String) := [
  ("vm_name", JsonText.quoted status.vmName),
  ("hostname", JsonText.quoted status.hostname),
  ("deployed", if status.isDeployed then "true" else "false"),
  ("state", JsonText.optional (status.state.map (·.name))),
  ("reason", JsonText.optional status.reason)]

def jsonObject (status : MachineStatus) : String :=
  "  \x7b\n" ++
    Text.joined ",\n"
      (status.jsonFields.map fun field => "    " ++ JsonText.quoted field.1 ++ ": " ++ field.2) ++
    "\n  \x7d"

def json (statuses : List MachineStatus) : String :=
  if statuses.isEmpty then "[]"
  else "[\n" ++ Text.joined ",\n" (statuses.map jsonObject) ++ "\n]"

end MachineStatus

end VirtualLab
