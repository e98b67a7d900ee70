import Refactory.Number
import Refactory.Text.Quoted

/-! # Data

Values of reports and journals: what can be written as JSON. The fields of a record keep the order in
which they were set first.

* `Datum`: a value.
* `Fields.set`, `Fields.update`: setting fields of a record.
* `Datum.compact`, `Datum.indented`: JSON texts. -/

namespace Refactory

/-- A value of a report. -/
inductive Datum
  | null
  | bool (b : Bool)
  | int (n : Int)
  | float (d : Double)
  | text (t : Text)
  | list (items : List Datum)
  | record (fields : List (Text × Datum))

instance : Inhabited Datum := ⟨.null⟩
instance : Coe Bool Datum := ⟨.bool⟩
instance : Coe Text Datum := ⟨.text⟩
instance : Coe Nat Datum := ⟨fun n => .int n⟩

/-- The fields of a record. -/
abbrev Fields := List (Text × Datum)

/-- Sets a field where it stands, or else after the others. -/
def Fields.set (fields : Fields) (name : Text) (value : Datum) : Fields :=
  if fields.any (·.1 == name) then
    fields.map fun (n, old) => if n = name then (n, value) else (n, old)
  else fields ++ [(name, value)]

/-- Sets several fields one after the other. -/
def Fields.update (fields new : Fields) : Fields :=
  new.foldl (fun fields (name, value) => Fields.set fields name value) fields

namespace Datum

/-- A value that can be absent. -/
def ofOption {α : Type} (f : α → Datum) : Option α → Datum
  | none => null
  | some a => f a

/-- Whether a value counts as true: it is neither absent nor zero nor empty. -/
def isTruthy : Datum → Bool
  | null => false
  | bool b => b
  | int n => n != 0
  | float d => !d.isZero
  | text t => !t.isEmpty
  | list items => !items.isEmpty
  | record fields => !fields.isEmpty

/-! ## JSON -/

/-- Which characters JSON strings escape besides those that they have to. -/
inductive EscapeStyle
  /-- No others. -/
  | raw
  /-- All that are not printable ASCII. -/
  | ascii
deriving DecidableEq

/-- The escape of a code point by its number, as a pair of surrogates if it is past the first
plane. -/
def unitEscapes (c : CodePoint) : Text :=
  let unit (n : Nat) : Text := "\\u" ++ Text.hex 4 n
  if c.val < 0x10000 then unit c.val
  else
    unit (0xD800 + (c.val - 0x10000) / 0x400) ++ unit (0xDC00 + (c.val - 0x10000) % 0x400)

/-- A code point inside a JSON string. -/
def escapeJson (style : EscapeStyle) (c : CodePoint) : Text :=
  if c = '"' then "\\\""
  else if c = '\\' then "\\\\"
  else if c = '\n' then "\\n"
  else if c = '\r' then "\\r"
  else if c = '\t' then "\\t"
  else if c = '\x08' then "\\b"
  else if c = '\x0c' then "\\f"
  else if c.val < 0x20 then unitEscapes c
  else if style = .ascii ∧ 0x7F ≤ c.val then unitEscapes c
  else [c]

/-- A JSON string. -/
def jsonString (style : EscapeStyle) (t : Text) : Text :=
  "\"" ++ t.flatMap (escapeJson style) ++ "\""

/-- Where the items of a JSON list or record stand: all on one line, or each on a line of its own,
indented by two spaces for each level. -/
inductive JsonLayout
  | compact
  | spaced
  | lines (level : Nat)

namespace JsonLayout

/-- The layout one level deeper. -/
def deeper : JsonLayout → JsonLayout
  | lines level => lines (level + 1)
  | layout => layout

/-- What stands between a field's name and its value. -/
def colon : JsonLayout → Text
  | compact => ":"
  | _ => ": "

/-- Items between brackets. -/
def enclose (layout : JsonLayout) (left right : Text) (items : List Text) : Text :=
  if items.isEmpty then left ++ right
  else
    match layout with
    | compact => left ++ Text.join "," items ++ right
    | spaced => left ++ Text.join ", " items ++ right
    | lines level =>
      let margin (n : Nat) : Text := "\n" ++ Text.times (2 * n) " "
      left ++ margin (level + 1) ++ Text.join ("," ++ margin (level + 1)) items ++ margin level ++
        right

end JsonLayout

mutual

/-- A value as JSON. -/
def json (style : EscapeStyle) (layout : JsonLayout) : Datum → Text
  | null => "null"
  | bool b => if b then "true" else "false"
  | int n => Text.ofInt n
  | float d => d.render
  | text t => jsonString style t
  | list items => layout.enclose "[" "]" (jsonItems style layout.deeper items)
  | record fields => layout.enclose "\x7b" "\x7d" (jsonFields style layout.deeper fields)

/-- The items of a list as JSON. -/
def jsonItems (style : EscapeStyle) (layout : JsonLayout) : List Datum → List Text
  | [] => []
  | d :: rest => json style layout d :: jsonItems style layout rest

/-- The fields of a record as JSON. -/
def jsonFields (style : EscapeStyle) (layout : JsonLayout) : List (Text × Datum) → List Text
  | [] => []
  | (name, d) :: rest =>
    (jsonString style name ++ layout.colon ++ json style layout d) :: jsonFields style layout rest

end

/-- JSON on one line without blanks, in which only what has to be is escaped. -/
def compactJson (d : Datum) : Text := json .raw .compact d

/-- JSON on many lines, indented by two spaces. -/
def indentedJson (style : EscapeStyle) (d : Datum) : Text := json style (.lines 0) d

end Datum

end Refactory
