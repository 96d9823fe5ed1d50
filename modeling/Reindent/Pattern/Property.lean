import Reindent.Pattern.CharSet
import Reindent.Unicode.Script

/-!
# Character properties by name

A pattern names a general category, a script or one of a few binary
properties. Case and separators in a name do not matter, nor does `is` at
its start.

Of the binary properties of Unicode there are Alphabetic, White_Space and
Join_Control only. The others, such as Lowercase, Uppercase, Emoji and
ID_Start, have no tables here, and neither have the properties with values
other than General_Category and Script: Script_Extensions (`scx`), Age and the
three break properties. Names of these are unknown names.
-/

namespace Reindent.Property

def normalize (name : String) : String :=
  let plain := name.toList.filter fun c => !(c == ' ' || c == '_' || c == '-')
  let lower := plain.map Char.toLower
  let named := "is".toList.isPrefixOf lower && lower != "isc".toList
  String.ofList (if named then lower.drop 2 else lower)

def assigned : CharSet := CharSet.ofTables (Unicode.Category.named.map (·.2))

def category? : String → Option CharSet
  | "any" => some .all
  | "assigned" => some assigned
  | "ascii" => some .ascii
  | "unassigned" | "cn" => some (.complement assigned)
  | "other" | "c" =>
    some (.union (.complement assigned) (CharSet.ofTables
      [Unicode.Category.control, Unicode.Category.format, Unicode.Category.privateUse]))
  | name => (Unicode.Category.tables? name).map CharSet.ofTables

def script? (name : String) : Option CharSet :=
  (Unicode.Script.table? name).map .ranges

def binary? : String → Option CharSet
  | "alphabetic" | "alpha" => some (.ranges Unicode.alphabetic)
  | "whitespace" | "wspace" | "space" => some .whiteSpace
  | "joincontrol" | "joinc" => some (.ranges Unicode.joinControl)
  | _ => none

/-- The set that `name` stands for, or `key` and `name` when a key is given. -/
def lookup? (key : Option String) (name : String) : Option CharSet :=
  let name := normalize name
  match key.map normalize with
  | none => (binary? name).or ((category? name).or (script? name))
  | some "generalcategory" | some "gc" => category? name
  | some "script" | some "sc" => script? name
  | some _ => none

end Reindent.Property
