import QuorumRouting.Text.Quoted

/-!
Layouts for diagnostic and tabular text: records with named fields, lists, optional values, and
columns of a given width. A width counts characters.
-/

set_option autoImplicit false

namespace QuorumRouting.Text

def record (name : String) (fields : List (String × String)) : String :=
  name ++ " \x7b " ++ ", ".intercalate (fields.map (fun (field, value) => field ++ ": " ++ value))
    ++ " \x7d"

/-- A record of which only some fields are shown. -/
def openRecord (name : String) (fields : List (String × String)) : String :=
  name ++ " \x7b "
    ++ String.join (fields.map (fun (field, value) => field ++ ": " ++ value ++ ", ")) ++ ".. \x7d"

def listed (items : List String) : String :=
  "[" ++ ", ".intercalate items ++ "]"

def listedQuoted (items : List String) : String :=
  listed (items.map quoted)

def wrapped (name content : String) : String :=
  name ++ "(" ++ content ++ ")"

def optional : Option String → String
  | none => "None"
  | some content => wrapped "Some" content

def boolean (value : Bool) : String :=
  if value then "true" else "false"

def alignLeft (width : Nat) (text : String) : String :=
  text ++ String.ofList (List.replicate (width - text.length) ' ')

def alignRight (width : Nat) (text : String) : String :=
  String.ofList (List.replicate (width - text.length) ' ') ++ text

end QuorumRouting.Text
