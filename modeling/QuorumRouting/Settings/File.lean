import QuorumRouting.Json.Skip
import QuorumRouting.Settings.Field

/-!
Settings files. A file is a JSON object with the fields by name, in any order, or an array with
their values in the fixed order; what is left out has its usual value. Members of other names are
skipped, and no field may occur twice.
-/

set_option autoImplicit false

namespace QuorumRouting.Settings

def writeMember (settings : Settings) (field : Field) : List Char :=
  Json.writeText field.name.toList ++ ':' :: field.writeValue settings

def writeFields (settings : Settings) (fields : List Field) : List Char :=
  '{' :: Field.separated (fields.map settings.writeMember) ++ ['}']

def toText (settings : Settings) : String :=
  String.ofList (settings.writeFields Field.all)

structure Draft where
  settings : Settings
  met : List Field

def readKey (input : List Char) : Option (String × List Char) :=
  (Field.readString input).bind (fun (key, rest) =>
    (Json.expect [':'] (Json.skipBlanks rest)).map (fun after => (key, after)))

def readMember (draft : Draft) (input : List Char) : Option (Draft × List Char) :=
  (readKey input).bind (fun (key, rest) =>
    match Field.ofName? key with
    | none => (Json.skipValue rest).map (fun after => (draft, after))
    | some field =>
        if field ∈ draft.met then none
        else (field.readValue draft.settings rest).map (fun (settings, after) =>
          ({ settings := settings, met := field :: draft.met }, after)))

/-- Reads the members after the first one, up to the end of the object. Every turn takes at least
one character. -/
def readMoreMembers : Nat → Draft → List Char → Option (Draft × List Char)
  | 0, _, _ => none
  | fuel + 1, draft, input =>
      match Json.skipBlanks input with
      | '}' :: rest => some (draft, rest)
      | ',' :: rest =>
          (readMember draft rest).bind (fun (next, after) => readMoreMembers fuel next after)
      | _ => none

def readObject (input : List Char) : Option (Settings × List Char) :=
  let draft : Draft := { settings := usual, met := [] }
  match Json.skipBlanks input with
  | '}' :: rest => some (usual, rest)
  | start =>
      (readMember draft start).bind (fun (next, after) =>
        (readMoreMembers (after.length + 1) next after).map (fun (final, rest) =>
          (final.settings, rest)))

/-- Reads the values after the first one, up to the end of the array; a value without a field is
an error. -/
def readMoreValues : List Field → Settings → List Char → Option (Settings × List Char)
  | fields, settings, input =>
      match Json.skipBlanks input with
      | ']' :: rest => some (settings, rest)
      | ',' :: rest =>
          match fields with
          | [] => none
          | field :: others =>
              (field.readValue settings rest).bind (fun (next, after) =>
                readMoreValues others next after)
      | _ => none

def readArray (input : List Char) : Option (Settings × List Char) :=
  match Json.skipBlanks input with
  | ']' :: rest => some (usual, rest)
  | start =>
      (Field.quorumSize.readValue usual start).bind (fun (next, after) =>
        readMoreValues (Field.all.drop 1) next after)

def read (input : List Char) : Option Settings :=
  let found := match Json.skipBlanks input with
    | '{' :: rest => readObject rest
    | '[' :: rest => readArray rest
    | _ => none
  found.bind (fun (settings, rest) =>
    if (Json.skipBlanks rest).isEmpty then some settings else none)

def ofText (text : String) : Except Refusal Settings :=
  match read text.toList with
  | none => .error (.parse "not a settings file")
  | some settings => settings.check

end QuorumRouting.Settings
