import Mathlib.Data.List.DropRight

set_option autoImplicit false

namespace MazeClient

abbrev Text := List Char

def doubleQuote : Char := Char.ofNat 34

def singleQuote : Char := Char.ofNat 39

def isQuote (c : Char) : Bool := c = doubleQuote || c = singleQuote

def strip (blank : Char → Bool) (text : Text) : Text := (text.dropWhile blank).rdropWhile blank

-- The lines of a text without the characters that end them; no line follows the last of these.
def splitLines (ends : Char → Bool) : Text → List Text
  | [] => []
  | c :: rest =>
      if ends c then [] :: splitLines ends rest
      else
        match splitLines ends rest with
        | [] => [[c]]
        | line :: lines => (c :: line) :: lines

def splitColon (line : Text) : Option (Text × Text) :=
  if ':' ∈ line then some (line.takeWhile (· ≠ ':'), (line.dropWhile (· ≠ ':')).drop 1) else none

def hasIndent (line : Text) : Bool := line.head? = some ' ' || line.head? = some '\t'

namespace ConfigLoader

def isBlank (c : Char) : Bool := c = ' ' || c = '\t' || c = '\r' || c = '\n'

def trim (text : Text) : Text := strip isBlank text

def stripQuotes (text : Text) : Text :=
  if 2 ≤ text.length ∧
      ((text.head? = some doubleQuote ∧ text.getLast? = some doubleQuote) ∨
        (text.head? = some singleQuote ∧ text.getLast? = some singleQuote)) then
    (text.drop 1).dropLast
  else text

structure YamlEntry where
  sectionName : Text
  key : Text
  value : Text
  deriving DecidableEq

-- The comment of a line is cut off; `inQuotes` turns at every quotation mark of either kind.
def cutComment (inQuotes : Bool) : Text → Text
  | [] => []
  | c :: rest =>
      if isQuote c then c :: cutComment (!inQuotes) rest
      else if c = '#' ∧ !inQuotes then []
      else c :: cutComment inQuotes rest

def parseLines (currentSection : Text) : List Text → List YamlEntry
  | [] => []
  | raw :: rest =>
      let line := cutComment false raw
      match splitColon (trim line) with
      | none => parseLines currentSection rest
      | some (before, after) =>
          let key := trim before
          let value := trim after
          if !hasIndent line && value.isEmpty then parseLines key rest
          else if hasIndent line && !key.isEmpty then
            { sectionName := currentSection, key, value := stripQuotes value } ::
              parseLines currentSection rest
          else parseLines currentSection rest

def parseYaml (text : Text) : List YamlEntry := parseLines [] (splitLines (· = '\n') text)

def findEntry (entries : List YamlEntry) (sectionName key : Text) : Option Text :=
  (entries.find? fun entry => entry.sectionName = sectionName ∧ entry.key = key).map
    YamlEntry.value

def findValue (entries : List YamlEntry) (sectionName key : Text) : Text :=
  (findEntry entries sectionName key).getD []

def required : List (Text × Text) :=
  [("run", "client_instance_id"), ("run", "environment_instance_id"), ("run", "log_interval"),
    ("env", "map_registry_dir"), ("network", "server_host"), ("network", "server_port"),
    ("network", "abort_wait_timeout_ms"), ("viz", "output_dir"), ("viz", "interval"),
    ("viz", "server_port")].map fun (sectionName, key) => (sectionName.toList, key.toList)

def field (sectionName key : Text) : Text := sectionName ++ '.' :: key

def allowedConfigFields : List Text := required.map fun (sectionName, key) => field sectionName key

def loadEntries (text : Text) : Except String (List YamlEntry) :=
  let entries := parseYaml text
  match entries.find? fun entry => field entry.sectionName entry.key ∉ allowedConfigFields with
  | some entry => .error
      ("unknown Client config field: " ++ String.ofList (field entry.sectionName entry.key))
  | none =>
      match required.find? fun (sectionName, key) => (findValue entries sectionName key).isEmpty with
      | some (sectionName, key) =>
          .error ("missing Client config field: " ++ String.ofList (field sectionName key))
      | none => .ok entries

end ConfigLoader

end MazeClient
