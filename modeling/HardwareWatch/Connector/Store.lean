import HardwareWatch.Connector.Validity
import HardwareWatch.Text.Shown

/-!
# Connector stores

Connectors by their ids. A store may be loaded from the files of a directory whose names end in
`.json`; files that hold no usable connector are passed over, and of two connectors with one id the
later file's stays.

* `ConnectorStore.find?` looks an id up, as it is or else without regard to case.
* `ConnectorStore.ofDirectory` loads the files of a directory.
* `Connector.ofFile` reads one file.
-/

namespace HardwareWatch

/-- Connectors by id. -/
abbrev ConnectorStore := NameMap Connector

namespace ConnectorStore

/-- The store with a connector, in place of one with its id. -/
def add (store : ConnectorStore) (c : Connector) : ConnectorStore := store.insert c.id c

/-- The store of the connectors, later ones in place of earlier ones. -/
def ofConnectors (connectors : List Connector) : ConnectorStore := connectors.foldl add .empty

/-- The connector with an id, or else the first one whose id differs in case only. -/
def find? (store : ConnectorStore) (id : String) : Option Connector :=
  (store.get? id).orElse fun _ =>
    (store.toList.find? fun (key, _) => Text.sameIgnoringCase key id).map Prod.snd

end ConnectorStore

/-- The files of a directory with their texts, by their paths from there. A directory in it has no
text. -/
abbrev Directory := NameMap (Option String)

namespace Directory

/-- Follow the names of a path, where `reached` are the names that lead to the directory that has been
reached, and find the text of the file at its end. -/
def textFrom? (files : Directory) (reached : List String) : List String → Option String
  | [] => none
  | [last] => (files.get? (Text.join "/" (reached ++ [last]))).join
  | name :: rest =>
    if name = "" ∨ name = "." then textFrom? files reached rest
    else if name = ".." then
      if reached = [] then none else textFrom? files reached.dropLast rest
    else
      let inner := reached ++ [name]
      if files.get? (Text.join "/" inner) = some none then textFrom? files inner rest else none

/-- The text of the file at a path, if there is one. -/
def text? (files : Directory) (path : String) : Option String :=
  files.textFrom? [] (Text.splitAt '/' path)

end Directory

/-- Why a connector could not be had from a file. -/
inductive FileFault
  | unreadable (path : String)
  | undecodable (path : String) (cause : EngineError)

namespace FileFault

/-- What is said about a fault. -/
def text : FileFault → String
  | unreadable path => "Failed to read connector file: " ++ Text.shown path
  | undecodable path _ => "Failed to decode connector file: " ++ Text.shown path

/-- The error inside the fault. -/
def cause? : FileFault → Option EngineError
  | unreadable _ => none
  | undecodable _ cause => some cause

end FileFault

namespace Connector

/-- Read the connector in a file of a directory with a path. A name that starts with a slash does
not lead into the directory. -/
def ofFile (path : String) (files : Directory) (name : String) : Except FileFault Connector :=
  if name.toList.head? = some '/' then .error (.unreadable name)
  else
    let file := path ++ "/" ++ name
    match files.text? name with
    | none => .error (.unreadable file)
    | some text => (decode text).mapError (.undecodable file)

end Connector

namespace ConnectorStore

/-- Whether the name is one in the directory itself that ends in `.json` and is not only that. -/
def isConnectorFile (name : String) : Bool :=
  !name.toList.contains '/' &&
    match Text.dropSuffix? ".json" name with
    | some stem => stem != ""
    | none => false

/-- Load the connectors of a directory, if there is one at the path. -/
def ofDirectory (path : String) : Option Directory → Except String ConnectorStore
  | none => .error ("Failed to read connector directory: " ++ Text.shown path)
  | some files =>
    .ok (ofConnectors ((files.keys.filter isConnectorFile).filterMap fun name =>
      (Connector.ofFile path files name).toOption))

end ConnectorStore

end HardwareWatch
