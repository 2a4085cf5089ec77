/-
Engines from configuration files.

* `Configuration.ofFile`, `Configuration.ofFiles`: the configurations of files,
  each on top of those before it;
* `Engine.ofFiles`: the engine with these fields;
* `LoadFault`: why there is none.

A file whose extension is `json`, in any case, holds JSON; all others hold YAML.
-/
import RecordRules.Configuration.Yaml
import RecordRules.Engine.Basic
import RecordRules.Files

namespace RecordRules

/-- Why configuration files make no engine. -/
inductive LoadFault where
  /-- There is no text at the path. -/
  | unreadable (path : String) (fault : FileFault)
  /-- The text at the path is no configuration. -/
  | faulty (path text : String) (fault : ConfigurationFault)
  /-- A rule text of the whole configuration cannot be read. -/
  | inapplicable (error : RuleTextError)
  deriving DecidableEq, Repr

/-- A load fault in words. -/
def LoadFault.message (words : ParserWords) : LoadFault → String
  | unreadable path fault => "Failed to read config file " ++ path ++ ": " ++ fault.message
  | faulty path text fault => "Failed to parse config file " ++ path ++ ": " ++ fault.message words text
  | inapplicable error => "Failed to apply field configuration: " ++ error.message

namespace Configuration

/-- Whether the file at a path holds JSON. -/
def isJsonPath (path : String) : Bool :=
  (pathExtension? path).any fun extension => extension.toList.map Char.toLower == "json".toList

/-- The configuration in the file at a path. -/
def ofFile (files : Files) (path : String) : Except LoadFault Configuration :=
  match files path with
  | .error fault => .error (.unreadable path fault)
  | .ok text =>
    let read := if isJsonPath path then ofJson text else ofYaml text
    read.mapError (.faulty path text)

/-- The configuration of several files; later ones come on top. -/
def ofFiles (files : Files) (paths : List String) : Except LoadFault Configuration :=
  (paths.mapM (ofFile files)).map (List.foldl overlay empty)

end Configuration

/-- The engine with the configuration of files. -/
def Engine.ofFiles (registry : Registry) (files : Files) (paths : List String) : Except LoadFault Engine := do
  let configuration ← Configuration.ofFiles files paths
  (Engine.ofConfiguration registry configuration).mapError .inapplicable

end RecordRules
