import PapyrusWriter.Host.Path
import PapyrusWriter.Yaml.Value
/-!
# The manifest of a project

A manifest names the project, the places of its scripts and of the engine's compiler, the files to
transpile, the entries that every directive table starts with, and the game. It is read from YAML;
the manifest of a new project is written as YAML.
-/

namespace PapyrusWriter

set_option autoImplicit false

structure Manifest where
  projectName : String
  projectVersion : String
  scriptFolder : String
  scriptOutput : String
  flags : String
  compiler : String
  sourceGlob : String
  globalDefines : List (String × Yaml.Value)
  game : String

namespace Manifest

/-- The name of the file that holds a manifest. -/
def fileName : String := "project.yaml"

def defaultSourceGlob : String := "**/*.pps.json"

def defaultGame : String := "SkyrimSE"

/-! ## Reading -/

open Yaml (Tree Reading ReadError NodePath Mark Value)

/-- The fields that a manifest has so far. -/
structure Fields where
  texts : List (String × String) := []
  defines : Option (List (String × Value)) := none

/-- The fields that are texts, with what their values are expected to be. -/
def textFields : List (String × String) :=
  [("projectName", "a string"), ("projectVersion", "a string"), ("scriptFolderPath", "path string"),
    ("scriptOutputPath", "path string"), ("papyrusFlagsPath", "path string"),
    ("papyrusCompilerPath", "path string"), ("sourceGlob", "a string"), ("game", "a string")]

def definesField : String := "globalDefines"

/-- Collections are nested at most this deep. -/
def depthLimit : Nat := 128

/-- The entries with the value of a key replaced, or with the key appended. -/
def setDefine (key : String) (value : Value) : List (String × Value) → List (String × Value)
  | [] => [(key, value)]
  | (other, old) :: rest =>
      if other = key then (other, value) :: rest else (other, old) :: setDefine key value rest

/-- The entries of a mapping with texts as keys, a repeated key with its last value. A node that is
left out is an empty mapping. -/
def readDefines (tree : Tree) (path : NodePath) (item : Yaml.Item) :
    Reading (List (String × Value)) := do
  match ← tree.follow item with
  | .collection _ .mapping items cut =>
      tree.readPairs cut (fun entries key item => do
        let name ← tree.text "a string" path key
        return setDefine name (← tree.value (depthLimit - 2) (key.step :: path) (← item)) entries)
        items []
  | .scalar _ .plain "" => return []
  | node => throw (node.unexpected "a map" path)

/-- Takes up a field. Unknown ones are passed over; a field cannot be given twice. -/
def Fields.take (tree : Tree) (mark : Mark) (fields : Fields) (key : Yaml.Item)
    (item : Reading Yaml.Item) : Reading Fields := do
  let name ← tree.text "field identifier" [] key
  let repeated : ReadError := .mismatch (.duplicateField name) [] mark
  if name = definesField then
    if fields.defines.isSome then throw repeated
    return { fields with defines := some (← readDefines tree [key.step] (← item)) }
  else
    match textFields.lookup name with
    | none =>
        let _ ← item
        return fields
    | some expected =>
        if (fields.texts.lookup name).isSome then throw repeated
        let text ← tree.text expected [key.step] (← item)
        return { fields with texts := (name, text) :: fields.texts }

/-- The manifest of given fields. The first one that is needed and not given is an error. -/
def Fields.finish (fields : Fields) (mark : Mark) : Except ReadError Manifest := do
  let needed (name : String) : Except ReadError String :=
    match fields.texts.lookup name with
    | some text => .ok text
    | none => .error (.mismatch (.missingField name) [] mark)
  return {
    projectName := ← needed "projectName"
    projectVersion := ← needed "projectVersion"
    scriptFolder := ← needed "scriptFolderPath"
    scriptOutput := ← needed "scriptOutputPath"
    flags := ← needed "papyrusFlagsPath"
    compiler := ← needed "papyrusCompilerPath"
    sourceGlob := (fields.texts.lookup "sourceGlob").getD defaultSourceGlob
    globalDefines := fields.defines.getD []
    game := (fields.texts.lookup "game").getD defaultGame }

/-- The manifest that the root of a tree holds. -/
def ofItem (tree : Tree) (item : Yaml.Item) : Reading Manifest := do
  match ← tree.follow item with
  | .collection label .mapping items cut =>
      let fields ← tree.readPairs cut (Fields.take tree label.mark) items {}
      fields.finish label.mark
  | .scalar label .plain "" => Fields.finish {} label.mark
  | node => throw (node.unexpected "struct ProjectManifest" [])

/-- The manifest that a text holds. A fault behind what was read still counts, and so does a second
document. -/
def read (text : String) : Except ReadError Manifest := do
  let tree := Tree.ofText text
  match tree.root with
  | none => throw tree.cutError
  | some item =>
      let manifest ← tree.reading (ofItem tree item)
      match tree.fault with
      | some fault => throw (.fault fault)
      | none => if tree.more then throw .moreThanOneDocument else return manifest

/-! ## Directive table entries -/

/-- The text of a define; a bare key counts as true, and collections have none. -/
def defineText? : Value → Option String
  | .scalar .null => some "true"
  | .scalar (.bool value) => some (if value then "true" else "false")
  | .scalar (.number number) => some number.text
  | .scalar (.text text) => some text
  | _ => none

/-- The defines as entries of a directive table, or the first name whose value is no scalar. -/
def definesOf : List (String × Value) → Except String (List (String × String))
  | [] => .ok []
  | (name, value) :: rest =>
      match defineText? value with
      | some text => (definesOf rest).map ((name, text) :: ·)
      | none => .error name

def defines (manifest : Manifest) : Except String (List (String × String)) :=
  definesOf manifest.globalDefines

/-! ## Places -/

/-- The places that a manifest names, below the directory of the project. -/
structure Places where
  scriptFolder : String
  scriptOutput : String
  flags : String
  compiler : String

def places (manifest : Manifest) (project : String) : Places where
  scriptFolder := Path.join project manifest.scriptFolder
  scriptOutput := Path.join project manifest.scriptOutput
  flags := Path.join project manifest.flags
  compiler := Path.join project manifest.compiler

/-! ## Writing -/

/-- The manifest of a new project, laid out like an installation of the game. -/
def scaffold : Manifest where
  projectName := "New Project"
  projectVersion := "1.0.0"
  scriptFolder := "Data/Scripts/Source"
  scriptOutput := "Data/Scripts"
  flags := "Data/Scripts/Source/TESV_Papyrus_Flags.flg"
  compiler := "Papyrus Compiler/PapyrusCompiler.exe"
  sourceGlob := "src/" ++ defaultSourceGlob
  globalDefines := [("DEBUG", .scalar (.text "true"))]
  game := defaultGame

/-- A text as YAML: plain, or in quotes if it would be read as something else. -/
def yamlText (text : String) : String :=
  match Yaml.Scalar.ofPlain text with
  | .text _ => text
  | _ => "'" ++ text ++ "'"

/-- A define as a line of YAML. -/
def yamlDefine : String × Value → String
  | (name, .scalar (.text text)) => "  " ++ name ++ ": " ++ yamlText text ++ "\n"
  | (name, value) => "  " ++ name ++ ": " ++ (defineText? value).getD "" ++ "\n"

/-- A manifest as YAML, one field after the other. -/
def yaml (manifest : Manifest) : String :=
  let line (name text : String) := name ++ ": " ++ yamlText text ++ "\n"
  line "projectName" manifest.projectName ++
    line "projectVersion" manifest.projectVersion ++
    line "scriptFolderPath" manifest.scriptFolder ++
    line "scriptOutputPath" manifest.scriptOutput ++
    line "papyrusFlagsPath" manifest.flags ++
    line "papyrusCompilerPath" manifest.compiler ++
    line "sourceGlob" manifest.sourceGlob ++
    (definesField ++ ":\n" ++ String.join (manifest.globalDefines.map yamlDefine)) ++
    line "game" manifest.game

end Manifest

end PapyrusWriter
