import PathRouting.Text.Quoted
import PathRouting.Toml.Document

/-!
# Settings

Three values configure an application: the path an in-memory history starts at, the log level, and whether the log is
coloured. They are read from a TOML document with the sections `router` and `logging`. Whatever is not given has its
default, and whatever else the document holds is ignored.
-/

namespace PathRouting

/-- What the router is configured with. -/
structure RouterSettings where
  initialPath : Text
  deriving DecidableEq, Repr

/-- What the log is configured with. -/
structure LoggingSettings where
  level : Text
  ansi : Bool
  deriving DecidableEq, Repr

/-- What an application is configured with. -/
structure Settings extends RouterSettings, LoggingSettings
  deriving DecidableEq, Repr

/-- Why settings cannot be read. The first is about a text, the others about a file. -/
inductive SettingsError where
  | invalid
  | unreadableFile (name : Text)
  | invalidFile (name : Text)
  deriving DecidableEq, Repr

/-- The message of an error. -/
def SettingsError.message : SettingsError → String
  | .invalid => "Invalid waypost configuration"
  | .unreadableFile name => "Failed to read config file: " ++ (Text.quoted name).toString
  | .invalidFile name => "Failed to parse config file: " ++ (Text.quoted name).toString

/-- Reads what may be missing: its default where it is, and else what is given. -/
def fieldOr {α : Type} (default : α) (read : Toml → Option α) : Option Toml → Option α
  | none => some default
  | some v => read v

namespace RouterSettings

/-- The initial path that a section does not give. -/
def defaultInitialPath : Text := ['/']

/-- The settings of a router without a section. -/
def standard : RouterSettings := ⟨defaultInitialPath⟩

/-- The settings that a section holds. -/
def ofToml (v : Toml) : Option RouterSettings := do
  let fields ← v.record? [Text.ofString "initial_path"]
  let initialPath ← fieldOr defaultInitialPath Toml.text? (fields[0]?.join)
  some ⟨initialPath⟩

end RouterSettings

namespace LoggingSettings

/-- The level that a section does not give. -/
def defaultLevel : Text := Text.ofString "info"

/-- Whether the log is coloured where a section does not say so. -/
def defaultAnsi : Bool := true

/-- The settings of a log without a section. -/
def standard : LoggingSettings := ⟨defaultLevel, true⟩

/-- The settings that a section holds. -/
def ofToml (v : Toml) : Option LoggingSettings := do
  let fields ← v.record? [Text.ofString "level", Text.ofString "ansi"]
  let level ← fieldOr defaultLevel Toml.text? (fields[0]?.join)
  let ansi ← fieldOr defaultAnsi Toml.bool? (fields[1]?.join)
  some ⟨level, ansi⟩

end LoggingSettings

namespace Settings

/-- The settings of an application that is not configured. -/
def standard : Settings := ⟨.standard, .standard⟩

/-- The settings that a document holds. -/
def ofToml (document : Toml) : Option Settings := do
  let sections ← document.record? [Text.ofString "router", Text.ofString "logging"]
  let router ← fieldOr .standard RouterSettings.ofToml (sections[0]?.join)
  let logging ← fieldOr .standard LoggingSettings.ofToml (sections[1]?.join)
  some ⟨router, logging⟩

/-- The settings that a text holds. A text of white space alone holds the standard ones. -/
def parse (t : Text) : Except SettingsError Settings :=
  if (Text.trim t).isEmpty then .ok standard
  else match (Toml.parse t).bind ofToml with
    | some s => .ok s
    | none => .error .invalid

end Settings

/-- What a name in a directory stands for. -/
inductive FileEntry where
  | directory
  | file (content : ByteArray)

/-- A directory: the names in it, where a name may lead through directories below. -/
abbrev FileTree : Type := List (Text × FileEntry)

namespace FileTree

/-- The name that leads to the directory above. -/
def above : Text := ['.', '.']

/-- The parts of a name between separators; parts that lead nowhere are left out. -/
def nameParts (name : Text) : List Text :=
  (Text.splitAt '/' name).filter (fun part => !part.isEmpty && part != ['.'])

/-- The name ends as only a directory's can. -/
def namesDirectory (name : Text) : Bool :=
  match (Text.splitAt '/' name).getLast? with
  | some last => last.isEmpty || last == ['.']
  | none => false

/-- What some parts, one below the other, stand for. A directory is also there if a file below it is. -/
def partsEntry? (tree : FileTree) (parts : List Text) : Option FileEntry :=
  match List.find? (fun entry => nameParts entry.1 == parts) tree with
  | some (_, entry) => some entry
  | none => if List.any tree (fun entry => parts.isPrefixOf (nameParts entry.1)) then some .directory else none

/-- What the parts of a name lead to. They start at the directory that some parts of the tree name, or at one outside
the tree, in which nothing is known but the directories above. -/
def follow (tree : FileTree) : (place : Option (List Text)) → List Text → Option FileEntry
  | _, [] => some .directory
  | none, part :: rest => if part = above then tree.follow none rest else none
  | some place, part :: rest =>
    if part = above then tree.follow (if place.isEmpty then none else some place.dropLast) rest
    else
      match tree.partsEntry? (place ++ [part]) with
      | some (.file content) => if rest.isEmpty then some (.file content) else none
      | some .directory => tree.follow (some (place ++ [part])) rest
      | none => none

/-- What a name stands for, if there is such a file or directory. A name that begins with a separator starts outside the
tree. -/
def entry? (tree : FileTree) (name : Text) : Option FileEntry :=
  match name with
  | [] => none
  | first :: _ =>
    match tree.follow (if first = '/' then none else some []) (nameParts name) with
    | some (.file content) => if namesDirectory name then none else some (.file content)
    | found => found

end FileTree

namespace Settings

/-- The name of the file that settings are read from when no other is named. -/
def fileName : Text := Text.ofString "waypost.toml"

/-- The settings that a file holds. Without the file they are the standard ones. -/
def load (tree : FileTree) (name : Text) : Except SettingsError Settings :=
  match tree.entry? name with
  | none => .ok standard
  | some .directory => .error (.unreadableFile name)
  | some (.file content) =>
    match String.fromUTF8? content with
    | none => .error (.unreadableFile name)
    | some s =>
      match parse (Text.ofString s) with
      | .ok settings => .ok settings
      | .error _ => .error (.invalidFile name)

end Settings

end PathRouting
