import ProblemMatcher.File.Tree
import ProblemMatcher.Settings
import ProblemMatcher.Toml.Reader

/-!
# Settings of a project

The settings of a directory are in the nearest `pyproject.toml` at it or above it, in the table
`tool.regexpreview`. Without such a file, and if the file is not TOML, the settings are the usual
ones; so is each setting whose value has the wrong type.
-/

namespace ProblemMatcher

inductive SettingsFault
  | unreachable (fault : FileFault) (path : Path)
  | notUtf8 (fault : Text.Utf8Fault)
  | integerTooLong (digits : Nat)
  | tooDeep
  /-- A value stands where the table of settings or the one around it should be. -/
  | notTable (kind : String)
  deriving Repr, DecidableEq

namespace SettingsFault

def message : SettingsFault → String
  | .unreachable fault path => fault.message path
  | .notUtf8 fault => fault.message
  | .integerTooLong digits => Text.tooManyDigitsMessage digits
  | .tooDeep => "maximum recursion depth exceeded"
  | .notTable kind => s!"'{kind}' object has no attribute 'get'"

end SettingsFault

namespace Settings

def fileName : Path := ⟨"", ["pyproject.toml"]⟩

/-- The first of some directories that has a settings file. -/
def nearestOf (t : FileTree) : List Path → Except SettingsFault (Option Path)
  | [] => .ok none
  | directory :: rest =>
    match t.isFile (directory.join fileName) with
    | .ok true => .ok (some directory)
    | .ok false => nearestOf t rest
    | .error fault => .error (.unreachable fault (directory.join fileName))

/-- The directory of the settings file that counts for a directory. -/
def nearest (t : FileTree) (start : Path) : Except SettingsFault (Option Path) :=
  nearestOf t (start :: start.parents)

/-- The table under a name, empty if there is none. -/
def subtable (t : Toml.Table) (name : String) : Except SettingsFault Toml.Table :=
  match t.get? name.toList with
  | none => .ok []
  | some (.table u) => .ok u
  | some v => .error (.notTable v.kind)

/-- What is chosen for `inject`: the value under one name, or else under another. -/
def injectValue? (t : Toml.Table) : Option Toml.Value :=
  match t.get? "autoInjectGlobalMultiline".toList with
  | some v => some v
  | none => t.get? "auto-inject-global-multiline".toList

/-- The settings in a table; a sample is found from the directory of the file. -/
def ofTable (directory : Path) (t : Toml.Table) : Settings where
  inject := match injectValue? t with
    | some (.bool b) => b
    | _ => true
  maxChars := match t.get? "max-input-chars".toList with
    | some (.int n) => if 0 < n then n else ({} : Settings).maxChars
    | _ => ({} : Settings).maxChars
  sample := match t.get? "sample".toList with
    | some (.str s) => some (directory.join (.ofString (String.ofList s)))
    | _ => none

/-- The settings in a document. -/
def ofDocument (directory : Path) (doc : Toml.Table) : Except SettingsFault Settings := do
  let tool ← subtable doc "tool"
  return ofTable directory (← subtable tool "regexpreview")

/-- The settings in the bytes of a file. -/
def ofBytes (directory : Path) (bytes : List UInt8) : Except SettingsFault Settings :=
  match Text.decodeUtf8 bytes with
  | .error fault => .error (.notUtf8 fault)
  | .ok text =>
    match Toml.parse text with
    | .ok doc => ofDocument directory doc
    | .error (.integerTooLong digits) => .error (.integerTooLong digits)
    | .error .tooDeep => .error .tooDeep
    | .error .malformed => .ok {}

/-- The settings that count for a directory. -/
def load (t : FileTree) (start : Path) : Except SettingsFault Settings := do
  match ← nearest t start with
  | none => return {}
  | some directory =>
    match t.readBytes (directory.join fileName) with
    | .ok bytes => ofBytes directory bytes
    -- what has been found to be a file can be read, as permissions are left out
    | .error _ => return {}

end Settings

end ProblemMatcher
