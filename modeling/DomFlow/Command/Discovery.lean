import DomFlow.Config.Basic
import DomFlow.Files.Tree

/-! # Discovery of scripts

Below a folder, all scripts are found in the order of their names, folder by folder. Hidden folders and files
are passed over, and so is whatever the configuration leaves out. -/

namespace DomFlow.Command

def scriptExtensions : List String := ["js", "mjs", "cjs"]

def isScriptName (name : String) : Bool := (Path.extension? name).any scriptExtensions.contains

def isHiddenName (name : String) : Bool := name.toList.head? == some '.' || name == "node_modules"

mutual

/-- The scripts at a path, which leads to the given tree. -/
def scriptsAt (c : Config) (path : String) : FileTree → List String
  | .file _ => if (Path.fileName? path).any isScriptName then [path] else []
  | .folder es => (Assoc.inOrder (scriptsIn c path es)).flatMap (·.2)

/-- The scripts at every entry of a folder, with the name of the entry. -/
def scriptsIn (c : Config) (path : String) : List (String × FileTree) → List (String × List String)
  | [] => []
  | (name, t) :: r =>
    let inner := Path.join path name
    if isHiddenName name || c.isExcluded inner then scriptsIn c path r
    else (name, scriptsAt c inner t) :: scriptsIn c path r

end

/-- The scripts below a path, or nothing if it leads nowhere. -/
def discover (files : FileTree) (c : Config) (path : String) : Option (List String) :=
  (files.get? path).map (scriptsAt c path)

end DomFlow.Command
