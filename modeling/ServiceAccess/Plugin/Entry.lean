import ServiceAccess.Plugin.Manifest

/-! # Entry modules

Where the code of a plugin starts: the module that its package file declares, if there is one, else the
first of the usual places that exists. -/

namespace ServiceAccess.Entry

/-- The places where an entry module is looked for. -/
def usualPlaces : List String :=
  ["index.ts", "index.js", "index.mts", "index.mjs", "src/index.ts", "src/index.js"]

/-- The entry module that the content of a package file declares. -/
def declaredIn (package : Json) : Option String := do
  let own ← package.member? "serviceConnectors"
  let entry ← own.member? "entry"
  entry.text?

/-- The entry module that the package file of a directory declares. -/
def declared (tree : FileTree) (dir : String) : Except Failure (Option String) :=
  let path := Text.Path.join dir "package.json"
  if tree.contains path then do
    let text ← tree.read path
    let package ← Manifest.parseJson text
    return declaredIn package
  else .ok none

/-- The path of the entry module of a directory, if there is one. -/
def resolve (tree : FileTree) (dir : String) : Except Failure (Option String) := do
  let declaration ← declared tree dir
  let candidates := (declaration.toList ++ usualPlaces).map (Text.Path.join dir)
  return candidates.find? tree.contains

end ServiceAccess.Entry
