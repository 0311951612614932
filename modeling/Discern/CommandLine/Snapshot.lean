import Discern.CommandLine

/-!
# What a run looks at

A run sees the file system as a `FileTree`.  `filesToLoad` and `treesToWalk` say which
paths the tree has to hold for a run with some arguments: the files that make the
configuration and the engine, and what is to be identified.
-/

namespace Discern.CommandLine

/-- **The files that the engine is made from.**  Those that a configuration file names are
known once the tree holds that file. -/
def filesToLoad (t : FileTree) (args : List String) : List Path :=
  match readArguments args with
  | .error _ => []
  | .ok (_, o) =>
    let configured := match loadConfiguration t o with
      | .ok (c, _) => (c.signatureFile.toList ++ c.modulesFile.toList).map Path.mk
      | .error _ => []
    ⟨Configuration.fileName⟩ :: o.config.toList ++ o.signatures.toList ++ o.modules.toList
      ++ configured

/-- **The paths to identify,** with all that lies below them. -/
def treesToWalk (args : List String) : List Path :=
  match readArguments args with
  | .ok (.identify paths, _) => paths
  | .ok (.detect paths, _) => paths
  | _ => []

/-- The places that ignore files may stand in for a walk from a place, and what marks a
repository. -/
def ignoreFiles (place : Place) : List Place :=
  (FileTree.above place).flatMap fun directory =>
    [[".ignore"], [".gitignore"], [".git"], [".git", "info", "exclude"]].map (directory ++ ·)

end Discern.CommandLine
