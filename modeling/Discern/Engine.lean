import Discern.Configuration
import Discern.Error
import Discern.Files.Tree
import Discern.Library.BuiltIn
import Discern.Library.Encoding
import Discern.Source
import Discern.Stream.Buffered

/-!
# Engines

An engine is made from a configuration, with everything loaded and checked that an
identification needs.  It classifies sources by their signatures, and detects the layers
of streams.
-/

namespace Discern

/-- **A prepared library and strategy,** with the tags to look for and the exclusions of
walks. -/
structure Engine where
  configuration : Configuration
  library : Library
  strategy : Strategy
  enabled : TagSet
  exclusions : List Exclusion

namespace FileTree

/-- The library document in a file, whose extension says how it is written. -/
def loadDocument (t : FileTree) (path : Path) : Except Error LibraryDocument :=
  match Encoding.ofPath? path with
  | none => .error (.config (.library (.unsupportedFile path.text)))
  | some encoding =>
    match t.readText path with
    | .error fault => .error (.fileRead path fault)
    | .ok text =>
      (LibraryDocument.read encoding path.text text).mapError fun e => .config (.library e)

/-- **The library in a file.** -/
def loadLibrary (t : FileTree) (path : Path) : Except Error Library := do
  (← t.loadDocument path).toLibrary.mapError fun e => .config (.library e)

/-- **The rule table in a file.** -/
def loadTable (t : FileTree) (path : Path) : Except Error RuleTable :=
  match t.readText path with
  | .error fault => .error (.fileRead path fault)
  | .ok text => (RuleTable.read text).mapError fun e => .config (.table e)

/-- **The content of a regular file** of at most `limit` bytes. -/
def loadContent (t : FileTree) (limit : Nat) (path : Path) : Except Error Bytes :=
  match t.look path with
  | .error fault => .error (.fileRead path fault)
  | .ok .directory => .error (.notRegular path)
  | .ok (.file content) =>
    if limit < content.length then .error (.fileTooBig path content.length limit)
    else .ok content

end FileTree

namespace Configuration

/-- The library that a configuration names, or the built-in one. -/
def library (c : Configuration) (t : FileTree) : Except Error Library :=
  match c.signatureFile with
  | some path => t.loadLibrary ⟨path⟩
  | none => LibraryDocument.builtIn.toLibrary.mapError fun e => .config (.library e)

/-- The rule table that a configuration names, or the built-in one. -/
def table (c : Configuration) (t : FileTree) : Except Error RuleTable :=
  match c.modulesFile with
  | some path => t.loadTable ⟨path⟩
  | none => RuleTable.builtIn.mapError fun e => .config (.table e)

/-- **The strategy of a configuration:** the two detectors and the decoders that the
library knows, without the disabled ones. -/
def strategy (c : Configuration) (library : Library) (table : RuleTable) : Strategy :=
  let all := (StrategyBuilder.fresh.detector
    (Detector.ofLibrary library (c.readLimit.map UInt64.toNat))).detector (Detector.ofTable table)
  let bounded := { all.withDefaultDecoders with
    maxRecursion := c.maxRecursion, readLimit := c.readLimit }
  let fewer := c.disabledDetectors.foldl StrategyBuilder.withoutDetector bounded
  (c.disabledDecoders.foldl (fun b tag => b.withoutDecoder (.ofString tag)) fewer).build.1

end Configuration

namespace Engine

/-- **Make an engine.**  The configuration is checked before any file is read, and the
library is loaded before the rule table. -/
def make (t : FileTree) (c : Configuration) : Except Error Engine :=
  match c.validate, c.exclusions with
  | .error e, _ => .error (.config e)
  | _, .error e => .error (.config e)
  | .ok (), .ok exclusions =>
    match c.library t with
    | .error e => .error e
    | .ok library =>
      match c.table t with
      | .error e => .error e
      | .ok table =>
        let strategy := c.strategy library table
        .ok {
          configuration := c, library, strategy, exclusions
          enabled := c.enabled strategy.declared }

/-- **Classify a source** by its signatures. -/
def classify (e : Engine) (source : Source) : Option (Except Error Classification) :=
  (e.library.classifySource source).map (·.mapError .stream)

/-- The content of a file is classified as a source that holds it. -/
theorem classify_ofBytes (e : Engine) (content : Bytes) (name : Option String) :
    e.classify (.ofBytes content name) = some (.ok (e.library.classify content name)) := by
  rw [classify, Library.classifySource, Source.contents_ofBytes]
  rfl

/-- **Detect the layers of a stream.** -/
def detect (e : Engine) (stream : ByteStream) : Except Error Detection :=
  match (e.strategy.run e.enabled stream).result with
  | .ok detection => .ok detection
  | .error error => .error (.stream error)

/-- The content of a file, unless it is too big. -/
def load (e : Engine) (t : FileTree) (path : Path) : Except Error Bytes :=
  t.loadContent e.configuration.maxFileSize.toNat path

/-- **Classify a file** by its signatures and its path.  Its content is held in memory, so that
it can always be classified (`Engine.classify_ofBytes`). -/
def classifyPath (e : Engine) (t : FileTree) (path : Path) : Except Error Classification := do
  return e.library.classify (← e.load t path) (some path.text)

/-- **Detect the layers of a file.** -/
def detectPath (e : Engine) (t : FileTree) (path : Path) : Except Error Detection :=
  match e.load t path with
  | .error error => .error error
  | .ok content => e.detect (.buffered Cursor.kind.toReader (.start content) none)

/-- The layers of a file. -/
def layersOf (e : Engine) (t : FileTree) (path : Path) : Except Error (List FormatId) :=
  match e.detectPath t path with
  | .error error => .error error
  | .ok detection => .ok detection.layers

end Engine

end Discern
