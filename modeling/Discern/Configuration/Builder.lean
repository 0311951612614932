import Discern.Configuration

/-!
# Building configurations

A `ConfigurationBuilder` collects settings.  Building gives the settings that were
collected, or the defaults in their place, and begins anew.
-/

namespace Discern

/-- **A configuration in the making.**  A read limit can be set to "no limit", which is
not the same as not setting it. -/
structure ConfigurationBuilder where
  maxRecursion : Option UInt64 := none
  readLimit : Option (Option UInt64) := none
  maxFileSize : Option UInt64 := none
  enabledFormats : List String := []
  signatureFile : Option String := none
  modulesFile : Option String := none
  disabledDetectors : List String := []
  disabledDecoders : List String := []
  exclude : Option (List String) := none
deriving DecidableEq, Inhabited

namespace ConfigurationBuilder

/-- The settings, valid or not. -/
def settings (b : ConfigurationBuilder) : Configuration :=
  let fallback := Configuration.default
  { maxRecursion := b.maxRecursion.getD fallback.maxRecursion
    readLimit := b.readLimit.getD fallback.readLimit
    maxFileSize := b.maxFileSize.getD fallback.maxFileSize
    enabledFormats := b.enabledFormats
    signatureFile := b.signatureFile
    modulesFile := b.modulesFile
    disabledDetectors := b.disabledDetectors
    disabledDecoders := b.disabledDecoders
    exclude := b.exclude.getD fallback.exclude }

/-- **The configuration if it is valid,** and the builder after it, which has forgotten
all settings. -/
def build (b : ConfigurationBuilder) :
    Except ConfigError Configuration × ConfigurationBuilder :=
  (b.settings.validate.map fun _ => b.settings, {})

/-- Look for a format too. -/
def enableFormat (b : ConfigurationBuilder) (tag : String) : ConfigurationBuilder :=
  { b with enabledFormats := b.enabledFormats ++ [tag] }

def disableDetector (b : ConfigurationBuilder) (name : String) : ConfigurationBuilder :=
  { b with disabledDetectors := b.disabledDetectors ++ [name] }

def disableDecoder (b : ConfigurationBuilder) (tag : String) : ConfigurationBuilder :=
  { b with disabledDecoders := b.disabledDecoders ++ [tag] }

end ConfigurationBuilder

end Discern
