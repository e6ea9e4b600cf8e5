import AccessLayer.Files.Path

namespace AccessLayer

/-- What happens when an artifact cannot be written. -/
inductive WritePolicy
  /-- The run ends there; what is written stays. -/
  | abort
  /-- The failure is noted, and the run goes on. -/
  | continue
  deriving DecidableEq, Repr

/-- What a run is asked to do. -/
structure Options where
  schema : Path
  /-- The target language as it was asked for. -/
  language : String
  output : Path
  service : String
  policy : WritePolicy
  /-- Artifacts are rendered and their paths reported, and nothing is written. -/
  dryRun : Bool
  /-- Whether the run looks at the cancellation flag between tables. -/
  watched : Bool
  deriving DecidableEq, Repr

namespace Options

/-- The language when none is asked for. -/
def defaultLanguage : String := "rust"

/-- The output directory when none is asked for. -/
def defaultOutput : Path := ⟨"./src"⟩

/-- The name of the service when none is given. -/
def defaultService : String := "service"

/-- A run for a schema in which everything else is left to the defaults. -/
def ofSchema (schema : Path) (language : String) : Options where
  schema := schema
  language := language
  output := defaultOutput
  service := defaultService
  policy := .abort
  dryRun := false
  watched := false

end Options

end AccessLayer
