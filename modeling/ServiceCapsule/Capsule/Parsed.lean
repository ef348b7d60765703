import ServiceCapsule.Capsule.Extraction
import ServiceCapsule.Capsule.Manifest
import ServiceCapsule.Capsule.Metrics
import ServiceCapsule.TypeScript.Program

/-!
# Parsed capsules

All that is known of a capsule once its sources were read.
-/

namespace ServiceCapsule

structure SourceFile where
  path : Path
  content : String
  deriving DecidableEq, Repr, Inhabited

structure ParsedCapsule where
  metadata : Metadata
  analysis : Analysis
  metrics : Metrics
  quality : Quality
  sources : List Path
  deriving Repr, Inhabited

structure SourceFacts where
  analysis : Analysis
  metrics : FileMetrics
  usesBrowser : Bool

namespace SourceFacts

/-- Markup may stand in the sources with the longer extension. -/
def hasMarkup (path : Path) : Bool := path.extension? == some "tsx"

/-- Facts of a source with a tree; its path is given below the root. -/
def ofTree (root : Path) (source : SourceFile) (tree : TypeScript.Tree) : SourceFacts :=
  let file := (root.below? source.path).getD source.path
  let scope : Extraction.Scope := ⟨source.content, file⟩
  { analysis := Extraction.ofTree scope tree
    metrics := ⟨file, Text.lineCount source.content, Metrics.complexityOf source.content tree⟩
    usesBrowser := Extraction.usesBrowser scope tree }

def ofSource (root : Path) (source : SourceFile) : SourceFacts :=
  ofTree root source (TypeScript.parse source.content (hasMarkup source.path))

end SourceFacts

namespace Analysis

/-- The facts of all sources in one analysis, error classes told apart. -/
def ofFacts (facts : List SourceFacts) : Analysis :=
  let all := concat (facts.map (·.analysis))
  { all with errors := errorClasses all.classes }

end Analysis

namespace ParsedCapsule

/-- A capsule from the facts of its sources. -/
def ofFacts (root : Path) (manifest : Option Manifest) (paths : List Path)
    (facts : List SourceFacts) : ParsedCapsule :=
  let analysis := Analysis.ofFacts facts
  { metadata := Metadata.build root manifest analysis (facts.any (·.usesBrowser))
    analysis := analysis
    metrics := Metrics.ofFiles (facts.map (·.metrics))
    quality := Quality.ofAnalysis analysis
    sources := paths }

def ofSources (root : Path) (sources : List SourceFile) (manifest : Option Manifest) :
    ParsedCapsule :=
  ofFacts root manifest (sources.map (·.path)) (sources.map (SourceFacts.ofSource root))

end ParsedCapsule
end ServiceCapsule
