import SceneCatalog.Main
import SceneCatalog.Number.Reading
import SceneCatalog.Object.Conversion
import SceneCatalog.Scene.RenderOptions
import SceneCatalog.Scene.Scene
import SceneCatalog.Value.Inspection
import SceneCatalog.Proofs.Object.Assignment
import SceneCatalog.Proofs.Object.Batches
import SceneCatalog.Proofs.Schema.Review
import SceneCatalog.Proofs.Options.Collecting
import SceneCatalog.Proofs.Schema.Gathering
import SceneCatalog.Proofs.Schema.Ancestry
import SceneCatalog.Proofs.Object.Reading
import SceneCatalog.Proofs.Scene.Graph
import SceneCatalog.Proofs.Text.Marks
import SceneCatalog.Proofs.Scene.Outcome
import SceneCatalog.Proofs.Scene.Texts
import SceneCatalog.Proofs.Catalog.Contents
import SceneCatalog.Proofs.Scene.Sound
import SceneCatalog.Proofs.Scene.Suitable
import SceneCatalog.Proofs.Scene.Clauses
import SceneCatalog.Proofs.Scene.Composers
import SceneCatalog.Proofs.Scene.Layouts
import SceneCatalog.Proofs.Scene.Rendering
import SceneCatalog.Proofs.Scene.Completeness
import SceneCatalog.Proofs.Scene.Shifting
import SceneCatalog.Proofs.Scene.Balance
import SceneCatalog.Proofs.Scene.Alike
import SceneCatalog.Proofs.Scene.Dependence
import SceneCatalog.Proofs.Scene.Identifier
import SceneCatalog.Proofs.Scene.RenderLines
import SceneCatalog.Proofs.Source.Generation
import SceneCatalog.Proofs.Scene.Coverage
import SceneCatalog.Proofs.Text.Words
import SceneCatalog.Proofs.Source.Identifiers
import SceneCatalog.Proofs.Source.Members
import SceneCatalog.Proofs.Source.Items
import SceneCatalog.Proofs.Text.Trimming
import SceneCatalog.Proofs.Source.Layout
import SceneCatalog.Proofs.Object.Finite
import SceneCatalog.Proofs.Object.Initial
import SceneCatalog.Proofs.Scene.Assembly
import SceneCatalog.Proofs.Text.OneLine
import SceneCatalog.Proofs.Source.SingleLines
import SceneCatalog.Proofs.Source.Outline
import SceneCatalog.Proofs.Value.Promotion
import SceneCatalog.Proofs.Object.Required
import SceneCatalog.Proofs.Scene.Activity
import SceneCatalog.Proofs.Object.Channels
import SceneCatalog.Proofs.Scene.Bodies
import SceneCatalog.Proofs.Scene.HeightFields
import SceneCatalog.Proofs.Scene.Combinations
import SceneCatalog.Proofs.Scene.Switches
import SceneCatalog.Proofs.Scene.Fractals
import SceneCatalog.Proofs.Scene.Listings
import SceneCatalog.Proofs.Scene.Keywords
import SceneCatalog.Proofs.Text.Literals
import SceneCatalog.Proofs.Text.Paragraphs
import SceneCatalog.Proofs.Text.Alignment
import SceneCatalog.Proofs.Source.Dividers
import SceneCatalog.Proofs.Source.Dispatch
