import BoxDiagram.Files.Directory
import BoxDiagram.Main
import BoxDiagram.Proofs.AddedEdge
import BoxDiagram.Proofs.ArcLength
import BoxDiagram.Proofs.Arrowheads
import BoxDiagram.Proofs.CommonContainer
import BoxDiagram.Proofs.DrawnTree
import BoxDiagram.Proofs.EndpointResolution
import BoxDiagram.Proofs.FlowOrder
import BoxDiagram.Proofs.ForwardLayers
import BoxDiagram.Proofs.LabelSearch
import BoxDiagram.Proofs.MirroredLayout
import BoxDiagram.Proofs.NestedLayout
import BoxDiagram.Proofs.PaintersOrder
import BoxDiagram.Proofs.RankedChildren
import BoxDiagram.Proofs.RequestOptions
import BoxDiagram.Proofs.RoundedBends
import BoxDiagram.Proofs.SessionFiles
import BoxDiagram.Proofs.SpreadPorts
import BoxDiagram.Proofs.TouchingRoutes
import BoxDiagram.Proofs.ValidationReport
import BoxDiagram.Proofs.FittingLegend
import BoxDiagram.Proofs.LeafTexts
import BoxDiagram.Proofs.LabelTexts
import BoxDiagram.Proofs.CollectedLayers
import BoxDiagram.Proofs.DefinedArrowheads
import BoxDiagram.Proofs.ColourLookup
import BoxDiagram.Proofs.DeclaredBoxes
import BoxDiagram.Proofs.MissingTexts
import BoxDiagram.Proofs.OptionGrammar
import BoxDiagram.Proofs.GrowingTexts
import BoxDiagram.Proofs.InferredSides
import BoxDiagram.Proofs.EdgeReferences
import BoxDiagram.Proofs.WalkOrder
import BoxDiagram.Proofs.ProperContainers
import BoxDiagram.Proofs.TitleRoom
import BoxDiagram.Proofs.TraversalOrder
