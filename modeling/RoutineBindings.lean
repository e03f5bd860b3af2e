import RoutineBindings.Files.Tree
import RoutineBindings.Main
import RoutineBindings.Proofs.Resolution
import RoutineBindings.Proofs.PositionalViews
import RoutineBindings.Proofs.AllOrNothing
import RoutineBindings.Proofs.ByteOrder
import RoutineBindings.Proofs.ImportBlock
import RoutineBindings.Proofs.GoMeaning
import RoutineBindings.Proofs.GoStates
import RoutineBindings.Proofs.WrapperMeaning
import RoutineBindings.Proofs.WrapperRuns
import RoutineBindings.Proofs.RowResults
import RoutineBindings.Proofs.NameCapture
import RoutineBindings.Proofs.StuckRuns
import RoutineBindings.Proofs.ResolutionEffects
import RoutineBindings.Proofs.ArgumentLists
import RoutineBindings.Proofs.ResultShapes
import RoutineBindings.Proofs.OuterNames
import RoutineBindings.Proofs.DeclarationRules
import RoutineBindings.Proofs.RoutineNames
import RoutineBindings.Proofs.DeclarationTexts
import RoutineBindings.Proofs.EnumDeclarations
import RoutineBindings.Proofs.FileLayout
import RoutineBindings.Proofs.OrderIndependence
import RoutineBindings.Proofs.CatalogQuestions
import RoutineBindings.Proofs.RefusedQuestions
import RoutineBindings.Proofs.EnumTypes
import RoutineBindings.Proofs.ArrayImports
import RoutineBindings.Proofs.ParameterNames
import RoutineBindings.Proofs.Previews
import RoutineBindings.Proofs.EffectiveSettings
import RoutineBindings.Proofs.QueryForms
import RoutineBindings.Proofs.CollectionMarks
import RoutineBindings.Proofs.DocComments
import RoutineBindings.Proofs.EnumMeaning
import RoutineBindings.Proofs.ArgumentReading
import RoutineBindings.Proofs.RoutineLookups
import RoutineBindings.Proofs.ConnectionUrls
import RoutineBindings.Proofs.ArrayFormatting
import RoutineBindings.Proofs.QuotedTexts
import RoutineBindings.Proofs.IndentedBlocks
import RoutineBindings.Proofs.ExpressionReading
import RoutineBindings.Proofs.CamelWords
import RoutineBindings.Proofs.UsableNames
import RoutineBindings.Proofs.AcronymEndings
import RoutineBindings.Proofs.WrittenLines
import RoutineBindings.Proofs.RefusedWrites
import RoutineBindings.Proofs.RegistryHistories
import RoutineBindings.Proofs.JoinedPieces
