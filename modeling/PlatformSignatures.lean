import PlatformSignatures.CommandLine
import PlatformSignatures.Main
import PlatformSignatures.Proofs.OrderedSets
import PlatformSignatures.Proofs.PlatformMaps
import PlatformSignatures.Proofs.Grouping
import PlatformSignatures.Proofs.MarkedTypes
import PlatformSignatures.Proofs.Correspondence
import PlatformSignatures.Proofs.Following
import PlatformSignatures.Proofs.ReindexedSignatures
import PlatformSignatures.Proofs.Slicing
import PlatformSignatures.Proofs.Retagging
import PlatformSignatures.Proofs.Spreading
import PlatformSignatures.Proofs.Coverage
import PlatformSignatures.Proofs.Lines
import PlatformSignatures.Proofs.AliasPlatforms
import PlatformSignatures.Proofs.NormalForms
import PlatformSignatures.Proofs.ReadingTypes
import PlatformSignatures.Proofs.RedundantForks
import PlatformSignatures.Proofs.Folding
import PlatformSignatures.Proofs.ShownParts
import PlatformSignatures.Proofs.Trees
import PlatformSignatures.Proofs.InsideSymbols
import PlatformSignatures.Proofs.Skeleton
import PlatformSignatures.Proofs.Nesting
import PlatformSignatures.Proofs.PrimaryConstructors
import PlatformSignatures.Proofs.FirstGap
import PlatformSignatures.Proofs.JavaErasure
import PlatformSignatures.Proofs.JsonText
import PlatformSignatures.Proofs.Documents
import PlatformSignatures.Proofs.DecodingDepth
import PlatformSignatures.Proofs.DocumentPlaces
import PlatformSignatures.Proofs.ReadingFields
import PlatformSignatures.Proofs.RewrittenDocuments
import PlatformSignatures.Proofs.IndentedJson
import PlatformSignatures.Proofs.Capitals
import PlatformSignatures.Proofs.Strings
import PlatformSignatures.Proofs.LineBreaks
import PlatformSignatures.Proofs.CommandRuns
import PlatformSignatures.Proofs.WrittenWords
import PlatformSignatures.Proofs.SplittingWords
import PlatformSignatures.Proofs.Phrases
import PlatformSignatures.Proofs.ForgottenLinks
import PlatformSignatures.Proofs.SpelledAlike
import PlatformSignatures.Proofs.GroupOrder
import PlatformSignatures.Proofs.Tokens
import PlatformSignatures.Proofs.TypeTable
import PlatformSignatures.Proofs.TabledTypes
import PlatformSignatures.Proofs.WrittenAnnotations
import PlatformSignatures.Proofs.ShownAnnotations
import PlatformSignatures.Proofs.Agreement
import PlatformSignatures.Proofs.CreatedNodes
import PlatformSignatures.Proofs.WrittenConfigurations
import PlatformSignatures.Proofs.MergedConfigurations
import PlatformSignatures.Proofs.TreeDocuments
import PlatformSignatures.Proofs.OutermostSymbols
