import LSystems.Folder
import LSystems.LogSetup
import LSystems.Main
import LSystems.Proofs.FailedRender
import LSystems.Proofs.FirstRender
import LSystems.Proofs.Generations
import LSystems.Proofs.LastScale
import LSystems.Proofs.RenderEvents
import LSystems.RuleText
import LSystems.Proofs.Brackets
import LSystems.Proofs.BaseDistance
import LSystems.Proofs.InfiniteHeading
import LSystems.Proofs.LostWay
import LSystems.Proofs.JsonFaults
import LSystems.Proofs.LargestFloat
import LSystems.Proofs.DefinitionFaults
import LSystems.Proofs.Configured
import LSystems.Proofs.Workload
import LSystems.Proofs.Written
import LSystems.Proofs.FloatOrder
import LSystems.Proofs.Substitution
import LSystems.Proofs.DryPass
import LSystems.Proofs.Underflow
import LSystems.Proofs.Strokes
import LSystems.Proofs.Branches
import LSystems.Proofs.DefinitionContent
import LSystems.Proofs.Waiting
import LSystems.Proofs.Pieces
import LSystems.Proofs.Spacing
import LSystems.Proofs.Milestones
import LSystems.Proofs.SymbolCounts
import LSystems.Proofs.RuleTexts
import LSystems.Proofs.SettingBounds
import LSystems.Proofs.Shutdown
