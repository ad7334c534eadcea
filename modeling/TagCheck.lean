import TagCheck.Config.Printer
import TagCheck.Main
import TagCheck.Proofs.Acceptance
import TagCheck.Proofs.LineComments
import TagCheck.Proofs.Regions
import TagCheck.Proofs.DefectSites
import TagCheck.Proofs.Finality
import TagCheck.Proofs.MarkupTree
import TagCheck.Proofs.Rendering
import TagCheck.Proofs.DepthLimit
import TagCheck.Proofs.Composition
import TagCheck.Proofs.Batches
import TagCheck.Proofs.RunModes
import TagCheck.Proofs.LineEndings
import TagCheck.Proofs.CheckedScanner
import TagCheck.Proofs.ReportCoherence
import TagCheck.Proofs.ReportStory
import TagCheck.Proofs.BytewiseComments
import TagCheck.Proofs.SettingsRoundTrip
import TagCheck.Proofs.InputSpelling
import TagCheck.Proofs.StackHistory
import TagCheck.Proofs.EventReplay
import TagCheck.Proofs.NameLength
import TagCheck.Proofs.RegionEnds
import TagCheck.Proofs.LoneBrackets
import TagCheck.Proofs.TagEnds
import TagCheck.Proofs.TerminatedTags
import TagCheck.Proofs.BracketRules
import TagCheck.Proofs.Barriers
import TagCheck.Proofs.Merging
import TagCheck.Proofs.IgnoreFiles
import TagCheck.Proofs.StarPatterns
import TagCheck.Proofs.ForeignBytes
