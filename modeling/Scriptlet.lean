import Scriptlet.Folder
import Scriptlet.Grammar.Plain
import Scriptlet.Main
import Scriptlet.Token.Step
import Scriptlet.Proofs.ByteOffsets
import Scriptlet.Proofs.SegmentTiling
import Scriptlet.Proofs.SegmentWalk
import Scriptlet.Proofs.SpanTiling
import Scriptlet.Proofs.RunLength
import Scriptlet.Proofs.TokenEncoding
import Scriptlet.Proofs.SpanClasses
import Scriptlet.Proofs.ScanOrder
import Scriptlet.Proofs.LineBreaks
import Scriptlet.Proofs.LineFreeScan
import Scriptlet.Proofs.BuildSteps
import Scriptlet.Proofs.Rebuild
import Scriptlet.Proofs.BuildAlike
import Scriptlet.Proofs.ViewHistory
import Scriptlet.Proofs.PatternSearch
import Scriptlet.Proofs.SilentWays
import Scriptlet.Proofs.CodeLayout
import Scriptlet.Proofs.EmptyMatches
import Scriptlet.Proofs.CheckedDelimiters
import Scriptlet.Proofs.BlindMatches
import Scriptlet.Proofs.ScanMarkers
import Scriptlet.Proofs.MarkerAgreement
import Scriptlet.Proofs.LineMarks
import Scriptlet.Proofs.Seams
import Scriptlet.Proofs.TokenOrder
import Scriptlet.Proofs.MarkedChars
import Scriptlet.Proofs.TemplateSpans
import Scriptlet.Proofs.QuotedStrings
import Scriptlet.Proofs.SettingsLines
import Scriptlet.Proofs.SettingsTables
import Scriptlet.Proofs.Folders
import Scriptlet.Proofs.SettingsFiles
import Scriptlet.Proofs.GrowingText
import Scriptlet.Proofs.TokenBuilding
import Scriptlet.Proofs.NodePlaces
import Scriptlet.Proofs.SyntaxWalk
import Scriptlet.Proofs.TemplateParts
import Scriptlet.Proofs.KeptInOrder
import Scriptlet.Proofs.AnyRegions
import Scriptlet.Proofs.FailingFragment
import Scriptlet.Proofs.CacheRuns
import Scriptlet.Proofs.LinesAgain
import Scriptlet.Proofs.ModifierSubsets
import Scriptlet.Proofs.StyleLookup
import Scriptlet.Proofs.JoinedClasses
import Scriptlet.Proofs.OwnClasses
import Scriptlet.Proofs.Coordinates
import Scriptlet.Proofs.Edits
import Scriptlet.Proofs.DistinctKeys
import Scriptlet.Proofs.SettingsOverlay
import Scriptlet.Proofs.WalkPartition
import Scriptlet.Proofs.OffsetRequests
