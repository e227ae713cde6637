import TeeAnchor.CcaSignedContent
import TeeAnchor.CrlOption
import TeeAnchor.PckChainOrder
import TeeAnchor.ProvisionVerify
import TeeAnchor.CrlContents
import TeeAnchor.UnreadableDb
import TeeAnchor.CrlIssueFailures
import TeeAnchor.RevocationHistory
import TeeAnchor.ReadModifyWrite
import TeeAnchor.ConcurrentRuns
import TeeAnchor.IntegerKeys
import TeeAnchor.ChipIdBindingRoundTrip
import TeeAnchor.ChipIdBindingReads
import TeeAnchor.ByteFields
import TeeAnchor.QuoteRegions
import TeeAnchor.GuardedAccess
import TeeAnchor.GuardedTdQuote
import TeeAnchor.QuoteLayout
import TeeAnchor.TdQuoteFraming
import TeeAnchor.PemInput
import TeeAnchor.DeclaredRegion
import TeeAnchor.QuoteConfusion
import TeeAnchor.RewrittenDb
import TeeAnchor.SpelledSerials
import TeeAnchor.CrlNumbers
import TeeAnchor.BufferedOutput
import TeeAnchor.SavedDb
import TeeAnchor.CaInit
import TeeAnchor.CaFilePair
import TeeAnchor.SnpChip
import TeeAnchor.SgxExtension
import TeeAnchor.GuardedDerWalk
import TeeAnchor.PpidShape
import TeeAnchor.DistinguishedName
import TeeAnchor.CborHeads
import TeeAnchor.WatchedReaders
import TeeAnchor.CborRun
import TeeAnchor.CborResources
import TeeAnchor.CborReservations
import TeeAnchor.CommandLine
import TeeAnchor.CommandLineArgs
import TeeAnchor.Commands
import TeeAnchor.Histories
import TeeAnchor.AcceptedEndorsements
import TeeAnchor.RecordedRevocations
import TeeAnchor.IssuedCrls
import TeeAnchor.RevokedEndorsements
import TeeAnchor.CrlSequence
import TeeAnchor.CaLifeCycle
import TeeAnchor.VouchedEvidence
import TeeAnchor.SeparateRuns
import TeeAnchor.FailedRuns
import TeeAnchor.CcaTokenRoundTrip
import TeeAnchor.SnpReportLayout
import TeeAnchor.QuoteEvidence
import TeeAnchor.AtomicRenames
import TeeAnchor.ConcurrentSaves
