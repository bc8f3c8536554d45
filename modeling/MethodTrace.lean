import MethodTrace.Archive.Assembly
import MethodTrace.Archive.Compression
import MethodTrace.Archive.Entry
import MethodTrace.Archive.Error
import MethodTrace.Archive.File
import MethodTrace.Archive.Reader
import MethodTrace.Archive.Writer
import MethodTrace.Bytes
import MethodTrace.Bytes.Hex
import MethodTrace.Bytes.Varint
import MethodTrace.Cache
import MethodTrace.Cache.Error
import MethodTrace.Cache.Fingerprints
import MethodTrace.Cache.Manifest
import MethodTrace.Cache.UnitHeader
import MethodTrace.Cache.UnitStore
import MethodTrace.ClassBuilder
import MethodTrace.ClassBuilder.Sample
import MethodTrace.ClassFile
import MethodTrace.ClassFile.Constant
import MethodTrace.ClassFile.ConstantPool
import MethodTrace.ClassFile.Descriptor
import MethodTrace.ClassFile.Error
import MethodTrace.ClassFile.Member
import MethodTrace.ClassFile.ModifiedUtf8
import MethodTrace.ClassFile.Reader
import MethodTrace.Code.Body
import MethodTrace.Code.DebugTable
import MethodTrace.Code.Decoded
import MethodTrace.Code.Exploration
import MethodTrace.Code.Frame
import MethodTrace.Code.Instruction
import MethodTrace.Code.Layout
import MethodTrace.Code.Opcode
import MethodTrace.Code.StackDepth
import MethodTrace.CommandLine
import MethodTrace.CommandLine.Arguments
import MethodTrace.CommandLine.Command
import MethodTrace.ContentHash
import MethodTrace.ContentHash.Json
import MethodTrace.Deflate.BitReader
import MethodTrace.Deflate.Compress
import MethodTrace.Deflate.Inflate
import MethodTrace.Deflate.Matches
import MethodTrace.Deflate.PrefixCode
import MethodTrace.Deflate.Token
import MethodTrace.Digest.Crc32
import MethodTrace.Digest.Sha256
import MethodTrace.Json.Parser
import MethodTrace.Json.Printer
import MethodTrace.Json.Token
import MethodTrace.Json.Value
import MethodTrace.Main
import MethodTrace.Path
import MethodTrace.Pattern
import MethodTrace.Pattern.Brackets
import MethodTrace.Pattern.Footprint
import MethodTrace.Pattern.Meaning
import MethodTrace.Pattern.Parser
import MethodTrace.Pattern.Regex
import MethodTrace.Pattern.Scanner
import MethodTrace.Pattern.Tree
import MethodTrace.Run
import MethodTrace.Run.Invocation
import MethodTrace.Run.Detection
import MethodTrace.Run.Error
import MethodTrace.Run.Task
import MethodTrace.Settings
import MethodTrace.Settings.File
import MethodTrace.TagFilter
import MethodTrace.Text.Reader
import MethodTrace.Toml.Parser
import MethodTrace.Toml.Scalar
import MethodTrace.Toml.Table
import MethodTrace.Toml.Value
import MethodTrace.Trace.Balance
import MethodTrace.Trace.Entry
import MethodTrace.Trace.Hooks
import MethodTrace.Trace.Instrument
import MethodTrace.Trace.Method
import MethodTrace.Trace.Unit
import MethodTrace.Trace.Weaving
import MethodTrace.Unicode.Age
import MethodTrace.Unicode.Category
import MethodTrace.Unicode.CharSet
import MethodTrace.Unicode.Encoding
import MethodTrace.Unicode.Folding
import MethodTrace.Unicode.Property
import MethodTrace.Unicode.Query
import MethodTrace.Unicode.Script
import MethodTrace.Unicode.Segmentation
import MethodTrace.Unit.Change
import MethodTrace.Unit.Identity
import MethodTrace.Unit.Json
import MethodTrace.Workspace
import MethodTrace.Proofs.ProtectedRanges
import MethodTrace.Proofs.Decoding
import MethodTrace.Proofs.ModifiedUtf8
import MethodTrace.Proofs.PoolExtension
import MethodTrace.Proofs.TracedFlow
import MethodTrace.Proofs.Rewriting
import MethodTrace.Proofs.FlowPaths
import MethodTrace.Proofs.HookBalance
import MethodTrace.Proofs.Exploration
import MethodTrace.Proofs.StackReplay
import MethodTrace.Proofs.PathErasure
import MethodTrace.Proofs.Refinement
import MethodTrace.Proofs.IncrementalRuns
import MethodTrace.Proofs.LooseFiles
import MethodTrace.Proofs.LooseChanges
import MethodTrace.Proofs.FirstSources
import MethodTrace.Proofs.FormedInstructions
import MethodTrace.Proofs.SliceReaders
import MethodTrace.Proofs.LaidOutCode
import MethodTrace.Proofs.CodeRoundTrip
import MethodTrace.Proofs.RewrittenCode
import MethodTrace.Proofs.EntryScans
import MethodTrace.Proofs.RepeatedTracing
import MethodTrace.Proofs.StackTransport
import MethodTrace.Proofs.ConstructorEntry
import MethodTrace.Proofs.BoundaryTables
import MethodTrace.Proofs.FrameRoundTrip
import MethodTrace.Proofs.PlacedBodies
import MethodTrace.Proofs.Effects
import MethodTrace.Proofs.PathSteps
import MethodTrace.Proofs.ConfinedUnits
import MethodTrace.Proofs.FailedRuns
import MethodTrace.Proofs.MadeDirectories
import MethodTrace.Proofs.StoreErrands
import MethodTrace.Proofs.TaskOrder
import MethodTrace.Proofs.StoreContents
import MethodTrace.Proofs.MirroredStore
import MethodTrace.Proofs.RunHistories
import MethodTrace.Proofs.StrayUnits
import MethodTrace.Proofs.RepresentableClasses
import MethodTrace.Proofs.SpelledSlices
import MethodTrace.Proofs.SortedUnits
import MethodTrace.Proofs.WovenTables
import MethodTrace.Proofs.ReadableClasses
import MethodTrace.Proofs.ReachedDepths
import MethodTrace.Proofs.LayoutRounds
import MethodTrace.Proofs.SpelledCode
import MethodTrace.Proofs.ReadableArchives
import MethodTrace.Proofs.CompressedFrames
import MethodTrace.Proofs.MovedTables
import MethodTrace.Proofs.KeptParts
import MethodTrace.Proofs.EntryPrologues
import MethodTrace.Proofs.BalanceWalks
import MethodTrace.Proofs.CheckedBalance
import MethodTrace.Proofs.DescriptorSpellings
import MethodTrace.Proofs.Repetitions
import MethodTrace.Proofs.BitStreams
import MethodTrace.Proofs.DeflateRoundTrip
import MethodTrace.Proofs.ChangedAssemblies
import MethodTrace.Proofs.RewrittenOutputs
import MethodTrace.Proofs.PoolRequests
import MethodTrace.Proofs.SlotCounts
import MethodTrace.Proofs.PatternReaders
import MethodTrace.Proofs.BracketReaders
import MethodTrace.Proofs.ClosedReaders
import MethodTrace.Proofs.ClosedItems
import MethodTrace.Proofs.GroupedPatterns
import MethodTrace.Proofs.GuardedPlaces
import MethodTrace.Proofs.RegexMatches
import MethodTrace.Proofs.AnchoredPatterns
import MethodTrace.Proofs.CanonicalIdentities
import MethodTrace.Proofs.SettingsFingerprints
import MethodTrace.Proofs.StoreHistories
import MethodTrace.Proofs.ListedFiles
import MethodTrace.Proofs.HashSpellings
import MethodTrace.Proofs.FilledPools
import MethodTrace.Proofs.WrittenIntegers
import MethodTrace.Proofs.LayoutChoices
