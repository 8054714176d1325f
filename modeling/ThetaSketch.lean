import ThetaSketch.Library.Threshold
import ThetaSketch.Library.OpenAddressing
import ThetaSketch.Library.LittleEndian
import ThetaSketch.Library.BitStream
import ThetaSketch.Library.TailSums
import ThetaSketch.Library.BinomialTails
import ThetaSketch.Library.OrderStatistics
import ThetaSketch.Library.BitSmear
import ThetaSketch.Common.Exit
import ThetaSketch.Common.Memory
import ThetaSketch.Common.MurmurHash3
import ThetaSketch.Common.CountZeros
import ThetaSketch.Common.BinomialBounds
import ThetaSketch.Common.ExactBounds
import ThetaSketch.Common.BinomialProportions
import ThetaSketch.Common.CeilingPowerOf2
import ThetaSketch.Table.HashTable
import ThetaSketch.Table.Probing
import ThetaSketch.Table.Growth
import ThetaSketch.Table.Filling
import ThetaSketch.Table.Counting
import ThetaSketch.Sketch.Sketch
import ThetaSketch.Sketch.Lifecycle
import ThetaSketch.Sketch.Summary
import ThetaSketch.SetOperations.Union
import ThetaSketch.SetOperations.Intersection
import ThetaSketch.SetOperations.Difference
import ThetaSketch.SetOperations.MeetOrder
import ThetaSketch.SetOperations.Inputs
import ThetaSketch.SetOperations.Exact
import ThetaSketch.SetOperations.Meaning
import ThetaSketch.SetOperations.Ratios
import ThetaSketch.SetOperations.Jaccard
import ThetaSketch.Format.Parser
import ThetaSketch.Format.BitPacking
import ThetaSketch.Format.PackBlocks
import ThetaSketch.Format.UnpackBlocks
import ThetaSketch.Format.Blocks
import ThetaSketch.Format.Slips
import ThetaSketch.Format.Scalar
import ThetaSketch.Format.Serializer
import ThetaSketch.Format.StreamSerializer
import ThetaSketch.Format.Deserializer
import ThetaSketch.Format.ParserSafety
import ThetaSketch.Format.RoundTrip
import ThetaSketch.Format.Unpackers
import ThetaSketch.Format.PackedEntries
import ThetaSketch.Format.PackLocality
import ThetaSketch.Format.Writers
import ThetaSketch.Format.Packers
import ThetaSketch.Format.Compressed
import ThetaSketch.Format.CompressedRoundTrip
import ThetaSketch.Format.Bounds
import ThetaSketch.Format.Readers
import ThetaSketch.Format.Agreement
import ThetaSketch.Format.StreamDeserializer
import ThetaSketch.Format.StreamReaders
import ThetaSketch.Format.StreamLocality
import ThetaSketch.Format.StreamRoundTrip
import ThetaSketch.SetOperations.Corruption
import ThetaSketch.SetOperations.Reachable
import ThetaSketch.Extension.Heap
import ThetaSketch.Extension.Handle
import ThetaSketch.Extension.Ownership
import ThetaSketch.Extension.Callbacks
import ThetaSketch.Extension.Plan
import ThetaSketch.Extension.Sessions
import ThetaSketch.Extension.HandleTags
import ThetaSketch.Extension.UnionPlans
import ThetaSketch.Extension.BuildPlans
import ThetaSketch.Extension.IntersectionPlans
import ThetaSketch.Extension.Scalars
import ThetaSketch.Extension.Ledger
import ThetaSketch.Extension.Refinement
import ThetaSketch.Extension.EmptyIsNull
import ThetaSketch.Extension.Interleaving
import ThetaSketch.Extension.Lists
import ThetaSketch.Extension.Expression
import ThetaSketch.Extension.ExactExpressions
import ThetaSketch.Extension.NullExpressions
import ThetaSketch.Extension.Persistence
import ThetaSketch.Extension.Outputs
import ThetaSketch.Extension.Estimates
import ThetaSketch.Extension.Sizes
import ThetaSketch.Extension.Accuracy
