import BlockTree.Block.Dump
import BlockTree.CommandLine.Run
import BlockTree.Handler.Samples
import BlockTree.Json.Reader
import BlockTree.Json.Writer
import BlockTree.Loading
import BlockTree.Main
import BlockTree.Page
import BlockTree.Platform
import BlockTree.Render.Block
import BlockTree.Render.Schedule
import BlockTree.Schema.Block
import BlockTree.Schema.Options
import BlockTree.Schema.Report
import BlockTree.Proofs.Action
import BlockTree.Proofs.Dispatch
import BlockTree.Proofs.Siblings
import BlockTree.Proofs.Leaf
import BlockTree.Proofs.Order
import BlockTree.Proofs.FirstFault
import BlockTree.Proofs.Recorded
import BlockTree.Proofs.Leaks
import BlockTree.Proofs.Messages
import BlockTree.Proofs.AttributeReadback
import BlockTree.Proofs.AttributeRoundTrip
import BlockTree.Proofs.MergedAttributes
import BlockTree.Proofs.TagSplicing
import BlockTree.Proofs.IllegalWords
import BlockTree.Proofs.Nesting
import BlockTree.Proofs.OwnTag
import BlockTree.Proofs.Guarantee
import BlockTree.Proofs.Escaping
import BlockTree.Proofs.NestedMarkup
import BlockTree.Proofs.ParagraphTags
import BlockTree.Proofs.InlineTags
import BlockTree.Proofs.EmphasisPasses
import BlockTree.Proofs.InlinePieces
import BlockTree.Proofs.RunningText
import BlockTree.Proofs.EnclosedTags
import BlockTree.Proofs.EmphasisNesting
import BlockTree.Proofs.EmphasisContent
import BlockTree.Proofs.References
import BlockTree.Proofs.KeptReferences
import BlockTree.Proofs.CutReferences
import BlockTree.Proofs.SplitReferences
import BlockTree.Proofs.Numerals
import BlockTree.Proofs.Decoding
import BlockTree.Proofs.UndecodableReferences
import BlockTree.Proofs.DecodedEscapes
import BlockTree.Proofs.SpanGrammar
import BlockTree.Proofs.SealedText
import BlockTree.Proofs.CompleteSpans
import BlockTree.Proofs.Concatenation
import BlockTree.Proofs.ReturnLink
import BlockTree.Proofs.FootnoteList
import BlockTree.Proofs.AttributeEffect
import BlockTree.Proofs.TightItems
import BlockTree.Proofs.FirmMarkup
import BlockTree.Proofs.CodeMarkup
import BlockTree.Proofs.ScannedTable
import BlockTree.Proofs.Strategies
import BlockTree.Proofs.AddedSwitch
import BlockTree.Proofs.FileWrites
import BlockTree.Proofs.IssueLocations
import BlockTree.Proofs.Revalidation
import BlockTree.Proofs.HardBreaks
import BlockTree.Proofs.HandlerReferences
import BlockTree.Proofs.EscapingReferences
import BlockTree.Proofs.LoadedOptions
import BlockTree.Proofs.LoadedDocuments
import BlockTree.Proofs.MemberOrder
import BlockTree.Proofs.WrittenScalars
import BlockTree.Proofs.WrittenValues
import BlockTree.Proofs.StableText
import BlockTree.Proofs.PageParts
import BlockTree.Proofs.WrittenMessages
import BlockTree.Proofs.RunEffects
