import DocHarvest.Main
import DocHarvest.Proofs.Doc.FieldsJson
import DocHarvest.Proofs.Doc.Params
import DocHarvest.Proofs.Doc.Yard
import DocHarvest.Proofs.Doc.FieldHeads
import DocHarvest.Proofs.Doc.ArgSections
import DocHarvest.Proofs.Doc.EntryStarts
import DocHarvest.Proofs.Doc.TypeSpecs
import DocHarvest.Proofs.Doc.Detection
import DocHarvest.Proofs.Doc.FieldDocs
import DocHarvest.Proofs.Doc.InlineTags
import DocHarvest.Proofs.Doc.Restatements
import DocHarvest.Proofs.Doc.NamingStyles
import DocHarvest.Proofs.Doc.ProseTokens
import DocHarvest.Proofs.Doc.Markers
import DocHarvest.Proofs.Pipeline.Run
import DocHarvest.Proofs.Source.Slices
import DocHarvest.Proofs.Source.Rows
import DocHarvest.Pipeline.Sink
import DocHarvest.Proofs.Json.Records
import DocHarvest.Proofs.Language.LineRuns
import DocHarvest.Proofs.Pipeline.Sink
import DocHarvest.Proofs.Language.Strictness
import DocHarvest.Proofs.Language.Searches
import DocHarvest.Proofs.Language.Tokens
import DocHarvest.Proofs.Pipeline.Admission
import DocHarvest.Proofs.Storage.Places
import DocHarvest.Proofs.Pipeline.Reruns
import DocHarvest.Proofs.Doc.BlockLines
import DocHarvest.Proofs.Pipeline.Entries
import DocHarvest.Proofs.Pipeline.Directories
import DocHarvest.Proofs.Source.Walks
import DocHarvest.Proofs.Pipeline.Ranges
import DocHarvest.Proofs.Doc.Margin
import DocHarvest.Proofs.Language.Signatures
