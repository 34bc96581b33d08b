import AsmListing.Analysis
import AsmListing.CommandLine.Run
import AsmListing.Description
import AsmListing.Graph
import AsmListing.Main
import AsmListing.Proofs.Alignment
import AsmListing.Proofs.BlockKinds
import AsmListing.Proofs.Borders
import AsmListing.Proofs.Columns
import AsmListing.Proofs.CommandRuns
import AsmListing.Proofs.Displacement
import AsmListing.Proofs.Dot
import AsmListing.Proofs.Duality
import AsmListing.Proofs.EdgeOrder
import AsmListing.Proofs.EdgePairs
import AsmListing.Proofs.Edges
import AsmListing.Proofs.Extension
import AsmListing.Proofs.Failures
import AsmListing.Proofs.FileLines
import AsmListing.Proofs.Header
import AsmListing.Proofs.History
import AsmListing.Proofs.Keywords
import AsmListing.Proofs.Locality
import AsmListing.Proofs.Locations
import AsmListing.Proofs.Markup
import AsmListing.Proofs.Offsets
import AsmListing.Proofs.Partition
import AsmListing.Proofs.PhysicalLines
import AsmListing.Proofs.Reachable
import AsmListing.Proofs.RegisterAliases
import AsmListing.Proofs.RegisterSearch
import AsmListing.Proofs.RegisterSpellings
import AsmListing.Proofs.RoundTrip
import AsmListing.Proofs.Runs
import AsmListing.Proofs.Spans
import AsmListing.Proofs.Strings
import AsmListing.Proofs.Tiling
import AsmListing.Render
import AsmListing.Session
import AsmListing.Text.Slice
import AsmListing.Token.Cursor
