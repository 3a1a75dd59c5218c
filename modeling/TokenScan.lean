import TokenScan.Main
import TokenScan.Proofs.Lexical
import TokenScan.Proofs.Scanning
import TokenScan.Proofs.Partition
import TokenScan.Proofs.Quotes
import TokenScan.Proofs.Rendering
import TokenScan.Proofs.Calls
import TokenScan.Proofs.Concatenation
import TokenScan.Proofs.Places
import TokenScan.Proofs.Lookahead
import TokenScan.Proofs.Widths
import TokenScan.Proofs.Outcome
import TokenScan.Proofs.Lines
import TokenScan.Proofs.Sessions
import TokenScan.Proofs.Diagnostics
import TokenScan.Proofs.Arguments
import TokenScan.Proofs.JsonText
import TokenScan.Proofs.JsonWritten
import TokenScan.Proofs.JsonListing
import TokenScan.Proofs.Verbosity
import TokenScan.Proofs.Labels
import TokenScan.Proofs.Order
import TokenScan.Proofs.Records
import TokenScan.Proofs.Overflow
import TokenScan.Proofs.Origins
import TokenScan.Proofs.Styles
import TokenScan.Proofs.Bare
import TokenScan.Proofs.PlainListing
import TokenScan.Proofs.TableListing
import TokenScan.Proofs.Commands
import TokenScan.Proofs.Spellings
import TokenScan.Proofs.CommandLines
import TokenScan.Proofs.Keys
import TokenScan.Proofs.Misfits
import TokenScan.Proofs.Refusals
import TokenScan.Proofs.Colours
import TokenScan.Proofs.Configuration
