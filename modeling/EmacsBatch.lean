import EmacsBatch.Bytes.Utf8.RoundTrip
import EmacsBatch.CommandLine.Spelling
import EmacsBatch.Invocation.Reader
import EmacsBatch.Json.Reader
import EmacsBatch.Main
import EmacsBatch.Proofs.Diagnosis
import EmacsBatch.Proofs.FrontEnds
import EmacsBatch.Proofs.Masking
import EmacsBatch.Proofs.Sessions
import EmacsBatch.Proofs.Decoding
import EmacsBatch.Proofs.Variables
import EmacsBatch.Proofs.Formats
import EmacsBatch.Proofs.Resolution
import EmacsBatch.Proofs.Presence
import EmacsBatch.Proofs.Counterparts
import EmacsBatch.Proofs.NamedLibrary
import EmacsBatch.Proofs.LevelWords
import EmacsBatch.Proofs.EmptyPaths
import EmacsBatch.Proofs.ReportLines
import EmacsBatch.Proofs.Complaints
import EmacsBatch.Proofs.Findings
