import RuleCatalog.Archive.Bits
import RuleCatalog.Archive.Crc32
import RuleCatalog.Archive.Entry
import RuleCatalog.Archive.Field
import RuleCatalog.Archive.Gzip
import RuleCatalog.Archive.Header
import RuleCatalog.Archive.Inflate
import RuleCatalog.Archive.Pack
import RuleCatalog.Archive.Prefix
import RuleCatalog.Bundle.Basic
import RuleCatalog.Bundle.Contents
import RuleCatalog.Bundle.Error
import RuleCatalog.Bundle.Id
import RuleCatalog.Bundle.Manifest
import RuleCatalog.Bundle.Parts
import RuleCatalog.Catalog
import RuleCatalog.Content.Document
import RuleCatalog.Content.Profile
import RuleCatalog.Content.RuleType
import RuleCatalog.Decode.Form
import RuleCatalog.Decode.Mismatch
import RuleCatalog.Digest.Hex
import RuleCatalog.Digest.Sha256
import RuleCatalog.FileTree
import RuleCatalog.Json.Decode
import RuleCatalog.Json.Draft
import RuleCatalog.Json.Numeral
import RuleCatalog.Json.Printer
import RuleCatalog.Json.Reader
import RuleCatalog.Json.Value
import RuleCatalog.Number.Binary64
import RuleCatalog.Number.Numeral
import RuleCatalog.Number.Shortest
import RuleCatalog.Path
import RuleCatalog.Project
import RuleCatalog.Proofs.Archive.Entries
import RuleCatalog.Proofs.Archive.Fields
import RuleCatalog.Proofs.Archive.Gzip
import RuleCatalog.Proofs.Archive.Headers
import RuleCatalog.Proofs.Bundle.Contents
import RuleCatalog.Proofs.Bundle.Gathered
import RuleCatalog.Proofs.Bundle.Intact
import RuleCatalog.Proofs.Bundle.Layout
import RuleCatalog.Proofs.Bundle.Lookup
import RuleCatalog.Proofs.Bundle.Manifest
import RuleCatalog.Proofs.Bundle.Reread
import RuleCatalog.Proofs.Bundle.RoundTrip
import RuleCatalog.Proofs.Bundle.Valid
import RuleCatalog.Proofs.Bundle.Verified
import RuleCatalog.Proofs.Catalog.Configured
import RuleCatalog.Proofs.Catalog.Routed
import RuleCatalog.Proofs.Content.Agreement
import RuleCatalog.Proofs.Content.Names
import RuleCatalog.Proofs.Content.Stored
import RuleCatalog.Proofs.FileTree.Entries
import RuleCatalog.Proofs.FileTree.Relisted
import RuleCatalog.Proofs.Json.Decoded
import RuleCatalog.Proofs.Json.Layout
import RuleCatalog.Proofs.Json.Numerals
import RuleCatalog.Proofs.Json.Reading
import RuleCatalog.Proofs.Json.Records
import RuleCatalog.Proofs.Json.Strings
import RuleCatalog.Proofs.Json.Values
import RuleCatalog.Proofs.Number.Shortest
import RuleCatalog.Proofs.Path.Normal
import RuleCatalog.Proofs.Path.Segments
import RuleCatalog.Proofs.Result
import RuleCatalog.Proofs.Service.RuleTypes
import RuleCatalog.Proofs.Store.Commit
import RuleCatalog.Proofs.Store.Consistency
import RuleCatalog.Proofs.Store.Ensured
import RuleCatalog.Proofs.Store.Exclusion
import RuleCatalog.Proofs.Store.Forgotten
import RuleCatalog.Proofs.Store.Granted
import RuleCatalog.Proofs.Store.History
import RuleCatalog.Proofs.Store.Independent
import RuleCatalog.Proofs.Store.Integrity
import RuleCatalog.Proofs.Store.Keys
import RuleCatalog.Proofs.Store.Ledger
import RuleCatalog.Proofs.Store.Mirror
import RuleCatalog.Proofs.Store.Refusals
import RuleCatalog.Proofs.Store.Replay
import RuleCatalog.Proofs.Store.Run
import RuleCatalog.Proofs.Store.Serial
import RuleCatalog.Proofs.Store.Shares
import RuleCatalog.Proofs.Store.Sound
import RuleCatalog.Proofs.Store.Statements
import RuleCatalog.Proofs.Store.Tables
import RuleCatalog.Proofs.Store.Transcript
import RuleCatalog.Proofs.Store.Translation
import RuleCatalog.Proofs.Store.Undisturbed
import RuleCatalog.Proofs.Store.Views
import RuleCatalog.Proofs.Subscribing.Apart
import RuleCatalog.Proofs.Subscribing.Calls
import RuleCatalog.Proofs.Subscribing.Careful
import RuleCatalog.Proofs.Subscribing.Confined
import RuleCatalog.Proofs.Subscribing.Created
import RuleCatalog.Proofs.Subscribing.First
import RuleCatalog.Proofs.Subscribing.Lasting
import RuleCatalog.Proofs.Subscribing.Linked
import RuleCatalog.Proofs.Subscribing.Supplied
import RuleCatalog.Proofs.Subscribing.Takeover
import RuleCatalog.Proofs.Subscribing.Workload
import RuleCatalog.Proofs.Text.Encoded
import RuleCatalog.Proofs.Text.Order
import RuleCatalog.Proofs.Time.Calendar
import RuleCatalog.Proofs.Time.Read
import RuleCatalog.Proofs.Time.Text
import RuleCatalog.Proofs.Yaml.Decoded
import RuleCatalog.Report
import RuleCatalog.Service.Error
import RuleCatalog.Service.Profiles
import RuleCatalog.Service.RuleTypes
import RuleCatalog.Session
import RuleCatalog.Settings
import RuleCatalog.Source
import RuleCatalog.Store.Basic
import RuleCatalog.Store.Database
import RuleCatalog.Store.Memory
import RuleCatalog.Store.Request
import RuleCatalog.Store.Row
import RuleCatalog.Store.Sql
import RuleCatalog.Store.Tables
import RuleCatalog.Subscribing
import RuleCatalog.Text.Blank
import RuleCatalog.Text.Printable
import RuleCatalog.Text.Quoted
import RuleCatalog.Text.Utf8
import RuleCatalog.Timestamp
import RuleCatalog.Uuid
import RuleCatalog.Version
import RuleCatalog.Yaml.Decode
import RuleCatalog.Yaml.Document
import RuleCatalog.Yaml.Kind
import RuleCatalog.Yaml.Scalar
import RuleCatalog.Yaml.Scanner
import RuleCatalog.Yaml.Text
import RuleCatalog.Yaml.Token
import RuleCatalog.Yaml.Value
