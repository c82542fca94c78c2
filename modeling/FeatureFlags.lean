import FeatureFlags.Client
import FeatureFlags.Flatbuffer.Encoding
import FeatureFlags.Poller.Clock
import FeatureFlags.Proofs.Catalog.Lookup
import FeatureFlags.Proofs.Catalog.Session
import FeatureFlags.Proofs.Protobuf.Wire
import FeatureFlags.Proofs.Protobuf.Pieces
import FeatureFlags.Proofs.Protobuf.Record
import FeatureFlags.Proofs.Flag.Normal
import FeatureFlags.Proofs.Flag.Listed
import FeatureFlags.Proofs.Protobuf.RoundTrip
import FeatureFlags.Proofs.Flatbuffer.Buffer
import FeatureFlags.Proofs.Flatbuffer.Visit
import FeatureFlags.Proofs.Flatbuffer.Builder
import FeatureFlags.Proofs.Flatbuffer.Table
import FeatureFlags.Proofs.Flatbuffer.Construction
import FeatureFlags.Proofs.Flatbuffer.Flag
import FeatureFlags.Proofs.Flatbuffer.RoundTrip
import FeatureFlags.Proofs.Catalog.Agreement
import FeatureFlags.Proofs.Flag.FirstMatch
import FeatureFlags.Proofs.Precomputed.Obfuscation
import FeatureFlags.Proofs.Precomputed.ExtraLogging
import FeatureFlags.Proofs.Configuration.StoreSession
import FeatureFlags.Proofs.Configuration.Publishing
import FeatureFlags.Proofs.Flatbuffer.Verified
import FeatureFlags.Proofs.Flatbuffer.Unchecked
import FeatureFlags.Proofs.Configuration.CacheSession
import FeatureFlags.Proofs.Client.Reporting
import FeatureFlags.Proofs.Client.Evaluating
import FeatureFlags.Proofs.Instant.Calendar
import FeatureFlags.Proofs.Instant.Text
import FeatureFlags.Proofs.Instant.Span
import FeatureFlags.Proofs.Configuration.Expiry
import FeatureFlags.Proofs.Json.Strings
import FeatureFlags.Proofs.Json.Numbers
import FeatureFlags.Proofs.Json.Documents
import FeatureFlags.Proofs.Json.Restoring
import FeatureFlags.Proofs.Json.Records
import FeatureFlags.Proofs.Json.Forms
import FeatureFlags.Proofs.Precomputed.Restoring
import FeatureFlags.Proofs.Configuration.Restoring
import FeatureFlags.Proofs.Client.TypedValues
import FeatureFlags.Proofs.Json.Grammar
import FeatureFlags.Proofs.Json.Places
import FeatureFlags.Proofs.Json.Insertion
import FeatureFlags.Proofs.Flatbuffer.Agreement
import FeatureFlags.Proofs.Protobuf.Places
import FeatureFlags.Proofs.Catalog.Isolation
import FeatureFlags.Proofs.Catalog.Views
import FeatureFlags.Proofs.Precomputed.Isolation
import FeatureFlags.Proofs.Flag.Dependence
import FeatureFlags.Proofs.Json.Members
import FeatureFlags.Proofs.Precomputed.Bootstrapping
import FeatureFlags.Proofs.Poller.Stopping
import FeatureFlags.Proofs.Client.Refreshing
import FeatureFlags.Proofs.Double.Exact
import FeatureFlags.Proofs.Precomputed.Integers
import FeatureFlags.Proofs.Flag.Integers
import FeatureFlags.Proofs.Flag.Restoring
import FeatureFlags.Proofs.Version.Order
import FeatureFlags.Proofs.Version.Precedence
import FeatureFlags.Proofs.Version.Conditions
import FeatureFlags.Proofs.Flag.Operands
import FeatureFlags.Proofs.Flag.Targeting
import FeatureFlags.Proofs.Flag.Tiling
import FeatureFlags.Proofs.Flag.EmptyShards
import FeatureFlags.Proofs.Flag.Reasons
import FeatureFlags.Proofs.Assignment.Members
import FeatureFlags.Proofs.Precomputed.Fields
import FeatureFlags.Proofs.Double.Rounding
import FeatureFlags.Proofs.Double.Shortest
import FeatureFlags.Proofs.Double.Reading
import FeatureFlags.Proofs.Json.Range
import FeatureFlags.Proofs.Precomputed.Spellings
import FeatureFlags.Proofs.Catalog.Restoring
import FeatureFlags.Proofs.Json.Contexts
import FeatureFlags.Proofs.Flag.Compatibility
