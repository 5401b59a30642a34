import SecretRotation.Api.Address
import SecretRotation.Api.CannedServer
import SecretRotation.Api.Client
import SecretRotation.Api.Exchange
import SecretRotation.Api.FullAddress
import SecretRotation.Api.Reading
import SecretRotation.Api.Session
import SecretRotation.Api.StatusPhrase
import SecretRotation.Cluster.Encoding
import SecretRotation.Cluster.Metadata
import SecretRotation.Cluster.Pod
import SecretRotation.Cluster.Schema
import SecretRotation.Cluster.Secret
import SecretRotation.Cluster.Workload
import SecretRotation.Consumption
import SecretRotation.Drill
import SecretRotation.Event
import SecretRotation.Failure
import SecretRotation.Json.Codec
import SecretRotation.Json.Number
import SecretRotation.Json.Reader
import SecretRotation.Json.Shape
import SecretRotation.Json.Value
import SecretRotation.Json.Writer
import SecretRotation.Main
import SecretRotation.Operation
import SecretRotation.OrderedMap
import SecretRotation.Pass.Access
import SecretRotation.Pass.FanOut
import SecretRotation.Pass.Report
import SecretRotation.Pass.Run
import SecretRotation.Pass.Selection
import SecretRotation.Proofs.Api.Recording
import SecretRotation.Proofs.Api.Transcript
import SecretRotation.Proofs.Cluster.RoundTrip
import SecretRotation.Proofs.Json.CodecLaws
import SecretRotation.Proofs.Notes
import SecretRotation.Proofs.OrderedMap
import SecretRotation.Proofs.Pass.Answering
import SecretRotation.Proofs.Pass.Course
import SecretRotation.Proofs.Pass.FanOut
import SecretRotation.Proofs.Pass.Instant
import SecretRotation.Proofs.Pass.Schedule
import SecretRotation.Proofs.Pass.Tally
import SecretRotation.Proofs.Sample
import SecretRotation.Proofs.Stamping
import SecretRotation.Proofs.Store.Contents
import SecretRotation.Proofs.Store.Effect
import SecretRotation.Proofs.Store.History
import SecretRotation.Proofs.Store.Passes
import SecretRotation.Proofs.Store.Reading
import SecretRotation.Proofs.Store.Units
import SecretRotation.Sample
import SecretRotation.Settings
import SecretRotation.Stamp
import SecretRotation.Startup
import SecretRotation.Store
import SecretRotation.Text.Base64
import SecretRotation.Text.Blank
import SecretRotation.Text.Console
import SecretRotation.Text.Decimal
import SecretRotation.Text.FormEncoding
import SecretRotation.Text.Quoted
import SecretRotation.Text.Timestamp
import SecretRotation.Text.Visible
import SecretRotation.Watch.Run
import SecretRotation.Watch.Schedule
import SecretRotation.Proofs.Store.Errand
import SecretRotation.Proofs.Store.Commuting
import SecretRotation.Proofs.Store.KindByKind
import SecretRotation.Proofs.Api.Provenance
import SecretRotation.Proofs.Interleaving.Archive
import SecretRotation.Proofs.Interleaving.Stamps
import SecretRotation.Proofs.Api.Documents
import SecretRotation.Proofs.Api.Service
import SecretRotation.Proofs.Api.Agreement
import SecretRotation.Proofs.Api.PagingServer
import SecretRotation.Proofs.Store.Indifference
import SecretRotation.Proofs.Api.SteadyServer
import SecretRotation.Proofs.Interleaving.Rotation
import SecretRotation.Proofs.Watch.Requests
import SecretRotation.Proofs.Watch.Outcome
import SecretRotation.Proofs.Watch.Chronicle
import SecretRotation.Proofs.Watch.Told
import SecretRotation.Proofs.Json.NormalForm
import SecretRotation.Proofs.Json.Shape
import SecretRotation.Proofs.Json.Standing
import SecretRotation.Proofs.Json.Anything
import SecretRotation.Proofs.Text.Timestamp
import SecretRotation.Proofs.Json.Setting
import SecretRotation.Proofs.Cluster.NormalForm
import SecretRotation.Proofs.Cluster.AsWritten
import SecretRotation.Proofs.Cluster.Annotated
import SecretRotation.Proofs.Api.Replacement
import SecretRotation.Proofs.StampLaws
import SecretRotation.Proofs.Pass.Copies
import SecretRotation.Proofs.Text.FormDecoding
import SecretRotation.Proofs.Api.PageAddresses
import SecretRotation.Proofs.Api.Paging
import SecretRotation.Proofs.Json.Reordering
import SecretRotation.Proofs.Cluster.Reordering
import SecretRotation.Proofs.Consumption
import SecretRotation.Proofs.Cluster.References
import SecretRotation.Proofs.Json.ValueAt
import SecretRotation.Proofs.Settings
import SecretRotation.Proofs.Pass.AnnotationKeys
import SecretRotation.Proofs.Store.ReadBack
