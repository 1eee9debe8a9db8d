import N2F.Ecma.Equality
import N2F.Ecma.Utf8
import N2F.Provenance.Hints
import N2F.Provenance.Successors
import N2F.Events.Payload
import N2F.Events.Grammar
import N2F.Events.Publishers
import N2F.Events.DeliverySafety
import N2F.Id.V7Capacity
import N2F.Pagination
import N2F.Identity.History
import N2F.Http.Server
import N2F.Http.Observation
import N2F.Http.WorkersAnswers
import N2F.Logger.ConsoleSafety
import N2F.Logger.Graph
import N2F.Logger.Secrets
import N2F.Env.Manifest
import N2F.Health.Readiness
import N2F.Postgres.MigrationLedger
import N2F.Postgres.PoolSafety
import N2F.Socket.Shutdown
import N2F.HttpClient.Answers
import N2F.Events.RelaySafety
import N2F.Events.ProvisionSafety
import N2F.Root.ConfigSecrets
import N2F.Root.ProcessEnd
import N2F.Root.EntranceSafety
import N2F.Root.EventsSafety
