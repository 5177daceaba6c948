import BankLedger.Database.Handshake
import BankLedger.Database.Rehearsal
import BankLedger.Digest.Hmac
import BankLedger.Digest.Md5
import BankLedger.Ledger.Startup
import BankLedger.Postgres.Identifier
import BankLedger.Postgres.QueryResult
import BankLedger.Sql.Table
import BankLedger.Settings.Schema
import BankLedger.Text.Base64
import BankLedger.Postgres.ClientMessage
import BankLedger.Postgres.ServerMessage
import BankLedger.Postgres.Server
import BankLedger.Command.Arguments
import BankLedger.Command.EnvironmentFile
import BankLedger.Command.Rehearsal
import BankLedger.Command.Run
import BankLedger.Postgres.ScriptedServer
import BankLedger.Main
import BankLedger.Proofs.Ledger.Calls
import BankLedger.Proofs.Ledger.Agreement
import BankLedger.Proofs.Ledger.Conservation
import BankLedger.Proofs.Database.Footprint
import BankLedger.Proofs.Ledger.PooledStorage
import BankLedger.Proofs.Ledger.Loading
import BankLedger.Proofs.Ledger.Startup
import BankLedger.Proofs.Ledger.Overdraft
import BankLedger.Proofs.Sql.ArrayLanguage
import BankLedger.Proofs.Sql.ArrayEscapes
import BankLedger.Proofs.Sql.WireRoundTrip
import BankLedger.Proofs.Database.Traffic
import BankLedger.Proofs.Database.Custody
import BankLedger.Proofs.Database.Destruction
import BankLedger.Proofs.Database.Wholeness
import BankLedger.Proofs.Database.Capacity
import BankLedger.Proofs.Database.Enactment
import BankLedger.Proofs.Database.Gauge
import BankLedger.Proofs.Database.RehearsedPolling
import BankLedger.Proofs.Database.Accounting
import BankLedger.Proofs.Postgres.Rows
import BankLedger.Proofs.Postgres.Succession
import BankLedger.Proofs.Postgres.ServerErrors
import BankLedger.Proofs.Postgres.Authentication
import BankLedger.Proofs.Postgres.Request
import BankLedger.Proofs.Postgres.Transcript
import BankLedger.Proofs.Postgres.Course
import BankLedger.Proofs.Postgres.Question
import BankLedger.Proofs.Postgres.WriteBuffer
import BankLedger.Proofs.Postgres.Breakage
import BankLedger.Proofs.Postgres.Role
import BankLedger.Proofs.Sql.CellDecoding
import BankLedger.Proofs.Postgres.ResultDecoding
import BankLedger.Proofs.Json.Numbers
import BankLedger.Proofs.Json.Records
import BankLedger.Proofs.Json.Indented
import BankLedger.Proofs.Settings.Documents
import BankLedger.Proofs.Command.Disk
import BankLedger.Proofs.Database.Journal
import BankLedger.Proofs.Ledger.Beginning
import BankLedger.Proofs.Ledger.Deeds
import BankLedger.Proofs.Command.ExitCode
import BankLedger.Proofs.Postgres.Copies
import BankLedger.Proofs.Ledger.Merge
import BankLedger.Proofs.Json.Skipping
import BankLedger.Proofs.Ledger.Requests
import BankLedger.Proofs.Sql.TypeLookup
import BankLedger.Proofs.Sql.JsonRows
import BankLedger.Proofs.Sql.TableLayout
import BankLedger.Proofs.Settings.Resolution
import BankLedger.Proofs.Postgres.Identifiers
import BankLedger.Proofs.Sql.ArrayOffsets
import BankLedger.Proofs.Sql.ArrayCapacity
