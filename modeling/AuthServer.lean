import AuthServer.Main
import AuthServer.Proofs.Association
import AuthServer.Proofs.Claims.Canonical
import AuthServer.Proofs.Claims.Codec
import AuthServer.Proofs.Claims.Expiry
import AuthServer.Proofs.Claims.Lifetime
import AuthServer.Proofs.Crypto.Rsa
import AuthServer.Proofs.Encoding.Base64
import AuthServer.Proofs.Encoding.Pem
import AuthServer.Proofs.Endpoint.Body
import AuthServer.Proofs.Endpoint.Delegation
import AuthServer.Proofs.Endpoint.Effect
import AuthServer.Proofs.Endpoint.Registration
import AuthServer.Proofs.Endpoint.Validation
import AuthServer.Proofs.Http.Target
import AuthServer.Proofs.IpAddress
import AuthServer.Proofs.Json.Number
import AuthServer.Proofs.Json.Part
import AuthServer.Proofs.Json.Skip
import AuthServer.Proofs.Json.String
import AuthServer.Proofs.Keys.Folder
import AuthServer.Proofs.Keys.Listing
import AuthServer.Proofs.Keys.Loading
import AuthServer.Proofs.Keys.Rotation
import AuthServer.Proofs.Outcome
import AuthServer.Proofs.Problem.Envelope
import AuthServer.Proofs.Problem.FieldErrors
import AuthServer.Proofs.Routes.Accounts
import AuthServer.Proofs.Routes.Completion
import AuthServer.Proofs.Routes.Delegation
import AuthServer.Proofs.Routes.Effect
import AuthServer.Proofs.Routes.Failure
import AuthServer.Proofs.Routes.FullChain
import AuthServer.Proofs.Routes.Gate
import AuthServer.Proofs.Routes.Gatekeeping
import AuthServer.Proofs.Routes.Table
import AuthServer.Proofs.Run.Account
import AuthServer.Proofs.Run.Bootstrap
import AuthServer.Proofs.Run.Confidentiality
import AuthServer.Proofs.Run.Enrolment
import AuthServer.Proofs.Run.Escalation
import AuthServer.Proofs.Run.Likeness
import AuthServer.Proofs.Run.Lookup
import AuthServer.Proofs.Run.Registration
import AuthServer.Proofs.Run.Resigning
import AuthServer.Proofs.Run.Secrecy
import AuthServer.Proofs.Run.Spelling
import AuthServer.Proofs.Run.Trace
import AuthServer.Proofs.Settings
import AuthServer.Proofs.Settings.Acceptance
import AuthServer.Proofs.Shutdown
import AuthServer.Proofs.Stage.Chain
import AuthServer.Proofs.Stage.Origin
import AuthServer.Proofs.Text.Blank
import AuthServer.Proofs.Text.Numeral
import AuthServer.Proofs.Text.Utf8
import AuthServer.Proofs.Time.Calendar
import AuthServer.Proofs.Time.Instant
import AuthServer.Proofs.Time.Timestamp
import AuthServer.Proofs.Token.Agreement
import AuthServer.Proofs.Token.Bearer
import AuthServer.Proofs.Token.Decoding
import AuthServer.Proofs.Token.Failure
import AuthServer.Proofs.Token.Header
import AuthServer.Proofs.Token.Payload
import AuthServer.Proofs.Token.Resigning
import AuthServer.Proofs.Token.Segments
import AuthServer.Proofs.Token.Session
import AuthServer.Proofs.Token.Soundness
import AuthServer.Proofs.Token.Timeliness
import AuthServer.Proofs.Token.Validity
import AuthServer.Proofs.Token.Verification
import AuthServer.Proofs.Traffic.Conservation
import AuthServer.Proofs.Traffic.Tally
import AuthServer.Proofs.Users.Atomicity
import AuthServer.Proofs.Users.Codec
import AuthServer.Proofs.Users.Interleaving
import AuthServer.Proofs.Users.Replay
import AuthServer.Proofs.Users.Simulation
import AuthServer.Transport
import AuthServer.Workbench
