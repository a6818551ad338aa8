import Gatehouse.Api.Error
import Gatehouse.Api.Router
import Gatehouse.Api.Wire
import Gatehouse.Auth.ApiKeys
import Gatehouse.Auth.Cookie
import Gatehouse.Auth.Error
import Gatehouse.Auth.Gate
import Gatehouse.Auth.Identity
import Gatehouse.Bytes
import Gatehouse.Bytes.Base64
import Gatehouse.Bytes.Hex
import Gatehouse.Bytes.Utf8
import Gatehouse.Call
import Gatehouse.Command.Arguments
import Gatehouse.Command.Failure
import Gatehouse.Command.Host
import Gatehouse.Command.Operator
import Gatehouse.Command.Server
import Gatehouse.Crypto.Aead
import Gatehouse.Crypto.Aes
import Gatehouse.Crypto.Der
import Gatehouse.Crypto.Ecdsa
import Gatehouse.Crypto.Error
import Gatehouse.Crypto.Gcm
import Gatehouse.Crypto.KeyEncoding
import Gatehouse.Crypto.P256
import Gatehouse.Crypto.Sha256
import Gatehouse.EmailQuota
import Gatehouse.EmailQuota.Concurrent
import Gatehouse.Entropy
import Gatehouse.ExternalId
import Gatehouse.Http.Client
import Gatehouse.Http.Headers
import Gatehouse.Http.Redirect
import Gatehouse.Http.Scripted
import Gatehouse.Http.Status
import Gatehouse.Http.Url
import Gatehouse.Json
import Gatehouse.Json.Decode
import Gatehouse.Json.Member
import Gatehouse.Json.Printer
import Gatehouse.Json.Reader
import Gatehouse.Kms.Aws
import Gatehouse.Kms.Client
import Gatehouse.Kms.Config
import Gatehouse.Kms.Error
import Gatehouse.Kms.Gcp
import Gatehouse.Kms.Protector
import Gatehouse.Limit
import Gatehouse.Log
import Gatehouse.Log.Filter
import Gatehouse.Log.Json
import Gatehouse.Log.Line
import Gatehouse.Main
import Gatehouse.Positional
import Gatehouse.Positional.Lemmas
import Gatehouse.Proofs.Auth.Bearer
import Gatehouse.Proofs.Auth.Gate
import Gatehouse.Proofs.Base64
import Gatehouse.Proofs.Call
import Gatehouse.Proofs.Crypto.Curve
import Gatehouse.Proofs.Crypto.Der
import Gatehouse.Proofs.Crypto.FieldOrder
import Gatehouse.Proofs.Crypto.KeyEncoding
import Gatehouse.Proofs.Identifier
import Gatehouse.Proofs.Json.Lexeme
import Gatehouse.Proofs.Json.RoundTrip
import Gatehouse.Proofs.Octets
import Gatehouse.Proofs.Session.Compact
import Gatehouse.Proofs.Session.Issuance
import Gatehouse.Proofs.Session.Service
import Gatehouse.Proofs.Session.Tokens
import Gatehouse.Proofs.Session.Verification
import Gatehouse.Proofs.Session.Wire
import Gatehouse.Proofs.Store.Coherence
import Gatehouse.Proofs.Store.Effect
import Gatehouse.Proofs.Store.Invariant
import Gatehouse.Proofs.Store.Query
import Gatehouse.Proofs.Store.Reachable
import Gatehouse.Proofs.Store.Schema
import Gatehouse.Proofs.Store.Statement
import Gatehouse.Proofs.Store.Transaction
import Gatehouse.Proofs.Traversal
import Gatehouse.Proofs.Utf8
import Gatehouse.Redacted
import Gatehouse.Session.Claims
import Gatehouse.Session.Error
import Gatehouse.Session.Password
import Gatehouse.Session.Provisioning
import Gatehouse.Session.SigningKeys
import Gatehouse.Session.Token
import Gatehouse.Session.Token.Compact
import Gatehouse.Session.Token.Header
import Gatehouse.Store.Concurrent
import Gatehouse.Store.Database
import Gatehouse.Store.Error
import Gatehouse.Store.Json
import Gatehouse.Store.Open
import Gatehouse.Store.Operation
import Gatehouse.Store.Query
import Gatehouse.Store.Record
import Gatehouse.Store.Statement
import Gatehouse.Text.Blank
import Gatehouse.Text.Printable
import Gatehouse.Text.Quoted
import Gatehouse.Text.Record
import Gatehouse.Uuid
import Gatehouse.Wording
import Gatehouse.Proofs.Session.Audience
import Gatehouse.Proofs.Store.Atomicity
import Gatehouse.Proofs.Store.Concurrent
import Gatehouse.Proofs.Store.Bootstrap
import Gatehouse.Proofs.Auth.ApiKeys
import Gatehouse.Proofs.Session.Provisioning
import Gatehouse.Proofs.Api.Reply
import Gatehouse.Proofs.Store.Tenant
import Gatehouse.Proofs.Api.Isolation
import Gatehouse.Proofs.Api.Mediation
import Gatehouse.Proofs.Api.Refusal
import Gatehouse.Proofs.Store.Counter
import Gatehouse.Proofs.EmailQuota
import Gatehouse.Proofs.Session.Persistence
import Gatehouse.Proofs.Session.KeyMaterial
import Gatehouse.Proofs.Session.Signature
import Gatehouse.Proofs.Session.Publication
import Gatehouse.Proofs.Api.SessionKeys
import Gatehouse.Proofs.Store.File
import Gatehouse.Proofs.Store.Reopening
import Gatehouse.Proofs.Session.VaultDomain
import Gatehouse.Proofs.Command.Startup
import Gatehouse.Proofs.Kms.Payload
import Gatehouse.Proofs.Kms.Service
import Gatehouse.Proofs.Http.Trail
import Gatehouse.Proofs.ExternalId
import Gatehouse.Proofs.Auth.Cookie
import Gatehouse.Proofs.Auth.Offer
import Gatehouse.Proofs.Auth.SessionCookie
import Gatehouse.Proofs.Session.Rotation
import Gatehouse.Proofs.Store.Update
import Gatehouse.Proofs.Command.Arguments
import Gatehouse.Proofs.Command.Update
import Gatehouse.Proofs.Json.Codec
import Gatehouse.Proofs.Api.Wire
import Gatehouse.Proofs.Crypto.Compression
import Gatehouse.Proofs.Crypto.Canonical
import Gatehouse.Proofs.Crypto.Gcm
import Gatehouse.Proofs.Crypto.Sealing
import Gatehouse.Proofs.Session.Subdomain
import Gatehouse.Proofs.Kms.RoundTrips
import Gatehouse.Proofs.Store.Erasure
import Gatehouse.Proofs.TwoRuns
import Gatehouse.Proofs.Auth.Secrecy
import Gatehouse.Proofs.Session.Secrecy
import Gatehouse.Proofs.Secrecy
