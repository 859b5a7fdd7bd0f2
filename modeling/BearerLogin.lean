import BearerLogin.AuthError
import BearerLogin.Base64
import BearerLogin.Callback
import BearerLogin.Certificate
import BearerLogin.Certificate.Der
import BearerLogin.Certificate.Pem
import BearerLogin.Credentials
import BearerLogin.Deployment
import BearerLogin.Double
import BearerLogin.Double.Shortest
import BearerLogin.ErrorId
import BearerLogin.Event
import BearerLogin.Exchange
import BearerLogin.Http.MediaType
import BearerLogin.Http.Message
import BearerLogin.Http.Refusal
import BearerLogin.Http.Router
import BearerLogin.Instant
import BearerLogin.Instant.Printer
import BearerLogin.Instant.Reader
import BearerLogin.Json.Cursor
import BearerLogin.Json.Fault
import BearerLogin.Json.Printer
import BearerLogin.Json.Record
import BearerLogin.Json.Scalar
import BearerLogin.Json.Structure
import BearerLogin.Json.Value
import BearerLogin.Jwt.Algorithm
import BearerLogin.Jwt.Claims
import BearerLogin.Jwt.EmbeddedKey
import BearerLogin.Jwt.Fault
import BearerLogin.Jwt.Header
import BearerLogin.Jwt.Key
import BearerLogin.Jwt.KeySet
import BearerLogin.Jwt.Validator
import BearerLogin.Login
import BearerLogin.Main
import BearerLogin.Network
import BearerLogin.Network.Message
import BearerLogin.Network.Transcript
import BearerLogin.Principal
import BearerLogin.RegisteredTokens
import BearerLogin.Settings
import BearerLogin.Signature.Digest
import BearerLogin.Signature.Ecdsa
import BearerLogin.Signature.Rsa
import BearerLogin.Startup
import BearerLogin.Store
import BearerLogin.Text.Blank
import BearerLogin.Text.CodeRange
import BearerLogin.Text.CodeTable
import BearerLogin.Text.Composition
import BearerLogin.Text.Composition.Table
import BearerLogin.Text.Decimal
import BearerLogin.Text.Printable
import BearerLogin.Text.Quoted
import BearerLogin.Text.UpperCase
import BearerLogin.Text.Utf8
import BearerLogin.Token
import BearerLogin.Token.Record
import BearerLogin.TokenEndpoint
import BearerLogin.TokenError
import BearerLogin.Url
import BearerLogin.Url.Domain
import BearerLogin.Url.Domain.CharacterClass
import BearerLogin.Url.Domain.Mapping
import BearerLogin.Url.Host
import BearerLogin.Url.Percent
import BearerLogin.Url.Punycode
import BearerLogin.Url.Reader
import BearerLogin.Proofs.Login.Course
import BearerLogin.Proofs.Login.Run
import BearerLogin.Proofs.Validator.Course
import BearerLogin.Proofs.Validator.Session
import BearerLogin.Proofs.Validator.Acceptance
import BearerLogin.Proofs.Json.Reading
import BearerLogin.Proofs.Json.Extent
import BearerLogin.Proofs.Json.Skipping
import BearerLogin.Proofs.Json.Objects
import BearerLogin.Proofs.Validator.Claims
import BearerLogin.Proofs.Validator.Names
import BearerLogin.Proofs.Validator.Judgement
import BearerLogin.Proofs.Validator.Projection
import BearerLogin.Proofs.Validator.Expiry
import BearerLogin.Proofs.Validator.NotBefore
import BearerLogin.Proofs.Validator.Refresh
import BearerLogin.Proofs.Validator.Requests
import BearerLogin.Proofs.Validator.Transparency
import BearerLogin.Proofs.Validator.Rotation
import BearerLogin.Proofs.Login.Handling
import BearerLogin.Proofs.Exchange.Turns
import BearerLogin.Proofs.Base64
import BearerLogin.Proofs.Text
import BearerLogin.Proofs.Url.Form
import BearerLogin.Proofs.Http.Comparison
import BearerLogin.Proofs.Http.Lookup
import BearerLogin.Proofs.Http.FrontEnd
import BearerLogin.Proofs.Login.Secrecy
import BearerLogin.Proofs.Exchange.Message
import BearerLogin.Proofs.Login.Paths
import BearerLogin.Proofs.Exchange.Stages
import BearerLogin.Proofs.Http.Rejection
import BearerLogin.Proofs.TokenEndpoint.Requests
import BearerLogin.Proofs.TokenEndpoint.Attempts
import BearerLogin.Proofs.TokenEndpoint.Purchase
import BearerLogin.Proofs.TokenEndpoint.Grant
import BearerLogin.Proofs.TokenEndpoint.Authorization
import BearerLogin.Proofs.Login.Callbacks
import BearerLogin.Proofs.Login.Verdicts
import BearerLogin.Proofs.Login.Discretion
import BearerLogin.Proofs.Exchange.Reports
import BearerLogin.Proofs.Settings.Refusal
import BearerLogin.Proofs.Settings.Contents
import BearerLogin.Proofs.Settings.Deployment
import BearerLogin.Proofs.Http.Operator
import BearerLogin.Proofs.Token.RoundTrip
