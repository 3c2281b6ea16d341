import SignedResponse.Config.Json
import SignedResponse.Main
import SignedResponse.Proofs.Signature.TrustChain
import SignedResponse.Proofs.Verification.Enforcement
import SignedResponse.Proofs.Verification.HonestExchange
import SignedResponse.Proofs.Verification.Replay
import SignedResponse.Proofs.Signature.Binding
import SignedResponse.Proofs.Verification.Runs
import SignedResponse.Proofs.Http.HeaderLookup
import SignedResponse.Proofs.Verification.Adjustment
import SignedResponse.Proofs.Verification.SignedInputs
import SignedResponse.Proofs.Signature.Codec
import SignedResponse.Proofs.Signature.Verdict
import SignedResponse.Proofs.Metrics.Metering
import SignedResponse.Proofs.Cli.Outcome
import SignedResponse.Proofs.Cli.CommandLine
import SignedResponse.Proofs.Verification.RequestDate
import SignedResponse.Proofs.LittleEndian
import SignedResponse.Proofs.Time.Instant
import SignedResponse.Proofs.Signature.Expiration
import SignedResponse.Proofs.Signature.Window
import SignedResponse.Proofs.Capture.Headers
import SignedResponse.Proofs.Http.ResponseFields
import SignedResponse.Proofs.Json.Shape
import SignedResponse.Proofs.Capture.Response
import SignedResponse.Proofs.Crypto.EdwardsGroup
import SignedResponse.Proofs.Crypto.Primality
import SignedResponse.Proofs.Crypto.Field25519
import SignedResponse.Proofs.Crypto.Edwards25519
import SignedResponse.Proofs.Crypto.Ed25519
import SignedResponse.Proofs.Signature.ScalarHalf
import SignedResponse.Proofs.Json.Text
import SignedResponse.Proofs.Json.Number
import SignedResponse.Proofs.Json.Document
import SignedResponse.Proofs.Json.Record
import SignedResponse.Proofs.Json.Part
import SignedResponse.Proofs.Capture.Document
import SignedResponse.Proofs.Config.Json
import SignedResponse.Proofs.Http.RequestNonce
import SignedResponse.Proofs.Capture.Nonce
import SignedResponse.Proofs.Config.NonceSize
import SignedResponse.Proofs.Config.Mode
import SignedResponse.Proofs.Signature.Slicing
import SignedResponse.Proofs.Crypto.PointDecoding
import SignedResponse.Proofs.Signature.RootKey
import SignedResponse.Proofs.Log.Level
