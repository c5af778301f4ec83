import RequestSigning.Http.Authorize
import RequestSigning.Main
import RequestSigning.Proofs.Agent.Connection
import RequestSigning.Proofs.Agent.KeyList
import RequestSigning.Proofs.Agent.Selection
import RequestSigning.Proofs.Agent.SignRequests
import RequestSigning.Proofs.Agent.SshRsaReplies
import RequestSigning.Proofs.AgentSockets
import RequestSigning.Proofs.AuthorizationValue
import RequestSigning.Proofs.Authorize
import RequestSigning.Proofs.CommandOutput
import RequestSigning.Proofs.EcdsaTexts
import RequestSigning.Proofs.EcdsaVerifies
import RequestSigning.Proofs.FingerprintNames
import RequestSigning.Proofs.HeaderLines
import RequestSigning.Proofs.LogSecrecy
import RequestSigning.Proofs.NamedKey
import RequestSigning.Proofs.NamedKinds
import RequestSigning.Proofs.NormalForms
import RequestSigning.Proofs.RejectedLines
import RequestSigning.Proofs.RsaTexts
import RequestSigning.Proofs.RsaVerifies
import RequestSigning.Proofs.SamePrimitive
import RequestSigning.Proofs.SelfTest
import RequestSigning.Proofs.SettingsLayers
import RequestSigning.Proofs.UncarriableNames
import RequestSigning.Proofs.UnrelatedValues
