import SmartCard.Apdu.Command
import SmartCard.Apdu.Link
import SmartCard.Apdu.LinkError
import SmartCard.Apdu.Response
import SmartCard.Apdu.Script
import SmartCard.Apdu.StatusWord
import SmartCard.Bytes.BigEndian
import SmartCard.Bytes.Block
import SmartCard.Bytes.Hex
import SmartCard.Channel.CardOffer
import SmartCard.Channel.SecureChannel
import SmartCard.Channel.SecurityLevel
import SmartCard.Channel.Session
import SmartCard.Channel.State
import SmartCard.Channel.Version
import SmartCard.Cipher.Aes
import SmartCard.Cipher.Basic
import SmartCard.Cipher.Cmac
import SmartCard.Cipher.Derivation
import SmartCard.Cipher.Des
import SmartCard.Cipher.Fault
import SmartCard.Cipher.Mac
import SmartCard.Cipher.Padding
import SmartCard.Cipher.Sha256
import SmartCard.Cipher.TripleDes
import SmartCard.Error
import SmartCard.Inspect.Record
import SmartCard.Key.Basic
import SmartCard.Key.Diversification
import SmartCard.Key.Envelope
import SmartCard.Key.Kind
import SmartCard.Key.SessionKeys
import SmartCard.Key.Set
import SmartCard.Key.Slot
import SmartCard.Management.Content
import SmartCard.Management.Cplc
import SmartCard.Management.LoadFile
import SmartCard.Management.RegistryReader
import SmartCard.Platform.Commands
import SmartCard.Platform.Vocabulary
import SmartCard.Registry.Entry
import SmartCard.Registry.Legacy
import SmartCard.Registry.Listing
import SmartCard.Registry.Query
import SmartCard.Registry.Template
import SmartCard.Tlv.Ber
import SmartCard.Tlv.Fault
import SmartCard.Tlv.LengthValue
import SmartCard.Tlv.Simple
import SmartCard.Proofs.Bytes.BigEndian
import SmartCard.Proofs.Bytes.Fields
import SmartCard.Proofs.Cipher.AesInverse
import SmartCard.Proofs.Cipher.DesInverse
import SmartCard.Proofs.Outcome
import SmartCard.Proofs.Cipher.Messages
import SmartCard.Proofs.Key.DerivedKeys
import SmartCard.Proofs.Channel.SessionSteps
import SmartCard.Proofs.Channel.Conversation
import SmartCard.Proofs.Channel.Protection
import SmartCard.Proofs.Channel.Scp03Card
import SmartCard.Proofs.Channel.DesCard
import SmartCard.Proofs.Apdu.Tap
import SmartCard.Proofs.Apdu.Script
import SmartCard.Proofs.Channel.Lifecycle
import SmartCard.Proofs.Channel.Handshake
import SmartCard.Proofs.Apdu.Codec
import SmartCard.Proofs.Channel.SessionCalls
import SmartCard.Proofs.Channel.Transcript
import SmartCard.Proofs.Channel.Limits
import SmartCard.Proofs.Channel.Established
import SmartCard.Proofs.Channel.AnswerBinding
import SmartCard.Proofs.Management.RegistryPages
import SmartCard.Proofs.Management.Operations
import SmartCard.Proofs.Management.Paging
import SmartCard.Proofs.Management.Blocks
import SmartCard.Proofs.Tlv.LengthValue
import SmartCard.Proofs.Tlv.Ber
import SmartCard.Proofs.Tlv.Fields
import SmartCard.Proofs.Management.Transfer
import SmartCard.Proofs.Management.SecureOperations
import SmartCard.Proofs.Key.Additions
import SmartCard.Proofs.Key.Table
import SmartCard.Proofs.Key.TableRuns
import SmartCard.Proofs.Key.Slots
import SmartCard.Proofs.Key.Envelopes
import SmartCard.Proofs.Key.SlotMatching
import SmartCard.Proofs.Key.KeyBlocks
import SmartCard.Proofs.Management.KeyReplacement
import SmartCard.Proofs.Management.KeyPlaces
import SmartCard.Proofs.Management.ReplacementOutcome
import SmartCard.Proofs.Channel.AuthenticAnswers
import SmartCard.Proofs.Channel.InitialValues
import SmartCard.Proofs.Channel.FailedCommands
import SmartCard.Proofs.Key.DerivedSets
import SmartCard.Proofs.Key.Derivations
import SmartCard.Proofs.Cipher.DerivedSecrets
import SmartCard.Proofs.Key.DiversifiedKeys
import SmartCard.Proofs.Key.KeySeparation
import SmartCard.Proofs.Key.UntypedKeys
import SmartCard.Proofs.Channel.KeyCiphers
import SmartCard.Proofs.Channel.OfferLayout
import SmartCard.Proofs.Tlv.Grammar
import SmartCard.Proofs.Tlv.ShortestForm
import SmartCard.Proofs.Registry.FixedLayout
import SmartCard.Proofs.Key.SlotListing
import SmartCard.Proofs.Management.LoadFileObject
import SmartCard.Proofs.Registry.Templates
import SmartCard.Proofs.Cipher.MacPaths
import SmartCard.Proofs.Management.InstallFields
import SmartCard.Proofs.Management.IdentityBlocks
import SmartCard.Proofs.Cipher.SecretLengths
import SmartCard.Proofs.Key.Secrecy
import SmartCard.Proofs.Cipher.RoundTrips
import SmartCard.Proofs.Cipher.CounterMode
import SmartCard.Proofs.Management.ProductionData
