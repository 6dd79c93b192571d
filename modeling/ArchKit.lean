import ArchKit.Proofs.ConcurrentPublication
import ArchKit.Reference
import ArchKit.Proofs.FaultFree
import ArchKit.Proofs.Interruption
import ArchKit.Proofs.Amounts
import ArchKit.Proofs.Batches
import ArchKit.Token
import ArchKit.ArchSigner
import ArchKit.Transaction
import ArchKit.Proofs.Signing
import ArchKit.Encryption
import ArchKit.Proofs.Envelope
import ArchKit.Disk
import ArchKit.Proofs.KeyFiles
import ArchKit.Proofs.KeyGeneration
import ArchKit.Effects.Environment
import ArchKit.Deploy
import ArchKit.Proofs.LocalInputs
import ArchKit.Proofs.Idempotence
import ArchKit.Proofs.Buffers
import ArchKit.Cargo
import ArchKit.Init
import ArchKit.Proofs.ProjectNames
import ArchKit.Proofs.VanityPrefix
import ArchKit.Proofs.ExpectedProgram
import ArchKit.Proofs.VanitySearch
import ArchKit.Keygen
import ArchKit.Tree
import ArchKit.Proofs.Resolution
import ArchKit.Proofs.KeyDestinations
import ArchKit.Minting
import ArchKit.TokenTransfer
import ArchKit.TokenListing
import ArchKit.Effects.Series
import ArchKit.Proofs.TokenCommands
import ArchKit.Proofs.FixedSupply
import ArchKit.Radix.Layout
import ArchKit.TokenReference
import ArchKit.Proofs.Conservation
import ArchKit.Proofs.ExactTransfer
import ArchKit.Proofs.AccountValidation
import ArchKit.Proofs.CanonicalNames
import ArchKit.Proofs.Normalization
import ArchKit.JsonBytes
import ArchKit.Proofs.SecretKeys
import ArchKit.Proofs.Funding
import ArchKit.Proofs.ProgramAccount
import ArchKit.Effects.Trace
import ArchKit.Proofs.Exchanges
import ArchKit.Proofs.Growth
import ArchKit.Proofs.Upload
import ArchKit.Proofs.Joining
import ArchKit.Effects.Monitor
import ArchKit.Effects.Lift
import ArchKit.CommandError
import ArchKit.Node
import ArchKit.TransferArch
import ArchKit.Books
import ArchKit.NativeReference
import ArchKit.Proofs.OneTransaction
import ArchKit.Proofs.SharedChain
import ArchKit.Proofs.Bookings
import ArchKit.Proofs.SharedTokens
import ArchKit.Proofs.AnyReplies
import ArchKit.Proofs.NativeTransfers
import ArchKit.Proofs.OwnAccounts
import ArchKit.Proofs.AnyPublication
import ArchKit.Proofs.AnyDeployment
import ArchKit.Effects.Sum
import ArchKit.Effects.Footprint
import ArchKit.Effects.Record
import ArchKit.Toolkit
import ArchKit.Project
import ArchKit.Inspection
import ArchKit.CommandLine
import ArchKit.SharedDisk
import ArchKit.ToolkitReference
import ArchKit.Proofs.Footprints
import ArchKit.Proofs.CommandFootprints
import ArchKit.Proofs.LeastPrivilege
import ArchKit.Proofs.NotedFiles
import ArchKit.Proofs.SharedDisk
import ArchKit.Effects.Moments
import ArchKit.Sessions
import ArchKit.Proofs.Sightings
import ArchKit.Proofs.Snapshots
import ArchKit.Effects.Likeness
import ArchKit.Proofs.DeploySecrecy
import ArchKit.Proofs.Secrecy
