import AbiTypings.Main
import AbiTypings.Files.Tree
import AbiTypings.AbiType.Json
import AbiTypings.Proofs.Expansion
import AbiTypings.Proofs.Sharing
import AbiTypings.Proofs.EventRecords
import AbiTypings.Proofs.Repetition
import AbiTypings.Proofs.RegistryStates
import AbiTypings.Proofs.ExportedNames
import AbiTypings.Proofs.BoundNames
import AbiTypings.Proofs.FieldKeys
import AbiTypings.Proofs.MemberOrder
import AbiTypings.Proofs.Extension
import AbiTypings.Proofs.Lockstep
import AbiTypings.Proofs.TagLanguage
import AbiTypings.Proofs.TagRoundTrip
import AbiTypings.Proofs.Generating
import AbiTypings.Proofs.DefinedTypes
import AbiTypings.Proofs.CommandsAgree
import AbiTypings.Proofs.NestedTuples
import AbiTypings.Proofs.RoundTrips
import AbiTypings.Proofs.ArrayTypes
import AbiTypings.Proofs.DroppedOutputs
import AbiTypings.Proofs.ListedMembers
import AbiTypings.Proofs.NameUnions
import AbiTypings.Proofs.Renumbering
import AbiTypings.Proofs.Outlines
