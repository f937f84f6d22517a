import HandleWrap.FileTree
import HandleWrap.Json.SettingsForm
import HandleWrap.Main
import HandleWrap.Proofs.Pairing
import HandleWrap.Proofs.Success
import HandleWrap.Proofs.Translation
import HandleWrap.Proofs.Adaptation
import HandleWrap.Proofs.Member
import HandleWrap.Proofs.CallAlignment
import HandleWrap.Proofs.ErrorProtocol
import HandleWrap.Proofs.ClassPasses
import HandleWrap.Proofs.Acceptance
import HandleWrap.Proofs.TableAcceptance
import HandleWrap.Proofs.HandleOwners
import HandleWrap.Proofs.Output
import HandleWrap.Proofs.DeclarationOrder
import HandleWrap.Proofs.Lines
import HandleWrap.Proofs.WellSpelled
import HandleWrap.Proofs.Unchecked
import HandleWrap.Proofs.FirstError
import HandleWrap.Proofs.WellBracketed
import HandleWrap.Proofs.ListingOrder
import HandleWrap.Proofs.Locality
import HandleWrap.Proofs.JsonRoundTrip
import HandleWrap.Proofs.Extensions
import HandleWrap.Proofs.EqualityOperator
import HandleWrap.Proofs.Routes
import HandleWrap.Proofs.SuperclassChains
import HandleWrap.Proofs.CallbackAlignment
import HandleWrap.Proofs.ReleasedArguments
import HandleWrap.Proofs.ResultOwnership
import HandleWrap.Proofs.SavedContext
import HandleWrap.Proofs.Prefixes
import HandleWrap.Proofs.Narrowing
import HandleWrap.Proofs.ResultPhase
import HandleWrap.Proofs.ConstructorResult
import HandleWrap.Proofs.HiddenParameters
import HandleWrap.Proofs.ArgumentGrammar
import HandleWrap.Proofs.DerivedIdentifiers
import HandleWrap.Proofs.EmptyNames
import HandleWrap.Proofs.LeftmostPrefix
import HandleWrap.Proofs.StrippedNames
