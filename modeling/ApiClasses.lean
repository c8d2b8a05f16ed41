import ApiClasses.Generation
import ApiClasses.Proofs.Growth
import ApiClasses.Proofs.References
import ApiClasses.Proofs.Json.Spellings
import ApiClasses.Proofs.Json.UniqueKeys
import ApiClasses.Proofs.Loading.Rules
import ApiClasses.Proofs.Loading.Faults
import ApiClasses.Proofs.Loading.Obedience
import ApiClasses.Proofs.Loading.Memory
import ApiClasses.Proofs.Loading.Circles
import ApiClasses.Proofs.Loading.Identity
import ApiClasses.Proofs.Loading.Culprits
import ApiClasses.Proofs.Loading.Descents
import ApiClasses.Proofs.Loading.Graph
import ApiClasses.Proofs.Loading.Addresses
import ApiClasses.Proofs.Answers
import ApiClasses.Proofs.Chains
import ApiClasses.Proofs.FieldTypes
import ApiClasses.Proofs.Placement
import ApiClasses.Proofs.Output
import ApiClasses.Proofs.Scopes
import ApiClasses.Proofs.Meanings
import ApiClasses.Proofs.Sizes
import ApiClasses.Proofs.ResourceTrees
import ApiClasses.Proofs.Siblings
import ApiClasses.Proofs.Checks
import ApiClasses.Proofs.Soundness
import ApiClasses.Proofs.TopLevel
import ApiClasses.Proofs.Completion
import ApiClasses.Proofs.Responses
import ApiClasses.Proofs.Captures
import ApiClasses.Proofs.NumberPaths
import ApiClasses.Proofs.Sessions
import ApiClasses.Proofs.Success
import ApiClasses.Proofs.SmallLetters
import ApiClasses.Proofs.Words
import ApiClasses.Proofs.Modules
import ApiClasses.Proofs.Indifference
import ApiClasses.Proofs.Failures
import ApiClasses.Proofs.WireNames
import ApiClasses.Proofs.ResourceMirror
import ApiClasses.Proofs.ResourceWalk
import ApiClasses.Proofs.Boxes
import ApiClasses.Proofs.FieldNames
import ApiClasses.Proofs.LegalNames
import ApiClasses.Proofs.Descriptions
import ApiClasses.Proofs.Reordering
import ApiClasses.Proofs.Insertions
import ApiClasses.Proofs.Comments
import ApiClasses.Proofs.TypeTexts
import ApiClasses.Proofs.Containers
import ApiClasses.Proofs.Indentation
