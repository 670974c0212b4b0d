import Estate.Coverage
import Estate.Fingerprint
import Estate.Mapping.Load
import Estate.Partition
import Estate.PropertyType
import Estate.Gallery
import Estate.Json.Path
import Estate.Request
import Estate.Screening
import Estate.Session
import Estate.Tenure
import Estate.Proofs.Memory
import Estate.Proofs.SearchOrder
import Estate.Proofs.FallThrough
import Estate.Proofs.Nesting
import Estate.Proofs.FieldStatus
import Estate.Proofs.Queries
import Estate.Proofs.Influence.Address
import Estate.Proofs.Influence.Field
import Estate.Proofs.CacheHistory
import Estate.Proofs.Identity
import Estate.Proofs.Retention
import Estate.Proofs.Entrances
import Estate.Proofs.Flight.Payload
import Estate.Proofs.Flight.Search
import Estate.Proofs.Flight.Resolution
import Estate.Proofs.Flight.Table
import Estate.Proofs.Json.Words
import Estate.Proofs.Json.Assembly
import Estate.Proofs.Json.Depth
import Estate.Proofs.Json.Printing
import Estate.Proofs.Json.Location
import Estate.Proofs.Lenient.Grammar
import Estate.Proofs.Lenient.Agreement
import Estate.Proofs.Lenient.Acceptance
import Estate.Proofs.Lenient.Literals
import Estate.Proofs.Script.Agreement
import Estate.Proofs.Script.JsonValues
import Estate.Proofs.Script.Lenience
import Estate.Proofs.Script.Search
import Estate.Proofs.Script.Running
import Estate.Proofs.Script.Numbers
import Estate.Proofs.LinkedData.Collection
import Estate.Proofs.LinkedData.Types
import Estate.Proofs.Price.Decimal
import Estate.Proofs.Price.Absence
import Estate.Proofs.Price.Display
import Estate.Proofs.Gathering
import Estate.Proofs.Pictures
import Estate.Proofs.Exclusion
import Estate.Proofs.Strictness
import Estate.Proofs.LetterCase
import Estate.Proofs.RentalWords
import Estate.Proofs.Classification
import Estate.Proofs.Precedence
import Estate.Proofs.Elements
import Estate.Proofs.Coordinates
import Estate.Proofs.Text.References
import Estate.Proofs.Scoring
import Estate.Proofs.Division
import Estate.Proofs.Pipelines
import Estate.Proofs.LeadingIntegers
