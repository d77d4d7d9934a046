import Skirmish.Main
import Skirmish.Proofs.Language.Nested
import Skirmish.Proofs.Language.Conduct
import Skirmish.Proofs.Language.Nesting
import Skirmish.Proofs.Language.RoundTrip
import Skirmish.Proofs.Combat.Feud
import Skirmish.Proofs.Match.Craters
import Skirmish.Proofs.Match.Killers
import Skirmish.Proofs.Match.Cadence
import Skirmish.Proofs.Tank.Gunnery
import Skirmish.Proofs.Language.Operands
import Skirmish.Proofs.Language.Budget
import Skirmish.Proofs.Language.Faults
import Skirmish.Proofs.Language.Origins
import Skirmish.Proofs.Match.Failures
import Skirmish.Proofs.Language.Writes
import Skirmish.Proofs.Scalar.Naturals
import Skirmish.Proofs.Language.Addresses
import Skirmish.Proofs.Match.Memories
import Skirmish.Proofs.Language.Alike
import Skirmish.Proofs.Match.Grounded
import Skirmish.Proofs.Match.Chance
import Skirmish.Proofs.Language.Expressions
import Skirmish.Proofs.Match.Span
import Skirmish.Proofs.Match.Opening
import Skirmish.Proofs.Sight.Visibility
import Skirmish.Proofs.Arena.Spacing
import Skirmish.Proofs.Match.Whereabouts
import Skirmish.Proofs.Match.Treads
import Skirmish.Proofs.Match.Straight
import Skirmish.Proofs.Tank.FirstTouch
import Skirmish.Proofs.Match.Pinned
import Skirmish.Proofs.Tank.Mirror
import Skirmish.Proofs.Language.Workload
import Skirmish.Proofs.Language.Braces
import Skirmish.Proofs.Language.Literals
import Skirmish.Proofs.Language.Stripping
import Skirmish.Proofs.Language.Shortening
import Skirmish.Proofs.Language.Signs
import Skirmish.Proofs.Tank.Lots
import Skirmish.Proofs.Arena.Torus
import Skirmish.Proofs.Arena.Pillars
import Skirmish.Proofs.Match.Slewing
import Skirmish.Proofs.Sight.Cone
import Skirmish.Proofs.CommandLine.Slots
import Skirmish.Proofs.Geometry.Precision
