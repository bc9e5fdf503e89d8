import BlockScript.Main
import BlockScript.Proofs.ActualParameters
import BlockScript.Proofs.AutonomousRoutines
import BlockScript.Proofs.CountingLoops
import BlockScript.Proofs.DeclaredResults
import BlockScript.Proofs.EarlierUnits
import BlockScript.Proofs.EqualityLaws
import BlockScript.Proofs.FetchedValues
import BlockScript.Proofs.FlatCells
import BlockScript.Proofs.GatheredValues
import BlockScript.Proofs.KeptOperands
import BlockScript.Proofs.NestedParts
import BlockScript.Proofs.PackageVariables
import BlockScript.Proofs.ReferenceOrder
import BlockScript.Proofs.ScalarTexts
import BlockScript.Proofs.SelectorRuns
import BlockScript.Proofs.Substitution
import BlockScript.Proofs.TableAccess
import BlockScript.Proofs.TextSearch
import BlockScript.Proofs.UsedPackages
import BlockScript.Proofs.UserExceptions
import BlockScript.Text.Same
import BlockScript.Token.Lookahead
import BlockScript.Workload
