import SpirvMetal.Main
import SpirvMetal.Proofs.Flow.Barriers
import SpirvMetal.Proofs.Flow.Scopes
import SpirvMetal.Proofs.Layout.Strides
import SpirvMetal.Proofs.Helpers.Defined
import SpirvMetal.Proofs.RowMajor.Agreement
import SpirvMetal.Proofs.Slots.Distinct
import SpirvMetal.Proofs.Names.Locals
import SpirvMetal.Proofs.Prepare.Grown
import SpirvMetal.Proofs.Program.Builtins
import SpirvMetal.Proofs.Program.Notes
import SpirvMetal.Proofs.Program.Reached
import SpirvMetal.Proofs.Integers.Comparison
import SpirvMetal.Proofs.Integers.Arithmetic
import SpirvMetal.Proofs.Constants.ArrayLengths
import SpirvMetal.Proofs.Interface.Located
import SpirvMetal.Proofs.Text.Enclosed
