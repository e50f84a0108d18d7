import SpirvMetal.Metal.Helper.Definition

/-!
Inverses of square matrices by the classical adjoint. The cofactors are determinants of what remains
of the matrix without a column and a row.
-/

namespace SpirvMetal.HelperDefinition

def determinant2 : HelperDefinition where
  name := "spvDet2x2"
  lines :=
    ["// Returns the determinant of a 2x2 matrix.",
      "inline float spvDet2x2(float a1, float a2, float b1, float b2)"] ++
    enclosed ["return a1 * b2 - b1 * a2;"]

def determinant3 : HelperDefinition where
  name := "spvDet3x3"
  calls := ["spvDet2x2"]
  lines :=
    ["// Returns the determinant of a 3x3 matrix.",
      "inline float spvDet3x3(float a1, float a2, float a3, float b1, float b2, float b3, " ++
        "float c1, float c2, float c3)"] ++
    enclosed
      ["return a1 * spvDet2x2(b2, b3, c2, c3) - b1 * spvDet2x2(a2, a3, c2, c3) + " ++
        "c1 * spvDet2x2(a2, a3, b2, b3);"]

def minorFunction? (size : Nat) : Option String :=
  match size with
  | 4 => some "spvDet3x3"
  | 3 => some "spvDet2x2"
  | _ => none

def minorElements (size column row : Nat) : List String :=
  let kept (without : Nat) := (List.range size).filter (· ≠ without)
  (kept column).flatMap fun i => (kept row).map fun j => s!"m[{i}][{j}]"

def cofactor (size column row : Nat) : String :=
  let elements := ", ".intercalate (minorElements size column row)
  match minorFunction? size with
  | some determinant => s!"{determinant}({elements})"
  | none => elements

def adjointLine (size i j : Nat) : String :=
  let sign := if (i + j) % 2 = 0 then " " else "-"
  s!"adj[{i}][{j}] = {sign}{cofactor size j i};"

def adjointLines (size : Nat) : List String :=
  (List.range size).flatMap fun i => (List.range size).map (adjointLine size i) ++ [""]

def inverse (size : Nat) : HelperDefinition where
  name := s!"spvInverse{size}x{size}"
  calls := (minorFunction? size).toList
  lines :=
    let matrix := s!"float{size}x{size}"
    let products := (List.range size).map fun j => s!"(adj[0][{j}] * m[{j}][0])"
    ["// Returns the inverse of a matrix, by using the algorithm of calculating the classical",
      "// adjoint and dividing by the determinant. The contents of the matrix are changed.",
      s!"{matrix} spvInverse{size}x{size}({matrix} m)"] ++
    enclosed
      ([s!"{matrix} adj;   // The adjoint matrix (inverse after dividing by determinant)",
        "",
        "// Create the transpose of the cofactors, as the classical adjoint of the matrix."] ++
      adjointLines size ++
      ["// Calculate the determinant as a combination of the cofactors of the first row.",
        "float det = " ++ " + ".intercalate products ++ ";",
        "",
        "// Divide the classical adjoint matrix by the determinant.",
        "// If determinant is zero, matrix is not invertable, so leave it unchanged.",
        "return (det != 0.0f) ? (adj * (1.0f / det)) : m;"])

end SpirvMetal.HelperDefinition
