import SpirvMetal.Error

/-!
Structured programs over basic blocks: what the body of a function looks like before its
instructions are spelled out.
-/

namespace SpirvMetal

inductive Listing
  | skip
  | seq (first second : Listing)
  | block (label : Id)
  | assign (phi value : Id)
  | when (condition : Id) (expected : Bool) (arm : Listing)
  | branch (condition : Id) (expected : Bool) (arm other : Listing)
  | loop (body : Listing)
  | switch (selector : Id) (arms : Listing)
  | arm (literals : List String) (isDefault : Bool) (body : Listing)
  | leave
  | again
  | ret (value : Option Id) (last : Bool)
  | discard
deriving DecidableEq

def Listing.ofList (listings : List Listing) : Listing := listings.foldr .seq .skip

structure Listed (α : Type) where
  listing : Listing
  result : Except Fault α

namespace Listed

instance : Monad Listed where
  pure value := ⟨.skip, .ok value⟩
  bind step next :=
    match step.result with
    | .error error => ⟨step.listing, .error error⟩
    | .ok value =>
      let rest := next value
      ⟨.seq step.listing rest.listing, rest.result⟩

instance : MonadLift (Except Fault) Listed where
  monadLift result := ⟨.skip, result⟩

variable {α : Type}

def fail (fault : Fault) : Listed α := ⟨.skip, .error fault⟩

def emit (listing : Listing) : Listed Unit := ⟨listing, .ok ()⟩

def inside (wrap : Listing → Listing) (part : Listed α) : Listed α :=
  ⟨wrap part.listing, part.result⟩

def conditional (condition : Id) (expected : Bool) (arm : Listed Unit) (needed : Except Fault Bool)
    (other : Unit → Listed Unit) : Listed Unit :=
  match arm.result, needed with
  | .error error, _ | .ok _, .error error => ⟨.when condition expected arm.listing, .error error⟩
  | .ok _, .ok false => ⟨.when condition expected arm.listing, .ok ()⟩
  | .ok _, .ok true =>
    let other := other ()
    ⟨.branch condition expected arm.listing other.listing, other.result⟩

def when (condition : Id) (expected : Bool) (arm : Listed Unit) : Listed Unit :=
  inside (.when condition expected) arm

def branch (condition : Id) (expected : Bool) (arm : Listed Unit) (other : Unit → Listed Unit) :
    Listed Unit :=
  conditional condition expected arm (.ok true) other

end Listed

end SpirvMetal
