import EybondLocal.Library.OrderedDict
import EybondLocal.Library.PythonObject

/-!
Register schemas (`models.py`, `metadata/register_schema_models.py`), as far as the SMG driver reads
them.
-/
namespace SmgDriver
open OrderedDict PythonObject

inductive EnumKey where
  | number (n : Int)
  | text (s : String)
  deriving DecidableEq, Repr

/-- One logical value of a schema, with multipliers of the float type `F`. -/
structure RegisterValueSpec (F : Type) where
  key : String
  register : Int
  wordCount : Int := 1
  signed : Bool := false
  combine : String := "u16"
  divisor : Option Int := none
  multiplier : Option F := none
  decimals : Option Int := none
  offset : Option Int := none
  bitmask : Option Int := none
  enumMap : Option (Dict EnumKey String) := none

structure RegisterBlockLayout where
  key : String
  start : Int
  count : Int

abbrev BitLabels := Dict Int String

structure RegisterSchema (F : Type) where
  blocks : List RegisterBlockLayout
  specSets : Dict String (List (RegisterValueSpec F))
  bitLabels : Dict String BitLabels := Dict.empty
  scalarRegisters : Dict String Int

namespace RegisterSchema
variable {F : Type}

def block (schema : RegisterSchema F) (blockKey : String) : Except PyError RegisterBlockLayout :=
  match schema.blocks.find? fun block => block.key = blockKey with
  | some block => .ok block
  | none => .error ⟨.keyError, blockKey⟩

def specSet (schema : RegisterSchema F) (setKey : String) :
    Except PyError (List (RegisterValueSpec F)) :=
  match schema.specSets.get? setKey with
  | some specs => .ok specs
  | none => .error ⟨.keyError, setKey⟩

def bitLabelsFor (schema : RegisterSchema F) (labelKey : String) : Except PyError BitLabels :=
  match schema.bitLabels.get? labelKey with
  | some labels => .ok labels
  | none => .error ⟨.keyError, labelKey⟩

end RegisterSchema

end SmgDriver
