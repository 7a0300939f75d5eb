import Diorama.Proofs.Script.Signatures

/-!
# Slots for operands

Every kind of directives has a fixed list of slots, and each holds one operand: a name, a number,
or something absent where the slot allows it.  The words behind a keyword are taken by the slots
from the first to the last.

**Main statement.**
* `filled_of_spelled`: the words that spell a directive fill the slots of its kind with its
  operands.
-/

namespace Diorama

/-- What a slot for an operand is for. -/
inductive Slot
  | name
  | number
  | optionalName
  | optionalNumber

namespace Slot

/-- The slots of the operands of a kind of directives. -/
def ofKind : String → List Slot
  | "constants" => name :: List.replicate 9 number ++ List.replicate 3 optionalNumber
  | "move" => [number, number, number, optionalName]
  | "scale" => [number, number, number, optionalName]
  | "rotate" => [name, number, optionalName]
  | "sphere" => optionalName :: List.replicate 4 number
  | "box" => optionalName :: List.replicate 6 number
  | "torus" => optionalName :: List.replicate 5 number
  | "line" => List.replicate 6 number
  | "save" => [name]
  | "frames" => [number]
  | "basename" => [optionalName]
  | "vary" => name :: List.replicate 4 number
  | _ => []

/-- A slot that holds an operand, and the words it takes: one, or none for an absent operand. -/
inductive Takes : Slot → Operand → List Text → Prop
  | name
      (token : Text) :
      Takes name (.name token) [token]
  | number
      {token : Text}
      {x : Float}
      (hx : Directive.IsNumber token x) :
      Takes number (.number x) [token]
  | givenName
      (token : Text) :
      Takes optionalName (.name token) [token]
  | noName :
      Takes optionalName .absent []
  | givenNumber
      {token : Text}
      {x : Float}
      (hx : Directive.IsNumber token x) :
      Takes optionalNumber (.number x) [token]
  | noNumber :
      Takes optionalNumber .absent []

/-- Slots that hold operands, one each, and take words for them from the first to the last. -/
inductive Filled : List Slot → List Operand → List Text → Prop
  | nil :
      Filled [] [] []
  | cons
      {slot : Slot}
      {slots : List Slot}
      {operand : Operand}
      {operands : List Operand}
      {front tokens : List Text}
      (hslot : Takes slot operand front)
      (hslots : Filled slots operands tokens) :
      Filled (slot :: slots) (operand :: operands) (front ++ tokens)

section Filling

open Directive

variable {slots others : List Slot} {operands more : List Operand} {front tokens : List Text}

theorem Filled.append
    (h : Filled slots operands front)
    (hothers : Filled others more tokens) :
    Filled (slots ++ others) (operands ++ more) (front ++ tokens) := by
  induction h with
  | nil => exact hothers
  | cons hslot _ ih =>
      rw [List.append_assoc]
      exact .cons hslot ih

theorem filled_numbers
    {slot : Slot}
    (hslot : ∀ token x, IsNumber token x → Takes slot (.number x) [token])
    {xs : List Float}
    (h : AreNumbers tokens xs) :
    Filled (List.replicate xs.length slot) (xs.map .number) tokens := by
  induction h with
  | nil => exact .nil
  | cons hx _ ih => exact .cons (hslot _ _ hx) ih

theorem filled_optionalName
    {name : Option Text}
    (h : OptionalName tokens name) :
    Filled [optionalName] [Operand.ofName? name] tokens := by
  cases h with
  | absent => exact .cons .noName .nil
  | present _ => exact .cons (.givenName _) .nil

/-- The words behind a keyword fill the slots of its kind with the operands of the directive. -/
theorem filled_of_spelled
    {directive : Directive}
    (h : Spelled tokens directive) :
    Filled (ofKind directive.kind) directive.operands tokens := by
  have hnumber (token : Text) (x : Float) (hx : IsNumber token x) :
      Takes number (.number x) [token] :=
    .number hx
  cases h with
  | @constants name tokens coefficients _ hnumbers =>
      have hcolor : Filled (List.replicate 3 optionalNumber) (List.replicate 3 .absent) [] :=
        .cons .noNumber (.cons .noNumber (.cons .noNumber .nil))
      have hfilled := (filled_numbers hnumber hnumbers).append hcolor
      rw [List.append_nil] at hfilled
      exact .cons (.name name) hfilled
  | @coloured name tokens coefficients color _ hnumbers =>
      have hchannel (token : Text) (x : Float) (hx : IsNumber token x) :
          Takes optionalNumber (.number x) [token] :=
        .givenNumber hx
      have hnine := filled_numbers hnumber (List.forall₂_take_append _ _ _ hnumbers)
      have hcolor := filled_numbers hchannel (List.forall₂_drop_append _ _ _ hnumbers)
      have hfilled := hnine.append hcolor
      rw [List.take_append_drop] at hfilled
      exact .cons (.name name) hfilled
  | push => exact .nil
  | pop => exact .nil
  | move hnumbers hknob =>
      exact (filled_numbers hnumber hnumbers).append (filled_optionalName hknob)
  | @rotate axis angle trail degrees knob _ hangle hknob =>
      have hfront : Filled [.name, number] [.name axis, .number degrees] [axis, angle] :=
        .cons (.name axis) (.cons (.number hangle) .nil)
      exact hfront.append (filled_optionalName hknob)
  | scale hnumbers hknob =>
      exact (filled_numbers hnumber hnumbers).append (filled_optionalName hknob)
  | sphere hmaterial hnumbers =>
      exact (filled_optionalName hmaterial).append (filled_numbers hnumber hnumbers)
  | box hmaterial hnumbers =>
      exact (filled_optionalName hmaterial).append (filled_numbers hnumber hnumbers)
  | torus hmaterial hnumbers =>
      exact (filled_optionalName hmaterial).append (filled_numbers hnumber hnumbers)
  | line hnumbers => exact filled_numbers hnumber hnumbers
  | display => exact .nil
  | @save name _ => exact .cons (.name name) .nil
  | frames hcount => exact .cons (.number hcount.number) .nil
  | bareBasename => exact .cons .noName .nil
  | basename token => exact .cons (.givenName token) .nil
  | @vary knob _ _ _ _ _ _ _ _ _ hfirst hlast hstart hstop =>
      exact .cons (.name knob) (.cons (.number hfirst.number) (.cons (.number hlast.number)
        (.cons (.number hstart) (.cons (.number hstop) .nil))))

end Filling

end Slot

end Diorama
