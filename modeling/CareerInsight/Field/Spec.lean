/-!
# Field specifications

A field specification is pure data: it says which values one field of a
record may hold and what it falls back to.  `Validation.Field` reads a
payload value against a specification; nothing here looks at a payload.

* A numeric field has bounds, a default and a kind: a float, or an integer
  rounded after clamping.
* A choice field holds one of a fixed list of labels.
* A text field holds non-blank text and has a fallback text.
* A text list holds at most a given number of distinct non-blank texts.
* A cohort floor holds an integer no smaller than `k`.
* A nested field holds an object of a fixed shape: keys with a number or a
  text default each.
* An ordering group owns no field of its own: it asks that numeric fields
  declared elsewhere end up non-decreasing in the listed order.
-/

namespace CareerInsight

/-- The declared type of a numeric field. -/
inductive NumericKind where
  | float
  | integer
  deriving Repr, DecidableEq, BEq

/-- A constant value: the default of a nested key or a fallback seed entry. -/
inductive StaticValue where
  | number (x : Float)
  | text (s : String)
  deriving Repr, BEq

/-- The keys of a nested object in order, each with its default. -/
abbrev NestedShape := List (String × StaticValue)

/-- The constraint attached to one field, or to a group of fields. -/
inductive FieldSpec where
  | numeric (field : String) (min max default : Float) (kind : NumericKind)
  | choice (field : String) (allowed : List String) (default : String)
  | text (field : String) (fallback : String)
  | textList (field : String) (maxItems : Nat)
  | cohortFloor (field : String) (k : Int)
  | nested (field : String) (shape : NestedShape)
  | ordering (fields : List String)
  deriving Repr, BEq

namespace FieldSpec

/-- A float field. -/
def float (field : String) (min max default : Float) : FieldSpec := numeric field min max default .float

/-- An integer field. -/
def integer (field : String) (min max default : Float) : FieldSpec :=
  numeric field min max default .integer

/-- The one field a specification owns; none for an ordering group. -/
def owner? : FieldSpec → Option String
  | numeric f .. => some f
  | choice f .. => some f
  | text f _ => some f
  | textList f _ => some f
  | cohortFloor f _ => some f
  | nested f _ => some f
  | ordering _ => none

end FieldSpec

end CareerInsight
