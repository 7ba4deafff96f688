import ThemeMotion.Keyed
import ThemeMotion.Value.Transform

/-!
# Actors

An actor has a line of types, perhaps a name, classes and pseudo-classes, and typed
properties. A property is declared with its type and keeps that type; its value, when
it has one, is stored in that type.
-/

namespace ThemeMotion

/-- A declared property. -/
structure Property where
  type : ValueType
  value : Option Value
deriving DecidableEq, Repr

namespace Property

/-- A property that starts with a value, in the form that its type gives it. -/
def holding (type : ValueType) (value : Value) : Property := ⟨type, value.transform? type⟩

/-- A property without a value. -/
def unset (type : ValueType) : Property := ⟨type, none⟩

end Property

/-- The data of one actor. -/
structure Actor where
  /-- The own type first, then its supertypes in order. -/
  typeNames : List String
  name : Option String
  classes : List String
  pseudoClasses : List String
  /-- The declared properties by name; no name is declared twice. -/
  properties : List (String × Property)
deriving DecidableEq, Repr

namespace Actor

/-- An actor with a line of types and nothing else. -/
def ofTypes (typeNames : List String) : Actor := ⟨typeNames, none, [], [], []⟩

/-- The own type; an actor without types has an empty one. -/
def typeName (actor : Actor) : String := actor.typeNames.head?.getD ""

/-- A declared property. -/
def property? (actor : Actor) (name : String) : Option Property := actor.properties.lookup name

/-- Declares a property; an earlier declaration of that name is replaced. -/
def declare (actor : Actor) (name : String) (property : Property) : Actor :=
  { actor with properties := Keyed.put name property actor.properties }

/-- Switches a pseudo-class on or off. -/
def setPseudoClass (actor : Actor) (pseudoClass : String) (on : Bool) : Actor :=
  let others := actor.pseudoClasses.filter (· != pseudoClass)
  { actor with pseudoClasses := if on then others ++ [pseudoClass] else others }

/-- Stores a value in a property, in the form that the property's type gives it. -/
def setProperty (actor : Actor) (name : String) (value : Value) : Except ValueError Actor :=
  match actor.property? name with
  | none => .error (.unknownProperty name)
  | some property =>
    match value.transform? property.type with
    | none => .error (.typeMismatch name property.type)
    | some stored => .ok (actor.declare name ⟨property.type, some stored⟩)

end Actor

end ThemeMotion
