import InputActions.Source
import InputActions.Text.Quoted

/-!
# Failures

An action fails for one of four reasons: its arguments make no sense, it asks for something that
is not supported, it would leave the viewport, or the surface refused. The first three are decided
here and carry their cause; the last is what the surface said, and it is passed on as it came.

Each failure has a short code, which depends only on the reason, and a message, which begins with
the code except for refusals of an event, whose code is less telling than their text.
-/

namespace InputActions

/-- Why the surface refused a request. -/
inductive HostError where
  | noSuchElement (text : String)
  | staleElement (text : String)
  | injection (text : String)
  deriving DecidableEq, Repr

namespace HostError

def code : HostError → String
  | .noSuchElement _ => "no such element"
  | .staleElement _ => "stale element reference"
  | .injection _ => "unknown error"

def message : HostError → String
  | .noSuchElement text => "no such element: " ++ text
  | .staleElement text => "stale element reference: " ++ text
  | .injection text => "event injection failed: " ++ text

end HostError

/-- Why an argument is invalid. A field `found` shows the value that was found. -/
inductive InvalidArgument where
  | actionsNotArray (found : String)
  | sequenceNotObject (found : String)
  | typeNotString (found : String)
  | unknownType (name : String)
  | idNotString (found : String)
  | itemsNotArray (found : String)
  | parametersNotObject (found : String)
  | pointerKindNotString (field found : String)
  | unknownPointerKind (name : String)
  | conflictingPointerKinds (own parameter : PointerKind)
  | itemNotObject (found : String)
  | itemTypeNotString (found : String)
  | unknownSubtype (type : SourceType) (name : String)
  | valueNotCharacter (found : String)
  | notNatural (field found : String)
  | notInteger (field found : String)
  | unknownOrigin (name : String)
  | malformedOrigin (found : String)
  | kindConflict (id : SourceId) (wanted existing : SourceKind)
  | cannotPress (id : SourceId) (kind : SourceKind) (trigger : Trigger)
  | unknownSource (id : SourceId)
  | notKeySource (id : SourceId) (kind : SourceKind)
  | notPointerSource (id : SourceId) (kind : SourceKind)
  | other (text : String)
  deriving DecidableEq, Repr

def Trigger.shown : Trigger → String
  | .key value => "Key(" ++ Text.quoted value ++ ")"
  | .button number => "Button(" ++ Text.Integer.natText number.toNat ++ ")"

def InvalidArgument.text : InvalidArgument → String
  | .actionsNotArray found => "Expected 'actions' to be an array, got " ++ found
  | .sequenceNotObject found => "Expected action sequence to be an object, got " ++ found
  | .typeNotString found => "Expected 'type' to be a string, got " ++ found
  | .unknownType name => "Unknown action type: " ++ Text.quoted name
  | .idNotString found => "Expected 'id' to be a string, got " ++ found
  | .itemsNotArray found => "Expected 'actionSequence.actions' to be an array, got " ++ found
  | .parametersNotObject found => "Expected 'parameters' to be an object, got " ++ found
  | .pointerKindNotString field found =>
    "Expected '" ++ field ++ "' to be a string, got " ++ found
  | .unknownPointerKind name => "Unknown pointerType: " ++ Text.quoted name
  | .conflictingPointerKinds own parameter =>
    "Conflicting pointer types " ++ own.name ++ " and " ++ parameter.name
  | .itemNotObject found => "Expected action item to be an object, got " ++ found
  | .itemTypeNotString found => "Expected action item 'type' to be a string, got " ++ found
  | .unknownSubtype type name =>
    "Unknown subtype for " ++ type.name ++ " action: " ++ Text.quoted name
  | .valueNotCharacter found =>
    "Expected 'value' to be a string that represents single code point or grapheme cluster, got "
      ++ found
  | .notNatural field found => "Expected '" ++ field ++ "' (" ++ found ++ ") to be >= 0"
  | .notInteger field found => "Expected '" ++ field ++ "' (" ++ found ++ ") to be an Integer"
  | .unknownOrigin name => "Unknown pointer-move origin: " ++ Text.quoted name
  | .malformedOrigin found =>
    "Expected 'origin' to be undefined, \"viewport\", \"pointer\", or an element, got " ++ found
  | .kindConflict id wanted existing =>
    "Expected " ++ id.text ++ " to be mapped to " ++ wanted.text ++ ", got " ++ existing.text
  | .cannotPress id kind trigger =>
    "Input source " ++ id.text ++ " is " ++ kind.text ++ ", cannot press " ++ trigger.shown
  | .unknownSource id => "Unknown input source " ++ id.text
  | .notKeySource id kind =>
    "Expected " ++ id.text ++ " to be a key input source, got " ++ kind.text
  | .notPointerSource id kind =>
    "Expected " ++ id.text ++ " to be a pointer input source, got " ++ kind.text
  | .other text => text

/-- What is not supported. -/
inductive Unsupported where
  | pointerCancel
  | pointerKind
  | other (text : String)
  deriving DecidableEq, Repr

def Unsupported.text : Unsupported → String
  | .pointerCancel => "pointerCancel is not supported"
  | .pointerKind => "Only 'mouse' pointer type is supported"
  | .other text => text

/-- Why a pointer cannot be moved to its target. -/
inductive OutOfBounds where
  | overflow (base : Point) (dx dy : Int64)
  | outside (target : Point) (viewport : Viewport)
  | other (text : String)
  deriving DecidableEq, Repr

def OutOfBounds.text : OutOfBounds → String
  | .overflow base dx dy =>
    base.text ++ " offset by " ++ (Point.mk dx dy).text ++ " overflows the coordinate space"
  | .outside target viewport =>
    target.text ++ " is out of bounds of viewport width ("
      ++ Text.Integer.intText viewport.width.toInt ++ ") and height ("
      ++ Text.Integer.intText viewport.height.toInt ++ ")"
  | .other text => text

/-- Why an action failed. -/
inductive ActionError where
  | invalidArgument (fault : InvalidArgument)
  | unsupported (operation : Unsupported)
  | moveTargetOutOfBounds (cause : OutOfBounds)
  | host (error : HostError)
  deriving DecidableEq, Repr

namespace ActionError

def code : ActionError → String
  | .invalidArgument _ => "invalid argument"
  | .unsupported _ => "unsupported operation"
  | .moveTargetOutOfBounds _ => "move target out of bounds"
  | .host error => error.code

def message : ActionError → String
  | .invalidArgument fault => "invalid argument: " ++ fault.text
  | .unsupported operation => "unsupported operation: " ++ operation.text
  | .moveTargetOutOfBounds cause => "move target out of bounds: " ++ cause.text
  | .host error => error.message

/-- Whether the arguments were at fault. -/
def isValidation : ActionError → Bool
  | .invalidArgument _ => true
  | _ => false

end ActionError

end InputActions
