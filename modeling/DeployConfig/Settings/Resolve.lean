/-
  Resolution of one setting.

  A property that is not blank overrides everything and has to parse.  Otherwise the value that a
  block declared stands, and otherwise the default.  A blank property counts as unset.
-/
import DeployConfig.Enumeration
import DeployConfig.Number.FixedWidth
import DeployConfig.Project.Layout
import DeployConfig.Properties.Store
import DeployConfig.Text.Integer

namespace DeployConfig

/-- A property whose value does not parse. -/
structure PropertyError where
  key : String
  kind : String
  value : String
  deriving DecidableEq, Repr

/-- What a property error says. -/
def PropertyError.message (e : PropertyError) : String :=
  "Property " ++ e.key ++ " has invalid " ++ e.kind ++ " value '" ++ e.value ++ "'"

/-- A type whose values can be read from a property. -/
class FromProperty (α : Type) where
  /-- What the type is called in messages. -/
  kind : String
  /-- The value that a text stands for. -/
  parse? : String → Option α

/-- Whether a text is the word `true` in any case of ASCII letters. -/
def isTrueWord (text : String) : Bool := text.toList.map Char.toLower == "true".toList

/-- The word `true` is true, and every other text is false. -/
instance : FromProperty Bool where
  kind := "boolean"
  parse? text := some (isTrueWord text)

/-- Decimal digits with at most one sign, within the range of the width. -/
instance : FromProperty Int32 where
  kind := "integer"
  parse? text := (Text.int? text.toList).bind fun n => (narrow Int32 n).toOption

/-- Any text stands for itself. -/
instance : FromProperty String where
  kind := "string"
  parse? text := some text

/-- A member of an enumeration is read from its exact name. -/
instance {α : Type} [Enumeration α] : FromProperty α where
  kind := Enumeration.kind α
  parse? := Enumeration.ofName?

namespace Properties

/-- The value of a key, unless it is missing or blank. -/
def override? (p : Properties) (key : String) : Option String :=
  (p.get? key).filter fun value => !Text.blank value

/-- What a function makes of the value of a key, or something else if that value is missing or
    blank. -/
def pick {β : Type} (p : Properties) (key : String) (use : String → β) (otherwise : β) : β :=
  match p.override? key with
  | some text => use text
  | none => otherwise

variable {α : Type} [FromProperty α]

/-- The value that a property text stands for, or the complaint about it. -/
def read (key text : String) : Except PropertyError α :=
  match FromProperty.parse? text with
  | some value => .ok value
  | none => .error ⟨key, FromProperty.kind α, text⟩

/-- A setting that always has a value. -/
def resolve (p : Properties) (key : String) (declared : Option α) (fallback : α) :
    Except PropertyError α :=
  p.pick key (read key) (.ok (declared.getD fallback))

/-- A setting that may have no default. -/
def resolveOptional (p : Properties) (key : String) (declared fallback : Option α) :
    Except PropertyError (Option α) :=
  p.pick key (fun text => (read key text).map some) (.ok (declared <|> fallback))

/-- A setting that has a value of its own in place of a declared one and a default. -/
def resolveField (p : Properties) (key : String) (field : α) : Except PropertyError α :=
  p.pick key (read key) (.ok field)

/-- A path.  An override is seen from the base directory; declared and default paths stay as they
    are. -/
def resolvePath (p : Properties) (layout : Layout) (key : String) (declared : Option Path)
    (fallback : Path) : Path :=
  p.pick key layout.resolve (declared.getD fallback)

end Properties

end DeployConfig
