import VibeConnect.Python.Text

/-! What `yaml.safe_load` returns. Of numbers, dates and sets only `str` and the truth are kept. -/
namespace Python.YamlValue
open Text

inductive Yaml where
  | null
  | bool (value : Bool)
  | text (value : Str)
  | bytes (values : List Nat)
  | sequence (items : List Yaml)
  | mapping (items : List (Yaml × Yaml))
  | other (shown : Str) (truth : Bool)

/-- `str`. The texts of bytes, lists and dictionaries are a parameter. -/
def str (shown : Yaml → Str) : Yaml → Str
  | .null => lit "None"
  | .bool true => lit "True"
  | .bool false => lit "False"
  | .text value => value
  | .other value _ => value
  | value => shown value

/-- `bool`. -/
def truth : Yaml → Bool
  | .null => false
  | .bool value => value
  | .text value => value ≠ []
  | .bytes values => !values.isEmpty
  | .sequence items => !items.isEmpty
  | .mapping items => !items.isEmpty
  | .other _ truth => truth

/-- What has a text for its key is equal to no other kind of key. -/
def isText (key : Str) : Yaml → Bool
  | .text value => value == key
  | _ => false

/-- `get` of a dictionary. -/
def get (items : List (Yaml × Yaml)) (key : Str) : Option Yaml :=
  (items.find? fun item => isText key item.1).map Prod.snd

theorem get_nil (key : Str) : get [] key = none := rfl

theorem get_here {items : List (Yaml × Yaml)} {key : Str} {value : Yaml} :
    get ((.text key, value) :: items) key = some value := by
  simp [get, isText]

theorem get_later {items : List (Yaml × Yaml)} {key other : Str} {value : Yaml} (apart : other ≠ key) :
    get ((.text other, value) :: items) key = get items key := by
  simp [get, isText, apart]

/-- The texts of the items of a `Sequence` that is no text. -/
def sequenceTexts (shown : Yaml → Str) : Yaml → Option (List Str)
  | .sequence items => some (items.map (str shown))
  | .bytes values => some (values.map fun value => lit (toString value))
  | _ => none

/-- How a file is read: its value, a `YAMLError`, or what reading or decoding raises. -/
inductive Loaded (Exc : Type) where
  | value (raw : Yaml)
  | yamlError
  | raised (exc : Exc)

end Python.YamlValue
