import Mathlib.Data.Rat.Defs
import Mathlib.Tactic.Common

/-!
# Furniture

What a furniture document says, and how documents become furniture. Which strings are
well-formed URLs is up to Foundation, so it is a parameter.
-/
namespace FurnitureAR

/-- A URL is a string that has been accepted as one. -/
structure URL (isWellFormed : String → Bool) where
  absoluteString : String
  accepted : isWellFormed absoluteString = true
  deriving DecidableEq

namespace URL

variable {isWellFormed : String → Bool}

/-- `URL(string:)` -/
def ofString (string : String) : Option (URL isWellFormed) :=
  if accepted : isWellFormed string = true then some ⟨string, accepted⟩ else none

@[simp]
theorem ofString_absoluteString (url : URL isWellFormed) :
    ofString url.absoluteString = some url := by
  rw [ofString, dif_pos url.accepted]

theorem ofString_eq_some_iff {string : String} {url : URL isWellFormed} :
    ofString string = some url ↔ string = url.absoluteString := by
  constructor
  · intro parsed
    unfold ofString at parsed
    split at parsed
    · obtain rfl := Option.some.inj parsed
      rfl
    · cases parsed
  · rintro rfl
    exact ofString_absoluteString url

end URL

/-- The values that Firestore stores in a field. Other kinds are not told apart. -/
inductive FirestoreValue where
  | boolean (value : Bool)
  | integer (value : Int)
  | double (value : ℚ)
  | string (value : String)
  | other
  deriving DecidableEq

namespace FirestoreValue

/-- `as? Int`. The three kinds of numbers are bridged when `Int` can represent them. -/
def asInt : FirestoreValue → Option Int
  | boolean value => some (if value then 1 else 0)
  | integer value => some value
  | double value =>
    if value.den = 1 ∧ Int64.minValue.toInt ≤ value.num ∧ value.num ≤ Int64.maxValue.toInt then
      some value.num
    else none
  | string _ | other => none

/-- `as? String` -/
def asString : FirestoreValue → Option String
  | string value => some value
  | _ => none

/-- The values that are a whole number for `as? Int`. -/
inductive IsInt : FirestoreValue → Int → Prop where
  | boolean (value : Bool) : IsInt (.boolean value) (if value then 1 else 0)
  | integer (value : Int) : IsInt (.integer value) value
  | double (value : Int)
      (fits : Int64.minValue.toInt ≤ value ∧ value ≤ Int64.maxValue.toInt) :
      IsInt (.double value) value

theorem asInt_eq_some_iff {value : FirestoreValue} {number : Int} :
    value.asInt = some number ↔ value.IsInt number := by
  constructor
  · intro bridged
    cases value with
    | boolean value =>
      obtain rfl := Option.some.inj bridged
      exact .boolean value
    | integer value =>
      obtain rfl := Option.some.inj bridged
      exact .integer value
    | double value =>
      simp only [asInt, Option.ite_none_right_eq_some, Option.some.injEq] at bridged
      obtain ⟨⟨whole, fits⟩, rfl⟩ := bridged
      have same : (value.num : ℚ) = value := Rat.coe_int_num_of_den_eq_one whole
      exact same ▸ .double value.num fits
    | string value => cases bridged
    | other => cases bridged
  · intro isInt
    cases isInt with
    | boolean value => rfl
    | integer _ => rfl
    | double _ fits => exact if_pos ⟨Rat.den_intCast number, fits⟩

theorem asString_eq_some_iff {value : FirestoreValue} {text : String} :
    value.asString = some text ↔ value = .string text := by
  cases value <;> simp [asString]

end FirestoreValue

/-- `[String: Any]` -/
abbrev FirestoreData := String → Option FirestoreValue

structure Furniture (isWellFormed : String → Bool) where
  id : Int
  name : String
  description : String
  imageUrl : URL isWellFormed
  deriving DecidableEq

variable {isWellFormed : String → Bool}

/-- `Furniture(firestoreData:)` -/
def Furniture.ofFirestoreData (firestoreData : FirestoreData) :
    Option (Furniture isWellFormed) := do
  let id ← (firestoreData "id").bind FirestoreValue.asInt
  let name ← (firestoreData "name").bind FirestoreValue.asString
  let description ← (firestoreData "description").bind FirestoreValue.asString
  let imageUrlString ← (firestoreData "image_url").bind FirestoreValue.asString
  let imageUrl ← URL.ofString imageUrlString
  some { id, name, description, imageUrl }

/-- The document has the four fields of the furniture: its id as a number, its name and its
description, and the string of its URL, which is a well-formed one. -/
structure Furniture.DescribedBy (document : FirestoreData) (furniture : Furniture isWellFormed) :
    Prop where
  id : ∃ value, document "id" = some value ∧ value.IsInt furniture.id
  name : document "name" = some (.string furniture.name)
  description : document "description" = some (.string furniture.description)
  imageUrl : document "image_url" = some (.string furniture.imageUrl.absoluteString)

/-- Exactly the documents that have all fields are accepted, and nothing is made of other fields. -/
theorem Furniture.ofFirestoreData_eq_some_iff {document : FirestoreData}
    {furniture : Furniture isWellFormed} :
    ofFirestoreData document = some furniture ↔ DescribedBy document furniture := by
  have isText : ∀ key text, (document key).bind FirestoreValue.asString = some text ↔
      document key = some (.string text) := by
    intro key text
    simp only [Option.bind_eq_some_iff, FirestoreValue.asString_eq_some_iff, exists_eq_right]
  constructor
  · intro accepted
    obtain ⟨id, isId, accepted⟩ := Option.bind_eq_some_iff.mp accepted
    obtain ⟨name, isName, accepted⟩ := Option.bind_eq_some_iff.mp accepted
    obtain ⟨description, isDescription, accepted⟩ := Option.bind_eq_some_iff.mp accepted
    obtain ⟨string, isString, accepted⟩ := Option.bind_eq_some_iff.mp accepted
    obtain ⟨imageUrl, parsed, accepted⟩ := Option.bind_eq_some_iff.mp accepted
    obtain rfl := Option.some.inj accepted
    obtain ⟨value, stored, bridged⟩ := Option.bind_eq_some_iff.mp isId
    obtain rfl := URL.ofString_eq_some_iff.mp parsed
    exact ⟨⟨value, stored, FirestoreValue.asInt_eq_some_iff.mp bridged⟩, (isText _ _).mp isName,
      (isText _ _).mp isDescription, (isText _ _).mp isString⟩
  · intro described
    obtain ⟨value, stored, number⟩ := described.id
    have isId : (document "id").bind FirestoreValue.asInt = some furniture.id := by
      rw [stored]
      exact FirestoreValue.asInt_eq_some_iff.mpr number
    simp only [ofFirestoreData, isId, (isText _ _).mpr described.name,
      (isText _ _).mpr described.description, (isText _ _).mpr described.imageUrl,
      Option.bind_eq_bind, Option.bind_some, URL.ofString_absoluteString]

/-- Why a retrieval fails: Firestore's own error, or `NetworkingError.badData`. -/
inductive RetrievalError (ε : Type) where
  | firestore (error : ε)
  | badData
  deriving DecidableEq

/-- What `FurnitureService.retrieveAll` makes of Firestore's answer. -/
def FurnitureService.retrieveAll {ε : Type} (querySnapshot : Option (List FirestoreData))
    (error : Option ε) : Except (RetrievalError ε) (List (Furniture isWellFormed)) :=
  match error with
  | some error => .error (.firestore error)
  | none =>
    match querySnapshot with
    | none => .error .badData
    -- Documents that do not say enough are dropped.
    | some documents => .ok (documents.filterMap Furniture.ofFirestoreData)

end FurnitureAR
