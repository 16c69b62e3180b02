import FormFill.Json.Value
import FormFill.Schema
import FormFill.Substitution

/-!
# Inspector profiles

A profile holds what is known of an inspector. Eight of its nine properties prefill fields with fixed
codes; a property that is absent prefills an empty text.
-/

namespace FormFill

/-- The properties of a profile. -/
inductive ProfileProperty where
  | lastName
  | firstName
  | middleName
  | certificateNumber
  | email
  | phone
  | address
  | organization
  | organizationAddress
  deriving DecidableEq, Repr

namespace ProfileProperty

/-- The properties in the order in which they are declared. -/
def all : List ProfileProperty :=
  [lastName, firstName, middleName, certificateNumber, email, phone, address, organization,
    organizationAddress]

/-- The key of a property. -/
def key : ProfileProperty → Text
  | lastName => "last_name"
  | firstName => "first_name"
  | middleName => "middle_name"
  | certificateNumber => "certificate_number"
  | email => "email"
  | phone => "phone"
  | address => "address"
  | organization => "organization"
  | organizationAddress => "organization_address"

/-- The codes of the fields that are prefilled, each with its property. -/
def prefilled : List (Text × ProfileProperty) :=
  [("FIO1", lastName), ("FIO2", firstName), ("FIO3", middleName), ("CertN", certificateNumber),
    ("Organization", organization), ("Phone", phone), ("Email", email),
    ("Address", organizationAddress)]

end ProfileProperty

/-- A profile: the text of each property that is known. -/
structure Profile where
  get? : ProfileProperty → Option Text

namespace Profile

/-- The values with which a profile prefills a form. -/
def values (profile : Profile) : Table Text :=
  ProfileProperty.prefilled.map fun entry => (entry.1, (profile.get? entry.2).getD [])

/-- What is wrong with one property of a profile given as JSON. -/
def problem? (members : Table Json.Value) (property : ProfileProperty) : Option Schema.Problem :=
  match members.get? property.key with
  | none | some .null | some (.string _) => none
  | some _ => some ⟨[.key property.key], .stringType⟩

/-- Reads a profile given as JSON; other members are ignored. -/
def ofJson (value : Json.Value) : Except (List Schema.Problem) Profile :=
  match value with
  | .object members =>
    match ProfileProperty.all.filterMap (problem? members) with
    | [] => .ok ⟨fun property =>
        match Table.get? property.key members with
        | some (.string text) => some text
        | _ => none⟩
    | problems => .error problems
  | _ => .error [⟨[], .modelType⟩]

end Profile

end FormFill
