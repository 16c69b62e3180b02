import FormFill.Text.Integer

/-!
# Settings of the service

Two settings come as texts, which may be absent: whether the description of the service is shown, and
how many bytes an upload may have.
-/

namespace FormFill.Service

/-- The number of bytes that an upload may have unless the setting says otherwise. -/
def defaultUploadLimit : Nat := 10 * 1024 * 1024

/-- The texts that switch the description off. -/
def offTexts : List Text := ["0".toList, "false".toList, "off".toList, "no".toList]

/-- Whether the description of the service is shown: always, unless the setting is one of the texts that
switch it off, in capital or small letters and with or without blanks around it. -/
def metaEnabled (setting : Option Text) : Bool :=
  match setting with
  | some text => !offTexts.contains ((Text.trim text).map Char.toLower)
  | none => true

/-- The number of bytes that an upload may have: the setting, if it is a positive whole number. -/
def uploadLimit (setting : Option Text) : Nat :=
  match setting.map Text.readInteger with
  | some (.ok limit) => if 0 < limit then limit.toNat else defaultUploadLimit
  | _ => defaultUploadLimit

end FormFill.Service
