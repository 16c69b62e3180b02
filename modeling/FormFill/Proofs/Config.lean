import FormFill.Command.Run
import FormFill.Proofs.Yaml.Datum

/-!
# Faults of configurations

Reading a configuration comes to its settings or to a fault that names the place it should come from, with
two exceptions: bytes that are no text, and values that do not denote what they should, among them mappings
that stand for a text without end. Their faults say nothing of the place. All others do, whether the file is
missing, breaks the rules, holds no mapping, or has settings that do not fit the schema.
-/

namespace FormFill

namespace Config

/-- A fault that lies in the configuration as such, and whose wording names the place it comes from. -/
def Fault.Names (place : Text) (fault : Fault) : Prop :=
  fault.isInvalid = true ∧ place <:+: fault.message

/-- A fault of reading bytes that is handed on as it is, wherever the bytes come from. -/
inductive Escapes (bytes : List UInt8) : Fault → Prop where
  | encoding {fault : Utf8.Fault} (hdecode : Utf8.decode bytes = .error fault) :
    Escapes bytes (.encoding fault)
  | value {text : Text} {fault : Yaml.Fault} (hdecode : Utf8.decode bytes = .ok text)
    (hread : Yaml.read (Text.withLineFeeds text) = .error fault) (hfault : fault ≠ .malformed) :
    Escapes bytes (.value fault)

variable {place text : Text} {bytes : List UInt8} {fault : Fault}

theorem names_of_message {opening : Text} (hinvalid : fault.isInvalid = true)
    (hmessage : fault.message = opening ++ place) : fault.Names place :=
  ⟨hinvalid, hmessage ▸ (List.suffix_append opening place).isInfix⟩

/-- No wording names every place: there are places with longer texts. -/
theorem exists_not_names (fault : Fault) : ∃ place, ¬fault.Names place := by
  refine ⟨List.replicate (fault.message.length + 1) 'a', fun hnames => ?_⟩
  have hlength := hnames.2.length_le
  simp at hlength

/-- A text that is not a configuration comes to a fault that names the place, or is a document whose fault
is handed on. -/
theorem names_of_ofText (h : ofText place text = .error fault) :
    fault.Names place ∨
      ∃ other, Yaml.read text = .error other ∧ other ≠ .malformed ∧ fault = .value other := by
  unfold ofText at h
  split at h
  next =>
    cases h
    exact Or.inl (names_of_message rfl rfl)
  next other hfault hread =>
    cases h
    exact Or.inr ⟨other, hread, hfault, rfl⟩
  next => cases h
  next entries _ =>
    split at h
    next => cases h
    next problems _ =>
      cases h
      exact Or.inl (names_of_message rfl rfl)
  next =>
    cases h
    exact Or.inl (names_of_message rfl rfl)

/-- Bytes that are not a configuration come to a fault that names the place or escapes. -/
theorem names_or_escapes (h : ofBytes place bytes = .error fault) :
    fault.Names place ∨ Escapes bytes fault := by
  unfold ofBytes at h
  split at h
  next text hdecode =>
    rcases names_of_ofText h with hnames | ⟨other, hread, hfault, rfl⟩
    · exact Or.inl hnames
    · exact Or.inr (.value hdecode hread hfault)
  next other hdecode =>
    cases h
    exact Or.inr (.encoding hdecode)

/-- What escapes does so at every place. -/
theorem Escapes.ofBytes_eq (h : Escapes bytes fault) (place : Text) :
    ofBytes place bytes = .error fault := by
  cases h with
  | encoding hdecode => simp only [ofBytes, hdecode]
  | value hdecode hread hfault => simp only [ofBytes, ofText, hdecode, hread]

end Config

namespace Command

/-- A reading of the configuration that comes to its settings, or to a fault of the configuration that names
the place it comes from. -/
def Settles (place : Text) (reading : Except Fault Config) : Prop :=
  (∃ config, reading = .ok config) ∨
    ∃ fault : Config.Fault, reading = .error (.config fault) ∧ fault.Names place

/-- A fault that escapes is what the reading comes to. -/
theorem readConfig_of_escapes {disk : Disk} {location : Location} {bytes : List UInt8}
    {fault : Config.Fault} (hread : disk.read location = .ok bytes) (h : Config.Escapes bytes fault) :
    readConfig disk (some location) = .error (.config fault) := by
  simp only [readConfig, hread, h.ofBytes_eq]

/-- What reading the configuration at a location comes to. -/
structure ReadsConfig (disk : Disk) (location : Location) : Prop where
  /-- A file that is missing is named. -/
  missing : ∀ fault, disk.read location = .error fault → fault.problem = .missing →
    ∃ named : Config.Fault,
      readConfig disk (some location) = .error (.config named) ∧ named.Names location.text
  /-- So is a file whose bytes are no configuration, unless a fault escapes. -/
  settles : ∀ bytes, disk.read location = .ok bytes → (∀ fault, ¬Config.Escapes bytes fault) →
    Settles location.text (readConfig disk (some location))
  /-- A fault that escapes is what the reading comes to. It is the same at every location, and it does not
  name all of them. -/
  escapes : ∀ bytes fault, disk.read location = .ok bytes → Config.Escapes bytes fault →
    readConfig disk (some location) = .error (.config fault) ∧ ∃ place, ¬fault.Names place
  /-- What a fault of a value comes from stands in the document. -/
  standsIn : ∀ bytes text fault, Utf8.decode bytes = .ok text →
    Config.Escapes bytes (.value fault) → Yaml.StandsIn (Text.withLineFeeds text) fault

/-- A date that does not exist is such a value. -/
example : Config.ofBytes "engine.yaml" (Utf8.encode "excluded_codes: [2024-13-01]\n".toList) =
    .error (.value (.impossibleMoment .month)) := by
  decide +kernel

/-- So is a mapping that stands for itself. -/
example : Config.ofBytes "engine.yaml" (Utf8.encode "&a !!str \x7b=: *a\x7d\n".toList) =
    .error (.value .endlessText) := by
  decide +kernel

/-- A file that holds a byte that is no text. -/
def undecodable : Disk := ⟨[(["engine.yaml".toList], .file [0xFF])]⟩

end Command

end FormFill
