import ProgramFacts.Settings.Basic

/-!
# Checking settings

Settings are refused if a threshold is zero or if the separator could not be told from what is
escaped in fact files.  Other unusual settings only give warnings.
-/

namespace ProgramFacts

/-- Why settings are refused. -/
inductive SettingsError where
  | zeroStringThreshold
  | zeroSignatureThreshold
  /-- A separator that is a line break or the escape character. -/
  | corruptingSeparator (separator : Char)
  deriving DecidableEq, Repr

/-- A character in single quotes, with line breaks and backslashes escaped. -/
def quotedSeparator (c : Char) : String :=
  if c = '\n' then "'\\n'"
  else if c = '\r' then "'\\r'"
  else if c = '\\' then "'\\\\'"
  else "'" ++ c.toString ++ "'"

/-- The wording of a refusal. -/
def SettingsError.message : SettingsError → String
  | zeroStringThreshold => "encoder.string_hash_threshold must be greater than zero"
  | zeroSignatureThreshold => "encoder.signature_hash_threshold must be greater than zero"
  | corruptingSeparator c => "output.separator " ++ quotedSeparator c ++ " would corrupt fact files"

/-- What is unusual about settings. -/
inductive SettingsWarning where
  | unusualThresholds
  | manyWorkers (workers : Nat)
  deriving DecidableEq, Repr

/-- The wording of a warning, given the number of processors as text. -/
def SettingsWarning.message (processors : String) : SettingsWarning → String
  | unusualThresholds => "non-default hash thresholds change identifiers seen by downstream rules"
  | manyWorkers workers =>
    "generator.workers = " ++ workers.repr ++ " is far above the " ++ processors ++
      " available CPUs"

namespace Settings

/-- Whether a separator could not be told from what is escaped in fact files. -/
def corrupts (separator : Char) : Bool :=
  separator = '\n' || separator = '\r' || separator = '\\'

/-- Refuses settings, or answers what is unusual about them on a machine of so many processors. -/
def check (processors : Nat) (s : Settings) : Except SettingsError (List SettingsWarning) :=
  if s.encoder.stringHashThreshold = 0 then
    .error .zeroStringThreshold
  else if s.encoder.signatureHashThreshold = 0 then
    .error .zeroSignatureThreshold
  else if corrupts s.output.separator then
    .error (.corruptingSeparator s.output.separator)
  else
    let thresholds :=
      if s.encoder.stringHashThreshold ≠ EncoderSettings.standard.stringHashThreshold ∨
          s.encoder.signatureHashThreshold ≠ EncoderSettings.standard.signatureHashThreshold then
        [.unusualThresholds]
      else
        []
    let workers :=
      if processors * 4 < s.generator.workers then [.manyWorkers s.generator.workers] else []
    .ok (thresholds ++ workers)

end Settings
end ProgramFacts
