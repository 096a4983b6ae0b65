/-!
# Settings

The settings of a run: how identifiers are shortened, how many workers a run may use, and which
character separates the cells of a fact file.
-/

namespace ProgramFacts

/-- How identifiers are made. -/
structure EncoderSettings where
  /-- The greatest length at which a string constant is its own identifier. -/
  stringHashThreshold : Nat
  /-- The greatest length at which a method signature is its own identifier. -/
  signatureHashThreshold : Nat
  /-- Whether string constants that are empty or padded with blanks are quoted. -/
  quotePaddedStrings : Bool
  deriving DecidableEq, Repr

/-- How a run is scheduled. -/
structure GeneratorSettings where
  /-- The number of workers; zero leaves the choice to the run. -/
  workers : Nat
  deriving DecidableEq, Repr

/-- How fact files are written. -/
structure OutputSettings where
  separator : Char
  deriving DecidableEq, Repr

/-- All settings of a run. -/
structure Settings where
  encoder : EncoderSettings
  generator : GeneratorSettings
  output : OutputSettings
  deriving DecidableEq, Repr

/-- The standard way to make identifiers. -/
def EncoderSettings.standard : EncoderSettings :=
  ⟨256, 1024, false⟩

def GeneratorSettings.standard : GeneratorSettings :=
  ⟨0⟩

/-- The standard form of fact files. -/
def OutputSettings.standard : OutputSettings :=
  ⟨'\t'⟩

def Settings.standard : Settings :=
  ⟨.standard, .standard, .standard⟩

end ProgramFacts
