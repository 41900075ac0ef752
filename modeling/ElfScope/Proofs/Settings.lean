import ElfScope.Settings

/-!
# How settings are found

The configuration of a run is looked up once, by its path alone (`Settings.value_resolve`), and only
then do the arguments have their say. A configuration that cannot be used is told by its path
(`Settings.path_of_configuration`).
-/

namespace ElfScope

/-- The configuration file that an error is about. -/
def ConfigurationError.path : ConfigurationError → String
  | .unreadable path _ | .malformed path _ => path

namespace Settings

/-- The configuration at a path, if one is given, or why it cannot be used. -/
def configuration (files : Files) : Option String → Except ConfigurationError Configuration
  | none => .ok .empty
  | some path => (loadConfiguration files path).value

/-- Settings are what the arguments and the configuration give. -/
theorem value_resolve (files : Files) (environment : Option String) (arguments : ToolArguments) :
    (resolve files environment arguments).value
      = (configuration files (configurationPath? arguments environment)).map (merge arguments) := by
  unfold resolve
  cases configurationPath? arguments environment <;> rfl

/-- A configuration that cannot be used has a path. -/
theorem path_of_configuration {files : Files} {path : Option String} {error : ConfigurationError}
    (h : configuration files path = .error error) : path = some error.path := by
  cases path with
  | none => cases h
  | some path =>
    rw [configuration, loadConfiguration] at h
    cases htext : files.text path with
    | error fault =>
      rw [htext] at h
      cases h
      rfl
    | ok text =>
      rw [htext] at h
      dsimp only at h
      cases hparse : Configuration.parse? text with
      | none =>
        rw [hparse] at h
        cases h
        rfl
      | some configuration =>
        rw [hparse] at h
        cases h

variable {files : Files} {environment : Option String} {arguments : ToolArguments}

/-- Whatever the configuration, the file is the one that the arguments name. -/
theorem file_of_resolve {settings : Settings}
    (h : (resolve files environment arguments).value = .ok settings) :
    settings.file = arguments.file := by
  rw [value_resolve] at h
  cases hconfiguration : configuration files (configurationPath? arguments environment) with
  | error error =>
    rw [hconfiguration] at h
    cases h
  | ok configuration =>
    rw [hconfiguration] at h
    cases h
    rfl

/-- A configuration that cannot be used is the one that the run consults. -/
theorem path_of_resolve {error : ConfigurationError}
    (h : (resolve files environment arguments).value = .error error) :
    configurationPath? arguments environment = some error.path := by
  rw [value_resolve] at h
  cases hconfiguration : configuration files (configurationPath? arguments environment) with
  | error fault =>
    rw [hconfiguration] at h
    cases h
    exact path_of_configuration hconfiguration
  | ok configuration =>
    rw [hconfiguration] at h
    cases h

end Settings

end ElfScope
